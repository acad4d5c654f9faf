import Andromeda.Proofs.Decoder.Frames
import Andromeda.Proofs.Frame.Concatenation
import Andromeda.Proofs.Update.Blocks

namespace Andromeda

/-- Noise that holds no frame of an update. It may hold the start of one, or its end. -/
def Quiet (noise : Bytes) : Prop :=
  ∀ frame, ¬ Occurs OpcodeSet.update.members noise frame

def Update.capture (update : Update) (lead : Bytes) (sent : List Sending) : Bytes :=
  lead ++ sent.flatMap fun sending =>
    update.send sending.filling sending.index ++ sending.noise

variable {update : Update} {limits : Limits} {lead : Bytes} {sent : List Sending}

theorem quiet_iff {noise : Bytes} : Quiet noise ↔ frames .update noise = [] := by
  rw [List.eq_nil_iff_forall_not_mem]
  apply forall_congr'
  intro frame
  rw [mem_frames_iff]

theorem ImageKind.accepts_opcode (kind : ImageKind) :
    OpcodeSet.update.accepts kind.opcode = true := by
  cases kind <;> rfl

theorem ImageKind.ofOpcode_opcode (kind : ImageKind) :
    ImageKind.ofOpcode? kind.opcode = some kind := by
  cases kind <;> rfl

theorem isData_pack (values : List Int) : ∀ byte ∈ pack values, isData byte = true := by
  intro byte member
  exact (isData_iff_toNat byte).mpr (pack_lt values byte member)

def Update.content (update : Update) (sending : Sending) : Int × Bytes :=
  (update.frame sending.filling 0 sending.index).content

theorem Update.frames_send (update : Update) (sending : Sending) :
    (frames .update (update.send sending.filling sending.index)).map Frame.content =
      [update.content sending] := by
  apply frames_toBytes update.kind.accepts_opcode
  rw [update.payload_frame]
  exact isData_pack _

theorem Update.contents_capture (update : Update) (lead : Bytes) (sent : List Sending)
    (silent : Quiet lead) (quiet : ∀ sending ∈ sent, Quiet sending.noise) :
    (frames .update (update.capture lead sent)).map Frame.content =
      sent.map update.content := by
  induction sent generalizing lead with
  | nil =>
      rw [Update.capture, List.flatMap_nil, List.append_nil, quiet_iff.mp silent]
      rfl
  | cons sending rest ih =>
      have later := ih sending.noise (quiet sending List.mem_cons_self)
        fun other member => quiet other (List.mem_cons_of_mem _ member)
      have parts : update.capture lead (sending :: rest) =
          lead ++ (update.send sending.filling sending.index ++
            update.capture sending.noise rest) := by
        simp only [Update.capture, List.flatMap_cons, List.append_assoc]
      have before : Parted lead (update.send sending.filling sending.index ++
          update.capture sending.noise rest) := parted_before_frame lead _ _
      have behind : Parted (update.send sending.filling sending.index)
          (update.capture sending.noise rest) := parted_behind_frame [] _ _
      calc
        (frames .update (update.capture lead (sending :: rest))).map Frame.content =
            (frames .update lead).map Frame.content ++
              (frames .update (update.send sending.filling sending.index ++
                update.capture sending.noise rest)).map Frame.content := by
          rw [parts, contents_append _ _ before]
        _ = (frames .update (update.send sending.filling sending.index)).map Frame.content ++
            (frames .update (update.capture sending.noise rest)).map Frame.content := by
          rw [quiet_iff.mp silent, contents_append _ _ behind]
          rfl
        _ = (sending :: rest).map update.content := by
          rw [update.frames_send, later]
          rfl

theorem Update.opcode_content (update : Update) (sending : Sending) :
    (update.content sending).1 = update.kind.opcode := rfl

theorem Update.unpack_content (update : Update) (sending : Sending) :
    unpack (update.content sending).2.values = update.sent sending := by
  rw [Update.content, Frame.content, update.payload_frame, unpack_pack_values, Update.sent]

theorem Update.blocksOf_contents (update : Update) (sent : List Sending) :
    blocksOf (sent.map update.content) = sent.map update.sent := by
  rw [blocksOf, List.map_map]
  apply List.map_congr_left
  intro sending _
  rw [Function.comp_apply, update.unpack_content]

theorem Update.contentsOf_capture (update : Update) (lead : Bytes) (sent : List Sending)
    (silent : Quiet lead) (quiet : ∀ sending ∈ sent, Quiet sending.noise) :
    contentsOf .update [update.capture lead sent] = sent.map update.content := by
  rw [contentsOf_single]
  exact update.contents_capture lead sent silent quiet

theorem Update.card_indexes (fits : update.Fits limits) (covered : update.Covered sent) :
    ((sent.map update.sent).map fun block => (Header.read block).blockIndex).toFinset.card =
      update.blockCount := by
  rw [update.indexes_sent fits covered.inside, ← Int.toNat_natCast update.blockCount]
  apply card_of_covers
  · intro index member
    rcases List.mem_map.mp member with ⟨sending, present, rfl⟩
    exact ⟨Int.natCast_nonneg _, Int.ofNat_lt.mpr (covered.inside sending present)⟩
  · intro index inside
    rcases covered.all index (Int.ofNat_lt.mp inside) with ⟨sending, present, same⟩
    exact List.mem_map.mpr ⟨sending, present, congrArg Nat.cast same⟩

theorem Update.decode_contents {buffers : List Bytes} (fits : update.Fits limits)
    (covered : update.Covered sent)
    (once : limits.strict = true → (sent.map Sending.index).Nodup)
    (same : contentsOf .update buffers = sent.map update.content) :
    ((Decoder.start limits .update).decode buffers).result = .ok update.image := by
  have deliverable := update.deliverable fits covered once
  rw [decode_contents_iff, same, update.blocksOf_contents]
  constructor
  · intro first left second right
    rcases List.mem_map.mp left with ⟨_, _, rfl⟩
    rcases List.mem_map.mp right with ⟨_, _, rfl⟩
    rw [update.opcode_content, update.opcode_content]
  · refine ⟨(update.header 0).image update.data, ?_, ?_⟩
    · apply (assemble_ok_iff ..).mpr
      exact ⟨update.header 0, deliverable, by rw [update.imageData_sent fits covered]⟩
    · cases sent with
      | nil => exact absurd rfl deliverable.nonempty
      | cons sending rest =>
          rw [List.map_cons, List.head?_cons, Option.bind_some, update.opcode_content,
            update.kind.ofOpcode_opcode]
          rfl

/-- A capture of an update gives its image back, however its blocks are filled up, ordered and
repeated and whatever stands between their frames. Each repeated block is warned about. -/
theorem Update.decode_capture (fits : update.Fits limits) (covered : update.Covered sent)
    (once : limits.strict = true → (sent.map Sending.index).Nodup) (silent : Quiet lead)
    (quiet : ∀ sending ∈ sent, Quiet sending.noise) :
    (∀ sending ∈ sent, (update.header sending.index).toBytes? =
        some (update.header sending.index).bytes) ∧
      ((Decoder.start limits .update).decode [update.capture lead sent]).result =
        .ok update.image ∧
      ((Decoder.start limits .update).decode [update.capture lead sent]).state.frameCount =
        sent.length ∧
      ((Decoder.start limits .update).decode
          [update.capture lead sent]).state.assembly.warnings.size +
        (update.data.length + 255) / 256 = sent.length := by
  have same := update.contentsOf_capture lead sent silent quiet
  have ok := update.decode_contents fits covered once same
  rcases decode_state ok with ⟨count, assembly⟩
  rw [same, List.length_map] at count
  rw [same, update.blocksOf_contents] at assembly
  refine ⟨?_, ok, count, ?_⟩
  · intro sending member
    apply fits.toBytes
    exact covered.inside sending member
  · have warnings (blocks : List Bytes) :
        (Assembly.after limits blocks).warnings.size = (repeatsAfter [] blocks).length := by
      cases blocks <;> rfl
    have repeated := length_repeatsAfter (sent.map update.sent)
    rw [update.card_indexes fits covered, List.length_map] at repeated
    rw [assembly, warnings, ← update.blockCount_eq]
    exact repeated

def oneByteOver : Update := ⟨List.replicate 257 0x07, 10203, .boot⟩

def disturbed : List Sending :=
  [⟨1, fun _ => 0xFF, [0xF0, 0x00, 0x00, 0x0E, 0x1D, 0x30]⟩, ⟨0, fun _ => 0x00, [0xF7]⟩,
    ⟨1, fun index => .ofNat index, []⟩]

theorem oneByteOver_length : oneByteOver.data.length = 257 := List.length_replicate

theorem oneByteOver_blockCount : oneByteOver.blockCount = 2 := by
  rw [Update.blockCount_eq, oneByteOver_length]

theorem oneByteOver_fits : oneByteOver.Fits .widest := by
  refine ⟨?_, ?_, by decide⟩
  · rw [oneByteOver_length]
    decide
  · rw [oneByteOver_length]
    decide

theorem disturbed_decode :
    oneByteOver.Fits .widest ∧ oneByteOver.Covered disturbed ∧
      (Limits.widest.strict = true → (disturbed.map Sending.index).Nodup) ∧
      Quiet [0xF0, 0x00] ∧ (∀ sending ∈ disturbed, Quiet sending.noise) ∧
      (∀ sending ∈ disturbed, (oneByteOver.header sending.index).toBytes? =
        some (oneByteOver.header sending.index).bytes) ∧
      ((Decoder.start .widest .update).decode
          [oneByteOver.capture [0xF0, 0x00] disturbed]).result = .ok oneByteOver.image ∧
      ((Decoder.start .widest .update).decode
          [oneByteOver.capture [0xF0, 0x00] disturbed]).state.frameCount = 3 ∧
      ((Decoder.start .widest .update).decode
          [oneByteOver.capture [0xF0, 0x00] disturbed]).state.assembly.warnings.size +
        (oneByteOver.data.length + 255) / 256 = 3 := by
  have covered : oneByteOver.Covered disturbed := by
    constructor
    · rw [oneByteOver_blockCount]
      decide
    · rw [oneByteOver_blockCount]
      decide
  have once : Limits.widest.strict = true → (disturbed.map Sending.index).Nodup := by decide
  have silent : Quiet [0xF0, 0x00] := quiet_iff.mpr rfl
  have quiet : ∀ sending ∈ disturbed, Quiet sending.noise := by
    simp only [quiet_iff]
    decide
  exact ⟨oneByteOver_fits, covered, once, silent, quiet,
    Update.decode_capture oneByteOver_fits covered once silent quiet⟩

end Andromeda
