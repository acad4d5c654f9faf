import Andromeda.Proofs.Decoder.Calls

namespace Andromeda

open Outcome

structure Image.MadeOf (image : Image) (limits : Limits) (opcodes : OpcodeSet)
    (built : List Frame) : Prop where
  some : built ≠ []
  blocks : ∃ plain, (Assembly.assemble limits (built.map Frame.block)).result = .ok plain ∧
    image = { plain with kind := image.kind }
  kind : ∀ frame ∈ built, image.kind = ImageKind.ofOpcode? frame.opcode
  update : opcodes = .update → image.kind ≠ none

/-- A call gets through some of its buffers and into the next one, up to a frame whose opcode is
the byte at an offset of that buffer. -/
structure Decoder.StopsIn (decoder : Decoder) (call : Decoder.Call) (offset actual : Int)
    (before : List Bytes) (data : Bytes) (front : List Frame) (frame : Frame) : Prop where
  buffers : ∃ after, call.buffers = before ++ data :: after
  examined : decoder.examined call = framesOf decoder.opcodes before ++ (front ++ [frame])
  found : front ++ [frame] <+: frames decoder.opcodes data
  names : offset = frame.opcodePosition ∧ actual = frame.opcode
  byte : ∃ (position : Nat) (byte : UInt8),
    offset = position ∧ data[position]? = some byte ∧ actual = byte.toNat

/-- One opcode for all the frames that a decoder adds, the opcode of the first one that it looked
at. -/
structure Decoder.OneOpcode (limits : Limits) (opcodes : OpcodeSet) (examined added : List Frame)
    (decoder : Decoder) : Prop where
  first : decoder.firstOpcode = examined.head?.map Frame.opcode
  stays : ∀ opcode ∈ decoder.firstOpcode, ∀ later, (decoder.run later).firstOpcode = some opcode
  kind : decoder.kind = decoder.firstOpcode.bind ImageKind.ofOpcode?
  same : ∀ frame ∈ added, decoder.firstOpcode = some frame.opcode
  holds : (Assembly.after limits (added.map Frame.block)).Keeps decoder.assembly
  image : ∀ call image, (decoder.call call).result = .ok (some image) →
    image.MadeOf limits opcodes (added ++ decoder.added call)
  refused : ∀ call offset expected actual,
    (decoder.call call).result = .error (.inconsistentOpcode offset expected actual) →
      (decoder.call call).state.firstOpcode = some expected ∧ actual ≠ expected ∧
      ∃ before data front frame, decoder.StopsIn call offset actual before data front frame

theorem examined_front (decoder : Decoder) (call : Decoder.Call) :
    decoder.examined call <+: framesOf decoder.opcodes call.buffers := by
  cases call <;> exact tried_front

theorem framesOf_split {opcodes : OpcodeSet} {buffers : List Bytes} {before after : List Frame}
    {frame : Frame} (split : framesOf opcodes buffers = before ++ frame :: after) :
    ∃ earlier data later front back, buffers = earlier ++ data :: later ∧
      before = framesOf opcodes earlier ++ front ∧
      frames opcodes data = front ++ frame :: back := by
  induction buffers generalizing before with
  | nil => simp [framesOf] at split
  | cons data buffers ih =>
      have further (rest : List Frame) (same : framesOf opcodes buffers = rest ++ frame :: after)
          (whole : before = frames opcodes data ++ rest) : ∃ earlier other later front back,
          data :: buffers = earlier ++ other :: later ∧
            before = framesOf opcodes earlier ++ front ∧
            frames opcodes other = front ++ frame :: back := by
        rcases ih same with ⟨earlier, other, later, front, back, rfl, rfl, inside⟩
        refine ⟨data :: earlier, other, later, front, back, rfl, ?_, inside⟩
        rw [whole, framesOf, framesOf, List.flatMap_cons, List.append_assoc]
      rw [framesOf, List.flatMap_cons] at split
      rcases List.append_eq_append_iff.mp split with
        ⟨rest, whole, same⟩ | ⟨rest, inside, same⟩
      · exact further rest same whole
      · cases rest with
        | nil => exact further [] same.symm (by simpa using inside.symm)
        | cons head back =>
            cases same
            exact ⟨[], data, buffers, before, back, rfl, rfl, inside⟩

section Governing

variable {limits : Limits} {opcodes : OpcodeSet} {examined added : List Frame} {decoder : Decoder}
  {error : DecodeError} {image : Image}

theorem examinedBy_listed (limits : Limits) (opcodes : OpcodeSet) (calls : List Decoder.Call) :
    ∀ frame ∈ (Decoder.start limits opcodes).examinedBy calls, frame.opcode ∈ opcodes.members := by
  induction calls using List.reverseRecOn with
  | nil => simp [Decoder.examinedBy]
  | append_singleton calls call ih =>
      intro frame member
      rw [examinedBy_append] at member
      rcases List.mem_append.mp member with before | last
      · exact ih frame before
      · simp only [Decoder.examinedBy, List.append_nil] at last
        have inside := (examined_front _ call).subset last
        rw [(took_run limits opcodes calls).opcodes] at inside
        rcases List.mem_flatMap.mp inside with ⟨data, _, found⟩
        exact ((mem_frames_iff opcodes data frame).mp found).opcode

theorem assemble_nothing (limits : Limits) (image : Image) :
    (Assembly.assemble limits []).result ≠ .ok image := by
  intro made
  cases made

theorem Decoder.RefusesFrame.stopsIn {stopped : Decoder} {call : Decoder.Call}
    {before : List Frame} {frame : Frame} {offset expected actual : Int}
    (looks : decoder.opcodes = opcodes)
    (refuses : decoder.RefusesFrame stopped (framesOf opcodes call.buffers)
      (decoder.examined call) before frame (.inconsistentOpcode offset expected actual)) :
    stopped.firstOpcode = some expected ∧ actual ≠ expected ∧
      ∃ earlier data front, decoder.StopsIn call offset actual earlier data front frame := by
  subst looks
  rcases withOpcode_error_iff.mp refuses.opcode with ⟨first, known, other, reads⟩
  cases reads
  rcases refuses.found with ⟨after, split⟩
  rcases framesOf_split split with ⟨earlier, data, later, front, back, buffers, rfl, inside⟩
  have occurs : Occurs decoder.opcodes.members data frame :=
    (mem_frames_iff ..).mp (by simp [inside])
  rcases occurs.opcode_byte with ⟨position, byte, place, stands, value⟩
  refine ⟨known, other, earlier, data, front, ⟨later, buffers⟩, ?_, ⟨back, ?_⟩, ⟨rfl, rfl⟩,
    position, byte, place, stands, value⟩
  · rw [refuses.examined, List.append_assoc]
  · rw [inside, List.append_assoc]
    rfl

theorem Decoder.Took.firstOpcode_of_added
    (took : Decoder.Took limits opcodes examined added decoder) (some : added ≠ []) :
    ∃ frame ∈ examined, decoder.firstOpcode = .some frame.opcode := by
  rcases List.exists_mem_of_ne_nil added some with ⟨frame, member⟩
  have known := took.same frame member
  rw [took.first] at known ⊢
  cases examined with
  | nil => cases known
  | cons first rest => exact ⟨first, List.mem_cons_self, rfl⟩

theorem firstOpcode_stays (history later : List Decoder.Call) {opcode : Int}
    (known : ((Decoder.start limits opcodes).run history).firstOpcode = some opcode) :
    (((Decoder.start limits opcodes).run history).run later).firstOpcode = some opcode := by
  have after := (took_run limits opcodes (history ++ later)).first
  rw [run_append, examinedBy_append] at after
  rw [(took_run limits opcodes history).first] at known
  cases looked : (Decoder.start limits opcodes).examinedBy history with
  | nil =>
      rw [looked] at known
      cases known
  | cons first rest =>
      rw [looked] at known after
      cases known
      exact after

theorem ofOpcode?_update : ∀ opcode ∈ OpcodeSet.update.members,
    ImageKind.ofOpcode? opcode ≠ none := by
  decide

theorem call_madeOf (history : List Decoder.Call) (call : Decoder.Call)
    (made : (((Decoder.start limits opcodes).run history).call call).result = .ok (some image)) :
    image.MadeOf limits opcodes ((Decoder.start limits opcodes).addedBy history ++
      ((Decoder.start limits opcodes).run history).added call) := by
  have took := took_run limits opcodes history
  have next := took.call call
  rcases took.call_image call made with ⟨plain, assembled, fields⟩
  have built : (Decoder.start limits opcodes).addedBy history ++
      ((Decoder.start limits opcodes).run history).added call ≠ [] := by
    intro nothing
    rw [nothing] at assembled
    exact assemble_nothing limits plain assembled
  have kind (opcode : Int)
      (known : (((Decoder.start limits opcodes).run history).call call).state.firstOpcode =
        some opcode) : image.kind = ImageKind.ofOpcode? opcode := by
    rw [fields]
    exact next.kind.trans (by rw [known]; rfl)
  refine ⟨built, ⟨plain, assembled, by rw [fields]⟩, ?_, ?_⟩
  · intro frame member
    exact kind frame.opcode (next.same frame member)
  · rintro rfl
    rcases next.firstOpcode_of_added built with ⟨frame, member, known⟩
    have listed := examinedBy_listed limits .update (history ++ [call]) frame
    rw [examinedBy_append, Decoder.examinedBy, Decoder.examinedBy, List.append_nil] at listed
    rw [kind frame.opcode known]
    exact ofOpcode?_update frame.opcode (listed member)

end Governing

/-- Whatever was asked of a decoder before, the opcode of the first frame that it looked at is the
one of all frames that it added, and a frame with another opcode is refused at its opcode byte. -/
theorem opcodes_unmixed (limits : Limits) (opcodes : OpcodeSet) (history : List Decoder.Call) :
    Decoder.OneOpcode limits opcodes ((Decoder.start limits opcodes).examinedBy history)
      ((Decoder.start limits opcodes).addedBy history)
      ((Decoder.start limits opcodes).run history) := by
  have took := took_run limits opcodes history
  refine ⟨took.first, ?_, took.kind, took.same, took.assembly.keeps, ?_, ?_⟩
  · intro opcode known later
    exact firstOpcode_stays history later known
  · intro call image made
    exact call_madeOf history call made
  · intro call offset expected actual failed
    rcases (took.call_error call failed).1 ⟨offset, expected, actual, rfl⟩ with
      ⟨before, frame, refuses⟩
    rcases refuses.stopsIn took.opcodes with ⟨known, other, earlier, data, front, stops⟩
    exact ⟨known, other, earlier, data, front, frame, stops⟩

example :
    (((Decoder.start .widest .update).run
      [.rawBlocks [[0xF0, 0x00, 0x00, 0x0E, 0x1D, 0x3F, 0xF7]]]).call
        (.feed [0xF8, 0xF0, 0x00, 0x00, 0x0E, 0x1D, 0x30, 0xF7])).result =
      .error (.inconsistentOpcode 6 0x3F 0x30) := by
  decide

end Andromeda
