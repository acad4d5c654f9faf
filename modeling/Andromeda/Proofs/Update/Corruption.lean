import Andromeda.Proofs.Checksum
import Andromeda.Proofs.Packing.Replacement
import Andromeda.Proofs.Update.Alteration

/-!
One byte of an update replaced on the way. If the decoder still gives an image, every block is
there with the header it was sent with, and the checksum of the image leaves no room for another
byte in it.
-/

namespace Andromeda

theorem total_eq_of_checksum {front old new back : Bytes} (size : old.length ≤ 256)
    (other : new.length ≤ 256)
    (same : total (Bytes.values (front ++ (new ++ back))) % 2 ^ 32 =
      total (Bytes.values (front ++ (old ++ back))) % 2 ^ 32) :
    total new.values = total old.values := by
  have first := total_values_bounds old
  have second := total_values_bounds new
  simp only [Bytes.values_append, total_append] at same
  omega

theorem altered_data {block payload : Bytes} {place count : Nat} {byte : UInt8}
    (size : block.length = 272) (changed : payload = (pack block.values).set place byte)
    (data : ∀ packed ∈ payload, isData packed = true)
    (header : (unpack payload.values).take 16 = block.take 16) (inside : count ≤ 256)
    (same : total (Bytes.values (((unpack payload.values).drop 16).take count)) =
      total (Bytes.values ((block.drop 16).take count))) :
    ((unpack payload.values).drop 16).take count = (block.drop 16).take count := by
  have sum : total (Bytes.values ((unpack payload.values).take (16 + count))) =
      total (Bytes.values ((unpack (pack block.values).values).take (16 + count))) := by
    rw [unpack_pack_values, List.take_add, List.take_add, Bytes.values_append,
      Bytes.values_append, total_append, total_append, header, same]
  have small : ∀ packed ∈ payload, packed.toNat < 128 := by
    intro packed member
    exact (isData_iff_toNat packed).mp (data packed member)
  have long : 16 + count ≤ 7 * (pack block.values).length / 8 := by
    rw [length_pack, Bytes.length_values, size]
    omega
  rw [changed] at sum small header ⊢
  have whole := take_unpack_set (pack_lt block.values) small long sum
  rw [unpack_pack_values, List.take_add, List.take_add, header] at whole
  exact List.append_cancel_left whole

/-- One block and the other blocks sent before and behind it, with no index twice. -/
structure Update.Around (update : Update) (before : List Sending) (sending : Sending)
    (behind : List Sending) : Prop where
  own : sending.index < update.blockCount
  inside : ∀ other ∈ before ++ behind, other.index < update.blockCount
  distinct : ∀ other ∈ before ++ behind, other.index ≠ sending.index
  others : before ++ behind ≠ []

variable {update : Update} {limits : Limits} {before behind : List Sending} {sending : Sending}

theorem Update.around_of_perm (long : 257 ≤ update.data.length)
    (perm : ((before ++ sending :: behind).map Sending.index).Perm
      (List.range update.blockCount)) : update.Around before sending behind := by
  have count := update.blockCount_eq
  have inside : ∀ other ∈ before ++ sending :: behind, other.index < update.blockCount := by
    intro other member
    exact List.mem_range.mp (perm.mem_iff.mp (List.mem_map_of_mem member))
  have once := perm.nodup_iff.mpr List.nodup_range
  have size := perm.length_eq
  rw [List.map_append, List.map_cons, List.nodup_middle, ← List.map_append,
    List.nodup_cons] at once
  rw [List.length_map, List.length_range, List.length_append, List.length_cons] at size
  refine ⟨inside sending (by simp), ?_, ?_, ?_⟩
  · intro other member
    apply inside other
    rcases List.mem_append.mp member with first | last
    · exact List.mem_append_left _ first
    · apply List.mem_append_right
      exact List.mem_cons_of_mem _ last
  · intro other member same
    apply once.1
    rw [← same]
    exact List.mem_map_of_mem member
  · intro none
    have alone := congrArg List.length none
    rw [List.length_append, List.length_nil] at alone
    omega

def Update.exchanged (update : Update) (before : List Sending) (middle : List Bytes)
    (behind : List Sending) : List Bytes :=
  before.map update.sent ++ (middle ++ behind.map update.sent)

theorem Update.mem_exchanged {middle : List Bytes} {block : Bytes} :
    block ∈ update.exchanged before middle behind ↔
      block ∈ middle ∨ ∃ other ∈ before ++ behind, update.sent other = block := by
  rw [← List.mem_map, List.map_append]
  simp only [Update.exchanged, List.mem_append]
  tauto

theorem Update.Around.repeats (fits : update.Fits limits)
    (around : update.Around before sending behind) {middle : List Bytes} {header : Header}
    (deliverable : Deliverable limits header (update.exchanged before middle behind)) :
    header.Repeats (update.header 0) := by
  rcases List.exists_mem_of_ne_nil _ around.others with ⟨other, member⟩
  have agreed := deliverable.agree _ (update.mem_exchanged.mpr (.inr ⟨other, member, rfl⟩))
  rw [update.read_sent fits around.inside other member] at agreed
  exact ⟨agreed.version.symm, agreed.checksum.symm, agreed.length.symm, agreed.blockCount.symm⟩

theorem Update.Around.present (fits : update.Fits limits)
    (around : update.Around before sending behind) {middle : List Bytes}
    (deliverable : Deliverable limits (update.header 0)
      (update.exchanged before middle behind)) :
    ∃ block ∈ middle, (Header.read block).blockIndex = sending.index := by
  rcases deliverable.covers sending.index (Int.ofNat_lt.mpr around.own) with
    ⟨block, member, place⟩
  rcases update.mem_exchanged.mp member with new | old
  · exact ⟨block, new, place⟩
  · rcases old with ⟨other, present, rfl⟩
    rw [update.read_sent fits around.inside other present] at place
    exact absurd (Int.ofNat.inj place) (around.distinct other present)

theorem Update.Around.data_exchanged (fits : update.Fits limits)
    (around : update.Around before sending behind) {block : Bytes}
    (deliverable : Deliverable limits (update.header 0)
      (update.exchanged before [block] behind)) :
    ∃ front back, update.data = front ++ (update.slice sending.index ++ back) ∧
      imageData (update.header 0) (update.exchanged before [block] behind) =
        front ++ ((block.drop 16).take
          (min (update.data.length - sending.index * 256) 256) ++ back) := by
  have read := update.read_sent fits around.inside
  rcases around.present fits deliverable with ⟨_, single, own⟩
  rw [List.mem_singleton.mp single] at own
  have same : ∀ index < update.blockCount, index ≠ sending.index →
      imagePiece (update.header 0) (update.exchanged before [block] behind) index =
        update.slice index := by
    intro index inside different
    rcases deliverable.exists_piece inside with ⟨found, member, place, piece⟩
    rcases update.mem_exchanged.mp member with new | old
    · rw [List.mem_singleton.mp new, own] at place
      exact absurd (Int.ofNat.inj place).symm different
    · rcases old with ⟨other, present, rfl⟩
      rw [read other present] at place
      have equal : other.index = index := Int.ofNat.inj place
      rw [piece, ← equal]
      exact update.data_block other.filling other.index
  have exchanged : imagePiece (update.header 0) (update.exchanged before [block] behind)
      sending.index =
        (block.drop 16).take (min (update.data.length - sending.index * 256) 256) := by
    rcases deliverable.exists_piece around.own with ⟨found, member, place, piece⟩
    rcases update.mem_exchanged.mp member with new | old
    · rw [List.mem_singleton.mp new] at piece
      exact piece
    · rcases old with ⟨other, present, rfl⟩
      rw [read other present] at place
      exact absurd (Int.ofNat.inj place) (around.distinct other present)
  rcases flatMap_exchange around.own same with ⟨front, back, old, new⟩
  refine ⟨front, back, ?_, ?_⟩
  · rw [← old, update.flatMap_slice]
  · rw [← exchanged]
    exact new

theorem Update.Around.header_eq (fits : update.Fits limits)
    (around : update.Around before sending behind) {block : Bytes}
    (deliverable : Deliverable limits (update.header 0)
      (update.exchanged before [block] behind)) :
    block.take 16 = (update.sent sending).take 16 := by
  have member : block ∈ update.exchanged before [block] behind :=
    update.mem_exchanged.mpr (.inl List.mem_cons_self)
  have agreed := deliverable.agree block member
  rcases around.present fits deliverable with ⟨_, single, own⟩
  rw [List.mem_singleton.mp single] at own
  have read : Header.read block = update.header sending.index := by
    rw [Header.mk.injEq]
    exact ⟨agreed.version, agreed.checksum, agreed.length, agreed.blockCount, own⟩
  have size := deliverable.size block member
  have length := update.length_block sending.filling sending.index
  have bytes := Header.bytes_read block (by rw [size, headerLength]; omega)
  have sent := Header.bytes_read (update.sent sending)
    (by rw [Update.sent, length, headerLength]; omega)
  rw [Update.sent, update.read_block fits _ around.own] at sent
  rw [read] at bytes
  calc
    block.take 16 = (update.header sending.index).bytes := bytes.symm
    _ = (update.sent sending).take 16 := sent

theorem Update.Around.data_altered (fits : update.Fits limits)
    (around : update.Around before sending behind) {payload : Bytes} {place : Nat} {byte : UInt8}
    (data : ∀ packed ∈ payload, isData packed = true)
    (changed : payload = (pack (update.sent sending).values).set place byte)
    (deliverable : Deliverable limits (update.header 0)
      (update.exchanged before [unpack payload.values] behind)) :
    imageData (update.header 0) (update.exchanged before [unpack payload.values] behind) =
      update.data := by
  have size := update.length_block sending.filling sending.index
  have slice := update.data_block sending.filling sending.index
  have header := around.header_eq fits deliverable
  rcases around.data_exchanged fits deliverable with ⟨front, back, sent, altered⟩
  have checksum := deliverable.checksum
  rw [altered] at checksum ⊢
  have long : (update.slice sending.index).length ≤ 256 := by
    rw [update.length_slice]
    omega
  have other : (((unpack payload.values).drop 16).take
      (min (update.data.length - sending.index * 256) 256)).length ≤ 256 := by
    rw [List.length_take]
    omega
  have whole : (update.header 0).checksum =
      total (Bytes.values (front ++ (update.slice sending.index ++ back))) % 2 ^ 32 := by
    rw [← sent, ← Checksum.add_zero, fits.checksum_eq]
    rfl
  have same := total_eq_of_checksum long other (checksum.trans whole)
  rw [← slice] at same
  have kept := altered_data size changed data header (by omega) same
  calc
    _ = front ++ (update.slice sending.index ++ back) := by rw [kept, slice]
    _ = update.data := sent.symm

theorem Update.Around.image_eq (fits : update.Fits limits)
    (around : update.Around before sending behind) {buffers : List Bytes} {spot : Nat}
    {byte : UInt8}
    (contents : contentsOf .update buffers = before.map update.content ++
      ((frames .update (update.altered sending spot byte)).map Frame.content ++
        behind.map update.content))
    {image : Image} (ok : ((Decoder.start limits .update).decode buffers).result = .ok image) :
    image = update.image := by
  have blocks : blocksOf (contentsOf .update buffers) = update.exchanged before
      ((frames .update (update.altered sending spot byte)).map Frame.block) behind := by
    rw [contents, blocksOf_append, blocksOf_append, blocksOf_map_content,
      update.blocksOf_contents, update.blocksOf_contents]
    rfl
  rcases decode_contents_iff.mp ok with ⟨same, plain, assembled, rfl⟩
  rw [blocks] at assembled
  rcases (assemble_ok_iff ..).mp assembled with ⟨header, delivered, rfl⟩
  have repeated := around.repeats fits delivered
  have deliverable := delivered.of_repeats repeated
  -- Without a block of the right size from the altered frame, its index would be missing.
  rcases around.present fits deliverable with ⟨block, member, _⟩
  rcases List.mem_map.mp member with ⟨frame, found, rfl⟩
  have size := deliverable.size _ (update.mem_exchanged.mpr (.inl member))
  rcases update.frames_altered found size with ⟨single, data, place, changed⟩
  have middle : (frames .update (update.altered sending spot byte)).map Frame.block =
      [unpack frame.payload.values] := by
    rw [← blocksOf_map_content, single]
    rfl
  rw [middle] at deliverable
  have kept := around.data_altered fits data changed deliverable
  -- The opcode of the altered frame is the one of any other frame.
  rcases List.exists_mem_of_ne_nil _ around.others with ⟨other, present⟩
  have sent : update.content other ∈ contentsOf .update buffers := by
    have mapped := List.mem_map_of_mem (f := update.content) present
    rw [List.map_append] at mapped
    rw [contents]
    rcases List.mem_append.mp mapped with first | last
    · exact List.mem_append_left _ first
    · apply List.mem_append_right
      exact List.mem_append_right _ last
  rw [head_opcode same sent, update.opcode_content, update.kind.ofOpcode_opcode,
    repeated.image_eq, repeated.imageData_eq, middle, kept]
  rfl

/-- One byte of an update replaced makes decoding fail, or changes nothing about the image. -/
theorem Update.decode_altered {sent : List Sending} (fits : update.Fits limits)
    (long : 257 ≤ update.data.length)
    (perm : (sent.map Sending.index).Perm (List.range update.blockCount)) (place : Nat)
    (byte : UInt8) :
    ((Decoder.start limits .update).decode [update.chain sent]).result = .ok update.image ∧
      ((∃ error, ((Decoder.start limits .update).decode
          [(update.chain sent).set place byte]).result = .error error) ∨
        ((Decoder.start limits .update).decode
          [(update.chain sent).set place byte]).result = .ok update.image) := by
  have covered : update.Covered sent := by
    constructor
    · intro sending member
      exact List.mem_range.mp (perm.mem_iff.mp (List.mem_map_of_mem member))
    · intro index inside
      exact List.mem_map.mp (perm.mem_iff.mpr (List.mem_range.mpr inside))
  have once := perm.nodup_iff.mpr List.nodup_range
  have same : contentsOf .update [update.chain sent] = sent.map update.content := by
    rw [contentsOf_single]
    exact update.contents_chain sent
  have ok := update.decode_contents fits covered (fun _ => once) same
  refine ⟨ok, ?_⟩
  by_cases inside : place < (update.chain sent).length
  · cases result : ((Decoder.start limits .update).decode
        [(update.chain sent).set place byte]).result with
    | error error => exact .inl ⟨error, rfl⟩
    | ok image =>
        rcases update.contents_altered sent place byte inside with
          ⟨before, sending, behind, spot, rfl, contents⟩
        have around := update.around_of_perm long perm
        rw [around.image_eq fits contents result]
        exact .inr rfl
  · rw [List.set_eq_of_length_le (Nat.le_of_not_lt inside)]
    exact .inr ok

def backwards : List Sending := [⟨1, fun _ => 0xFF, []⟩, ⟨0, fun _ => 0x00, []⟩]

theorem backwards_altered :
    oneByteOver.Fits .widest ∧ 257 ≤ oneByteOver.data.length ∧
      (backwards.map Sending.index).Perm (List.range oneByteOver.blockCount) ∧
      ((Decoder.start .widest .update).decode [oneByteOver.chain backwards]).result =
        .ok oneByteOver.image ∧
      ((∃ error, ((Decoder.start .widest .update).decode
          [(oneByteOver.chain backwards).set 25 0xF0]).result = .error error) ∨
        ((Decoder.start .widest .update).decode
          [(oneByteOver.chain backwards).set 25 0xF0]).result = .ok oneByteOver.image) := by
  have long : 257 ≤ oneByteOver.data.length := Nat.le_of_eq oneByteOver_length.symm
  have perm : (backwards.map Sending.index).Perm (List.range oneByteOver.blockCount) := by
    rw [oneByteOver_blockCount]
    decide
  exact ⟨oneByteOver_fits, long, perm, Update.decode_altered oneByteOver_fits long perm 25 0xF0⟩

end Andromeda
