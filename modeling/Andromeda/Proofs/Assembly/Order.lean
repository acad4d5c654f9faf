import Andromeda.Proofs.Assembly.Delivery

/-!
The order of the blocks and the copies that were replaced. Whether all blocks of a run are taken
is a matter of which blocks there are, and what they leave in the assembly is a matter of the
newest one for each index, as far as its bytes belong to the image.
-/

namespace Andromeda

def newestPiece (length : Int) (blocks : List Bytes) (index : Nat) : Option Bytes :=
  (newest blocks index).map fun block =>
    (block.drop headerLength).take (sliceLength index length).toNat

/-- Two runs of blocks of one image. For every index their newest blocks agree in what they give
to it, or neither run has one. -/
structure SameNewest (header : Header) (first second : List Bytes) : Prop where
  agree : ∀ block ∈ first ++ second, (Header.read block).Repeats header
  newest : ∀ index,
    newestPiece header.length first index = newestPiece header.length second index

/-- Two assemblies are as far with the same image. -/
structure Assembly.Resembles (first second : Assembly) : Prop where
  header : Option.Rel Header.Repeats first.header second.header
  slots : first.slots = second.slots
  consumed : first.consumed = second.consumed
  checksum : first.checksum = second.checksum
  received : first.received = second.received
  firstMissing : first.firstMissing = second.firstMissing
  finish : first.finish.result = second.finish.result

variable {limits : Limits} {header : Header} {first second : List Bytes}

theorem Uniform.of_perm (uniform : Uniform limits header first) (perm : first.Perm second) :
    Uniform limits header second := by
  rcases uniform with ⟨size, agree, fits, count, index, once⟩
  refine ⟨?_, ?_, fits, count, ?_, ?_⟩
  · intro block member
    exact size block (perm.mem_iff.mpr member)
  · intro block member
    exact agree block (perm.mem_iff.mpr member)
  · intro block member
    exact index block (perm.mem_iff.mpr member)
  · intro strict
    exact (perm.map _).nodup (once strict)

theorem accepted_iff_exists {blocks : List Bytes} (some : blocks ≠ []) :
    Accepted limits blocks ↔ ∃ header, Uniform limits header blocks := by
  rcases List.exists_cons_of_ne_nil some with ⟨head, rest, rfl⟩
  rw [accepted_iff_uniform]
  constructor
  · intro uniform
    exact ⟨_, uniform⟩
  · intro present
    rcases present with ⟨header, uniform⟩
    exact uniform.of_repeats (uniform.agree head List.mem_cons_self).symm

theorem Accepted.of_perm (accepted : Accepted limits first) (perm : first.Perm second) :
    Accepted limits second := by
  by_cases some : first = []
  · rw [some, List.nil_perm] at perm
    rw [perm]
    exact .start
  · rcases (accepted_iff_exists some).mp accepted with ⟨header, uniform⟩
    have other : second ≠ [] := by
      rintro rfl
      exact some perm.eq_nil
    exact (accepted_iff_exists other).mpr ⟨header, uniform.of_perm perm⟩

theorem slotOf_eq_newestPiece {blocks : List Bytes}
    (agree : ∀ block ∈ blocks, (Header.read block).Repeats header) :
    slotOf blocks = newestPiece header.length blocks := by
  funext index
  cases found : newest blocks index with
  | none => rw [slotOf_of_fresh found, newestPiece, found, Option.map_none]
  | some block =>
      rcases newest_mem found with ⟨member, place⟩
      rw [slotOf_of_newest found, newestPiece, found, Option.map_some, usedData, place,
        (agree block member).length]

theorem newestPiece_of_mem {blocks : List Bytes} {block : Bytes} (length : Int)
    (member : block ∈ blocks) :
    newestPiece length blocks (Header.read block).blockIndex.toNat ≠ none := by
  intro missing
  have none := Option.map_eq_none_iff.mp missing
  exact (newest_eq_none_iff ..).mp none block member (Header.read_index block).symm

theorem image_congr {one other : Assembly}
    (header : Option.Rel Header.Repeats one.header other.header) (slots : one.slots = other.slots)
    (checksum : one.checksum = other.checksum) :
    one.firstMissing = other.firstMissing ∧ one.image = other.image := by
  generalize recorded : one.header = reference at header
  generalize repeated : other.header = copy at header
  cases header with
  | none => simp [Assembly.image, Assembly.firstMissing, recorded, repeated]
  | some same =>
      have missing : one.firstMissing = other.firstMissing := by
        simp only [Assembly.firstMissing, recorded, repeated, slots]
      refine ⟨missing, ?_⟩
      cases gap : other.firstMissing with
      | some index => simp only [Assembly.image, missing, gap]
      | none =>
          simp only [Assembly.image, missing, gap, recorded, repeated, slots, checksum,
            same.version, same.checksum, same.length, same.blockCount]

theorem holding_resembles {reference copy : Header} (repeated : reference.Repeats copy)
    (same : slotOf first = slotOf second) :
    (Assembly.holding limits reference first).Resembles (.holding limits copy second) := by
  have slots : (Assembly.holding limits reference first).slots =
      (Assembly.holding limits copy second).slots := by
    rw [Assembly.holding, Assembly.holding, same, repeated.blockCount]
  have data : stored reference.blockCount.toNat first = stored copy.blockCount.toNat second := by
    rw [stored, stored, same, repeated.blockCount]
  have checksum : (Assembly.holding limits reference first).checksum =
      (Assembly.holding limits copy second).checksum := by
    rw [Assembly.holding, Assembly.holding, data]
  rcases image_congr (.some repeated) slots checksum with ⟨missing, image⟩
  refine ⟨.some repeated, slots, ?_, checksum, ?_, missing, ?_⟩
  · rw [Assembly.holding, Assembly.holding, data]
  · rw [Assembly.received, Assembly.received, slots]
  · rw [finish_result rfl, finish_result rfl, image]

theorem after_resembles (same : SameNewest header first second) :
    (Assembly.after limits first).Resembles (.after limits second) := by
  rcases List.forall_mem_append.mp same.agree with ⟨left, right⟩
  cases first with
  | nil =>
      cases second with
      | nil => exact ⟨.none, rfl, rfl, rfl, rfl, rfl, rfl⟩
      | cons head rest =>
          have empty := same.newest (Header.read head).blockIndex.toNat
          exact absurd empty.symm (newestPiece_of_mem _ List.mem_cons_self)
  | cons head rest =>
      cases second with
      | nil =>
          have empty := same.newest (Header.read head).blockIndex.toNat
          exact absurd empty (newestPiece_of_mem _ List.mem_cons_self)
      | cons other others =>
          apply holding_resembles
          · exact (left head List.mem_cons_self).trans (right other List.mem_cons_self).symm
          · rw [slotOf_eq_newestPiece left, slotOf_eq_newestPiece right]
            exact funext same.newest

/-- Blocks that are taken in one order are taken in every order, and two runs that are taken
leave the same image in progress when their newest blocks agree. -/
theorem newest_blocks_decide (limits : Limits) :
    (∀ first second : List Bytes, first.Perm second →
      (((Assembly.start limits).addAll first).result = .ok () ↔
        ((Assembly.start limits).addAll second).result = .ok ())) ∧
    ∀ (header : Header) (first second : List Bytes),
      ((Assembly.start limits).addAll first).result = .ok () →
      ((Assembly.start limits).addAll second).result = .ok () →
      SameNewest header first second →
      ((Assembly.start limits).addAll first).state.Resembles
        ((Assembly.start limits).addAll second).state := by
  constructor
  · intro first second perm
    rw [(addAll_start limits first).1, (addAll_start limits second).1]
    constructor
    · intro accepted
      exact accepted.of_perm perm
    · intro accepted
      exact accepted.of_perm perm.symm
  · intro header first second left right same
    have before := (addAll_start limits first).1.mp left
    have behind := (addAll_start limits second).1.mp right
    rw [(addAll_start limits first).2 before, (addAll_start limits second).2 behind]
    exact after_resembles same

def oneByteHeader : Header := ⟨10203, 7, 1, 1, 0⟩

def oneByteBlock (byte padding : UInt8) : Bytes :=
  oneByteHeader.bytes ++ byte :: List.replicate 255 padding

theorem oneByteBlock_read (byte padding : UInt8) :
    Header.read (oneByteBlock byte padding) = oneByteHeader :=
  Header.read_bytes oneByteHeader (by decide) _

theorem oneByteBlock_length (byte padding : UInt8) :
    (oneByteBlock byte padding).length = 272 := by
  rw [oneByteBlock, List.length_append, Header.length_bytes, List.length_cons,
    List.length_replicate, headerLength]

theorem uniform_oneByteBlock (blocks : List Bytes)
    (known : ∀ block ∈ blocks, ∃ byte padding, block = oneByteBlock byte padding) :
    Uniform .widest oneByteHeader blocks := by
  refine ⟨?_, ?_, by decide, by decide, ?_, fun strict => by cases strict⟩
  · intro block member
    rcases known block member with ⟨byte, padding, rfl⟩
    exact oneByteBlock_length byte padding
  · intro block member
    rcases known block member with ⟨byte, padding, rfl⟩
    rw [oneByteBlock_read]
    exact ⟨rfl, rfl, rfl, rfl⟩
  · intro block member
    rcases known block member with ⟨byte, padding, rfl⟩
    rw [oneByteBlock_read]
    decide

theorem oneByteBlock_data (byte padding : UInt8) :
    (oneByteBlock byte padding).drop headerLength = byte :: List.replicate 255 padding :=
  List.drop_left' (Header.length_bytes _)

theorem newestPiece_oneByteBlock (padding : UInt8) (taken : List Bytes)
    (same : ∀ block ∈ taken, (Header.read block).blockIndex = 0) (index : Nat) :
    newestPiece oneByteHeader.length (taken ++ [oneByteBlock 7 padding]) index =
      if index = 0 then some [7] else none := by
  rw [newestPiece, newest_concat, oneByteBlock_read]
  by_cases first : index = 0
  · subst first
    have place : oneByteHeader.blockIndex = (0 : Nat) := rfl
    have size : (sliceLength (0 : Nat) oneByteHeader.length).toNat = 1 := by decide
    rw [if_pos place, if_pos rfl, Option.map_some, oneByteBlock_data, size]
    rfl
  · have other : oneByteHeader.blockIndex ≠ index := by
      intro equal
      exact first (Int.ofNat_inj.mp equal.symm)
    have missing : newest taken index = none := by
      rw [newest_eq_none_iff]
      intro block member
      rw [same block member]
      exact other
    rw [if_neg other, if_neg first, missing, Option.map_none]

theorem oneByteBlock_resembles :
    ((Assembly.start .widest).addAll [oneByteBlock 7 0x00]).result = .ok () ∧
      ((Assembly.start .widest).addAll [oneByteBlock 9 0x00, oneByteBlock 7 0xFF]).result =
        .ok () ∧
      SameNewest oneByteHeader [oneByteBlock 7 0x00]
        [oneByteBlock 9 0x00, oneByteBlock 7 0xFF] ∧
      ((Assembly.start .widest).addAll [oneByteBlock 7 0x00]).state.Resembles
        ((Assembly.start .widest).addAll [oneByteBlock 9 0x00, oneByteBlock 7 0xFF]).state := by
  have single := uniform_oneByteBlock [oneByteBlock 7 0x00] (by simp)
  have double := uniform_oneByteBlock [oneByteBlock 9 0x00, oneByteBlock 7 0xFF] (by simp)
  have left := (addAll_start .widest [oneByteBlock 7 0x00]).1.mpr
    ((accepted_iff_exists (by simp)).mpr ⟨_, single⟩)
  have right := (addAll_start .widest [oneByteBlock 9 0x00, oneByteBlock 7 0xFF]).1.mpr
    ((accepted_iff_exists (by simp)).mpr ⟨_, double⟩)
  have same : SameNewest oneByteHeader [oneByteBlock 7 0x00]
      [oneByteBlock 9 0x00, oneByteBlock 7 0xFF] := by
    refine ⟨List.forall_mem_append.mpr ⟨single.agree, double.agree⟩, ?_⟩
    intro index
    have once := newestPiece_oneByteBlock 0x00 [] (by simp) index
    have again := newestPiece_oneByteBlock 0xFF [oneByteBlock 9 0x00]
      (by simp [oneByteBlock_read, oneByteHeader]) index
    exact once.trans again.symm
  exact ⟨left, right, same, (newest_blocks_decide .widest).2 _ _ _ left right same⟩

end Andromeda
