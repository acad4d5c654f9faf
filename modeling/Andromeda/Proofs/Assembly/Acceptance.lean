import Andromeda.Proofs.Assembly.Step
import Mathlib.Data.Finset.Card
import Mathlib.Data.Int.Interval
import Mathlib.Data.List.Nodup

namespace Andromeda

def imagePiece (header : Header) (blocks : List Bytes) (index : Nat) : Bytes :=
  match newest blocks index with
  | some block => (block.drop 16).take (min (header.length.toNat - index * 256) 256)
  | none => []

def imageData (header : Header) (blocks : List Bytes) : Bytes :=
  (List.range header.blockCount.toNat).flatMap (imagePiece header blocks)

/-- Blocks of one image, as far as an assembly looks at them before the last one is in. -/
structure Uniform (limits : Limits) (header : Header) (blocks : List Bytes) : Prop where
  size : ∀ block ∈ blocks, block.length = 272
  agree : ∀ block ∈ blocks, (Header.read block).Repeats header
  fits : header.length ≤ limits.capacity
  count : header.blockCount = (header.length + 255) / 256
  index : ∀ block ∈ blocks, (Header.read block).blockIndex < header.blockCount
  once : limits.strict = true → (blocks.map fun block => (Header.read block).blockIndex).Nodup

/-- Blocks that make up an image: none is missing and the data has the checksum they name. -/
structure Deliverable (limits : Limits) (header : Header) (blocks : List Bytes) : Prop
    extends Uniform limits header blocks where
  nonempty : blocks ≠ []
  covers : ∀ index : Nat, index < header.blockCount →
    ∃ block ∈ blocks, (Header.read block).blockIndex = index
  checksum : total (imageData header blocks).values % 2 ^ 32 = header.checksum

theorem leads_iff {header : Header} {limits : Limits} :
    header.Leads limits ↔
      header.length ≤ limits.capacity ∧ header.blockCount = (header.length + 255) / 256 := by
  constructor
  · intro leads
    rcases leads with ⟨length, count⟩
    exact ⟨length, by rw [count, pieceCount_eq]⟩
  · intro bounds
    rcases bounds with ⟨length, count⟩
    exact ⟨length, by rw [count, pieceCount_eq]⟩

theorem fresh_iff {taken : List Bytes} {block : Bytes} :
    newest taken (Header.read block).blockIndex.toNat = none ↔
      (Header.read block).blockIndex ∉ taken.map fun block => (Header.read block).blockIndex := by
  rw [newest_eq_none_iff, Header.read_index]
  simp

theorem nodup_index_concat {taken : List Bytes} {block : Bytes} :
    ((taken ++ [block]).map fun block => (Header.read block).blockIndex).Nodup ↔
      (Header.read block).blockIndex ∉ (taken.map fun block => (Header.read block).blockIndex) ∧
      (taken.map fun block => (Header.read block).blockIndex).Nodup := by
  rw [List.map_append, List.map_singleton, ← List.concat_eq_append, List.nodup_concat]

theorem length_repeatsAfter (blocks : List Bytes) :
    (repeatsAfter [] blocks).length +
        (blocks.map fun block => (Header.read block).blockIndex).toFinset.card =
      blocks.length := by
  induction blocks using List.reverseRecOn with
  | nil => rfl
  | append_singleton taken block ih =>
      rw [repeatsAfter_concat, List.nil_append, List.map_append, List.map_singleton,
        List.toFinset_append, List.toFinset_cons, List.toFinset_nil, insert_empty_eq,
        Finset.union_singleton, List.length_append, List.length_append, List.length_singleton]
      cases found : newest taken (Header.read block).blockIndex.toNat with
      | none =>
          have new : (Header.read block).blockIndex ∉
              (taken.map fun block => (Header.read block).blockIndex).toFinset := by
            rw [List.mem_toFinset]
            exact fresh_iff.mp found
          rw [Finset.card_insert_of_notMem new]
          simp only [Option.isSome_none, Bool.false_eq_true, if_false, List.length_nil]
          omega
      | some previous =>
          have old : (Header.read block).blockIndex ∈
              (taken.map fun block => (Header.read block).blockIndex).toFinset := by
            by_contra new
            rw [List.mem_toFinset] at new
            rw [fresh_iff.mpr new] at found
            cases found
          rw [Finset.insert_eq_of_mem old]
          simp only [Option.isSome_some, if_true, List.length_singleton]
          omega

theorem card_of_covers {indexes : List Int} {count : Int}
    (inside : ∀ index ∈ indexes, 0 ≤ index ∧ index < count)
    (all : ∀ index : Nat, index < count → (index : Int) ∈ indexes) :
    indexes.toFinset.card = count.toNat := by
  have whole : indexes.toFinset = Finset.Ico 0 count := by
    ext index
    rw [List.mem_toFinset, Finset.mem_Ico]
    constructor
    · exact inside index
    · intro bounds
      rcases Int.eq_ofNat_of_zero_le bounds.1 with ⟨place, rfl⟩
      exact all place bounds.2
  rw [whole, Int.card_Ico, Int.sub_zero]

theorem uniform_concat {limits : Limits} {header : Header} {taken : List Bytes} {block : Bytes} :
    Uniform limits header (taken ++ [block]) ↔
      Uniform limits header taken ∧ block.length = 272 ∧ (Header.read block).Repeats header ∧
      (Header.read block).blockIndex < header.blockCount ∧
      (limits.strict = true → newest taken (Header.read block).blockIndex.toNat = none) := by
  have last : block ∈ taken ++ [block] := by simp
  constructor
  · intro uniform
    rcases uniform with ⟨size, agree, fits, count, index, once⟩
    refine ⟨⟨?_, ?_, fits, count, ?_, ?_⟩, size block last, agree block last, index block last, ?_⟩
    · intro other member
      apply size other
      exact List.mem_append_left _ member
    · intro other member
      apply agree other
      exact List.mem_append_left _ member
    · intro other member
      apply index other
      exact List.mem_append_left _ member
    · intro strict
      exact (nodup_index_concat.mp (once strict)).2
    · intro strict
      exact fresh_iff.mpr (nodup_index_concat.mp (once strict)).1
  · intro parts
    rcases parts with ⟨⟨size, agree, fits, count, index, once⟩, size', agree', index', fresh⟩
    have both {P : Bytes → Prop} (before : ∀ other ∈ taken, P other) (this : P block) :
        ∀ other ∈ taken ++ [block], P other := by
      intro other member
      rcases List.mem_append.mp member with old | new
      · exact before other old
      · rw [List.mem_singleton.mp new]
        exact this
    refine ⟨both size size', both agree agree', fits, count, both index index', ?_⟩
    intro strict
    apply nodup_index_concat.mpr
    exact ⟨fresh_iff.mp (fresh strict), once strict⟩

/-- An assembly takes blocks as long as they are blocks of the image that the first one
announces. -/
theorem accepted_iff_uniform (limits : Limits) (first : Bytes) (rest : List Bytes) :
    Accepted limits (first :: rest) ↔ Uniform limits (Header.read first) (first :: rest) := by
  induction rest using List.reverseRecOn with
  | nil =>
      have single : Accepted limits [first] ↔ Accepted limits [] ∧ Admits limits [] first :=
        @accepted_concat limits [] first
      rw [single]
      constructor
      · intro accepted
        rcases accepted with ⟨_, size, leads, _, index, _⟩
        rcases leads_iff.mp (leads rfl) with ⟨fits, count⟩
        refine ⟨?_, ?_, fits, count, ?_, fun _ => List.nodup_singleton _⟩
        · exact List.forall_mem_singleton.mpr size
        · exact List.forall_mem_singleton.mpr ⟨rfl, rfl, rfl, rfl⟩
        · exact List.forall_mem_singleton.mpr index
      · intro uniform
        rcases uniform with ⟨size, agree, fits, count, index, _⟩
        simp only [List.forall_mem_singleton] at size agree index
        exact ⟨.start, size, fun _ => leads_iff.mpr ⟨fits, count⟩, by simp, index,
          fun _ => rfl⟩
  | append_singleton rest block ih =>
      rw [← List.cons_append, accepted_concat, ih, uniform_concat]
      constructor
      · intro parts
        rcases parts with ⟨uniform, size, _, later, index, fresh⟩
        have repeated := later first rfl
        exact ⟨uniform, size, repeated, by rwa [repeated.blockCount] at index, fresh⟩
      · intro parts
        rcases parts with ⟨uniform, size, repeated, index, fresh⟩
        refine ⟨uniform, size, by simp, ?_, by rwa [repeated.blockCount], fresh⟩
        intro reference same
        cases same
        exact repeated

theorem usedData_eq {header : Header} {block : Bytes} {index : Nat}
    (repeated : (Header.read block).Repeats header)
    (place : (Header.read block).blockIndex = index) (least : 0 ≤ header.length) :
    usedData (Header.read block) block =
      (block.drop 16).take (min (header.length.toNat - index * 256) 256) := by
  have length : (header.length.toNat : Int) = header.length := Int.toNat_of_nonneg least
  rw [usedData, repeated.length, place, ← length, sliceLength_toNat]
  rfl

theorem stored_eq_imageData {limits : Limits} {header : Header} {blocks : List Bytes}
    (uniform : Uniform limits header blocks) (least : 0 ≤ header.length) :
    stored header.blockCount.toNat blocks = imageData header blocks := by
  apply List.flatMap_congr
  intro index _
  cases found : newest blocks index with
  | none => simp [slotOf, imagePiece, found]
  | some block =>
      rcases newest_mem found with ⟨member, place⟩
      rw [slotOf_of_newest found, imagePiece, found]
      exact usedData_eq (uniform.agree block member) place least

end Andromeda
