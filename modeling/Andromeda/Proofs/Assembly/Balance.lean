import Andromeda.Proofs.Assembly.Calls
import Andromeda.Proofs.Checksum
import Mathlib.Algebra.Order.BigOperators.Group.List

/-!
The books of an assembly. Checksum, consumed bytes, position and warnings are kept up block by
block; whatever calls were made, they are what the data in the slots says, and the 32-bit word
of the checksum is never full.
-/

namespace Andromeda

def Assembly.held (assembly : Assembly) : Bytes := assembly.slots.toList.flatMap (·.getD [])

def Assembly.missing (assembly : Assembly) (header : Header) : List Nat :=
  (List.range header.blockCount.toNat).filter fun index => (assembly.slice index).isNone

structure Assembly.AccountsFor (assembly : Assembly) (header : Header) : Prop where
  capacity : header.length ≤ assembly.limits.capacity
  blockCount : header.blockCount = (header.length + 255) / 256
  few : header.blockCount ≤ 8192
  slice : ∀ index data, assembly.slice index = some data →
    (data.length : Int) = sliceLength index header.length
  length : assembly.consumed +
    ((assembly.missing header).map fun index : Nat => sliceLength index header.length).sum =
      header.length

/-- Data goes into a slot and what was there before goes out. The checksum is first reduced and
then raised by just their sums, neither below zero nor beyond its word. -/
structure Assembly.Exchanges (assembly : Assembly) (slot : Nat) (data : Bytes) : Prop where
  covered : total ((assembly.slice slot).getD []).values ≤ assembly.checksum
  removed : Checksum.remove assembly.checksum ((assembly.slice slot).getD []).values =
    assembly.checksum - total ((assembly.slice slot).getD []).values
  added : Checksum.add (assembly.checksum - total ((assembly.slice slot).getD []).values)
      data.values =
    assembly.checksum - total ((assembly.slice slot).getD []).values + total data.values

structure Assembly.Accurate (limits : Limits) (assembly : Assembly) : Prop where
  limits : assembly.limits = limits
  checksum : assembly.checksum = total assembly.held.values
  consumed : assembly.consumed = assembly.held.length
  position : assembly.position = 272 * ((assembly.received : Int) + assembly.warnings.size)
  header : ∀ header ∈ assembly.header, assembly.AccountsFor header

/-- The books are right, and putting a further block in place needs no help of the word that the
checksum is kept in. -/
structure Assembly.Balanced (limits : Limits) (assembly : Assembly) : Prop
    extends assembly.Accurate limits where
  exact : assembly.halted = none → ∀ block header admitted,
    Header.ofBlock block assembly.position = .ok header →
    assembly.withHeader header = .ok admitted →
    0 ≤ header.blockIndex → header.blockIndex < header.blockCount →
    admitted.Exchanges header.blockIndex.toNat (usedData header block)

theorem length_add_missing (slot : Nat → Option Bytes) (size : Nat → Int) (indexes : List Nat)
    (fills : ∀ index data, slot index = some data → (data.length : Int) = size index) :
    ((indexes.flatMap fun index => (slot index).getD []).length : Int) +
      ((indexes.filter fun index => (slot index).isNone).map size).sum =
        (indexes.map size).sum := by
  induction indexes with
  | nil => rfl
  | cons index indexes ih =>
      rw [List.flatMap_cons, List.length_append, List.map_cons, List.sum_cons, ← ih]
      cases present : slot index with
      | none =>
          simp only [List.filter_cons, present, Option.isNone_none, if_true, List.map_cons,
            List.sum_cons, Option.getD_none, List.length_nil]
          omega
      | some data =>
          have full := fills index data present
          simp only [List.filter_cons, present, Option.isNone_some, Bool.false_eq_true, if_false,
            Option.getD_some]
          omega

theorem length_usedData_le (header : Header) (block : Bytes) :
    (usedData header block).length ≤ 256 := by
  rw [usedData, List.length_take, sliceLength, blockDataLength]
  omega

section Holding

variable {limits : Limits} {header : Header} {blocks : List Bytes}

theorem holding_held (limits : Limits) (header : Header) (blocks : List Bytes) :
    (Assembly.holding limits header blocks).held = stored header.blockCount.toNat blocks := by
  simp only [Assembly.held, Assembly.holding, stored, List.flatMap_map]

theorem Uniform.slice (uniform : Uniform limits header blocks) (index : Nat) :
    (Assembly.holding limits header blocks).slice index = slotOf blocks index := by
  by_cases inside : index < header.blockCount.toNat
  · rw [Assembly.slice, getElem?_holding inside]
    rfl
  · have none : newest blocks index = none := by
      rw [newest_eq_none_iff]
      intro block member same
      have below := uniform.index block member
      omega
    have beyond : (Assembly.holding limits header blocks).slots.size ≤ index := by
      simpa [Assembly.holding] using inside
    rw [Assembly.slice, Array.getElem?_eq_none beyond, slotOf_of_fresh none]
    rfl

theorem Uniform.length_slotOf (uniform : Uniform limits header blocks)
    (least : 0 ≤ header.length) {index : Nat} {data : Bytes}
    (present : slotOf blocks index = some data) :
    (data.length : Int) = sliceLength index header.length := by
  rcases Option.map_eq_some_iff.mp present with ⟨block, found, rfl⟩
  rcases newest_mem found with ⟨member, place⟩
  have size := uniform.size block member
  rw [usedData_eq (uniform.agree block member) place least, List.length_take, List.length_drop,
    size, sliceLength, blockDataLength]
  omega

theorem Uniform.accounts (uniform : Uniform limits header blocks) (least : 0 ≤ header.length) :
    (Assembly.holding limits header blocks).AccountsFor header := by
  have capacity := uniform.fits
  have widest := limits.capacity_le
  have count := uniform.count
  rw [longestImage] at widest
  refine ⟨capacity, count, by omega, ?_, ?_⟩
  · intro index data present
    rw [uniform.slice] at present
    exact uniform.length_slotOf least present
  · have parts := length_add_missing (slotOf blocks) (fun index => sliceLength index header.length)
      (List.range header.blockCount.toNat) fun index data => uniform.length_slotOf least
    rw [sum_sliceLength least count] at parts
    simp only [Assembly.missing, uniform.slice]
    exact parts

theorem sliceLength_nonneg (index length : Int) : 0 ≤ sliceLength index length :=
  Int.le_max_left 0 _

theorem Uniform.length_stored (uniform : Uniform limits header blocks)
    (least : 0 ≤ header.length) :
    ((stored header.blockCount.toNat blocks).length : Int) ≤ 2 * 1024 * 1024 := by
  have account := uniform.accounts least
  have whole := account.length
  have capacity := account.capacity
  have widest := limits.capacity_le
  have missing : 0 ≤ (((Assembly.holding limits header blocks).missing header).map
      fun index : Nat => sliceLength index header.length).sum := by
    apply List.sum_nonneg
    intro size member
    rcases List.mem_map.mp member with ⟨index, _, rfl⟩
    exact sliceLength_nonneg index header.length
  simp only [Assembly.holding, longestImage] at *
  omega

theorem Uniform.checksum (uniform : Uniform limits header blocks) (least : 0 ≤ header.length) :
    (Assembly.holding limits header blocks).checksum =
      total (stored header.blockCount.toNat blocks).values := by
  have size := uniform.length_stored least
  have bounds := total_values_bounds (stored header.blockCount.toNat blocks)
  rw [Assembly.holding, Checksum.add, Int.zero_add]
  apply Checksum.word_of_bounds <;> omega

def filledSlots (count : Nat) (blocks : List Bytes) : List Nat :=
  (List.range count).filter fun index => (slotOf blocks index).isSome

theorem received_holding (limits : Limits) (header : Header) (blocks : List Bytes) :
    (Assembly.holding limits header blocks).received =
      (filledSlots header.blockCount.toNat blocks).length := by
  rw [Assembly.received, Assembly.holding, List.countP_toArray, List.countP_map, filledSlots,
    List.countP_eq_length_filter]
  rfl

theorem Uniform.indexes (uniform : Uniform limits header blocks) :
    (blocks.map fun block => (Header.read block).blockIndex).toFinset =
      (filledSlots header.blockCount.toNat blocks).toFinset.image
        fun index : Nat => (index : Int) := by
  ext index
  simp only [List.mem_toFinset, List.mem_map, Finset.mem_image, filledSlots, List.mem_filter,
    List.mem_range, Option.isSome_iff_exists]
  constructor
  · intro present
    rcases present with ⟨block, member, rfl⟩
    have below := uniform.index block member
    have place := Header.read_index block
    refine ⟨(Header.read block).blockIndex.toNat, ⟨by omega, ?_⟩, place⟩
    cases found : newest blocks (Header.read block).blockIndex.toNat with
    | none => exact absurd place.symm ((newest_eq_none_iff ..).mp found block member)
    | some last => exact ⟨_, slotOf_of_newest found⟩
  · intro filled
    rcases filled with ⟨place, ⟨_, data, filled⟩, rfl⟩
    rcases Option.map_eq_some_iff.mp filled with ⟨block, found, _⟩
    exact ⟨block, newest_mem found⟩

theorem Uniform.received (uniform : Uniform limits header blocks) :
    (Assembly.holding limits header blocks).received =
      (blocks.map fun block => (Header.read block).blockIndex).toFinset.card := by
  have once : (filledSlots header.blockCount.toNat blocks).Nodup := List.nodup_range.filter _
  rw [received_holding, uniform.indexes, Finset.card_image_of_injective _ Nat.cast_injective,
    List.toFinset_card_of_nodup once]

theorem Uniform.position (uniform : Uniform limits header blocks) :
    (Assembly.holding limits header blocks).position =
      272 * (((Assembly.holding limits header blocks).received : Int) +
        (Assembly.holding limits header blocks).warnings.size) := by
  have repeated := length_repeatsAfter blocks
  have warnings : (Assembly.holding limits header blocks).warnings.size =
      (repeatsAfter [] blocks).length := rfl
  have position : (Assembly.holding limits header blocks).position =
      (blocks.length * blockLength : Nat) := rfl
  rw [uniform.received, warnings, position, blockLength, headerLength, blockDataLength]
  omega

theorem Uniform.exchanges (uniform : Uniform limits header blocks) (least : 0 ≤ header.length)
    {block : Bytes} (inside : (Header.read block).blockIndex.toNat < header.blockCount.toNat) :
    (Assembly.holding limits header blocks).Exchanges (Header.read block).blockIndex.toNat
      (usedData (Header.read block) block) := by
  have size := uniform.length_stored least
  have checksum := uniform.checksum least
  have used := length_usedData_le (Header.read block) block
  rcases stored_concat blocks block _ inside with ⟨front, back, before, _⟩
  have whole := total_values_bounds (stored header.blockCount.toNat blocks)
  have around := total_values_bounds (front ++ back)
  have added := total_values_bounds (usedData (Header.read block) block)
  have old := total_values_bounds ((slotOf blocks (Header.read block).blockIndex.toNat).getD [])
  rw [before] at size checksum whole
  simp only [Bytes.values_append, total_append, List.length_append] at size checksum whole around
  refine ⟨?_, ?_, ?_⟩
  · rw [uniform.slice, checksum]
    omega
  · rw [uniform.slice, checksum]
    apply Checksum.word_of_bounds <;> omega
  · rw [uniform.slice, checksum]
    apply Checksum.word_of_bounds <;> omega

theorem Uniform.accurate (uniform : Uniform limits header blocks) (least : 0 ≤ header.length) :
    (Assembly.holding limits header blocks).Accurate limits := by
  refine ⟨rfl, ?_, ?_, uniform.position, ?_⟩
  · rw [holding_held, uniform.checksum least]
  · rw [holding_held]
    rfl
  · intro reference same
    cases same
    exact uniform.accounts least

end Holding

section Reaching

variable {limits : Limits} {taken : List Bytes} {block : Bytes} {assembly : Assembly}

theorem Accepted.uniform_head (accepted : Accepted limits taken)
    (first : taken = [] → (Header.read block).Leads limits) :
    Uniform limits (Header.read (taken.headD block)) taken := by
  cases taken with
  | nil =>
      rcases leads_iff.mp (first rfl) with ⟨fits, count⟩
      exact ⟨by simp, by simp, fits, count, by simp, by simp⟩
  | cons head rest => exact (accepted_iff_uniform ..).mp accepted

theorem Accepted.accurate (accepted : Accepted limits taken) :
    (Assembly.after limits taken).Accurate limits := by
  cases taken with
  | nil => exact ⟨rfl, rfl, rfl, rfl, by simp [Assembly.after, Assembly.start]⟩
  | cons first rest =>
      have uniform := (accepted_iff_uniform ..).mp accepted
      exact uniform.accurate (fieldAt_nonneg first 8 4)

theorem Accepted.exchanges (accepted : Accepted limits taken) {position : Int} {header : Header}
    {admitted : Assembly} (read : Header.ofBlock block position = .ok header)
    (recorded : (Assembly.after limits taken).withHeader header = .ok admitted)
    (within : header.blockIndex < header.blockCount) :
    admitted.Exchanges header.blockIndex.toNat (usedData header block) := by
  rw [Header.ofBlock_eq] at read
  split at read
  case isFalse => cases read
  case isTrue =>
    cases read
    rcases after_withHeader.mp recorded with ⟨first, later, rfl⟩
    have uniform := accepted.uniform_head first
    exact uniform.exchanges (fieldAt_nonneg _ 8 4) (inside_head later within)

theorem Assembly.Accurate.halt (accurate : assembly.Accurate limits) (error : DecodeError) :
    Assembly.Accurate limits { assembly with halted := some error } := by
  rcases accurate with ⟨same, checksum, consumed, position, header⟩
  refine ⟨same, checksum, consumed, position, ?_⟩
  intro reference recorded
  rcases header reference recorded with ⟨capacity, blockCount, few, slice, length⟩
  exact ⟨capacity, blockCount, few, slice, length⟩

theorem Assembly.Accurate.balanced_halt (accurate : assembly.Accurate limits)
    (error : DecodeError) : Assembly.Balanced limits { assembly with halted := some error } :=
  ⟨accurate.halt error, fun running => by cases running⟩

theorem Assembly.Reached.balanced (reached : Assembly.Reached limits assembly) :
    assembly.Balanced limits := by
  cases reached with
  | taking accepted =>
      refine ⟨accepted.accurate, ?_⟩
      intro _ block header admitted read recorded _ within
      exact accepted.exchanges read recorded within
  | halted accepted inside => exact accepted.accurate.balanced_halt _
  | @announced block error leads =>
      have uniform : Uniform limits (Header.read block) [] :=
        Accepted.start.uniform_head fun _ => leads
      exact (uniform.accurate (fieldAt_nonneg block 8 4)).balanced_halt error

/-- Whatever was asked of an assembly, its books are right. -/
theorem calls_balanced (limits : Limits) (history : List Assembly.Call) :
    ((Assembly.start limits).run history).Balanced limits :=
  (reached_run limits history).balanced

end Reaching

end Andromeda
