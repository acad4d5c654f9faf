import Andromeda.Proofs.Block.Slices
import Mathlib.Order.Bounds.Basic

namespace Andromeda

/-- What the slices are when an image of `length` bytes travels in `count` blocks. -/
structure SlicedInto (length : Nat) (count : Int) : Prop where
  full : ∀ index < count - 1, sliceLength index length = 256
  last : 0 < count →
    1 ≤ sliceLength (count - 1) length ∧ sliceLength (count - 1) length ≤ 256
  behind : ∀ index ≥ count, sliceLength index length = 0
  sum : ((List.range count.toNat).map fun index : Nat => sliceLength index length).sum = length
  joined : ∀ data : Bytes, data.length = length →
    ((List.range count.toNat).flatMap fun index =>
      (data.drop (256 * index)).take (sliceLength index length).toNat) = data

theorem take_sliceLength (data : Bytes) (index : Nat) :
    (data.drop (256 * index)).take (sliceLength index data.length).toNat =
      (data.drop (index * blockDataLength)).take blockDataLength := by
  have place : 256 * index = index * blockDataLength := Nat.mul_comm 256 index
  rw [place, sliceLength_toNat, ← List.length_drop, Nat.min_comm, ← List.take_eq_take_min]

theorem isLeast_pieceCount {length size : Int} (positive : 0 < size) :
    IsLeast {count | length ≤ count * size} (pieceCount length size) := by
  constructor
  · exact (pieceCount_le_iff positive).mp (Int.le_refl _)
  · intro count enough
    exact (pieceCount_le_iff positive).mpr enough

theorem slicedInto_of_count {length : Nat} {count : Int} (pieces : count = (length + 255) / 256) :
    SlicedInto length count := by
  constructor
  case full =>
    intro index before
    simp only [sliceLength, blockDataLength]
    omega
  case last =>
    intro some
    simp only [sliceLength, blockDataLength]
    omega
  case behind =>
    intro index behind
    simp only [sliceLength, blockDataLength]
    omega
  case sum => exact sum_sliceLength (Int.natCast_nonneg length) pieces
  case joined =>
    intro data size
    have enough : data.length ≤ count.toNat * blockDataLength := by
      rw [size, blockDataLength]
      omega
    calc
      ((List.range count.toNat).flatMap fun index =>
          (data.drop (256 * index)).take (sliceLength index length).toNat) =
          (List.range count.toNat).flatMap fun index =>
            (data.drop (index * blockDataLength)).take blockDataLength := by
        simp only [← size, take_sliceLength]
      _ = data.take (count.toNat * blockDataLength) := flatMap_slices data count.toNat
      _ = data := List.take_of_length_le enough

/-- The blocks of every image partition it, and pieces of any size are counted as the least number
of them that is as long as the whole. -/
theorem slices_partition :
    (∀ length : Nat, SlicedInto length (pieceCount length 256)) ∧
    ∀ length size : Int, 0 < size →
      pieceCount? length size = some (pieceCount length size) ∧
      IsLeast {count | length ≤ count * size} (pieceCount length size) := by
  constructor
  · intro length
    exact slicedInto_of_count (pieceCount_eq length)
  · intro length size positive
    exact ⟨if_neg positive.ne', isLeast_pieceCount positive⟩

theorem sixHundred_sliced :
    pieceCount 600 256 = 3 ∧
      (1 : Int) < 3 - 1 ∧ sliceLength 1 600 = 256 ∧
      (0 : Int) < 3 ∧ (1 ≤ sliceLength (3 - 1) 600 ∧ sliceLength (3 - 1) 600 ≤ 256) ∧
      (3 : Int) ≥ 3 ∧ sliceLength 3 600 = 0 ∧
      (0 : Int) < 100 ∧ pieceCount? 600 100 = some 6 := by
  have count : pieceCount 600 256 = 3 := by decide
  have sliced : SlicedInto 600 3 := slices_partition.1 600
  obtain ⟨counted, -⟩ := slices_partition.2 600 100 (by decide)
  exact ⟨count, by decide, sliced.full 1 (by decide), by decide, sliced.last (by decide),
    by decide, sliced.behind 3 (by decide), by decide, counted⟩

end Andromeda
