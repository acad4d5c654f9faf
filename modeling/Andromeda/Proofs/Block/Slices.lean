import Andromeda.Block
import Mathlib.Algebra.BigOperators.Ring.Finset
import Mathlib.Data.List.Basic

namespace Andromeda

theorem sliceLength_toNat (index length : Nat) :
    (sliceLength index length).toNat = min (length - index * blockDataLength) blockDataLength := by
  simp only [sliceLength, blockDataLength]
  omega

theorem pieceCount_le_iff {length size count : Int} (positive : 0 < size) :
    pieceCount length size ≤ count ↔ length ≤ count * size := by
  have below := @Int.le_ediv_iff_mul_le (-count) (-length) size positive
  rw [Int.neg_mul] at below
  rw [pieceCount, Int.fdiv_eq_ediv_of_nonneg _ positive.le]
  omega

theorem pieceCount_toNat_le_iff {length size count : Nat} (positive : 0 < size) :
    (pieceCount length size).toNat ≤ count ↔ length ≤ count * size := by
  rw [Int.toNat_le, pieceCount_le_iff (Int.natCast_pos.mpr positive)]
  exact_mod_cast Iff.rfl

theorem roundedUp_le_iff {length size count : Nat} (positive : 0 < size) :
    (length + (size - 1)) / size ≤ count ↔ length ≤ count * size := by
  rw [← Nat.lt_succ_iff, Nat.div_lt_iff_lt_mul positive, Nat.succ_mul]
  omega

theorem pieceCount_eq (length : Int) :
    pieceCount length blockDataLength = (length + 255) / 256 := by
  rw [pieceCount, blockDataLength, Int.fdiv_eq_ediv_of_nonneg _ (by decide)]
  omega

theorem sum_slices (length count : Nat) :
    ((List.range count).map fun index =>
      min (length - index * blockDataLength) blockDataLength).sum =
      min length (count * blockDataLength) := by
  induction count with
  | zero => simp
  | succ count ih =>
      rw [List.range_succ, List.map_append, List.sum_append, ih]
      simp only [List.map_cons, List.map_nil, List.sum_singleton, blockDataLength]
      omega

theorem sum_sliceLength {length count : Int} (least : 0 ≤ length)
    (pieces : count = (length + 255) / 256) :
    ((List.range count.toNat).map fun index : Nat => sliceLength index length).sum = length := by
  have each : ((List.range count.toNat).map fun index : Nat => sliceLength index length) =
      ((List.range count.toNat).map fun index =>
        min (length.toNat - index * blockDataLength) blockDataLength).map Nat.cast := by
    rw [List.map_map]
    apply List.map_congr_left
    intro index _
    simp only [Function.comp_apply, sliceLength, blockDataLength]
    omega
  rw [each, ← Nat.cast_list_sum, sum_slices, blockDataLength]
  omega

theorem flatMap_pieces (data : Bytes) (size count : Nat) :
    (List.range count).flatMap (fun index => (data.drop (index * size)).take size) =
      data.take (count * size) := by
  induction count with
  | zero => simp
  | succ count ih =>
      rw [List.range_succ, List.flatMap_append, ih, Nat.succ_mul, List.take_add]
      simp

theorem flatMap_slices (data : Bytes) (count : Nat) :
    (List.range count).flatMap (fun index =>
      (data.drop (index * blockDataLength)).take blockDataLength) =
      data.take (count * blockDataLength) :=
  flatMap_pieces data blockDataLength count

theorem flatMap_exchange {old new : Nat → Bytes} {index count : Nat} (inside : index < count)
    (other : ∀ different < count, different ≠ index → new different = old different) :
    ∃ front back, (List.range count).flatMap old = front ++ (old index ++ back) ∧
      (List.range count).flatMap new = front ++ (new index ++ back) := by
  obtain ⟨more, rfl⟩ : ∃ more, count = index + (1 + more) := ⟨count - index - 1, by omega⟩
  have parts (piece : Nat → Bytes) : (List.range (index + (1 + more))).flatMap piece =
      (List.range index).flatMap piece ++ (piece index ++
        (List.range more).flatMap fun later => piece (index + (1 + later))) := by
    rw [List.range_add, List.range_add, List.flatMap_append, List.flatMap_map,
      List.flatMap_append, List.flatMap_map, List.range_one, List.flatMap_singleton]
    rfl
  have front : (List.range index).flatMap new = (List.range index).flatMap old := by
    apply List.flatMap_congr
    intro different member
    have below := List.mem_range.mp member
    exact other different (by omega) (by omega)
  have back : ((List.range more).flatMap fun later => new (index + (1 + later))) =
      (List.range more).flatMap fun later => old (index + (1 + later)) := by
    apply List.flatMap_congr
    intro later member
    have below := List.mem_range.mp member
    exact other _ (by omega) (by omega)
  exact ⟨_, _, parts old, by rw [parts new, front, back]⟩

end Andromeda
