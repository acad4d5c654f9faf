import Andromeda.Bytes
import Andromeda.Checksum
import Mathlib.Algebra.BigOperators.Group.List.Basic
import Mathlib.Algebra.Ring.Int.Defs

namespace Andromeda

theorem total_eq_sum (values : List Int) : total values = values.sum := by
  induction values with
  | nil => rfl
  | cons value values ih => rw [total_cons, List.sum_cons, ih]

theorem foldl_toNat (start : Nat) (bytes : Bytes) :
    (bytes.foldl (fun sum byte => sum + byte.toNat) start : Nat) = start + total bytes.values := by
  induction bytes generalizing start with
  | nil => exact (Int.add_zero _).symm
  | cons byte bytes ih =>
      have step : total (Bytes.values (byte :: bytes)) =
          byte.toNat + total (Bytes.values bytes) := total_cons _ _
      rw [List.foldl_cons, ih, step, Int.natCast_add, Int.add_assoc]

theorem total_values_bounds (bytes : Bytes) :
    0 ≤ total bytes.values ∧ total bytes.values ≤ 255 * (bytes.length : Int) := by
  induction bytes with
  | nil => exact ⟨Int.le_refl _, Int.le_refl _⟩
  | cons byte bytes ih =>
      have below : byte.toNat < 256 := byte.toNat_lt
      have step : total (Bytes.values (byte :: bytes)) =
          byte.toNat + total (Bytes.values bytes) := total_cons _ _
      rw [step, List.length_cons]
      omega

theorem Checksum.word_of_bounds {number : Int} (least : 0 ≤ number)
    (below : number < 4294967296) : Checksum.word number = number :=
  Int.emod_eq_of_lt least below

theorem Checksum.add_zero (values : List Int) : add 0 values = total values % 2 ^ 32 := by
  rw [add, Int.zero_add]
  rfl

end Andromeda
