import Mathlib.Algebra.BigOperators.Fin
import Mathlib.Algebra.Order.Floor.Div
import Andromeda.Proofs.Packing.Stream

namespace Andromeda

def positional (base : Int) (values : List Int) : Int :=
  ∑ place : Fin values.length, values[place] % base * base ^ (place : Nat)

def firstDigits (base : Int) (count : Nat) (number : Int) : List Int :=
  (List.range count).map fun place => number / base ^ place % base

theorem positional_cons (base value : Int) (values : List Int) :
    positional base (value :: values) = value % base + base * positional base values := by
  calc
    _ = value % base * base ^ 0 +
        ∑ place : Fin values.length, values[place] % base * base ^ ((place : Nat) + 1) := by
      rw [positional]
      exact Fin.sum_univ_succ _
    _ = value % base + ∑ place : Fin values.length,
        base * (values[place] % base * base ^ (place : Nat)) := by
      rw [pow_zero, mul_one]
      congr 1
      apply Finset.sum_congr rfl
      intro place _
      ring
    _ = value % base + base * positional base values := by rw [← Finset.mul_sum, positional]

theorem natCast_streamNumber (width : Nat) (values : List Int) :
    (streamNumber width values : Int) = positional (2 ^ width) values := by
  induction values with
  | nil => rfl
  | cons value values ih =>
      rw [streamNumber_cons, positional_cons, ← ih, ← natCast_lowBits]
      push_cast
      rfl

theorem firstDigits_succ (base : Int) (count : Nat) (number : Int) (positive : 0 < base) :
    firstDigits base (count + 1) number =
      number % base :: firstDigits base count (number / base) := by
  rw [firstDigits, firstDigits, List.range_succ_eq_map, List.map_cons, List.map_map, pow_zero,
    Int.ediv_one]
  congr 2
  funext place
  rw [Function.comp_apply, Int.ediv_ediv_of_nonneg positive.le, ← pow_succ']

theorem values_leastDigits (base count number : Nat) (positive : 0 < base) (small : base ≤ 256) :
    (leastDigits base count number).values = firstDigits base count number := by
  induction count generalizing number with
  | zero => rfl
  | succ count ih =>
      have below : number % base < 256 := lt_of_lt_of_le (Nat.mod_lt _ positive) small
      have first : ((UInt8.ofNat (number % base)).toNat : Int) = (number : Int) % base := by
        rw [UInt8.toNat_ofNat', Nat.mod_eq_of_lt below, Int.natCast_mod]
      have rest := ih (number / base)
      rw [Int.natCast_div] at rest
      rw [firstDigits_succ _ _ _ (by exact_mod_cast positive), ← rest, ← first]
      rfl

/-- Unpacking and packing write the digits, in base 256 and in base 128, of the number that the
values are the digits of in the other base. Packing writes all of them. -/
theorem packing_positional (values : List Int) :
    (unpack values).values =
        firstDigits 256 (7 * values.length / 8) (positional 128 values) ∧
      (pack values).values =
        firstDigits 128 (8 * values.length ⌈/⌉ 7) (positional 256 values) ∧
      positional 256 values < 128 ^ (8 * values.length ⌈/⌉ 7) := by
  have packed : (streamNumber 7 values : Int) = positional 128 values :=
    natCast_streamNumber 7 values
  have raw : (streamNumber 8 values : Int) = positional 256 values :=
    natCast_streamNumber 8 values
  have count : 8 * values.length ⌈/⌉ 7 = (8 * values.length + 6) / 7 :=
    Nat.ceilDiv_eq_add_pred_div _ _
  rw [← packed, ← raw, count]
  refine ⟨?_, ?_, ?_⟩
  · rw [unpack_eq_leastDigits, values_leastDigits _ _ _ (by decide) (by decide)]
    rfl
  · rw [pack_eq_leastDigits, values_leastDigits _ _ _ (by decide) (by decide)]
    rfl
  · exact_mod_cast streamNumber_lt_packed values

end Andromeda
