import Andromeda.Bytes
import Mathlib.Data.Nat.Digits.Lemmas
import Mathlib.Tactic.Ring

namespace Andromeda

/-- The lowest `count` digits of a number in a base of at most 256. -/
def leastDigits (base : Nat) : Nat → Nat → Bytes
  | 0, _ => []
  | count + 1, number => .ofNat (number % base) :: leastDigits base count (number / base)

@[simp] theorem length_leastDigits (base count number : Nat) :
    (leastDigits base count number).length = count := by
  induction count generalizing number with
  | zero => rfl
  | succ count ih => simp [leastDigits, ih]

theorem leastDigits_add (base first second number : Nat) :
    leastDigits base (first + second) number =
      leastDigits base first number ++ leastDigits base second (number / base ^ first) := by
  induction first generalizing number with
  | zero => simp [leastDigits]
  | succ first ih =>
      have order : first + 1 + second = (first + second) + 1 := by omega
      rw [order, leastDigits, ih, leastDigits, Nat.div_div_eq_div_mul, ← Nat.pow_succ']
      rfl

theorem leastDigits_add_mul (base count number above : Nat) (positive : 0 < base) :
    leastDigits base count (number + base ^ count * above) = leastDigits base count number := by
  induction count generalizing number with
  | zero => rfl
  | succ count ih =>
      have shifted : number + base ^ (count + 1) * above =
          number + base * (base ^ count * above) := by ring
      rw [leastDigits, leastDigits, shifted, Nat.add_mul_mod_self_left,
        Nat.add_mul_div_left _ _ positive, ih]

theorem leastDigits_mod (base count number : Nat) (positive : 0 < base) :
    leastDigits base count (number % base ^ count) = leastDigits base count number := by
  conv_rhs => rw [← Nat.mod_add_div number (base ^ count)]
  rw [leastDigits_add_mul _ _ _ _ positive]

theorem leastDigits_cut (base count number part : Nat) (positive : 0 < base) :
    leastDigits base (count + 1) (number % (base ^ count * part)) =
      leastDigits base count number ++ leastDigits base 1 (number / base ^ count % part) := by
  have front : leastDigits base count (number % (base ^ count * part)) =
      leastDigits base count number := by
    rw [← leastDigits_mod _ _ _ positive, Nat.mod_mul_right_mod, leastDigits_mod _ _ _ positive]
  rw [leastDigits_add, front, Nat.mod_mul_right_div_self]

theorem toNat_leastDigits (base count number : Nat) (positive : 0 < base) (small : base ≤ 256) :
    Nat.ofDigits base ((leastDigits base count number).map UInt8.toNat) =
      number % base ^ count := by
  induction count generalizing number with
  | zero => simp [leastDigits, Nat.mod_one]
  | succ count ih =>
      have below : number % base < 256 := lt_of_lt_of_le (Nat.mod_lt _ positive) small
      have digit : (UInt8.ofNat (number % base)).toNat = number % base := by
        rw [UInt8.toNat_ofNat', Nat.mod_eq_of_lt below]
      rw [leastDigits, List.map_cons, Nat.ofDigits_cons, ih, digit, pow_succ', Nat.mod_mul]

theorem leastDigits_ofDigits (base : Nat) (digits : List Nat)
    (below : ∀ digit ∈ digits, digit < base) :
    leastDigits base digits.length (Nat.ofDigits base digits) = digits.map UInt8.ofNat := by
  induction digits with
  | nil => rfl
  | cons digit digits ih =>
      have first : digit < base := below digit (by simp)
      have positive : 0 < base := Nat.zero_lt_of_lt first
      rw [List.length_cons, leastDigits, Nat.ofDigits_cons, Nat.add_mul_mod_self_left,
        Nat.mod_eq_of_lt first, Nat.add_mul_div_left _ _ positive, Nat.div_eq_of_lt first,
        Nat.zero_add, ih (by intro other member; exact below other (by simp [member]))]
      rfl

theorem leastDigits_lt (base count number : Nat) (positive : 0 < base) (small : base ≤ 256) :
    ∀ byte ∈ leastDigits base count number, byte.toNat < base := by
  induction count generalizing number with
  | zero => intro byte member; cases member
  | succ count ih =>
      intro byte member
      rcases List.mem_cons.mp member with rfl | later
      · have below : number % base < base := Nat.mod_lt _ positive
        rw [UInt8.toNat_ofNat', Nat.mod_eq_of_lt (lt_of_lt_of_le below small)]
        exact below
      · exact ih (number / base) byte later

theorem lowBits_lt (width : Nat) (value : Int) : lowBits width value < 2 ^ width := by
  have positive : (0 : Int) < 2 ^ width := by positivity
  have below := Int.emod_lt_of_pos value positive
  have least := Int.emod_nonneg value (ne_of_gt positive)
  simp only [lowBits, Nat.pow_eq, Nat.cast_pow, Nat.cast_ofNat]
  have whole : (2 : Int) ^ width = ((2 ^ width : Nat) : Int) := by push_cast; rfl
  omega

theorem natCast_lowBits (width : Nat) (value : Int) :
    (lowBits width value : Int) = value % 2 ^ width := by
  have positive : (0 : Int) < 2 ^ width := by positivity
  simp only [lowBits, Nat.pow_eq, Nat.cast_pow, Nat.cast_ofNat]
  exact Int.toNat_of_nonneg (Int.emod_nonneg value (ne_of_gt positive))

theorem lowBits_natCast (width number : Nat) (small : number < 2 ^ width) :
    lowBits width number = number := by
  have small : (number : Int) < 2 ^ width := by exact_mod_cast small
  simp only [lowBits, Nat.pow_eq, Nat.cast_pow, Nat.cast_ofNat]
  rw [Int.emod_eq_of_lt (Int.natCast_nonneg number) small, Int.toNat_natCast]

end Andromeda
