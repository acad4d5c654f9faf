import Andromeda.Proofs.Checksum
import Andromeda.Proofs.Packing.Stream
import Mathlib.Algebra.BigOperators.Ring.Finset
import Mathlib.Data.Nat.ModEq

/-!
One packed byte exchanged for another. Modulo 255 the sum of raw bytes is the number they spell
in base 256. A packed byte adds less than 128 times a power of two to that number, and 255 is
odd, so raw bytes that keep their sum under such an exchange are the same bytes.
-/

namespace Andromeda

theorem sum_leastDigits (count number : Nat) :
    ((leastDigits 256 count number).map UInt8.toNat).sum ≡ number % 256 ^ count [MOD 255] := by
  rw [← toNat_leastDigits 256 count number (by decide) (by decide), ← Nat.ofDigits_one]
  exact (Nat.ofDigits_modEq' 256 1 255 rfl _).symm

theorem digit_eq_of_modEq {old new : Nat} (above width : Nat) (small : old < 128)
    (other : new < 128)
    (same : (old + 128 * above) % 2 ^ width ≡ (new + 128 * above) % 2 ^ width [MOD 255]) :
    (old + 128 * above) % 2 ^ width = (new + 128 * above) % 2 ^ width := by
  by_cases cut : width ≤ 7
  · have bound : 2 ^ width ≤ 2 ^ 7 := Nat.pow_le_pow_right (by decide) cut
    have positive : 0 < 2 ^ width := by positivity
    have first := Nat.mod_lt (old + 128 * above) positive
    have second := Nat.mod_lt (new + 128 * above) positive
    exact same.eq_of_lt_of_lt (by omega) (by omega)
  · have split (digit : Nat) (below : digit < 128) :
        (digit + 128 * above) % 2 ^ width = digit + 128 * (above % 2 ^ (width - 7)) := by
      have whole : 2 ^ width = 128 * 2 ^ (width - 7) := by
        rw [show 128 = 2 ^ 7 by rfl, ← pow_add]
        congr 1
        omega
      rw [whole, Nat.mod_mul, Nat.add_mul_mod_self_left, Nat.mod_eq_of_lt below,
        Nat.add_mul_div_left _ _ (by decide), Nat.div_eq_of_lt below, Nat.zero_add]
    rw [split old small, split new other] at same ⊢
    have digits : old = new :=
      (same.add_right_cancel' _).eq_of_lt_of_lt (by omega) (by omega)
    rw [digits]

theorem exchange_eq_of_modEq {low old new : Nat} (place above bits : Nat) (below : low < 2 ^ place)
    (small : old < 128) (other : new < 128)
    (same : (low + 2 ^ place * (old + 128 * above)) % 2 ^ bits ≡
      (low + 2 ^ place * (new + 128 * above)) % 2 ^ bits [MOD 255]) :
    (low + 2 ^ place * (old + 128 * above)) % 2 ^ bits =
      (low + 2 ^ place * (new + 128 * above)) % 2 ^ bits := by
  -- A cut below the digit leaves nothing of it. Above, its power of two cancels modulo 255.
  rcases Nat.le_total bits place with cut | reached
  · rcases Nat.exists_eq_add_of_le cut with ⟨more, rfl⟩
    simp only [pow_add, Nat.mul_assoc, Nat.add_mul_mod_self_left]
  · rcases Nat.exists_eq_add_of_le reached with ⟨width, rfl⟩
    have positive : 0 < 2 ^ place := by positivity
    have split (high : Nat) : (low + 2 ^ place * high) % 2 ^ (place + width) =
        low + 2 ^ place * (high % 2 ^ width) := by
      rw [pow_add, Nat.mod_mul, Nat.add_mul_mod_self_left, Nat.mod_eq_of_lt below,
        Nat.add_mul_div_left _ _ positive, Nat.div_eq_of_lt below, Nat.zero_add]
    have odd : Nat.gcd 255 (2 ^ place) = 1 := Nat.Coprime.pow_right place (by decide)
    rw [split, split] at same ⊢
    have shifted := same.add_left_cancel' low
    rw [digit_eq_of_modEq above width small other (shifted.cancel_left_of_coprime odd)]

theorem streamNumber_set {payload : Bytes} {place : Nat} (inside : place < payload.length)
    {byte : UInt8} (data : byte.toNat < 128) :
    streamNumber 7 (Bytes.values (payload.set place byte)) =
      streamNumber 7 (Bytes.values (payload.take place)) + 2 ^ (7 * place) *
        (byte.toNat + 128 * streamNumber 7 (Bytes.values (payload.drop (place + 1)))) := by
  have size : (Bytes.values (payload.take place)).length = place := by
    rw [Bytes.length_values, List.length_take]
    omega
  have parts : Bytes.values (payload.set place byte) = Bytes.values (payload.take place) ++
      (byte.toNat : Int) :: Bytes.values (payload.drop (place + 1)) := by
    rw [List.set_eq_take_append_cons_drop, if_pos inside, Bytes.values_append]
    rfl
  rw [parts, streamNumber_append, streamNumber_cons, lowBits_natCast 7 byte.toNat data, size,
    pow_mul]
  rfl

theorem take_unpack (values : List Int) (count : Nat) (inside : count ≤ 7 * values.length / 8) :
    (unpack values).take count = leastDigits 256 count (streamNumber 7 values) := by
  rcases Nat.exists_eq_add_of_le inside with ⟨rest, whole⟩
  rw [unpack_eq_leastDigits, whole, leastDigits_add]
  apply List.take_left'
  exact length_leastDigits ..

theorem total_values (bytes : Bytes) :
    total bytes.values = ((bytes.map UInt8.toNat).sum : Nat) := by
  induction bytes with
  | nil => rfl
  | cons byte bytes ih =>
      have step : total (Bytes.values (byte :: bytes)) =
          byte.toNat + total (Bytes.values bytes) := total_cons _ _
      rw [step, ih, List.map_cons, List.sum_cons, Int.natCast_add]

theorem take_unpack_set {payload : Bytes} {place count : Nat} {byte : UInt8}
    (data : ∀ old ∈ payload, old.toNat < 128)
    (changed : ∀ new ∈ payload.set place byte, new.toNat < 128)
    (inside : count ≤ 7 * payload.length / 8)
    (same : total (Bytes.values ((unpack (Bytes.values (payload.set place byte))).take count)) =
      total (Bytes.values ((unpack payload.values).take count))) :
    (unpack (Bytes.values (payload.set place byte))).take count =
      (unpack payload.values).take count := by
  by_cases within : place < payload.length
  · have old : payload = payload.set place payload[place] := by rw [List.set_getElem_self]
    have small : payload[place].toNat < 128 := data _ (List.getElem_mem within)
    have other : byte.toNat < 128 := changed byte (List.mem_set within byte)
    have below : streamNumber 7 (Bytes.values (payload.take place)) < 2 ^ (7 * place) := by
      have digits := streamNumber_lt 7 (Bytes.values (payload.take place)) (by decide)
      rw [Bytes.length_values, List.length_take, Nat.min_eq_left (by omega), ← pow_mul] at digits
      exact digits
    have whole : 256 ^ count = 2 ^ (8 * count) := by
      rw [pow_mul]
      rfl
    rw [take_unpack _ count (by rw [Bytes.length_values, List.length_set]; exact inside),
      take_unpack _ count (by rw [Bytes.length_values]; exact inside)] at same ⊢
    rw [total_values, total_values, Nat.cast_inj] at same
    have first := sum_leastDigits count (streamNumber 7 (Bytes.values (payload.set place byte)))
    have second := sum_leastDigits count (streamNumber 7 payload.values)
    rw [same] at first
    have numbers := first.symm.trans second
    have digits : streamNumber 7 (Bytes.values (payload.set place byte)) % 256 ^ count =
        streamNumber 7 payload.values % 256 ^ count := by
      rw [old, List.set_set, streamNumber_set within other, streamNumber_set within small,
        whole] at numbers ⊢
      exact exchange_eq_of_modEq _ _ _ below other small numbers
    calc
      leastDigits 256 count (streamNumber 7 (Bytes.values (payload.set place byte))) =
          leastDigits 256 count (streamNumber 7 payload.values % 256 ^ count) := by
        rw [← digits, leastDigits_mod _ _ _ (by decide)]
      _ = leastDigits 256 count (streamNumber 7 payload.values) :=
        leastDigits_mod _ _ _ (by decide)
  · rw [List.set_eq_of_length_le (by omega)]

end Andromeda
