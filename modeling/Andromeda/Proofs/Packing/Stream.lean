import Andromeda.Packing
import Andromeda.Proofs.Packing.Digits

/-!
Seven-bit packing as a change of base. Packed values are the digits in base 128, and raw ones
the digits in base 256, of one number; both directions hold its digits not yet written. The
round trip and the lengths follow from that alone.
-/

namespace Andromeda

/-- The number whose digits in base `2 ^ width` are the lowest bits of the values. -/
def streamNumber (width : Nat) (values : List Int) : Nat :=
  Nat.ofDigits (2 ^ width) (values.map (lowBits width))

theorem streamNumber_cons (width : Nat) (value : Int) (values : List Int) :
    streamNumber width (value :: values) =
      lowBits width value + 2 ^ width * streamNumber width values := by
  simp only [streamNumber, List.map_cons, Nat.ofDigits_cons]

theorem streamNumber_append (width : Nat) (first second : List Int) :
    streamNumber width (first ++ second) = streamNumber width first +
      (2 ^ width) ^ first.length * streamNumber width second := by
  simp only [streamNumber, List.map_append, Nat.ofDigits_append, List.length_map]

theorem streamNumber_lt (width : Nat) (values : List Int) (positive : 0 < width) :
    streamNumber width values < (2 ^ width) ^ values.length := by
  have digits : ∀ digit ∈ values.map (lowBits width), digit < 2 ^ width := by
    intro digit member
    rcases List.mem_map.mp member with ⟨value, _, rfl⟩
    exact lowBits_lt width value
  have below := Nat.ofDigits_lt_base_pow_length (Nat.one_lt_two_pow positive.ne') digits
  rwa [List.length_map] at below

theorem lowBits_values (width : Nat) (bytes : Bytes)
    (small : ∀ byte ∈ bytes, byte.toNat < 2 ^ width) :
    bytes.values.map (lowBits width) = bytes.map UInt8.toNat := by
  rw [Bytes.values, List.map_map]
  apply List.map_congr_left
  intro byte member
  apply lowBits_natCast width byte.toNat
  exact small byte member

theorem joined_lt (held width value bits : Nat) (small : held < 2 ^ width)
    (fits : value < 2 ^ bits) : held + value * 2 ^ width < 2 ^ bits * 2 ^ width := by
  calc
    _ < 2 ^ width + value * 2 ^ width := Nat.add_lt_add_right small _
    _ = (value + 1) * 2 ^ width := by ring
    _ ≤ 2 ^ bits * 2 ^ width := Nat.mul_le_mul_right _ fits

theorem unpackFrom_eq (held width : Nat) (values : List Int) (small : held < 2 ^ width)
    (narrow : width ≤ 7) :
    unpackFrom held width [] values =
      leastDigits 256 ((width + 7 * values.length) / 8)
        (held + 2 ^ width * streamNumber 7 values) := by
  induction values generalizing held width with
  | nil =>
      have none : (width + 7 * ([] : List Int).length) / 8 = 0 := by
        simp only [List.length_nil]
        omega
      rw [none]
      rfl
  | cons value values ih =>
      have bits := lowBits_lt 7 value
      simp only [unpackFrom, Nat.pow_eq, List.length_cons, streamNumber_cons]
      split
      case isTrue first =>
        subst first
        have joined : held + lowBits 7 value * 2 ^ 0 < 2 ^ 7 := by omega
        rw [ih _ 7 joined (by decide)]
        congr 1 <;> omega
      case isFalse later =>
        obtain ⟨width, rfl⟩ : ∃ less, width = less + 1 := ⟨width - 1, by omega⟩
        have joined : held + lowBits 7 value * 2 ^ (width + 1) < 256 * 2 ^ width := by
          have below := joined_lt held (width + 1) _ 7 small bits
          rw [pow_succ] at below ⊢
          omega
        have rest : (held + lowBits 7 value * 2 ^ (width + 1)) / 256 < 2 ^ width :=
          Nat.div_lt_of_lt_mul joined
        have count : (width + 1 + 7 * (values.length + 1)) / 8 =
            (width + 7 * values.length) / 8 + 1 := by omega
        have number : held + 2 ^ (width + 1) * (lowBits 7 value + 2 ^ 7 * streamNumber 7 values) =
            held + lowBits 7 value * 2 ^ (width + 1) +
              256 * (2 ^ width * streamNumber 7 values) := by ring
        rw [unpackFrom_out, Nat.add_sub_cancel, ih _ width rest (by omega), count, number,
          leastDigits, Nat.add_mul_mod_self_left, Nat.add_mul_div_left _ _ (by decide)]
        rfl

/-- Unpacking reads the number in base 128 and writes as many whole digits in base 256 as
there are bits for. -/
theorem unpack_eq_leastDigits (values : List Int) :
    unpack values = leastDigits 256 (7 * values.length / 8) (streamNumber 7 values) := by
  have start := unpackFrom_eq 0 0 values (by decide) (by decide)
  simpa [unpack] using start

theorem packFrom_eq (held width : Nat) (values : List Int) (small : held < 2 ^ width)
    (narrow : width ≤ 6) :
    packFrom held width [] values =
      leastDigits 128 ((width + 8 * values.length + 6) / 7)
        (held + 2 ^ width * streamNumber 8 values) := by
  induction values generalizing held width with
  | nil =>
      simp only [packFrom, List.length_nil]
      split
      case isTrue none =>
        subst none
        rfl
      case isFalse some =>
        have count : (width + 8 * 0 + 6) / 7 = 1 := by omega
        have below : held < 2 ^ 7 :=
          lt_of_lt_of_le small (Nat.pow_le_pow_right (by decide) (by omega))
        have digit : held % 128 = held := Nat.mod_eq_of_lt below
        rw [count]
        simp [leastDigits, streamNumber, digit]
  | cons value values ih =>
      have bits := lowBits_lt 8 value
      have joined : held + lowBits 8 value * 2 ^ width < 128 * 2 ^ (width + 1) := by
        have below := joined_lt held width _ 8 small bits
        rw [pow_succ]
        omega
      have number : held + 2 ^ width * (lowBits 8 value + 2 ^ 8 * streamNumber 8 values) =
          held + lowBits 8 value * 2 ^ width +
            128 * (2 ^ (width + 1) * streamNumber 8 values) := by ring
      have rest : (held + lowBits 8 value * 2 ^ width) / 128 < 2 ^ (width + 1) :=
        Nat.div_lt_of_lt_mul joined
      simp only [packFrom, Nat.pow_eq, List.length_cons, streamNumber_cons, number]
      split
      case isTrue full =>
        -- Seven bits are left over: they are a digit of their own.
        subst full
        have count : (6 + 8 * (values.length + 1) + 6) / 7 =
            (0 + 8 * values.length + 6) / 7 + 1 + 1 := by omega
        have whole : 2 ^ (6 + 1) = 128 := rfl
        rw [whole] at rest ⊢
        rw [packFrom_out, ih 0 0 (by decide) (by decide), count, leastDigits, leastDigits,
          Nat.add_mul_mod_self_left, Nat.add_mul_div_left _ _ (by decide),
          Nat.add_mul_mod_self_left, Nat.add_mul_div_left _ _ (by decide),
          Nat.mod_eq_of_lt rest, Nat.div_eq_of_lt rest]
        simp
      case isFalse room =>
        have count : (width + 8 * (values.length + 1) + 6) / 7 =
            (width + 1 + 8 * values.length + 6) / 7 + 1 := by omega
        rw [packFrom_out, ih _ (width + 1) rest (by omega), count, leastDigits,
          Nat.add_mul_mod_self_left, Nat.add_mul_div_left _ _ (by decide)]
        rfl

theorem pack_eq_leastDigits (values : List Int) :
    pack values = leastDigits 128 ((8 * values.length + 6) / 7) (streamNumber 8 values) := by
  have start := packFrom_eq 0 0 values (by decide) (by decide)
  simpa [pack] using start

theorem length_unpack (values : List Int) : (unpack values).length = 7 * values.length / 8 := by
  rw [unpack_eq_leastDigits, length_leastDigits]

theorem length_pack (values : List Int) : (pack values).length = (8 * values.length + 6) / 7 := by
  rw [pack_eq_leastDigits, length_leastDigits]

theorem pack_lt (values : List Int) : ∀ byte ∈ pack values, byte.toNat < 128 := by
  rw [pack_eq_leastDigits]
  exact leastDigits_lt 128 _ _ (by decide) (by decide)

theorem streamNumber_lt_packed (values : List Int) :
    streamNumber 8 values < 128 ^ ((8 * values.length + 6) / 7) := by
  calc
    _ < (2 ^ 8) ^ values.length := streamNumber_lt 8 values (by decide)
    _ = 2 ^ (8 * values.length) := by rw [← pow_mul]
    _ ≤ 2 ^ (7 * ((8 * values.length + 6) / 7)) :=
      Nat.pow_le_pow_right (by decide) (by omega)
    _ = 128 ^ ((8 * values.length + 6) / 7) := by rw [pow_mul]; norm_num

theorem streamNumber_pack (values : List Int) :
    streamNumber 7 (pack values).values = streamNumber 8 values := by
  calc
    streamNumber 7 (pack values).values = Nat.ofDigits 128 ((pack values).map UInt8.toNat) := by
      rw [streamNumber, lowBits_values 7 _ (pack_lt values)]
      rfl
    _ = streamNumber 8 values % 128 ^ ((8 * values.length + 6) / 7) := by
      rw [pack_eq_leastDigits, toNat_leastDigits 128 _ _ (by decide) (by decide)]
    _ = streamNumber 8 values := Nat.mod_eq_of_lt (streamNumber_lt_packed values)

theorem unpack_pack (values : List Int) :
    unpack (pack values).values = values.map fun value => .ofNat (lowBits 8 value) := by
  have count : 7 * (pack values).values.length / 8 = (values.map (lowBits 8)).length := by
    rw [Bytes.length_values, length_pack, List.length_map]
    omega
  have below : ∀ digit ∈ values.map (lowBits 8), digit < 256 := by
    intro digit member
    rcases List.mem_map.mp member with ⟨value, _, rfl⟩
    exact lowBits_lt 8 value
  calc
    unpack (pack values).values = leastDigits 256 (values.map (lowBits 8)).length
        (Nat.ofDigits 256 (values.map (lowBits 8))) := by
      rw [unpack_eq_leastDigits, streamNumber_pack, count]
      rfl
    _ = (values.map (lowBits 8)).map UInt8.ofNat := leastDigits_ofDigits 256 _ below
    _ = values.map fun value => .ofNat (lowBits 8 value) := List.map_map

theorem unpack_pack_values (bytes : Bytes) : unpack (pack bytes.values).values = bytes := by
  calc
    unpack (pack bytes.values).values = bytes.map id := by
      rw [unpack_pack, Bytes.values, List.map_map]
      apply List.map_congr_left
      intro byte _
      have below : byte.toNat < 2 ^ 8 := byte.toNat_lt
      simp [lowBits_natCast 8 byte.toNat below]
    _ = bytes := List.map_id bytes

end Andromeda
