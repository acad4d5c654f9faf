import Andromeda.Proofs.Packing.Stream

namespace Andromeda

def repacked (values : List Int) : List Int :=
  let kept := values.map (· % 128)
  match values.length % 8 with
  | 0 => kept
  | 1 => kept.dropLast
  | rest + 2 => kept.dropLast ++ (kept.getLast?.map (· % 2 ^ (rest + 1))).toList

theorem values_lowBits (width : Nat) (narrow : width ≤ 8) (values : List Int) :
    Bytes.values (values.map fun value => .ofNat (lowBits width value)) =
      values.map (· % 2 ^ width) := by
  rw [Bytes.values, List.map_map]
  apply List.map_congr_left
  intro value _
  have small : lowBits width value < 256 :=
    lt_of_lt_of_le (lowBits_lt width value) (Nat.pow_le_pow_right (by decide) narrow)
  rw [Function.comp_apply, UInt8.toNat_ofNat', Nat.mod_eq_of_lt small, natCast_lowBits]

theorem leastDigits_streamNumber (values : List Int) :
    leastDigits 128 values.length (streamNumber 7 values) =
      values.map fun value => .ofNat (lowBits 7 value) := by
  have below : ∀ digit ∈ values.map (lowBits 7), digit < 128 := by
    intro digit member
    rcases List.mem_map.mp member with ⟨value, _, rfl⟩
    exact lowBits_lt 7 value
  have digits := leastDigits_ofDigits 128 (values.map (lowBits 7)) below
  rwa [List.length_map, List.map_map] at digits

theorem streamNumber_unpack (values : List Int) :
    streamNumber 8 (unpack values).values =
      streamNumber 7 values % 2 ^ (8 * (7 * values.length / 8)) := by
  have bytes : ∀ byte ∈ unpack values, byte.toNat < 2 ^ 8 := fun byte _ => byte.toNat_lt
  calc
    streamNumber 8 (unpack values).values =
        Nat.ofDigits 256 ((unpack values).map UInt8.toNat) := by
      rw [streamNumber, lowBits_values 8 _ bytes]
      rfl
    _ = streamNumber 7 values % 256 ^ (7 * values.length / 8) := by
      rw [unpack_eq_leastDigits, toNat_leastDigits 256 _ _ (by decide) (by decide)]
    _ = streamNumber 7 values % 2 ^ (8 * (7 * values.length / 8)) := by rw [pow_mul]; norm_num

theorem pack_unpack_eq (values : List Int) :
    pack (unpack values).values =
      leastDigits 128 ((8 * (7 * values.length / 8) + 6) / 7)
        (streamNumber 7 values % 2 ^ (8 * (7 * values.length / 8))) := by
  rw [pack_eq_leastDigits, streamNumber_unpack, Bytes.length_values, length_unpack]

theorem pack_unpack_whole (values : List Int) (whole : values.length % 8 = 0) :
    pack (unpack values).values = values.map fun value => .ofNat (lowBits 7 value) := by
  have count : (8 * (7 * values.length / 8) + 6) / 7 = values.length := by omega
  have bits : 2 ^ (8 * (7 * values.length / 8)) = 128 ^ values.length := by
    rw [show 8 * (7 * values.length / 8) = 7 * values.length by omega, pow_mul]
    norm_num
  rw [pack_unpack_eq, count, bits, leastDigits_mod _ _ _ (by decide), leastDigits_streamNumber]

section Last

variable (front : List Int) (last : Int)

theorem streamNumber_concat :
    streamNumber 7 (front ++ [last]) =
      streamNumber 7 front + 128 ^ front.length * lowBits 7 last := by
  rw [streamNumber_append]
  simp [streamNumber]

theorem leastDigits_front :
    leastDigits 128 front.length (streamNumber 7 (front ++ [last])) =
      front.map fun value => .ofNat (lowBits 7 value) := by
  rw [streamNumber_concat, leastDigits_add_mul _ _ _ _ (by decide), leastDigits_streamNumber]

theorem streamNumber_last :
    streamNumber 7 (front ++ [last]) / 128 ^ front.length = lowBits 7 last := by
  have below : streamNumber 7 front < 128 ^ front.length := streamNumber_lt 7 front (by decide)
  rw [streamNumber_concat, Nat.add_mul_div_left _ _ (by positivity), Nat.div_eq_of_lt below,
    Nat.zero_add]

theorem pack_unpack_single (whole : front.length % 8 = 0) :
    pack (unpack (front ++ [last])).values = front.map fun value => .ofNat (lowBits 7 value) := by
  have size : (front ++ [last]).length = front.length + 1 := by simp
  have count : (8 * (7 * (front.length + 1) / 8) + 6) / 7 = front.length := by omega
  have bits : 2 ^ (8 * (7 * (front.length + 1) / 8)) = 128 ^ front.length := by
    rw [show 8 * (7 * (front.length + 1) / 8) = 7 * front.length by omega, pow_mul]
    norm_num
  rw [pack_unpack_eq, size, count, bits, leastDigits_mod _ _ _ (by decide), leastDigits_front]

theorem pack_unpack_partial (rest : Nat) (part : front.length % 8 = rest + 1) (inside : rest < 6) :
    pack (unpack (front ++ [last])).values =
      (front.map fun value => .ofNat (lowBits 7 value)) ++
        [.ofNat (lowBits 7 last % 2 ^ (rest + 1))] := by
  have size : (front ++ [last]).length = front.length + 1 := by simp
  have bytes : 8 * (7 * (front.length + 1) / 8) = 7 * front.length + (rest + 1) := by omega
  have count : (7 * front.length + (rest + 1) + 6) / 7 = front.length + 1 := by omega
  have bits : 2 ^ (7 * front.length + (rest + 1)) = 128 ^ front.length * 2 ^ (rest + 1) := by
    rw [pow_add, pow_mul]
    norm_num
  have small : lowBits 7 last % 2 ^ (rest + 1) < 128 :=
    lt_of_le_of_lt (Nat.mod_le _ _) (lowBits_lt 7 last)
  rw [pack_unpack_eq, size, bytes, count, bits, leastDigits_cut _ _ _ _ (by decide),
    leastDigits_front, streamNumber_last, leastDigits, leastDigits, Nat.mod_eq_of_lt small]

end Last

section Repacked

variable {front : List Int} {last : Int}

theorem repacked_whole {values : List Int} (whole : values.length % 8 = 0) :
    repacked values = values.map (· % 128) := by
  rw [repacked, whole]

theorem repacked_single (whole : front.length % 8 = 0) :
    repacked (front ++ [last]) = front.map (· % 128) := by
  have size : (front ++ [last]).length % 8 = 1 := by
    rw [List.length_append, List.length_singleton]
    omega
  rw [repacked, size, List.map_append, List.map_singleton, List.dropLast_concat]

theorem repacked_partial {rest : Nat} (part : (front.length + 1) % 8 = rest + 2) :
    repacked (front ++ [last]) = front.map (· % 128) ++ [last % 128 % 2 ^ (rest + 1)] := by
  have size : (front ++ [last]).length % 8 = rest + 2 := by
    rw [List.length_append, List.length_singleton, part]
  rw [repacked, size, List.map_append, List.map_singleton, List.dropLast_concat,
    List.getLast?_concat]
  rfl

end Repacked

theorem values_pack_unpack (values : List Int) :
    (pack (unpack values).values).values = repacked values := by
  have kept := values_lowBits 7 (by decide)
  rcases List.eq_nil_or_concat values with rfl | ⟨front, last, rfl⟩
  · rfl
  rw [List.concat_eq_append]
  match residue : (front.length + 1) % 8 with
  | 0 =>
      have whole : (front ++ [last]).length % 8 = 0 := by simpa using residue
      rw [pack_unpack_whole _ whole, kept, repacked_whole whole]
      rfl
  | 1 =>
      have whole : front.length % 8 = 0 := by omega
      rw [pack_unpack_single front last whole, kept, repacked_single whole]
      rfl
  | rest + 2 =>
      have part : lowBits 7 last % 2 ^ (rest + 1) < 256 :=
        lt_of_le_of_lt (Nat.mod_le _ _) (lt_trans (lowBits_lt 7 last) (by decide))
      have digit : Bytes.values [.ofNat (lowBits 7 last % 2 ^ (rest + 1))] =
          [last % 128 % 2 ^ (rest + 1)] := by
        simp only [Bytes.values, List.map_singleton, UInt8.toNat_ofNat', Nat.mod_eq_of_lt part,
          Int.natCast_mod, natCast_lowBits]
        norm_num
      rw [pack_unpack_partial front last rest (by omega) (by omega), Bytes.values_append, kept,
        digit, repacked_partial residue]
      rfl

theorem repacked_eq_iff (values : List Int) :
    repacked values = values.map (· % 128) ↔
      values.length % 8 = 0 ∨ 2 ≤ values.length % 8 ∧
        ∀ last ∈ values.getLast?, last % 128 < 2 ^ (values.length % 8 - 1) := by
  rcases List.eq_nil_or_concat values with rfl | ⟨front, last, rfl⟩
  · simp [repacked]
  rw [List.concat_eq_append, List.getLast?_concat, List.length_append, List.length_singleton]
  match residue : (front.length + 1) % 8 with
  | 0 =>
      have whole : (front ++ [last]).length % 8 = 0 := by simpa using residue
      simp [repacked_whole whole]
  | 1 =>
      rw [repacked_single (by omega)]
      simp
  | rest + 2 =>
      have positive : (0 : Int) < 2 ^ (rest + 1) := by positivity
      have least : 0 ≤ last % 128 := Int.emod_nonneg last (by decide)
      have short : last % 128 % 2 ^ (rest + 1) = last % 128 ↔ last % 128 < 2 ^ (rest + 1) := by
        constructor
        · intro same
          rw [← same]
          exact Int.emod_lt_of_pos _ positive
        · intro below
          exact Int.emod_eq_of_lt least below
      rw [repacked_partial residue, List.map_append, List.map_singleton, List.append_cancel_left_eq,
        List.cons.injEq, short]
      simp

/-- Packing and unpacking are inverse up to the bits that have no place in a byte. -/
theorem packing_exact (raw packed : List Int) :
    (unpack (pack raw).values).values = raw.map (· % 256) ∧
    (∀ byte ∈ pack raw, byte ≤ 0x7F) ∧
    (pack (unpack packed).values).values = repacked packed ∧
    ((pack (unpack packed).values).values = packed.map (· % 128) ↔
      packed.length % 8 = 0 ∨ 2 ≤ packed.length % 8 ∧
        ∀ last ∈ packed.getLast?, last % 128 < 2 ^ (packed.length % 8 - 1)) := by
  refine ⟨?_, ?_, values_pack_unpack packed, ?_⟩
  · rw [unpack_pack, values_lowBits 8 (by decide)]
    rfl
  · intro byte member
    have below := pack_lt raw byte member
    rw [UInt8.le_iff_toNat_le]
    exact Nat.lt_succ_iff.mp below
  · rw [values_pack_unpack, repacked_eq_iff]

end Andromeda
