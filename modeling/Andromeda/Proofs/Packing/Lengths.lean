import Andromeda.Proofs.Packing.Stream
import Mathlib.Data.Int.ConditionallyCompleteOrder

namespace Andromeda

theorem unpackedLength_eq (packed : Int) : unpackedLength packed = 7 * packed / 8 := by
  rw [unpackedLength]
  omega

theorem packedLength_eq (raw : Int) : packedLength raw = (8 * raw + 6) / 7 := by
  rw [packedLength]
  omega

theorem natCast_length_unpack (values : List Int) :
    ((unpack values).length : Int) = unpackedLength values.length := by
  rw [length_unpack, unpackedLength_eq]
  rfl

theorem natCast_length_pack (values : List Int) :
    ((pack values).length : Int) = packedLength values.length := by
  rw [length_pack, packedLength_eq]
  rfl

theorem packedLength_adjoint : GaloisConnection packedLength unpackedLength := by
  intro raw packed
  rw [packedLength_eq, unpackedLength_eq]
  omega

theorem unpackedLength_packedLength (raw : Int) : unpackedLength (packedLength raw) = raw := by
  rw [packedLength_eq, unpackedLength_eq]
  omega

/-- The two lengths are those of unpacked and of packed values. The packed length of raw bytes is
the least one that holds them, and it holds no more than them. -/
theorem lengths_adjoint :
    (∀ values : List Int,
      ((unpack values).length : Int) = unpackedLength values.length ∧
      ((pack values).length : Int) = packedLength values.length) ∧
    (∀ packed raw : Int, raw ≤ unpackedLength packed ↔ packedLength raw ≤ packed) ∧
    (∀ raw : Int, IsLeast {packed | raw ≤ unpackedLength packed} (packedLength raw)) ∧
    (∀ raw : Int, unpackedLength (packedLength raw) = raw) ∧
    ∀ raw packed : List Int,
      raw.length ≤ (unpack packed).length ↔ (pack raw).length ≤ packed.length := by
  refine ⟨?_, ?_, ?_, unpackedLength_packedLength, ?_⟩
  · intro values
    exact ⟨natCast_length_unpack values, natCast_length_pack values⟩
  · intro packed raw
    exact (packedLength_adjoint raw packed).symm
  · intro raw
    exact packedLength_adjoint.isLeast_l
  · intro raw packed
    rw [← Int.ofNat_le, natCast_length_unpack, ← packedLength_adjoint, ← natCast_length_pack,
      Int.ofNat_le]

example : packedLength 272 = 311 ∧ unpackedLength 311 = 272 ∧ unpackedLength 310 = 271 := by
  decide

end Andromeda
