import Andromeda.Proofs.Block.Layout
import Mathlib.Tactic.Ring

namespace Andromeda

structure Header.InRange (header : Header) : Prop where
  version : 0 ≤ header.version ∧ header.version < 2 ^ 32
  checksum : 0 ≤ header.checksum ∧ header.checksum < 2 ^ 32
  length : 0 ≤ header.length ∧ header.length < 2 ^ 32
  blockCount : 0 ≤ header.blockCount ∧ header.blockCount < 2 ^ 16
  blockIndex : 0 ≤ header.blockIndex ∧ header.blockIndex < 2 ^ 16

def Header.number (header : Header) : Int :=
  (((header.version * 2 ^ 32 + header.checksum) * 2 ^ 32 + header.length) * 2 ^ 16 +
    header.blockCount) * 2 ^ 16 + header.blockIndex

/-- Some bytes are the wire form of a header, and are read as that header in front of a block. -/
structure Header.WrittenAs (header : Header) (wire : Bytes) : Prop where
  length : wire.length = 16
  number : (ofBigEndian wire : Int) = header.number
  read : ∀ data : Bytes, data.length = 256 → ∀ offset,
    Header.ofBlock (wire ++ data) offset = .ok header

structure Header.ReadsBack (block : Bytes) (offset : Int) : Prop where
  whole : block.length = 272 → ∃ header, Header.ofBlock block offset = .ok header ∧
    header.toBytes? = some (block.take 16)
  other : block.length ≠ 272 →
    Header.ofBlock block offset = .error (.malformedBlock block.length 272 offset)

theorem ofBigEndian_append (front back : Bytes) :
    ofBigEndian (front ++ back) = ofBigEndian front * 256 ^ back.length + ofBigEndian back := by
  induction back using List.reverseRecOn with
  | nil => simp [ofBigEndian]
  | append_singleton back byte ih =>
      calc
        ofBigEndian (front ++ (back ++ [byte])) =
            ofBigEndian (front ++ back) * 256 + byte.toNat := by
          rw [← List.append_assoc, ofBigEndian_concat]
        _ = (ofBigEndian front * 256 ^ back.length + ofBigEndian back) * 256 + byte.toNat := by
          rw [ih]
        _ = ofBigEndian front * 256 ^ (back ++ [byte]).length + ofBigEndian (back ++ [byte]) := by
          rw [ofBigEndian_concat, List.length_append, List.length_singleton, Nat.pow_succ]
          ring

theorem ofBigEndian_lt (bytes : Bytes) : ofBigEndian bytes < 256 ^ bytes.length := by
  induction bytes using List.reverseRecOn with
  | nil => decide
  | append_singleton bytes byte ih =>
      have below : byte.toNat < 256 := byte.toNat_lt
      rw [ofBigEndian_concat, List.length_append, List.length_singleton, Nat.pow_succ]
      omega

theorem fieldAt_lt (block : Bytes) (position width : Nat) :
    fieldAt block position width < (256 ^ width : Nat) := by
  have short : ((block.drop position).take width).length ≤ width := List.length_take_le _ _
  apply Int.ofNat_lt.mpr
  calc
    ofBigEndian ((block.drop position).take width) <
        256 ^ ((block.drop position).take width).length := ofBigEndian_lt _
    _ ≤ 256 ^ width := Nat.pow_le_pow_right (by decide) short

theorem Header.read_inRange (block : Bytes) : (Header.read block).InRange := by
  have bounds (position width : Nat) : 0 ≤ fieldAt block position width ∧
      fieldAt block position width < (256 ^ width : Nat) :=
    ⟨fieldAt_nonneg block position width, fieldAt_lt block position width⟩
  exact ⟨bounds 0 4, bounds 4 4, bounds 8 4, bounds 12 2, bounds 14 2⟩

theorem fitsWord_iff {width : Nat} {value : Int} :
    fitsWord width value = true ↔ 0 ≤ value ∧ value < (256 ^ width : Nat) := by
  simp only [fitsWord, Bool.and_eq_true, decide_eq_true_eq, Nat.pow_eq]

theorem Header.fits_iff (header : Header) : header.fits = true ↔ header.InRange := by
  simp only [Header.fits, Bool.and_eq_true, fitsWord_iff]
  constructor
  · intro fits
    obtain ⟨⟨⟨⟨version, checksum⟩, length⟩, blockCount⟩, blockIndex⟩ := fits
    exact ⟨version, checksum, length, blockCount, blockIndex⟩
  · intro range
    exact ⟨⟨⟨⟨range.version, range.checksum⟩, range.length⟩, range.blockCount⟩, range.blockIndex⟩

theorem Header.toBytes?_eq_some_iff {header : Header} {wire : Bytes} :
    header.toBytes? = some wire ↔ header.InRange ∧ wire = header.bytes := by
  rw [Header.toBytes?, Option.ite_none_right_eq_some, header.fits_iff, Option.some.injEq]
  exact and_congr_right fun _ => eq_comm

theorem Header.InRange.number_eq {header : Header} (range : header.InRange) :
    (ofBigEndian header.bytes : Int) = header.number := by
  have fits := header.fits_iff.mpr range
  simp only [Header.fits, Bool.and_eq_true] at fits
  obtain ⟨⟨⟨⟨version, checksum⟩, length⟩, blockCount⟩, blockIndex⟩ := fits
  rw [Header.bytes, ofBigEndian_append, ofBigEndian_append, ofBigEndian_append,
    ofBigEndian_append]
  simp only [length_bigEndian, Nat.cast_add, Nat.cast_mul, ofBigEndian_word version,
    ofBigEndian_word checksum, ofBigEndian_word length, ofBigEndian_word blockCount,
    ofBigEndian_word blockIndex]
  rfl

theorem Header.InRange.writtenAs {header : Header} (range : header.InRange) :
    header.WrittenAs header.bytes := by
  constructor
  · exact header.length_bytes
  · exact range.number_eq
  · intro data size offset
    have whole : (header.bytes ++ data).length = blockLength := by
      rw [List.length_append, header.length_bytes, size]
      rfl
    rw [Header.ofBlock_eq, if_pos whole, header.read_bytes (header.fits_iff.mpr range)]

theorem Header.readsBack (block : Bytes) (offset : Int) : Header.ReadsBack block offset := by
  constructor
  · intro size
    have long : headerLength ≤ block.length := by
      rw [size]
      decide
    have written : (Header.read block).toBytes? = some (block.take headerLength) :=
      Header.toBytes?_eq_some_iff.mpr
        ⟨Header.read_inRange block, (Header.bytes_read block long).symm⟩
    exact ⟨Header.read block, if_pos size, written⟩
  · intro size
    exact if_neg size

/-- A header is written exactly when its fields fit, in the one way that is read as that header
again, and a byte string is read exactly when it is a whole block, as a header that is written as
the front of it. -/
theorem header_wire_exact :
    (∀ header : Header,
      ((∃ wire, header.toBytes? = some wire) ↔ header.InRange) ∧
      ∀ wire, header.toBytes? = some wire → header.WrittenAs wire) ∧
    ∀ (block : Bytes) (offset : Int), Header.ReadsBack block offset := by
  constructor
  · intro header
    constructor
    · constructor
      · intro written
        obtain ⟨wire, written⟩ := written
        exact (Header.toBytes?_eq_some_iff.mp written).1
      · intro range
        exact ⟨header.bytes, Header.toBytes?_eq_some_iff.mpr ⟨range, rfl⟩⟩
    · intro wire written
      obtain ⟨range, rfl⟩ := Header.toBytes?_eq_some_iff.mp written
      exact range.writtenAs
  · exact Header.readsBack

example :
    (Header.mk 0x01020304 0x05060708 0x090A0B0C 0x0D0E 0x0F10).toBytes? =
      some [1, 2, 3, 4, 5, 6, 7, 8, 9, 10, 11, 12, 13, 14, 15, 16] := by
  decide

end Andromeda
