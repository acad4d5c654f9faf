import Andromeda.Block
import Mathlib.Algebra.Ring.Nat
import Mathlib.Data.List.Induction

namespace Andromeda

theorem ofBigEndian_concat (bytes : Bytes) (byte : UInt8) :
    ofBigEndian (bytes ++ [byte]) = ofBigEndian bytes * 256 + byte.toNat := by
  simp [ofBigEndian, List.foldl_append]

theorem ofBigEndian_bigEndian (width number : Nat) (fits : number < 256 ^ width) :
    ofBigEndian (bigEndian width number) = number := by
  induction width generalizing number with
  | zero =>
      have none : number = 0 := by simpa using fits
      rw [none]
      rfl
  | succ width ih =>
      have higher : number / 256 < 256 ^ width :=
        Nat.div_lt_of_lt_mul (by rwa [Nat.pow_succ'] at fits)
      rw [bigEndian, ofBigEndian_concat, ih _ higher, UInt8.toNat_ofNat']
      omega

theorem bigEndian_ofBigEndian (bytes : Bytes) :
    bigEndian bytes.length (ofBigEndian bytes) = bytes := by
  induction bytes using List.reverseRecOn with
  | nil => rfl
  | append_singleton bytes byte ih =>
      have below : byte.toNat < 256 := byte.toNat_lt
      have higher : (ofBigEndian bytes * 256 + byte.toNat) / 256 = ofBigEndian bytes := by omega
      have lowest : (ofBigEndian bytes * 256 + byte.toNat) % 256 = byte.toNat := by omega
      rw [ofBigEndian_concat, List.length_append, List.length_singleton, bigEndian, higher,
        lowest, ih, UInt8.ofNat_toNat]

theorem fieldAt_between (front word back : Bytes) (position width : Nat)
    (start : front.length = position) (size : word.length = width) :
    fieldAt (front ++ (word ++ back)) position width = ofBigEndian word := by
  rw [fieldAt, ← start, ← size, List.drop_left, List.take_left]

theorem bigEndian_fieldAt (block : Bytes) (position width : Nat)
    (inside : position + width ≤ block.length) :
    bigEndian width (fieldAt block position width).toNat =
      (block.drop position).take width := by
  have size : ((block.drop position).take width).length = width := by
    rw [List.length_take, List.length_drop]
    omega
  have word := bigEndian_ofBigEndian ((block.drop position).take width)
  rwa [size] at word

theorem fieldAt_nonneg (block : Bytes) (position width : Nat) :
    0 ≤ fieldAt block position width :=
  Int.natCast_nonneg _

def Header.read (block : Bytes) : Header where
  version := fieldAt block 0 4
  checksum := fieldAt block 4 4
  length := fieldAt block 8 4
  blockCount := fieldAt block 12 2
  blockIndex := fieldAt block 14 2

theorem Header.ofBlock_eq (block : Bytes) (offset : Int) :
    Header.ofBlock block offset =
      if block.length = blockLength then .ok (Header.read block)
      else .error (.malformedBlock block.length blockLength offset) := rfl

theorem Header.length_bytes (header : Header) : header.bytes.length = headerLength := by
  simp [Header.bytes, length_bigEndian, headerLength]

theorem fitsWord_bounds {width : Nat} {value : Int} (fits : fitsWord width value = true) :
    0 ≤ value ∧ value.toNat < 256 ^ width := by
  simp only [fitsWord, Bool.and_eq_true, decide_eq_true_eq, Nat.pow_eq] at fits
  omega

theorem ofBigEndian_word {width : Nat} {value : Int} (fits : fitsWord width value = true) :
    (ofBigEndian (bigEndian width value.toNat) : Int) = value := by
  rcases fitsWord_bounds fits with ⟨least, below⟩
  rw [ofBigEndian_bigEndian width value.toNat below]
  omega

theorem Header.read_bytes (header : Header) (fits : header.fits = true) (data : Bytes) :
    Header.read (header.bytes ++ data) = header := by
  rcases header with ⟨version, checksum, length, blockCount, blockIndex⟩
  simp only [Header.fits, Bool.and_eq_true] at fits
  rcases fits with ⟨⟨⟨⟨first, second⟩, third⟩, fourth⟩, fifth⟩
  have size (width number : Nat) := length_bigEndian width number
  simp only [Header.read, Header.bytes, List.append_assoc, Header.mk.injEq]
  refine ⟨?_, ?_, ?_, ?_, ?_⟩
  · rw [← List.nil_append (bigEndian 4 version.toNat ++ _)]
    rw [fieldAt_between [] _ _ 0 4 rfl (size ..), ofBigEndian_word first]
  · rw [fieldAt_between _ _ _ 4 4 (size ..) (size ..), ofBigEndian_word second]
  · rw [← List.append_assoc]
    rw [fieldAt_between _ _ _ 8 4 (by simp [size]) (size ..), ofBigEndian_word third]
  · rw [← List.append_assoc, ← List.append_assoc]
    rw [fieldAt_between _ _ _ 12 2 (by simp [size]) (size ..), ofBigEndian_word fourth]
  · rw [← List.append_assoc, ← List.append_assoc, ← List.append_assoc]
    rw [fieldAt_between _ _ _ 14 2 (by simp [size]) (size ..), ofBigEndian_word fifth]

theorem Header.bytes_read (block : Bytes) (long : headerLength ≤ block.length) :
    (Header.read block).bytes = block.take headerLength := by
  rw [headerLength] at long
  have split : block.take 16 = block.take 4 ++ (block.drop 4).take 4 ++ (block.drop 8).take 4 ++
      (block.drop 12).take 2 ++ (block.drop 14).take 2 := by
    simp only [← List.take_add]
  simp only [Header.bytes, Header.read]
  rw [bigEndian_fieldAt _ _ _ (by omega), bigEndian_fieldAt _ _ _ (by omega),
    bigEndian_fieldAt _ _ _ (by omega), bigEndian_fieldAt _ _ _ (by omega),
    bigEndian_fieldAt _ _ _ (by omega), headerLength, split, List.drop_zero]

end Andromeda
