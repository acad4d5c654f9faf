import Andromeda.Bytes
import Andromeda.Text.Hexadecimal
import Mathlib.Data.List.Basic

namespace Andromeda

def hexAlphabet : List Char := "0123456789ABCDEF".toList

def hexValue? (char : Char) : Option Nat := hexAlphabet.idxOf? char

def readDigit? (number : Nat) (char : Char) : Option Nat :=
  (hexValue? char).map (16 * number + ·)

def readHex? (numeral : List Char) : Option Nat :=
  if numeral = [] then none else numeral.foldlM readDigit? 0

theorem hexValue?_hexDigit {digit : Nat} (below : digit < 16) :
    hexValue? (hexDigit digit) = some digit := by
  have all : ∀ digit < 16, hexValue? (hexDigit digit) = some digit := by decide
  exact all digit below

theorem hexDigit_mem {digit : Nat} (below : digit < 16) : hexDigit digit ∈ hexAlphabet := by
  have all : ∀ digit < 16, hexDigit digit ∈ hexAlphabet := by decide
  exact all digit below

theorem hexDigits_mem {number : Nat} {char : Char} (member : char ∈ hexDigits number) :
    char ∈ hexAlphabet := by
  induction number using hexDigits.induct with
  | case1 number below =>
      rw [hexDigits, if_pos below, List.mem_singleton] at member
      exact member ▸ hexDigit_mem below
  | case2 number more ih =>
      rw [hexDigits, if_neg more, List.mem_append, List.mem_singleton] at member
      rcases member with front | rfl
      · exact ih front
      · exact hexDigit_mem (Nat.mod_lt _ (by decide))

theorem hexDigits_ne_nil (number : Nat) : hexDigits number ≠ [] := by
  rw [hexDigits]
  split <;> simp

theorem read_hexDigits (number : Nat) : (hexDigits number).foldlM readDigit? 0 = some number := by
  induction number using hexDigits.induct with
  | case1 number below =>
      rw [hexDigits, if_pos below]
      simp [readDigit?, hexValue?_hexDigit below]
  | case2 number more ih =>
      rw [hexDigits, if_neg more, List.foldlM_append, ih]
      have last := hexValue?_hexDigit (Nat.mod_lt number (by decide : 0 < 16))
      simp [readDigit?, last, Nat.div_add_mod]

theorem read_zeros (count : Nat) : (List.replicate count '0').foldlM readDigit? 0 = some 0 := by
  induction count with
  | zero => rfl
  | succ count ih => exact ih

theorem toList_hexNumeral (width number : Nat) :
    (hexNumeral width number).toList =
      List.replicate (width - (hexDigits number).length) '0' ++ hexDigits number := by
  rw [hexNumeral, if_neg (by omega), String.toList_ofList, Int.natAbs_natCast]

theorem readHex?_hexNumeral (width number : Nat) :
    readHex? (hexNumeral width number).toList = some number := by
  rw [toList_hexNumeral, readHex?, if_neg (by simp [hexDigits_ne_nil]), List.foldlM_append,
    read_zeros]
  exact read_hexDigits number

theorem hexNumeral_mem {width : Nat} {number : Int} {char : Char}
    (member : char ∈ (hexNumeral width number).toList) : char ∈ '-' :: hexAlphabet := by
  have zero : '0' ∈ hexAlphabet := by decide
  rw [hexNumeral] at member
  split at member
  all_goals
    simp only [String.toList_ofList, List.mem_cons, List.mem_append, List.mem_replicate] at member
    rw [List.mem_cons]
  · obtain rfl | ⟨-, rfl⟩ | digit := member
    · exact .inl rfl
    · exact .inr zero
    · exact .inr (hexDigits_mem digit)
  · obtain ⟨-, rfl⟩ | digit := member
    · exact .inr zero
    · exact .inr (hexDigits_mem digit)

theorem toList_hexNumeral_byte (byte : UInt8) :
    (hexNumeral 2 byte.toNat).toList =
      [hexDigit (byte.toNat / 16), hexDigit (byte.toNat % 16)] := by
  have below : byte.toNat / 16 < 16 := by
    have size := byte.toNat_lt
    omega
  rw [toList_hexNumeral, hexDigits]
  split
  case isTrue small =>
    rw [Nat.div_eq_of_lt small, Nat.mod_eq_of_lt small]
    rfl
  case isFalse =>
    rw [hexDigits, if_pos below]
    rfl

theorem decimal_mem {number : Int} {char : Char} (member : char ∈ (toString number).toList) :
    char = '-' ∨ char.isDigit := by
  have digits {number : Nat} (member : char ∈ number.repr.toList) : char.isDigit := by
    rw [Nat.toList_repr] at member
    exact Nat.isDigit_of_mem_toDigits (by decide) (by decide) member
  rw [Int.toString_eq_repr, Int.repr_eq_if] at member
  split at member
  · exact .inr (digits member)
  · rw [String.toList_append, List.mem_append] at member
    exact member.imp (fun sign => by simpa using sign) digits

end Andromeda
