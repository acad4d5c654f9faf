import Andromeda.Block
import Andromeda.Proofs.Text.Numerals
import Mathlib

/-!
Version numbers and their texts. A version number is three parts in base one hundred, of which
only the first has no bounds. Its text spells the parts in order, none filled with zeros, and the
dots between them are enough to read them back, below zero as well.
-/

namespace Andromeda

structure Version where
  major : Int
  minor : Int
  patch : Int

namespace Version

def number (version : Version) : Int :=
  version.major * 10000 + version.minor * 100 + version.patch

def text (version : Version) : String := s!"{version.major}.{version.minor}.{version.patch}"

def read? (text : String) : Option Version :=
  match text.toList.splitOn '.' with
  | [major, minor, patch] => do
    let major ← (String.ofList major).toInt?
    let minor ← (String.ofList minor).toInt?
    let patch ← (String.ofList patch).toInt?
    return ⟨major, minor, patch⟩
  | _ => none

def ofNumber (number : Int) : Version := ⟨number / 10000, number / 100 % 100, number % 100⟩

theorem dot_not_mem (part : Int) : '.' ∉ (toString part).toList := by
  intro member
  rcases decimal_mem member with sign | digit
  · exact absurd sign (by decide)
  · exact absurd digit (by decide)

theorem toList_text (version : Version) :
    version.text.toList = (toString version.major).toList ++ '.' ::
      ((toString version.minor).toList ++ '.' :: (toString version.patch).toList) := by
  simp only [text, String.toList_append, List.append_assoc]
  rfl

theorem splitOn_text (version : Version) :
    version.text.toList.splitOn '.' =
      [(toString version.major).toList, (toString version.minor).toList,
        (toString version.patch).toList] := by
  -- No numeral has a dot, so every dot of the text stands between two parts.
  rw [toList_text, List.splitOn_append_cons_self_of_not_mem (dot_not_mem _),
    List.splitOn_append_cons_self_of_not_mem (dot_not_mem _),
    List.splitOn_eq_singleton (dot_not_mem _)]

theorem toInt?_toString (part : Int) :
    (String.ofList (toString part).toList).toInt? = some part := by
  rw [String.ofList_toList, Int.toString_eq_repr, Int.toInt?_repr]

theorem read?_text (version : Version) : read? version.text = some version := by
  rw [read?, splitOn_text]
  simp only [toInt?_toString]
  rfl

theorem text_injective : Function.Injective text := by
  intro first second same
  rw [← Option.some.injEq, ← read?_text first, same, read?_text]

theorem number_ofNumber (number : Int) : (ofNumber number).number = number := by
  simp only [Version.number, ofNumber]
  omega

theorem versionText_eq (number : Int) : versionText number = (ofNumber number).text := rfl

end Version

theorem versionText_injective : Function.Injective versionText := by
  intro first second same
  have parts : Version.ofNumber first = Version.ofNumber second := Version.text_injective same
  rw [← Version.number_ofNumber first, parts, Version.number_ofNumber]

/-- The text of a version number spells parts that make up the number, and they are read back from
it. So different versions have different texts. -/
theorem versionText_faithful :
    (∀ number : Int, ∃ version : Version,
      versionText number = version.text ∧
      Version.read? (versionText number) = some version ∧
      (0 ≤ version.minor ∧ version.minor ≤ 99) ∧
      (0 ≤ version.patch ∧ version.patch ≤ 99) ∧
      version.number = number) ∧
    Function.Injective versionText ∧
    ∀ first second : Header,
      versionText first.version = versionText second.version ↔ first.version = second.version := by
  refine ⟨?_, versionText_injective, ?_⟩
  · intro number
    have minor : 0 ≤ number / 100 % 100 ∧ number / 100 % 100 ≤ 99 := by omega
    have patch : 0 ≤ number % 100 ∧ number % 100 ≤ 99 := by omega
    refine ⟨.ofNumber number, ?_, ?_, minor, patch, Version.number_ofNumber number⟩
    · exact Version.versionText_eq number
    · rw [Version.versionText_eq, Version.read?_text]
  · intro first second
    exact versionText_injective.eq_iff

example : versionText (-1) = "-1.99.99" := by
  decide

end Andromeda
