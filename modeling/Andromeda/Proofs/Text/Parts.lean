import Mathlib.Data.List.Basic

namespace Andromeda

def wordsOf (text : List Char) : List (List Char) := (text.splitOn ' ').filter (· ≠ [])

/-- The lines of a text. An empty text has none. -/
def linesOf (text : String) : List String :=
  if text = "" then [] else (text.toList.splitOn '\n').map .ofList

theorem wordsOf_append (first second : List Char) :
    wordsOf (first ++ ' ' :: second) = wordsOf first ++ wordsOf second := by
  rw [wordsOf, List.splitOn_append_cons_self, List.filter_append]
  rfl

theorem wordsOf_space (text : List Char) : wordsOf (' ' :: text) = wordsOf text :=
  wordsOf_append [] text

theorem wordsOf_spaces (text : List Char) (count : Nat) :
    wordsOf (text ++ List.replicate count ' ') = wordsOf text := by
  induction count with
  | zero => simp
  | succ count ih =>
      rw [List.replicate_succ', ← List.append_assoc, wordsOf_append, ih]
      exact List.append_nil _

theorem wordsOf_intercalate {parts : List (List Char)}
    (each : ∀ part ∈ parts, ' ' ∉ part ∧ part ≠ []) :
    wordsOf ([' '].intercalate parts) = parts := by
  cases parts with
  | nil => rfl
  | cons part parts =>
      rw [wordsOf, List.splitOn_intercalate ' ' (fun part member => (each part member).1) (by simp),
        List.filter_eq_self]
      exact fun part member => decide_eq_true (each part member).2

theorem linesOf_intercalate {lines : List String}
    (each : ∀ line ∈ lines, '\n' ∉ line.toList ∧ line ≠ "") :
    linesOf ("\n".intercalate lines) = lines := by
  cases lines with
  | nil => rfl
  | cons line lines =>
      have parted : ("\n".intercalate (line :: lines)).toList.splitOn '\n' =
          (line :: lines).map String.toList := by
        rw [String.toList_intercalate]
        apply List.splitOn_intercalate
        · exact List.forall_mem_map.mpr fun line member => (each line member).1
        · simp
      rw [linesOf, parted, List.map_map]
      split
      case isTrue empty =>
        rw [empty] at parted
        have first := (List.cons.inj parted).1
        exact absurd (String.toList_inj.mp first.symm) (each line List.mem_cons_self).2
      case isFalse => simp

end Andromeda
