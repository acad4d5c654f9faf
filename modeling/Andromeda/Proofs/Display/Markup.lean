import Andromeda.Display.Markup
import Mathlib.Data.List.Basic
import Mathlib.Data.List.Induction

/-!
What is read in a marked-up text. The pieces spell the text, and the tags among them are the ones
that stand in it: a bracket that an even number of backslashes stands in front of, a name, and the
closing bracket. A tag ends where it closes, whatever follows, so a text is read part by part as
long as no part runs on into the next one.
-/

namespace Andromeda

def Piece.text : Piece → List Char
  | .char letter => [letter]
  | .tag name => '[' :: (name ++ [']'])

structure IsTagName (name : List Char) : Prop where
  head : ∃ first rest, name = first :: rest ∧ opensTag first = true
  no_opening : '[' ∉ name
  no_closing : ']' ∉ name

theorem isTagName_iff {name : List Char} :
    IsTagName name ↔ name.head?.any opensTag = true ∧ '[' ∉ name ∧ ']' ∉ name := by
  have head : (∃ first rest, name = first :: rest ∧ opensTag first = true) ↔
      name.head?.any opensTag = true := by
    cases name <;> simp
  rw [← head]
  exact ⟨fun named => ⟨named.head, named.no_opening, named.no_closing⟩,
    fun named => ⟨named.1, named.2.1, named.2.2⟩⟩

instance (name : List Char) : Decidable (IsTagName name) := decidable_of_iff _ isTagName_iff.symm

/-- An odd number of backslashes stands at the end of a text. -/
def EndsEscaped (text : List Char) : Prop :=
  (text.reverse.takeWhile (· = '\\')).length % 2 = 1

structure TagBehind (text front name : List Char) : Prop where
  isTagName : IsTagName name
  place : ∃ back, text = front ++ '[' :: (name ++ ']' :: back)
  unescaped : ¬ EndsEscaped front

/-- Whether the character behind a text is escaped, given whether the text itself is. -/
def escapedBehind (escaped : Bool) (text : List Char) : Bool :=
  text.foldl (fun escaped char => char = '\\' && !escaped) escaped

/-- A text is read as some pieces, and what follows it is read as if nothing stood in front. -/
def Reads (text : List Char) (found : List Piece) : Prop :=
  ∀ rest, pieces (text ++ rest) = found ++ pieces rest

theorem escapedBehind_concat (escaped : Bool) (text : List Char) (char : Char) :
    escapedBehind escaped (text ++ [char]) =
      (decide (char = '\\') && !escapedBehind escaped text) := by
  rw [escapedBehind, List.foldl_append]
  rfl

theorem escapedBehind_iff (text : List Char) :
    escapedBehind false text = true ↔ EndsEscaped text := by
  induction text using List.reverseRecOn with
  | nil => simp [escapedBehind, EndsEscaped]
  | append_singleton text char ih =>
      rw [escapedBehind_concat, Bool.and_eq_true, Bool.not_eq_true', ← Bool.not_eq_true, ih,
        decide_eq_true_eq]
      by_cases backslash : char = '\\'
      · simp only [EndsEscaped, backslash, List.reverse_append, List.reverse_singleton,
          List.singleton_append, List.takeWhile_cons, decide_true, if_true, List.length_cons,
          true_and]
        omega
      · simp [EndsEscaped, backslash]

theorem not_endsEscaped {text : List Char} (none : '\\' ∉ text) : ¬ EndsEscaped text := by
  rw [← escapedBehind_iff]
  rcases List.eq_nil_or_concat text with rfl | ⟨front, char, rfl⟩
  · exact Bool.false_ne_true
  · have other : char ≠ '\\' := fun same => none (by simp [same])
    simp [escapedBehind_concat, other]

theorem opensTag_ne {char : Char} (opens : opensTag char = true) : char ≠ '[' ∧ char ≠ ']' := by
  constructor <;> rintro rfl <;> exact absurd opens (by decide)

theorem tagName?_eq_some_iff {done chars name rest : List Char} :
    tagName? done chars = some (name, rest) ↔
      ∃ more, chars = more ++ ']' :: rest ∧ name = done.reverse ++ more ∧
        '[' ∉ more ∧ ']' ∉ more := by
  induction chars generalizing done with
  | nil => simp [tagName?]
  | cons char chars ih =>
      rw [tagName?]
      split
      case isTrue closes =>
        subst closes
        constructor
        · intro found
          cases found
          exact ⟨[], rfl, (List.append_nil _).symm, List.not_mem_nil, List.not_mem_nil⟩
        · rintro ⟨_ | ⟨first, more⟩, same, rfl, _, open_inside⟩
          · cases same
            rw [List.append_nil]
          · cases same
            exact absurd List.mem_cons_self open_inside
      case isFalse inside =>
        split
        case isTrue opens =>
          subst opens
          constructor
          · intro found
            cases found
          · rintro ⟨_ | ⟨first, more⟩, same, _, opening, _⟩
            · cases same
            · cases same
              exact absurd List.mem_cons_self opening
        case isFalse plain =>
          rw [ih]
          constructor
          · rintro ⟨more, rfl, rfl, opening, closing⟩
            refine ⟨char :: more, rfl, by simp, ?_, ?_⟩
            · exact List.not_mem_cons_of_ne_of_not_mem (Ne.symm plain) opening
            · exact List.not_mem_cons_of_ne_of_not_mem (Ne.symm inside) closing
          · rintro ⟨_ | ⟨first, more⟩, same, rfl, opening, closing⟩
            · cases same
              exact absurd rfl inside
            · cases same
              exact ⟨more, rfl, by simp, List.not_mem_of_not_mem_cons opening,
                List.not_mem_of_not_mem_cons closing⟩

theorem tagAt?_eq_some_iff {text name rest : List Char} :
    tagAt? text = some (name, rest) ↔
      text = '[' :: (name ++ ']' :: rest) ∧ IsTagName name := by
  constructor
  · intro found
    rw [tagAt?.eq_def] at found
    split at found
    case h_2 => cases found
    case h_1 char chars =>
      split at found
      case isFalse => cases found
      case isTrue opens =>
        obtain ⟨more, rfl, rfl, opening, closing⟩ := tagName?_eq_some_iff.mp found
        have other := opensTag_ne opens
        refine ⟨rfl, ⟨char, more, rfl, opens⟩, ?_, ?_⟩
        · exact List.not_mem_cons_of_ne_of_not_mem other.1.symm opening
        · exact List.not_mem_cons_of_ne_of_not_mem other.2.symm closing
  · rintro ⟨rfl, ⟨first, more, rfl, opens⟩, opening, closing⟩
    rw [List.cons_append, tagAt?, if_pos opens, tagName?_eq_some_iff]
    exact ⟨more, rfl, rfl, List.not_mem_of_not_mem_cons opening, List.not_mem_of_not_mem_cons closing⟩

section Reading

variable {escaped : Bool} {text front rest name : List Char} {char : Char} {found : List Piece}

theorem piecesFrom_done (escaped : Bool) (skip : Nat) (done : List Piece) (text : List Char) :
    piecesFrom escaped skip done text = done.reverse ++ piecesFrom escaped skip [] text := by
  induction text generalizing escaped skip done with
  | nil => simp [piecesFrom]
  | cons char chars ih =>
      cases skip with
      | succ skip => exact ih ..
      | zero =>
          simp only [piecesFrom]
          split
          · rw [ih, ih _ _ [_]]; simp
          · rw [ih, ih _ _ [_]]; simp

theorem piecesFrom_skip (front rest : List Char) :
    piecesFrom false front.length [] (front ++ rest) = pieces rest := by
  induction front with
  | nil => rfl
  | cons char front ih => exact ih

theorem pieces_of_tag (isTagName : IsTagName name) (rest : List Char) :
    pieces ('[' :: (name ++ ']' :: rest)) = .tag name :: pieces rest := by
  have found := tagAt?_eq_some_iff.mpr
    ⟨(rfl : '[' :: (name ++ ']' :: rest) = '[' :: (name ++ ']' :: rest)), isTagName⟩
  have inside := piecesFrom_skip (name ++ [']']) rest
  rw [List.append_assoc, List.length_append] at inside
  simp only [pieces, piecesFrom, Bool.false_eq_true, if_false, found]
  rw [piecesFrom_done]
  exact congrArg _ inside

theorem piecesFrom_of_char
    (none : escaped = true ∨ ∀ name more, tagAt? (char :: rest) ≠ some (name, more)) :
    piecesFrom escaped 0 [] (char :: rest) =
      .char char :: piecesFrom (char = '\\' && !escaped) 0 [] rest := by
  have plain : (if escaped then Option.none else tagAt? (char :: rest)) = Option.none := by
    obtain rfl | none := none
    · rfl
    · split
      · rfl
      · exact Option.eq_none_iff_forall_ne_some.mpr fun found => none found.1 found.2
  rw [piecesFrom, plain, piecesFrom_done]
  rfl

theorem piecesFrom_plain (none : '[' ∉ text) (escaped : Bool) (rest : List Char) :
    piecesFrom escaped 0 [] (text ++ rest) =
      text.map .char ++ piecesFrom (escapedBehind escaped text) 0 [] rest := by
  induction text generalizing escaped with
  | nil => rfl
  | cons char text ih =>
      have first := List.ne_of_not_mem_cons none
      have later := List.not_mem_of_not_mem_cons none
      have no_tag (name more : List Char) :
          tagAt? (char :: (text ++ rest)) ≠ some (name, more) := by
        intro tag
        exact first (List.cons.inj (tagAt?_eq_some_iff.mp tag).1).1.symm
      rw [List.cons_append, piecesFrom_of_char (.inr no_tag), ih later]
      rfl

theorem reading_cases (escaped : Bool) (char : Char) (rest : List Char) :
    (∃ name more, escaped = false ∧ char :: rest = '[' :: (name ++ ']' :: more) ∧
        IsTagName name) ∨
      (escaped = true ∨ ∀ name more, tagAt? (char :: rest) ≠ some (name, more)) := by
  by_cases tag : ∃ name more, tagAt? (char :: rest) = some (name, more)
  case neg => exact .inr (.inr fun name more found => tag ⟨name, more, found⟩)
  obtain ⟨name, more, found⟩ := tag
  obtain ⟨same, isTagName⟩ := tagAt?_eq_some_iff.mp found
  cases escaped with
  | true => exact .inr (.inl rfl)
  | false => exact .inl ⟨name, more, rfl, same, isTagName⟩

theorem escapedBehind_tag (escaped : Bool) (name rest : List Char) :
    escapedBehind escaped ('[' :: (name ++ ']' :: rest)) = escapedBehind false rest := by
  rw [escapedBehind, List.foldl_cons, List.foldl_append, List.foldl_cons]
  rfl

@[elab_as_elim]
theorem reading_induction {motive : Bool → List Char → Prop} (nil : ∀ escaped, motive escaped [])
    (tag : ∀ name more, IsTagName name → motive false more →
      motive false ('[' :: (name ++ ']' :: more)))
    (char : ∀ escaped char rest,
      (escaped = true ∨ ∀ name more, tagAt? (char :: rest) ≠ some (name, more)) →
      motive (char = '\\' && !escaped) rest → motive escaped (char :: rest))
    (escaped : Bool) (text : List Char) : motive escaped text := by
  induction size : text.length using Nat.strongRecOn generalizing escaped text with
  | ind length ih =>
      subst size
      cases text with
      | nil => exact nil escaped
      | cons first rest =>
          rcases reading_cases escaped first rest with ⟨name, more, rfl, same, isTagName⟩ | none
          · have shorter : more.length < (first :: rest).length := by
              rw [same]
              simp only [List.length_cons, List.length_append]
              omega
            rw [same]
            exact tag name more isTagName (ih _ shorter false more rfl)
          · exact char escaped first rest none (ih _ (Nat.lt_succ_self _) _ rest rfl)

theorem text_piecesFrom (escaped : Bool) (text : List Char) :
    (piecesFrom escaped 0 [] text).flatMap Piece.text = text := by
  induction escaped, text using reading_induction with
  | nil escaped => rfl
  | tag name more isTagName ih =>
      change (pieces _).flatMap Piece.text = _
      rw [pieces_of_tag isTagName, List.flatMap_cons, pieces, ih]
      simp [Piece.text]
  | char escaped char rest none ih =>
      rw [piecesFrom_of_char none, List.flatMap_cons, ih]
      rfl

/-- No tag goes on beyond an opening bracket: if none begins here, then none does if a bracket
comes later. -/
theorem no_tag_before_bracket (none : ∀ name more, tagAt? (char :: front) ≠ some (name, more))
    (name more : List Char) : tagAt? (char :: (front ++ '[' :: rest)) ≠ some (name, more) := by
  intro tag
  obtain ⟨same, isTagName⟩ := tagAt?_eq_some_iff.mp tag
  obtain ⟨rfl, later⟩ := List.cons.inj same
  -- The tag would end in front of the bracket, or have it in its name.
  rcases List.append_eq_append_iff.mp later with ⟨beyond, rfl, split⟩ | ⟨behind, rfl, split⟩
  · cases beyond with
    | nil => cases split
    | cons first beyond =>
        cases split
        exact isTagName.no_opening (by simp)
  · cases behind with
    | nil => cases split
    | cons first behind =>
        cases split
        exact none name behind (tagAt?_eq_some_iff.mpr ⟨rfl, isTagName⟩)

theorem piecesFrom_before_bracket (escaped : Bool) (front rest : List Char) :
    piecesFrom escaped 0 [] (front ++ '[' :: rest) = piecesFrom escaped 0 [] front ++
      piecesFrom (escapedBehind escaped front) 0 [] ('[' :: rest) := by
  induction escaped, front using reading_induction with
  | nil escaped => rfl
  | tag name more isTagName ih =>
      have whole : '[' :: (name ++ ']' :: more) ++ '[' :: rest =
          '[' :: (name ++ ']' :: (more ++ '[' :: rest)) := by
        simp
      rw [escapedBehind_tag, whole]
      change pieces _ = pieces _ ++ _
      rw [pieces_of_tag isTagName, pieces_of_tag isTagName, pieces, ih]
      rfl
  | char escaped char front none ih =>
      have none_yet : escaped = true ∨
          ∀ name more, tagAt? (char :: (front ++ '[' :: rest)) ≠ some (name, more) :=
        none.imp_right no_tag_before_bracket
      rw [List.cons_append, piecesFrom_of_char none_yet, piecesFrom_of_char none, ih]
      rfl

theorem tag_of_mem_piecesFrom {escaped : Bool} {text : List Char} {before after : List Piece}
    (found : piecesFrom escaped 0 [] text = before ++ .tag name :: after) :
    IsTagName name ∧ (∃ back, text = before.flatMap Piece.text ++ '[' :: (name ++ ']' :: back)) ∧
      escapedBehind escaped (before.flatMap Piece.text) = false := by
  induction escaped, text using reading_induction generalizing before with
  | nil escaped => cases before <;> cases found
  | tag first more isTagName ih =>
      have read := pieces_of_tag isTagName more
      rw [pieces, found] at read
      cases before with
      | nil =>
          obtain ⟨head, _⟩ := List.cons.inj read
          cases head
          exact ⟨isTagName, ⟨more, rfl⟩, rfl⟩
      | cons piece before =>
          obtain ⟨rfl, later⟩ := List.cons.inj read
          obtain ⟨named, ⟨back, place⟩, unescaped⟩ := ih later.symm
          refine ⟨named, ⟨back, ?_⟩, ?_⟩
          · rw [place]
            simp [Piece.text]
          · have behind := escapedBehind_tag false first (before.flatMap Piece.text)
            rw [unescaped] at behind
            simpa [Piece.text] using behind
  | char escaped char rest none ih =>
      rw [piecesFrom_of_char none] at found
      cases before with
      | nil => cases found
      | cons piece before =>
          obtain ⟨rfl, later⟩ := List.cons.inj found
          obtain ⟨named, ⟨back, place⟩, unescaped⟩ := ih later
          exact ⟨named, ⟨back, congrArg (char :: ·) place⟩, unescaped⟩

theorem tag_mem_pieces_iff :
    (∃ before after, pieces text = before ++ .tag name :: after ∧
      before.flatMap Piece.text = front) ↔ TagBehind text front name := by
  constructor
  · rintro ⟨before, after, tag, rfl⟩
    obtain ⟨isTagName, place, unescaped⟩ := tag_of_mem_piecesFrom tag
    refine ⟨isTagName, place, ?_⟩
    rw [← escapedBehind_iff, unescaped]
    exact Bool.false_ne_true
  · rintro ⟨isTagName, ⟨back, rfl⟩, unescaped⟩
    rw [← escapedBehind_iff, Bool.not_eq_true] at unescaped
    refine ⟨pieces front, pieces back, ?_, text_piecesFrom false front⟩
    rw [pieces, piecesFrom_before_bracket, unescaped]
    exact congrArg _ (pieces_of_tag isTagName back)

theorem map_char_text {found : List Piece} (chars : ∀ piece ∈ found, ∃ char, piece = .char char) :
    (found.flatMap Piece.text).map .char = found := by
  induction found with
  | nil => rfl
  | cons piece found ih =>
      obtain ⟨char, rfl⟩ := chars piece List.mem_cons_self
      have rest := ih fun piece member => chars piece (List.mem_cons_of_mem _ member)
      exact congrArg (Piece.char char :: ·) rest

theorem pieces_eq_chars_iff :
    pieces text = text.map .char ↔ ∀ front name, ¬ TagBehind text front name := by
  constructor
  · rintro plain front name stands
    obtain ⟨before, after, tag, _⟩ := tag_mem_pieces_iff.mpr stands
    have member : Piece.tag name ∈ text.map .char := by
      rw [← plain, tag]
      simp
    obtain ⟨_, _, impossible⟩ := List.mem_map.mp member
    cases impossible
  · intro none
    have chars : ∀ piece ∈ pieces text, ∃ char, piece = .char char := by
      intro piece member
      cases piece with
      | char char => exact ⟨char, rfl⟩
      | tag name =>
          obtain ⟨before, after, split⟩ := List.append_of_mem member
          exact absurd (tag_mem_pieces_iff.mp ⟨before, after, split, rfl⟩) (none _ name)
    calc
      pieces text = ((pieces text).flatMap Piece.text).map .char := (map_char_text chars).symm
      _ = text.map .char := by rw [pieces, text_piecesFrom]

end Reading

end Andromeda
