import Andromeda.Block
import Andromeda.Proofs.Display.Markup
import Andromeda.Proofs.Text.Numerals
import Andromeda.Text.Padding

/-!
Marked-up text that is put together from spans, each with one style or with none. Read back, every
span is found where it was written, with its opening tag; what may go wrong is inside the text of a
styled span, which is not escaped: tags that stand in it are read as tags, and a backslash at its
end takes the closing tag for itself.
-/

namespace Andromeda

instance (text : List Char) : Decidable (EndsEscaped text) :=
  inferInstanceAs (Decidable (_ = _))

/-- A text that can stand between tags: none is found in it, and it leaves the next one alone. -/
structure ReadsAsText (text : String) : Prop where
  no_tag : ∀ front name, ¬ TagBehind text.toList front name
  unescaped : ¬ EndsEscaped text.toList

structure Span where
  style : Option String
  text : String
  deriving DecidableEq, Repr

namespace Span

def markup (span : Span) : String :=
  match span.style with
  | some style => styled style span.text
  | none => span.text

def written (span : Span) : List Piece :=
  match span.style with
  | some style =>
    .tag style.toList :: (span.text.toList.map .char ++ [.tag ('/' :: style.toList)])
  | none => span.text.toList.map .char

def closing (style : String) (text : List Char) : List Piece :=
  if EndsEscaped text then ('[' :: '/' :: (style.toList ++ [']'])).map .char
  else [.tag ('/' :: style.toList)]

def read (span : Span) : List Piece :=
  match span.style with
  | some style =>
    .tag style.toList :: (pieces span.text.toList ++ closing style span.text.toList)
  | none => span.text.toList.map .char

def line (spans : List Span) : String := String.join (spans.map markup)

def newline : Span := ⟨none, "\n"⟩

def page (lines : List (List Span)) : String := "\n".intercalate (lines.map line)

/-- A span is sound if its style can be the name of a tag and, if it has none, its text has neither
brackets that open nor backslashes. -/
def Sound (span : Span) : Prop :=
  match span.style with
  | some style => IsTagName style.toList
  | none => '[' ∉ span.text.toList ∧ '\\' ∉ span.text.toList

def Harmless (span : Span) : Prop := span.style.isSome → ReadsAsText span.text

end Span

theorem Reads.append {first second : List Char} {found more : List Piece} (reads : Reads first found)
    (next : Reads second more) : Reads (first ++ second) (found ++ more) := by
  intro rest
  rw [List.append_assoc, reads, next, List.append_assoc]

theorem Reads.pieces_eq {text : List Char} {found : List Piece} (reads : Reads text found) :
    pieces text = found := by
  simpa [pieces, piecesFrom] using reads []

theorem Reads.flatMap {text : α → List Char} {found : α → List Piece} {items : List α}
    (reads : ∀ item ∈ items, Reads (text item) (found item)) :
    Reads (items.flatMap text) (items.flatMap found) := by
  induction items with
  | nil => exact fun rest => rfl
  | cons item items ih =>
      have first := reads item List.mem_cons_self
      exact first.append (ih fun item member => reads item (List.mem_cons_of_mem _ member))

theorem IsTagName.closes {style : List Char} (isTagName : IsTagName style) :
    IsTagName ('/' :: style) where
  head := ⟨'/', style, rfl, rfl⟩
  no_opening := List.not_mem_cons_of_ne_of_not_mem (by decide) isTagName.no_opening
  no_closing := List.not_mem_cons_of_ne_of_not_mem (by decide) isTagName.no_closing

theorem append_eq_append_iff_of_text {first second more others : List Piece}
    (same : first.flatMap Piece.text = second.flatMap Piece.text) :
    first ++ more = second ++ others ↔ first = second ∧ more = others := by
  constructor
  · intro whole
    have nothing {beyond : List Piece} (silent : beyond.flatMap Piece.text = []) : beyond = [] := by
      rw [List.eq_nil_iff_forall_not_mem]
      intro piece member
      cases piece <;> cases List.flatMap_eq_nil_iff.mp silent _ member
    rcases List.append_eq_append_iff.mp whole with ⟨beyond, rfl, rfl⟩ | ⟨beyond, rfl, rfl⟩
    · rw [List.flatMap_append, List.self_eq_append_right] at same
      simp [nothing same]
    · rw [List.flatMap_append, List.append_right_eq_self] at same
      simp [nothing same]
  · rintro ⟨rfl, rfl⟩
    rfl

theorem flatMap_eq_flatMap_iff_of_text {first second : α → List Piece} {items : List α}
    (same : ∀ item ∈ items, (first item).flatMap Piece.text = (second item).flatMap Piece.text) :
    items.flatMap first = items.flatMap second ↔ ∀ item ∈ items, first item = second item := by
  induction items with
  | nil => simp
  | cons item items ih =>
      have later := ih fun item member => same item (List.mem_cons_of_mem _ member)
      rw [List.flatMap_cons, List.flatMap_cons,
        append_eq_append_iff_of_text (same item List.mem_cons_self), later, List.forall_mem_cons]

theorem flatMap_intercalate (function : α → List β) (separator : List α) (parts : List (List α)) :
    (separator.intercalate parts).flatMap function =
      (separator.flatMap function).intercalate (parts.map (List.flatMap function)) := by
  induction parts with
  | nil => rfl
  | cons part parts ih =>
      cases parts with
      | nil => simp
      | cons next parts =>
          rw [List.intercalate_cons_cons, List.flatMap_append, List.flatMap_append, ih]
          simp [List.intercalate_cons_cons]

theorem forall_mem_intercalate {separator : List α} {parts : List (List α)} {property : α → Prop}
    (between : ∀ item ∈ separator, property item) :
    (∀ item ∈ separator.intercalate parts, property item) ↔
      ∀ part ∈ parts, ∀ item ∈ part, property item := by
  induction parts with
  | nil => simp
  | cons part parts ih =>
      cases parts with
      | nil => simp
      | cons next parts =>
          simp only [List.intercalate_cons_cons, List.forall_mem_append, ih, List.forall_mem_cons]
          exact and_congr_left fun _ => and_iff_left between

namespace Span

theorem reads_closing {style : String} (isTagName : IsTagName style.toList)
    (text rest : List Char) :
    piecesFrom (escapedBehind false text) 0 [] ('[' :: '/' :: (style.toList ++ ']' :: rest)) =
      closing style text ++ pieces rest := by
  rw [closing]
  split
  case isTrue escaped =>
    have plain : '[' ∉ '/' :: (style.toList ++ [']']) := by
      simpa using isTagName.no_opening
    have read := piecesFrom_plain plain false rest
    rw [(escapedBehind_iff text).mpr escaped, piecesFrom_of_char (.inl rfl)]
    rw [← List.cons_append, escapedBehind_concat] at read
    simpa [pieces] using congrArg (Piece.char '[' :: ·) read
  case isFalse unescaped =>
    rw [← escapedBehind_iff, Bool.not_eq_true] at unescaped
    rw [unescaped]
    exact pieces_of_tag isTagName.closes rest

theorem Sound.reads {span : Span} (sound : span.Sound) : Reads span.markup.toList span.read := by
  intro rest
  obtain ⟨_ | style, text⟩ := span
  case none =>
    obtain ⟨no_opening, no_backslash⟩ := sound
    have unescaped := mt (escapedBehind_iff text.toList).mp (not_endsEscaped no_backslash)
    rw [Bool.not_eq_true] at unescaped
    rw [markup, pieces, piecesFrom_plain no_opening, unescaped]
    rfl
  case some =>
    have spelled : (styled style text).toList ++ rest = '[' :: (style.toList ++
        ']' :: (text.toList ++ '[' :: '/' :: (style.toList ++ ']' :: rest))) := by
      simp [styled]
    rw [markup, spelled, pieces_of_tag sound, pieces, piecesFrom_before_bracket,
      reads_closing sound]
    simp [read, pieces]

theorem text_chars (text : List Char) : (text.map Piece.char).flatMap Piece.text = text := by
  rw [List.flatMap_map]
  exact List.flatMap_singleton' text

theorem text_closing (style : String) (text : List Char) :
    (closing style text).flatMap Piece.text = '[' :: '/' :: (style.toList ++ [']']) := by
  rw [closing]
  split
  · exact text_chars _
  · simp [Piece.text]

theorem text_written (span : Span) : span.written.flatMap Piece.text = span.markup.toList := by
  obtain ⟨_ | style, text⟩ := span
  · exact text_chars _
  · simp [written, markup, styled, Piece.text, text_chars]

theorem text_read (span : Span) : span.read.flatMap Piece.text = span.markup.toList := by
  obtain ⟨_ | style, text⟩ := span
  · exact text_chars _
  · simp [read, markup, styled, Piece.text, text_closing, pieces, text_piecesFrom]

theorem read_eq_written_iff (span : Span) : span.read = span.written ↔ span.Harmless := by
  obtain ⟨_ | style, text⟩ := span
  case none => simp [read, written, Harmless]
  case some =>
    have spelled : (pieces text.toList).flatMap Piece.text =
        (text.toList.map Piece.char).flatMap Piece.text := by
      rw [pieces, text_piecesFrom, text_chars]
    have closed : closing style text.toList = [.tag ('/' :: style.toList)] ↔
        ¬ EndsEscaped text.toList := by
      by_cases escaped : EndsEscaped text.toList <;> simp [closing, escaped]
    have harmless : Harmless ⟨some style, text⟩ ↔ (∀ front name, ¬ TagBehind text.toList front name) ∧
        ¬ EndsEscaped text.toList :=
      ⟨fun harmless => ⟨(harmless rfl).no_tag, (harmless rfl).unescaped⟩,
        fun text _ => ⟨text.1, text.2⟩⟩
    simp only [read, written, List.cons.injEq, true_and]
    rw [append_eq_append_iff_of_text spelled, closed, pieces_eq_chars_iff, harmless]

theorem toList_page (lines : List (List Span)) :
    (page lines).toList = ([newline].intercalate lines).flatMap fun span => span.markup.toList := by
  have each : String.toList ∘ line = List.flatMap fun span => span.markup.toList := by
    funext spans
    rw [Function.comp_apply, line, String.toList_join, List.flatMap_map]
  rw [page, String.toList_intercalate, List.map_map, flatMap_intercalate, each]
  rfl

variable {lines : List (List Span)}

theorem sound_page (sound : ∀ line ∈ lines, ∀ span ∈ line, span.Sound) :
    ∀ span ∈ [newline].intercalate lines, span.Sound := by
  have between : ∀ span ∈ [newline], span.Sound := by
    simp [newline, Sound]
  exact (forall_mem_intercalate between).mpr sound

theorem pieces_page (sound : ∀ line ∈ lines, ∀ span ∈ line, span.Sound) :
    pieces (page lines).toList = ([newline].intercalate lines).flatMap read := by
  rw [toList_page]
  exact (Reads.flatMap fun span member => (sound_page sound span member).reads).pieces_eq

theorem pieces_page_eq_written_iff (sound : ∀ line ∈ lines, ∀ span ∈ line, span.Sound) :
    pieces (page lines).toList = ([newline].intercalate lines).flatMap written ↔
      ∀ line ∈ lines, ∀ span ∈ line, span.Harmless := by
  have between : ∀ span ∈ [newline], span.Harmless := by
    simp [newline, Harmless]
  rw [pieces_page sound, flatMap_eq_flatMap_iff_of_text fun span _ => by rw [text_read, text_written],
    ← forall_mem_intercalate between]
  exact forall₂_congr fun span _ => read_eq_written_iff span

theorem newline_not_mem {span : Span} (text : '\n' ∉ span.text.toList)
    (style : ∀ name ∈ span.style, '\n' ∉ name.toList) : '\n' ∉ span.markup.toList := by
  obtain ⟨_ | name, inside⟩ := span
  · exact text
  · have named := style name rfl
    simp [markup, styled, named, text]

theorem line_ne_empty {spans : List Span} {style text : String}
    (member : ⟨some style, text⟩ ∈ spans) : line spans ≠ "" := by
  intro empty
  have nothing : (line spans).toList = [] := by rw [empty]; rfl
  rw [line, String.toList_join, List.flatMap_map, List.flatMap_eq_nil_iff] at nothing
  simpa [markup, styled] using nothing _ member

end Span

/-- A text that is neither taken for markup nor broken into lines. -/
structure IsQuiet (text : String) : Prop where
  no_bracket : '[' ∉ text.toList
  no_backslash : '\\' ∉ text.toList
  no_newline : '\n' ∉ text.toList

instance (text : String) : Decidable (IsQuiet text) :=
  decidable_of_iff ('[' ∉ text.toList ∧ '\\' ∉ text.toList ∧ '\n' ∉ text.toList)
    ⟨fun quiet => ⟨quiet.1, quiet.2.1, quiet.2.2⟩,
      fun quiet => ⟨quiet.no_bracket, quiet.no_backslash, quiet.no_newline⟩⟩

namespace IsQuiet

variable {text : String}

theorem append {more : String} (quiet : IsQuiet text) (behind : IsQuiet more) :
    IsQuiet (text ++ more) where
  no_bracket := by simp [quiet.no_bracket, behind.no_bracket]
  no_backslash := by simp [quiet.no_backslash, behind.no_backslash]
  no_newline := by simp [quiet.no_newline, behind.no_newline]

theorem readsAsText (quiet : IsQuiet text) : ReadsAsText text where
  no_tag := by
    rintro front name ⟨_, ⟨back, place⟩, _⟩
    exact quiet.no_bracket (by simp [place])
  unescaped := not_endsEscaped quiet.no_backslash

theorem sound (quiet : IsQuiet text) : Span.Sound ⟨none, text⟩ :=
  ⟨quiet.no_bracket, quiet.no_backslash⟩

theorem ne_styled (quiet : IsQuiet text) (style inside : String) : text ≠ styled style inside := by
  rintro rfl
  exact quiet.no_bracket (by simp [styled])

end IsQuiet

theorem isQuiet_hexNumeral (width : Nat) (number : Int) : IsQuiet (hexNumeral width number) where
  no_bracket member := absurd (hexNumeral_mem member) (by decide)
  no_backslash member := absurd (hexNumeral_mem member) (by decide)
  no_newline member := absurd (hexNumeral_mem member) (by decide)

theorem isQuiet_decimal (number : Int) : IsQuiet (toString number) where
  no_bracket member := absurd (decimal_mem member) (by decide)
  no_backslash member := absurd (decimal_mem member) (by decide)
  no_newline member := absurd (decimal_mem member) (by decide)

theorem isQuiet_spaces (count : Nat) : IsQuiet (spaces count) := by
  constructor
  all_goals simp [spaces, List.mem_replicate]

theorem IsQuiet.padRight {text : String} (quiet : IsQuiet text) (width : Nat) :
    IsQuiet (padRight width text) :=
  quiet.append (isQuiet_spaces _)

theorem isQuiet_versionText (version : Int) : IsQuiet (versionText version) := by
  have dot : IsQuiet (toString ".") := by decide
  have front := (isQuiet_decimal (version / 10000)).append dot
  exact ((front.append (isQuiet_decimal (version / 100 % 100))).append dot).append
    (isQuiet_decimal (version % 100))

end Andromeda
