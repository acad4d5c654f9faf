import Andromeda.Display.HexDump
import Andromeda.Proofs.Display.Spans
import Andromeda.Proofs.Text.Parts

namespace Andromeda

structure DumpRow where
  mark : Option Int
  address : String
  cells : String
  ascii : String
  deriving DecidableEq, Repr

namespace DumpRow

def markSpan : Option Int → Span
  | some number => ⟨some "magenta", "#" ++ padRight 4 (toString number)⟩
  | none => ⟨none, spaces 5⟩

def spans (row : DumpRow) : List Span :=
  [markSpan row.mark, ⟨none, " "⟩, ⟨some "dim", row.address⟩, ⟨none, "  " ++ row.cells ++ "  "⟩,
    ⟨some "cyan", row.ascii⟩]

def text (row : DumpRow) : String := Span.line row.spans

end DumpRow

def DumpLine.row (width : Nat) (line : DumpLine) : DumpRow where
  mark := if line.address % 256 = 0 then some (line.address / 256) else none
  address := hexNumeral 8 line.address
  cells := padRight (width * 3 + 2) (cellsText line.bytes)
  ascii := asciiText line.bytes

def remainderSpan (rest : Int) : Span := ⟨some "dim", s!"... {rest} more bytes ..."⟩

def DumpOptions.spans (options : DumpOptions) (data : Bytes) (lines : List DumpLine) :
    List (List Span) :=
  let rest := data.length - options.extent data
  (lines.map fun line => (line.row options.bytesPerLine.toNat).spans) ++
    if 0 < rest then [[remainderSpan rest]] else []

theorem DumpLine.text_eq (width : Nat) (line : DumpLine) : line.text width = (line.row width).text := by
  have mark : blockMark line.address = (DumpRow.markSpan (line.row width).mark).markup := by
    rw [blockMark, DumpLine.row]
    split <;> rfl
  rw [DumpLine.text, mark]
  simp [DumpRow.text, DumpRow.spans, Span.line, Span.markup, DumpLine.row, String.append_assoc]

theorem map_line_spans (options : DumpOptions) (data : Bytes) (lines : List DumpLine) :
    (options.spans data lines).map Span.line =
      (lines.map (DumpLine.row options.bytesPerLine.toNat)).map DumpRow.text ++
        if 0 < (data.length - options.extent data : Int) then
          [remainderText (data.length - options.extent data)] else [] := by
  rw [DumpOptions.spans, List.map_append, List.map_map, List.map_map]
  congr 1
  split
  · simp [Span.line, Span.markup, remainderSpan, remainderText]
  · rfl

theorem hexDump?_eq_some_iff {options : DumpOptions} {data : Bytes} {dump : Shown} :
    hexDump? options data = some dump ↔ ∃ lines, options.lines? data = some lines ∧
      dump = .panel .out options.title (Span.page (options.spans data lines)) := by
  have texts (lines : List DumpLine) : lines.map (DumpLine.text options.bytesPerLine.toNat) =
      (lines.map (DumpLine.row options.bytesPerLine.toNat)).map DumpRow.text := by
    rw [List.map_map]
    exact List.map_congr_left fun line _ => line.text_eq _
  rw [hexDump?, Option.bind_eq_bind, Option.bind_eq_some_iff]
  refine exists_congr fun lines => and_congr_right fun _ => ?_
  rw [Span.page, map_line_spans, ← texts, eq_comm]
  exact Option.some_inj

theorem toList_joinCells (bytes : Bytes) :
    (joinCells bytes).toList =
      [' '].intercalate (bytes.map fun byte => (hexNumeral 2 byte.toNat).toList) := by
  rw [joinCells, String.toList_intercalate, List.map_map]
  rfl

theorem not_mem_joinCells {char : Char} (other : char ∉ ' ' :: '-' :: hexAlphabet)
    (bytes : Bytes) : char ∉ (joinCells bytes).toList := by
  have apart : ∀ space ∈ [' '], char ≠ space := by
    rintro space member rfl
    exact other (List.mem_singleton.mp member ▸ List.mem_cons_self)
  have each : ∀ digit ∈ (joinCells bytes).toList, char ≠ digit := by
    rw [toList_joinCells, forall_mem_intercalate apart, List.forall_mem_map]
    rintro byte _ digit member rfl
    exact other (List.mem_cons_of_mem _ (hexNumeral_mem member))
  exact fun member => each char member rfl

theorem isQuiet_joinCells (bytes : Bytes) : IsQuiet (joinCells bytes) :=
  ⟨not_mem_joinCells (by decide) bytes, not_mem_joinCells (by decide) bytes,
    not_mem_joinCells (by decide) bytes⟩

theorem isQuiet_cellsText (bytes : Bytes) : IsQuiet (cellsText bytes) := by
  have gap : IsQuiet "   " := isQuiet_spaces 3
  rw [cellsText]
  split
  · exact isQuiet_joinCells bytes
  · exact ((isQuiet_joinCells _).append gap).append (isQuiet_joinCells _)

theorem toNat_ofNat_of_lt {code : Nat} (below : code < 127) : (Char.ofNat code).toNat = code := by
  have valid : code.isValidChar := .inl (by omega)
  rw [Char.ofNat, dif_pos valid]
  rfl

theorem newline_not_mem_ascii (bytes : Bytes) : '\n' ∉ (asciiText bytes).toList := by
  intro member
  rw [asciiText, String.toList_ofList, List.mem_map] at member
  obtain ⟨byte, -, shown⟩ := member
  split at shown
  case isTrue printable =>
    have code := toNat_ofNat_of_lt printable.2
    rw [shown] at code
    exact absurd (code ▸ printable.1) (by decide)
  case isFalse => exact absurd shown (by decide)

namespace DumpRow

variable {width : Nat} {line : DumpLine} {span : Span}

theorem quiet_of_mem (member : span ∈ (line.row width).spans) :
    IsQuiet span.text ∨ span = ⟨some "cyan", asciiText line.bytes⟩ := by
  have mark : IsQuiet (markSpan (line.row width).mark).text := by
    cases (line.row width).mark with
    | none => exact isQuiet_spaces 5
    | some number =>
        have sign : IsQuiet "#" := by decide
        exact sign.append ((isQuiet_decimal number).padRight 4)
  have cells := (isQuiet_cellsText line.bytes).padRight (width * 3 + 2)
  simp only [spans, List.mem_cons, List.not_mem_nil, or_false] at member
  obtain rfl | rfl | rfl | rfl | rfl := member
  · exact .inl mark
  · exact .inl (isQuiet_spaces 1)
  · exact .inl (isQuiet_hexNumeral 8 line.address)
  · exact .inl (((isQuiet_spaces 2).append cells).append (isQuiet_spaces 2))
  · exact .inr rfl

theorem style_of_mem {row : DumpRow} (member : span ∈ row.spans) :
    span.style ∈ [none, some "magenta", some "dim", some "cyan"] := by
  simp only [spans, List.mem_cons, List.not_mem_nil, or_false] at member
  obtain rfl | rfl | rfl | rfl | rfl := member
  · cases row.mark <;> simp [markSpan]
  all_goals simp

theorem sound_of_mem (member : span ∈ (line.row width).spans) : span.Sound := by
  obtain ⟨style, text⟩ := span
  have styles := style_of_mem member
  simp only [List.mem_cons, List.not_mem_nil, or_false] at styles
  obtain rfl | rfl | rfl | rfl := styles
  · rcases quiet_of_mem member with quiet | same
    · exact quiet.sound
    · cases same
  · exact ⟨⟨'m', _, rfl, rfl⟩, by decide, by decide⟩
  · exact ⟨⟨'d', _, rfl, rfl⟩, by decide, by decide⟩
  · exact ⟨⟨'c', _, rfl, rfl⟩, by decide, by decide⟩

theorem newline_not_mem (member : span ∈ (line.row width).spans) : '\n' ∉ span.markup.toList := by
  have names : ∀ style ∈ [none, some "magenta", some "dim", some "cyan"],
      ∀ name ∈ style, '\n' ∉ name.toList := by
    decide
  refine Span.newline_not_mem ?_ (names _ (style_of_mem member))
  rcases quiet_of_mem member with quiet | rfl
  · exact quiet.no_newline
  · exact newline_not_mem_ascii line.bytes

theorem harmless_spans_iff :
    (∀ span ∈ (line.row width).spans, span.Harmless) ↔ ReadsAsText (asciiText line.bytes) := by
  constructor
  · intro all
    have ascii : ⟨some "cyan", asciiText line.bytes⟩ ∈ (line.row width).spans := by
      simp [spans, DumpLine.row]
    exact all _ ascii rfl
  · rintro ascii span member _
    rcases quiet_of_mem member with quiet | rfl
    · exact quiet.readsAsText
    · exact ascii

end DumpRow

section Spans

variable {options : DumpOptions} {data : Bytes} {lines : List DumpLine}

theorem isQuiet_remainder (rest : Int) : IsQuiet (remainderSpan rest).text := by
  have front : IsQuiet "... " := by decide
  have back : IsQuiet " more bytes ..." := by decide
  exact (front.append (isQuiet_decimal rest)).append back

theorem forall_mem_spans {property : Span → Prop} :
    (∀ line ∈ options.spans data lines, ∀ span ∈ line, property span) ↔
      (∀ line ∈ lines, ∀ span ∈ (line.row options.bytesPerLine.toNat).spans, property span) ∧
        (0 < (data.length - options.extent data : Int) →
          property (remainderSpan (data.length - options.extent data))) := by
  rw [DumpOptions.spans, List.forall_mem_append, List.forall_mem_map]
  refine and_congr_right fun _ => ?_
  split
  case isTrue more => simp only [more, true_implies, List.mem_singleton, forall_eq]
  case isFalse none => simp only [none, false_implies, List.not_mem_nil, implies_true]

theorem sound_dump : ∀ line ∈ options.spans data lines, ∀ span ∈ line, span.Sound := by
  rw [forall_mem_spans]
  refine ⟨fun line _ span => DumpRow.sound_of_mem, fun _ => ?_⟩
  exact ⟨⟨'d', _, rfl, rfl⟩, by decide, by decide⟩

theorem harmless_dump_iff :
    (∀ line ∈ options.spans data lines, ∀ span ∈ line, span.Harmless) ↔
      ∀ line ∈ lines, ReadsAsText (asciiText line.bytes) := by
  have remainder (rest : Int) : (remainderSpan rest).Harmless :=
    fun _ => (isQuiet_remainder rest).readsAsText
  rw [forall_mem_spans, and_iff_left fun _ => remainder _]
  exact forall₂_congr fun line _ => DumpRow.harmless_spans_iff

theorem exists_styled {line : List Span} (member : line ∈ options.spans data lines) :
    ∃ style text, ⟨some style, text⟩ ∈ line := by
  rw [DumpOptions.spans, List.mem_append, List.mem_map] at member
  rcases member with ⟨line, -, rfl⟩ | ending
  · exact ⟨"cyan", _, by simpa only [DumpRow.spans] using List.mem_of_getLast? rfl⟩
  · split at ending
    · obtain rfl := List.mem_singleton.mp ending
      exact ⟨"dim", _, List.mem_singleton_self _⟩
    · cases ending

theorem linesOf_page :
    linesOf (Span.page (options.spans data lines)) =
      (options.spans data lines).map Span.line := by
  have dim : ∀ name ∈ some "dim", '\n' ∉ name.toList := by decide
  have unbroken : ∀ line ∈ options.spans data lines, ∀ span ∈ line, '\n' ∉ span.markup.toList := by
    rw [forall_mem_spans]
    refine ⟨fun line _ span => DumpRow.newline_not_mem, fun _ => Span.newline_not_mem ?_ dim⟩
    exact (isQuiet_remainder _).no_newline
  apply linesOf_intercalate
  rw [List.forall_mem_map]
  intro line member
  obtain ⟨style, text, inside⟩ := exists_styled member
  refine ⟨?_, Span.line_ne_empty inside⟩
  rw [Span.line, String.toList_join, List.flatMap_map, List.mem_flatMap]
  rintro ⟨span, there, broken⟩
  exact unbroken line member span there broken

end Spans

end Andromeda
