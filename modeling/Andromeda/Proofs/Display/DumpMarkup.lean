import Andromeda.Proofs.Display.DumpRows

/-!
What a hexadecimal dump is read as. The bytes of an image stand between tags as they are, so they
are searched for tags like any other text. All other text of a dump is quiet: whether it is read as
it was written depends on these bytes alone.
-/

namespace Andromeda

def Span.tags (span : Span) : List (List Char) :=
  match span.style with
  | some style => [style.toList, '/' :: style.toList]
  | none => []

theorem tags_eq {text : List Char} {spans : List Span} (read : pieces text = spans.flatMap Span.written) :
    tags text = spans.flatMap Span.tags := by
  rw [tags, read, List.filterMap_flatMap]
  apply List.flatMap_congr
  intro span _
  obtain ⟨_ | style, text⟩ := span
  · simp [Span.written, Span.tags, List.filterMap_map]
  · simp [Span.written, Span.tags, List.filterMap_map]

theorem tags_lines (lines : List (List Span)) :
    ([Span.newline].intercalate lines).flatMap Span.tags = lines.flatten.flatMap Span.tags := by
  induction lines with
  | nil => rfl
  | cons line lines ih =>
      cases lines with
      | nil => simp
      | cons next lines =>
          simp only [List.intercalate_cons_cons, List.flatMap_append, ih, List.flatten_cons]
          simp [Span.newline, Span.tags]

/-- In every dump, the tags of the program are read in their places, up to a closing tag that the
bytes in front of it escape; besides them there are the tags that stand in the bytes shown as
characters. Nothing else is read exactly if these bytes are read as text on every line, and then the
tags of the dump are those that the program writes. -/
theorem dump_markup_read {options : DumpOptions} {data : Bytes} {dump : Shown}
    (shown : hexDump? options data = some dump) :
    ∃ lines content, options.lines? data = some lines ∧
      dump = .panel .out options.title content ∧
      pieces content.toList =
        ([Span.newline].intercalate (options.spans data lines)).flatMap Span.read ∧
      (pieces content.toList =
          ([Span.newline].intercalate (options.spans data lines)).flatMap Span.written ↔
        ∀ line ∈ lines, ReadsAsText (asciiText line.bytes)) ∧
      ((∀ line ∈ lines, ReadsAsText (asciiText line.bytes)) →
        tags content.toList = (options.spans data lines).flatten.flatMap Span.tags) := by
  obtain ⟨lines, lined, rfl⟩ := hexDump?_eq_some_iff.mp shown
  have exact_iff : pieces (Span.page (options.spans data lines)).toList =
      ([Span.newline].intercalate (options.spans data lines)).flatMap Span.written ↔
        ∀ line ∈ lines, ReadsAsText (asciiText line.bytes) := by
    rw [Span.pieces_page_eq_written_iff sound_dump, harmless_dump_iff]
  refine ⟨lines, _, lined, rfl, Span.pieces_page sound_dump, exact_iff, fun text => ?_⟩
  rw [tags_eq (exact_iff.mpr text), tags_lines]

def bracketBytes : Bytes := [0x5B, 0x62, 0x5D, 0x5C]

def bracketContent : String :=
  "[magenta]#0   [/magenta] [dim]00000000[/dim]  5B 62 5D 5C" ++ spaces 41 ++
    "[cyan][b]\\[/cyan]"

theorem bracketDump_read :
    hexDump? .standard bracketBytes = some (.panel .out "Hex Dump" bracketContent) ∧
      ∃ lines, DumpOptions.standard.lines? bracketBytes = some lines ∧
        pieces bracketContent.toList = ([Span.newline].intercalate
          (DumpOptions.standard.spans bracketBytes lines)).flatMap Span.read := by
  have shown : hexDump? .standard bracketBytes =
      some (.panel .out "Hex Dump" bracketContent) := by
    decide +kernel
  obtain ⟨lines, content, lined, same, read, _, _⟩ := dump_markup_read shown
  obtain rfl : bracketContent = content := by
    injection same
  exact ⟨shown, lines, lined, read⟩

/-- The bytes are read as a tag, and the tag that closes the line is not read as one. -/
theorem bracketDump_misread :
    DumpOptions.standard.lines? bracketBytes = some [⟨0, bracketBytes⟩] ∧
      hexDump? .standard bracketBytes = some (.panel .out "Hex Dump" bracketContent) ∧
      (DumpOptions.standard.spans bracketBytes [⟨0, bracketBytes⟩]).flatten.flatMap Span.tags =
        ["magenta", "/magenta", "dim", "/dim", "cyan", "/cyan"].map String.toList ∧
      tags bracketContent.toList =
        ["magenta", "/magenta", "dim", "/dim", "cyan", "b"].map String.toList :=
  ⟨by rfl, by decide +kernel, by rfl, by decide +kernel⟩

end Andromeda
