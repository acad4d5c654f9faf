import Andromeda.Display.Console
import Andromeda.Proofs.Display.Spans
import Mathlib.Data.List.TakeWhile

/-!
What a console takes. A part of a text whose own tags all close each other leaves the tags around it
open as they were, so it is of no consequence for the text behind it. The program's own texts are
such parts; what may be refused are names that are put between them.
-/

namespace Andromeda

def tagsAmong (found : List Piece) : List (List Char) :=
  found.filterMap fun piece =>
    match piece with
    | .tag name => some name
    | .char _ => none

/-- A text that a console goes through without opening or closing a tag for those behind it. -/
def Console.PassesBy (console : Console) (text : String) : Prop :=
  ∃ found, Reads text.toList found ∧
    ∀ opened, console.passTags? opened (tagsAmong found) = some opened

namespace Console

variable {console : Console} {text more style : String}

theorem passTags?_append (opened : List OpenTag) (first second : List (List Char)) :
    console.passTags? opened (first ++ second) =
      (console.passTags? opened first).bind fun opened => console.passTags? opened second :=
  List.foldlM_append

theorem tagsAmong_append (first second : List Piece) :
    tagsAmong (first ++ second) = tagsAmong first ++ tagsAmong second :=
  List.filterMap_append

theorem PassesBy.append (first : console.PassesBy text) (second : console.PassesBy more) :
    console.PassesBy (text ++ more) := by
  obtain ⟨found, reads, passes⟩ := first
  obtain ⟨others, reads_more, passes_more⟩ := second
  refine ⟨found ++ others, ?_, fun opened => ?_⟩
  · rw [String.toList_append]
    exact reads.append reads_more
  · rw [tagsAmong_append, passTags?_append, passes, Option.bind_some, passes_more]

theorem PassesBy.takes_append (passes : console.PassesBy text) (rest : String) :
    console.takes (text ++ rest) = console.takes rest := by
  obtain ⟨found, reads, passes⟩ := passes
  have parts : tags (text ++ rest).toList = tagsAmong found ++ tags rest.toList := by
    rw [String.toList_append, tags, reads]
    exact tagsAmong_append found _
  rw [Console.takes, parts, passTags?_append, passes]
  rfl

theorem PassesBy.takes (passes : console.PassesBy text) : console.takes text = true := by
  have alone := passes.takes_append ""
  rwa [String.append_empty] at alone

end Console

end Andromeda
