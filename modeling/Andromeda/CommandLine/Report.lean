import Andromeda.CommandLine.Inputs
import Andromeda.Display.Console
import Andromeda.Midi.Recording

namespace Andromeda

structure Environment where
  files : FileTree
  standard : Bytes
  host : Host
  /-- The date and the time, as they stand in names of files. -/
  stamp : String

structure Report where
  exitCode : Nat
  shown : List Shown
  /-- How many items are shown before anything is written. -/
  ahead : Nat
  /-- Bytes on standard output, apart from what is shown. -/
  output : Bytes
  files : FileTree
  fault : Option FileFault
  capture : Option Capture
  refused : Option Shown

def Report.showing (environment : Environment) (exitCode : Nat) (shown : List Shown) : Report :=
  ⟨exitCode, shown, shown.length, [], environment.files, none, none, none⟩

def Report.broken (environment : Environment) (shown : List Shown) (fault : FileFault) :
    Report :=
  { Report.showing environment 1 shown with fault := some fault }

/-- What comes of a report on a console. It is broken off at the first item that is refused, and what
would have been written behind that item is not written. -/
def Report.on (console : Console) (environment : Environment) (report : Report) : Report :=
  match report.shown.dropWhile console.shows with
  | [] => report
  | item :: _ =>
    let shown := report.shown.takeWhile console.shows
    if report.ahead ≤ shown.length then
      { report with exitCode := 1, shown, fault := none, refused := some item }
    else { Report.showing environment 1 shown with refused := some item }

/-- Records are shown from warnings up, or all of them. -/
def shownLog (verbose : Bool) (records : List LogRecord) : List Shown :=
  (records.filter fun record => verbose || record.level = .warning).map Shown.log

def missingText (path : Path) : String := styled "red" ("Error: File not found: " ++ path.text)

def Report.troubled (environment : Environment) (verbose : Bool) (shown : List Shown) :
    Trouble → Report
  | .missing path =>
    .showing environment 1 (shown ++ [.text .err (missingText path)])
  | .fault fault => .broken environment shown fault
  | .undecodable name error =>
    let trace := if verbose then [.trace .err] else []
    let message := styled "red" (name ++ ": " ++ error.message)
    .showing environment 1 (shown ++ .text .err message :: trace)

end Andromeda
