import Andromeda.CommandLine.Run
import Andromeda.Display.Plain

namespace Andromeda

def Command.paths : Command → List Path
  | .decode command => command.files ++ command.output.toList
  | .info command => command.files
  | .frames command => [command.file]
  | .capture command => command.output.toList
  | _ => []

def Command.readsStandard : Command → Bool
  | .decode command =>
    command.files.isEmpty || command.files.any fun path => path.text = standardName
  | .info command => command.files.any fun path => path.text = standardName
  | _ => false

def nodeAt? (path : Path) : IO (Option Node) := do
  let place := (← IO.currentDir) / path.text
  if ← place.isDir then return some .directory
  else if ← place.pathExists then return some (.file (← IO.FS.readBinFile place).toList)
  else return none

def lookUp (tree : FileTree) (path : Path) : IO FileTree := do
  let mut tree := tree
  let mut place := path.origin
  for part in path.parts do
    place := place.enter part
    if let some node := ← nodeAt? place then
      tree := tree.insert place node
  return tree

partial def readAll (stream : IO.FS.Stream) (done : ByteArray) : IO ByteArray := do
  let chunk ← stream.read 65536
  if chunk.isEmpty then return done else readAll stream (done ++ chunk)

def readVariables : IO Variables := do
  let mut found : Variables := []
  for name in ["A6PKG_MAX_SIZE", "A6PKG_MIDI_PORT"] do
    if let some value := ← IO.getEnv name then
      found := (name, value) :: found
  return found

def environmentFor (command : Option Command) : IO Environment := do
  let paths := (command.map Command.paths).getD []
  let standard ←
    if (command.map Command.readsStandard).getD false then
      readAll (← IO.getStdin) .empty
    else pure .empty
  return {
    files := ← paths.foldlM lookUp ⟨[]⟩
    standard := standard.toList
    host := ⟨[], [], [], ⟨[], .exact 0⟩⟩
    stamp := "00000000_000000"
  }

def writeFile (path : Path) (content : Bytes) : IO Unit := do
  let directory := (← IO.currentDir) / path.parent.text
  IO.FS.createDirAll directory
  IO.FS.writeBinFile ((← IO.currentDir) / path.text) ⟨content.toArray⟩

def showItem (item : Shown) : IO Unit :=
  match item.plainText? with
  | none => pure ()
  | some text =>
    match item.channel with
    | .out => IO.println text
    | .err => IO.eprintln text

def FileFault.message : FileFault → String
  | .missing => "No such file or directory"
  | .isDirectory => "Is a directory"
  | .notDirectory => "Not a directory"
  | .fileExists => "File exists"
  | .nameTooLong => "File name too long"
  | .tooManyMissing => "Too many directories to make"

def refusalText : String := "A closing tag does not match any open tag"

def perform (before : FileTree) (report : Report) : IO UInt32 := do
  for name in before.newDirectories report.files do
    IO.FS.createDirAll ((← IO.currentDir) / name)
  for (name, content) in before.changes report.files do
    writeFile (.ofText name) content
  report.shown.forM showItem
  if !report.output.isEmpty then
    let output ← IO.getStdout
    output.write ⟨report.output.toArray⟩
    output.flush
  if let some fault := report.fault then
    IO.eprintln fault.message
  if report.refused.isSome then
    IO.eprintln refusalText
  return .ofNat report.exitCode

end Andromeda

open Andromeda in
def main (words : List String) : IO UInt32 := do
  let vars ← readVariables
  let environment ← environmentFor (readCommand vars words)
  let report := runWords environment vars words
  perform environment.files (report.on .standard environment)
