import Andromeda.CommandLine.FileTree
import Andromeda.Decoder

namespace Andromeda

inductive Trouble where
  | missing (path : Path)
  | fault (fault : FileFault)
  | undecodable (name : String) (error : DecodeError)
  deriving DecidableEq, Repr

structure Input where
  name : String
  content : Except Trouble Bytes

def standardName : String := "-"

def FileTree.read (tree : FileTree) (path : Path) : Except Trouble Bytes :=
  match tree.content? path with
  | .ok (some content) => .ok content
  | .ok none => .error (.missing path)
  | .error fault => .error (.fault fault)

/-- Inputs by their paths. One dash stands for standard input, which is empty once read. -/
def inputsFrom (tree : FileTree) (standard : Bytes) : List Path → List Input
  | [] => []
  | path :: paths =>
    if path.text = standardName then
      ⟨standardName, .ok standard⟩ :: inputsFrom tree [] paths
    else ⟨path.text, tree.read path⟩ :: inputsFrom tree standard paths

/-- The inputs of a command. Without any path it reads standard input. -/
def inputsOf (tree : FileTree) (standard : Bytes) (paths : List Path) : List Input :=
  if paths.isEmpty then [⟨standardName, .ok standard⟩] else inputsFrom tree standard paths

structure Decoded (α : Type) where
  result : Except Trouble α
  log : Array LogRecord

/-- The image in all inputs, with the decoder that holds it. An error in the end is blamed on
the last input. -/
def decodeInputs (decoder : Decoder) (name : String) (log : Array LogRecord) :
    List Input → Decoded (Decoder × Image)
  | [] =>
    let finished := decoder.finish
    let result := match finished.result with
      | .ok image => .ok (finished.state, image)
      | .error error => .error (.undecodable name error)
    ⟨result, log ++ finished.log⟩
  | input :: inputs =>
    match input.content with
    | .error trouble => ⟨.error trouble, log⟩
    | .ok data =>
      let fed := decoder.feed data
      match fed.result with
      | .error error => ⟨.error (.undecodable input.name error), log ++ fed.log⟩
      | .ok () => decodeInputs fed.state input.name (log ++ fed.log) inputs

def lastName (inputs : List Input) : String :=
  (inputs.getLast?.map Input.name).getD standardName

/-- The blocks in all inputs, which are read before the first one is looked at. An error is
blamed on the last input. -/
def collectInputs (decoder : Decoder) (inputs : List Input) : Decoded Bytes :=
  match inputs.mapM Input.content with
  | .error trouble => ⟨.error trouble, #[]⟩
  | .ok buffers =>
    let collected := decoder.rawBlocks buffers
    let result := match collected.result with
      | .ok blocks => .ok blocks
      | .error error => .error (.undecodable (lastName inputs) error)
    ⟨result, collected.log⟩

end Andromeda
