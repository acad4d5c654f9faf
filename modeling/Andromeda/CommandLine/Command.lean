import Andromeda.CommandLine.Options
import Andromeda.CommandLine.Path
import Andromeda.Midi.Recording
import Andromeda.Number.Numeral
import Andromeda.Setting

namespace Andromeda

structure DecodeCommand where
  files : List Path
  output : Option Path
  blocks : Bool
  limits : Limits
  verbose : Bool

structure InfoCommand where
  files : List Path
  hex : Bool
  json : Bool
  limits : Limits
  verbose : Bool

structure FramesCommand where
  file : Path
  allOpcodes : Bool
  verbose : Bool

structure CaptureCommand where
  settings : CaptureSettings
  output : Option Path
  verbose : Bool

inductive Command where
  | decode (command : DecodeCommand)
  | info (command : InfoCommand)
  | frames (command : FramesCommand)
  | capture (command : CaptureCommand)
  | ports
  | version
  | help

/-- Variables of the environment by name. An empty one counts as not set. -/
abbrev Variables := List (String × String)

def lookupVariable (vars : Variables) (name : String) : Option String :=
  (vars.lookup name).filter fun value => value ≠ ""

def flagForm (long : String) (short : Option Char) : OptionForm := ⟨long, short, false⟩

def valueForm (long : String) (short : Option Char) : OptionForm := ⟨long, short, true⟩

def helpForm : OptionForm := flagForm "--help" none

def verboseForm : OptionForm := flagForm "--verbose" (some 'v')

def decodeForms : List OptionForm :=
  [valueForm "--output" (some 'o'), flagForm "--blocks" none, flagForm "--strict" (some 's'),
    valueForm "--max-size" none, verboseForm, helpForm]

def infoForms : List OptionForm :=
  [flagForm "--hex" (some 'x'), flagForm "--json" (some 'j'), flagForm "--strict" (some 's'),
    valueForm "--max-size" none, verboseForm, helpForm]

def framesForms : List OptionForm :=
  [flagForm "--all-opcodes" (some 'a'), verboseForm, helpForm]

def captureForms : List OptionForm :=
  [valueForm "--port" (some 'p'), valueForm "--timeout" (some 't'),
    valueForm "--idle-timeout" none, valueForm "--output" (some 'o'), verboseForm, helpForm]

def programForms : List OptionForm := [flagForm "--version" (some 'V'), helpForm]

/-- The limits of a decode. The size is a whole number from zero to the longest image. -/
def readLimits (vars : Variables) (words : Words) : Option Limits :=
  let strict := words.has "--strict"
  match words.value? "--max-size" <|> lookupVariable vars "A6PKG_MAX_SIZE" with
  | none => some ⟨longestImage, strict, Int.le_refl _⟩
  | some text => do
    let size ← readInteger? text
    if inside : 0 ≤ size ∧ size ≤ longestImage then some ⟨size, strict, inside.2⟩ else none

def readTimeout (words : Words) (name : String) (default : Timeout) : Option Timeout :=
  match words.value? name with
  | none => some default
  | some text => (readReal? text).map Timeout.real

def readOutput (words : Words) : Option (Option Path) :=
  match words.value? "--output" with
  | none => some none
  | some text => (Path.read? text).map some

def readDecode (vars : Variables) (words : Words) : Option Command := do
  let limits ← readLimits vars words
  let files ← words.arguments.mapM Path.read?
  let output ← readOutput words
  return .decode {
    files
    output
    blocks := words.has "--blocks"
    limits
    verbose := words.has "--verbose"
  }

def readInfo (vars : Variables) (words : Words) : Option Command := do
  let limits ← readLimits vars words
  let files ← words.arguments.mapM Path.read?
  if files.isEmpty then none
  else
    return .info {
      files
      hex := words.has "--hex"
      json := words.has "--json"
      limits
      verbose := words.has "--verbose"
    }

def readFrames (words : Words) : Option Command :=
  match words.arguments with
  | [file] => (Path.read? file).map fun file =>
    .frames ⟨file, words.has "--all-opcodes", words.has "--verbose"⟩
  | _ => none

def readCapture (vars : Variables) (words : Words) : Option Command := do
  let total ← readTimeout words "--timeout" CaptureSettings.defaultTotal
  let idle ← readTimeout words "--idle-timeout" CaptureSettings.defaultIdle
  let output ← readOutput words
  if !words.arguments.isEmpty then none
  else
    return .capture {
      settings := ⟨words.value? "--port" <|> lookupVariable vars "A6PKG_MIDI_PORT", total, idle⟩
      output
      verbose := words.has "--verbose"
    }

def readBare (command : Command) (words : Words) : Option Command :=
  if words.arguments.isEmpty then some command else none

def commandReader? (vars : Variables) :
    String → Option (List OptionForm × (Words → Option Command))
  | "decode" => some (decodeForms, readDecode vars)
  | "info" => some (infoForms, readInfo vars)
  | "frames" => some (framesForms, readFrames)
  | "capture" => some (captureForms, readCapture vars)
  | "ports" => some ([helpForm], readBare .ports)
  | "version" => some ([helpForm], readBare .version)
  | _ => none

/-- The command that some words give, if they give one. A call for help goes before anything
that is wrong with values or arguments, and a call for the version before the words of the
command. Where the name of a command should be, there may be options of the program that call
for help. -/
def readCommand (vars : Variables) (words : List String) : Option Command := do
  let program ← readWords programForms false ⟨[], []⟩ words
  if program.has "--help" then return .help
  match program.arguments with
  | [] => return if program.has "--version" then .version else .help
  | name :: words =>
    match commandReader? vars name with
    | none =>
      let again ← readWords programForms false ⟨[], []⟩ (name :: words)
      if again.has "--help" then some .help else none
    | some (forms, reader) =>
      if program.has "--version" then return .version
      let words ← readWords forms true ⟨[], []⟩ words
      if words.has "--help" then return .help
      reader words

end Andromeda
