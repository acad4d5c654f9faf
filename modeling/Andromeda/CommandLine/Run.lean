import Andromeda.CommandLine.Command
import Andromeda.CommandLine.Report
import Andromeda.Display.FrameTable
import Andromeda.Display.HexDump
import Andromeda.Display.ImagePanel

namespace Andromeda

def fieldLine (field : String × String) : Shown :=
  .text .err (styled "dim" (padRight 10 (field.1 ++ ":")) ++ " " ++ field.2)

def DecodeCommand.lines (command : DecodeCommand) (image : Image) : List Shown :=
  if command.verbose then image.fields.map fieldLine else []

def decodedBytes (command : DecodeCommand) (inputs : List Input) :
    Decoded (List Shown × Bytes) :=
  let decoder := Decoder.start command.limits .update
  if command.blocks then
    let collected := collectInputs decoder inputs
    ⟨collected.result.map fun blocks => ([], blocks), collected.log⟩
  else
    let decoded := decodeInputs decoder standardName #[] inputs
    ⟨decoded.result.map fun finished => (command.lines finished.2, finished.2.data), decoded.log⟩

def deliveredLines (name : String) (path : Path) (size : Nat) : List Shown :=
  [.text .err (styled "green" "Decoded:" ++ " " ++ name ++ " -> " ++ path.text),
    .text .err (styled "dim" s!"Output size: {size} bytes")]

def deliver (environment : Environment) (shown : List Shown) (name : String) (data : Bytes) :
    Option Path → Report
  | none => { Report.showing environment 0 shown with output := data }
  | some path =>
    let written := environment.files.write path data
    match written.result with
    | .error fault => { Report.broken environment shown fault with files := written.files }
    | .ok () =>
      { Report.showing environment 0 shown with
        shown := shown ++ deliveredLines name path data.length
        files := written.files }

def runDecode (environment : Environment) (command : DecodeCommand) : Report :=
  let inputs := inputsOf environment.files environment.standard command.files
  let decoded := decodedBytes command inputs
  let logged := shownLog command.verbose decoded.log.toList
  match decoded.result with
  | .error trouble => .troubled environment command.verbose logged trouble
  | .ok (lines, data) =>
    deliver environment (logged ++ lines) (lastName inputs) data command.output

def summarize (sources : List String) (decoder : Decoder) (image : Image) : Summary where
  sources
  kind := image.kind
  version := versionText image.version
  checksum := image.checksum
  length := image.length
  blockCount := image.blockCount
  frames := decoder.frameCount
  duplicates := decoder.assembly.warnings.toList.map Duplicate.index

def imageDump (image : Image) : List Shown :=
  (hexDump? { DumpOptions.standard with title := "Image", maxLines := 16 } image.data).toList

def runInfo (environment : Environment) (command : InfoCommand) : Report :=
  let inputs := inputsOf environment.files environment.standard command.files
  let decoded := decodeInputs (.start command.limits .update) standardName #[] inputs
  let logged := shownLog command.verbose decoded.log.toList
  match decoded.result with
  | .error trouble => .troubled environment command.verbose logged trouble
  | .ok (decoder, image) =>
    let sources := inputs.map Input.name
    let panel := imagePanel image (", ".intercalate sources) decoder.frameCount
      decoder.assembly.warnings.size
    let lines :=
      if command.json then [.summary .out (summarize sources decoder image)]
      else panel :: (if command.hex then imageDump image else [])
    .showing environment 0 (logged ++ lines)

def runFrames (environment : Environment) (command : FramesCommand) : Report :=
  match environment.files.content? command.file with
  | .error fault => .broken environment [] fault
  | .ok none => .showing environment 1 [.text .out (missingText command.file)]
  | .ok (some data) =>
    let opcodes : OpcodeSet := if command.allOpcodes then .all else .update
    let segments := pass opcodes data none
    let logged := shownLog command.verbose (segments.map Segment.record)
    let found := segments.filterMap Segment.frame?
    let nothing := styled "yellow" ("No A6 SysEx frames found in " ++ command.file.text)
    let result := if found.isEmpty then Shown.text .out nothing else frameTable found
    .showing environment 0 (logged ++ [result])

def messageText (data : Bytes) : String :=
  let size := data.length + 2
  "  " ++ styled "dim" "SysEx:" ++ " " ++ joinCells (data.take 8) ++ s!"... ({size} bytes)"

def CaptureCommand.hear (command : CaptureCommand) (shown : Array Shown) (data : Bytes) :
    Array Shown :=
  if command.verbose then shown.push (.text .out (messageText data)) else shown

def captureLines (command : CaptureCommand) (capture : Capture) (heard : Array Shown) :
    List Shown :=
  shownLog command.verbose [listeningRecord capture.port] ++ heard.toList ++
    shownLog command.verbose (capture.closingRecords command.settings)

def keepCapture (environment : Environment) (command : CaptureCommand) (shown : List Shown)
    (capture : Capture) : Report :=
  let path := command.output.getD (.ofText ("a6_capture_" ++ environment.stamp ++ ".syx"))
  let written := environment.files.write path capture.data
  match written.result with
  | .error fault => { Report.broken environment shown fault with files := written.files }
  | .ok () =>
    let count := capture.messageCount
    let updates := capture.updateFrames
    let size := capture.data.length
    let lines := [styled "green" "Captured:" ++ " " ++ capture.port ++ " -> " ++ path.text,
      styled "dim" s!"{count} messages, {updates} update frames, {size} bytes"]
    { Report.showing environment 0 shown with
      shown := shown ++ lines.map (Shown.text .out)
      files := written.files }

def runCapture (environment : Environment) (command : CaptureCommand) : Report :=
  let waiting := Shown.text .out (styled "bold" "Waiting for SysEx...")
  match captureWith command.hear #[] environment.host command.settings with
  | .error error =>
    .showing environment 1 [waiting, .text .out (styled "red" ("Error: " ++ error.message))]
  | .ok (capture, heard) =>
    let shown := waiting :: captureLines command capture heard
    let report :=
      if capture.messageCount = 0 then
        { Report.showing environment 1 shown with
          shown := shown ++ [.text .out (styled "yellow" "No SysEx messages received.")] }
      else keepCapture environment command shown capture
    { report with capture := some capture }

def portText (port : String × Nat) : String :=
  let number := port.2
  "  " ++ styled "dim" s!"[{number}]" ++ " " ++ port.1

def runPorts (environment : Environment) : Report :=
  let ports := environment.host.ports
  if ports.isEmpty then
    .showing environment 1 [.text .out (styled "yellow" "No MIDI input ports found.")]
  else .showing environment 0 (ports.zipIdx.map fun port => .text .out (portText port))

def versionLines : List Shown :=
  [.text .out (styled "bold" "a6pkg" ++ " version 0.2.0"),
    .text .out (styled "dim" "A6 software update packager/unpackager")]

/-- What a command does as long as everything that it shows is taken. -/
def Command.run (environment : Environment) : Command → Report
  | .decode command => runDecode environment command
  | .info command => runInfo environment command
  | .frames command => runFrames environment command
  | .capture command => runCapture environment command
  | .ports => runPorts environment
  | .version => .showing environment 0 versionLines
  | .help => .showing environment 0 []

/-- Runs the command that some words give. Words that give none are refused with nothing
shown. -/
def runWords (environment : Environment) (vars : Variables) (words : List String) :
    Report :=
  match readCommand vars words with
  | some command => command.run environment
  | none => .showing environment 2 []

end Andromeda
