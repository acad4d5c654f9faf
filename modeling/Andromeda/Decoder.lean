import Andromeda.Assembly
import Andromeda.Frame.Pass

/-!
Decoding captured data to an update image. The first frame decides which kind of update it
is, and all frames after it, in this buffer or a later one, carry the same opcode.
-/

namespace Andromeda

structure Decoder where
  opcodes : OpcodeSet
  assembly : Assembly
  firstOpcode : Option Int
  kind : Option ImageKind
  frameCount : Nat

def Decoder.start (limits : Limits) (opcodes : OpcodeSet) : Decoder :=
  ⟨opcodes, .start limits, none, none, 0⟩

def Decoder.withOpcode (decoder : Decoder) (frame : Frame) : Except DecodeError Decoder :=
  match decoder.firstOpcode with
  | none => .ok { decoder with
      firstOpcode := some frame.opcode, kind := ImageKind.ofOpcode? frame.opcode }
  | some first =>
    if frame.opcode = first then .ok decoder
    else .error (.inconsistentOpcode frame.opcodePosition first frame.opcode)

def Decoder.count (decoder : Decoder) : Decoder :=
  { decoder with frameCount := decoder.frameCount + 1 }

def Decoder.addFrame (decoder : Decoder) (frame : Frame) : Outcome Decoder Unit :=
  match decoder.withOpcode frame with
  | .error error => .failed decoder error
  | .ok ⟨opcodes, assembly, firstOpcode, kind, frameCount⟩ =>
    let added := assembly.add frame.block
    let count := match added.result with
      | .ok () => frameCount + 1
      | .error _ => frameCount
    ⟨⟨opcodes, added.state, firstOpcode, kind, count⟩, added.result, added.log⟩

def Decoder.feedSegment (decoder : Decoder) (segment : Segment) : Outcome Decoder Unit :=
  let noted : Outcome Decoder Unit := ⟨decoder, .ok (), #[segment.record]⟩
  match segment with
  | .skipped .. => noted
  | .found frame => noted.andThen fun decoder _ => decoder.addFrame frame

def Decoder.feed (decoder : Decoder) (data : Bytes) : Outcome Decoder Unit :=
  Outcome.each (fun decoder _ segment => decoder.feedSegment segment) decoder ()
    (pass decoder.opcodes data none)

def Decoder.doneRecord (decoder : Decoder) (image : Image) : LogRecord :=
  let kind := (decoder.kind.map ImageKind.name).getD "unknown"
  let version := versionText image.version
  let count := decoder.frameCount
  ⟨.debug, s!"Decoded {kind} image {version} from {count} frames"⟩

def Decoder.finish (decoder : Decoder) : Outcome Decoder Image :=
  let finished := decoder.assembly.finish
  let decoder := { decoder with assembly := finished.state }
  match finished.result with
  | .error error => .failed decoder error
  | .ok image =>
    ⟨decoder, .ok { image with kind := decoder.kind }, #[decoder.doneRecord image]⟩

def Decoder.decode (decoder : Decoder) (buffers : List Bytes) : Outcome Decoder Image :=
  (Outcome.each (fun decoder _ data => decoder.feed data) decoder () buffers).andThen
    fun decoder _ => decoder.finish

/-- The block of a frame is kept as it is. The newest block comes first. -/
def Decoder.collectSegment (decoder : Decoder) (blocks : List Bytes) (segment : Segment) :
    Outcome Decoder (List Bytes) :=
  let noted : Outcome Decoder (List Bytes) := ⟨decoder, .ok blocks, #[segment.record]⟩
  match segment with
  | .skipped .. => noted
  | .found frame =>
    match decoder.withOpcode frame with
    | .error error => ⟨decoder, .error error, #[segment.record]⟩
    | .ok decoder => ⟨decoder.count, .ok (frame.block :: blocks), #[segment.record]⟩

def Decoder.collect (decoder : Decoder) (blocks : List Bytes) (data : Bytes) :
    Outcome Decoder (List Bytes) :=
  Outcome.each Decoder.collectSegment decoder blocks (pass decoder.opcodes data none)

/-- The blocks in several buffers, unpacked but not put together. -/
def Decoder.rawBlocks (decoder : Decoder) (buffers : List Bytes) : Outcome Decoder Bytes :=
  (Outcome.each Decoder.collect decoder [] buffers).andThen
    fun decoder blocks => .done decoder blocks.reverse.flatten

end Andromeda
