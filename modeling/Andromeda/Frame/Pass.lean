import Andromeda.Frame
import Andromeda.Log

namespace Andromeda

inductive Segment where
  | skipped (length offset : Int)
  | found (frame : Frame)
  deriving DecidableEq, Repr

def Segment.record : Segment → LogRecord
  | .skipped length offset => ⟨.debug, s!"Skipped {length} bytes at offset {offset}"⟩
  | .found frame =>
    let offset := frame.offset
    let name := opcodeLabel frame.opcode
    let size := frame.payload.length
    ⟨.debug, s!"Frame at offset {offset}: opcode {name}, {size} data bytes"⟩

def gap (start stop : Int) : List Segment :=
  if start < stop then [.skipped (stop - start) start] else []

/-- Frames with the noise in front of each. The noise behind the last one counts only up to
a given end of the data. -/
def tile (stop : Option Int) (position : Int) (done : List Segment) :
    List Frame → List Segment
  | [] =>
    match stop with
    | some stop => (gap position stop ++ done).reverse
    | none => done.reverse
  | frame :: rest =>
    tile stop frame.stop (.found frame :: (gap position frame.offset ++ done)) rest

/-- A pass that stops right behind its frame number `limit`, or runs to the end of the data
when there are fewer. -/
def pass (opcodes : OpcodeSet) (data : Bytes) (limit : Option Nat) : List Segment :=
  let found := frames opcodes data
  match limit with
  | none => tile (some data.length) 0 [] found
  | some count =>
    if count ≤ found.length then tile none 0 [] (found.take count)
    else tile (some data.length) 0 [] found

def Segment.frame? : Segment → Option Frame
  | .found frame => some frame
  | .skipped .. => none

end Andromeda
