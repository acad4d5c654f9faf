import Andromeda.Block
import Andromeda.Display.Markup
import Andromeda.Display.Shown
import Andromeda.Frame

namespace Andromeda

def frameColumns : List String :=
  ["#", "Offset", "Opcode", "Packed", "Unpacked", "Block", "Version"]

def Frame.header? (frame : Frame) : Option Header :=
  (Header.ofBlock frame.block 0).toOption

def absent : String := styled "dim" "-"

/-- The packed length, marked when it is not that of a block. -/
def packedCell (frame : Frame) : String :=
  let packed := frame.payload.length
  if packed = packedBlockLength then s!"{packed}" else styled "yellow" s!"{packed}"

def blockCell : Option Header → String
  | some header =>
    let index := header.blockIndex
    let count := header.blockCount
    s!"{index}/{count}"
  | none => absent

def versionCell : Option Header → String
  | some header => versionText header.version
  | none => absent

def opcodeCell (opcode : Int) : String :=
  let name := opcodeLabel opcode
  let code := hexNumeral 2 opcode
  s!"{name} ({code})"

def frameRow (number : Nat) (frame : Frame) : List String :=
  let unpacked := frame.block.length
  [s!"{number}", "0x" ++ hexNumeral 6 frame.offset, opcodeCell frame.opcode, packedCell frame,
    s!"{unpacked}", blockCell frame.header?, versionCell frame.header?]

def frameTable (frames : List Frame) : Shown :=
  let count := frames.length
  .table .out s!"SysEx Frames ({count})" frameColumns
    (frames.zipIdx.map fun frame => frameRow frame.2 frame.1)

end Andromeda
