import Andromeda.Block
import Andromeda.Display.Markup
import Andromeda.Display.Shown
import Andromeda.Text.Hexadecimal
import Andromeda.Text.Padding

/-!
Hexadecimal dumps. A line holds an address, the bytes as two-digit cells and the bytes as
characters; lines whose address begins a block of 256 bytes carry its number.
-/

namespace Andromeda

structure DumpOptions where
  title : String
  startOffset : Int
  bytesPerLine : Int
  maxLines : Int
  deriving DecidableEq, Repr

def DumpOptions.standard : DumpOptions := ⟨"Hex Dump", 0, 16, 32⟩

structure DumpLine where
  address : Int
  bytes : Bytes
  deriving DecidableEq, Repr

def dumpLines (width : Nat) (address : Int) (done : List DumpLine) :
    Nat → Bytes → List DumpLine
  | 0, _ => done.reverse
  | count + 1, bytes =>
    dumpLines width (address + width) (⟨address, bytes.take width⟩ :: done) count
      (bytes.drop width)

def joinCells (bytes : Bytes) : String :=
  " ".intercalate (bytes.map fun byte => hexNumeral 2 byte.toNat)

/-- Cells in order, with a wider space behind the eighth. -/
def cellsText (bytes : Bytes) : String :=
  if bytes.length ≤ 8 then joinCells bytes
  else joinCells (bytes.take 8) ++ "   " ++ joinCells (bytes.drop 8)

def asciiText (bytes : Bytes) : String :=
  .ofList (bytes.map fun byte =>
    if 32 ≤ byte.toNat ∧ byte.toNat < 127 then .ofNat byte.toNat else '.')

def blockMark (address : Int) : String :=
  if address % 256 = 0 then
    let number := address / 256
    styled "magenta" ("#" ++ padRight 4 s!"{number}")
  else spaces 5

def DumpLine.text (width : Nat) (line : DumpLine) : String :=
  blockMark line.address ++ " " ++ styled "dim" (hexNumeral 8 line.address) ++ "  " ++
    padRight (width * 3 + 2) (cellsText line.bytes) ++ "  " ++
    styled "cyan" (asciiText line.bytes)

def DumpOptions.extent (options : DumpOptions) (data : Bytes) : Int :=
  min data.length (options.maxLines * options.bytesPerLine)

def DumpOptions.lineCount (options : DumpOptions) (data : Bytes) : Nat :=
  (pieceCount (options.extent data) options.bytesPerLine).toNat

/-- The lines of a dump. Without bytes on a line there is no dump; with a negative number of
them there is one only while it has no line to show. -/
def DumpOptions.lines? (options : DumpOptions) (data : Bytes) : Option (List DumpLine) :=
  if 0 < options.bytesPerLine then
    some (dumpLines options.bytesPerLine.toNat options.startOffset [] (options.lineCount data) data)
  else if options.bytesPerLine = 0 ∨ options.extent data < 0 then none
  else some []

def remainderText (rest : Int) : String := styled "dim" s!"... {rest} more bytes ..."

def hexDump? (options : DumpOptions) (data : Bytes) : Option Shown := do
  let lines ← options.lines? data
  let rest := data.length - options.extent data
  let shown := lines.map (DumpLine.text options.bytesPerLine.toNat)
  let ending := if 0 < rest then [remainderText rest] else []
  return .panel .out options.title ("\n".intercalate (shown ++ ending))

end Andromeda
