import Andromeda.Packing
import Andromeda.Opcode

/-!
System Exclusive frames of the synthesizer. On the wire a frame is the start byte, the
manufacturer and family numbers, an opcode, a run of data bytes and the end byte. Start and
end byte have the high bit set and nothing between them has, so a frame holds no other frame
and anything that breaks its form is noise.
-/

namespace Andromeda

structure Frame where
  offset : Int
  opcode : Int
  payload : Bytes
  deriving DecidableEq, Repr

def isData (byte : UInt8) : Bool := byte < 0x80

def frameStart : Bytes := [0xF0, 0x00, 0x00, 0x0E, 0x1D]

def frameEnd : UInt8 := 0xF7

def Frame.opcodePosition (frame : Frame) : Int := frame.offset + 5

def Frame.stop (frame : Frame) : Int := frame.opcodePosition + frame.payload.length + 2

def Frame.block (frame : Frame) : Bytes := unpack frame.payload.values

def Frame.toBytes (frame : Frame) : Bytes :=
  frameStart ++ .ofNat frame.opcode.toNat :: (frame.payload ++ [frameEnd])

/-- The frame that begins with the first byte of `bytes`, which stands at `offset`. -/
def frameAt? (opcodes : OpcodeSet) (offset : Nat) : Bytes → Option Frame
  | 0xF0 :: 0x00 :: 0x00 :: 0x0E :: 0x1D :: opcode :: rest =>
    if opcodes.accepts opcode.toNat ∧ (rest.dropWhile isData).head? = some frameEnd then
      some ⟨offset, opcode.toNat, rest.takeWhile isData⟩
    else none
  | _ => none

/-- The leftmost frames, from a byte that stands at `offset`. The next `inside` bytes belong
to a frame already found, and none of them is tried as the start of another one. -/
def framesFrom (opcodes : OpcodeSet) (offset inside : Nat) (found : List Frame) :
    Bytes → List Frame
  | [] => found.reverse
  | byte :: bytes =>
    match inside with
    | inside + 1 => framesFrom opcodes (offset + 1) inside found bytes
    | 0 =>
      match frameAt? opcodes offset (byte :: bytes) with
      | some frame =>
        framesFrom opcodes (offset + 1) (frame.payload.length + 6) (frame :: found) bytes
      | none => framesFrom opcodes (offset + 1) 0 found bytes

/-- The frames in the data that carry one of the opcodes, in order. A search goes on behind
the end byte of the frame before. -/
def frames (opcodes : OpcodeSet) (data : Bytes) : List Frame := framesFrom opcodes 0 0 [] data

theorem framesFrom_found (opcodes : OpcodeSet) (offset inside : Nat) (found : List Frame)
    (bytes : Bytes) :
    framesFrom opcodes offset inside found bytes =
      found.reverse ++ framesFrom opcodes offset inside [] bytes := by
  induction bytes generalizing offset inside found with
  | nil => simp [framesFrom]
  | cons byte bytes ih =>
    cases inside with
    | succ inside => exact ih (offset + 1) inside found
    | zero =>
      simp only [framesFrom]
      split
      · rw [ih, ih _ _ [_]]; simp
      · rw [ih]

end Andromeda
