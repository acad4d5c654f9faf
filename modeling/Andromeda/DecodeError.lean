import Andromeda.Text.Hexadecimal

namespace Andromeda

inductive DecodeError where
  | undecodable (reason : String)
  | malformedBlock (actual expected offset : Int)
  | invalidImageLength (actual maximum : Int)
  | invalidBlockCount (actual expected : Int)
  | inconsistentHeader (field : String) (expected actual : Int) (index : Option Int)
      (offset : Int)
  | indexOutOfRange (index blockCount offset : Int)
  | duplicateBlock (index offset : Int)
  | missingBlocks (firstMissing : Int)
  | checksumMismatch (expected actual : Int)
  | inconsistentOpcode (offset expected actual : Int)
  deriving DecidableEq, Repr

/-- A repeated block can be taken as a newer copy; nothing else can be worked around. -/
def DecodeError.fatal : DecodeError → Bool
  | .duplicateBlock .. => false
  | _ => true

def DecodeError.message : DecodeError → String
  | .undecodable reason => reason
  | .malformedBlock actual expected offset =>
    s!"at blocks offset {offset}: expected block of {expected} bytes, but got {actual} bytes"
  | .invalidImageLength actual maximum =>
    s!"invalid image length: {actual} bytes; the maximum image length is {maximum} bytes"
  | .invalidBlockCount actual expected =>
    s!"invalid block count: {actual} blocks; this image requires {expected} blocks"
  | .inconsistentHeader field expected actual _ offset =>
    let wanted := hexNumeral 0 expected
    let found := hexNumeral 0 actual
    s!"at blocks offset {offset}: {field} does not match previous blocks " ++
      s!"(expected 0x{wanted}, found 0x{found})"
  | .indexOutOfRange index blockCount offset =>
    s!"at blocks offset {offset}: block index {index} is out of range " ++
      s!"(image has {blockCount} blocks)"
  | .duplicateBlock index offset => s!"at blocks offset {offset}: duplicate block {index}"
  | .missingBlocks firstMissing =>
    s!"one or more blocks missing, starting at block {firstMissing}"
  | .checksumMismatch expected actual =>
    let wanted := hexNumeral 8 expected
    let found := hexNumeral 8 actual
    s!"header checksum 0x{wanted} does not match calculated sum 0x{found}"
  | .inconsistentOpcode offset expected actual =>
    let wanted := hexNumeral 2 expected
    let found := hexNumeral 2 actual
    s!"sysex offset {offset}: expected {wanted}, but found {found}"

end Andromeda
