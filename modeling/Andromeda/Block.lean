import Andromeda.Bytes
import Andromeda.DecodeError

/-!
Blocks. An update image travels in blocks of one size: a header of sixteen bytes and 256
bytes of data. Every header repeats the version, checksum, length and block count of the
whole image and adds the position of its own block; the fields are big-endian words of
4, 4, 4, 2 and 2 bytes.
-/

namespace Andromeda

def headerLength : Nat := 16
def blockDataLength : Nat := 256
def blockLength : Nat := headerLength + blockDataLength

def packedBlockLength : Nat := 311

def longestImage : Int := 2 * 1024 * 1024

/-- A version number holds its major, minor and patch parts in base one hundred. -/
def versionText (version : Int) : String :=
  s!"{version / 10000}.{version / 100 % 100}.{version % 100}"

structure Header where
  version : Int
  checksum : Int
  length : Int
  blockCount : Int
  blockIndex : Int
  deriving DecidableEq, Repr

def fitsWord (width : Nat) (value : Int) : Bool := 0 ≤ value && value < Nat.pow 256 width

def Header.fits (header : Header) : Bool :=
  fitsWord 4 header.version && fitsWord 4 header.checksum && fitsWord 4 header.length &&
    fitsWord 2 header.blockCount && fitsWord 2 header.blockIndex

def Header.bytes (header : Header) : Bytes :=
  bigEndian 4 header.version.toNat ++ bigEndian 4 header.checksum.toNat ++
    bigEndian 4 header.length.toNat ++ bigEndian 2 header.blockCount.toNat ++
    bigEndian 2 header.blockIndex.toNat

def Header.toBytes? (header : Header) : Option Bytes :=
  if header.fits then some header.bytes else none

def fieldAt (block : Bytes) (position width : Nat) : Int :=
  ofBigEndian ((block.drop position).take width)

def Header.ofBlock (block : Bytes) (offset : Int) : Except DecodeError Header :=
  if block.length = blockLength then
    .ok {
      version := fieldAt block 0 4
      checksum := fieldAt block 4 4
      length := fieldAt block 8 4
      blockCount := fieldAt block 12 2
      blockIndex := fieldAt block 14 2
    }
  else .error (.malformedBlock block.length blockLength offset)

/-- The bytes that block `index` contributes to an image of `length` bytes. -/
def sliceLength (index length : Int) : Int :=
  max 0 (min (length - index * blockDataLength) blockDataLength)

def pieceCount (length size : Int) : Int := -((-length).fdiv size)

def pieceCount? (length size : Int) : Option Int :=
  if size = 0 then none else some (pieceCount length size)

def checkField (field : String) (actual expected : Int) (index : Option Int) (offset : Int) :
    Except DecodeError Unit :=
  if actual = expected then .ok ()
  else .error (.inconsistentHeader field expected actual index offset)

end Andromeda
