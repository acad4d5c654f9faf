import Andromeda.Checksum
import Andromeda.Image
import Andromeda.Outcome
import Andromeda.Setting

namespace Andromeda

/-- A block that came again: its index, and where the repeated index stands in the stream
of blocks. -/
structure Duplicate where
  index : Int
  offset : Int
  deriving DecidableEq, Repr

def Duplicate.error (duplicate : Duplicate) : DecodeError :=
  .duplicateBlock duplicate.index duplicate.offset

structure Assembly where
  limits : Limits
  header : Option Header
  slots : Array (Option Bytes)
  checksum : Int
  consumed : Int
  /-- Where the next block stands in the stream of blocks. -/
  position : Int
  warnings : Array Duplicate
  halted : Option DecodeError

def Assembly.start (limits : Limits) : Assembly where
  limits
  header := none
  slots := #[]
  checksum := 0
  consumed := 0
  position := 0
  warnings := #[]
  halted := none

def Assembly.received (assembly : Assembly) : Nat := assembly.slots.countP Option.isSome

def Assembly.firstMissing (assembly : Assembly) : Option Nat :=
  match assembly.header with
  | none => some 0
  | some _ => assembly.slots.findIdx? Option.isNone

def Assembly.halt (assembly : Assembly) (error : DecodeError) : Outcome Assembly α :=
  .failed { assembly with halted := some error } error

def checkFirst (limits : Limits) (header : Header) : Except DecodeError Unit :=
  let expected := pieceCount header.length blockDataLength
  if limits.capacity < header.length then
    .error (.invalidImageLength header.length limits.capacity)
  else if header.blockCount = expected then .ok ()
  else .error (.invalidBlockCount header.blockCount expected)

/-- A later header repeats the first one. Errors point at the field that differs. -/
def checkRepeated (reference header : Header) (position : Int) :
    Except DecodeError Unit := do
  let index := some header.blockIndex
  checkField "version" header.version reference.version index position
  checkField "checksum" header.checksum reference.checksum index (position + 4)
  checkField "length" header.length reference.length index (position + 8)
  checkField "block count" header.blockCount reference.blockCount index (position + 12)

def Assembly.withHeader (assembly : Assembly) (header : Header) : Except DecodeError Assembly :=
  match assembly.header with
  | some reference => do
    checkRepeated reference header assembly.position
    return assembly
  | none => do
    checkFirst assembly.limits header
    return { assembly with
      header := some header, slots := Array.replicate header.blockCount.toNat none }

def Assembly.discard (assembly : Assembly) (duplicate : Duplicate) (previous : Bytes) :
    Assembly :=
  { assembly with
    warnings := assembly.warnings.push duplicate
    checksum := Checksum.remove assembly.checksum previous.values
    consumed := assembly.consumed - previous.length }

def usedData (header : Header) (block : Bytes) : Bytes :=
  (block.drop headerLength).take (sliceLength header.blockIndex header.length).toNat

def Assembly.store (assembly : Assembly) (header : Header) (block : Bytes) : Assembly :=
  let size := sliceLength header.blockIndex header.length
  let data := usedData header block
  { assembly with
    slots := assembly.slots.setIfInBounds header.blockIndex.toNat (some data)
    checksum := Checksum.add assembly.checksum data.values
    consumed := assembly.consumed + size
    position := assembly.position + block.length }

def placedRecord (header : Header) (checksum : Int) : LogRecord :=
  let index := header.blockIndex
  let count := header.blockCount
  let size := sliceLength index header.length
  let sum := hexNumeral 8 checksum
  ⟨.debug, s!"Block {index}/{count}: {size} data bytes, running sum {sum}"⟩

def Assembly.place (assembly : Assembly) (header : Header) (block : Bytes) :
    Outcome Assembly Unit :=
  let index := header.blockIndex
  let offset := assembly.position + 14
  if index < 0 ∨ header.blockCount ≤ index then
    assembly.halt (.indexOutOfRange index header.blockCount offset)
  else
    match assembly.slots[index.toNat]? with
    | some (some previous) =>
      let duplicate : Duplicate := ⟨index, offset⟩
      if assembly.limits.strict then assembly.halt duplicate.error
      else
        let stored := (assembly.discard duplicate previous).store header block
        ⟨stored, .ok (), #[⟨.warning, duplicate.error.message⟩,
          placedRecord header stored.checksum]⟩
    | _ =>
      let stored := assembly.store header block
      ⟨stored, .ok (), #[placedRecord header stored.checksum]⟩

def Assembly.add (assembly : Assembly) (block : Bytes) : Outcome Assembly Unit :=
  match assembly.halted with
  | some error => .failed assembly error
  | none =>
    match Header.ofBlock block assembly.position with
    | .error error => assembly.halt error
    | .ok header =>
      match assembly.withHeader header with
      | .error error => assembly.halt error
      | .ok admitted => admitted.place header block

def Assembly.image (assembly : Assembly) : Except DecodeError Image :=
  match assembly.firstMissing, assembly.header with
  | some missing, _ => .error (.missingBlocks missing)
  | none, none => .error (.missingBlocks 0)
  | none, some header =>
    if assembly.checksum = header.checksum then
      .ok {
        data := assembly.slots.toList.flatMap (·.getD [])
        version := header.version
        checksum := header.checksum
        length := header.length
        blockCount := header.blockCount
        kind := none
      }
    else .error (.checksumMismatch header.checksum assembly.checksum)

def Assembly.finish (assembly : Assembly) : Outcome Assembly Image :=
  match assembly.halted with
  | some error => .failed assembly error
  | none =>
    match assembly.image with
    | .ok image => .done assembly image
    | .error error => assembly.halt error

end Andromeda
