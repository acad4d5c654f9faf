import Andromeda.Frame
import Andromeda.Image

namespace Andromeda

structure Update where
  data : Bytes
  version : Int
  kind : ImageKind
  deriving DecidableEq, Repr

def Update.blockCount (update : Update) : Nat :=
  (pieceCount update.data.length blockDataLength).toNat

def Update.checksum (update : Update) : Nat :=
  update.data.foldl (fun sum byte => sum + byte.toNat) 0

def Update.header (update : Update) (index : Nat) : Header where
  version := update.version
  checksum := update.checksum
  length := update.data.length
  blockCount := update.blockCount
  blockIndex := index

def Update.slice (update : Update) (index : Nat) : Bytes :=
  (update.data.drop (index * blockDataLength)).take blockDataLength

/-- A block. Its slice of the image is filled up to the length of all blocks. -/
def Update.block (update : Update) (filling : Nat → UInt8) (index : Nat) : Bytes :=
  let slice := update.slice index
  (update.header index).bytes ++ slice ++
    (List.range (blockDataLength - slice.length)).map filling

def Update.frame (update : Update) (filling : Nat → UInt8) (offset : Int) (index : Nat) :
    Frame :=
  ⟨offset, update.kind.opcode, pack (update.block filling index).values⟩

def Update.send (update : Update) (filling : Nat → UInt8) (index : Nat) : Bytes :=
  (update.frame filling 0 index).toBytes

def Update.image (update : Update) : Image where
  data := update.data
  version := update.version
  checksum := update.checksum
  length := update.data.length
  blockCount := update.blockCount
  kind := some update.kind

end Andromeda
