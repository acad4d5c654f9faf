import Andromeda.Block
import Andromeda.Opcode

namespace Andromeda

structure Image where
  data : Bytes
  version : Int
  checksum : Int
  length : Int
  blockCount : Int
  kind : Option ImageKind
  deriving DecidableEq, Repr

def Image.fields (image : Image) : List (String × String) :=
  let length := image.length
  let count := image.blockCount
  [("Version", versionText image.version), ("Checksum", hexNumeral 8 image.checksum),
    ("Length", s!"{length} bytes"), ("Blocks", s!"{count} {blockDataLength}-byte blocks")]
    ++ image.kind.toList.map fun kind => ("Kind", kind.name)

end Andromeda
