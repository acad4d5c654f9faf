import Andromeda.Text.Hexadecimal

namespace Andromeda

def opcodeNames : List (Int × String) :=
  [(0x00, "PGM_DUMP"), (0x01, "PGM_DUMP_REQ"), (0x02, "PGM_EDIT_BUF_DUMP"),
   (0x03, "PGM_EDIT_BUF_DUMP_REQ"), (0x04, "MIX_DUMP"), (0x05, "MIX_DUMP_REQ"),
   (0x06, "MIX_EDIT_BUF_DUMP"), (0x07, "MIX_EDIT_BUF_DUMP_REQ"), (0x08, "GLOBAL_DATA_DUMP"),
   (0x09, "GLOBAL_DATA_DUMP_REQ"), (0x0A, "PGM_BANK_REQ"), (0x0B, "MIX_BANK_REQ"),
   (0x0C, "DUMP_ALL_REQ"), (0x0D, "MODE_SELECT"), (0x0E, "EDIT"), (0x30, "UPDATE_OS"),
   (0x3F, "UPDATE_BOOT")]

def opcodeLabel (opcode : Int) : String :=
  (opcodeNames.lookup opcode).getD ("0x" ++ hexNumeral 2 opcode)

inductive ImageKind where
  | os
  | boot
  deriving DecidableEq, Repr

def ImageKind.name : ImageKind → String
  | .os => "os"
  | .boot => "boot"

def ImageKind.opcode : ImageKind → Int
  | .os => 0x30
  | .boot => 0x3F

def ImageKind.ofOpcode? (opcode : Int) : Option ImageKind :=
  if opcode = ImageKind.os.opcode then some .os
  else if opcode = ImageKind.boot.opcode then some .boot
  else none

/-- A set of opcodes to look for: listed once each in increasing order, at least one, all of
them data bytes. -/
structure OpcodeSet where
  members : List Int
  nonempty : members ≠ []
  data : ∀ opcode ∈ members, 0 ≤ opcode ∧ opcode < 128

def OpcodeSet.accepts (opcodes : OpcodeSet) (opcode : Int) : Bool :=
  opcodes.members.contains opcode

def insertDistinct (opcode : Int) : List Int → List Int
  | [] => [opcode]
  | first :: rest =>
    if opcode < first then opcode :: first :: rest
    else if opcode = first then first :: rest
    else first :: insertDistinct opcode rest

def sortedDistinct (opcodes : List Int) : List Int := opcodes.foldr insertDistinct []

def OpcodeSet.update : OpcodeSet := ⟨[0x30, 0x3F], by decide, by decide⟩

def OpcodeSet.all : OpcodeSet where
  members := (List.range 128).map Int.ofNat
  nonempty := by decide
  data := by
    intro opcode member
    obtain ⟨code, inside, rfl⟩ := List.mem_map.mp member
    have below := List.mem_range.mp inside
    exact ⟨Int.natCast_nonneg code, Int.ofNat_lt.mpr below⟩

end Andromeda
