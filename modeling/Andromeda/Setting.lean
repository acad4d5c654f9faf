import Andromeda.Block
import Andromeda.Opcode
import Andromeda.Text.Quoted

namespace Andromeda

inductive SettingError where
  | capacityTooLarge (capacity : Int)
  | invalidOpcodes (opcodes : List Int)
  | unknownKind (name : String)
  deriving DecidableEq, Repr

def SettingError.message : SettingError → String
  | .capacityTooLarge capacity =>
    s!"Capacity {capacity} is beyond the supported maximum of {longestImage} bytes"
  | .invalidOpcodes opcodes =>
    let listed := ", ".intercalate (opcodes.map fun opcode => s!"{opcode}")
    s!"Opcodes must be non-empty and in 0x00-0x7F, got [{listed}]"
  | .unknownKind name =>
    let shown := quoted name
    s!"{shown} is not a valid UpdateKind"

def OpcodeSet.ofList (opcodes : List Int) : Except SettingError OpcodeSet :=
  let members := sortedDistinct opcodes
  if usable : members ≠ [] ∧ ∀ opcode ∈ members, 0 ≤ opcode ∧ opcode < 128 then
    .ok ⟨members, usable.1, usable.2⟩
  else .error (.invalidOpcodes members)

def ImageKind.ofName (name : String) : Except SettingError ImageKind :=
  if name = ImageKind.os.name then .ok .os
  else if name = ImageKind.boot.name then .ok .boot
  else .error (.unknownKind name)

structure Limits where
  capacity : Int
  strict : Bool
  capacity_le : capacity ≤ longestImage

def Limits.ofCapacity (capacity : Int) (strict : Bool) : Except SettingError Limits :=
  if fits : capacity ≤ longestImage then .ok ⟨capacity, strict, fits⟩
  else .error (.capacityTooLarge capacity)

def Limits.widest : Limits := ⟨longestImage, false, Int.le_refl _⟩

end Andromeda
