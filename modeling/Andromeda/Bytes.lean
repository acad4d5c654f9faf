namespace Andromeda

abbrev Bytes := List UInt8

def Bytes.values (bytes : Bytes) : List Int :=
  bytes.map fun byte => byte.toNat

/-- The lowest `width` bits of an integer of any size and sign. -/
def lowBits (width : Nat) (value : Int) : Nat := (value % Nat.pow 2 width).toNat

def ofBigEndian (bytes : Bytes) : Nat :=
  bytes.foldl (fun number byte => number * 256 + byte.toNat) 0

/-- The last `width` bytes of a number, most significant byte first. -/
def bigEndian : Nat → Nat → Bytes
  | 0, _ => []
  | width + 1, number => bigEndian width (number / 256) ++ [.ofNat (number % 256)]

theorem Bytes.length_values (bytes : Bytes) : bytes.values.length = bytes.length :=
  List.length_map _

theorem Bytes.values_append (first second : Bytes) :
    values (first ++ second) = first.values ++ second.values :=
  List.map_append

theorem length_bigEndian (width number : Nat) : (bigEndian width number).length = width := by
  induction width generalizing number with
  | zero => rfl
  | succ width ih => simp [bigEndian, ih]

end Andromeda
