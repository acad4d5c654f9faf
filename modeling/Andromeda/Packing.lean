import Andromeda.Bytes

/-!
Seven-bit packing. A data byte of a MIDI message keeps its high bit clear, so raw bytes
travel as one stream of bits, least significant first, cut into pieces of seven: seven raw
bytes fill eight packed ones. Both directions hold the bits not yet written as a number
below `2 ^ width`.
-/

namespace Andromeda

def unpackFrom (held width : Nat) (out : Bytes) : List Int → Bytes
  | [] => out.reverse
  | value :: values =>
    let joined := held + lowBits 7 value * Nat.pow 2 width
    if width = 0 then unpackFrom joined 7 out values
    else unpackFrom (joined / 256) (width - 1) (.ofNat (joined % 256) :: out) values

/-- Raw bytes of packed ones. Bits left over at the end do not fill a byte and are dropped. -/
def unpack (values : List Int) : Bytes := unpackFrom 0 0 [] values

def packFrom (held width : Nat) (out : Bytes) : List Int → Bytes
  | [] => (if width = 0 then out else .ofNat held :: out).reverse
  | value :: values =>
    let joined := held + lowBits 8 value * Nat.pow 2 width
    let out := .ofNat (joined % 128) :: out
    if width = 6 then packFrom 0 0 (.ofNat (joined / 128) :: out) values
    else packFrom (joined / 128) (width + 1) out values

/-- Packed bytes of raw ones. Bits left over at the end are written with zeros above them. -/
def pack (values : List Int) : Bytes := packFrom 0 0 [] values

def unpackedLength (packed : Int) : Int := packed - (packed + 7) / 8

def packedLength (raw : Int) : Int := raw + (raw + 6) / 7

theorem unpackFrom_out (held width : Nat) (out : Bytes) (values : List Int) :
    unpackFrom held width out values = out.reverse ++ unpackFrom held width [] values := by
  induction values generalizing held width out with
  | nil => simp [unpackFrom]
  | cons value values ih =>
    simp only [unpackFrom]
    split
    · rw [ih]
    · rw [ih, ih _ _ [_]]; simp

theorem packFrom_out (held width : Nat) (out : Bytes) (values : List Int) :
    packFrom held width out values = out.reverse ++ packFrom held width [] values := by
  induction values generalizing held width out with
  | nil => simp only [packFrom]; split <;> simp
  | cons value values ih =>
    simp only [packFrom]
    split
    · rw [ih, ih _ _ [_, _]]; simp
    · rw [ih, ih _ _ [_]]; simp

end Andromeda
