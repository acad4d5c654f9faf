import Andromeda.Assembly
import Andromeda.Proofs.Block.Layout
import Andromeda.Proofs.Block.Slices
import Andromeda.Proofs.Outcome
import Mathlib.Data.List.Basic
import Mathlib.Tactic.Common

/-!
The state of an assembly as a function of the blocks it has taken. Every slot holds the data
of the newest block with its index, and the running values are what they say of the data in
the slots, however often a block came again.
-/

namespace Andromeda

def newest (blocks : List Bytes) (index : Nat) : Option Bytes :=
  blocks.reverse.find? fun block => (Header.read block).blockIndex = index

def slotOf (blocks : List Bytes) (index : Nat) : Option Bytes :=
  (newest blocks index).map fun block => usedData (Header.read block) block

def stored (count : Nat) (blocks : List Bytes) : Bytes :=
  (List.range count).flatMap fun index => (slotOf blocks index).getD []

/-- The blocks that repeat an index, when the ones in `seen` came before. -/
def repeatsAfter (seen : List Bytes) : List Bytes → List Duplicate
  | [] => []
  | block :: rest =>
    let index := (Header.read block).blockIndex
    (if (newest seen index.toNat).isSome then
      [⟨index, (seen.length * blockLength : Nat) + 14⟩] else []) ++
      repeatsAfter (seen ++ [block]) rest

def Assembly.holding (limits : Limits) (header : Header) (blocks : List Bytes) : Assembly where
  limits
  header := some header
  slots := ((List.range header.blockCount.toNat).map (slotOf blocks)).toArray
  checksum := Checksum.add 0 (stored header.blockCount.toNat blocks).values
  consumed := (stored header.blockCount.toNat blocks).length
  position := (blocks.length * blockLength : Nat)
  warnings := (repeatsAfter [] blocks).toArray
  halted := none

def Assembly.after (limits : Limits) : List Bytes → Assembly
  | [] => .start limits
  | first :: rest => .holding limits (Header.read first) (first :: rest)

/-- The header has all fields of the other one, but for its index. -/
structure Header.Repeats (header reference : Header) : Prop where
  version : header.version = reference.version
  checksum : header.checksum = reference.checksum
  length : header.length = reference.length
  blockCount : header.blockCount = reference.blockCount

structure Header.Leads (header : Header) (limits : Limits) : Prop where
  length : header.length ≤ limits.capacity
  blockCount : header.blockCount = pieceCount header.length blockDataLength

structure Admits (limits : Limits) (taken : List Bytes) (block : Bytes) : Prop where
  size : block.length = blockLength
  first : taken = [] → (Header.read block).Leads limits
  later : ∀ reference ∈ taken.head?, (Header.read block).Repeats (Header.read reference)
  index : (Header.read block).blockIndex < (Header.read block).blockCount
  fresh : limits.strict = true → newest taken (Header.read block).blockIndex.toNat = none

theorem newest_concat (taken : List Bytes) (block : Bytes) (index : Nat) :
    newest (taken ++ [block]) index =
      if (Header.read block).blockIndex = index then some block else newest taken index := by
  by_cases same : (Header.read block).blockIndex = index <;> simp [newest, same]

theorem newest_eq_none_iff (taken : List Bytes) (index : Nat) :
    newest taken index = none ↔ ∀ block ∈ taken, (Header.read block).blockIndex ≠ index := by
  simp [newest]

theorem newest_mem {taken : List Bytes} {index : Nat} {block : Bytes}
    (found : newest taken index = some block) :
    block ∈ taken ∧ (Header.read block).blockIndex = index := by
  have member := List.mem_of_find?_eq_some found
  have same := List.find?_some found
  exact ⟨List.mem_reverse.mp member, of_decide_eq_true same⟩

theorem Header.read_index (block : Bytes) :
    ((Header.read block).blockIndex.toNat : Int) = (Header.read block).blockIndex :=
  Int.toNat_of_nonneg (fieldAt_nonneg block 14 2)

theorem slotOf_concat (taken : List Bytes) (block : Bytes) (index : Nat) :
    slotOf (taken ++ [block]) index =
      if (Header.read block).blockIndex = index then some (usedData (Header.read block) block)
      else slotOf taken index := by
  rw [slotOf, newest_concat]
  split <;> rfl

theorem repeatsAfter_concat (seen taken : List Bytes) (block : Bytes) :
    repeatsAfter seen (taken ++ [block]) = repeatsAfter seen taken ++
      if (newest (seen ++ taken) (Header.read block).blockIndex.toNat).isSome then
        [⟨(Header.read block).blockIndex, ((seen ++ taken).length * blockLength : Nat) + 14⟩]
      else [] := by
  induction taken generalizing seen with
  | nil => simp [repeatsAfter]
  | cons first rest ih =>
      rw [List.cons_append, repeatsAfter, ih, repeatsAfter, List.append_assoc, List.append_assoc]
      rfl

theorem stored_concat (taken : List Bytes) (block : Bytes) (count : Nat)
    (inside : (Header.read block).blockIndex.toNat < count) :
    ∃ front back, stored count taken =
        front ++ ((slotOf taken (Header.read block).blockIndex.toNat).getD [] ++ back) ∧
      stored count (taken ++ [block]) =
        front ++ (usedData (Header.read block) block ++ back) := by
  have same := Header.read_index block
  generalize (Header.read block).blockIndex.toNat = slot at inside same
  have other : ∀ different < count, different ≠ slot →
      (slotOf (taken ++ [block]) different).getD [] = (slotOf taken different).getD [] := by
    intro different _ distinct
    rw [slotOf_concat, if_neg (by omega)]
  have this : (slotOf (taken ++ [block]) slot).getD [] = usedData (Header.read block) block := by
    rw [slotOf_concat, if_pos same.symm]
    rfl
  rw [← this]
  exact flatMap_exchange inside other

end Andromeda
