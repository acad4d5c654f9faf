import Andromeda.Display.FrameTable
import Andromeda.Proofs.Assembly.Calls
import Andromeda.Proofs.Display.Spans
import Andromeda.Proofs.Packing.Stream
import Mathlib

/-!
The table of the frames against the assembly. The table looks at the packed length of a frame for
one cell and at the unpacked length for two others, and an assembly at the unpacked length alone.
Only one packed length unpacks to that of a block, so all of them say the same.
-/

namespace Andromeda

def cellUnder (heading : String) (row : List String) : Option String :=
  (frameColumns.zip row).lookup heading

def MarkedRow (row : List String) : Prop :=
  ∃ packed, cellUnder "Packed" row = some (styled "yellow" packed)

def Frame.readHeader (frame : Frame) : Except DecodeError (Option Header) :=
  if frame.block.length = blockLength then (Header.ofBlock frame.block 0).map some else .ok none

def Assembly.CallsMalformed (assembly : Assembly) (block : Bytes) : Prop :=
  ∃ actual expected offset,
    (assembly.add block).result = .error (.malformedBlock actual expected offset)

structure Frame.ShownBy (frame : Frame) (number : Nat) (row : List String) : Prop where
  numbered : cellUnder "#" row = some s!"{number}"
  packed : cellUnder "Packed" row = some s!"{frame.payload.length}" ∨
    cellUnder "Packed" row = some (styled "yellow" s!"{frame.payload.length}")
  unpacked : cellUnder "Unpacked" row = some s!"{frame.block.length}"
  blockless : MarkedRow row ↔ cellUnder "Block" row = some (styled "dim" "-")
  versionless : MarkedRow row ↔ cellUnder "Version" row = some (styled "dim" "-")
  length : MarkedRow row ↔ cellUnder "Unpacked" row ≠ some "272"
  malformed : ∀ assembly : Assembly, assembly.halted = none →
    (MarkedRow row ↔ assembly.CallsMalformed frame.block)
  readable : frame.readHeader = .ok frame.header?
  header : ¬ MarkedRow row → ∃ header : Header,
    (∀ offset, Header.ofBlock frame.block offset = .ok header) ∧
      cellUnder "Block" row = some s!"{header.blockIndex}/{header.blockCount}" ∧
      cellUnder "Version" row = some (versionText header.version)

theorem Frame.length_block_iff (frame : Frame) :
    frame.block.length = blockLength ↔ frame.payload.length = packedBlockLength := by
  have sizes : blockLength = 272 ∧ packedBlockLength = 311 := ⟨rfl, rfl⟩
  rw [Frame.block, length_unpack, Bytes.length_values]
  omega

theorem callsMalformed_iff {assembly : Assembly} (running : assembly.halted = none) (block : Bytes) :
    assembly.CallsMalformed block ↔ block.length ≠ blockLength := by
  constructor
  · rintro ⟨actual, expected, offset, failed⟩ size
    cases recorded : assembly.withHeader (Header.read block) with
    | error reason =>
        rw [add_unrecorded running size recorded] at failed
        cases failed
        exact withHeader_error recorded
    | ok admitted =>
        rw [add_recorded running size recorded] at failed
        exact place_error failed
  · intro size
    rw [Assembly.CallsMalformed, add_malformed running size]
    exact ⟨_, _, _, rfl⟩

theorem Frame.header?_eq (frame : Frame) :
    frame.header? =
      if frame.block.length = blockLength then some (Header.read frame.block) else none := by
  rw [Frame.header?, Header.ofBlock_eq]
  split <;> rfl

theorem cellUnder_row (number : Nat) (frame : Frame) :
    cellUnder "#" (frameRow number frame) = some s!"{number}" ∧
      cellUnder "Packed" (frameRow number frame) = some (packedCell frame) ∧
      cellUnder "Unpacked" (frameRow number frame) = some s!"{frame.block.length}" ∧
      cellUnder "Block" (frameRow number frame) = some (blockCell frame.header?) ∧
      cellUnder "Version" (frameRow number frame) = some (versionCell frame.header?) := by
  simp [cellUnder, frameRow, frameColumns, List.lookup_cons]

theorem isQuiet_numeral (number : Nat) : IsQuiet s!"{number}" := isQuiet_decimal number

theorem isQuiet_blockCell (header : Header) : IsQuiet (blockCell (some header)) := by
  have slash : IsQuiet (toString "/") := by decide
  exact ((isQuiet_decimal header.blockIndex).append slash).append
    (isQuiet_decimal header.blockCount)

theorem cell_eq_absent_iff {cell : Option Header → String} (none : cell none = absent)
    (quiet : ∀ header, IsQuiet (cell (some header))) (header : Option Header) :
    cell header = absent ↔ header = .none := by
  cases header with
  | none => exact iff_of_true none rfl
  | some header =>
      exact iff_of_false ((quiet header).ne_styled "dim" "-") (Option.some_ne_none header)

theorem markedRow_iff (number : Nat) (frame : Frame) :
    MarkedRow (frameRow number frame) ↔ frame.block.length ≠ blockLength := by
  rw [MarkedRow, (cellUnder_row number frame).2.1, Ne, frame.length_block_iff, packedCell]
  split
  case isTrue whole =>
    simpa [whole] using (isQuiet_numeral frame.payload.length).ne_styled "yellow"
  case isFalse other =>
    simp [other]

theorem frameRow_shows (number : Nat) (frame : Frame) :
    frame.ShownBy number (frameRow number frame) := by
  obtain ⟨numbered, packed, unpacked, block, version⟩ := cellUnder_row number frame
  have marked := markedRow_iff number frame
  have headless : frame.header? = none ↔ frame.block.length ≠ blockLength := by
    simp [frame.header?_eq]
  constructor
  case numbered => exact numbered
  case packed =>
    rw [packed, packedCell]
    split
    · exact .inl rfl
    · exact .inr rfl
  case unpacked => exact unpacked
  case blockless =>
    rw [marked, ← headless, ← cell_eq_absent_iff rfl isQuiet_blockCell, block]
    exact (Option.some_inj).symm
  case versionless =>
    have quiet (header : Header) : IsQuiet (versionCell (some header)) :=
      isQuiet_versionText header.version
    rw [marked, ← headless, ← cell_eq_absent_iff rfl quiet, version]
    exact (Option.some_inj).symm
  case length =>
    have numeral : (toString frame.block.length = "272") ↔ frame.block.length = blockLength :=
      @Nat.repr_inj _ 272
    rw [marked, unpacked, Ne, Ne, Option.some_inj, not_iff_not, ← numeral]
  case malformed =>
    intro assembly running
    rw [marked, callsMalformed_iff running]
  case readable =>
    rw [Frame.readHeader, Header.ofBlock_eq, frame.header?_eq]
    split <;> rfl
  case header =>
    intro unmarked
    rw [marked, not_not] at unmarked
    have found : frame.header? = some (Header.read frame.block) := by
      rw [frame.header?_eq, if_pos unmarked]
    refine ⟨Header.read frame.block, fun offset => ?_, ?_, ?_⟩
    · rw [Header.ofBlock_eq, if_pos unmarked]
    · rw [block, found]
      rfl
    · rw [version, found]
      rfl

/-- The table of any frames has a row for each of them, in their order, and each row says of its
frame what an assembly says of it. -/
theorem frameTable_agrees (frames : List Frame) :
    ∃ rows, frameTable frames =
        .table .out s!"SysEx Frames ({frames.length})" frameColumns rows ∧
      rows.length = frames.length ∧
      ∀ index (frame : Frame), frames[index]? = some frame →
        ∃ row, rows[index]? = some row ∧ frame.ShownBy index row := by
  refine ⟨_, rfl, by simp, ?_⟩
  intro index frame present
  refine ⟨frameRow index frame, ?_, frameRow_shows index frame⟩
  simp [List.getElem?_zipIdx, present]

end Andromeda
