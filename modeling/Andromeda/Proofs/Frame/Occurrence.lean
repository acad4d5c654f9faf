import Andromeda.Frame.Pass
import Andromeda.Setting
import Mathlib.Data.List.Basic
import Mathlib.Tactic.Common

/-!
The search for frames against the form of a frame. The search goes on behind each frame it
finds; trying every byte as a start instead finds the same frames, because the start byte of a
frame is nowhere else in it. So nothing that has the form is lost and nothing overlaps.
-/

namespace Andromeda

/-- A frame with one of the listed opcodes and a run of data bytes stands in the data, at its
offset. -/
structure Occurs (listed : List Int) (data : Bytes) (frame : Frame) : Prop where
  opcode : frame.opcode ∈ listed
  payload : ∀ byte ∈ frame.payload, byte ≤ 0x7F
  place : ∃ front back, data = front ++ (frame.toBytes ++ back) ∧ frame.offset = front.length

def Frame.body (frame : Frame) : Bytes :=
  [0x00, 0x00, 0x0E, 0x1D] ++ .ofNat frame.opcode.toNat :: frame.payload

theorem Frame.toBytes_eq (frame : Frame) :
    frame.toBytes = 0xF0 :: (frame.body ++ [frameEnd]) := by
  simp [Frame.toBytes, Frame.body, frameStart]

theorem Frame.length_body (frame : Frame) : frame.body.length = frame.payload.length + 5 := by
  simp only [Frame.body, List.length_append, List.length_cons, List.length_nil]
  omega

theorem Frame.length_toBytes (frame : Frame) :
    frame.toBytes.length = frame.payload.length + 7 := by
  simp only [Frame.toBytes_eq, List.length_cons, List.length_append, Frame.length_body,
    List.length_nil]

theorem isData_iff_toNat (byte : UInt8) : isData byte = true ↔ byte.toNat < 128 := by
  rw [isData, decide_eq_true_eq, UInt8.lt_iff_toNat_lt]
  rfl

theorem isData_iff (byte : UInt8) : isData byte = true ↔ byte ≤ 0x7F := by
  rw [isData_iff_toNat, UInt8.le_iff_toNat_le]
  exact Nat.lt_succ_iff

theorem ne_of_isData {byte mark : UInt8} (data : isData byte = true)
    (high : isData mark = false) : byte ≠ mark := by
  intro same
  rw [same, high] at data
  cases data

namespace OpcodeSet

variable (opcodes : OpcodeSet)

theorem accepts_iff (opcode : Int) : opcodes.accepts opcode = true ↔ opcode ∈ opcodes.members :=
  List.contains_iff_mem

theorem accepts_bounds {opcode : Int} (accepted : opcodes.accepts opcode = true) :
    0 ≤ opcode ∧ opcode < 128 :=
  opcodes.data opcode ((opcodes.accepts_iff opcode).mp accepted)

theorem toNat_accepted {opcode : Int} (accepted : opcodes.accepts opcode = true) :
    ((UInt8.ofNat opcode.toNat).toNat : Int) = opcode := by
  have bounds := opcodes.accepts_bounds accepted
  rw [UInt8.toNat_ofNat']
  omega

theorem isData_accepted {opcode : Int} (accepted : opcodes.accepts opcode = true) :
    isData (.ofNat opcode.toNat) = true := by
  have value := opcodes.toNat_accepted accepted
  have bounds := opcodes.accepts_bounds accepted
  rw [isData_iff_toNat]
  omega

end OpcodeSet

variable {opcodes : OpcodeSet} {frame : Frame}

theorem Frame.isData_body (accepted : opcodes.accepts frame.opcode = true)
    (payload : ∀ byte ∈ frame.payload, isData byte = true) :
    ∀ byte ∈ frame.body, isData byte = true := by
  intro byte member
  rcases List.mem_append.mp member with fixed | later
  · have numbers : ∀ byte ∈ ([0x00, 0x00, 0x0E, 0x1D] : Bytes), isData byte = true :=
      List.all_eq_true.mp rfl
    exact numbers byte fixed
  · rcases List.mem_cons.mp later with rfl | run
    · exact opcodes.isData_accepted accepted
    · exact payload byte run

theorem Frame.no_start (accepted : opcodes.accepts frame.opcode = true)
    (payload : ∀ byte ∈ frame.payload, isData byte = true) :
    ∀ byte ∈ frame.body ++ [frameEnd], byte ≠ 0xF0 := by
  intro byte member
  rcases List.mem_append.mp member with inside | last
  · exact ne_of_isData (Frame.isData_body accepted payload byte inside) rfl
  · rw [List.mem_singleton.mp last]
    decide

theorem frameAt?_eq_some_iff (opcodes : OpcodeSet) (offset : Nat) (bytes : Bytes)
    (frame : Frame) :
    frameAt? opcodes offset bytes = some frame ↔
      frame.offset = offset ∧ opcodes.accepts frame.opcode = true ∧
      (∀ byte ∈ frame.payload, isData byte = true) ∧ ∃ back, bytes = frame.toBytes ++ back := by
  constructor
  · intro found
    unfold frameAt? at found
    split at found
    case h_2 => cases found
    case h_1 opcode rest =>
      split at found
      case isFalse => cases found
      case isTrue form =>
        rcases form with ⟨accepted, ended⟩
        cases Option.some.inj found
        refine ⟨rfl, accepted, List.all_eq_true.mp List.all_takeWhile, ?_⟩
        obtain ⟨back, behind⟩ := List.head?_eq_some_iff.mp ended
        refine ⟨back, ?_⟩
        have split : rest = rest.takeWhile isData ++ frameEnd :: back := by
          rw [← behind, List.takeWhile_append_dropWhile]
        simpa [Frame.toBytes, frameStart] using split
  · intro occurs
    rcases occurs with ⟨position, accepted, payload, back, rfl⟩
    have run : (frame.payload ++ frameEnd :: back).takeWhile isData = frame.payload := by
      rw [List.takeWhile_append_of_pos payload]
      simp [frameEnd, isData]
    have ended : (frame.payload ++ frameEnd :: back).dropWhile isData = frameEnd :: back := by
      rw [List.dropWhile_append_of_pos payload]
      simp [frameEnd, isData]
    have value := opcodes.toNat_accepted accepted
    simp only [Frame.toBytes, frameStart, List.cons_append, List.nil_append, List.append_assoc,
      frameAt?, run, ended, value, accepted, List.head?_cons, and_self, if_true]
    rw [← position]

theorem frameAt?_of_ne (opcodes : OpcodeSet) (offset : Nat) (byte : UInt8) (bytes : Bytes)
    (other : byte ≠ 0xF0) : frameAt? opcodes offset (byte :: bytes) = none := by
  rw [Option.eq_none_iff_forall_not_mem]
  intro frame found
  obtain ⟨_, _, _, back, same⟩ := (frameAt?_eq_some_iff ..).mp found
  rw [Frame.toBytes_eq, List.cons_append, List.cons.injEq] at same
  exact other same.1

/-- The frames found when every byte is tried as a start. -/
def framesAt (opcodes : OpcodeSet) (offset : Nat) : Bytes → List Frame
  | [] => []
  | byte :: bytes =>
    (frameAt? opcodes offset (byte :: bytes)).toList ++ framesAt opcodes (offset + 1) bytes

theorem framesAt_behind (opcodes : OpcodeSet) (offset : Nat) (front back : Bytes)
    (quiet : ∀ byte ∈ front, byte ≠ 0xF0) :
    framesAt opcodes offset (front ++ back) = framesAt opcodes (offset + front.length) back := by
  induction front generalizing offset with
  | nil => rfl
  | cons byte front ih =>
      have first : byte ≠ 0xF0 := quiet byte (by simp)
      have later := ih (offset + 1) (fun other member => quiet other (by simp [member]))
      rw [List.cons_append, framesAt, frameAt?_of_ne _ _ _ _ first, later, List.length_cons]
      simp [Nat.add_assoc, Nat.add_comm 1]

theorem framesAt_toBytes (accepted : opcodes.accepts frame.opcode = true)
    (payload : ∀ byte ∈ frame.payload, isData byte = true) (offset : Nat) (back : Bytes) :
    framesAt opcodes offset (frame.toBytes ++ back) =
      { frame with offset := offset } ::
        framesAt opcodes (offset + frame.payload.length + 7) back := by
  have found : frameAt? opcodes offset (frame.toBytes ++ back) =
      some { frame with offset := offset } :=
    (frameAt?_eq_some_iff ..).mpr ⟨rfl, accepted, payload, back, rfl⟩
  rw [Frame.toBytes_eq, List.cons_append] at found ⊢
  rw [framesAt, found, framesAt_behind _ _ _ _ (Frame.no_start accepted payload),
    List.length_append, Frame.length_body]
  simp only [Option.toList_some, List.singleton_append, List.length_singleton]
  congr 2
  omega

theorem framesFrom_eq_framesAt (opcodes : OpcodeSet) (offset inside : Nat) (bytes : Bytes)
    (quiet : ∀ byte ∈ bytes.take inside, byte ≠ 0xF0) :
    framesFrom opcodes offset inside [] bytes = framesAt opcodes offset bytes := by
  induction bytes generalizing offset inside with
  | nil => rfl
  | cons byte bytes ih =>
      cases inside with
      | succ inside =>
          have first : byte ≠ 0xF0 := quiet byte (by simp)
          have later := ih (offset + 1) inside fun other member => quiet other (by simp [member])
          rw [framesFrom, framesAt, frameAt?_of_ne _ _ _ _ first, later]
          rfl
      | zero =>
          rw [framesFrom, framesAt]
          cases tried : frameAt? opcodes offset (byte :: bytes) with
          | none => exact ih (offset + 1) 0 (by simp)
          | some frame =>
              obtain ⟨_, accepted, payload, back, same⟩ := (frameAt?_eq_some_iff ..).mp tried
              rw [Frame.toBytes_eq, List.cons_append, List.cons.injEq] at same
              have size : frame.payload.length + 6 = (frame.body ++ [frameEnd]).length := by
                rw [List.length_append, Frame.length_body]
                rfl
              have rest : ∀ other ∈ bytes.take (frame.payload.length + 6), other ≠ 0xF0 := by
                rw [same.2, size, List.take_left]
                exact Frame.no_start accepted payload
              simp only [Option.toList_some]
              rw [framesFrom_found, ih (offset + 1) _ rest]
              rfl

end Andromeda
