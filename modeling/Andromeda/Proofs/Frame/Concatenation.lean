import Andromeda.Proofs.Frame.Extraction

/-!
The frames of data that is put together from parts. A cut in front of a byte that no frame
holds inside, or behind one, parts no frame, so the frames of the whole are those of the parts.
-/

namespace Andromeda

/-- No frame reaches over the cut between two parts of data, as one of the bytes at the cut
does not stand there in any frame. -/
def Parted (front back : Bytes) : Prop :=
  front = [] ∨ back = [] ∨
    (∃ byte, front.getLast? = some byte ∧ isData byte = false ∧ byte ≠ 0xF0) ∨
    (∃ byte, back.head? = some byte ∧ isData byte = false ∧ byte ≠ frameEnd)

def Frame.shift (distance : Nat) (frame : Frame) : Frame :=
  { frame with offset := frame.offset + distance }

def Frame.content (frame : Frame) : Int × Bytes := (frame.opcode, frame.payload)

variable {opcodes : OpcodeSet}

theorem Parted.tail {byte : UInt8} {front back : Bytes} (parted : Parted (byte :: front) back) :
    Parted front back := by
  cases front with
  | nil => exact .inl rfl
  | cons next front =>
      rcases parted with impossible | empty | last | head
      · cases impossible
      · exact .inr (.inl empty)
      · rw [List.getLast?_cons_cons] at last
        exact .inr (.inr (.inl last))
      · exact .inr (.inr (.inr head))

theorem not_parted_inside {frame : Frame} {front inside back : Bytes}
    (accepted : opcodes.accepts frame.opcode = true)
    (payload : ∀ byte ∈ frame.payload, isData byte = true)
    (some : front ≠ []) (more : inside ≠ []) (same : frame.toBytes = front ++ inside) :
    ¬ Parted front (inside ++ back) := by
  have body := Frame.isData_body accepted payload
  rw [Frame.toBytes_eq] at same
  rcases List.exists_cons_of_ne_nil some with ⟨first, front, rfl⟩
  rcases List.eq_nil_or_concat' inside |>.resolve_left more with ⟨rest, last, rfl⟩
  rw [← List.append_assoc, List.cons_append, List.cons_append] at same
  rcases List.cons.inj same with ⟨rfl, behind⟩
  rcases List.append_inj' behind rfl with ⟨cut, ended⟩
  cases ended
  intro parted
  rcases parted with impossible | empty | ⟨byte, lastly, high, start⟩ |
    ⟨byte, firstly, high, ending⟩
  · cases impossible
  · simp at empty
  · rcases List.eq_nil_or_concat' front with rfl | ⟨before, middle, rfl⟩
    · cases lastly
      exact start rfl
    · have inner : middle ∈ frame.body := by simp [cut]
      rw [← List.cons_append, List.getLast?_concat, Option.some.injEq] at lastly
      rw [← lastly, body middle inner] at high
      cases high
  · cases rest with
    | nil =>
        cases firstly
        exact ending rfl
    | cons next rest =>
        have inner : next ∈ frame.body := by simp [cut]
        cases firstly
        rw [body _ inner] at high
        cases high

theorem frameAt?_append (offset : Nat) {front back : Bytes} (some : front ≠ [])
    (parted : Parted front back) :
    frameAt? opcodes offset (front ++ back) = frameAt? opcodes offset front := by
  apply Option.ext
  intro frame
  rw [frameAt?_eq_some_iff, frameAt?_eq_some_iff]
  constructor
  · intro found
    rcases found with ⟨position, accepted, payload, behind, same⟩
    refine ⟨position, accepted, payload, ?_⟩
    rcases List.append_eq_append_iff.mp same with ⟨inside, whole, rest⟩ | ⟨beyond, whole, rest⟩
    · by_cases ended : inside = []
      · exact ⟨[], by simp [whole, ended]⟩
      · rw [rest] at parted
        exact absurd parted (not_parted_inside accepted payload some ended whole)
    · exact ⟨beyond, whole⟩
  · intro found
    rcases found with ⟨position, accepted, payload, behind, rfl⟩
    exact ⟨position, accepted, payload, behind ++ back, List.append_assoc ..⟩

theorem framesAt_append (offset : Nat) (front back : Bytes) (parted : Parted front back) :
    framesAt opcodes offset (front ++ back) =
      framesAt opcodes offset front ++ framesAt opcodes (offset + front.length) back := by
  induction front generalizing offset with
  | nil => rfl
  | cons byte front ih =>
      have some : byte :: front ≠ [] := by simp
      have first : frameAt? opcodes offset _ = _ := frameAt?_append offset some parted
      have distance : offset + 1 + front.length = offset + (byte :: front).length := by
        rw [List.length_cons]
        omega
      rw [List.cons_append] at first ⊢
      rw [framesAt, framesAt, first, ih (offset + 1) parted.tail, List.append_assoc, distance]

theorem framesAt_shift (offset distance : Nat) (bytes : Bytes) :
    framesAt opcodes (offset + distance) bytes =
      (framesAt opcodes offset bytes).map (Frame.shift distance) := by
  induction bytes generalizing offset with
  | nil => rfl
  | cons byte bytes ih =>
      have order : offset + distance + 1 = offset + 1 + distance := by omega
      have first : frameAt? opcodes (offset + distance) (byte :: bytes) =
          (frameAt? opcodes offset (byte :: bytes)).map (Frame.shift distance) := by
        unfold frameAt?
        split
        · split <;> rfl
        · rfl
      rw [framesAt, framesAt, order, ih, first, List.map_append]
      cases frameAt? opcodes offset (byte :: bytes) <;> rfl

theorem frames_append (front back : Bytes) (parted : Parted front back) :
    frames opcodes (front ++ back) =
      frames opcodes front ++ (frames opcodes back).map (Frame.shift front.length) := by
  rw [frames_eq_framesAt, frames_eq_framesAt, frames_eq_framesAt, framesAt_append _ _ _ parted,
    framesAt_shift]

theorem contents_append (front back : Bytes) (parted : Parted front back) :
    (frames opcodes (front ++ back)).map Frame.content =
      (frames opcodes front).map Frame.content ++ (frames opcodes back).map Frame.content := by
  rw [frames_append front back parted, List.map_append, List.map_map]
  rfl

theorem parted_before_frame (front : Bytes) (frame : Frame) (back : Bytes) :
    Parted front (frame.toBytes ++ back) := by
  rw [Frame.toBytes_eq]
  exact .inr (.inr (.inr ⟨0xF0, rfl, rfl, by decide⟩))

theorem parted_behind_frame (front : Bytes) (frame : Frame) (back : Bytes) :
    Parted (front ++ frame.toBytes) back := by
  rw [Frame.toBytes_eq, ← List.cons_append, ← List.append_assoc]
  exact .inr (.inr (.inl ⟨frameEnd, List.getLast?_concat, rfl, by decide⟩))

theorem frames_of_no_start {data : Bytes} (none : ∀ byte ∈ data, byte ≠ 0xF0) :
    frames opcodes data = [] := by
  have behind := framesAt_behind opcodes 0 data [] none
  rw [List.append_nil] at behind
  rw [frames_eq_framesAt, behind]
  rfl

theorem frames_of_no_end {data : Bytes} (none : ∀ byte ∈ data, byte ≠ frameEnd) :
    frames opcodes data = [] := by
  rw [List.eq_nil_iff_forall_not_mem]
  intro frame found
  rcases ((mem_frames_iff ..).mp found).place with ⟨front, back, same, _⟩
  apply none frameEnd _ rfl
  simp [same, Frame.toBytes]

theorem frames_of_front {frame : Frame} {front back : Bytes}
    (accepted : opcodes.accepts frame.opcode = true)
    (payload : ∀ byte ∈ frame.payload, isData byte = true)
    (cut : front ++ back = frame.toBytes) (ended : back ≠ []) : frames opcodes front = [] := by
  rcases List.eq_nil_or_concat' back |>.resolve_left ended with ⟨rest, last, rfl⟩
  rw [Frame.toBytes_eq, ← List.append_assoc, ← List.cons_append] at cut
  have inner : front ++ rest = 0xF0 :: frame.body := (List.append_inj' cut rfl).1
  apply frames_of_no_end
  intro byte member
  have inside : byte ∈ 0xF0 :: frame.body := by
    rw [← inner]
    exact List.mem_append_left rest member
  rcases List.mem_cons.mp inside with rfl | body
  · decide
  · exact ne_of_isData (Frame.isData_body accepted payload byte body) rfl

theorem frames_of_back {frame : Frame} {front back : Bytes}
    (accepted : opcodes.accepts frame.opcode = true)
    (payload : ∀ byte ∈ frame.payload, isData byte = true)
    (cut : front ++ back = frame.toBytes) (begun : front ≠ []) : frames opcodes back = [] := by
  rcases List.exists_cons_of_ne_nil begun with ⟨first, rest, rfl⟩
  rw [Frame.toBytes_eq, List.cons_append] at cut
  have inner : rest ++ back = frame.body ++ [frameEnd] := (List.cons.inj cut).2
  apply frames_of_no_start
  intro byte member
  apply Frame.no_start accepted payload
  rw [← inner]
  exact List.mem_append_right rest member

theorem frames_toBytes {frame : Frame} (accepted : opcodes.accepts frame.opcode = true)
    (payload : ∀ byte ∈ frame.payload, isData byte = true) :
    (frames opcodes frame.toBytes).map Frame.content = [frame.content] := by
  have whole := framesAt_toBytes accepted payload 0 []
  rw [List.append_nil] at whole
  rw [frames_eq_framesAt, whole]
  rfl

end Andromeda
