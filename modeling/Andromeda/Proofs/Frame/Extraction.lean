import Andromeda.Proofs.Frame.Occurrence

namespace Andromeda

def Bytes.between (bytes : Bytes) (start stop : Int) : Bytes :=
  (bytes.drop start.toNat).take (stop - start).toNat

/-- Frames found in data are all the occurrences in it, from left to right and apart from each
other, and they say where their bytes stand. -/
structure ExactScan (listed : List Int) (data : Bytes) (found : List Frame) : Prop where
  complete : ∀ frame, frame ∈ found ↔ Occurs listed data frame
  increasing : found.Pairwise fun first second => first.offset < second.offset
  apart : found.Pairwise fun first second => first.stop ≤ second.offset
  bytes : ∀ frame ∈ found, data.between frame.offset frame.stop = frame.toBytes
  opcode : ∀ frame ∈ found,
    (data[frame.opcodePosition.toNat]?).map (fun byte => (byte.toNat : Int)) = some frame.opcode

variable {opcodes : OpcodeSet} {frame : Frame}

theorem mem_framesAt (offset : Nat) (bytes : Bytes) :
    frame ∈ framesAt opcodes offset bytes ↔
      opcodes.accepts frame.opcode = true ∧ (∀ byte ∈ frame.payload, isData byte = true) ∧
      ∃ front back, bytes = front ++ (frame.toBytes ++ back) ∧
        frame.offset = offset + front.length := by
  induction bytes generalizing offset with
  | nil => simp [framesAt, Frame.toBytes_eq]
  | cons byte bytes ih =>
      rw [framesAt, List.mem_append, Option.mem_toList, frameAt?_eq_some_iff, ih]
      constructor
      · intro found
        rcases found with ⟨position, accepted, payload, back, same⟩ |
          ⟨accepted, payload, front, back, rfl, position⟩
        · exact ⟨accepted, payload, [], back, same, by simpa using position⟩
        · refine ⟨accepted, payload, byte :: front, back, rfl, ?_⟩
          rw [position, List.length_cons]
          omega
      · intro occurs
        rcases occurs with ⟨accepted, payload, front, back, same, position⟩
        cases front with
        | nil => exact .inl ⟨by simpa using position, accepted, payload, back, same⟩
        | cons first front =>
            rcases List.cons.inj same with ⟨rfl, rfl⟩
            refine .inr ⟨accepted, payload, front, back, rfl, ?_⟩
            rw [position, List.length_cons]
            omega

theorem le_offset_of_mem {offset : Nat} {bytes : Bytes}
    (member : frame ∈ framesAt opcodes offset bytes) : (offset : Int) ≤ frame.offset := by
  rcases (mem_framesAt offset bytes).mp member with ⟨_, _, front, back, _, position⟩
  omega

theorem framesAt_apart (offset : Nat) (bytes : Bytes) :
    (framesAt opcodes offset bytes).Pairwise fun first second => first.stop ≤ second.offset := by
  induction bytes generalizing offset with
  | nil => exact List.Pairwise.nil
  | cons byte bytes ih =>
      cases tried : frameAt? opcodes offset (byte :: bytes) with
      | none => simpa [framesAt, tried] using ih (offset + 1)
      | some frame =>
          rcases (frameAt?_eq_some_iff ..).mp tried with ⟨position, accepted, payload, back, same⟩
          have later := framesAt_toBytes accepted payload offset back
          rw [← same, framesAt, tried, Option.toList_some, List.singleton_append,
            List.cons.injEq] at later
          rw [framesAt, tried, Option.toList_some, List.singleton_append]
          refine List.pairwise_cons.mpr ⟨?_, ih (offset + 1)⟩
          intro other member
          rw [later.2] at member
          have least := le_offset_of_mem member
          simp only [Frame.stop, Frame.opcodePosition, position]
          omega

theorem frames_eq_framesAt (opcodes : OpcodeSet) (data : Bytes) :
    frames opcodes data = framesAt opcodes 0 data :=
  framesFrom_eq_framesAt opcodes 0 0 data (by simp)

theorem mem_frames_iff (opcodes : OpcodeSet) (data : Bytes) (frame : Frame) :
    frame ∈ frames opcodes data ↔ Occurs opcodes.members data frame := by
  rw [frames_eq_framesAt, mem_framesAt]
  constructor
  · intro found
    rcases found with ⟨accepted, payload, front, back, same, position⟩
    refine ⟨(opcodes.accepts_iff _).mp accepted, ?_, front, back, same, by simpa using position⟩
    intro byte member
    exact (isData_iff byte).mp (payload byte member)
  · intro occurs
    rcases occurs with ⟨opcode, payload, front, back, same, position⟩
    refine ⟨(opcodes.accepts_iff _).mpr opcode, ?_, front, back, same, by simpa using position⟩
    intro byte member
    exact (isData_iff byte).mpr (payload byte member)

theorem Frame.offset_lt_stop (frame : Frame) : frame.offset < frame.stop := by
  simp only [Frame.stop, Frame.opcodePosition]
  omega

theorem Occurs.between {listed : List Int} {data : Bytes} (occurs : Occurs listed data frame) :
    data.between frame.offset frame.stop = frame.toBytes := by
  rcases occurs.place with ⟨front, back, same, position⟩
  have start : frame.offset.toNat = front.length := by omega
  have size : (frame.stop - frame.offset).toNat = frame.toBytes.length := by
    rw [Frame.length_toBytes, Frame.stop, Frame.opcodePosition]
    omega
  rw [Bytes.between, start, size, same, List.drop_left, List.take_left]

theorem Occurs.opcode_at {data : Bytes} (occurs : Occurs opcodes.members data frame) :
    (data[frame.opcodePosition.toNat]?).map (fun byte => (byte.toNat : Int)) =
      some frame.opcode := by
  rcases occurs.place with ⟨front, back, same, position⟩
  have spot : frame.opcodePosition.toNat = front.length + 5 := by
    rw [Frame.opcodePosition]
    omega
  have value := opcodes.toNat_accepted ((opcodes.accepts_iff _).mpr occurs.opcode)
  rw [spot, same, List.getElem?_append_right (by omega), Nat.add_sub_cancel_left]
  exact congrArg some value

theorem Occurs.opcode_byte {data : Bytes} (occurs : Occurs opcodes.members data frame) :
    ∃ (position : Nat) (byte : UInt8), frame.opcodePosition = position ∧
      data[position]? = some byte ∧ frame.opcode = byte.toNat := by
  rcases Option.map_eq_some_iff.mp occurs.opcode_at with ⟨byte, stands, value⟩
  refine ⟨frame.opcodePosition.toNat, byte, ?_, stands, value.symm⟩
  rcases occurs.place with ⟨front, back, _, offset⟩
  rw [Frame.opcodePosition]
  omega

theorem tile_frames (stop : Option Int) (position : Int) (done : List Segment)
    (found : List Frame) :
    (tile stop position done found).filterMap Segment.frame? =
      done.reverse.filterMap Segment.frame? ++ found := by
  have noise (start stop : Int) : (gap start stop).filterMap Segment.frame? = [] := by
    simp only [gap]
    split <;> rfl
  induction found generalizing position done with
  | nil => cases stop <;> simp [tile, noise]
  | cons frame found ih => simp [tile, ih, noise, Segment.frame?]

theorem pass_frames (opcodes : OpcodeSet) (data : Bytes) :
    (pass opcodes data none).filterMap Segment.frame? = frames opcodes data := by
  simp [pass, tile_frames]

theorem mem_insertDistinct (opcode inserted : Int) (opcodes : List Int) :
    opcode ∈ insertDistinct inserted opcodes ↔ opcode = inserted ∨ opcode ∈ opcodes := by
  induction opcodes with
  | nil => simp [insertDistinct]
  | cons first rest ih =>
      simp only [insertDistinct]
      split
      · simp
      · split
        · next same => simp [same]
        · simp only [List.mem_cons, ih]
          tauto

theorem mem_sortedDistinct (opcode : Int) (opcodes : List Int) :
    opcode ∈ sortedDistinct opcodes ↔ opcode ∈ opcodes := by
  induction opcodes with
  | nil => simp [sortedDistinct]
  | cons first rest ih =>
      rw [sortedDistinct, List.foldr_cons, mem_insertDistinct, List.mem_cons]
      exact or_congr_right ih

theorem OpcodeSet.ofList_ok (listed : List Int) (nonempty : listed ≠ [])
    (data : ∀ opcode ∈ listed, 0 ≤ opcode ∧ opcode ≤ 0x7F) :
    ∃ opcodes, OpcodeSet.ofList listed = .ok opcodes ∧
      ∀ opcode, opcode ∈ opcodes.members ↔ opcode ∈ listed := by
  have usable : sortedDistinct listed ≠ [] ∧
      ∀ opcode ∈ sortedDistinct listed, 0 ≤ opcode ∧ opcode < 128 := by
    constructor
    · rcases List.exists_mem_of_ne_nil listed nonempty with ⟨opcode, member⟩
      exact List.ne_nil_of_mem ((mem_sortedDistinct opcode listed).mpr member)
    · intro opcode member
      have bounds := data opcode ((mem_sortedDistinct opcode listed).mp member)
      omega
  exact ⟨⟨sortedDistinct listed, usable.1, usable.2⟩, by rw [OpcodeSet.ofList, dif_pos usable],
    fun opcode => mem_sortedDistinct opcode listed⟩

/-- A pass over data finds every frame with one of the opcodes, and nothing else. -/
theorem extraction_exact (listed : List Int) (nonempty : listed ≠ [])
    (range : ∀ opcode ∈ listed, 0 ≤ opcode ∧ opcode ≤ 0x7F) (data : Bytes) :
    ∃ opcodes, OpcodeSet.ofList listed = .ok opcodes ∧
      (pass opcodes data none).filterMap Segment.frame? = frames opcodes data ∧
      ExactScan listed data (frames opcodes data) := by
  rcases OpcodeSet.ofList_ok listed nonempty range with ⟨opcodes, made, members⟩
  have occurs (frame : Frame) :
      Occurs opcodes.members data frame ↔ Occurs listed data frame := by
    constructor
    · intro held
      rcases held with ⟨opcode, payload, place⟩
      exact ⟨(members _).mp opcode, payload, place⟩
    · intro held
      rcases held with ⟨opcode, payload, place⟩
      exact ⟨(members _).mpr opcode, payload, place⟩
  have apart : (frames opcodes data).Pairwise fun first second => first.stop ≤ second.offset := by
    rw [frames_eq_framesAt]
    exact framesAt_apart 0 data
  refine ⟨opcodes, made, pass_frames opcodes data, ?_, ?_, apart, ?_, ?_⟩
  · intro frame
    rw [mem_frames_iff, occurs]
  · apply apart.imp
    intro first second order
    exact Int.lt_of_lt_of_le first.offset_lt_stop order
  · intro frame member
    exact ((mem_frames_iff ..).mp member).between
  · intro frame member
    exact ((mem_frames_iff ..).mp member).opcode_at

def brokenStarts : Bytes :=
  [0xF0, 0x00, 0x00, 0x0E, 0x1D, 0x30] ++ [0xF0, 0x00, 0x00, 0x0E, 0x1D, 0x5D, 0x01, 0xF7] ++
    [0xF7, 0xF0, 0x00, 0x00, 0x0E, 0x1D, 0x30, 0x7F]

theorem brokenStarts_extraction :
    ([0x5D, 0x30] : List Int) ≠ [] ∧
      (∀ opcode ∈ ([0x5D, 0x30] : List Int), 0 ≤ opcode ∧ opcode ≤ 0x7F) ∧
      ∃ opcodes, OpcodeSet.ofList [0x5D, 0x30] = .ok opcodes ∧
        (pass opcodes brokenStarts none).filterMap Segment.frame? = frames opcodes brokenStarts ∧
        ExactScan [0x5D, 0x30] brokenStarts (frames opcodes brokenStarts) :=
  ⟨by decide, by decide, extraction_exact [0x5D, 0x30] (by decide) (by decide) brokenStarts⟩

end Andromeda
