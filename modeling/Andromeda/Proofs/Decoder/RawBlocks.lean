import Andromeda.Proofs.Decoder.Frames

namespace Andromeda

open Outcome

def Decoder.collectFrame (decoder : Decoder) (blocks : List Bytes) (frame : Frame) :
    Outcome Decoder (List Bytes) :=
  match decoder.withOpcode frame with
  | .error error => .failed decoder error
  | .ok decoder => .done decoder.count (frame.block :: blocks)

def Decoder.collectFrames (decoder : Decoder) (blocks : List Bytes) (found : List Frame) :
    Outcome Decoder (List Bytes) :=
  Outcome.each Decoder.collectFrame decoder blocks found

variable {decoder : Decoder} {blocks kept : List Bytes} {frame : Frame} {found : List Frame}

theorem collectFrame_of_error {error : DecodeError}
    (refused : decoder.withOpcode frame = .error error) :
    decoder.collectFrame blocks frame = .failed decoder error := by
  rw [Decoder.collectFrame, refused]

theorem collectFrame_of_ok {noted : Decoder} (known : decoder.withOpcode frame = .ok noted) :
    decoder.collectFrame blocks frame = .done ⟨decoder.opcodes, decoder.assembly,
      some frame.opcode, decoder.kindBehind [frame], decoder.frameCount + 1⟩
        (frame.block :: blocks) := by
  rcases withOpcode_ok_iff.mp known with ⟨_, rfl⟩
  rw [Decoder.collectFrame, known]
  rfl

theorem collectFrame_opcodes (decoder : Decoder) (blocks : List Bytes) (frame : Frame) :
    (decoder.collectFrame blocks frame).state.opcodes = decoder.opcodes := by
  cases known : decoder.withOpcode frame with
  | error error => rw [collectFrame_of_error known, Outcome.failed]
  | ok noted => rw [collectFrame_of_ok known, Outcome.done]

theorem collectFrames_assembly (decoder : Decoder) (blocks : List Bytes) (found : List Frame) :
    (decoder.collectFrames blocks found).state.assembly = decoder.assembly := by
  refine each_kept Decoder.assembly ?_ decoder blocks found
  intro decoder blocks frame
  cases known : decoder.withOpcode frame with
  | error error => rw [collectFrame_of_error known, Outcome.failed]
  | ok noted => rw [collectFrame_of_ok known, Outcome.done]

theorem collectFrame_ok_iff :
    (decoder.collectFrame blocks frame).result = .ok kept ↔
      (∀ opcode ∈ decoder.firstOpcode, frame.opcode = opcode) ∧ kept = frame.block :: blocks := by
  cases known : decoder.withOpcode frame with
  | error error =>
      rcases withOpcode_error_iff.mp known with ⟨first, present, other, _⟩
      rw [collectFrame_of_error known, present]
      simp [Outcome.failed, other]
  | ok noted =>
      rw [collectFrame_of_ok known, and_iff_right (withOpcode_ok_iff.mp known).1]
      simp [Outcome.done, eq_comm]

theorem collect_agrees (decoder : Decoder) (blocks : List Bytes) (data : Bytes) :
    Agrees (decoder.collect blocks data)
      (decoder.collectFrames blocks (frames decoder.opcodes data)) := by
  rw [← pass_frames, Decoder.collect, Decoder.collectFrames]
  apply each_filterMap
  · intro decoder blocks segment noise
    cases segment with
    | found frame => cases noise
    | skipped length offset => exact ⟨rfl, rfl⟩
  · intro decoder blocks segment frame found
    cases segment with
    | skipped length offset => cases found
    | found inside =>
        rcases Option.some.inj found with rfl
        simp only [Decoder.collectSegment, Decoder.collectFrame]
        cases decoder.withOpcode inside with
        | error error => exact ⟨rfl, rfl⟩
        | ok next => exact ⟨rfl, rfl⟩

theorem rawBlocks_agrees (decoder : Decoder) (buffers : List Bytes) :
    Agrees (decoder.rawBlocks buffers)
      ((decoder.collectFrames [] (framesOf decoder.opcodes buffers)).andThen
        fun decoder blocks => .done decoder blocks.reverse.flatten) :=
  (each_framesOf collectFrame_opcodes collect_agrees decoder [] buffers).andThen
    fun _ _ => Agrees.refl _

theorem collectFrames_ok_iff :
    (decoder.collectFrames blocks found).result = .ok kept ↔
      Consistent decoder.firstOpcode found ∧ kept = (found.map Frame.block).reverse ++ blocks := by
  induction found generalizing decoder blocks with
  | nil => simp [Decoder.collectFrames, Consistent, Outcome.each, Outcome.done, eq_comm]
  | cons frame rest ih =>
      rw [Decoder.collectFrames, each_cons, andThen_ok_iff, Consistent]
      constructor
      · intro run
        rcases run with ⟨_, first, later⟩
        rcases collectFrame_ok_iff.mp first with ⟨same, rfl⟩
        rw [collectFrame_of_ok (withOpcode_ok_iff.mpr ⟨same, rfl⟩)] at later
        rcases ih.mp later with ⟨consistent, all⟩
        exact ⟨⟨same, consistent⟩, by simpa using all⟩
      · intro run
        rcases run with ⟨⟨same, consistent⟩, all⟩
        refine ⟨_, collectFrame_ok_iff.mpr ⟨same, rfl⟩, ?_⟩
        rw [collectFrame_of_ok (withOpcode_ok_iff.mpr ⟨same, rfl⟩)]
        exact ih.mpr ⟨consistent, by simpa using all⟩

section Fresh

variable {limits : Limits} {opcodes : OpcodeSet} {buffers : List Bytes}

theorem rawBlocks_ok_iff {stream : Bytes} :
    ((Decoder.start limits opcodes).rawBlocks buffers).result = .ok stream ↔
      (∀ first ∈ framesOf opcodes buffers, ∀ second ∈ framesOf opcodes buffers,
        first.opcode = second.opcode) ∧
      stream = ((framesOf opcodes buffers).map Frame.block).flatten := by
  have agrees : Agrees ((Decoder.start limits opcodes).rawBlocks buffers) _ :=
    rawBlocks_agrees (Decoder.start limits opcodes) buffers
  rw [agrees.result, andThen_ok_iff, ← consistent_none]
  constructor
  · intro run
    rcases run with ⟨_, collected, last⟩
    rcases collectFrames_ok_iff.mp collected with ⟨consistent, rfl⟩
    rw [List.append_nil, List.reverse_reverse] at last
    exact ⟨consistent, (Except.ok.inj last).symm⟩
  · intro parts
    rcases parts with ⟨consistent, rfl⟩
    refine ⟨_, collectFrames_ok_iff.mpr ⟨consistent, rfl⟩, ?_⟩
    rw [List.append_nil, List.reverse_reverse]
    rfl

theorem rawBlocks_ok
    (same : ∀ first ∈ framesOf opcodes buffers, ∀ second ∈ framesOf opcodes buffers,
      first.opcode = second.opcode) :
    ((Decoder.start limits opcodes).rawBlocks buffers).result =
      .ok ((framesOf opcodes buffers).map Frame.block).flatten :=
  rawBlocks_ok_iff.mpr ⟨same, rfl⟩

end Fresh

end Andromeda
