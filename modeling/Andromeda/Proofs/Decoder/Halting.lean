import Andromeda.Proofs.Decoder.Calls

/-!
Which failures are final. A block that is refused, or an image that is, halts the assembly, and no
call after that gives an image. A frame that is refused for its opcode halts nothing: the blocks
before it are still there, and an image can be made of them.
-/

namespace Andromeda

open Outcome

/-- What a failed call means for the calls after it. -/
structure Decoder.Fails (before after : Decoder) (error : DecodeError) : Prop where
  final : ¬ error.OfOpcode → ∀ later next image,
    ((after.run later).call .finish).result = .error error ∧
      ((after.run later).call next).result ≠ .ok (some image)
  opcode : error.OfOpcode → after.assembly.halted = before.assembly.halted

variable {decoder : Decoder} {error : DecodeError}

theorem addFrame_halted (halted : decoder.assembly.halted = some error) (frame : Frame) :
    (decoder.addFrame frame).state.assembly.halted = some error := by
  cases known : decoder.withOpcode frame with
  | error reason =>
      rw [addFrame_of_error known]
      exact halted
  | ok noted =>
      rw [(addFrame_of_ok known).2, add_halted halted]
      exact halted

theorem scan_halted (halted : decoder.assembly.halted = some error) (call : Decoder.Call) :
    (decoder.scan call).state.assembly.halted = some error := by
  have fed (found : List Frame) :
      (decoder.addFrames found).state.assembly.halted = some error := by
    refine each_traced (fun _ _ (decoder : Decoder) => decoder.assembly.halted = some error)
      [] [] ?_ ?_ halted
    · intro seen kept decoder value frame next before ok
      exact addFrame_halted before frame
    · intro seen kept decoder value frame reason before failed
      exact addFrame_halted before frame
  cases call with
  | feed data => exact fed _
  | finish => exact fed _
  | decode buffers => exact fed _
  | rawBlocks buffers =>
      rw [Decoder.scan, andThen_done, collectFrames_assembly]
      exact halted

theorem finish_of_halted (halted : decoder.assembly.halted = some error) :
    decoder.finish = .failed decoder error := by
  rw [Decoder.finish, finish_halted halted]
  rfl

theorem call_of_halted (halted : decoder.assembly.halted = some error) (call : Decoder.Call) :
    (decoder.call call).state.assembly.halted = some error ∧
      ∀ image, (decoder.call call).result ≠ .ok (some image) := by
  have agrees := call_agrees decoder call
  have scanned := scan_halted halted call
  rw [agrees.state, agrees.result]
  cases result : (decoder.scan call).result with
  | error reason =>
      rw [(andThen_error result).1, (andThen_error result).2]
      exact ⟨scanned, by simp⟩
  | ok value =>
      rw [(andThen_ok result).1, (andThen_ok result).2]
      rcases answer_cases (decoder.scan call).state call with nothing | answered
      · rw [nothing]
        exact ⟨scanned, fun image impossible => by cases impossible⟩
      · rw [answered, finish_of_halted scanned]
        exact ⟨scanned, fun image impossible => by cases impossible⟩

theorem run_of_halted (halted : decoder.assembly.halted = some error) (calls : List Decoder.Call) :
    (decoder.run calls).assembly.halted = some error := by
  -- being halted with this very error is what each call keeps
  induction calls generalizing decoder with
  | nil => exact halted
  | cons call calls ih => exact ih (call_of_halted halted call).1

/-- Once a call has failed every later one that asks for an image fails, unless the failure was a
frame with a wrong opcode. -/
theorem failure_final (limits : Limits) (opcodes : OpcodeSet) (history : List Decoder.Call)
    (call : Decoder.Call) (error : DecodeError)
    (failed : (((Decoder.start limits opcodes).run history).call call).result = .error error) :
    ((Decoder.start limits opcodes).run history).Fails
      (((Decoder.start limits opcodes).run history).call call).state error := by
  rcases (took_run limits opcodes history).call_error call failed with ⟨refused, halts⟩
  constructor
  · intro other later next image
    have halted := run_of_halted (halts other) later
    have finished := finish_of_halted halted
    constructor
    · rw [Decoder.call, finished]
      rfl
    · exact (call_of_halted halted next).2 image
  · intro opcode
    rcases refused opcode with ⟨before, frame, refuses⟩
    exact refuses.halted

def emptyFrame : Bytes := [0xF0, 0x00, 0x00, 0x0E, 0x1D, 0x30, 0xF7]

theorem emptyFrame_final :
    (((Decoder.start .widest .update).run [.feed onlyBlockFrame]).call (.feed emptyFrame)).result =
        .error (.malformedBlock 0 272 272) ∧
      ((Decoder.start .widest .update).run [.feed onlyBlockFrame]).Fails
        (((Decoder.start .widest .update).run [.feed onlyBlockFrame]).call (.feed emptyFrame)).state
        (.malformedBlock 0 272 272) := by
  have refused : (((Decoder.start .widest .update).run [.feed onlyBlockFrame]).call
      (.feed emptyFrame)).result = .error (.malformedBlock 0 272 272) := by
    decide +kernel
  exact ⟨refused, failure_final .widest .update [.feed onlyBlockFrame] (.feed emptyFrame) _ refused⟩

def strayCapture : Bytes := onlyBlockFrame ++ [0xF0, 0x00, 0x00, 0x0E, 0x1D, 0x3F, 0xF7]

theorem strayCapture_not_final :
    ((Decoder.start .widest .update).call (.feed strayCapture)).result =
        .error (.inconsistentOpcode 323 0x30 0x3F) ∧
      DecodeError.fatal (.inconsistentOpcode 323 0x30 0x3F) = true ∧
      (((Decoder.start .widest .update).call (.feed strayCapture)).state.call .finish).result =
        .ok (some ⟨[0x00], 0, 0, 1, 1, some .os⟩) := by
  refine ⟨?_, ?_, ?_⟩
  · decide +kernel
  · rfl
  · decide +kernel

end Andromeda
