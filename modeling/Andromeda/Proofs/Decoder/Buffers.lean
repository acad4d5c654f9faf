import Andromeda.Proofs.Assembly.Calls
import Andromeda.Proofs.Decoder.Frames

/-!
One capture in several buffers. Where no frame reaches over a cut, the decoder comes to the same
end as with all the data in one buffer. Only a frame with a wrong opcode tells where it stands in
the data, and it counts from the start of its own buffer.
-/

namespace Andromeda

open Outcome

/-- No frame reaches over a cut between the buffers. -/
def PartedBuffers (buffers : List Bytes) : Prop :=
  ∀ count, Parted (buffers.take count).flatten (buffers.drop count).flatten

def DecodeError.OfOpcode (error : DecodeError) : Prop :=
  ∃ offset expected actual, error = .inconsistentOpcode offset expected actual

/-- The same end of two decodes, of some buffers and of all their data in one. -/
inductive SameEnd (decoder : Decoder) (buffers : List Bytes) :
    Except DecodeError Image → Except DecodeError Image → Prop where
  | image (image : Image) : SameEnd decoder buffers (.ok image) (.ok image)
  | error {error : DecodeError} (other : ¬ error.OfOpcode) :
      SameEnd decoder buffers (.error error) (.error error)
  | opcode {before after : List Bytes} {data : Bytes} {offset expected actual : Int}
      (parts : buffers = before ++ data :: after)
      (taken : (decoder.feedAll before).result = .ok ())
      (fails : ((decoder.feedAll before).state.feed data).result =
        .error (.inconsistentOpcode offset expected actual)) :
      SameEnd decoder buffers (.error (.inconsistentOpcode offset expected actual))
        (.error (.inconsistentOpcode (offset + before.flatten.length) expected actual))

/-- The error as it reads with `distance` more bytes in front of the data. -/
def DecodeError.shift (distance : Nat) : DecodeError → DecodeError
  | .inconsistentOpcode offset expected actual =>
    .inconsistentOpcode (offset + distance) expected actual
  | error => error

def Outcome.shift {σ α : Type} (distance : Nat) (outcome : Outcome σ α) : Outcome σ α :=
  { outcome with result := outcome.result.mapError (DecodeError.shift distance) }

variable {limits : Limits} {opcodes : OpcodeSet} {decoder : Decoder} {taken : List Bytes}
  {buffers : List Bytes} {error : DecodeError}

theorem shift_of_other (other : ¬ error.OfOpcode) (distance : Nat) :
    error.shift distance = error := by
  cases error with
  | inconsistentOpcode offset expected actual => exact absurd ⟨_, _, _, rfl⟩ other
  | _ => rfl

theorem shift_shift (error : DecodeError) (first second : Nat) :
    (error.shift first).shift second = error.shift (second + first) := by
  cases error with
  | inconsistentOpcode offset expected actual =>
      simp only [DecodeError.shift, Nat.cast_add, DecodeError.inconsistentOpcode.injEq, and_true]
      omega
  | _ => rfl

theorem shift_zero (error : DecodeError) : error.shift 0 = error := by
  cases error with
  | inconsistentOpcode offset expected actual => simp [DecodeError.shift]
  | _ => rfl

theorem shift_ok_iff {σ α : Type} {outcome : Outcome σ α} {distance : Nat} {value : α} :
    (outcome.shift distance).result = .ok value ↔ outcome.result = .ok value := by
  rw [Outcome.shift]
  cases outcome.result <;> simp [Except.mapError]

theorem shift_andThen {σ α β : Type} (outcome : Outcome σ α) (next : σ → α → Outcome σ β)
    (distance : Nat) :
    (outcome.andThen next).shift distance =
      (outcome.shift distance).andThen fun state value => (next state value).shift distance := by
  rcases outcome with ⟨state, result, log⟩
  cases result <;> rfl

theorem add_error_other {assembly : Assembly} {block : Bytes} (running : assembly.halted = none)
    (failed : (assembly.add block).result = .error error) : ¬ error.OfOpcode := by
  intro opcode
  rcases opcode with ⟨offset, expected, actual, rfl⟩
  rcases add_error running failed with impossible | impossible | impossible
  · cases impossible
  · exact impossible
  · exact impossible

theorem finish_error_other (running : decoder.assembly.halted = none)
    (failed : decoder.finish.result = .error error) : ¬ error.OfOpcode := by
  intro opcode
  rcases opcode with ⟨offset, expected, actual, rfl⟩
  rw [Decoder.finish, finish_result running] at failed
  cases made : decoder.assembly.image with
  | ok image =>
      rw [made] at failed
      cases failed
  | error reason =>
      rw [made] at failed
      cases failed
      exact image_error made

theorem add_result_shift {assembly : Assembly} (running : assembly.halted = none) (block : Bytes)
    (distance : Nat) :
    (assembly.add block).result.mapError (DecodeError.shift distance) =
      (assembly.add block).result := by
  cases result : (assembly.add block).result with
  | ok value => rfl
  | error error => rw [Except.mapError, shift_of_other (add_error_other running result)]

theorem addFrame_shift (running : decoder.assembly.halted = none) (frame : Frame)
    (distance : Nat) :
    decoder.addFrame (frame.shift distance) = (decoder.addFrame frame).shift distance := by
  rcases decoder with ⟨opcodes, assembly, firstOpcode, kind, frameCount⟩
  have added := add_result_shift running frame.block distance
  cases firstOpcode with
  | none => exact congrArg (Outcome.mk _ · _) added.symm
  | some first =>
      by_cases same : frame.opcode = first
      · simp only [Decoder.addFrame, Decoder.withOpcode, Frame.shift, same, if_true,
          Outcome.shift]
        exact congrArg (Outcome.mk _ · _) added.symm
      · have position : (frame.shift distance).opcodePosition =
            frame.opcodePosition + distance := by
          simp only [Frame.opcodePosition, Frame.shift]
          omega
        have other : (frame.shift distance).opcode ≠ first := same
        simp only [Decoder.addFrame, Decoder.withOpcode, if_neg same, if_neg other, position]
        rfl

theorem addFrame_running (running : decoder.assembly = .after limits taken) {frame : Frame}
    (ok : (decoder.addFrame frame).result = .ok ()) :
    (decoder.addFrame frame).state.assembly = .after limits (taken ++ [frame.block]) := by
  have added := (addFrame_ok_iff.mp ok).2
  rw [running] at added
  rw [addFrame_state ok, running]
  exact (add_admitted (admits_of_add added)).2

theorem addFrames_running (running : decoder.assembly = .after limits taken) {found : List Frame}
    (ok : (decoder.addFrames found).result = .ok ()) :
    (decoder.addFrames found).state.assembly =
      .after limits (taken ++ found.map Frame.block) := by
  induction found generalizing decoder taken with
  | nil => simpa [Decoder.addFrames, Outcome.each, Outcome.done] using running
  | cons frame rest ih =>
      rw [Decoder.addFrames, each_cons] at ok ⊢
      rcases andThen_ok_iff.mp ok with ⟨_, first, later⟩
      rw [(andThen_ok first).2]
      have behind := ih (addFrame_running running first) later
      rwa [List.append_assoc] at behind

theorem addFrames_shift (running : decoder.assembly = .after limits taken) (found : List Frame)
    (distance : Nat) :
    Agrees (decoder.addFrames (found.map (Frame.shift distance)))
      ((decoder.addFrames found).shift distance) := by
  induction found generalizing decoder taken with
  | nil => exact Agrees.refl _
  | cons frame rest ih =>
      have halted : decoder.assembly.halted = none := by rw [running, after_halted]
      rw [List.map_cons, Decoder.addFrames, each_cons, Decoder.addFrames, each_cons,
        addFrame_shift halted, shift_andThen]
      apply (Agrees.refl _).andThen
      intro value ok
      exact ih (addFrame_running running (shift_ok_iff.mp ok))

theorem Parted.of_append {front middle back : Bytes} (parted : Parted (front ++ middle) back) :
    Parted middle back := by
  induction front with
  | nil => exact parted
  | cons byte front ih => exact ih parted.tail

theorem PartedBuffers.cons {data : Bytes} {rest : List Bytes}
    (parted : PartedBuffers (data :: rest)) : Parted data rest.flatten ∧ PartedBuffers rest := by
  constructor
  · simpa using parted 1
  · intro count
    have further := parted (count + 1)
    rw [List.take_succ_cons, List.drop_succ_cons, List.flatten_cons] at further
    exact further.of_append

inductive SameFeed (decoder : Decoder) (buffers : List Bytes) :
    Except DecodeError Unit → Except DecodeError Unit → Prop where
  | fed : SameFeed decoder buffers (.ok ()) (.ok ())
  | refused {before after : List Bytes} {data : Bytes} {error : DecodeError}
      (parts : buffers = before ++ data :: after)
      (taken : (decoder.feedAll before).result = .ok ())
      (fails : ((decoder.feedAll before).state.feed data).result = .error error) :
      SameFeed decoder buffers (.error error) (.error (error.shift before.flatten.length))

theorem SameFeed.cons {data : Bytes} {rest : List Bytes} {split whole : Except DecodeError Unit}
    (fed : (decoder.feed data).result = .ok ())
    (same : SameFeed (decoder.feed data).state rest split whole) :
    SameFeed decoder (data :: rest) split (whole.mapError (DecodeError.shift data.length)) := by
  cases same with
  | fed => exact .fed
  | @refused before after piece error parts taken fails =>
      have longer : data.length + before.flatten.length = (data :: before).flatten.length := by
        rw [List.flatten_cons, List.length_append]
      rw [Except.mapError, shift_shift, longer]
      refine .refused (by rw [parts, List.cons_append]) ?_ ?_
      · rw [feedAll_cons, (andThen_ok fed).1]
        exact taken
      · rw [feedAll_cons, (andThen_ok fed).2]
        exact fails

theorem feedAll_flatten (parted : PartedBuffers buffers)
    (running : decoder.assembly = .after limits taken) :
    (decoder.feedAll buffers).state =
        (decoder.addFrames (frames decoder.opcodes buffers.flatten)).state ∧
      SameFeed decoder buffers (decoder.feedAll buffers).result
        (decoder.addFrames (frames decoder.opcodes buffers.flatten)).result := by
  induction buffers generalizing decoder taken with
  | nil => exact ⟨rfl, .fed⟩
  | cons data rest ih =>
      rcases parted.cons with ⟨cut, later⟩
      have agrees := feed_agrees decoder data
      have whole : decoder.addFrames (frames decoder.opcodes (data :: rest).flatten) =
          (decoder.addFrames (frames decoder.opcodes data)).andThen fun next _ =>
            next.addFrames ((frames decoder.opcodes rest.flatten).map
              (Frame.shift data.length)) := by
        rw [List.flatten_cons, frames_append _ _ cut, Decoder.addFrames, each_append]
        rfl
      rw [whole, feedAll_cons]
      cases fed : (decoder.feed data).result with
      | error error =>
          have failed := agrees.result.symm.trans fed
          rw [(andThen_error fed).1, (andThen_error fed).2, (andThen_error failed).1,
            (andThen_error failed).2]
          have ends : SameFeed decoder (data :: rest) (.error error) (.error (error.shift 0)) :=
            @SameFeed.refused _ _ [] rest data error rfl rfl fed
          rw [shift_zero] at ends
          exact ⟨agrees.state, ends⟩
      | ok value =>
          have added := agrees.result.symm.trans fed
          have held := addFrames_running running added
          rw [(andThen_ok fed).1, (andThen_ok fed).2, (andThen_ok added).1,
            (andThen_ok added).2]
          have moved := addFrames_shift held (frames decoder.opcodes rest.flatten) data.length
          rw [← agrees.state] at held moved ⊢
          rw [moved.state, moved.result]
          have opcodes : (decoder.feed data).state.opcodes = decoder.opcodes := by
            rw [agrees.state, addFrames_opcodes]
          rcases ih later held with ⟨state, ends⟩
          rw [opcodes] at state ends
          exact ⟨state, ends.cons fed⟩

theorem feedAll_running (running : decoder.assembly = .after limits taken)
    (fed : (decoder.feedAll buffers).result = .ok ()) :
    (decoder.feedAll buffers).state.assembly.halted = none := by
  have agrees := feedAll_agrees decoder buffers
  have added := agrees.result.symm.trans fed
  rw [agrees.state, addFrames_running running added, after_halted]

theorem SameEnd.of_finish (running : (decoder.feedAll buffers).state.assembly.halted = none) :
    SameEnd decoder buffers (decoder.feedAll buffers).state.finish.result
      (decoder.feedAll buffers).state.finish.result := by
  cases result : (decoder.feedAll buffers).state.finish.result with
  | ok image => exact .image image
  | error error => exact .error (finish_error_other running result)

theorem SameFeed.sameEnd_error {error moved : DecodeError}
    (same : SameFeed decoder buffers (.error error) (.error moved)) :
    SameEnd decoder buffers (.error error) (.error moved) := by
  cases same with
  | refused parts taken fails =>
      by_cases opcode : error.OfOpcode
      · rcases opcode with ⟨offset, expected, actual, rfl⟩
        exact .opcode parts taken fails
      · rw [shift_of_other opcode]
        exact .error opcode

/-- A capture that is cut between its frames decodes as if it came in one piece: the decoder ends
in the same state, and with the same image or the same error. -/
theorem decode_parted (limits : Limits) (opcodes : OpcodeSet) (buffers : List Bytes)
    (parted : PartedBuffers buffers) :
    ((Decoder.start limits opcodes).decode buffers).state =
        ((Decoder.start limits opcodes).decode [buffers.flatten]).state ∧
      SameEnd (Decoder.start limits opcodes) buffers
        ((Decoder.start limits opcodes).decode buffers).result
        ((Decoder.start limits opcodes).decode [buffers.flatten]).result := by
  have fresh : (Decoder.start limits opcodes).assembly = .after limits [] := rfl
  have agrees := decode_agrees limits opcodes [buffers.flatten]
  rw [framesOf, List.flatMap_singleton] at agrees
  have same : (Decoder.start limits opcodes).opcodes = opcodes := rfl
  rcases feedAll_flatten parted fresh with ⟨state, ends⟩
  rw [same] at state ends
  rw [agrees.state, agrees.result, decode_eq]
  cases fed : ((Decoder.start limits opcodes).feedAll buffers).result with
  | ok value =>
      rw [fed] at ends
      generalize added : ((Decoder.start limits opcodes).addFrames _).result = whole at ends
      cases ends
      rw [(andThen_ok fed).1, (andThen_ok fed).2, (andThen_ok added).1, (andThen_ok added).2,
        ← state]
      exact ⟨rfl, .of_finish (feedAll_running fresh fed)⟩
  | error error =>
      rw [fed] at ends
      generalize added : ((Decoder.start limits opcodes).addFrames _).result = whole at ends
      cases whole with
      | ok value => cases ends
      | error moved =>
          rw [(andThen_error fed).1, (andThen_error fed).2, (andThen_error added).1,
            (andThen_error added).2]
          exact ⟨state, ends.sameEnd_error⟩

def onlyBlockFrame : Bytes :=
  [0xF0, 0x00, 0x00, 0x0E, 0x1D, 0x30] ++ List.replicate 12 0x00 ++ [0x10, 0x00, 0x40] ++
    List.replicate 296 0x00 ++ [0xF7]

def cutCapture : List Bytes :=
  [[0xF0, 0x00], onlyBlockFrame, [],
    [0xF0, 0x00, 0x00, 0x0E, 0x1D, 0x3F, 0x01, 0xF7, 0xF0]]

theorem cutCapture_decode :
    PartedBuffers cutCapture ∧
      ((Decoder.start .widest .update).decode cutCapture).state =
        ((Decoder.start .widest .update).decode [cutCapture.flatten]).state ∧
      SameEnd (Decoder.start .widest .update) cutCapture
        ((Decoder.start .widest .update).decode cutCapture).result
        ((Decoder.start .widest .update).decode [cutCapture.flatten]).result := by
  have parted : PartedBuffers cutCapture := by
    intro count
    match count with
    | 0 => exact .inl rfl
    | 1 => exact .inr (.inr (.inr ⟨0xF0, rfl, rfl, by decide⟩))
    | 2 | 3 =>
        have last : onlyBlockFrame.getLast? = some 0xF7 := List.getLast?_concat
        refine .inr (.inr (.inl ⟨0xF7, ?_, rfl, by decide⟩))
        simp [cutCapture, List.getLast?_cons, last]
    | _ + 4 =>
        refine .inr (.inl ?_)
        rw [List.drop_eq_nil_of_le (by simp [cutCapture]), List.flatten_nil]
  exact ⟨parted, decode_parted .widest .update cutCapture parted⟩

end Andromeda
