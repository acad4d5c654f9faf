import Andromeda.Proofs.Decoder.Taking

namespace Andromeda

open Outcome

inductive Decoder.Call where
  | feed (data : Bytes)
  | finish
  | decode (buffers : List Bytes)
  | rawBlocks (buffers : List Bytes)

def Decoder.call (decoder : Decoder) : Decoder.Call → Outcome Decoder (Option Image)
  | .feed data => (decoder.feed data).andThen fun decoder _ => .done decoder none
  | .finish => decoder.finish.andThen fun decoder image => .done decoder (some image)
  | .decode buffers =>
    (decoder.decode buffers).andThen fun decoder image => .done decoder (some image)
  | .rawBlocks buffers => (decoder.rawBlocks buffers).andThen fun decoder _ => .done decoder none

def Decoder.run (decoder : Decoder) (calls : List Decoder.Call) : Decoder :=
  calls.foldl (fun decoder call => (decoder.call call).state) decoder

def Decoder.Call.buffers : Decoder.Call → List Bytes
  | .feed data => [data]
  | .finish => []
  | .decode buffers => buffers
  | .rawBlocks buffers => buffers

def Decoder.scan (decoder : Decoder) (call : Decoder.Call) : Outcome Decoder Unit :=
  let found := framesOf decoder.opcodes call.buffers
  match call with
  | .rawBlocks _ => (decoder.collectFrames [] found).andThen fun decoder _ => .done decoder ()
  | _ => decoder.addFrames found

def Decoder.answer (decoder : Decoder) : Decoder.Call → Outcome Decoder (Option Image)
  | .feed _ | .rawBlocks _ => .done decoder none
  | .finish | .decode _ => decoder.finish.andThen fun decoder image => .done decoder (some image)

/-- The frames that a call looks at. The last one may have been refused. -/
def Decoder.examined (decoder : Decoder) (call : Decoder.Call) : List Frame :=
  let found := framesOf decoder.opcodes call.buffers
  match call with
  | .rawBlocks _ => tried Decoder.collectFrame decoder [] found
  | _ => tried (fun decoder _ frame => decoder.addFrame frame) decoder () found

def Decoder.added (decoder : Decoder) (call : Decoder.Call) : List Frame :=
  let found := framesOf decoder.opcodes call.buffers
  match call with
  | .rawBlocks _ => []
  | _ => passed (fun decoder _ frame => decoder.addFrame frame) decoder () found

def Decoder.examinedBy (decoder : Decoder) : List Decoder.Call → List Frame
  | [] => []
  | call :: calls => decoder.examined call ++ (decoder.call call).state.examinedBy calls

def Decoder.addedBy (decoder : Decoder) : List Decoder.Call → List Frame
  | [] => []
  | call :: calls => decoder.added call ++ (decoder.call call).state.addedBy calls

theorem run_append (decoder : Decoder) (first second : List Decoder.Call) :
    decoder.run (first ++ second) = (decoder.run first).run second := by
  rw [Decoder.run, List.foldl_append]
  rfl

theorem examinedBy_append (decoder : Decoder) (first second : List Decoder.Call) :
    decoder.examinedBy (first ++ second) =
      decoder.examinedBy first ++ (decoder.run first).examinedBy second := by
  induction first generalizing decoder with
  | nil => rfl
  | cons call calls ih =>
      rw [List.cons_append, Decoder.examinedBy, ih, Decoder.examinedBy, List.append_assoc]
      rfl

theorem addedBy_append (decoder : Decoder) (first second : List Decoder.Call) :
    decoder.addedBy (first ++ second) =
      decoder.addedBy first ++ (decoder.run first).addedBy second := by
  induction first generalizing decoder with
  | nil => rfl
  | cons call calls ih =>
      rw [List.cons_append, Decoder.addedBy, ih, Decoder.addedBy, List.append_assoc]
      rfl

theorem call_agrees (decoder : Decoder) (call : Decoder.Call) :
    Agrees (decoder.call call)
      ((decoder.scan call).andThen fun decoder _ => decoder.answer call) := by
  cases call with
  | feed data =>
      have found : decoder.scan (.feed data) =
          decoder.addFrames (frames decoder.opcodes data) :=
        congrArg decoder.addFrames (List.flatMap_singleton ..)
      rw [found]
      exact (feed_agrees decoder data).andThen fun _ _ => .refl _
  | finish =>
      have nothing : decoder.scan .finish = .done decoder () := rfl
      rw [nothing, done_andThen]
      exact .refl _
  | decode buffers =>
      rw [Decoder.call, decode_eq, andThen_assoc]
      exact (feedAll_agrees decoder buffers).andThen fun _ _ => .refl _
  | rawBlocks buffers =>
      have agrees : Agrees (decoder.call (.rawBlocks buffers))
          (((decoder.collectFrames [] (framesOf decoder.opcodes buffers)).andThen
            fun decoder blocks => .done decoder blocks.reverse.flatten).andThen
              fun decoder _ => .done decoder none) :=
        (rawBlocks_agrees decoder buffers).andThen fun _ _ => .refl _
      simpa only [Decoder.scan, Decoder.Call.buffers, Decoder.answer, andThen_assoc, done_andThen]
        using agrees

theorem answer_cases (decoder : Decoder) (call : Decoder.Call) :
    decoder.answer call = .done decoder none ∨ decoder.answer call =
      ⟨decoder.finish.state, decoder.finish.result.map some, decoder.finish.log⟩ := by
  cases call with
  | feed data => exact .inl rfl
  | rawBlocks buffers => exact .inl rfl
  | finish => exact .inr (andThen_done _ _)
  | decode buffers => exact .inr (andThen_done _ _)

theorem answer_error {decoder : Decoder} {call : Decoder.Call} {error : DecodeError}
    (failed : (decoder.answer call).result = .error error) :
    decoder.finish.result = .error error ∧
      (decoder.answer call).state = decoder.finish.state := by
  rcases answer_cases decoder call with nothing | answered
  · rw [nothing] at failed
    cases failed
  · rw [answered] at failed ⊢
    cases result : decoder.finish.result with
    | ok image => simp [result, Except.map] at failed
    | error reason => simpa [result, Except.map] using failed

theorem answer_image {decoder : Decoder} {call : Decoder.Call} {image : Image}
    (made : (decoder.answer call).result = .ok (some image)) :
    decoder.finish.result = .ok image ∧ (decoder.answer call).state = decoder.finish.state := by
  rcases answer_cases decoder call with nothing | answered
  · rw [nothing] at made
    cases made
  · rw [answered] at made ⊢
    cases result : decoder.finish.result with
    | ok image => simpa [result, Except.map] using made
    | error reason => simp [result, Except.map] at made

section Calling

variable {limits : Limits} {opcodes : OpcodeSet} {examined added : List Frame} {decoder : Decoder}
  {error : DecodeError} {image : Image}

theorem Decoder.Took.scan (took : Decoder.Took limits opcodes examined added decoder)
    (call : Decoder.Call) :
    Decoder.Took limits opcodes (examined ++ decoder.examined call) (added ++ decoder.added call)
      (decoder.scan call).state := by
  cases call with
  | feed data => exact took.addFrames _
  | finish => exact took.addFrames _
  | decode buffers => exact took.addFrames _
  | rawBlocks buffers =>
      have collected := took.collectFrames (framesOf decoder.opcodes buffers)
      rw [Decoder.scan, andThen_done]
      rw [Decoder.added, List.append_nil]
      exact collected

theorem Decoder.Took.call (took : Decoder.Took limits opcodes examined added decoder)
    (call : Decoder.Call) :
    Decoder.Took limits opcodes (examined ++ decoder.examined call) (added ++ decoder.added call)
      (decoder.call call).state := by
  rw [(call_agrees decoder call).state]
  cases result : (decoder.scan call).result with
  | error error =>
      rw [(andThen_error result).2]
      exact took.scan call
  | ok value =>
      rw [(andThen_ok result).2]
      rcases answer_cases (decoder.scan call).state call with nothing | finished
      · rw [nothing]
        exact took.scan call
      · rw [finished]
        exact (took.scan call).finish

theorem Decoder.Took.scan_error (took : Decoder.Took limits opcodes examined added decoder)
    (call : Decoder.Call) (failed : (decoder.scan call).result = .error error) :
    (error.OfOpcode → ∃ before frame, decoder.RefusesFrame (decoder.scan call).state
      (framesOf decoder.opcodes call.buffers) (decoder.examined call) before frame error) ∧
    (¬ error.OfOpcode → (decoder.scan call).state.assembly.halted = some error) := by
  cases call with
  | feed data => exact took.addFrames_error failed
  | finish => exact took.addFrames_error failed
  | decode buffers => exact took.addFrames_error failed
  | rawBlocks buffers =>
      have collected : (decoder.collectFrames [] (framesOf decoder.opcodes buffers)).result =
          .error error := by
        cases result : (decoder.collectFrames [] (framesOf decoder.opcodes buffers)).result with
        | ok blocks =>
            have kept := failed.symm.trans (andThen_ok result).1
            cases kept
        | error reason =>
            have same := failed.symm.trans (andThen_error result).1
            rw [Except.error.inj same]
      rcases collectFrames_error collected with ⟨opcode, refused⟩
      have state : (decoder.scan (.rawBlocks buffers)).state =
          (decoder.collectFrames [] (framesOf decoder.opcodes buffers)).state :=
        (andThen_error collected).2
      rw [state]
      exact ⟨fun _ => refused, fun other => absurd opcode other⟩

theorem Decoder.Took.call_error (took : Decoder.Took limits opcodes examined added decoder)
    (call : Decoder.Call) (failed : (decoder.call call).result = .error error) :
    (error.OfOpcode → ∃ before frame, decoder.RefusesFrame (decoder.call call).state
      (framesOf opcodes call.buffers) (decoder.examined call) before frame error) ∧
    (¬ error.OfOpcode → (decoder.call call).state.assembly.halted = some error) := by
  have agrees := call_agrees decoder call
  rw [agrees.result] at failed
  rw [agrees.state, ← took.opcodes]
  cases scanned : (decoder.scan call).result with
  | error reason =>
      rw [(andThen_error scanned).1] at failed
      cases failed
      rw [(andThen_error scanned).2]
      exact took.scan_error call scanned
  | ok value =>
      rw [(andThen_ok scanned).1] at failed
      rw [(andThen_ok scanned).2]
      rcases answer_error failed with ⟨refused, state⟩
      rcases (took.scan call).finish_error refused with ⟨other, halts⟩
      rw [state]
      exact ⟨fun opcode => absurd opcode other, fun _ => halts⟩

theorem Decoder.Took.call_image (took : Decoder.Took limits opcodes examined added decoder)
    (call : Decoder.Call) (made : (decoder.call call).result = .ok (some image)) :
    ∃ plain, (Assembly.assemble limits
        ((added ++ decoder.added call).map Frame.block)).result = .ok plain ∧
      image = { plain with kind := (decoder.call call).state.kind } := by
  have agrees := call_agrees decoder call
  rw [agrees.result] at made
  rw [agrees.state]
  rcases andThen_ok_iff.mp made with ⟨_, scanned, answered⟩
  rcases answer_image answered with ⟨finished, state⟩
  rcases (took.scan call).finish_image finished with ⟨same, plain, assembled, fields⟩
  rw [(andThen_ok scanned).2, state, same]
  exact ⟨plain, assembled, fields⟩

theorem took_run (limits : Limits) (opcodes : OpcodeSet) (calls : List Decoder.Call) :
    Decoder.Took limits opcodes ((Decoder.start limits opcodes).examinedBy calls)
      ((Decoder.start limits opcodes).addedBy calls)
      ((Decoder.start limits opcodes).run calls) := by
  induction calls using List.reverseRecOn with
  | nil => exact ⟨rfl, rfl, rfl, by simp [Decoder.addedBy], .running .start rfl⟩
  | append_singleton calls call ih =>
      have next := ih.call call
      rw [examinedBy_append, addedBy_append, run_append]
      simp only [Decoder.examinedBy, Decoder.addedBy, List.append_nil]
      exact next

end Calling

end Andromeda
