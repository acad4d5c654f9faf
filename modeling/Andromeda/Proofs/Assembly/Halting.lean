import Andromeda.Proofs.Assembly.Calls

namespace Andromeda

structure Assembly.Keeps (before after : Assembly) : Prop where
  slice : ∀ index, after.slice index = before.slice index
  received : after.received = before.received
  consumed : after.consumed = before.consumed
  checksum : after.checksum = before.checksum
  position : after.position = before.position
  warnings : after.warnings = before.warnings

/-- What a refused block leaves behind. The header on record stays, unless there is none and the
index of the block is all that is wrong with it. -/
structure Assembly.Refuses (before : Assembly) (block : Bytes) (error : DecodeError)
    (after : Assembly) : Prop where
  keeps : before.Keeps after
  header : ¬ (before.header = none ∧ error.Outside) → after.header = before.header
  announced : before.header = none → error.Outside →
    ∃ header, Header.ofBlock block before.position = .ok header ∧ after.header = some header

/-- Failed calls change nothing and are final, and asking for the image again gives it again. -/
structure Assembly.FailSafe (assembly : Assembly) : Prop where
  add : ∀ block error, (assembly.add block).result = .error error →
    assembly.Refuses block error (assembly.add block).state
  finish : assembly.Keeps assembly.finish.state ∧ assembly.finish.state.header = assembly.header
  final : ∀ call error, (assembly.call call).result = .error error → ∀ calls next,
    (assembly.call call).state.run calls = (assembly.call call).state ∧
      (((assembly.call call).state.run calls).call next).result = .error error ∧
      (((assembly.call call).state.run calls).call next).state = (assembly.call call).state
  again : ∀ image, assembly.finish.result = .ok image →
    ∀ count, (assembly.run (List.replicate count .finish)).finish.result = .ok image

variable {limits : Limits} {assembly : Assembly} {block : Bytes} {error : DecodeError}

theorem Assembly.Keeps.refl (assembly : Assembly) : assembly.Keeps assembly :=
  ⟨fun _ => rfl, rfl, rfl, rfl, rfl, rfl⟩

theorem Assembly.Keeps.halt (assembly : Assembly) (error : DecodeError) :
    assembly.Keeps { assembly with halted := some error } :=
  ⟨fun _ => rfl, rfl, rfl, rfl, rfl, rfl⟩

theorem keeps_announced (limits : Limits) (header : Header) (error : DecodeError) :
    (Assembly.start limits).Keeps
      { Assembly.holding limits header [] with halted := some error } := by
  rw [← holding_nil]
  refine ⟨?_, ?_, rfl, rfl, rfl, rfl⟩
  · intro index
    simp only [Assembly.slice, Assembly.start, Array.getElem?_replicate]
    split <;> rfl
  · simp [Assembly.received, Assembly.start]

theorem header_of_halted {taken : List Bytes} (inside : taken = [] → ¬ error.Outside)
    (empty : (Assembly.after limits taken).header = none) : ¬ error.Outside := by
  cases taken with
  | nil => exact inside rfl
  | cons first rest => cases empty

theorem refuses_halted {reason : DecodeError} (halted : assembly.halted = some error)
    (known : assembly.header = none → ¬ error.Outside)
    (failed : (assembly.add block).result = .error reason) :
    assembly.Refuses block reason (assembly.add block).state := by
  rw [add_halted halted] at failed ⊢
  cases failed
  refine ⟨.refl assembly, fun _ => rfl, ?_⟩
  intro empty outside
  exact absurd outside (known empty)

theorem Assembly.Reached.refuses (reached : Assembly.Reached limits assembly)
    (failed : (assembly.add block).result = .error error) :
    assembly.Refuses block error (assembly.add block).state := by
  cases reached with
  | halted accepted inside => exact refuses_halted rfl (header_of_halted inside) failed
  | announced leads => exact refuses_halted rfl (fun empty => by cases empty) failed
  | @taking taken accepted =>
      rcases add_refused failed with ⟨state, inside⟩ | ⟨rfl, outside, size, leads, state⟩
      · rw [state]
        refine ⟨.halt _ error, fun _ => rfl, ?_⟩
        intro empty outside
        exact absurd outside (header_of_halted inside empty)
      · rw [state]
        refine ⟨keeps_announced limits _ error, ?_, ?_⟩
        · intro other
          exact absurd ⟨rfl, outside⟩ other
        · intro _ _
          exact ⟨Header.read block, by rw [Header.ofBlock_eq, if_pos size], rfl⟩

theorem keeps_finish (assembly : Assembly) :
    assembly.Keeps assembly.finish.state ∧ assembly.finish.state.header = assembly.header := by
  cases halted : assembly.halted with
  | some error =>
      rw [finish_halted halted]
      exact ⟨.refl assembly, rfl⟩
  | none =>
      cases result : assembly.image with
      | ok image =>
          rw [finish_of_image halted result]
          exact ⟨.refl assembly, rfl⟩
      | error error =>
          rw [finish_of_failed halted result]
          exact ⟨.halt assembly error, rfl⟩

theorem Assembly.Reached.add_halts (reached : Assembly.Reached limits assembly)
    (failed : (assembly.add block).result = .error error) :
    (assembly.add block).state.halted = some error := by
  cases reached with
  | halted accepted inside =>
      rw [add_halted rfl] at failed ⊢
      cases failed
      rfl
  | announced leads =>
      rw [add_halted rfl] at failed ⊢
      cases failed
      rfl
  | taking accepted =>
      rcases add_refused failed with ⟨state, _⟩ | ⟨_, _, _, _, state⟩
      · rw [state]
      · rw [state]

theorem finish_halts (failed : assembly.finish.result = .error error) :
    assembly.finish.state.halted = some error := by
  cases halted : assembly.halted with
  | some reason =>
      rw [finish_halted halted] at failed ⊢
      cases failed
      exact halted
  | none =>
      rw [finish_result halted] at failed
      rw [finish_of_failed halted failed]
      rfl

theorem Assembly.Reached.call_halts (reached : Assembly.Reached limits assembly)
    {call : Assembly.Call} (failed : (assembly.call call).result = .error error) :
    (assembly.call call).state.halted = some error := by
  cases call with
  | add block =>
      rw [call_add] at failed ⊢
      apply reached.add_halts
      cases result : (assembly.add block).result with
      | ok value => simp [result, Except.map] at failed
      | error reason => simpa [result, Except.map] using failed
  | finish =>
      rw [call_finish] at failed ⊢
      apply finish_halts
      cases result : assembly.finish.result with
      | ok image => simp [result, Except.map] at failed
      | error reason => simpa [result, Except.map] using failed

theorem run_halted (halted : assembly.halted = some error) (calls : List Assembly.Call) :
    assembly.run calls = assembly := by
  induction calls with
  | nil => rfl
  | cons call calls ih => rw [run_cons, (call_halted halted call).2, ih]

theorem run_finish {image : Image} (made : assembly.finish.result = .ok image) (count : Nat) :
    assembly.run (List.replicate count .finish) = assembly := by
  induction count with
  | zero => rfl
  | succ count ih =>
      rw [List.replicate_succ, run_cons, call_finish]
      simp only [finish_again made]
      exact ih

/-- Whatever was asked of an assembly before, failures leave no trace in it but the error that
every later call repeats. -/
theorem calls_fail_safe (limits : Limits) (history : List Assembly.Call) :
    ((Assembly.start limits).run history).FailSafe := by
  have reached := reached_run limits history
  refine ⟨?_, keeps_finish _, ?_, ?_⟩
  · intro block error failed
    exact reached.refuses failed
  · intro call error failed calls next
    have halted := reached.call_halts failed
    rw [run_halted halted]
    exact ⟨rfl, call_halted halted next⟩
  · intro image made count
    rw [run_finish made]
    exact made

end Andromeda
