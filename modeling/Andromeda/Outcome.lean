import Andromeda.DecodeError
import Andromeda.Log

/-! What an operation on a state leaves behind: the state after it, whether it succeeds or
fails, and what it logs. -/

namespace Andromeda

structure Outcome (σ α : Type) where
  state : σ
  result : Except DecodeError α
  log : Array LogRecord

def Outcome.done (state : σ) (value : α) : Outcome σ α := ⟨state, .ok value, #[]⟩

def Outcome.failed (state : σ) (error : DecodeError) : Outcome σ α := ⟨state, .error error, #[]⟩

def Outcome.andThen : Outcome σ α → (σ → α → Outcome σ β) → Outcome σ β
  | ⟨state, .ok value, log⟩, next =>
    let later := next state value
    ⟨later.state, later.result, log ++ later.log⟩
  | ⟨state, .error error, log⟩, _ => ⟨state, .error error, log⟩

def Outcome.each (step : σ → α → ι → Outcome σ α) (state : σ) (value : α) (items : List ι) :
    Outcome σ α :=
  items.foldl (fun outcome item => outcome.andThen fun state value => step state value item)
    (.done state value)

theorem Outcome.done_andThen (state : σ) (value : α) (next : σ → α → Outcome σ β) :
    (Outcome.done state value).andThen next = next state value := by
  simp [Outcome.done, Outcome.andThen]

theorem Outcome.andThen_assoc (outcome : Outcome σ α) (next : σ → α → Outcome σ β)
    (last : σ → β → Outcome σ γ) :
    (outcome.andThen next).andThen last =
      outcome.andThen fun state value => (next state value).andThen last := by
  obtain ⟨state, result, log⟩ := outcome
  cases result with
  | error error => rfl
  | ok value =>
    simp only [Outcome.andThen]
    obtain ⟨state, result, later⟩ := next state value
    cases result with
    | error error => rfl
    | ok value => simp

end Andromeda
