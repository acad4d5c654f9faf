import Andromeda.Outcome

namespace Andromeda

namespace Outcome

variable {σ α β ι κ : Type}

theorem foldl_andThen (step : σ → α → ι → Outcome σ α) (outcome : Outcome σ α)
    (items : List ι) :
    items.foldl (fun outcome item => outcome.andThen fun state value => step state value item)
      outcome = outcome.andThen fun state value => each step state value items := by
  induction items generalizing outcome with
  | nil =>
      rcases outcome with ⟨state, result, log⟩
      cases result with
      | error error => rfl
      | ok value => simp [andThen, each, done]
  | cons item items ih =>
      have first (state : σ) (value : α) : each step state value (item :: items) =
          (step state value item).andThen fun state value => each step state value items := by
        rw [each, List.foldl_cons, done_andThen, ih]
      simp only [List.foldl_cons, ih, andThen_assoc, first]

theorem each_cons (step : σ → α → ι → Outcome σ α) (state : σ) (value : α) (item : ι)
    (items : List ι) :
    each step state value (item :: items) =
      (step state value item).andThen fun state value => each step state value items := by
  rw [each, List.foldl_cons, done_andThen, foldl_andThen]

theorem each_append (step : σ → α → ι → Outcome σ α) (state : σ) (value : α)
    (first second : List ι) :
    each step state value (first ++ second) =
      (each step state value first).andThen fun state value => each step state value second := by
  rw [each, List.foldl_append, foldl_andThen]
  rfl

theorem each_singleton (step : σ → α → ι → Outcome σ α) (state : σ) (value : α) (item : ι) :
    each step state value [item] = step state value item := by
  rw [each, List.foldl_cons, done_andThen]
  rfl

theorem andThen_ok {outcome : Outcome σ α} {next : σ → α → Outcome σ β} {value : α}
    (ok : outcome.result = .ok value) :
    (outcome.andThen next).result = (next outcome.state value).result ∧
      (outcome.andThen next).state = (next outcome.state value).state := by
  rcases outcome with ⟨state, result, log⟩
  cases ok
  exact ⟨rfl, rfl⟩

theorem andThen_error {outcome : Outcome σ α} {next : σ → α → Outcome σ β}
    {error : DecodeError} (failed : outcome.result = .error error) :
    (outcome.andThen next).result = .error error ∧
      (outcome.andThen next).state = outcome.state := by
  rcases outcome with ⟨state, result, log⟩
  cases failed
  exact ⟨rfl, rfl⟩

theorem andThen_done (outcome : Outcome σ α) (value : α → β) :
    (outcome.andThen fun state result => .done state (value result)) =
      ⟨outcome.state, outcome.result.map value, outcome.log⟩ := by
  rcases outcome with ⟨state, result, log⟩
  cases result with
  | error error => rfl
  | ok result => simp [andThen, done, Except.map]

theorem andThen_ok_iff {outcome : Outcome σ α} {next : σ → α → Outcome σ β} {value : β} :
    (outcome.andThen next).result = .ok value ↔
      ∃ first, outcome.result = .ok first ∧ (next outcome.state first).result = .ok value := by
  constructor
  · intro ok
    cases result : outcome.result with
    | error error =>
        rw [(andThen_error result).1] at ok
        cases ok
    | ok first => exact ⟨first, rfl, by rwa [(andThen_ok result).1] at ok⟩
  · intro run
    rcases run with ⟨first, result, ok⟩
    rw [(andThen_ok result).1, ok]

/-- Two outcomes are the same but for what they log. -/
structure Agrees (first second : Outcome σ α) : Prop where
  state : first.state = second.state
  result : first.result = second.result

theorem Agrees.refl (outcome : Outcome σ α) : Agrees outcome outcome := ⟨rfl, rfl⟩

theorem Agrees.trans {first second third : Outcome σ α} (left : Agrees first second)
    (right : Agrees second third) : Agrees first third :=
  ⟨left.state.trans right.state, left.result.trans right.result⟩

theorem Agrees.andThen {first second : Outcome σ α} {next other : σ → α → Outcome σ β}
    (agrees : Agrees first second)
    (then_agrees : ∀ value, second.result = .ok value →
      Agrees (next second.state value) (other second.state value)) :
    Agrees (first.andThen next) (second.andThen other) := by
  cases result : second.result with
  | error error =>
      have failed := agrees.result.trans result
      exact ⟨by rw [(andThen_error failed).2, (andThen_error result).2, agrees.state],
        by rw [(andThen_error failed).1, (andThen_error result).1]⟩
  | ok value =>
      have succeeded := agrees.result.trans result
      have later := then_agrees value result
      exact ⟨by rw [(andThen_ok succeeded).2, (andThen_ok result).2, agrees.state, later.state],
        by rw [(andThen_ok succeeded).1, (andThen_ok result).1, agrees.state, later.result]⟩

theorem each_filterMap (step : σ → α → ι → Outcome σ α) (other : σ → α → κ → Outcome σ α)
    (select : ι → Option κ)
    (silent : ∀ state value item, select item = none →
      Agrees (step state value item) (done state value))
    (kept : ∀ state value item selected, select item = some selected →
      Agrees (step state value item) (other state value selected))
    (state : σ) (value : α) (items : List ι) :
    Agrees (each step state value items) (each other state value (items.filterMap select)) := by
  induction items generalizing state value with
  | nil => exact Agrees.refl _
  | cons item items ih =>
      rw [each_cons]
      cases selected : select item with
      | none =>
          rw [List.filterMap_cons_none selected]
          have skipped : Agrees
              ((step state value item).andThen fun state value => each step state value items)
              ((done state value).andThen fun state value => each step state value items) :=
            (silent state value item selected).andThen fun _ _ => Agrees.refl _
          rw [done_andThen] at skipped
          apply skipped.trans
          exact ih state value
      | some frame =>
          rw [List.filterMap_cons_some selected, each_cons]
          exact (kept state value item frame selected).andThen fun later _ => ih _ later

theorem each_kept {step : σ → α → ι → Outcome σ α} (view : σ → κ)
    (kept : ∀ state value item, view (step state value item).state = view state)
    (state : σ) (value : α) (items : List ι) :
    view (each step state value items).state = view state := by
  induction items generalizing state value with
  | nil => rfl
  | cons item items ih =>
      have first := kept state value item
      rw [each_cons]
      cases result : (step state value item).result with
      | error error => rw [(andThen_error result).2, first]
      | ok next =>
          rw [(andThen_ok result).2]
          exact (ih _ next).trans first

/-- The items that a run makes a step for. Behind one that fails there are no others. -/
def tried (step : σ → α → ι → Outcome σ α) (state : σ) (value : α) : List ι → List ι
  | [] => []
  | item :: items =>
    item :: match (step state value item).result with
      | .ok next => tried step (step state value item).state next items
      | .error _ => []

def passed (step : σ → α → ι → Outcome σ α) (state : σ) (value : α) : List ι → List ι
  | [] => []
  | item :: items =>
    match (step state value item).result with
    | .ok next => item :: passed step (step state value item).state next items
    | .error _ => []

structure StopsAt (step : σ → α → ι → Outcome σ α) (state : σ) (value : α) (items before : List ι)
    (item : ι) (error : DecodeError) : Prop where
  parts : ∃ after, items = before ++ item :: after
  ends : ∃ middle, (each step state value before).result = .ok middle ∧
    (step (each step state value before).state middle item).result = .error error ∧
    (each step state value items).state =
      (step (each step state value before).state middle item).state
  tries : tried step state value items = before ++ [item]
  passes : passed step state value items = before

section Tried

variable {step : σ → α → ι → Outcome σ α} {state : σ} {value : α} {items : List ι}

theorem tried_front : tried step state value items <+: items := by
  induction items generalizing state value with
  | nil => exact List.prefix_rfl
  | cons item items ih =>
      rw [tried, List.cons_prefix_cons]
      cases (step state value item).result with
      | error error => exact ⟨rfl, List.nil_prefix⟩
      | ok next => exact ⟨rfl, ih⟩

/-- What each step keeps of the items before it, a run keeps of all its items. -/
theorem each_traced (P : List ι → List ι → σ → Prop) (seen kept : List ι)
    (took : ∀ seen kept state value item next, P seen kept state →
      (step state value item).result = .ok next →
      P (seen ++ [item]) (kept ++ [item]) (step state value item).state)
    (refused : ∀ seen kept state value item error, P seen kept state →
      (step state value item).result = .error error →
      P (seen ++ [item]) kept (step state value item).state)
    (start : P seen kept state) :
    P (seen ++ tried step state value items) (kept ++ passed step state value items)
      (each step state value items).state := by
  induction items generalizing state value seen kept with
  | nil => simpa [tried, passed, each, done] using start
  | cons item items ih =>
      rw [each_cons]
      cases result : (step state value item).result with
      | error error =>
          rw [(andThen_error result).2]
          simpa [tried, passed, result] using refused _ _ _ _ _ _ start result
      | ok next =>
          rw [(andThen_ok result).2]
          have later := @ih _ next _ _ (took _ _ _ _ _ _ start result)
          simpa [tried, passed, result] using later

theorem each_succeeded {final : α} (ok : (each step state value items).result = .ok final) :
    tried step state value items = items ∧ passed step state value items = items := by
  induction items generalizing state value with
  | nil => exact ⟨rfl, rfl⟩
  | cons item items ih =>
      rw [each_cons] at ok
      rcases andThen_ok_iff.mp ok with ⟨next, first, later⟩
      have rest := ih later
      simp only [tried, passed, first, rest, and_self]

theorem each_stops {error : DecodeError}
    (failed : (each step state value items).result = .error error) :
    ∃ before item, StopsAt step state value items before item error := by
  induction items generalizing state value with
  | nil => cases failed
  | cons item items ih =>
      rw [each_cons] at failed
      cases result : (step state value item).result with
      | error reason =>
          rw [(andThen_error result).1] at failed
          cases failed
          refine ⟨[], item, ⟨items, rfl⟩, ⟨value, rfl, result, ?_⟩, ?_, ?_⟩
          · rw [each_cons, (andThen_error result).2]
            rfl
          · simp only [tried, result, List.nil_append]
          · simp only [passed, result]
      | ok next =>
          rw [(andThen_ok result).1] at failed
          rcases ih failed with ⟨before, last, parts, ends, tries, passes⟩
          rcases parts with ⟨after, rfl⟩
          rcases ends with ⟨middle, before_ok, fails, state⟩
          refine ⟨item :: before, last, ⟨after, rfl⟩, ⟨middle, ?_, ?_, ?_⟩, ?_, ?_⟩
          · rw [each_cons, (andThen_ok result).1, before_ok]
          · rw [each_cons, (andThen_ok result).2, fails]
          · rw [each_cons, each_cons, (andThen_ok result).2, (andThen_ok result).2, state]
          · simp only [tried, result, tries, List.cons_append]
          · simp only [passed, result, passes]

end Tried

end Outcome

end Andromeda
