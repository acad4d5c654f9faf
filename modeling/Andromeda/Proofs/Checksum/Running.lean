import Andromeda.Proofs.Checksum

namespace Andromeda

namespace Checksum

inductive Operation where
  | add (values : List Int)
  | remove (values : List Int)

def Operation.apply (running : Int) : Operation → Int
  | .add values => Checksum.add running values
  | .remove values => Checksum.remove running values

def run (start : Int) (operations : List Operation) : Int :=
  operations.foldl Operation.apply start

def Operation.change : Operation → Int
  | .add values => values.sum
  | .remove values => -values.sum

def balance (operations : List Operation) : Int := (operations.map Operation.change).sum

theorem balance_cons (operation : Operation) (operations : List Operation) :
    balance (operation :: operations) = operation.change + balance operations := by
  simp only [balance, List.map_cons, List.sum_cons]

theorem balance_append (first second : List Operation) :
    balance (first ++ second) = balance first + balance second := by
  simp only [balance, List.map_append, List.sum_append]

theorem balance_perm {operations others : List Operation} (same : operations.Perm others) :
    balance operations = balance others :=
  (same.map Operation.change).sum_eq

theorem balance_pieces (pieces : List (List Int)) :
    balance (pieces.map .add) = pieces.flatten.sum := by
  induction pieces with
  | nil => rfl
  | cons piece pieces ih =>
      rw [List.map_cons, balance_cons, ih, List.flatten_cons, List.sum_append]
      rfl

theorem balance_cancelled (before between after : List Operation) (values : List Int) :
    balance (before ++ .add values :: (between ++ .remove values :: after)) =
      balance (before ++ between ++ after) := by
  simp only [balance_append, balance_cons, Operation.change]
  omega

theorem word_word_add (number more : Int) : word (word number + more) = word (number + more) :=
  Int.emod_add_emod number _ more

theorem word_word (number : Int) : word (word number) = word number :=
  Int.emod_emod_of_dvd number (Int.dvd_refl _)

theorem Operation.apply_eq (running : Int) (operation : Operation) :
    operation.apply running = word (running + operation.change) := by
  cases operation with
  | add values => rw [apply, Checksum.add, total_eq_sum, change]
  | remove values => rw [apply, Checksum.remove, total_eq_sum, change, Int.sub_eq_add_neg]

theorem run_cons (start : Int) (operation : Operation) (operations : List Operation) :
    run start (operation :: operations) = word (start + balance (operation :: operations)) := by
  -- What the first operation leaves is the start of all others.
  induction operations generalizing start operation with
  | nil =>
      calc
        run start [operation] = operation.apply start := rfl
        _ = word (start + operation.change) := operation.apply_eq start
        _ = word (start + balance [operation]) := by
          simp only [balance, List.map_singleton, List.sum_singleton]
  | cons next operations ih =>
      calc
        run start (operation :: next :: operations) =
            run (operation.apply start) (next :: operations) := rfl
        _ = word (word (start + operation.change) + balance (next :: operations)) := by
          rw [ih, Operation.apply_eq]
        _ = word (start + operation.change + balance (next :: operations)) := word_word_add ..
        _ = word (start + balance (operation :: next :: operations)) := by
          rw [balance_cons operation, Int.add_assoc]

theorem run_eq (start : Int) (operations : List Operation) :
    run start operations =
      if operations = [] then start else word (start + balance operations) := by
  cases operations with
  | nil => rfl
  | cons operation operations => exact run_cons start operation operations

theorem run_of_ne_nil (start : Int) {operations : List Operation} (some : operations ≠ []) :
    run start operations = word (start + balance operations) := by
  rw [run_eq, if_neg some]

theorem word_run (start : Int) (operations : List Operation) :
    word (run start operations) = word (start + balance operations) := by
  cases operations with
  | nil => exact congrArg word (Int.add_zero start).symm
  | cons operation operations => rw [run_cons, word_word]

theorem run_perm (start : Int) {operations others : List Operation}
    (same : operations.Perm others) : run start operations = run start others := by
  have empty : operations = [] ↔ others = [] := by
    rw [← List.length_eq_zero_iff, same.length_eq, List.length_eq_zero_iff]
  simp only [run_eq, empty, balance_perm same]

theorem run_pieces (start : Int) (before after : List Operation) (first : List Int)
    (pieces : List (List Int)) :
    run start (before ++ .add (first ++ pieces.flatten) :: after) =
      run start (before ++ (.add first :: pieces.map .add) ++ after) := by
  rw [run_of_ne_nil start (by simp), run_of_ne_nil start (by simp)]
  simp only [balance_append, balance_cons, balance_pieces, Operation.change, List.sum_append]
  congr 1
  omega

theorem run_cancelled (start : Int) (before between after : List Operation) (values : List Int) :
    run start (before ++ .add values :: (between ++ .remove values :: after)) =
      word (run start (before ++ between ++ after)) := by
  rw [run_of_ne_nil start (by simp), balance_cancelled, word_run]

/-- A running checksum is the word of what was there and all that was added less all that was
removed. The order of the operations, the pieces in which values are added, and values that are
removed again after they were added make no difference to it. -/
theorem running_sum_exact (start : Int) :
    (∀ operations, run start operations =
      if operations = [] then start else (start + balance operations) % 2 ^ 32) ∧
    (∀ operations others, operations.Perm others → run start operations = run start others) ∧
    (∀ (before after : List Operation) (first : List Int) (pieces : List (List Int)),
      run start (before ++ .add (first ++ pieces.flatten) :: after) =
        run start (before ++ (.add first :: pieces.map .add) ++ after)) ∧
    (∀ (before between after : List Operation) (values : List Int),
      run start (before ++ .add values :: (between ++ .remove values :: after)) =
          run start (before ++ between ++ after) % 2 ^ 32 ∧
        (before ++ between ++ after ≠ [] →
          run start (before ++ .add values :: (between ++ .remove values :: after)) =
            run start (before ++ between ++ after))) ∧
    ∀ operations operation,
      0 ≤ run start (operations ++ [operation]) ∧
        run start (operations ++ [operation]) < 2 ^ 32 := by
  refine ⟨run_eq start, fun _ _ => run_perm start, run_pieces start, ?_, ?_⟩
  · intro before between after values
    have cancelled := run_cancelled start before between after values
    refine ⟨cancelled, fun some => ?_⟩
    rw [cancelled, run_of_ne_nil start some, word_word]
  · intro operations operation
    rw [run_of_ne_nil start (by simp)]
    exact ⟨word_nonneg _, word_lt _⟩

theorem run_below_zero :
    [Operation.remove [7], .add [2, 3]].Perm [.add [2, 3], .remove [7]] ∧
      run 0 [.remove [7], .add [2, 3]] = run 0 [.add [2, 3], .remove [7]] ∧
      [Operation.remove [1]] ≠ [] ∧
      run (-300) [.add [300], .remove [1], .remove [300]] = run (-300) [.remove [1]] := by
  have swapped : [Operation.remove [7], .add [2, 3]].Perm [.add [2, 3], .remove [7]] :=
    List.Perm.swap _ _ _
  obtain ⟨-, perm, -, -, -⟩ := running_sum_exact 0
  obtain ⟨-, -, -, cancelled, -⟩ := running_sum_exact (-300)
  have other : [Operation.remove [1]] ≠ [] := List.cons_ne_nil _ _
  exact ⟨swapped, perm _ _ swapped, other, (cancelled [] [.remove [1]] [] [300]).2 other⟩

end Checksum

end Andromeda
