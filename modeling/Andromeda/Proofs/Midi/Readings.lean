import Mathlib.Algebra.Order.Floor.Ring
import Mathlib.Data.List.Range
import Mathlib.Data.Rat.Floor
import Mathlib.Tactic.Linarith
import Andromeda.Midi.Clock

/-!
The readings of a clock, in the order in which they are taken: first those to come, and then one for
each second. A run that ends takes only so many of them, so a clock stands for any sequence of times
that its readings to come are the first ones of.
-/

namespace Andromeda

def Clock.skip (clock : Clock) : Nat → Clock
  | 0 => clock
  | count + 1 => (clock.skip count).read.2

def Clock.reading (clock : Clock) (place : Nat) : Time := (clock.skip place).read.1

structure Clock.Exact (clock : Clock) : Prop where
  upcoming : ∀ reading ∈ clock.upcoming, ∃ seconds, reading = .exact seconds
  last : ∃ seconds, clock.last = .exact seconds

def Clock.Follows (clock : Clock) (times : Nat → Rat) (count : Nat) : Prop :=
  ∀ place < count, clock.reading place = .exact (times place)

namespace Clock

variable {clock : Clock}

theorem skip_add (first second : Nat) :
    clock.skip (first + second) = (clock.skip first).skip second := by
  induction second with
  | zero => rfl
  | succ second ih => exact congrArg (fun clock : Clock => clock.read.2) ih

theorem Exact.read (exact : clock.Exact) :
    (∃ seconds, clock.read.1 = .exact seconds) ∧ clock.read.2.Exact := by
  rcases clock with ⟨_ | ⟨first, rest⟩, last⟩
  · obtain ⟨seconds, rfl⟩ := exact.last
    exact ⟨⟨_, rfl⟩, List.forall_mem_nil _, _, rfl⟩
  · have first := exact.upcoming first List.mem_cons_self
    exact ⟨first, fun reading member => exact.upcoming reading (List.mem_cons_of_mem _ member),
      first⟩

theorem Exact.skip (exact : clock.Exact) (count : Nat) : (clock.skip count).Exact := by
  induction count with
  | zero => exact exact
  | succ count ih => exact ih.read.2

theorem Exact.follows (exact : clock.Exact) (count : Nat) :
    clock.Follows (fun place => (clock.reading place).value) count := by
  intro place _
  obtain ⟨seconds, read⟩ := (exact.skip place).read.1
  have read : clock.reading place = .exact seconds := read
  simp only [read]
  rfl

theorem reading_upcoming {place : Nat} (inside : place < clock.upcoming.length) :
    clock.reading place = clock.upcoming[place] := by
  obtain ⟨upcoming, last⟩ := clock
  induction upcoming generalizing last place with
  | nil => cases inside
  | cons first rest ih =>
      cases place with
      | zero => rfl
      | succ place =>
          have behind : (⟨first :: rest, last⟩ : Clock).reading (place + 1) =
              (⟨rest, first⟩ : Clock).reading place := by
            rw [reading, Nat.add_comm, skip_add]
            rfl
          exact behind.trans (ih first (Nat.lt_of_succ_lt_succ inside))

theorem follows_listed {times : Nat → Rat} {count : Nat}
    (listed : clock.upcoming = (List.range count).map fun place => .exact (times place)) :
    clock.Follows times count := by
  intro place below
  have inside : place < clock.upcoming.length := by
    rw [listed, List.length_map, List.length_range]
    exact below
  rw [reading_upcoming inside]
  simp only [listed, List.getElem_map, List.getElem_range]

theorem skip_upcoming (clock : Clock) :
    clock.skip clock.upcoming.length = ⟨[], clock.final⟩ := by
  obtain ⟨upcoming, last⟩ := clock
  induction upcoming generalizing last with
  | nil => rfl
  | cons first rest ih =>
      rw [List.length_cons, Nat.add_comm, skip_add]
      exact (ih first).trans (by rw [final, final, List.getLastD_cons])

theorem reading_late {seconds : Rat} (final : clock.final = .exact seconds) (more : Nat) :
    clock.reading (clock.upcoming.length + more) = .exact (seconds + more + 1) := by
  have on : (⟨[], .exact seconds⟩ : Clock).skip more = ⟨[], .exact (seconds + more)⟩ := by
    induction more with
    | zero => simp [skip]
    | succ more ih =>
        rw [skip, ih]
        simp [read, Time.next, add_assoc]
  rw [reading, skip_add, skip_upcoming, final, on]
  rfl

theorem Exact.final (exact : clock.Exact) : ∃ seconds, clock.final = .exact seconds := by
  have last := (exact.skip clock.upcoming.length).last
  rwa [skip_upcoming] at last

end Clock

theorem Clock.Exact.read_final {clock : Clock} (exact : clock.Exact) :
    clock.upcoming.length ≤ clock.read.2.upcoming.length + 1 ∧
      clock.read.2.final.value ≤ clock.final.value + 1 := by
  rcases clock with ⟨_ | ⟨first, rest⟩, last⟩
  · obtain ⟨seconds, rfl⟩ := exact.last
    exact ⟨Nat.zero_le _, le_refl _⟩
  · refine ⟨le_refl _, ?_⟩
    have same : (⟨first :: rest, last⟩ : Clock).final = (⟨rest, first⟩ : Clock).final :=
      List.getLastD_cons ..
    rw [same]
    exact le_add_of_nonneg_right zero_le_one

theorem floor_le_patience {timeout : Timeout} {limit start last now : Rat}
    (exact : timeout.limit = .exact limit) (soon : now ≤ last + 1) :
    ⌊start + limit - last⌋.toNat ≤ timeout.patience start now := by
  have span : limit ≤ (if limit < 0 then -limit else limit) ∧
      0 ≤ (if limit < 0 then -limit else limit) := by
    split <;> constructor <;> linarith
  simp only [Timeout.patience, exact, Time.value?]
  by_cases past : start + limit - last < 0
  · have none : ⌊start + limit - last⌋.toNat = 0 :=
      Int.toNat_of_nonpos (Int.floor_nonpos past.le)
    rw [none]
    exact Nat.zero_le _
  · apply Int.toNat_le_toNat
    apply Int.floor_le_floor
    linarith

end Andromeda
