import Andromeda.Proofs.Midi.Stopping

/-!
That a capture ends. However a clock goes back and forth among the readings it lists, behind them
each one is a second later, so the limit of the whole is passed after as many polls as there are
readings and seconds left. Which poll is the last one depends on what was brought up to then and on
nothing that is still to come, so a port that never runs dry makes no difference.
-/

namespace Andromeda

/-- The clock that gives some exact readings first. If there are none, it begins at zero. -/
def Clock.listed (readings : List Rat) : Clock := ⟨readings.map .exact, .exact 0⟩

/-- The loop ends behind a number of polls: with a round for each of them and one more it comes to
its end, and with fewer rounds it does not. -/
def Recording.EndsAfter {σ : Type*} (recording : Recording) (settings : CaptureSettings)
    (listener : σ → Bytes → σ) (nothing : σ) (polls : Nat)
    (ended : StopReason × Recording × σ) : Prop :=
  ∀ rounds, Recording.run settings listener recording.latest rounds recording nothing =
    if polls < rounds then some ended else none

def Host.Brings (host : Host) (batches : Nat → List Message) (polls : Nat) : Prop :=
  ∀ place < polls, host.batches.getD place [] = batches place

/-- At whichever port it is opened, a capture ends behind a number of polls, for one reason and with
one thing told, and leaves the port with the batches that were not polled. -/
structure Host.EndsWith {σ : Type*} (host : Host) (settings : CaptureSettings)
    (listener : σ → Bytes → σ) (nothing : σ) (polls : Nat) (stop : StopReason) (told : σ) :
    Prop where
  loop : ∀ name, ∃ last, last.port = ⟨name, host.batches.drop polls, false⟩ ∧
    (Recording.start (host.openPort name) host.clock).EndsAfter settings listener nothing polls
      (stop, last, told)
  capture : ∀ name, findPort host.ports settings.name = some name → name ≠ "" →
    ∃ capture, captureWith listener nothing host settings = .ok (capture, told) ∧
      capture.stop = stop ∧ capture.port = name ∧
      capture.recording.port.batches = host.batches.drop polls

structure Host.Alike (host other : Host) (polls : Nat) : Prop where
  clock : other.clock = host.clock
  received : ∀ place < polls, other.received place = host.received place

theorem exact_listed (readings : List Rat) : (Clock.listed readings).Exact :=
  ⟨List.forall_mem_map.mpr fun seconds _ => ⟨seconds, rfl⟩, 0, rfl⟩

theorem final_listed (readings : List Rat) :
    (Clock.listed readings).final = .exact (readings.getLastD 0) := by
  rw [Clock.final, Clock.listed, List.getLastD_eq_getLast?, List.getLastD_eq_getLast?,
    List.getLast?_map, Option.getD_map]

namespace Host

variable {σ : Type*} {settings : CaptureSettings} {listener : σ → Bytes → σ} {nothing : σ}
  {host other : Host} {polls round : Nat} {stop : StopReason}

section Alike

theorem Brings.alike {batches : Nat → List Message} (clock : other.clock = host.clock)
    (first : host.Brings batches polls) (second : other.Brings batches polls) :
    host.Alike other polls := by
  refine ⟨clock, fun place below => ?_⟩
  rw [received, received, first place below, second place below]

variable (alike : host.Alike other polls) (within : round ≤ polls)
include alike within

theorem Alike.heard : other.heard round = host.heard round := by
  apply List.flatMap_congr
  intro place member
  exact alike.received place ((List.mem_range.mp member).trans_le within)

theorem Alike.busy : other.busy round = host.busy round := by
  apply List.countP_congr
  intro place member
  rw [alike.received place ((List.mem_range.mp member).trans_le within)]

theorem Alike.latest : other.latest round = host.latest round := by
  induction round with
  | zero => rw [Host.latest, Host.latest, began, began, alike.clock]
  | succ round ih =>
      have below : round ≤ polls := by omega
      simp only [Host.latest, Host.stamp, alike.received round within, alike.busy below,
        alike.clock, ih below]

theorem Alike.stops : other.stop? settings round = host.stop? settings round := by
  have time : other.roundTime round = host.roundTime round := by
    rw [roundTime, roundTime, alike.clock, alike.busy within]
  have start : other.began = host.began := by
    rw [began, began, alike.clock]
  rw [stop?, stop?, time, start]
  refine if_congr Iff.rfl rfl (if_congr ?_ rfl rfl)
  rw [alike.heard within, alike.latest within]

end Alike

theorem endsAfter_recorded (before : ∀ round < polls, host.stop? settings round = none)
    (stops : host.stop? settings polls = some stop) (name : String) :
    (host.recorded name 0).EndsAfter settings listener nothing polls
      (stop, (host.recorded name polls).glance.2, (host.heard polls).foldl listener nothing) := by
  intro rounds
  split
  case isTrue enough =>
    exact run_recorded.mpr
      ⟨polls, Nat.zero_le _, by omega, fun round _ => before round, stops, rfl, rfl⟩
  case isFalse few =>
    rw [Option.eq_none_iff_forall_ne_some]
    rintro ⟨reason, last, told⟩ ended
    obtain ⟨final, _, below, _, stopped, _⟩ := run_recorded.mp ended
    cases (before final (by omega)).symm.trans stopped

theorem endsWith_first (before : ∀ round < polls, host.stop? settings round = none)
    (stops : host.stop? settings polls = some stop)
    (enough : ∀ name, polls ≤ (host.recorded name 0).pollBound settings) :
    host.EndsWith settings listener nothing polls stop
      ((host.heard polls).foldl listener nothing) := by
  constructor
  · intro name
    exact ⟨_, rfl, endsAfter_recorded before stops name⟩
  · intro name found named
    exact ⟨⟨stop, host.finished name polls⟩, (captureWith_ok_iff found named).mpr
      ⟨polls, enough name, before, stops, rfl, rfl⟩, rfl, rfl, rfl⟩

end Host

/-- Whatever times a clock reads at first, and whatever a port brings, once or for ever, a capture
ends behind a number of polls that the readings and the seconds left until the limit add up to. -/
theorem capture_ends {σ : Type*} (readings : List Rat) (batches : Nat → List Message)
    {settings : CaptureSettings} {total idle : Rat}
    (total_exact : settings.total.limit = .exact total)
    (idle_exact : settings.idle.limit = .exact idle) (listener : σ → Bytes → σ) (nothing : σ) :
    ∃ polls : Nat, (polls : Int) ≤ readings.length +
        max 0 ⌊(Clock.listed readings).read.1.value + total - readings.getLastD 0⌋ ∧
      ∃ stop told, ∀ host : Host, host.clock = .listed readings → host.Brings batches polls →
        host.EndsWith settings listener nothing polls stop told := by
  let most := readings.length +
    ⌊(Clock.listed readings).read.1.value + total - readings.getLastD 0⌋.toNat
  -- As many batches as the limit leaves room for stand for all of them.
  let listing : Host := ⟨[], [], (List.range most).map batches, .listed readings⟩
  have patience (host : Host) (clock : host.clock = .listed readings) :
      host.patience total = most := by
    rw [Host.patience, Host.began, clock, final_listed, Clock.listed, List.length_map]
    rfl
  have exact : listing.clock.Exact := exact_listed readings
  have late := Host.stop?_patience exact total_exact idle_exact
  rw [patience listing rfl] at late
  obtain ⟨polls, within, before, stop, stops⟩ := Host.exists_first_stop late
  have listed : listing.Brings batches polls := by
    intro place below
    have inside : place < most := below.trans_le within
    simp [listing, inside]
  refine ⟨polls, by omega, stop, (listing.heard polls).foldl listener nothing, ?_⟩
  intro host clock brings
  have alike := listed.alike clock brings
  have enough (name : String) : polls ≤ (host.recorded name 0).pollBound settings := by
    have exact : host.clock.Exact := clock ▸ exact_listed readings
    exact (within.trans_eq (patience host clock).symm).trans
      (Host.patience_le_pollBound exact total_exact name)
  rw [← alike.heard le_rfl]
  apply Host.endsWith_first _ ((alike.stops le_rfl).trans stops) enough
  intro round below
  exact (alike.stops below.le).trans (before round below)

def talkingHost : Host where
  ports := ["Talker"]
  pending := [.exclusive [0x7E]]
  batches := List.replicate 9 [.exclusive [0x7E], .other]
  clock := .listed [5, 3]

def talkingSettings : CaptureSettings := ⟨none, .whole 2, .whole 60⟩

theorem talkingHost_ends :
    talkingSettings.total.limit = .exact 2 ∧ talkingSettings.idle.limit = .exact 60 ∧
      talkingHost.Brings (fun _ => [.exclusive [0x7E], .other]) 6 ∧
      ∃ polls ≤ 6, ∃ stop told,
        talkingHost.EndsWith talkingSettings (fun count _ => count + 1) 0 polls stop told := by
  have brings : talkingHost.Brings (fun _ => [.exclusive [0x7E], .other]) 6 := by
    unfold Host.Brings
    decide
  obtain ⟨polls, most, stop, told, ends⟩ := capture_ends [5, 3]
    (fun _ => [.exclusive [0x7E], .other]) (rfl : talkingSettings.total.limit = .exact 2)
    (rfl : talkingSettings.idle.limit = .exact 60) (fun count _ => count + 1) 0
  have value : (2 : Int) + max 0 ⌊(5 : Rat) + 2 - 3⌋ = 6 := by norm_num
  have within : polls ≤ 6 := by
    have most : (polls : Int) ≤ 2 + max 0 ⌊(5 : Rat) + 2 - 3⌋ := most
    omega
  exact ⟨rfl, rfl, brings, polls, within, stop, told,
    ends talkingHost rfl fun place below => brings place (below.trans_le within)⟩

end Andromeda
