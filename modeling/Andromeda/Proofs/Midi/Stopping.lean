import Andromeda.Proofs.Midi.Rounds

namespace Andromeda

/-- A message came with this poll, and none with those behind it. -/
structure Host.Latest (host : Host) (polls place : Nat) : Prop where
  below : place < polls
  some : host.received place ≠ []
  none : ∀ later, place < later → later < polls → host.received later = []

def Host.Overdue (host : Host) (times : Nat → Rat) (total : Rat) (polls : Nat) : Prop :=
  total < times (1 + polls + host.busy polls) - times 0

/-- There was a message, and at the reading in front of a poll, the one that was taken behind the
latest message is longer ago than the limit of silence. -/
def Host.Silent (host : Host) (times : Nat → Rat) (idle : Rat) (polls : Nat) : Prop :=
  ∃ place, host.Latest polls place ∧
    idle < times (1 + polls + host.busy polls) - times (2 + place + host.busy place)

/-- A capture from a port has the messages of its polls, and stopped where it should. -/
structure Host.Captures (host : Host) (times : Nat → Rat) (total idle : Rat) (name : String)
    (polls : Nat) (capture : Capture) : Prop where
  messages : capture.messages = (host.batches.take polls).flatten.filterMap Message.exclusive?
  data : capture.data = capture.messages.flatMap fun data => 0xF0 :: (data ++ [0xF7])
  messageCount : capture.messageCount = capture.messages.length
  sleeps : capture.recording.sleeps = host.quiet polls
  clockReads : capture.recording.clockReads = 2 + polls + (polls - capture.recording.sleeps)
  clock : capture.recording.clock = host.clock.skip capture.recording.clockReads
  port : capture.recording.port = ⟨name, host.batches.drop polls, true⟩
  stops : host.Overdue times total polls ∨ host.Silent times idle polls
  earlier : ∀ round < polls, ¬ host.Overdue times total round ∧ ¬ host.Silent times idle round
  reason : capture.stop = .idle ↔ host.Silent times idle polls ∧ ¬ host.Overdue times total polls

/-- A number of polls that is enough for the limit of the whole: one for each reading to come, and
then one for each second. -/
def Host.patience (host : Host) (total : Rat) : Nat :=
  host.clock.upcoming.length + ⌊host.began.value + total - host.clock.final.value⌋.toNat

namespace Host

variable {host : Host} {polls : Nat}

theorem Latest.unique {first second : Nat} (one : host.Latest polls first)
    (other : host.Latest polls second) : first = second := by
  rcases Nat.lt_trichotomy first second with before | same | behind
  · exact absurd (one.none second before other.below) other.some
  · exact same
  · exact absurd (other.none first behind one.below) one.some

theorem exists_latest (heard : host.heard polls ≠ []) :
    ∃ place, host.Latest polls place ∧ host.latest polls = host.stamp place := by
  induction polls with
  | zero => exact absurd rfl heard
  | succ polls ih =>
      by_cases none : host.received polls = []
      · rw [heard_succ, none, List.append_nil] at heard
        obtain ⟨place, last, stamped⟩ := ih heard
        refine ⟨place, ⟨by have := last.below; omega, last.some, ?_⟩, ?_⟩
        · intro later behind below
          rcases Nat.lt_succ_iff_lt_or_eq.mp below with before | rfl
          · exact last.none later behind before
          · exact none
        · rw [latest, if_pos none, stamped]
      · refine ⟨polls, ⟨Nat.lt_succ_self polls, none, by omega⟩, ?_⟩
        rw [latest, if_neg none]

theorem Latest.heard {place : Nat} (last : host.Latest polls place) : host.heard polls ≠ [] := by
  intro nothing
  have quiet := List.flatMap_eq_nil_iff.mp nothing place (List.mem_range.mpr last.below)
  exact last.some quiet

theorem heard_eq (polls : Nat) :
    host.heard polls = (host.batches.take polls).flatten.filterMap Message.exclusive? := by
  induction polls with
  | zero => rfl
  | succ polls ih =>
      rw [heard_succ, ih, List.take_add_one, List.flatten_append, List.filterMap_append, received,
        List.getD_eq_getElem?_getD]
      cases host.batches[polls]? <;> simp

section Limits

variable {settings : CaptureSettings} {times : Nat → Rat} {total idle : Rat} {round : Nat}

theorem roundTime_eq (follows : host.clock.Follows times (2 + round + host.busy round))
    (within : polls ≤ round) :
    host.roundTime polls = .exact (times (1 + polls + host.busy polls)) := by
  apply follows
  have busy := host.busy_mono within
  omega

theorem overdue_iff (follows : host.clock.Follows times (2 + round + host.busy round))
    (limit : settings.total.limit = .exact total) (within : polls ≤ round) :
    ((host.roundTime polls).since host.began).exceeds settings.total.limit = true ↔
      host.Overdue times total polls := by
  have began : host.began = .exact (times 0) := follows 0 (by omega)
  rw [roundTime_eq follows within, began, limit]
  exact decide_eq_true_iff

theorem silent_iff (follows : host.clock.Follows times (2 + round + host.busy round))
    (limit : settings.idle.limit = .exact idle) (within : polls ≤ round) :
    (host.heard polls ≠ [] ∧
      ((host.roundTime polls).since (host.latest polls)).exceeds settings.idle.limit = true) ↔
        host.Silent times idle polls := by
  have passed {place : Nat} (last : host.Latest polls place) :
      ((host.roundTime polls).since (host.stamp place)).exceeds settings.idle.limit = true ↔
        idle < times (1 + polls + host.busy polls) - times (2 + place + host.busy place) := by
    have below := last.below
    have before := host.busy_mono (below.le.trans within)
    have stamp : host.stamp place = .exact (times (2 + place + host.busy place)) :=
      follows _ (by omega)
    rw [roundTime_eq follows within, stamp, limit]
    exact decide_eq_true_iff
  constructor
  · rintro ⟨heard, silence⟩
    obtain ⟨place, last, stamped⟩ := exists_latest heard
    rw [stamped] at silence
    exact ⟨place, last, (passed last).mp silence⟩
  · rintro ⟨place, last, silence⟩
    obtain ⟨other, latest, stamped⟩ := exists_latest last.heard
    rw [stamped, latest.unique last]
    exact ⟨last.heard, (passed last).mpr silence⟩

theorem stop?_eq_some_iff (follows : host.clock.Follows times (2 + round + host.busy round))
    (total_exact : settings.total.limit = .exact total)
    (idle_exact : settings.idle.limit = .exact idle) (within : polls ≤ round) (stop : StopReason) :
    host.stop? settings polls = some stop ↔
      (stop = .total ∧ host.Overdue times total polls) ∨
        (stop = .idle ∧ host.Silent times idle polls ∧ ¬ host.Overdue times total polls) := by
  have overdue := overdue_iff follows total_exact within
  have silent := silent_iff follows idle_exact within
  rw [stop?]
  split
  case isTrue late =>
    have late := overdue.mp late
    simp [late, eq_comm]
  case isFalse early =>
    have early := mt overdue.mpr early
    split
    case isTrue quiet =>
      have quiet := silent.mp quiet
      simp [early, quiet, eq_comm]
    case isFalse busy =>
      have busy := mt silent.mpr busy
      simp [early, busy]

theorem stop?_eq_none_iff (follows : host.clock.Follows times (2 + round + host.busy round))
    (total_exact : settings.total.limit = .exact total)
    (idle_exact : settings.idle.limit = .exact idle) (within : polls ≤ round) :
    host.stop? settings polls = none ↔
      ¬ host.Overdue times total polls ∧ ¬ host.Silent times idle polls := by
  have stops := stop?_eq_some_iff follows total_exact idle_exact within
  rw [Option.eq_none_iff_forall_ne_some]
  constructor
  · intro none
    have early : ¬ host.Overdue times total polls := fun late =>
      none .total ((stops .total).mpr (.inl ⟨rfl, late⟩))
    exact ⟨early, fun quiet => none .idle ((stops .idle).mpr (.inr ⟨rfl, quiet, early⟩))⟩
  · rintro ⟨early, busy⟩ stop stopped
    rcases (stops stop).mp stopped with ⟨_, late⟩ | ⟨_, quiet, _⟩
    · exact early late
    · exact busy quiet

theorem overdue_patience (exact : host.clock.Exact) (total : Rat) :
    host.Overdue (fun place => (host.clock.reading place).value) total (host.patience total) := by
  obtain ⟨last, final⟩ := exact.final
  obtain ⟨more, place⟩ : ∃ more, 1 + host.patience total + host.busy (host.patience total) =
      host.clock.upcoming.length +
        (⌊host.began.value + total - host.clock.final.value⌋.toNat + 1 + more) :=
    ⟨host.busy (host.patience total), by rw [patience]; omega⟩
  have floor := Int.lt_floor_add_one (host.began.value + total - host.clock.final.value)
  have least : (⌊host.began.value + total - host.clock.final.value⌋ : Rat) ≤
      (⌊host.began.value + total - host.clock.final.value⌋.toNat : Rat) := by
    exact_mod_cast Int.self_le_toNat _
  have later : (0 : Rat) ≤ more := Nat.cast_nonneg more
  have value : host.clock.final.value = last := by rw [final]; rfl
  rw [Overdue, place]
  simp only [Clock.reading_late final]
  rw [value] at floor least ⊢
  change total < last + _ + 1 - host.began.value
  push_cast
  linarith

theorem patience_le_pollBound (exact : host.clock.Exact)
    (total_exact : settings.total.limit = .exact total) (name : String) :
    host.patience total ≤ (host.recorded name 0).pollBound settings := by
  obtain ⟨readings, soon⟩ := exact.read_final
  have seconds : ⌊host.began.value + total - host.clock.final.value⌋.toNat ≤
      settings.total.patience host.began.value host.clock.read.2.final.value :=
    floor_le_patience total_exact soon
  calc
    host.patience total ≤ host.clock.read.2.upcoming.length + 1 +
        settings.total.patience host.began.value host.clock.read.2.final.value :=
      Nat.add_le_add readings seconds
    _ ≤ (host.recorded name 0).pollBound settings := by
      simp only [Recording.pollBound]
      change _ ≤ 2 * host.batches.length + host.clock.read.2.upcoming.length + 1 +
        settings.total.patience host.began.value host.clock.read.2.final.value + _
      omega

theorem stop?_patience (exact : host.clock.Exact)
    (total_exact : settings.total.limit = .exact total)
    (idle_exact : settings.idle.limit = .exact idle) :
    host.stop? settings (host.patience total) = some .total :=
  (stop?_eq_some_iff (exact.follows _) total_exact idle_exact (le_refl _) .total).mpr
    (.inl ⟨rfl, overdue_patience exact total⟩)

theorem exists_first_stop {stop : StopReason} (stops : host.stop? settings round = some stop) :
    ∃ polls ≤ round, (∀ earlier < polls, host.stop? settings earlier = none) ∧
      ∃ stop, host.stop? settings polls = some stop := by
  have ends : ∃ polls, (host.stop? settings polls).isSome = true := ⟨round, by rw [stops]; rfl⟩
  refine ⟨Nat.find ends, Nat.find_min' ends (by rw [stops]; rfl), ?_, ?_⟩
  · intro earlier before
    exact Option.not_isSome_iff_eq_none.mp (Nat.find_min ends before)
  · exact Option.isSome_iff_exists.mp (Nat.find_spec ends)

theorem finished_captures (follows : host.clock.Follows times (2 + polls + host.busy polls))
    (total_exact : settings.total.limit = .exact total)
    (idle_exact : settings.idle.limit = .exact idle) (name : String) {stop : StopReason}
    (before : ∀ round < polls, host.stop? settings round = none)
    (stops : host.stop? settings polls = some stop) :
    host.Captures times total idle name polls ⟨stop, host.finished name polls⟩ := by
  have counts := host.quiet_add_busy polls
  have reason :=
    (stop?_eq_some_iff follows total_exact idle_exact (le_refl polls) stop).mp stops
  refine ⟨heard_eq polls, rfl, rfl, rfl, ?_, rfl, rfl, ?_, ?_, ?_⟩
  · change 1 + polls + host.busy polls + 1 = 2 + polls + (polls - host.quiet polls)
    omega
  · exact reason.imp And.right fun silent => silent.2.1
  · intro round earlier
    exact (stop?_eq_none_iff follows total_exact idle_exact earlier.le).mp (before round earlier)
  · constructor
    · rintro rfl
      rcases reason with ⟨impossible, _⟩ | ⟨_, silent⟩
      · cases impossible
      · exact silent
    · rintro ⟨_, early⟩
      rcases reason with ⟨_, late⟩ | ⟨idle, _⟩
      · exact absurd late early
      · exact idle

end Limits

end Host

/-- A capture from a port that is found stops in the first round of a sequence of times that passes
a limit, with every message of its polls, and closes the port. Whoever listens has heard each
message once, in the same order. -/
theorem captures_exactly {σ : Type*} {host : Host} {settings : CaptureSettings}
    {times : Nat → Rat} {total idle : Rat} {name : String} {round : Nat}
    (found : findPort host.ports settings.name = some name) (named : name ≠ "")
    (exact : host.clock.Exact) (total_exact : settings.total.limit = .exact total)
    (idle_exact : settings.idle.limit = .exact idle)
    (follows : host.clock.Follows times (2 + round + host.busy round))
    (ends : host.Overdue times total round ∨ host.Silent times idle round)
    (listener : σ → Bytes → σ) (nothing : σ) :
    ∃ capture polls, captureWith listener nothing host settings =
        .ok (capture, capture.messages.foldl listener nothing) ∧
      host.Captures times total idle name polls capture := by
  have told : host.stop? settings round ≠ none := by
    intro none
    have running := (Host.stop?_eq_none_iff follows total_exact idle_exact (le_refl _)).mp none
    exact ends.elim running.1 running.2
  obtain ⟨_, told⟩ := Option.ne_none_iff_exists'.mp told
  obtain ⟨polls, within, before, stop, stops⟩ := Host.exists_first_stop told
  -- The polls that are tried are counted for the clock itself, which goes on behind the sequence.
  have late := Host.stop?_patience exact total_exact idle_exact
  have soon : polls ≤ host.patience total := by
    by_contra later
    cases late.symm.trans (before _ (not_le.mp later))
  have enough := soon.trans (Host.patience_le_pollBound exact total_exact name)
  have reads : host.clock.Follows times (2 + polls + host.busy polls) := by
    intro place below
    have busy := host.busy_mono within
    exact follows place (by omega)
  refine ⟨⟨stop, host.finished name polls⟩, polls, ?_, ?_⟩
  · exact (Host.captureWith_ok_iff found named).mpr ⟨polls, enough, before, stops, rfl, rfl⟩
  · exact Host.finished_captures reads total_exact idle_exact name before stops

theorem mixedHost_captures :
    findPort mixedHost.ports mixedSettings.name = some "USB A6" ∧ mixedHost.clock.Exact ∧
      mixedHost.clock.Follows mixedTimes 10 ∧ mixedHost.Silent mixedTimes 2 6 ∧
      ∃ capture polls,
        captureWith (fun seen data => seen ++ [data]) [] mixedHost mixedSettings =
          .ok (capture, capture.messages.foldl (fun seen data => seen ++ [data]) []) ∧
        mixedHost.Captures mixedTimes 60 2 "USB A6" polls capture := by
  have found : findPort mixedHost.ports mixedSettings.name = some "USB A6" := by decide
  have exact : mixedHost.clock.Exact := ⟨List.forall_mem_map.mpr fun _ _ => ⟨_, rfl⟩, _, rfl⟩
  have follows : mixedHost.clock.Follows mixedTimes 10 := Clock.follows_listed rfl
  have none : ∀ later < 6, 3 < later → mixedHost.received later = [] := by decide
  have last : mixedHost.Latest 6 3 :=
    ⟨by decide, by decide, fun later behind below => none later below behind⟩
  have silence : mixedHost.Silent mixedTimes 2 6 := ⟨3, last, by decide +kernel⟩
  exact ⟨found, exact, follows, silence,
    captures_exactly found (by decide) exact rfl rfl follows (.inr silence) _ _⟩

end Andromeda
