import Andromeda.Midi.Recording
import Andromeda.Proofs.Midi.Readings

/-!
The rounds of a recording. What it is in front of each round is a function of the host and of the
number of polls behind it: one step of the loop takes each of these states to the next, so a run
comes to the first round in which it is told to stop, if it gets that far.
-/

namespace Andromeda

namespace Host

variable (host : Host)

/-- The System Exclusive messages that come with a poll. Those that waited at the port before do
not come with any. -/
def received (place : Nat) : List Bytes :=
  (host.batches.getD place []).filterMap Message.exclusive?

def heard (polls : Nat) : List Bytes := (List.range polls).flatMap host.received

def busy (polls : Nat) : Nat := (List.range polls).countP fun place => host.received place ≠ []

def quiet (polls : Nat) : Nat := (List.range polls).countP fun place => host.received place = []

def began : Time := host.clock.reading 0

/-- The reading in front of a poll. One reading was taken in front of each poll before, and one more
behind each of them that brought a message. -/
def roundTime (polls : Nat) : Time := host.clock.reading (1 + polls + host.busy polls)

def stamp (place : Nat) : Time := host.clock.reading (2 + place + host.busy place)

def latest : Nat → Time
  | 0 => host.began
  | polls + 1 => if host.received polls = [] then latest polls else host.stamp polls

def stop? (settings : CaptureSettings) (polls : Nat) : Option StopReason :=
  if ((host.roundTime polls).since host.began).exceeds settings.total.limit then some .total
  else if host.heard polls ≠ [] ∧
      ((host.roundTime polls).since (host.latest polls)).exceeds settings.idle.limit then some .idle
  else none

def recorded (name : String) (polls : Nat) : Recording where
  port := ⟨name, host.batches.drop polls, false⟩
  clock := host.clock.skip (1 + polls + host.busy polls)
  messages := (host.heard polls).toArray
  latest := host.latest polls
  clockReads := 1 + polls + host.busy polls
  sleeps := host.quiet polls

def finished (name : String) (polls : Nat) : Recording :=
  let last := (host.recorded name polls).glance.2
  { last with port := last.port.close }

theorem heard_succ (polls : Nat) :
    host.heard (polls + 1) = host.heard polls ++ host.received polls := by
  rw [heard, List.range_succ, List.flatMap_append, List.flatMap_singleton]
  rfl

theorem mem_heard {polls : Nat} {data : Bytes} (member : data ∈ host.heard polls) :
    ∃ batch ∈ host.batches, .exclusive data ∈ batch := by
  obtain ⟨place, _, received⟩ := List.mem_flatMap.mp member
  obtain ⟨message, inside, same⟩ := List.mem_filterMap.mp received
  cases message with
  | other => cases same
  | exclusive bytes =>
      cases same
      rw [List.getD_eq_getElem?_getD] at inside
      cases batch : host.batches[place]? with
      | none =>
          rw [batch] at inside
          cases inside
      | some messages =>
          rw [batch] at inside
          exact ⟨messages, List.mem_of_getElem? batch, inside⟩

theorem busy_succ (polls : Nat) :
    host.busy (polls + 1) = host.busy polls + if host.received polls = [] then 0 else 1 := by
  rw [busy, List.range_succ, List.countP_append, List.countP_singleton]
  by_cases none : host.received polls = [] <;> simp [none, busy]

theorem quiet_succ (polls : Nat) :
    host.quiet (polls + 1) = host.quiet polls + if host.received polls = [] then 1 else 0 := by
  rw [quiet, List.range_succ, List.countP_append, List.countP_singleton]
  by_cases none : host.received polls = [] <;> simp [none, quiet]

theorem quiet_add_busy (polls : Nat) : host.quiet polls + host.busy polls = polls := by
  induction polls with
  | zero => rfl
  | succ polls ih =>
      rw [quiet_succ, busy_succ]
      split <;> omega

theorem busy_mono {first second : Nat} (before : first ≤ second) :
    host.busy first ≤ host.busy second := by
  induction before with
  | refl => exact le_refl _
  | step _ ih =>
      rw [busy_succ]
      omega

theorem recorded_start (name : String) :
    Recording.start (host.openPort name) host.clock = host.recorded name 0 := rfl

theorem recorded_round (name : String) (polls : Nat) :
    (host.recorded name polls).glance.2.poll =
      (host.received polls, host.recorded name (polls + 1)) := by
  have brought : (host.batches.drop polls).headD [] = host.batches.getD polls [] := by
    rw [List.headD_eq_head?_getD, List.head?_drop, List.getD_eq_getElem?_getD]
  have glance : (host.recorded name polls).glance.2 =
      { host.recorded name polls with
        clock := host.clock.skip (1 + polls + host.busy polls + 1)
        clockReads := 1 + polls + host.busy polls + 1 } := rfl
  rw [glance]
  simp only [Recording.poll, OpenPort.poll, recorded, brought, List.tail_drop]
  rw [← received]
  -- The clock is read once more behind a poll that brings a message, and behind no other.
  by_cases none : host.received polls = []
  · have order : 1 + (polls + 1) + host.busy polls = 1 + polls + host.busy polls + 1 := by omega
    simp [none, heard_succ, busy_succ, quiet_succ, latest, order]
  · have order : 1 + (polls + 1) + (host.busy polls + 1) =
        1 + polls + host.busy polls + 1 + 1 := by omega
    have now : 2 + polls + host.busy polls = 1 + polls + host.busy polls + 1 := by omega
    simp [none, heard_succ, busy_succ, quiet_succ, latest, order, Recording.glance, stamp, now,
      Clock.reading, Clock.skip]

theorem recorded_verdict (settings : CaptureSettings) (name : String) (polls : Nat) :
    (host.recorded name polls).glance.2.verdict? settings host.began
      (host.recorded name polls).glance.1 = host.stop? settings polls := by
  have some : (host.heard polls).toArray.size ≠ 0 ↔ host.heard polls ≠ [] := by simp
  rw [Recording.verdict?, stop?]
  exact if_congr Iff.rfl rfl (if_congr (and_congr_left' some) rfl rfl)

section Runs

variable {σ : Type*} {settings : CaptureSettings} {listener : σ → Bytes → σ} {nothing told : σ}
  {name : String} {stop : StopReason} {last : Recording} {host}

/-- A run stops in the first round that tells it to, if it gets there. The induction is on the polls
that are left, and the recording is known at each of them. -/
theorem run_recorded {fuel polls : Nat} :
    Recording.run settings listener host.began fuel (host.recorded name polls)
        ((host.heard polls).foldl listener nothing) = some (stop, last, told) ↔
      ∃ final, polls ≤ final ∧ final < polls + fuel ∧
        (∀ round, polls ≤ round → round < final → host.stop? settings round = none) ∧
        host.stop? settings final = some stop ∧
        last = (host.recorded name final).glance.2 ∧
        told = (host.heard final).foldl listener nothing := by
  induction fuel generalizing polls with
  | zero =>
      rw [Recording.run]
      constructor
      · intro none
        cases none
      · rintro ⟨final, least, below, _⟩
        omega
  | succ fuel ih =>
      simp only [Recording.run, recorded_verdict, recorded_round, ← List.foldl_append,
        ← heard_succ]
      cases verdict : host.stop? settings polls with
      | some reason =>
          constructor
          · intro ended
            cases ended
            exact ⟨polls, le_refl _, by omega, by omega, verdict, rfl, rfl⟩
          · rintro ⟨final, least, below, before, stops, rfl, rfl⟩
            rcases eq_or_lt_of_le least with rfl | later
            · cases verdict.symm.trans stops
              rfl
            · cases verdict.symm.trans (before polls (le_refl _) later)
      | none =>
          rw [ih]
          constructor
          · rintro ⟨final, least, below, before, rest⟩
            refine ⟨final, by omega, by omega, ?_, rest⟩
            intro round from_here until_then
            rcases eq_or_lt_of_le from_here with rfl | later
            · exact verdict
            · exact before round later until_then
          · rintro ⟨final, least, below, before, stops, rest⟩
            have later : polls ≠ final := by
              rintro rfl
              cases verdict.symm.trans stops
            exact ⟨final, by omega, by omega, fun round least => before round (by omega), stops,
              rest⟩

theorem run_listener (settings : CaptureSettings) (listener : σ → Bytes → σ) (start : Time)
    (fuel : Nat) (recording : Recording) (heard : σ) :
    (Recording.run settings listener start fuel recording heard).map
        (fun ended => (ended.1, ended.2.1)) =
      (Recording.run settings (fun _ _ => ()) start fuel recording ()).map
        fun ended => (ended.1, ended.2.1) := by
  induction fuel generalizing recording heard with
  | zero => rfl
  | succ fuel ih =>
      simp only [Recording.run]
      cases recording.glance.2.verdict? settings start recording.glance.1 with
      | some stop => rfl
      | none => exact ih ..

theorem captureWith_found (found : findPort host.ports settings.name = some name)
    (named : name ≠ "") :
    captureWith listener nothing host settings =
      match Recording.run settings listener host.began
          ((host.recorded name 0).pollBound settings + 1) (host.recorded name 0) nothing with
      | some (stop, recording, heard) =>
        .ok (⟨stop, { recording with port := recording.port.close }⟩, heard)
      | none => .error .endless := by
  rw [captureWith, found]
  split
  case h_1 none => cases none
  case h_2 empty => exact absurd (Option.some.inj empty) named
  case h_3 other same =>
    cases same
    simp only [recorded_start]
    rfl

theorem captureWith_capture :
    (captureWith listener nothing host settings).map Prod.fst = capture host settings := by
  rw [capture, captureWith, captureWith]
  split
  case h_1 => rfl
  case h_2 => rfl
  case h_3 name _ _ =>
    let recording := Recording.start (host.openPort name) host.clock
    have same := run_listener settings listener recording.latest (recording.pollBound settings + 1)
      recording nothing
    dsimp only [recording] at same ⊢
    generalize Recording.run settings listener _ _ _ nothing = ended at same ⊢
    generalize Recording.run settings (fun _ _ => ()) _ _ _ () = silent at same ⊢
    match ended, silent, same with
    | none, none, _ => rfl
    | some (stop, last, told), some (_, _, _), rfl => rfl

theorem captureWith_finds {capture : Capture}
    (ok : captureWith listener nothing host settings = .ok (capture, told)) :
    ∃ name, findPort host.ports settings.name = some name ∧ name ≠ "" := by
  rw [captureWith] at ok
  split at ok
  case h_1 => cases ok
  case h_2 => cases ok
  case h_3 name named found => exact ⟨name, found, named⟩

theorem captureWith_ok_iff (found : findPort host.ports settings.name = some name)
    (named : name ≠ "") {capture : Capture} :
    captureWith listener nothing host settings = .ok (capture, told) ↔
      ∃ polls ≤ (host.recorded name 0).pollBound settings,
        (∀ round < polls, host.stop? settings round = none) ∧
        host.stop? settings polls = some capture.stop ∧
        capture.recording = host.finished name polls ∧
        told = (host.heard polls).foldl listener nothing := by
  have run (stop : StopReason) (last : Recording) (told : σ) :=
    @run_recorded host σ settings listener nothing told name stop last
      ((host.recorded name 0).pollBound settings + 1) 0
  rw [captureWith_found found named]
  constructor
  · intro ended
    split at ended
    case h_2 => cases ended
    case h_1 stop last heard result =>
      cases ended
      obtain ⟨polls, _, below, before, stops, rfl, rfl⟩ := (run ..).mp result
      exact ⟨polls, by omega, fun round => before round (Nat.zero_le _), stops, rfl, rfl⟩
  · rintro ⟨polls, within, before, stops, recorded, rfl⟩
    have result := (run ..).mpr ⟨polls, Nat.zero_le _, by omega,
      fun round _ => before round, stops, rfl, rfl⟩
    rw [heard, List.range_zero, List.flatMap_nil, List.foldl_nil] at result
    rw [result]
    obtain ⟨stop, recording⟩ := capture
    cases recorded
    rfl

end Runs

end Host

def mixedTimes (place : Nat) : Rat := [3, 3, 2, 5/2, 5/2, 4, 9/2, 9/2, 13/2, 7].getD place 0

def mixedHost : Host where
  ports := ["Loopback", "USB A6"]
  pending := [.exclusive [0x00, 0x00, 0x0E, 0x1D, 0x30]]
  batches := [[.other], [.exclusive [0x7E], .other], [],
    [.exclusive [0x00, 0x00, 0x0E, 0x1D, 0x30, 0x01]]]
  clock := ⟨(List.range 10).map fun place => .exact (mixedTimes place), .exact 0⟩

def mixedSettings : CaptureSettings := ⟨some "usb", .whole 60, .whole 2⟩

theorem mixedHost_captured {σ : Type*} (listener : σ → Bytes → σ) (nothing : σ) :
    captureWith listener nothing mixedHost mixedSettings =
      .ok (⟨.idle, mixedHost.finished "USB A6" 6⟩, (mixedHost.heard 6).foldl listener nothing) :=
  (Host.captureWith_ok_iff (by decide) (by decide)).mpr
    ⟨6, by decide +kernel, by decide +kernel, by decide +kernel, rfl, rfl⟩

end Andromeda
