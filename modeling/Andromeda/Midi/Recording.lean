import Andromeda.Frame.Pass
import Andromeda.Midi.Clock
import Andromeda.Midi.Message
import Andromeda.Midi.Port
import Andromeda.Text.Quoted

/-!
Recording System Exclusive messages from an input port. Nothing marks the end of an update,
so a capture stops when it has taken too long in all, or when no message has come for a
while after the first.
-/

namespace Andromeda

/-- The input ports of a machine, what waits at the port that is opened, what each poll of it
then brings, and the clock. -/
structure Host where
  ports : List String
  pending : List Message
  batches : List (List Message)
  clock : Clock

/-- Opens a port. What waits there is what the first poll brings. -/
def Host.openPort (host : Host) (name : String) : OpenPort :=
  ⟨name, host.pending :: host.batches, false⟩

structure CaptureSettings where
  name : Option String
  total : Timeout
  idle : Timeout

def CaptureSettings.defaultTotal : Timeout := ⟨.exact 60, "60.0"⟩

def CaptureSettings.defaultIdle : Timeout := ⟨.exact 5, "5.0"⟩

inductive StopReason where
  | total
  | idle
  deriving DecidableEq, Repr

structure Recording where
  port : OpenPort
  clock : Clock
  messages : Array Bytes
  latest : Time
  clockReads : Nat
  sleeps : Nat

/-- A recording that begins now. What waited at the port before is not part of it. -/
def Recording.start (port : OpenPort) (clock : Clock) : Recording :=
  let (_, port) := port.poll
  let (now, clock) := clock.read
  ⟨port, clock, #[], now, 1, 0⟩

def Recording.glance (recording : Recording) : Time × Recording :=
  let (now, clock) := recording.clock.read
  (now, { recording with clock, clockReads := recording.clockReads + 1 })

/-- Takes what the port brings next. Only System Exclusive messages count as activity. -/
def Recording.poll (recording : Recording) : List Bytes × Recording :=
  let (brought, port) := recording.port.poll
  let received := brought.filterMap Message.exclusive?
  let recording := { recording with port, messages := recording.messages ++ received }
  if received.isEmpty then (received, { recording with sleeps := recording.sleeps + 1 })
  else
    let (now, recording) := recording.glance
    (received, { recording with latest := now })

def Recording.verdict? (settings : CaptureSettings) (start now : Time) (recording : Recording) :
    Option StopReason :=
  if (now.since start).exceeds settings.total.limit then some .total
  else if recording.messages.size ≠ 0 ∧
      (now.since recording.latest).exceeds settings.idle.limit then some .idle
  else none

/-- Polls until a limit is passed. The listener hears of every message as it comes. -/
def Recording.run (settings : CaptureSettings) (listener : σ → Bytes → σ) (start : Time) :
    Nat → Recording → σ → Option (StopReason × Recording × σ)
  | 0, _, _ => none
  | polls + 1, recording, heard =>
    let (now, recording) := recording.glance
    match recording.verdict? settings start now with
    | some stop => some (stop, recording, heard)
    | none =>
      let (received, recording) := recording.poll
      run settings listener start polls recording (received.foldl listener heard)

/-- A number of polls that no recording which ends goes beyond. Each poll uses up a batch or a
reading to come, or brings the clock closer to a limit: to the total one, counted from the
start, or to the idle one, counted from the latest reading that a batch can still bring. -/
def Recording.pollBound (settings : CaptureSettings) (recording : Recording) : Nat :=
  let clock := recording.clock
  let now := clock.final.value
  let reads := 2 * recording.port.batches.length + clock.upcoming.length + 1
  reads + settings.total.patience recording.latest.value now +
    settings.idle.patience (later clock.latest (now + 2 * reads)) now

structure Capture where
  stop : StopReason
  recording : Recording

def Capture.port (capture : Capture) : String := capture.recording.port.name

inductive CaptureError where
  | portNotFound (name : Option String)
  | endless
  deriving DecidableEq, Repr

def CaptureError.message : CaptureError → String
  | .portNotFound name =>
    let wanted := (name.map quoted).getD "None"
    s!"No MIDI input port found matching {wanted}"
  | .endless => "No limit ends the capture"

def captureWith (listener : σ → Bytes → σ) (heard : σ) (host : Host)
    (settings : CaptureSettings) : Except CaptureError (Capture × σ) :=
  match findPort host.ports settings.name with
  | none | some "" => .error (.portNotFound settings.name)
  | some name =>
    let recording := Recording.start (host.openPort name) host.clock
    let most := recording.pollBound settings
    match recording.run settings listener recording.latest (most + 1) heard with
    | some (stop, recording, heard) =>
      .ok (⟨stop, { recording with port := recording.port.close }⟩, heard)
    | none => .error .endless

def capture (host : Host) (settings : CaptureSettings) : Except CaptureError Capture :=
  (captureWith (fun _ _ => ()) () host settings).map Prod.fst

def Capture.messages (capture : Capture) : List Bytes := capture.recording.messages.toList

def Capture.messageCount (capture : Capture) : Nat := capture.recording.messages.size

def Capture.data (capture : Capture) : Bytes := capture.messages.flatMap exclusiveBytes

def Capture.updateFrames (capture : Capture) : Nat :=
  (frames .update capture.data).length

def listeningRecord (port : String) : LogRecord := ⟨.info, s!"Listening on {port}"⟩

def stopRecord (settings : CaptureSettings) : StopReason → LogRecord
  | .total =>
    let seconds := settings.total.text
    ⟨.info, s!"Total timeout ({seconds}s) reached"⟩
  | .idle =>
    let seconds := settings.idle.text
    ⟨.info, s!"Idle timeout ({seconds}s) reached"⟩

def Capture.closingRecords (settings : CaptureSettings) (capture : Capture) : List LogRecord :=
  stopRecord settings capture.stop :: (pass .update capture.data none).map Segment.record

end Andromeda
