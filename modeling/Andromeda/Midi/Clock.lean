import Andromeda.Number.Shortest

namespace Andromeda

/-- A time in seconds. Exact times are calculated with exactly; a binary number, and whatever
is calculated from one, is rounded to the nearest binary number. -/
inductive Time where
  | exact (seconds : Rat)
  | rounded (seconds : Binary64)
  deriving DecidableEq

def Time.binary : Time → Binary64
  | .exact seconds => .ofExact seconds
  | .rounded seconds => seconds

def Time.value? : Time → Option Rat
  | .exact seconds => some seconds
  | .rounded seconds => seconds.value?

def Time.value (time : Time) : Rat := time.value?.getD 0

def Time.since : Time → Time → Time
  | .exact now, .exact start => .exact (now - start)
  | now, start => .rounded (now.binary.add start.binary.negate)

def Time.next : Time → Time
  | .exact seconds => .exact (seconds + 1)
  | .rounded seconds => .rounded (seconds.add (.ofExact 1))

/-- Whether a time is greater than a limit. Nothing compares with what is not a number. -/
def Time.exceeds (time limit : Time) : Bool :=
  match time.value?, limit.value? with
  | some seconds, some most => most < seconds
  | some _, none => limit = .rounded (.infinite true)
  | none, some _ => time = .rounded (.infinite false)
  | none, none => time = .rounded (.infinite false) && limit = .rounded (.infinite true)

structure Clock where
  /-- Readings to come. When they are used up, every further one is one later than the last. -/
  upcoming : List Time
  last : Time

def Clock.read (clock : Clock) : Time × Clock :=
  match clock.upcoming with
  | reading :: upcoming => (reading, ⟨upcoming, reading⟩)
  | [] => (clock.last.next, ⟨[], clock.last.next⟩)

def Clock.final (clock : Clock) : Time := clock.upcoming.getLastD clock.last

def later (first second : Rat) : Rat := if first < second then second else first

def Clock.latest (clock : Clock) : Rat :=
  clock.upcoming.foldl (fun latest reading => later latest reading.value) clock.last.value

structure Timeout where
  limit : Time
  text : String

def Timeout.whole (seconds : Int) : Timeout := ⟨.exact seconds, s!"{seconds}"⟩

def Timeout.real (seconds : Binary64) : Timeout := ⟨.rounded seconds, seconds.text⟩

/-- A number of seconds after which a limit is exceeded, counted from `start`, if it ever is.
It leaves room for the rounding of the limit and for a clock that goes on by half seconds. -/
def Timeout.patience (timeout : Timeout) (start now : Rat) : Nat :=
  match timeout.limit.value? with
  | none => 0
  | some limit =>
    let span := if limit < 0 then -limit else limit
    (2 * (start + 2 * span + 1 - now)).floor.toNat

end Andromeda
