import SessionFleet.Time.Calendar
/- A timer that calls back again and again: first after a delay that differs from shard to shard, so
   that shards started together do not beat together, then once per interval.

   A callback is never cut short.  One that outlasts its interval puts off the calls after it. -/
namespace SessionFleet

/-- What a callback does: it takes its time, or it fails and ends the schedule. -/
inductive Callback where
  | takes (time : Span)
  | fails
  deriving DecidableEq, Repr, Inhabited

structure Schedule where
  interval : Span
  callback : Callback
  /-- when the next call is due -/
  due : Instant
  /-- the end of the call that is going on -/
  busyUntil : Option Instant
  failed : Bool
  deriving DecidableEq, Repr, Inhabited

/-- A call begins, or a call has come to its end. -/
inductive Beat where
  | begun (at_ : Instant)
  | ended (at_ : Instant)
  deriving DecidableEq, Repr

namespace Schedule

/-- A call that begins by more than this too late moves the calls after it. -/
def tolerance : Span := Span.ofMillis 5

/-- A schedule without an interval fails before its first call. -/
def starting (interval first : Span) (callback : Callback) (now : Instant) : Schedule :=
  ⟨interval, callback, now + first, none, interval = 0⟩

/-- When the schedule acts next. -/
def wakesAt (s : Schedule) : Option Instant :=
  if s.failed then none
  else match s.busyUntil with
    | some t => some t
    | none => some (Instant.ceilMillis s.due)

/-- When the call after one that begins now is due. -/
def dueAfter (s : Schedule) (now : Instant) : Instant :=
  if s.due + tolerance < now then now + s.interval else s.due + s.interval

def begin (s : Schedule) (now : Instant) : List Beat × Schedule :=
  let s := { s with due := s.dueAfter now }
  match s.callback with
  | .fails => ([.begun now], { s with failed := true })
  | .takes 0 => ([.begun now, .ended now], s)
  | .takes time => ([.begun now], { s with busyUntil := some (Instant.ceilMillis (now + time)) })

/-- The schedule acts: a call that goes on ends, else the next one begins. -/
def wake (s : Schedule) (now : Instant) : List Beat × Schedule :=
  if s.busyUntil.isSome then ([.ended now], { s with busyUntil := none }) else s.begin now

/-- Acts whenever it is due until an instant, never before `now`. -/
def run (s : Schedule) (now until_ : Instant) : Nat → List Beat × Schedule
  | 0 => ([], s)
  | fuel + 1 =>
    match s.wakesAt with
    | none => ([], s)
    | some t =>
      if until_ < t then ([], s)
      else
        let (beats, s) := s.wake (max now t)
        let (more, s) := s.run (max now t) until_ fuel
        (beats ++ more, s)

/-- Every call and its end, as often as the interval fits into the time. -/
def enough (s : Schedule) (until_ : Instant) : Nat :=
  2 * ((until_ - s.due).toNat / s.interval + 2)

end Schedule

/-- At most one schedule is kept. -/
structure Pacer where
  schedule : Option Schedule
  deriving DecidableEq, Repr, Inhabited

namespace Pacer

def idle : Pacer := ⟨none⟩

def isRunning (p : Pacer) : Bool := p.schedule.isSome

def interval? (p : Pacer) : Option Span := p.schedule.map (·.interval)

/-- When a stop that is asked for now is done: after the call that is going on. -/
def stopsAt (p : Pacer) (now : Instant) : Instant :=
  ((p.schedule.bind (·.busyUntil)).map (max now)).getD now

/-- No call of the schedule begins after this. -/
def stop (_ : Pacer) : Pacer := idle

/-- Replaces the schedule that was there. -/
def start (_ : Pacer) (interval first : Span) (callback : Callback) (now : Instant) : Pacer :=
  ⟨some (Schedule.starting interval first callback now)⟩

def wakesAt (p : Pacer) : Option Instant := p.schedule.bind (·.wakesAt)

def run (p : Pacer) (now until_ : Instant) : List Beat × Pacer :=
  match p.schedule with
  | none => ([], p)
  | some s =>
    let (beats, s) := s.run now until_ (s.enough until_)
    (beats, ⟨some s⟩)

/-- The parts that a draw tells apart. -/
def parts : Nat := Nat.pow 2 53

/-- A draw near the middle that leaves hardly any delay a whole number of milliseconds. -/
def typical : Fin parts := ⟨Nat.pow 2 52 + 123456789012345, by decide⟩

/-- The first delay of a schedule, between 5 and 95 hundredths of its interval: `draw` of the equal
    parts between them. -/
def firstDelay (interval : Span) (draw : Fin parts) : Span :=
  interval * (5 * parts + 90 * draw.val) / (100 * parts)

end Pacer
end SessionFleet
