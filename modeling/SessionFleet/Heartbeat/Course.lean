import SessionFleet.Heartbeat.Pacer
/- A pacer over time: one schedule after the other, the calls they make, and how many of these have
   come to their end. -/
namespace SessionFleet

/-- A call that has begun: by which start, counted from 0, when, and how long after the call before
    it. -/
structure PacedCall where
  start : Nat
  at_ : Instant
  since : Option Span
  deriving DecidableEq, Repr

structure PacerCourse where
  pacer : Pacer
  clock : Instant
  starts : Nat
  /-- the last call of the schedule that runs -/
  lastCall : Option Instant
  finished : Nat
  deriving DecidableEq, Repr

namespace PacerCourse

def idle : PacerCourse := ⟨.idle, 0, 0, none, 0⟩

def note (c : PacerCourse) : List Beat → List PacedCall × PacerCourse
  | [] => ([], c)
  | .ended _ :: rest => note { c with finished := c.finished + 1 } rest
  | .begun t :: rest =>
    let call : PacedCall := ⟨c.starts - 1, t, c.lastCall.map fun s => (t - s).toNat⟩
    let (more, c) := note { c with lastCall := some t } rest
    (call :: more, c)

def runTo (c : PacerCourse) (until_ : Instant) : List PacedCall × PacerCourse :=
  let (beats, pacer) := c.pacer.run c.clock until_
  note { c with pacer, clock := until_ } beats

def elapse (c : PacerCourse) (d : Span) : List PacedCall × PacerCourse := c.runTo (c.clock + d)

/-- Stopping takes as long as the call that is going on. -/
def stop (c : PacerCourse) : PacerCourse :=
  let busy := (c.pacer.schedule.bind (·.busyUntil)).isSome
  { c with
    pacer := c.pacer.stop
    clock := c.pacer.stopsAt c.clock
    finished := if busy then c.finished + 1 else c.finished }

/-- Stops what was there and starts anew, with the first call after a delay. -/
def startAfter (c : PacerCourse) (interval first : Span) (callback : Callback) : PacerCourse :=
  let c := c.stop
  { c with
    pacer := c.pacer.start interval first callback c.clock
    starts := c.starts + 1
    lastCall := none }

def start (c : PacerCourse) (interval : Span) (callback : Callback) (draw : Fin Pacer.parts) : PacerCourse :=
  c.startAfter interval (Pacer.firstDelay interval draw) callback

/-- Runs until a call begins.  Between two calls the pacer wakes at most once, to end the first. -/
def awaitCall (c : PacerCourse) : Nat → List PacedCall × PacerCourse
  | 0 => ([], c)
  | tries + 1 =>
    match c.pacer.wakesAt with
    | none => ([], c)
    | some t =>
      let (calls, c) := c.runTo (max c.clock t)
      if calls.isEmpty then awaitCall c tries else (calls, c)

def nextCall (c : PacerCourse) : List PacedCall × PacerCourse := c.awaitCall 3

end PacerCourse
end SessionFleet
