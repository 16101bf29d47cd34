import SessionFleet.Session.Step
/- A session over time.  Ticks that fall due wait in line until somebody takes them; a tick that has
   been taken may be kept back and handled later. -/
namespace SessionFleet

structure SessionCourse where
  session : Session
  clock : Instant
  /-- the generations of the ticks in line, and of those kept back -/
  queued : List Nat
  held : List Nat
  /-- whether the owner of the socket is still there -/
  reachable : Bool
  deriving DecidableEq, Repr

namespace SessionCourse

def start (shard : Shard) : SessionCourse := ⟨.start shard, 0, [], [], true⟩

def act (c : SessionCourse) (i : SessionInput) : Turn × SessionCourse :=
  let t := c.session.step c.reachable (.steady c.clock) i
  (t, { c with session := t.session })

/-- Time passes in one jump. -/
def jumpTo (c : SessionCourse) (clock : Instant) : SessionCourse :=
  let (ticks, session) := c.session.elapse clock clock
  { c with session, clock, queued := c.queued ++ ticks }

def elapse (c : SessionCourse) (d : Span) : SessionCourse := c.jumpTo (c.clock + d)

/-- Nobody waits longer for a tick. -/
def patience : Span := Span.ofSeconds 86400

/-- Takes the next tick, waiting for it if there is none in line. -/
def nextTick (c : SessionCourse) : Option Nat × SessionCourse :=
  match c.queued with
  | g :: rest => (some g, { c with queued := rest })
  | [] =>
    let limit := c.clock + patience
    let clock := min limit ((c.session.pacer.wakesAt.map (max c.clock)).getD limit)
    let (ticks, session) := c.session.elapse c.clock clock
    (ticks.head?, { c with session, clock, queued := ticks.drop 1 })

def keepBack (c : SessionCourse) (generation : Nat) : SessionCourse :=
  { c with held := c.held ++ [generation] }

/-- The tick that was kept back first. -/
def release (c : SessionCourse) : Option Nat × SessionCourse := (c.held.head?, { c with held := c.held.drop 1 })

end SessionCourse
end SessionFleet
