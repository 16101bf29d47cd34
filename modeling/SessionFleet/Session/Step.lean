import SessionFleet.Session.State
import SessionFleet.Error
/- The steps of a shard's conversation.

   A step tells the owner of the socket what to do by a list of effects.  If the owner is gone, the
   first effect that has to reach it ends the step; that the socket is given up is still noted. -/
namespace SessionFleet

inductive SessionInput where
  | opened
  | closed
  | frame (p : Packet)
  /-- a tick of the schedule of some generation -/
  | tick (generation : Nat)
  deriving DecidableEq, Repr

/-- The time of a step, and what it draws if it has to. -/
structure Moment where
  now : Instant
  /-- for the first heartbeat of a schedule -/
  beat : Fin Pacer.parts
  /-- for the wait after a session was refused, in milliseconds beyond the shortest -/
  wait : Fin 4000

/-- A moment that draws what is typical for a first heartbeat, and the shortest wait. -/
def Moment.steady (now : Instant) : Moment := ⟨now, Pacer.typical, ⟨0, by decide⟩⟩

structure Turn where
  session : Session
  effects : List Effect
  /-- whether every effect that had to reach the owner did -/
  reached : Bool
  deriving DecidableEq, Repr

namespace Session

/-- The wait before a reconnection that the server asks for. -/
def requestedDelay : Span := Span.ofSeconds 1

/-- The wait after a session was refused: at least one second, less than five. -/
def refusedDelay (m : Moment) : Span := Span.ofMillis (1000 + m.wait.val)

def silent (s : Session) : Turn := ⟨s, [], true⟩

/-- An effect that fails if the owner is gone; `after` happens only if it does not. -/
def calling (reachable : Bool) (s : Session) (e : Effect) (after : Session → Session) : Turn :=
  if reachable then ⟨after s, [e], true⟩ else ⟨s, [], false⟩

/-- An effect that cannot fail. -/
def telling (reachable : Bool) (s : Session) (e : Effect) : Turn :=
  ⟨s, if reachable then [e] else [], true⟩

def giveUp (reachable : Bool) (s : Session) (why : Disruption) (code : CloseCode) (delay : Span) : Turn :=
  let t := calling reachable { s with phase := .reconnecting } (.reconnect code delay) id
  { t with effects := .disrupted why :: t.effects }

/-- A greeting starts a new schedule, then resumes the session if there is one. -/
def greeted (reachable : Bool) (m : Moment) (s : Session) (interval : Nat) : Turn :=
  if interval = 0 then giveUp reachable s .badHello .protocolError 0
  else
    let span := Span.ofMillis interval
    let s := { s with
      health := s.health.reset
      generation := s.generation + 1
      pacer := s.pacer.start span (Pacer.firstDelay span m.beat) (.takes 0) m.now
      phase := .identifying }
    match s.sessionId with
    | some name => calling reachable s (.resume name s.sequence) id
    | none => calling reachable s .identify id

/-- A session that cannot be resumed is forgotten together with its sequence number.  A normal
    close would make the server discard a session that can. -/
def refused (reachable : Bool) (m : Moment) (s : Session) (resumable : Bool) : Turn :=
  if resumable then giveUp reachable s (.invalidSession true) .resumable (refusedDelay m)
  else
    giveUp reachable { s with sessionId := none, sequence := none } (.invalidSession false) .normal
      (refusedDelay m)

/-- What an event changes before it is delivered; nothing if it goes no further. -/
def absorb (s : Session) : Event → Option Session
  | .ready r =>
    some { s with
      sessionId := some r.session
      user := some r.user
      application := r.application
      phase := .connected }
  | .resumed => some { s with phase := .connected }
  | .unrecognized _ => none
  | .passed _ _ => some s

/-- The sequence number counts whatever becomes of the event. -/
def dispatched (reachable : Bool) (s : Session) (p : Packet) : Turn :=
  let s := { s with sequence := p.s.or s.sequence }
  match p.t with
  | none => silent s
  | some name =>
    match Event.decode name p.payload with
    | .error _ => silent s
    | .ok e =>
      match s.absorb e with
      | none => silent s
      | some s => telling reachable s (.deliver e)

def answered (reachable : Bool) (m : Moment) (s : Session) : Turn :=
  let s := { s with health := s.health.ack m.now }
  match s.health.latency with
  | none => silent s
  | some time => telling reachable s (.latency time)

/-- Frames that only clients send, and greetings that cannot be read, change nothing. -/
def framed (reachable : Bool) (m : Moment) (s : Session) (p : Packet) : Turn :=
  match p.op with
  | .hello =>
    match Hello.ofJson p.payload with
    | .error _ => silent s
    | .ok h => greeted reachable m s h.heartbeatInterval
  | .heartbeat =>
    calling reachable s (.heartbeat s.sequence) fun s => { s with health := s.health.requestedSent m.now }
  | .heartbeatAck => answered reachable m s
  | .reconnect => giveUp reachable s .reconnectRequested .resumable requestedDelay
  | .invalidSession =>
    match p.payload.asBool with
    | .ok resumable => refused reachable m s resumable
    | .error _ => refused reachable m s false
  | .dispatch => dispatched reachable s p
  | .identify | .presenceUpdate | .voiceStateUpdate | .resume | .requestGuildMembers => silent s

/-- A tick counts only if its schedule runs and the socket is neither gone nor given up. -/
def accepts (s : Session) (generation : Nat) : Bool :=
  generation = s.generation && s.pacer.isRunning && s.phase ≠ .reconnecting && s.phase ≠ .disconnected

def ticked (reachable : Bool) (m : Moment) (s : Session) (generation : Nat) : Turn :=
  if !s.accepts generation then silent s
  else if s.health.overdue then giveUp reachable s .ackMissed .protocolError 0
  else calling reachable s (.heartbeat s.sequence) fun s => { s with health := s.health.sent m.now }

def step (reachable : Bool) (m : Moment) (s : Session) : SessionInput → Turn
  | .opened => silent { s with phase := .handshaking }
  | .closed =>
    silent { s with pacer := s.pacer.stop, health := s.health.clearLatency, phase := .disconnected }
  | .frame p => framed reachable m s p
  | .tick generation => ticked reachable m s generation

end Session
end SessionFleet
