import SessionFleet.Heartbeat.Health
import SessionFleet.Heartbeat.Pacer
import SessionFleet.Wire.Event
import SessionFleet.Wire.Outbound
/- One shard's conversation with the gateway, across all its sockets. -/
namespace SessionFleet

/-- Where a shard stands: no socket, a socket that has not greeted, identifying or resuming, at
    work, or about to drop the socket. -/
inductive Phase where
  | disconnected
  | handshaking
  | identifying
  | connected
  | reconnecting
  deriving DecidableEq, Repr, Inhabited

/-- Why a socket is given up. -/
inductive Disruption where
  | reconnectRequested
  | invalidSession (resumable : Bool)
  | ackMissed
  | badHello
  deriving DecidableEq, Repr

structure Session where
  shard : Shard
  phase : Phase
  /-- the session that can be resumed -/
  sessionId : Option String
  /-- the last sequence number seen -/
  sequence : Option Nat
  user : Option Account
  application : Option Application
  health : Health
  pacer : Pacer
  /-- which schedule the pacer runs: one more with every greeting -/
  generation : Nat
  deriving DecidableEq, Repr, Inhabited

/-- What the owner of the socket is asked to do. -/
inductive Effect where
  | identify
  | resume (id : String) (sequence : Option Nat)
  | heartbeat (sequence : Option Nat)
  | reconnect (code : CloseCode) (delay : Span)
  | deliver (event : Event)
  | latency (time : Span)
  | disrupted (why : Disruption)
  deriving DecidableEq, Repr

namespace Session

def start (shard : Shard) : Session :=
  ⟨shard, .disconnected, none, none, none, none, Health.start, Pacer.idle, 0⟩

def hasSession (s : Session) : Bool := s.sessionId.isSome

/-- The generation of the ticks that fall due until an instant, and the session after them. -/
def elapse (s : Session) (now until_ : Instant) : List Nat × Session :=
  let (beats, pacer) := s.pacer.run now until_
  let ticks := beats.filterMap fun
    | .begun _ => some s.generation
    | .ended _ => none
  (ticks, { s with pacer })

end Session
end SessionFleet
