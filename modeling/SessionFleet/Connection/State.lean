import SessionFleet.Session.Step
import SessionFleet.Settings.Gateway
/- One shard's connection: the sockets that it opens one after the other, the waits before them, and
   what it tells the outside. -/
namespace SessionFleet

/-- How a connection ends for good. -/
inductive Ending where
  /-- it was told to stop -/
  | told
  | gaveUp (error : FleetError)
  /-- the handler failed inside the connection's own task -/
  | crashed
  deriving DecidableEq, Repr

/-- Where a connection stands. -/
inductive Stage where
  /-- it waits out the breaker -/
  | cooling
  /-- it waits before the next attempt -/
  | pausing
  /-- it waits for its turn to identify -/
  | queueing
  /-- it opens a socket -/
  | dialing
  | online
  | stopped (how : Ending)
  deriving DecidableEq, Repr

/-- What the owner of the connection asks of it.  `close` is also what it finds if nobody is left who
    could ask. -/
inductive Command where
  | send (p : Packet)
  | reconnect
  | close
  deriving DecidableEq, Repr

/-- What the session has queued for the socket. -/
inductive Order where
  | send (p : Packet)
  | reconnect (code : CloseCode) (delay : Span)
  deriving DecidableEq, Repr

/-- What comes in on a socket. -/
inductive Incoming where
  | text (s : String)
  | binary
  | ping (data : List UInt8)
  | pong
  | close
  | broken (detail : String)
  | ended
  deriving DecidableEq, Repr

/-- What goes out on a socket. -/
inductive Frame where
  | packet (p : Packet)
  | pong (data : List UInt8)
  | close (code : CloseCode)
  deriving DecidableEq, Repr

/-- What comes of an attempt to open a socket. -/
inductive Dial where
  | opened
  | failed (error : FleetError)
  | timedOut
  deriving DecidableEq, Repr

/-- What happens to a connection next. -/
inductive Stimulus where
  /-- the wait is over -/
  | timeUp
  | turn
  | dialed (d : Dial)
  | heard (m : Incoming)
  /-- the socket takes up the next order of the session -/
  | flush
  | tick (generation : Nat)
  | command (k : Command)
  deriving DecidableEq, Repr

/-- What a connection asks for, tells the handler, or leaves to be counted. -/
inductive Deed where
  | wait (delay : Span)
  | askTurn
  /-- whatever it waited for is of no concern any more -/
  | leave
  | dial
  | write (f : Frame)
  | event (e : Event)
  | phase (p : Phase)
  | latency (time : Span)
  | error (e : FleetError)
  | opened (attempt : Nat)
  | closed
  | received
  | sent
  | identified
  | resumed
  | beat
  | disrupted (why : Disruption)
  /-- the handler has dealt with an event -/
  | delivered
  | failed
  | tripped
  | retried (attempt : Nat)
  deriving DecidableEq, Repr

structure Connection where
  settings : GatewaySettings
  session : Session
  stage : Stage
  /-- the orders that the socket has not taken up, oldest first -/
  outbox : List Order
  /-- the phase that was told last -/
  reported : Phase
  /-- how many attempts have failed, apart from those that tripped the breaker -/
  attempt : Nat
  /-- how many failures have come in a row -/
  failures : Nat
  /-- no attempt has come to an end that did not trip the breaker -/
  first : Bool
  tripped : Bool
  /-- the delay that the last socket asked for -/
  requested : Option Span
  deriving DecidableEq, Repr

/-- What a step finds around it: the time and the draws, the handler's answer if it is asked, and
    whether the socket can be written. -/
structure Circumstances where
  moment : Moment
  /-- the part of the backoff that jitter leaves -/
  fraction : Binary64
  retries : Bool
  /-- whether the handler deals with an event without failing -/
  survives : Event → Bool
  writeFault : Option String

/-- A connection after a step, and what it did. -/
structure Advance where
  connection : Connection
  deeds : List Deed
  deriving DecidableEq, Repr

namespace Advance

def also (a : Advance) (f : Connection → Advance) : Advance :=
  let b := f a.connection
  ⟨b.connection, a.deeds ++ b.deeds⟩

end Advance

namespace Connection

/-- A connection without a session waits for its turn before anything else. -/
def start (settings : GatewaySettings) (shard : Shard) : Advance :=
  ⟨⟨settings, .start shard, .queueing, [], .disconnected, 0, 0, true, false, none⟩, [.askTurn]⟩

/-- Whether commands are taken up now. -/
def listens (c : Connection) : Bool :=
  match c.stage with
  | .cooling | .pausing | .queueing | .online => true
  | .dialing | .stopped _ => false

def isStopped (c : Connection) : Bool :=
  match c.stage with
  | .stopped _ => true
  | _ => false

end Connection
end SessionFleet
