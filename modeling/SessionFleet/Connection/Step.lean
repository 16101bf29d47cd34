import SessionFleet.Connection.State
import SessionFleet.Wire.Address
/- The steps of a connection.

   A round leads to one attempt: first it waits out the breaker if it is open, then the delay that
   was asked for or the backoff, then for a turn to identify if there is no session to resume.  A
   socket that comes to a regular end starts the counts again; an attempt that fails, or a socket
   that does, adds to them. -/
namespace SessionFleet
namespace Connection

/-- Where the gateway is, or why it cannot be reached under the address of the settings. -/
def target (c : Connection) : Except FleetError Url :=
  match gatewayUrl c.settings.gatewayUrl with
  | .error f => .error (.ofSettings (.badUrl "gateway_url" f))
  | .ok u => if u.hostText.isSome then .ok u else .error (.connectionFailed 0 "No host in URL")

def stop (how : Ending) (c : Connection) : Advance := ⟨{ c with stage := .stopped how }, []⟩

def dial (c : Connection) : Advance := ⟨{ c with stage := .dialing }, [.dial]⟩

/-- Only a new session needs a turn. -/
def approach (c : Connection) : Advance :=
  if c.session.hasSession then c.dial else ⟨{ c with stage := .queueing }, [.askTurn]⟩

/-- A delay that was asked for replaces the backoff, once. -/
def delay (s : Circumstances) (c : Connection) : Span :=
  c.requested.getD (if c.first then 0 else c.settings.backoff.delay c.attempt s.fraction)

def pause (s : Circumstances) (c : Connection) : Advance :=
  let d := c.delay s
  let c := { c with requested := none }
  if d = 0 then c.approach else ⟨{ c with stage := .pausing }, [.wait d]⟩

def closeBreaker (c : Connection) : Connection := { c with tripped := false, failures := 0 }

def round (s : Circumstances) (c : Connection) : Advance :=
  if !c.tripped then c.pause s
  else
    let d := c.settings.connection.breakerResetTimeout
    if d = 0 then c.closeBreaker.pause s else ⟨{ c with stage := .cooling }, [.wait d]⟩

/-- The next round, after an attempt that did not trip the breaker. -/
def again (s : Circumstances) (c : Connection) : Advance :=
  Advance.also ⟨{ c with first := false }, [.retried c.attempt]⟩ fun c => c.round s

/-- A failure that trips the breaker does not count as an attempt. -/
def fail (s : Circumstances) (e : FleetError) (c : Connection) : Advance :=
  let c := { c with failures := c.failures + 1 }
  if c.settings.connection.breakerThreshold ≤ c.failures then
    let open_ := FleetError.breakerOpen c.failures
    Advance.also ⟨{ c with tripped := s.retries }, [.failed, .tripped, .error open_]⟩ fun c =>
      if s.retries then c.round s else c.stop (.gaveUp open_)
  else
    Advance.also ⟨{ c with attempt := if s.retries then c.attempt + 1 else c.attempt }, [.failed, .error e]⟩
      fun c =>
        if !s.retries then c.stop (.gaveUp e)
        else if c.settings.connection.maxConnectAttempts ≤ c.attempt then
          c.stop (.gaveUp (.connectionFailed c.attempt e.message))
        else c.again s

/-- Tells the session's phase if it is another one than last time. -/
def report (c : Connection) : Advance :=
  if c.stage = .online && c.session.phase ≠ c.reported then
    ⟨{ c with reported := c.session.phase }, [.phase c.session.phase]⟩
  else ⟨c, []⟩

def queue (o : Order) (c : Connection) : Connection := { c with outbox := c.outbox ++ [o] }

/-- Hands an event to the handler.  If the handler fails, the event is lost; in low-latency mode the
    connection fails with it. -/
def deliver (s : Circumstances) (e : Event) (c : Connection) : Advance :=
  if s.survives e then ⟨c, [.event e, .delivered]⟩
  else if c.settings.connection.lowLatency then
    ⟨{ c with stage := .stopped .crashed }, [.event e, .failed]⟩
  else ⟨c, [.event e, .failed]⟩

/-- Carries out what the session asks for. -/
def carryOut (s : Circumstances) (c : Connection) : Effect → Advance
  | .identify =>
    ⟨c.queue (.send (.identify c.settings.token c.settings.intents c.session.shard)), [.identified]⟩
  | .resume id sequence => ⟨c.queue (.send (.resume c.settings.token id sequence)), [.resumed]⟩
  | .heartbeat sequence => ⟨c.queue (.send (.heartbeat sequence)), [.beat]⟩
  | .reconnect code delay => ⟨c.queue (.reconnect code delay), []⟩
  | .deliver e => c.deliver s e
  | .latency time => ⟨c, [.latency time]⟩
  | .disrupted why => ⟨c, [.disrupted why]⟩

def carryOutAll (s : Circumstances) : List Effect → Connection → Advance
  | [], c => ⟨c, []⟩
  | e :: rest, c => (c.carryOut s e).also (carryOutAll s rest)

/-- A step of the session.  While the connection lives its session can always reach it. -/
def converse (s : Circumstances) (i : SessionInput) (c : Connection) : Advance :=
  let t := c.session.step true s.moment i
  (carryOutAll s t.effects { c with session := t.session }).also report

/-- Why a socket is left. -/
inductive Parting where
  | told
  | reconnect (delay : Span)
  | lost
  | failed (error : FleetError)
  deriving DecidableEq, Repr

def restartCounts (c : Connection) : Connection := { c with attempt := 0, failures := 0 }

/-- Leaves the socket, whatever the reason, and goes on from there. -/
def part (s : Circumstances) (why : Parting) (c : Connection) : Advance :=
  (c.converse s .closed).also fun c => Advance.also ⟨c, [.closed]⟩ fun c =>
    match why with
    | .told => c.stop .told
    | .lost => c.restartCounts.again s
    | .reconnect d => { c.restartCounts with requested := some d }.again s
    | .failed e => c.fail s e

/-- A socket that cannot be written is left. -/
def writePacket (s : Circumstances) (p : Packet) (c : Connection) : Advance :=
  match s.writeFault with
  | none => ⟨c, [.write (.packet p), .sent]⟩
  | some why => c.part s (.failed (.webSocket why))

/-- Closes the socket and leaves it, also if the close cannot be written. -/
def hangUp (s : Circumstances) (code : CloseCode) (why : Parting) (c : Connection) : Advance :=
  Advance.also ⟨c, if s.writeFault.isSome then [] else [.write (.close code)]⟩ (part s why)

/-- Text that is no packet, binary frames and pongs are passed over. -/
def hear (s : Circumstances) (c : Connection) : Incoming → Advance
  | .text t => Advance.also ⟨c, [.received]⟩ fun c =>
    match Packet.ofText t with
    | .ok p => c.converse s (.frame p)
    | .error _ => ⟨c, []⟩
  | .ping data =>
    match s.writeFault with
    | none => ⟨c, [.write (.pong data)]⟩
    | some why => c.part s (.failed (.webSocket why))
  | .binary | .pong => ⟨c, []⟩
  | .close | .ended => c.part s .lost
  | .broken why => c.part s (.failed (.webSocket why))

def flush (s : Circumstances) (c : Connection) : Advance :=
  match c.outbox with
  | [] => ⟨c, []⟩
  | .send p :: rest => { c with outbox := rest }.writePacket s p
  | .reconnect code d :: rest => { c with outbox := rest }.hangUp s code (.reconnect d)

def obey (s : Circumstances) (c : Connection) : Command → Advance
  | .send p => c.writePacket s p
  | .reconnect => c.hangUp s .resumable (.reconnect 0)
  | .close => c.hangUp s .normal .told

/-- Without a socket only the command to stop counts. -/
def obeyIdle (c : Connection) : Command → Advance
  | .send _ | .reconnect => ⟨c, []⟩
  | .close => Advance.also ⟨c, [.leave]⟩ (stop .told)

/-- A new socket takes up no order that was meant for an earlier one. -/
def enter (s : Circumstances) (c : Connection) : Advance :=
  Advance.also ⟨{ c with stage := .online, outbox := [] }, [.opened c.attempt]⟩ (converse s .opened)

/-- The attempt fails under an address that cannot be used, whatever comes of it otherwise. -/
def dialed (s : Circumstances) (c : Connection) (d : Dial) : Advance :=
  match c.target with
  | .error e => c.fail s e
  | .ok _ =>
    match d with
    | .opened => c.enter s
    | .failed e => c.fail s e
    | .timedOut => c.fail s (.connectionFailed 0 "Connection timeout")

/-- What does not concern the stage changes nothing. -/
def step (s : Circumstances) (c : Connection) (i : Stimulus) : Advance :=
  match c.stage, i with
  | .cooling, .timeUp => c.closeBreaker.pause s
  | .pausing, .timeUp => c.approach
  | .queueing, .turn => c.dial
  | .dialing, .dialed d => c.dialed s d
  | .online, .heard m => c.hear s m
  | .online, .flush => c.flush s
  | .online, .tick g => c.converse s (.tick g)
  | .online, .command k => c.obey s k
  | .cooling, .command k | .pausing, .command k | .queueing, .command k => c.obeyIdle k
  | _, _ => ⟨c, []⟩

def run (c : Connection) : List (Circumstances × Stimulus) → Advance
  | [] => ⟨c, []⟩
  | (s, i) :: rest => (c.step s i).also fun c => c.run rest

end Connection
end SessionFleet
