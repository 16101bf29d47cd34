import SessionFleet.Connection.State
/- What is counted: totals of the whole fleet, and a gauge for every shard that was ever started. -/
namespace SessionFleet

structure Counters where
  connections : Nat := 0
  reconnections : Nat := 0
  framesReceived : Nat := 0
  framesSent : Nat := 0
  errors : Nat := 0
  identifies : Nat := 0
  resumes : Nat := 0
  heartbeatsSent : Nat := 0
  heartbeatAcks : Nat := 0
  heartbeatFailures : Nat := 0
  invalidSessions : Nat := 0
  serverReconnects : Nat := 0
  eventsDispatched : Nat := 0
  breakerTrips : Nat := 0
  deriving DecidableEq, Repr

structure Gauge where
  shard : Nat
  phase : Phase := .disconnected
  isConnected : Bool := false
  latency : Option Span := none
  events : Nat := 0
  attempt : Nat := 0
  connectedAt : Option Instant := none
  lastEventAt : Option Instant := none
  uptime : Span := 0
  deriving DecidableEq, Repr

structure Metrics where
  counters : Counters := {}
  /-- by ascending shard -/
  gauges : List Gauge := []
  deriving DecidableEq, Repr

/-- A gauge as it stands at some instant. -/
structure GaugeReading where
  gauge : Gauge
  sinceConnected : Option Span
  sinceEvent : Option Span
  deriving DecidableEq, Repr

/-- All that is counted, as it stands at some instant. -/
structure Snapshot where
  counters : Counters
  /-- how many shards have an open socket -/
  active : Nat
  shards : List GaugeReading
  deriving DecidableEq, Repr

namespace Counters

/-- A greeting that cannot be used counts as an error, not as a missed heartbeat. -/
def disrupted (c : Counters) : Disruption → Counters
  | .reconnectRequested => { c with serverReconnects := c.serverReconnects + 1 }
  | .invalidSession _ => { c with invalidSessions := c.invalidSessions + 1 }
  | .ackMissed => { c with heartbeatFailures := c.heartbeatFailures + 1 }
  | .badHello => { c with errors := c.errors + 1 }

def record (c : Counters) : Deed → Counters
  | .opened _ => { c with connections := c.connections + 1 }
  | .received => { c with framesReceived := c.framesReceived + 1 }
  | .sent => { c with framesSent := c.framesSent + 1 }
  | .identified => { c with identifies := c.identifies + 1 }
  | .resumed => { c with resumes := c.resumes + 1 }
  | .beat => { c with heartbeatsSent := c.heartbeatsSent + 1 }
  | .latency _ => { c with heartbeatAcks := c.heartbeatAcks + 1 }
  | .disrupted why => c.disrupted why
  | .delivered => { c with eventsDispatched := c.eventsDispatched + 1 }
  | .failed => { c with errors := c.errors + 1 }
  | .tripped => { c with breakerTrips := c.breakerTrips + 1 }
  | .retried _ => { c with reconnections := c.reconnections + 1 }
  | .closed | .wait _ | .askTurn | .leave | .dial | .write _ | .event _ | .phase _ | .error _ => c

end Counters

namespace Gauge

def record (g : Gauge) (now : Instant) : Deed → Gauge
  | .opened attempt => { g with isConnected := true, connectedAt := some now, attempt }
  | .closed =>
    { g with
      isConnected := false
      latency := none
      uptime := g.uptime + ((g.connectedAt.map fun t => (now - t).toNat).getD 0) }
  | .phase p => { g with phase := p }
  | .latency time => { g with latency := some time }
  | .delivered => { g with events := g.events + 1, lastEventAt := some now }
  | .retried attempt => { g with attempt }
  | _ => g

def read (now : Instant) (g : Gauge) : GaugeReading :=
  let since (t : Instant) : Span := (now - t).toNat
  ⟨g, g.connectedAt.map since, g.lastEventAt.map since⟩

end Gauge

namespace Metrics

/-- Changes a shard's gauge, which is new if there was none. -/
def updateGauge (shard : Nat) (f : Gauge → Gauge) : List Gauge → List Gauge
  | [] => [f { shard }]
  | g :: rest =>
    if g.shard = shard then f g :: rest
    else if shard < g.shard then f { shard } :: g :: rest
    else g :: updateGauge shard f rest

/-- A shard is there from its start on. -/
def enroll (m : Metrics) (shard : Nat) : Metrics := { m with gauges := updateGauge shard id m.gauges }

def record (shard : Nat) (now : Instant) (m : Metrics) (d : Deed) : Metrics :=
  ⟨m.counters.record d, updateGauge shard (fun g => g.record now d) m.gauges⟩

def recordAll (m : Metrics) (shard : Nat) (now : Instant) (ds : List Deed) : Metrics :=
  ds.foldl (record shard now) m

def gauge? (m : Metrics) (shard : Nat) : Option Gauge := m.gauges.find? fun g => g.shard = shard

/-- How many shards have an open socket. -/
def active (m : Metrics) : Nat := m.gauges.countP (·.isConnected)

/-- The open sockets are counted from the same readings that are shown. -/
def snapshot (m : Metrics) (now : Instant) : Snapshot :=
  let shards := m.gauges.map (·.read now)
  ⟨m.counters, shards.countP (·.gauge.isConnected), shards⟩

/-- How many shards are connected, of how many, and whether that is enough.  Nothing is wrong with
    no shards at all. -/
def health (m : Metrics) (least : Binary64) : Nat × Nat × Bool :=
  let total := m.gauges.length
  (m.active, total, total = 0 || least.le (.ofRatio false m.active total))

end Metrics
end SessionFleet
