import SessionFleet.Time.Calendar
/- Whether heartbeats are answered on one connection, and how fast. -/
namespace SessionFleet

structure Health where
  lastSent : Option Instant
  /-- an answer has come since the last heartbeat that the timer sent -/
  acked : Bool
  latency : Option Span
  deriving DecidableEq, Repr, Inhabited

namespace Health

def start : Health := ⟨none, true, none⟩

/-- A connection that has just been greeted: its first timed heartbeat is sent, not missed. -/
def reset (h : Health) : Health := { h with lastSent := none, acked := true }

/-- A heartbeat that the timer sent; its answer is outstanding. -/
def sent (h : Health) (now : Instant) : Health := { h with lastSent := some now, acked := false }

/-- A heartbeat that the server asked for; only the time of sending moves. -/
def requestedSent (h : Health) (now : Instant) : Health := { h with lastSent := some now }

/-- An answer: the time since the last heartbeat, if there was one. -/
def ack (h : Health) (now : Instant) : Health :=
  { h with acked := true, latency := h.lastSent.map fun t => (now - t).toNat }

def overdue (h : Health) : Bool := !h.acked

def clearLatency (h : Health) : Health := { h with latency := none }

end Health
end SessionFleet
