import SessionFleet.Time.Calendar
/- Turns to identify, handed out within one process.

   Shards that are congruent modulo the concurrency share a bucket.  The first waiter wakes the
   queue up and sends for a keeper, who holds a round after a warm-up and then one per period; in a
   round every bucket grants its oldest waiter that is still there.  The keeper of a round that
   grants nobody puts the queue to sleep again and leaves. -/
namespace SessionFleet

/-- A shard that waits.  Whoever gives up stays in line without counting. -/
structure Waiter where
  ticket : Nat
  shard : Nat
  present : Bool
  deriving DecidableEq, Repr, Inhabited

structure LocalTurns where
  concurrency : Nat
  /-- oldest first -/
  waiting : List Waiter
  /-- a keeper has been sent for -/
  awake : Bool
  /-- when each keeper holds its next round -/
  keepers : List Instant
  deriving DecidableEq, Repr, Inhabited

namespace LocalTurns

def warmUp : Span := Span.ofMillis 250

def period : Span := Span.ofSeconds 6

/-- A concurrency of zero counts as one. -/
def create (concurrency : Nat) : LocalTurns := ⟨max concurrency 1, [], false, []⟩

/-- Everyone in line, also those that have given up. -/
def pending (q : LocalTurns) : Nat := q.waiting.length

def bucket (q : LocalTurns) (w : Waiter) : Nat := w.shard % q.concurrency

def join (q : LocalTurns) (ticket shard : Nat) (now : Instant) : LocalTurns :=
  let q := { q with waiting := q.waiting ++ [⟨ticket, shard, true⟩] }
  if q.awake then q else { q with awake := true, keepers := q.keepers ++ [now + warmUp] }

def abandon (q : LocalTurns) (ticket : Nat) : LocalTurns :=
  { q with waiting := q.waiting.map fun w => if w.ticket = ticket then { w with present := false } else w }

/-- One round through the line: who is granted, and who stays.  `served` are the buckets that have
    granted their turn; whoever has given up before that leaves the line. -/
def serve (n : Nat) : List Nat → List Waiter → List Waiter × List Waiter
  | _, [] => ([], [])
  | served, w :: rest =>
    if served.contains (w.shard % n) then
      let (granted, kept) := serve n served rest
      (granted, w :: kept)
    else if w.present then
      let (granted, kept) := serve n (w.shard % n :: served) rest
      (w :: granted, kept)
    else serve n served rest

/-- Who is granted a turn in a round, in the order of the buckets, and who stays in line. -/
def callUp (q : LocalTurns) : List Waiter × List Waiter :=
  let (granted, kept) := serve q.concurrency [] q.waiting
  (granted.mergeSort fun a b => q.bucket a ≤ q.bucket b, kept)

def nextRound (q : LocalTurns) : Option Instant := q.keepers.head?

/-- The round that is due now. -/
def round (q : LocalTurns) (now : Instant) : List Nat × LocalTurns :=
  let (called, kept) := q.callUp
  (called.map (·.ticket),
    if called.isEmpty then { q with waiting := kept, awake := false, keepers := q.keepers.tail }
    else { q with waiting := kept, keepers := (now + period) :: q.keepers.tail })

end LocalTurns
end SessionFleet
