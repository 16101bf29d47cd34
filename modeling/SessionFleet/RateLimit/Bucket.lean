import SessionFleet.RateLimit.Headers
/- One limited resource of a server, for one major parameter: how many requests it still admits
   until its reset.

   The reset is trusted if a response has moved it later since the last refill.  The first response
   seeds `remaining`; after that only the bucket itself counts. -/
namespace SessionFleet

structure Bucket where
  key : String
  major : Nat
  limit : Nat
  remaining : Nat
  nextReset : Option Instant
  trusted : Bool
  seeded : Bool
  lastUsed : Instant
  deriving DecidableEq, Repr, Inhabited

namespace Bucket

/-- An exhausted bucket whose reset is not trusted lets one request through after this time. -/
def staleTimeout : Span := Span.ofSeconds 5

/-- The wait where no reset is known, or where it is about to pass. -/
def fallbackDelay : Span := Span.ofMillis 200

def shortestDelay : Span := Span.ofMillis 10

def create (key : String) (major limit : Nat) (now : Instant) : Bucket :=
  ⟨key, major, limit, limit, none, false, false, now⟩

/-- When a response received now says that the bucket resets. -/
def announcedReset (h : LimitHeaders) (now : Instant) : Option Instant :=
  h.resetAfter.bind now.later?

/-- Responses may come out of order, so the reset only ever moves later. -/
def moveReset (b : Bucket) : Option Instant → Bucket
  | none => b
  | some t =>
    if b.nextReset.all (· < t) then { b with nextReset := some t, trusted := true } else b

def setLimit (b : Bucket) : Option Nat → Bucket
  | none => b
  | some n => { b with limit := n }

def seed (b : Bucket) : Option Nat → Bucket
  | none => b
  | some n => if b.seeded then b else { b with remaining := min n b.remaining, seeded := true }

def respond (b : Bucket) (h : LimitHeaders) (now : Instant) : Bucket :=
  ((b.moveReset (announcedReset h now)).setLimit h.limit).seed h.remaining

/-- Takes one request if any is left. -/
def acquire (b : Bucket) (now : Instant) : Bool × Bucket :=
  if 0 < b.remaining then (true, { b with remaining := b.remaining - 1, lastUsed := now })
  else (false, { b with lastUsed := now })

/-- Refills once a trusted reset has passed, or lets one request out of a bucket that has been
    exhausted without a trusted reset for too long.  A reset that is not set yet is now. -/
def tick (b : Bucket) (now : Instant) : Bucket :=
  let reset := b.nextReset.getD now
  if b.trusted && reset < now then
    { b with nextReset := some reset, remaining := b.limit, trusted := false }
  else if !b.trusted && b.remaining = 0 && staleTimeout < now - reset then
    { b with nextReset := some now, remaining := 1 }
  else { b with nextReset := some reset }

/-- How long a request that was denied should wait. -/
def resetDelay (b : Bucket) (now : Instant) : Span :=
  if !b.trusted then fallbackDelay
  else
    let left := (b.nextReset.bind fun reset => Instant.since? reset now).getD 0
    if left < shortestDelay then fallbackDelay else left

/-- Nothing if the request is admitted, the wait if it is denied. -/
def request (b : Bucket) (now : Instant) : Option Span × Bucket :=
  let (granted, b) := (b.tick now).acquire now
  if granted then (none, b) else (some (b.resetDelay now), b)

end Bucket
end SessionFleet
