import SessionFleet.RateLimit.Bucket
import SessionFleet.Table
/- Every bucket that is known, and what the responses have taught about endpoints: which bucket key
   an endpoint belongs to, and the limit of that key.

   A bucket that is needed for the first time is made on the spot, last used at that moment of the
   wall clock. -/
namespace SessionFleet

/-- A bucket's identity: its key and the major parameter. -/
abbrev BucketId := String × Nat

structure Registry where
  buckets : Table BucketId Bucket
  keys : Table String String
  limits : Table String Nat
  deriving DecidableEq, Repr, Inhabited

namespace Registry

/-- Buckets that nobody has used for longer than this are forgotten. -/
def idleTimeout : Span := Span.ofSeconds 300

def empty : Registry := ⟨[], [], []⟩

/-- The identity of the bucket that an endpoint uses now. -/
def bucketId? (r : Registry) (endpoint : String) (major : Nat) : Option BucketId :=
  (r.keys.get? endpoint).map fun key => (key, major)

/-- The endpoint's bucket, and the registry in which it is stored. -/
def bucket? (r : Registry) (endpoint : String) (major : Nat) (wall : Instant) :
    Option (Bucket × Registry) := do
  let id ← r.bucketId? endpoint major
  match r.buckets.get? id with
  | some b => some (b, r)
  | none =>
    let limit ← r.limits.get? id.1
    let b := Bucket.create id.1 major limit wall
    some (b, { r with buckets := r.buckets.put id b })

/-- Puts a bucket back in its place. -/
def store (r : Registry) (b : Bucket) : Registry :=
  { r with buckets := r.buckets.put (b.key, b.major) b }

def learn (r : Registry) (endpoint key : String) (limit : Option Nat) : Registry :=
  { r with
    keys := r.keys.put endpoint key
    limits := match limit with
      | some n => r.limits.put key n
      | none => r.limits }

/-- A bucket is idle if its last use lies further back than the timeout. -/
def isIdle (now : Instant) (b : Bucket) : Bool := idleTimeout < now - b.lastUsed

def prune (r : Registry) (now : Instant) : Registry :=
  { r with buckets := r.buckets.filter fun e => !isIdle now e.2 }

/-- The endpoint's bucket changed by a step that answers something. -/
def onBucket {γ : Type} (r : Registry) (endpoint : String) (major : Nat) (wall : Instant)
    (step : Bucket → γ × Bucket) : Option γ × Registry :=
  match r.bucket? endpoint major wall with
  | none => (none, r)
  | some (b, r) =>
    let (answer, b) := step b
    (some answer, r.store b)

end Registry
end SessionFleet
