import SessionFleet.Time.Calendar
import SessionFleet.Table
/- Turns to identify, shared by several processes through keys of a store.  A shard may identify once
   it has created the key of its bucket; the key expires by itself.  Whoever finds the key taken, or
   the store failing, tries again a little later, for as long as it takes. -/
namespace SessionFleet

inductive StoreReply where
  | acquired
  | held
  | failed
  deriving DecidableEq, Repr

/-- Keys with the instants at which they expire. -/
abbrev KeyStore := Table String Instant

/-- Creates a key unless it is there and has not expired. -/
def KeyStore.tryAcquire (s : KeyStore) (key : String) (life : Span) (now : Instant) : Bool × KeyStore :=
  if (Table.get? key s).any (now < ·) then (false, s) else (true, Table.put key (now + life) s)

structure LockWaiter where
  ticket : Nat
  shard : Nat
  nextTry : Instant
  deriving DecidableEq, Repr, Inhabited

structure LockTurns where
  concurrency : Nat
  /-- whose last try lies furthest back first -/
  waiting : List LockWaiter
  deriving DecidableEq, Repr, Inhabited

namespace LockTurns

def keyLife : Span := Span.ofSeconds 6

def retryInterval : Span := Span.ofMillis 500

def create (concurrency : Nat) : LockTurns := ⟨max concurrency 1, []⟩

def key (q : LockTurns) (shard : Nat) : String := "identify:" ++ toString (shard % q.concurrency)

/-- The first try is made at once. -/
def join (q : LockTurns) (ticket shard : Nat) (now : Instant) : LockTurns :=
  { q with waiting := q.waiting ++ [⟨ticket, shard, now⟩] }

def abandon (q : LockTurns) (ticket : Nat) : LockTurns :=
  { q with waiting := q.waiting.filter fun w => w.ticket ≠ ticket }

/-- The earliest try that is left, of several the one in front. -/
def next? (q : LockTurns) : Option LockWaiter :=
  q.waiting.foldl (fun best w => match best with
    | none => some w
    | some b => if w.nextTry < b.nextTry then some w else best) none

/-- A try and its answer: only a key that was created grants the turn. -/
def answered (q : LockTurns) (w : LockWaiter) (reply : StoreReply) (now : Instant) : Bool × LockTurns :=
  let q := q.abandon w.ticket
  match reply with
  | .acquired => (true, q)
  | .held | .failed =>
    (false, { q with waiting := q.waiting ++ [{ w with nextTry := now + retryInterval }] })

end LockTurns
end SessionFleet
