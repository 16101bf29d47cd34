import SessionFleet.Identify.LocalTurns
import SessionFleet.Identify.LockTurns
/- Waits for a turn that end by themselves: a queue of turns together with the instants at which
   waiters give up, and its course over time. -/
namespace SessionFleet

inductive WaitEnd where
  | granted
  | gaveUp
  deriving DecidableEq, Repr

/-- The end of one wait. -/
structure Finished where
  ticket : Nat
  how : WaitEnd
  when_ : Instant
  deriving DecidableEq, Repr

/-- A queue of turns that acts at instants of its own. -/
class TurnQueue (Q : Type) where
  join : Q → Nat → Nat → Instant → Q
  abandon : Q → Nat → Q
  actsAt : Q → Option Instant
  /-- the tickets that are granted when it acts -/
  act : Q → Instant → List Nat × Q

instance : TurnQueue LocalTurns where
  join := LocalTurns.join
  abandon := LocalTurns.abandon
  actsAt q := q.nextRound
  act := LocalTurns.round

/-- A queue of locks, its store, and the answers that the store is made to give; `none` is the
    answer that the keys give. -/
structure ScriptedLocks where
  turns : LockTurns
  store : KeyStore
  script : List (Option StoreReply)
  /-- the calls made: when, with which key, and the answer -/
  calls : List (Instant × String × StoreReply)

namespace ScriptedLocks

def reply (l : ScriptedLocks) (key : String) (now : Instant) : StoreReply × ScriptedLocks :=
  match l.script with
  | some r :: rest => (r, { l with script := rest })
  | script =>
    let (created, store) := l.store.tryAcquire key LockTurns.keyLife now
    (if created then .acquired else .held, { l with store, script := script.drop 1 })

/-- The next try of the waiter whose turn it is to try. -/
def act (l : ScriptedLocks) (now : Instant) : List Nat × ScriptedLocks :=
  match l.turns.next? with
  | none => ([], l)
  | some w =>
    let key := l.turns.key w.shard
    let (reply, l) := l.reply key now
    let (granted, turns) := l.turns.answered w reply now
    (if granted then [w.ticket] else [], { l with turns, calls := l.calls ++ [(now, key, reply)] })

end ScriptedLocks

instance : TurnQueue ScriptedLocks where
  join l ticket shard now := { l with turns := l.turns.join ticket shard now }
  abandon l ticket := { l with turns := l.turns.abandon ticket }
  actsAt l := l.turns.next?.map (·.nextTry)
  act := ScriptedLocks.act

/-- A queue over time.  Tickets are numbers in the order of the waits. -/
structure Patience (Q : Type) where
  queue : Q
  now : Instant
  issued : Nat
  /-- when which waiter gives up -/
  deadlines : List (Nat × Instant)

namespace Patience

variable {Q : Type} [TurnQueue Q]

def settle (p : Patience Q) (ticket : Nat) : Patience Q :=
  { p with deadlines := p.deadlines.filter fun d => d.1 ≠ ticket }

def act (p : Patience Q) (now : Instant) : List Finished × Patience Q :=
  let (tickets, queue) := TurnQueue.act p.queue now
  (tickets.map fun t => ⟨t, .granted, now⟩, tickets.foldl settle { p with queue, now })

def giveUp (p : Patience Q) (ticket : Nat) : Patience Q :=
  { p with queue := TurnQueue.abandon p.queue ticket }.settle ticket

def firstDeadline (p : Patience Q) : Option (Nat × Instant) :=
  p.deadlines.foldl (fun best d => match best with
    | none => some d
    | some b => if d.2 < b.2 then some d else best) none

/-- Whether the queue acts before the next waiter gives up, and when. -/
def queueFirst (p : Patience Q) : Option Instant :=
  (TurnQueue.actsAt p.queue).filter fun t => p.firstDeadline.all fun d => t ≤ d.2

def run (p : Patience Q) (until_ : Instant) : Nat → List Finished × Patience Q
  | 0 => ([], { p with now := until_ })
  | fuel + 1 =>
    match p.queueFirst, p.firstDeadline with
    | some t, _ =>
      if until_ < t then ([], { p with now := until_ })
      else
        let (done, p) := p.act t
        let (more, p) := p.run until_ fuel
        (done ++ more, p)
    | none, some (ticket, t) =>
      if until_ < t then ([], { p with now := until_ })
      else
        let (more, p) := { p.giveUp ticket with now := t }.run until_ fuel
        (⟨ticket, .gaveUp, t⟩ :: more, p)
    | none, none => ([], { p with now := until_ })

/-- Nobody is acted upon twice within a millisecond. -/
def enough (p : Patience Q) (until_ : Instant) : Nat :=
  ((until_ - p.now).toNat / Span.millisecond + 1) * (p.issued + 2)

def elapse (p : Patience Q) (d : Span) : List Finished × Patience Q :=
  p.run (p.now + d) (p.enough (p.now + d))

def await (p : Patience Q) (shard : Nat) (limit : Option Span) : List Finished × Patience Q :=
  { p with
    queue := TurnQueue.join p.queue p.issued shard p.now
    issued := p.issued + 1
    deadlines := p.deadlines ++ (limit.map fun d => (p.issued, p.now + d)).toList }.elapse 0

/-- A waiter that is taken away does not finish. -/
def abort (p : Patience Q) (ticket : Nat) : Patience Q := p.giveUp ticket

end Patience
end SessionFleet
