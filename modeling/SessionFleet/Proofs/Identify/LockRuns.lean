import Mathlib.Logic.Function.Basic
import SessionFleet.Identify.Patience
/- Any number of queues that share the keys of one store, through any sequence of waits, waiters that
   give up, and tries.  Time passes before each event, as much as it likes; a waiter tries when its
   next try is due and at no other time. -/
namespace SessionFleet

/-- What a store does with a request: it goes by its keys, or denies it anyway, or fails. -/
inductive StoreMood where
  | answers
  | denies
  | fails
  deriving DecidableEq, Repr

def StoreMood.reply (mood : StoreMood) (keys : KeyStore) (key : String) (now : Instant) :
    StoreReply × KeyStore :=
  match mood with
  | .answers =>
    let (created, after) := keys.tryAcquire key LockTurns.keyLife now
    (if created then .acquired else .held, after)
  | .denies => (.held, keys)
  | .fails => (.failed, keys)

/-- The answer that a script makes the store give. -/
def StoreMood.scripted : StoreMood → Option StoreReply
  | .answers => none
  | .denies => some .held
  | .fails => some .failed

inductive LockEvent where
  | pass
  | join (queue shard : Nat)
  | abandon (queue ticket : Nat)
  | attempt (queue ticket : Nat) (mood : StoreMood)
  deriving DecidableEq, Repr

/-- A try, and what came of it. -/
structure LockTry where
  when_ : Instant
  queue : Nat
  ticket : Nat
  shard : Nat
  key : String
  mood : StoreMood
  reply : StoreReply
  granted : Bool
  deriving DecidableEq, Repr

/-- The queues and their store over time.  A ticket is the number of the event that it comes from. -/
structure SharedLocks where
  keys : KeyStore
  queues : Nat → LockTurns
  clock : Instant
  count : Nat

namespace SharedLocks

def start (concurrency : Nat) (keys : KeyStore) (clock : Instant) : SharedLocks :=
  ⟨keys, fun _ => .create concurrency, clock, 0⟩

def setQueue (l : SharedLocks) (i : Nat) (q : LockTurns) : SharedLocks :=
  { l with queues := Function.update l.queues i q }

def due? (l : SharedLocks) (i ticket : Nat) : Option LockWaiter :=
  (l.queues i).waiting.find? fun w => w.ticket = ticket ∧ w.nextTry = l.clock

def attempt (l : SharedLocks) (i : Nat) (w : LockWaiter) (mood : StoreMood) : LockTry × SharedLocks :=
  let key := (l.queues i).key w.shard
  let (reply, keys) := mood.reply l.keys key l.clock
  let (granted, q) := (l.queues i).answered w reply l.clock
  (⟨l.clock, i, w.ticket, w.shard, key, mood, reply, granted⟩, { l with keys }.setQueue i q)

def meet (l : SharedLocks) : LockEvent → List LockTry × SharedLocks
  | .pass => ([], l)
  | .join i shard => ([], l.setQueue i ((l.queues i).join l.count shard l.clock))
  | .abandon i ticket => ([], l.setQueue i ((l.queues i).abandon ticket))
  | .attempt i ticket mood =>
    match l.due? i ticket with
    | none => ([], l)
    | some w =>
      let (t, l) := l.attempt i w mood
      ([t], l)

def elapse (l : SharedLocks) (d : Span) : SharedLocks := { l with clock := l.clock + d }

def step (l : SharedLocks) (e : Span × LockEvent) : List LockTry × SharedLocks :=
  let (tries, l) := (l.elapse e.1).meet e.2
  (tries, { l with count := l.count + 1 })

def after (l : SharedLocks) (events : List (Span × LockEvent)) : SharedLocks :=
  events.foldl (fun l e => (l.step e).2) l

def tries (l : SharedLocks) : List (Span × LockEvent) → List LockTry
  | [] => []
  | e :: rest => (l.step e).1 ++ (l.step e).2.tries rest

theorem after_append (l : SharedLocks) (before later : List (Span × LockEvent)) :
    l.after (before ++ later) = (l.after before).after later := List.foldl_append ..

theorem tries_append (l : SharedLocks) (before later : List (Span × LockEvent)) :
    l.tries (before ++ later) = l.tries before ++ (l.after before).tries later := by
  induction before generalizing l with
  | nil => rfl
  | cons e rest ih =>
    simp only [List.cons_append, tries]
    rw [ih, List.append_assoc]
    rfl

theorem after_concat (l : SharedLocks) (events : List (Span × LockEvent)) (e : Span × LockEvent) :
    l.after (events ++ [e]) = ((l.after events).step e).2 := by
  rw [after_append]
  rfl

theorem tries_concat (l : SharedLocks) (events : List (Span × LockEvent)) (e : Span × LockEvent) :
    l.tries (events ++ [e]) = l.tries events ++ ((l.after events).step e).1 := by
  rw [tries_append]
  simp [tries]

variable {l : SharedLocks}

/- What a try comes to. -/

theorem answered_granted (q : LockTurns) (w : LockWaiter) (reply : StoreReply) (now : Instant) :
    (q.answered w reply now).1 = true ↔ reply = .acquired := by
  cases reply <;> simp [LockTurns.answered]

theorem answered_waiting (q : LockTurns) (w : LockWaiter) (reply : StoreReply) (now : Instant) :
    (q.answered w reply now).2.waiting = (q.abandon w.ticket).waiting ++
      if reply = .acquired then [] else [{ w with nextTry := now + LockTurns.retryInterval }] := by
  cases reply <;> simp [LockTurns.answered]

/-- A key is free once it has expired. -/
def free (keys : KeyStore) (key : String) (now : Instant) : Prop :=
  ∀ expires, Table.get? key keys = some expires → expires ≤ now

theorem tryAcquire_iff (keys : KeyStore) (key : String) (life : Span) (now : Instant) :
    (keys.tryAcquire key life now).1 = true ↔ free keys key now := by
  unfold KeyStore.tryAcquire free
  cases found : Table.get? key keys with
  | none => simp
  | some expires =>
    by_cases held : now < expires
    · simp [held]
    · have past : expires ≤ now := Int.not_lt.mp held
      simp [held, past]

theorem reply_acquired_iff (mood : StoreMood) (keys : KeyStore) (key : String) (now : Instant) :
    (mood.reply keys key now).1 = .acquired ↔ mood = .answers ∧ free keys key now := by
  rw [← tryAcquire_iff keys key LockTurns.keyLife now]
  cases mood with
  | answers => simp [StoreMood.reply]
  | denies | fails => simp [StoreMood.reply]

theorem reply_keys (mood : StoreMood) (keys : KeyStore) (key : String) (now : Instant) :
    (mood.reply keys key now).2 =
      if (mood.reply keys key now).1 = .acquired then Table.put key (now + LockTurns.keyLife) keys
      else keys := by
  cases mood with
  | answers =>
    simp only [StoreMood.reply, KeyStore.tryAcquire]
    split <;> rfl
  | denies | fails => rfl

/- The queues. -/

@[simp] theorem setQueue_self (l : SharedLocks) (i : Nat) (q : LockTurns) :
    (l.setQueue i q).queues i = q := Function.update_self ..

theorem setQueue_other (l : SharedLocks) {i j : Nat} (other : j ≠ i) (q : LockTurns) :
    (l.setQueue i q).queues j = l.queues j := Function.update_of_ne other ..

theorem due?_some {i ticket : Nat} {w : LockWaiter} (due : l.due? i ticket = some w) :
    w ∈ (l.queues i).waiting ∧ w.ticket = ticket ∧ w.nextTry = l.clock := by
  have holds := List.find?_some due
  simp only [decide_eq_true_eq] at holds
  exact ⟨List.mem_of_find?_eq_some due, holds⟩

/-- An attempt is a try of the waiter that is due, or nothing. -/
theorem meet_attempt (l : SharedLocks) (i ticket : Nat) (mood : StoreMood) :
    (l.due? i ticket = none ∧ l.meet (.attempt i ticket mood) = ([], l)) ∨
      ∃ w, l.due? i ticket = some w ∧
        l.meet (.attempt i ticket mood) = ([(l.attempt i w mood).1], (l.attempt i w mood).2) := by
  cases due : l.due? i ticket with
  | none => exact Or.inl ⟨rfl, by simp [meet, due]⟩
  | some w => exact Or.inr ⟨w, rfl, by simp [meet, due]⟩

theorem scripted_reply {q : ScriptedLocks} {mood : StoreMood}
    (script : q.script.headD none = mood.scripted) (key : String) (now : Instant) :
    let (reply, store) := mood.reply q.store key now
    q.reply key now = (reply, { q with store, script := q.script.drop 1 }) := by
  obtain ⟨turns, store, entries, calls⟩ := q
  cases entries with
  | nil =>
    cases mood with
    | answers => rfl
    | denies | fails => cases script
  | cons entry rest =>
    have named : entry = mood.scripted := script
    subst named
    cases mood <;> rfl

/-- A scripted queue acts by an attempt, unless its script makes up a grant. -/
theorem act_eq_attempt {q : ScriptedLocks} {w : LockWaiter} {mood : StoreMood}
    (next : q.turns.next? = some w) (script : q.script.headD none = mood.scripted) (i : Nat)
    (turns : l.queues i = q.turns) (keys : l.keys = q.store) :
    let (t, later) := l.attempt i w mood
    q.act l.clock = (if t.granted then [w.ticket] else [],
      ⟨later.queues i, later.keys, q.script.drop 1, q.calls ++ [(l.clock, t.key, t.reply)]⟩) := by
  have replied := scripted_reply script (q.turns.key w.shard) l.clock
  simp only [attempt, ScriptedLocks.act, next, turns, keys, replied, setQueue_self]
  rfl

theorem setQueue_all {P : LockTurns → Prop} (old : ∀ j, P (l.queues j)) {q : LockTurns} (new : P q)
    (i j : Nat) : P ((l.setQueue i q).queues j) := by
  by_cases same : j = i
  · rw [same, setQueue_self]
    exact new
  · rw [setQueue_other l same]
    exact old j

/-- A queue of so many buckets, in which no two waiters have the same ticket and none one that has not
    been issued. -/
structure Sound (buckets count : Nat) (q : LockTurns) : Prop where
  even : q.concurrency = buckets
  apart : (q.waiting.map LockWaiter.ticket).Nodup
  issued : ∀ w ∈ q.waiting, w.ticket < count

section
variable {buckets count : Nat} {q : LockTurns}

theorem Sound.later (sound : Sound buckets count q) : Sound buckets (count + 1) q :=
  ⟨sound.even, sound.apart, fun w member => Nat.lt_succ_of_lt (sound.issued w member)⟩

theorem mem_abandon {ticket : Nat} {w : LockWaiter} :
    w ∈ (q.abandon ticket).waiting ↔ w ∈ q.waiting ∧ w.ticket ≠ ticket := by
  simp [LockTurns.abandon]

theorem Sound.abandon (sound : Sound buckets count q) (ticket : Nat) :
    Sound buckets count (q.abandon ticket) :=
  ⟨sound.even, sound.apart.sublist (List.filter_sublist.map _),
    fun w member => sound.issued w (mem_abandon.mp member).1⟩

/-- A waiter comes to the end of a queue in which nobody has its ticket. -/
theorem Sound.append (sound : Sound buckets count q) {w : LockWaiter} (issued : w.ticket < count)
    (fresh : ∀ v ∈ q.waiting, v.ticket ≠ w.ticket) :
    Sound buckets count { q with waiting := q.waiting ++ [w] } := by
  refine ⟨sound.even, ?_, ?_⟩
  · rw [List.map_append]
    apply List.nodup_append.mpr
    refine ⟨sound.apart, by simp, ?_⟩
    intro a before b last
    obtain ⟨v, member, same⟩ := List.mem_map.mp before
    rw [List.mem_singleton.mp last, ← same]
    exact fresh v member
  · intro v member
    rcases List.mem_append.mp member with before | last
    · exact sound.issued v before
    · rw [List.mem_singleton.mp last]
      exact issued

theorem Sound.join (sound : Sound buckets count q) (shard : Nat) (now : Instant) :
    Sound buckets (count + 1) (q.join count shard now) := by
  refine sound.later.append (Nat.lt_succ_self count) ?_
  intro v member
  exact Nat.ne_of_lt (sound.issued v member)

theorem Sound.answered (sound : Sound buckets count q) {w : LockWaiter} (member : w ∈ q.waiting)
    (reply : StoreReply) (now : Instant) : Sound buckets count (q.answered w reply now).2 := by
  have others := sound.abandon w.ticket
  have again := others.append (w := { w with nextTry := now + LockTurns.retryInterval })
    (sound.issued w member) fun v there => (mem_abandon.mp there).2
  cases reply with
  | acquired => exact others
  | held | failed => exact again

end

def Orderly (buckets : Nat) (l : SharedLocks) : Prop := ∀ i, Sound buckets l.count (l.queues i)

theorem start_orderly (concurrency : Nat) (keys : KeyStore) (clock : Instant) :
    Orderly (max concurrency 1) (start concurrency keys clock) := by
  intro i
  exact ⟨rfl, List.nodup_nil, fun w member => nomatch member⟩

theorem step_orderly {buckets : Nat} (orderly : Orderly buckets l) (e : Span × LockEvent) :
    Orderly buckets (l.step e).2 := by
  obtain ⟨d, e⟩ := e
  have later (i : Nat) : Sound buckets (l.count + 1) ((l.elapse d).queues i) := (orderly i).later
  cases e with
  | pass => exact later
  | join i shard => exact setQueue_all later ((orderly i).join shard _) i
  | abandon i ticket => exact setQueue_all later ((orderly i).abandon ticket).later i
  | attempt i ticket mood =>
    have tried := meet_attempt (l.elapse d) i ticket mood
    simp only [step]
    rcases tried with ⟨_, idle⟩ | ⟨w, due, done⟩
    · rw [idle]
      exact later
    · rw [done]
      have answered := (orderly i).answered (due?_some due).1
      exact setQueue_all later (answered _ _).later i

theorem after_orderly {buckets : Nat} (orderly : Orderly buckets l)
    (events : List (Span × LockEvent)) : Orderly buckets (l.after events) := by
  induction events generalizing l with
  | nil => exact orderly
  | cons e rest ih => exact ih (step_orderly orderly e)

end SharedLocks
end SessionFleet
