import Mathlib.Data.List.Nodup
import SessionFleet.Proofs.Identify.SharedLocks
/- Queues of locks with and without the callers of other buckets: a bucket's tries are the same. -/
namespace SessionFleet

/-- Callers of other buckets stay away. -/
def LockEvent.only (buckets bucket : Nat) : LockEvent → LockEvent
  | .join i shard => if shard % buckets = bucket then .join i shard else .pass
  | e => e

namespace SharedLocks

variable {buckets bucket : Nat} {l m : SharedLocks}

/-- The same course, so far as one bucket can tell. -/
structure Mirrors (buckets bucket : Nat) (l m : SharedLocks) : Prop where
  clock : m.clock = l.clock
  count : m.count = l.count
  key : Table.get? (bucketKey bucket) m.keys = Table.get? (bucketKey bucket) l.keys
  queues : ∀ i, (m.queues i).waiting = (l.queues i).waiting.filter fun w => w.shard % buckets = bucket

theorem find?_filter_of_unique {waiting : List LockWaiter} (apart : (waiting.map LockWaiter.ticket).Nodup)
    {ticket : Nat} {p : LockWaiter → Bool} (one : ∀ w, p w = true → w.ticket = ticket)
    (keep : LockWaiter → Bool) : (waiting.filter keep).find? p = (waiting.find? p).filter keep := by
  induction waiting with
  | nil => rfl
  | cons w rest ih =>
    obtain ⟨fresh, others⟩ := List.nodup_cons.mp apart
    have later := ih others
    cases found : p w with
    | false => cases kept : keep w <;> simpa [found, kept] using later
    | true =>
      have alone : (rest.filter keep).find? p = none := by
        apply List.find?_eq_none.mpr
        intro v member again
        have same : v.ticket = w.ticket := (one v again).trans (one w found).symm
        exact fresh (List.mem_map.mpr ⟨v, (List.mem_filter.mp member).1, same⟩)
      cases kept : keep w with
      | true => simp [found, kept, Option.filter]
      | false => simpa [found, kept, Option.filter] using alone

theorem Mirrors.due (mirrors : Mirrors buckets bucket l m) (orderly : Orderly buckets l)
    (i ticket : Nat) :
    m.due? i ticket = (l.due? i ticket).filter fun w => w.shard % buckets = bucket := by
  unfold due?
  rw [mirrors.queues, mirrors.clock]
  apply find?_filter_of_unique (orderly i).apart
  intro w holds
  simp only [decide_eq_true_eq] at holds
  exact holds.1

theorem reply_congr {keys others : KeyStore} {key : String}
    (same : Table.get? key others = Table.get? key keys) (mood : StoreMood) (now : Instant) :
    (mood.reply others key now).1 = (mood.reply keys key now).1 := by
  have created : (others.tryAcquire key LockTurns.keyLife now).1 =
      (keys.tryAcquire key LockTurns.keyLife now).1 := by
    unfold KeyStore.tryAcquire
    rw [same]
    split <;> rfl
  cases mood with
  | answers => simp [StoreMood.reply, created]
  | denies | fails => rfl

theorem attempt_waiting (l : SharedLocks) (i : Nat) (w : LockWaiter) (mood : StoreMood) :
    let t := (l.attempt i w mood).1
    ((l.attempt i w mood).2.queues i).waiting = ((l.queues i).abandon w.ticket).waiting ++
      if t.reply = .acquired then [] else [{ w with nextTry := l.clock + LockTurns.retryInterval }] := by
  intro t
  have there : (l.attempt i w mood).2.queues i = ((l.queues i).answered w t.reply l.clock).2 :=
    setQueue_self ..
  rw [there, answered_waiting]

theorem attempt_other (l : SharedLocks) {i j : Nat} (other : j ≠ i) (w : LockWaiter) (mood : StoreMood) :
    (l.attempt i w mood).2.queues j = l.queues j := setQueue_other _ other _

theorem attempt_try (orderly : Orderly buckets l) (i : Nat) (w : LockWaiter) (mood : StoreMood) :
    let key := bucketKey (w.shard % buckets)
    let reply := (mood.reply l.keys key l.clock).1
    (l.attempt i w mood).1 =
      ⟨l.clock, i, w.ticket, w.shard, key, mood, reply, decide (reply = .acquired)⟩ := by
  intro key reply
  have named : (l.queues i).key w.shard = key := (orderly i).key w.shard
  have granted : ((l.queues i).answered w reply l.clock).1 = decide (reply = .acquired) := by
    rw [Bool.eq_iff_iff, answered_granted, decide_eq_true_iff]
  simp only [attempt]
  rw [named, granted]

theorem Mirrors.abandoned (mirrors : Mirrors buckets bucket l m) (i ticket : Nat) :
    ((m.queues i).abandon ticket).waiting =
      ((l.queues i).abandon ticket).waiting.filter fun w => w.shard % buckets = bucket := by
  simp only [LockTurns.abandon]
  rw [mirrors.queues, List.filter_filter, List.filter_filter]
  apply List.filter_congr
  intro w _
  exact Bool.and_comm ..

/-- A try for another bucket leaves no trace in this one. -/
theorem Mirrors.elsewhere (mirrors : Mirrors buckets bucket l m) (orderly : Orderly buckets l) {i : Nat}
    {w : LockWaiter} (member : w ∈ (l.queues i).waiting) (other : w.shard % buckets ≠ bucket)
    (mood : StoreMood) : Mirrors buckets bucket (l.attempt i w mood).2 m := by
  have honest := attempt_honest orderly i w mood
  refine ⟨mirrors.clock, mirrors.count, ?_, ?_⟩
  · rw [attempt_keys]
    split
    · have differ : (l.attempt i w mood).1.key ≠ bucketKey bucket := by
        rw [honest.key]
        exact fun same => other (bucketKey_inj same)
      rw [Table.get?_put_of_ne differ]
      exact mirrors.key
    · exact mirrors.key
  · intro j
    by_cases own : j = i
    · subst own
      have back : (if (l.attempt j w mood).1.reply = .acquired then []
          else [{ w with nextTry := l.clock + LockTurns.retryInterval }]).filter
            (fun v => v.shard % buckets = bucket) = [] := by
        split <;> simp [other]
      rw [attempt_waiting, List.filter_append, back, List.append_nil, mirrors.queues]
      simp only [LockTurns.abandon]
      rw [List.filter_filter]
      apply List.filter_congr
      intro v there
      -- the one that tried is of the other bucket, so here it was not in line before either
      by_cases same : v.ticket = w.ticket
      · rw [List.inj_on_of_nodup_map (orderly j).apart there member same]
        simp [other]
      · simp [same]
    · rw [attempt_other l own]
      exact mirrors.queues j

/-- A try for this bucket comes to the same here and there. -/
theorem Mirrors.together (mirrors : Mirrors buckets bucket l m) (orderly : Orderly buckets l)
    (mirrored : Orderly buckets m) (i : Nat) {w : LockWaiter} (own : w.shard % buckets = bucket)
    (mood : StoreMood) : (m.attempt i w mood).1 = (l.attempt i w mood).1 ∧
      Mirrors buckets bucket (l.attempt i w mood).2 (m.attempt i w mood).2 := by
  have same : (m.attempt i w mood).1 = (l.attempt i w mood).1 := by
    rw [attempt_try mirrored, attempt_try orderly, own, mirrors.clock]
    simp only [reply_congr mirrors.key]
  refine ⟨same, mirrors.clock, mirrors.count, ?_, ?_⟩
  · have key : (l.attempt i w mood).1.key = bucketKey bucket := by rw [attempt_try orderly, own]
    rw [attempt_keys, attempt_keys, same, key]
    split
    · rw [Table.get?_put_self, Table.get?_put_self]
    · exact mirrors.key
  · intro j
    by_cases here : j = i
    · subst here
      rw [attempt_waiting, attempt_waiting, same, mirrors.clock, List.filter_append, mirrors.abandoned]
      split <;> simp [own]
    · rw [attempt_other l here, attempt_other m here]
      exact mirrors.queues j

theorem Mirrors.setQueue (mirrors : Mirrors buckets bucket l m) (i : Nat) {p q : LockTurns}
    (same : q.waiting = p.waiting.filter fun w => w.shard % buckets = bucket) :
    Mirrors buckets bucket (l.setQueue i p) (m.setQueue i q) := by
  refine ⟨mirrors.clock, mirrors.count, mirrors.key, ?_⟩
  intro j
  by_cases here : j = i
  · rw [here, setQueue_self, setQueue_self]
    exact same
  · rw [setQueue_other l here, setQueue_other m here]
    exact mirrors.queues j

/-- Somebody of another bucket joins there and nobody here. -/
theorem Mirrors.joined (mirrors : Mirrors buckets bucket l m) (i : Nat) {shard : Nat}
    (other : shard % buckets ≠ bucket) (ticket : Nat) (now : Instant) :
    Mirrors buckets bucket (l.setQueue i ((l.queues i).join ticket shard now)) m := by
  refine ⟨mirrors.clock, mirrors.count, mirrors.key, ?_⟩
  intro j
  by_cases here : j = i
  · subst here
    simp [LockTurns.join, mirrors.queues, other]
  · rw [setQueue_other l here]
    exact mirrors.queues j

theorem Mirrors.meet (mirrors : Mirrors buckets bucket l m) (orderly : Orderly buckets l)
    (mirrored : Orderly buckets m) (e : LockEvent) :
    (m.meet (e.only buckets bucket)).1 =
        (l.meet e).1.filter (fun t => t.shard % buckets = bucket) ∧
      Mirrors buckets bucket (l.meet e).2 (m.meet (e.only buckets bucket)).2 := by
  cases e with
  | pass => exact ⟨rfl, mirrors⟩
  | join i shard =>
    by_cases own : shard % buckets = bucket
    · simp only [LockEvent.only, if_pos own]
      refine ⟨rfl, mirrors.setQueue i ?_⟩
      simp [LockTurns.join, mirrors.queues, mirrors.clock, mirrors.count, own]
    · simp only [LockEvent.only, if_neg own]
      exact ⟨rfl, mirrors.joined i own l.count l.clock⟩
  | abandon i ticket => exact ⟨rfl, mirrors.setQueue i (mirrors.abandoned i ticket)⟩
  | attempt i ticket mood =>
    have due := mirrors.due orderly i ticket
    simp only [LockEvent.only]
    rcases meet_attempt l i ticket mood with ⟨nobody, idle⟩ | ⟨w, found, tried⟩
    · rw [nobody, Option.filter_none] at due
      have still : m.meet (.attempt i ticket mood) = ([], m) := by simp only [SharedLocks.meet, due]
      rw [idle, still]
      exact ⟨rfl, mirrors⟩
    · have member := (due?_some found).1
      rw [found, Option.filter_some] at due
      by_cases own : w.shard % buckets = bucket
      · obtain ⟨same, after⟩ := mirrors.together orderly mirrored i own mood
        have mine : (l.attempt i w mood).1.shard % buckets = bucket := own
        have again : m.meet (.attempt i ticket mood) =
            ([(m.attempt i w mood).1], (m.attempt i w mood).2) := by
          simp [SharedLocks.meet, due, own]
        rw [tried, again, same]
        exact ⟨by simp [mine], after⟩
      · have theirs : (l.attempt i w mood).1.shard % buckets ≠ bucket := own
        have still : m.meet (.attempt i ticket mood) = ([], m) := by simp [SharedLocks.meet, due, own]
        rw [tried, still]
        exact ⟨by simp [theirs], mirrors.elsewhere orderly member own mood⟩

theorem Mirrors.step (mirrors : Mirrors buckets bucket l m) (orderly : Orderly buckets l)
    (mirrored : Orderly buckets m) (e : Span × LockEvent) :
    (m.step (e.1, e.2.only buckets bucket)).1 =
        (l.step e).1.filter (fun t => t.shard % buckets = bucket) ∧
      Mirrors buckets bucket (l.step e).2 (m.step (e.1, e.2.only buckets bucket)).2 := by
  have elapsed : Mirrors buckets bucket (l.elapse e.1) (m.elapse e.1) :=
    ⟨congrArg (· + (e.1 : Instant)) mirrors.clock, mirrors.count, mirrors.key, mirrors.queues⟩
  obtain ⟨same, after⟩ := elapsed.meet orderly mirrored e.2
  exact ⟨same, after.clock, congrArg (· + 1) after.count, after.key, after.queues⟩

theorem Mirrors.tries (mirrors : Mirrors buckets bucket l m) (orderly : Orderly buckets l)
    (mirrored : Orderly buckets m) (events : List (Span × LockEvent)) :
    m.tries (events.map fun e => (e.1, e.2.only buckets bucket)) =
      (l.tries events).filter fun t => t.shard % buckets = bucket := by
  induction events generalizing l m with
  | nil => rfl
  | cons e rest ih =>
    obtain ⟨same, after⟩ := mirrors.step orderly mirrored e
    simp only [List.map_cons, SharedLocks.tries]
    rw [List.filter_append, same, ih after (step_orderly orderly e) (step_orderly mirrored _)]

end SharedLocks
end SessionFleet
