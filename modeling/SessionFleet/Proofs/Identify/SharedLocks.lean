import Mathlib.Data.List.Induction
import SessionFleet.Proofs.Identify.LockRuns
/- Turns that are handed out through the keys of a store.  Which turns are granted follows from the
   grants before, however many queues there are and whatever the store does otherwise. -/
namespace SessionFleet
namespace SharedLocks

variable {l : SharedLocks} {buckets : Nat}

def bucketKey (bucket : Nat) : String := "identify:" ++ toString bucket

theorem bucketKey_inj {a b : Nat} (same : bucketKey a = bucketKey b) : a = b := by
  have shown : a.repr = b.repr := (String.append_right_inj _).mp same
  have digits : Nat.toDigits 10 a = Nat.toDigits 10 b := String.ofList_injective shown
  rw [← Nat.ofDigitChars_ten_toDigits (n := a), digits, Nat.ofDigitChars_ten_toDigits]

theorem Sound.key {count : Nat} {q : LockTurns} (sound : Sound buckets count q) (shard : Nat) :
    q.key shard = bucketKey (shard % buckets) := by
  rw [LockTurns.key, sound.even]
  rfl

/-- An event comes to no try and leaves the keys alone, or to one. -/
theorem step_cases (l : SharedLocks) (e : Span × LockEvent) :
    ((l.step e).1 = [] ∧ (l.step e).2.keys = l.keys) ∨
      ∃ i w mood, w ∈ ((l.elapse e.1).queues i).waiting ∧
        (l.step e).1 = [((l.elapse e.1).attempt i w mood).1] ∧
        (l.step e).2.keys = ((l.elapse e.1).attempt i w mood).2.keys := by
  obtain ⟨d, e⟩ := e
  cases e with
  | pass | join | abandon => exact Or.inl ⟨rfl, rfl⟩
  | attempt i ticket mood =>
    simp only [step]
    rcases meet_attempt (l.elapse d) i ticket mood with ⟨_, idle⟩ | ⟨w, due, done⟩
    · rw [idle]
      exact Or.inl ⟨rfl, rfl⟩
    · rw [done]
      exact Or.inr ⟨i, w, mood, (due?_some due).1, rfl, rfl⟩

theorem meet_moment (l : SharedLocks) (e : LockEvent) :
    (l.meet e).2.clock = l.clock ∧ (l.meet e).2.count = l.count := by
  cases e with
  | pass | join | abandon => exact ⟨rfl, rfl⟩
  | attempt i ticket mood =>
    rcases meet_attempt l i ticket mood with ⟨_, idle⟩ | ⟨w, _, done⟩
    · rw [idle]
      exact ⟨rfl, rfl⟩
    · rw [done]
      exact ⟨rfl, rfl⟩

theorem step_clock (l : SharedLocks) (e : Span × LockEvent) : (l.step e).2.clock = l.clock + e.1 :=
  (meet_moment (l.elapse e.1) e.2).1

theorem step_count (l : SharedLocks) (e : Span × LockEvent) : (l.step e).2.count = l.count + 1 :=
  congrArg (· + 1) (meet_moment (l.elapse e.1) e.2).2

theorem after_count (l : SharedLocks) (events : List (Span × LockEvent)) :
    (l.after events).count = l.count + events.length := by
  induction events generalizing l with
  | nil => rfl
  | cons e rest ih =>
    have later := ih (l.step e).2
    rw [step_count] at later
    rw [List.length_cons, Nat.add_comm rest.length, ← Nat.add_assoc]
    exact later

theorem start_count (concurrency : Nat) (keys : KeyStore) (clock : Instant)
    (events : List (Span × LockEvent)) :
    ((start concurrency keys clock).after events).count = events.length :=
  (after_count _ events).trans (Nat.zero_add _)

/-- What is known of a single try, given the keys that it finds. -/
structure Honest (buckets : Nat) (keys : KeyStore) (t : LockTry) : Prop where
  key : t.key = bucketKey (t.shard % buckets)
  granted : t.granted = true ↔ t.reply = .acquired
  acquired : t.reply = .acquired ↔ t.mood = .answers ∧ free keys t.key t.when_

theorem attempt_honest (orderly : Orderly buckets l) (i : Nat) (w : LockWaiter) (mood : StoreMood) :
    Honest buckets l.keys (l.attempt i w mood).1 :=
  ⟨(orderly i).key w.shard, answered_granted .., reply_acquired_iff ..⟩

theorem step_honest (orderly : Orderly buckets l) (e : Span × LockEvent) :
    ∀ t ∈ (l.step e).1, t.when_ = l.clock + e.1 ∧ Honest buckets l.keys t := by
  intro t member
  have now : Orderly buckets (l.elapse e.1) := orderly
  rcases step_cases l e with ⟨none, _⟩ | ⟨i, w, mood, _, one, _⟩
  · rw [none] at member
    cases member
  · rw [one] at member
    rw [List.mem_singleton.mp member]
    exact ⟨rfl, attempt_honest now i w mood⟩

theorem attempt_keys (l : SharedLocks) (i : Nat) (w : LockWaiter) (mood : StoreMood) :
    let t := (l.attempt i w mood).1
    (l.attempt i w mood).2.keys =
      if t.reply = .acquired then Table.put t.key (t.when_ + LockTurns.keyLife) l.keys else l.keys :=
  reply_keys ..

/-- Which keys are free from now on, by what they were at first and what has been granted since. -/
def Ledger (first : KeyStore) (tries : List LockTry) (l : SharedLocks) : Prop :=
  ∀ key now, l.clock ≤ now → (free l.keys key now ↔
    free first key now ∧ ∀ g ∈ tries, g.granted = true → g.key = key → g.when_ + LockTurns.keyLife ≤ now)

theorem free_later {keys : KeyStore} {key : String} {now later : Instant} (unheld : free keys key now)
    (after : now ≤ later) : free keys key later :=
  fun expires found => Int.le_trans (unheld expires found) after

theorem free_put_iff (keys : KeyStore) (key other : String) (expires now : Instant) :
    free (Table.put key expires keys) other now ↔
      if key = other then expires ≤ now else free keys other now := by
  unfold free
  split
  · rename_i same
    rw [same, Table.get?_put_self]
    simp
  · rename_i differ
    rw [Table.get?_put_of_ne differ]

theorem attempt_ledger {first : KeyStore} {tries : List LockTry} (orderly : Orderly buckets l)
    (ledger : Ledger first tries l) (i : Nat) (w : LockWaiter) (mood : StoreMood) :
    Ledger first (tries ++ [(l.attempt i w mood).1]) (l.attempt i w mood).2 := by
  intro key now reached
  have known := ledger key now reached
  have honest := attempt_honest orderly i w mood
  have keys := attempt_keys l i w mood
  have passed : (l.attempt i w mood).1.when_ ≤ now := reached
  generalize (l.attempt i w mood).1 = t at *
  simp only at keys
  rw [keys, List.forall_mem_append, List.forall_mem_singleton]
  by_cases created : t.reply = .acquired
  · -- the key was free already, so nothing that was granted before holds it
    have unheld := (honest.acquired.mp created).2
    rw [if_pos created, free_put_iff, honest.granted]
    by_cases own : t.key = key
    · subst own
      obtain ⟨old, others⟩ := known.mp (free_later unheld passed)
      simp only [if_true, created, true_imp_iff]
      exact ⟨fun past => ⟨old, others, past⟩, fun all => all.2.2⟩
    · rw [if_neg own, known]
      simp [own]
  · have denied : ¬t.granted = true := fun yes => created (honest.granted.mp yes)
    rw [if_neg created, known]
    simp [denied]

theorem le_elapsed (t : Instant) (d : Span) : t ≤ t + d :=
  Int.le_add_of_nonneg_right (Int.natCast_nonneg d)

theorem step_ledger {first : KeyStore} {tries : List LockTry} (orderly : Orderly buckets l)
    (ledger : Ledger first tries l) (e : Span × LockEvent) :
    Ledger first (tries ++ (l.step e).1) (l.step e).2 := by
  have elapsed : Ledger first tries (l.elapse e.1) := by
    intro key now reached
    exact ledger key now (Int.le_trans (le_elapsed l.clock e.1) reached)
  have now : Orderly buckets (l.elapse e.1) := orderly
  have clock := step_clock l e
  unfold Ledger
  rcases step_cases l e with ⟨none, same⟩ | ⟨i, w, mood, _, one, keys⟩
  · rw [none, same, clock, List.append_nil]
    exact elapsed
  · rw [one, keys, clock]
    exact attempt_ledger now elapsed i w mood

theorem start_ledger (concurrency : Nat) (keys : KeyStore) (clock : Instant) :
    Ledger keys [] (start concurrency keys clock) := by
  intro key now _
  simp [start]

theorem run_ledger (concurrency : Nat) (keys : KeyStore) (clock : Instant)
    (events : List (Span × LockEvent)) :
    let l := start concurrency keys clock
    Ledger keys (l.tries events) (l.after events) := by
  intro l
  -- from the right, since what an event finds in the store comes from the tries before it
  induction events using List.reverseRecOn with
  | nil => exact start_ledger concurrency keys clock
  | append_singleton events e ih =>
    rw [tries_concat, after_concat]
    exact step_ledger (after_orderly (start_orderly concurrency keys clock) events) ih e

theorem step_acquired_iff {first : KeyStore} {tries : List LockTry} (orderly : Orderly buckets l)
    (ledger : Ledger first tries l) {e : Span × LockEvent} {t : LockTry} (member : t ∈ (l.step e).1) :
    t.reply = .acquired ↔ t.mood = .answers ∧ free first t.key t.when_ ∧
      ∀ g ∈ tries, g.granted = true → g.key = t.key → g.when_ + LockTurns.keyLife ≤ t.when_ := by
  obtain ⟨when_, honest⟩ := step_honest orderly e t member
  have reached : l.clock ≤ t.when_ := by
    rw [when_]
    exact le_elapsed l.clock e.1
  rw [honest.acquired, ledger t.key t.when_ reached]

theorem tries_honest (concurrency : Nat) (keys : KeyStore) (clock : Instant)
    (events : List (Span × LockEvent)) :
    ∀ t ∈ (start concurrency keys clock).tries events,
      t.key = bucketKey (t.shard % max concurrency 1) ∧ (t.granted = true ↔ t.reply = .acquired) := by
  induction events using List.reverseRecOn with
  | nil => exact fun t member => nomatch member
  | append_singleton events e ih =>
    intro t member
    rw [tries_concat] at member
    rcases List.mem_append.mp member with before | new
    · exact ih t before
    · have orderly := after_orderly (start_orderly concurrency keys clock) events
      obtain ⟨_, honest⟩ := step_honest orderly e t new
      exact ⟨honest.key, honest.granted⟩

/-- Turns of one bucket lie the life of a key apart. -/
theorem grants_apart (concurrency : Nat) (keys : KeyStore) (clock : Instant)
    (events : List (Span × LockEvent)) :
    (((start concurrency keys clock).tries events).filter (·.granted)).Pairwise fun (g h : LockTry) =>
      g.shard % max concurrency 1 = h.shard % max concurrency 1 →
        g.when_ + LockTurns.keyLife ≤ h.when_ := by
  induction events using List.reverseRecOn with
  | nil => exact .nil
  | append_singleton events e ih =>
    have orderly := after_orderly (start_orderly concurrency keys clock) events
    have ledger := run_ledger concurrency keys clock events
    rw [tries_concat, List.filter_append]
    refine List.pairwise_append.mpr ⟨ih, ?_, ?_⟩
    · apply List.Pairwise.filter
      rcases step_cases ((start concurrency keys clock).after events) e with ⟨none, _⟩ | ⟨_, _, _, _, one, _⟩
      · rw [none]
        exact .nil
      · rw [one]
        exact List.pairwise_singleton ..
    · intro g before h new congruent
      obtain ⟨past, granted⟩ := List.mem_filter.mp before
      obtain ⟨tried, grants⟩ := List.mem_filter.mp new
      obtain ⟨_, honest⟩ := step_honest orderly e h tried
      have acquired := (step_acquired_iff orderly ledger tried).mp (honest.granted.mp grants)
      refine acquired.2.2 g past granted ?_
      rw [(tries_honest concurrency keys clock events g past).1, honest.key, congruent]

end SharedLocks
end SessionFleet
