import Mathlib.Data.List.Nodup
import Mathlib.Data.List.TakeWhile
import SessionFleet.Identify.LocalTurns
/- What one round does to the line.  In the line of a bucket, all that stand before the oldest waiter
   who is still there leave it, that waiter is granted a turn, and the others stay as they are. -/
namespace SessionFleet
namespace LocalTurns

def ofBucket (n b : Nat) (ws : List Waiter) : List Waiter := ws.filter fun w => w.shard % n = b

/-- From the oldest waiter on who is still there. -/
def live (ws : List Waiter) : List Waiter := ws.dropWhile fun w => !w.present

variable {n b : Nat} {w : Waiter} {ws : List Waiter} {served : List Nat}

theorem ofBucket_cons_same (same : w.shard % n = b) :
    ofBucket n b (w :: ws) = w :: ofBucket n b ws := by
  simp [ofBucket, same]

theorem ofBucket_cons_other (other : w.shard % n ≠ b) :
    ofBucket n b (w :: ws) = ofBucket n b ws := by
  simp [ofBucket, other]

theorem mem_ofBucket : w ∈ ofBucket n b ws ↔ w ∈ ws ∧ w.shard % n = b := by
  simp [ofBucket]

/- The three ways in which a round goes past a waiter. -/

theorem serve_passing (done : w.shard % n ∈ served) :
    serve n served (w :: ws) = ((serve n served ws).1, w :: (serve n served ws).2) := by
  simp [serve, done]

theorem serve_granting (waits : w.shard % n ∉ served) (there : w.present = true) :
    serve n served (w :: ws) =
      (w :: (serve n (w.shard % n :: served) ws).1, (serve n (w.shard % n :: served) ws).2) := by
  simp [serve, waits, there]

theorem serve_dropping (waits : w.shard % n ∉ served) (gone : w.present = false) :
    serve n served (w :: ws) = serve n served ws := by
  simp [serve, waits, gone]

/-- A bucket that has granted its turn is left alone; every other one grants it to the oldest waiter
    who is still there, and all before that waiter are gone. -/
theorem serve_ofBucket (n b : Nat) (served : List Nat) (ws : List Waiter) :
    ofBucket n b (serve n served ws).1 =
        (if b ∈ served then [] else (live (ofBucket n b ws)).take 1) ∧
      ofBucket n b (serve n served ws).2 =
        (if b ∈ served then ofBucket n b ws else (live (ofBucket n b ws)).drop 1) := by
  induction ws generalizing served with
  | nil => simp [serve, ofBucket, live]
  | cons w ws ih =>
    by_cases same : w.shard % n = b
    · rw [ofBucket_cons_same same]
      by_cases done : b ∈ served
      · obtain ⟨granted, kept⟩ := ih served
        rw [serve_passing (by rwa [same])]
        simp only [done, ↓reduceIte] at granted kept ⊢
        exact ⟨granted, by rw [ofBucket_cons_same same, kept]⟩
      · cases there : w.present with
        | true =>
          obtain ⟨granted, kept⟩ := ih (w.shard % n :: served)
          rw [serve_granting (by rwa [same]) there]
          simp only [same, List.mem_cons, true_or, done, ↓reduceIte] at granted kept ⊢
          have first : live (w :: ofBucket n b ws) = w :: ofBucket n b ws := by simp [live, there]
          rw [first, ofBucket_cons_same same, granted, kept]
          exact ⟨rfl, rfl⟩
        | false =>
          obtain ⟨granted, kept⟩ := ih served
          rw [serve_dropping (by rwa [same]) there]
          have skipped : live (w :: ofBucket n b ws) = live (ofBucket n b ws) := by
            simp [live, there]
          rw [skipped]
          simp only [done, ↓reduceIte] at granted kept ⊢
          exact ⟨granted, kept⟩
    · rw [ofBucket_cons_other same]
      by_cases done : w.shard % n ∈ served
      · obtain ⟨granted, kept⟩ := ih served
        rw [serve_passing done]
        exact ⟨granted, by rw [ofBucket_cons_other same, kept]⟩
      · cases there : w.present with
        | true =>
          obtain ⟨granted, kept⟩ := ih (w.shard % n :: served)
          rw [serve_granting done there, ofBucket_cons_other same, granted, kept]
          have other : b ≠ w.shard % n := fun equal => same equal.symm
          simp only [List.mem_cons, other, false_or, and_self]
        | false =>
          rw [serve_dropping done there]
          exact ih served

/-- Nobody is granted a turn who is not in line, no bucket grants two, and none that had granted its
    turn before grants another. -/
theorem serve_distinct (n : Nat) (served : List Nat) (ws : List Waiter) :
    (serve n served ws).1.Sublist ws ∧ (serve n served ws).2.Sublist ws ∧
      (serve n served ws).1.Pairwise (fun v w => v.shard % n ≠ w.shard % n) ∧
      ∀ w ∈ (serve n served ws).1, w.shard % n ∉ served := by
  induction ws generalizing served with
  | nil => simp [serve]
  | cons w ws ih =>
    by_cases done : w.shard % n ∈ served
    · obtain ⟨granted, kept, distinct, fresh⟩ := ih served
      rw [serve_passing done]
      exact ⟨granted.cons w, kept.cons_cons w, distinct, fresh⟩
    · cases there : w.present with
      | true =>
        obtain ⟨granted, kept, distinct, fresh⟩ := ih (w.shard % n :: served)
        rw [serve_granting done there]
        refine ⟨granted.cons_cons w, kept.cons w, ?_, ?_⟩
        · apply List.Pairwise.cons
          · intro v member same
            exact fresh v member (by simp [same])
          · exact distinct
        · intro v member
          rcases List.mem_cons.mp member with equal | later
          · rw [equal]
            exact done
          · intro before
            exact fresh v later (List.mem_cons_of_mem _ before)
      | false =>
        obtain ⟨granted, kept, distinct, fresh⟩ := ih served
        rw [serve_dropping done there]
        exact ⟨granted.cons w, kept.cons w, distinct, fresh⟩

/- A whole round. -/

variable {q : LocalTurns}

/-- The waiters of a bucket, oldest first. -/
def line (q : LocalTurns) (b : Nat) : List Waiter := ofBucket q.concurrency b q.waiting

theorem callUp_perm (q : LocalTurns) :
    q.callUp.1.Perm (serve q.concurrency [] q.waiting).1 :=
  List.mergeSort_perm ..

theorem callUp_ofBucket (q : LocalTurns) (b : Nat) :
    ofBucket q.concurrency b q.callUp.1 = (live (q.line b)).take 1 := by
  have granted := (serve_ofBucket q.concurrency b [] q.waiting).1
  simp only [List.not_mem_nil, ↓reduceIte] at granted
  have same := q.callUp_perm.filter fun w => w.shard % q.concurrency = b
  change List.Perm (ofBucket q.concurrency b q.callUp.1) (ofBucket q.concurrency b _) at same
  rw [granted] at same
  -- two orders of at most one waiter are the same
  cases oldest : live (q.line b) with
  | nil =>
    rw [line] at oldest
    rw [oldest] at same
    exact same.eq_nil
  | cons w rest =>
    rw [line] at oldest
    rw [oldest] at same
    exact List.perm_singleton.mp same

/-- In each bucket the oldest waiter who is still there is granted a turn, and nobody else. -/
theorem callUp_oldest (q : LocalTurns) (b : Nat) :
    ofBucket q.concurrency b q.callUp.1 = ((q.line b).find? (·.present)).toList := by
  rw [callUp_ofBucket, live, List.find?_eq_head?_dropWhile_not]
  cases (q.line b).dropWhile fun w => !w.present <;> rfl

theorem kept_ofBucket (q : LocalTurns) (b : Nat) :
    ofBucket q.concurrency b q.callUp.2 = (live (q.line b)).drop 1 := by
  have kept := (serve_ofBucket q.concurrency b [] q.waiting).2
  simp only [List.not_mem_nil, ↓reduceIte] at kept
  exact kept

theorem called_of_mem (member : w ∈ q.callUp.1) : w ∈ q.waiting :=
  (serve_distinct q.concurrency [] q.waiting).1.subset (q.callUp_perm.mem_iff.mp member)

theorem kept_sublist (q : LocalTurns) : q.callUp.2.Sublist q.waiting :=
  (serve_distinct q.concurrency [] q.waiting).2.1

theorem called_present (member : w ∈ q.callUp.1) : w.present = true := by
  have own : w ∈ ofBucket q.concurrency (w.shard % q.concurrency) q.callUp.1 :=
    mem_ofBucket.mpr ⟨member, rfl⟩
  rw [callUp_oldest, Option.mem_toList] at own
  exact List.find?_some own

theorem called_distinct_buckets (q : LocalTurns) :
    q.callUp.1.Pairwise fun v w => v.shard % q.concurrency ≠ w.shard % q.concurrency := by
  have distinct := (serve_distinct q.concurrency [] q.waiting).2.2.1
  exact (q.callUp_perm.pairwise_iff fun differ => differ.symm).mpr distinct

/-- A round grants at most one turn for each bucket that there is. -/
theorem called_length_le (positive : 0 < q.concurrency) :
    q.callUp.1.length ≤ q.concurrency := by
  have distinct : (q.callUp.1.map fun w => w.shard % q.concurrency).Nodup :=
    List.pairwise_map.mpr q.called_distinct_buckets
  have within : q.callUp.1.map (fun w => w.shard % q.concurrency) ⊆ List.range q.concurrency := by
    intro bucket member
    obtain ⟨w, _, rfl⟩ := List.mem_map.mp member
    exact List.mem_range.mpr (Nat.mod_lt _ positive)
  have bound := distinct.length_le_of_subset within
  simpa only [List.length_map, List.length_range] using bound

/-- A round that grants nobody leaves nobody behind. -/
theorem kept_of_none_called (nobody : q.callUp.1.isEmpty = true) : q.callUp.2 = [] := by
  rw [List.isEmpty_iff] at nobody
  apply List.eq_nil_iff_forall_not_mem.mpr
  intro w member
  have own : w ∈ ofBucket q.concurrency (w.shard % q.concurrency) q.callUp.2 :=
    mem_ofBucket.mpr ⟨member, rfl⟩
  have none_live : live (q.line (w.shard % q.concurrency)) = [] := by
    have granted := q.callUp_ofBucket (w.shard % q.concurrency)
    rw [nobody] at granted
    cases oldest : live (q.line (w.shard % q.concurrency)) with
    | nil => rfl
    | cons v rest => simp [oldest, ofBucket] at granted
  rw [kept_ofBucket, none_live] at own
  simp at own

/- What a round does to the keepers: the one who held it stays if somebody was granted a turn. -/

theorem round_of_called (called : q.callUp.1.isEmpty = false) (now : Instant) :
    (q.round now).2 =
      { q with waiting := q.callUp.2, keepers := (now + period) :: q.keepers.tail } := by
  simp [round, called]

theorem round_of_none_called (nobody : q.callUp.1.isEmpty = true) (now : Instant) :
    (q.round now).2 = { q with waiting := [], awake := false, keepers := q.keepers.tail } := by
  simp [round, nobody, kept_of_none_called nobody]

theorem round_waiting (q : LocalTurns) (now : Instant) : (q.round now).2.waiting = q.callUp.2 := by
  simp only [round]
  split <;> rfl

theorem round_concurrency (q : LocalTurns) (now : Instant) :
    (q.round now).2.concurrency = q.concurrency := by
  simp only [round]
  split <;> rfl

/- What else happens to the line. -/

theorem join_waiting (q : LocalTurns) (ticket shard : Nat) (now : Instant) :
    (q.join ticket shard now).waiting = q.waiting ++ [⟨ticket, shard, true⟩] := by
  simp only [join]
  split <;> rfl

theorem join_concurrency (q : LocalTurns) (ticket shard : Nat) (now : Instant) :
    (q.join ticket shard now).concurrency = q.concurrency := by
  simp only [join]
  split <;> rfl

theorem abandon_waiting (q : LocalTurns) (ticket : Nat) :
    (q.abandon ticket).waiting.map (·.ticket) = q.waiting.map (·.ticket) := by
  simp only [abandon, List.map_map]
  apply List.map_congr_left
  intro w _
  simp only [Function.comp_apply]
  split <;> rfl

end LocalTurns
end SessionFleet
