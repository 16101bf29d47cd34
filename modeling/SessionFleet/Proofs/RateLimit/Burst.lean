import SessionFleet.Proofs.RateLimit.BucketRuns
/- How many requests a bucket lets through at one instant.

   A burst can draw on the refill and on the one request that a long exhausted bucket releases.
   Both look at the same reset, and the refill does not move it: a bucket that is full, or that is
   about to be filled, more than the stale timeout after its reset gives out one request more than
   its limit.  In every other state the limit holds. -/
namespace SessionFleet
namespace Bucket

/-- What requests made at one instant can draw on. -/
def capacity (b : Bucket) (now : Instant) : Nat :=
  (if b.refillDue now then b.limit else b.remaining) + (if b.overdue now then 1 else 0)

theorem refillDue_of_overdue {b : Bucket} {now : Instant} (late : b.overdue now = true)
    (trusted : b.trusted = true) : b.refillDue now = true := by
  simp only [overdue, decide_eq_true_eq] at late
  have passed : b.resetFrom now < now :=
    Int.lt_of_sub_pos (Int.lt_of_le_of_lt (Int.natCast_nonneg _) late)
  simp [refillDue, trusted, passed]

theorem refillDue_of_untrusted {b : Bucket} (untrusted : b.trusted = false) (now : Instant) :
    b.refillDue now = false := by
  simp [refillDue, untrusted]

theorem not_overdue_at_reset {b : Bucket} {now : Instant} (known : b.nextReset = some now) :
    b.overdue now = false := by
  simp [overdue, resetFrom, known]

theorem overdue_of_same_reset {b c : Bucket} {now : Instant}
    (same : c.resetFrom now = b.resetFrom now) : c.overdue now = b.overdue now := by
  simp only [overdue, same]

/-- A tick moves all that a burst can draw on into `remaining`, but for what is released later. -/
theorem tick_capacity {b : Bucket} (positive : 0 < b.limit) (now : Instant) :
    (b.tick now).refillDue now = false ∧ (b.tick now).capacity now = b.capacity now ∧
      (0 < (b.tick now).remaining ↔ 0 < b.capacity now) := by
  obtain ⟨due, refilled⟩ | ⟨untrusted, exhausted, late, released⟩ | ⟨notDue, kept, noted⟩ :=
    b.tick_cases now
  · have filled : (b.tick now).remaining = b.limit := by rw [refilled]
    have notDue : (b.tick now).refillDue now = false :=
      refillDue_of_untrusted (by rw [refilled]) now
    have sameLate : (b.tick now).overdue now = b.overdue now :=
      overdue_of_same_reset (by rw [refilled]; rfl)
    refine ⟨notDue, ?_, ?_⟩
    · simp [capacity, notDue, sameLate, filled, due]
    · have held : b.limit ≤ b.capacity now := by
        simp only [capacity, due, ↓reduceIte]
        exact Nat.le_add_right _ _
      rw [filled]
      exact ⟨fun _ => Nat.lt_of_lt_of_le positive held, fun _ => positive⟩
  · have one : (b.tick now).remaining = 1 := by rw [released]
    have notDue : (b.tick now).refillDue now = false :=
      refillDue_of_untrusted (by rw [released]; exact untrusted) now
    have notLate : (b.tick now).overdue now = false := not_overdue_at_reset (by rw [released])
    refine ⟨notDue, ?_, ?_⟩
    · simp [capacity, notDue, notLate, one, refillDue_of_untrusted untrusted now, exhausted, late]
    · simp [capacity, one, late]
  · have sameReset : (b.tick now).resetFrom now = b.resetFrom now := by rw [noted]; rfl
    have same : (b.tick now).remaining = b.remaining := by rw [noted]
    have stillNotDue : (b.tick now).refillDue now = false := by
      have trusted : (b.tick now).trusted = b.trusted := by rw [noted]
      simpa [refillDue, sameReset, trusted] using notDue
    have sameLate := overdue_of_same_reset sameReset
    refine ⟨stillNotDue, ?_, ?_⟩
    · simp [capacity, stillNotDue, notDue, sameLate, same]
    · -- an exhausted bucket that is late would have been filled or released
      by_cases exhausted : b.remaining = 0
      · have notLate : b.overdue now = false := by
          cases late : b.overdue now with
          | false => rfl
          | true =>
            cases trusted : b.trusted with
            | false => exact absurd ⟨trusted, exhausted, late⟩ kept
            | true => simp [refillDue_of_overdue late trusted] at notDue
        simp [capacity, same, exhausted, notDue, notLate]
      · simp only [capacity, same, notDue, Bool.false_eq_true, ↓reduceIte]
        omega

/-- A request takes one from what a burst can draw on, and is denied only when nothing is there. -/
theorem request_capacity {b : Bucket} (positive : 0 < b.limit) (now : Instant) :
    ((b.request now).1 = none ↔ 0 < b.capacity now) ∧
      (b.request now).2.capacity now = b.capacity now - 1 := by
  obtain ⟨notDue, sameCapacity, left_iff⟩ := tick_capacity positive now
  refine ⟨(b.request_granted_iff now).trans left_iff, ?_⟩
  have stillNotDue : (b.request now).2.refillDue now = false := by rw [request_bucket]; exact notDue
  have sameLate : (b.request now).2.overdue now = (b.tick now).overdue now := by
    rw [request_bucket]; rfl
  have one_less : (b.request now).2.remaining = (b.tick now).remaining - 1 := by
    rw [request_bucket]
  rw [← sameCapacity] at left_iff ⊢
  simp only [capacity, notDue, stillNotDue, sameLate, one_less, Bool.false_eq_true, ↓reduceIte]
    at left_iff ⊢
  omega

theorem granted_burst {b : Bucket} (positive : 0 < b.limit) (now : Instant) (n : Nat) :
    b.granted (List.replicate n (.request now)) = min n (b.capacity now) := by
  induction n generalizing b with
  | zero => simp [granted]
  | succ n ih =>
    obtain ⟨granted_iff, left⟩ := request_capacity positive now
    have rest := ih (b := (b.request now).2) (by rwa [request_limit])
    simp only [List.replicate_succ, granted, call, grants, rest, left, Option.isNone_iff_eq_none,
      granted_iff]
    split <;> omega

/- Every state that a bucket of this limit reaches. -/

/-- An operation that, if it names a limit, names this one. -/
def NamesOnly (limit : Nat) : BucketCall → Prop
  | .respond h _ => ∀ n, h.limit = some n → n = limit
  | _ => True

/-- A bucket of this limit that holds no more than it. -/
structure Bounded (limit : Nat) (b : Bucket) : Prop where
  same : b.limit = limit
  within : b.remaining ≤ limit

theorem tick_bounded {limit : Nat} {b : Bucket} (positive : 0 < limit) (bounded : Bounded limit b)
    (now : Instant) : Bounded limit (b.tick now) := by
  refine ⟨by rw [tick_limit]; exact bounded.same, ?_⟩
  obtain ⟨_, refilled⟩ | ⟨_, _, _, released⟩ | ⟨_, _, noted⟩ := b.tick_cases now
  · rw [refilled]; exact Nat.le_of_eq bounded.same
  · rw [released]; exact positive
  · rw [noted]; exact bounded.within

theorem call_bounded {limit : Nat} {b : Bucket} (positive : 0 < limit) (bounded : Bounded limit b)
    {c : BucketCall} (names : NamesOnly limit c) : Bounded limit (b.call c) := by
  cases c with
  | acquire now =>
    simp only [call, acquire_eq]
    exact ⟨bounded.same, Nat.le_trans (Nat.sub_le _ _) bounded.within⟩
  | request now =>
    have ticked := tick_bounded positive bounded now
    simp only [call, request_bucket]
    exact ⟨ticked.same, Nat.le_trans (Nat.sub_le _ _) ticked.within⟩
  | tick now => exact tick_bounded positive bounded now
  | delay now => exact bounded
  | respond h now =>
    have fewer := b.respond_remaining_le h now
    refine ⟨?_, Nat.le_trans fewer bounded.within⟩
    rw [call, respond_eq]
    cases named : h.limit with
    | none => exact bounded.same
    | some n => exact names n named

theorem after_bounded {limit : Nat} (positive : 0 < limit) (calls : List BucketCall) {b : Bucket}
    (bounded : Bounded limit b) (names : ∀ c ∈ calls, NamesOnly limit c) :
    Bounded limit (b.after calls) := by
  induction calls generalizing b with
  | nil => exact bounded
  | cons c rest ih =>
    exact ih (call_bounded positive bounded (names c (by simp)))
      fun d member => names d (by simp [member])

theorem capacity_of_bounded {limit : Nat} {b : Bucket} (bounded : Bounded limit b) (now : Instant) :
    b.capacity now ≤ limit + 1 ∧
      (b.capacity now ≤ limit ↔
        ¬ (b.overdue now = true ∧ (b.trusted = true ∨ b.remaining = limit))) := by
  obtain ⟨same, within⟩ := bounded
  cases late : b.overdue now with
  | false =>
    simp only [capacity, late, same, Bool.false_eq_true, ↓reduceIte, false_and, not_false_eq_true,
      iff_true]
    split <;> omega
  | true =>
    cases trusted : b.trusted with
    | true => simp [capacity, late, refillDue_of_overdue late trusted, same]
    | false =>
      simp only [capacity, late, refillDue_of_untrusted trusted now, Bool.false_eq_true, ↓reduceIte,
        false_or, true_and]
      omega

/-- A burst stays within the limit exactly when the bucket is not both long past its reset and full
    or waiting to be filled; else it gets one request more, never two. -/
theorem burst_within_limit_iff (key : String) (major limit : Nat) (created : Instant)
    (positive : 0 < limit) (calls : List BucketCall) (names : ∀ c ∈ calls, NamesOnly limit c)
    (now : Instant) :
    let b := (create key major limit created).after calls
    ((∀ n, b.granted (List.replicate n (.request now)) ≤ limit) ↔
        ¬ (b.overdue now = true ∧ (b.trusted = true ∨ b.remaining = limit))) ∧
      ∀ n, b.granted (List.replicate n (.request now)) ≤ limit + 1 := by
  intro b
  have bounded : Bounded limit b :=
    after_bounded positive calls ⟨rfl, Nat.le_refl limit⟩ names
  obtain ⟨most, within_iff⟩ := capacity_of_bounded bounded now
  have burst := granted_burst (b := b) (by rw [bounded.same]; exact positive) now
  refine ⟨?_, fun n => by rw [burst]; omega⟩
  rw [← within_iff]
  constructor
  · intro all
    have most_granted := all (b.capacity now)
    rwa [burst, Nat.min_self] at most_granted
  · intro within n
    rw [burst]
    omega

theorem burst_of_single_slot_bucket :
    0 < 1 ∧ (∀ c ∈ [BucketCall.request 0], NamesOnly 1 c) ∧
      (let b := (create "key" 1 1 0).after [.request 0]
       ((∀ n, b.granted (List.replicate n (.request 0)) ≤ 1) ↔
          ¬ (b.overdue 0 = true ∧ (b.trusted = true ∨ b.remaining = 1))) ∧
        ∀ n, b.granted (List.replicate n (.request 0)) ≤ 1 + 1) :=
  ⟨by decide, by simp [NamesOnly],
    burst_within_limit_iff "key" 1 1 0 (by decide) [.request 0] (by simp [NamesOnly]) 0⟩

/-- The only response leaves one request and resets a second later.  Ten seconds after it a bucket
    of limit 1 lets two requests through at one instant: one refilled, one released as stale. -/
theorem two_pass_a_single_slot_bucket :
    let h := { LimitHeaders.empty with
      limit := some 1, remaining := some 1, resetAfter := some (Span.ofSeconds 1) }
    let calls := [BucketCall.respond h 1700000000000000000]
    (∀ c ∈ calls, NamesOnly 1 c) ∧
      ((create "key" 1 1 1700000000000000000).after calls).granted
        (List.replicate 2 (.request 1700000010000000000)) = 2 := by
  refine ⟨?_, by decide⟩
  simp [NamesOnly]

end Bucket
end SessionFleet
