import SessionFleet.RateLimit.Bucket
/- A bucket under any sequence of operations.  Each operation has an instant of its own, and the
   instants of a run need not be in order.

   What one operation does to the reset, to the requests that are left and to the bucket's identity
   is said here once; runs are followed by induction from these lemmas. -/
namespace SessionFleet

inductive BucketCall where
  | acquire (now : Instant)
  | request (now : Instant)
  | tick (now : Instant)
  | delay (now : Instant)
  | respond (h : LimitHeaders) (now : Instant)
  deriving DecidableEq, Repr

namespace Bucket

/-- Asking for the delay only looks at the bucket. -/
def call (b : Bucket) : BucketCall → Bucket
  | .acquire now => (b.acquire now).2
  | .request now => (b.request now).2
  | .tick now => b.tick now
  | .delay _ => b
  | .respond h now => b.respond h now

def after (b : Bucket) (calls : List BucketCall) : Bucket := calls.foldl call b

/-- Each call of a run with the bucket that it finds. -/
def course (b : Bucket) : List BucketCall → List (Bucket × BucketCall)
  | [] => []
  | c :: rest => (b, c) :: (b.call c).course rest

def grants (b : Bucket) : BucketCall → Bool
  | .acquire now => (b.acquire now).1
  | .request now => (b.request now).1.isNone
  | .tick _ | .delay _ | .respond _ _ => false

def granted (b : Bucket) : List BucketCall → Nat
  | [] => 0
  | c :: rest => (if b.grants c then 1 else 0) + (b.call c).granted rest

/-- The instant from which the bucket counts: its reset, or now if there is none yet. -/
def resetFrom (b : Bucket) (now : Instant) : Instant := b.nextReset.getD now

def refillDue (b : Bucket) (now : Instant) : Bool := b.trusted && b.resetFrom now < now

/-- The reset lies so far back that an exhausted bucket would let one request out. -/
def overdue (b : Bucket) (now : Instant) : Bool := staleTimeout < now - b.resetFrom now

/- A tick refills, releases, or at most notes when it happened. -/

theorem tick_of_refillDue {b : Bucket} {now : Instant} (due : b.refillDue now = true) :
    b.tick now =
      { b with nextReset := some (b.resetFrom now), remaining := b.limit, trusted := false } := by
  unfold refillDue resetFrom at due
  simp only [tick, due, ↓reduceIte, resetFrom]

theorem tick_of_released {b : Bucket} {now : Instant} (untrusted : b.trusted = false)
    (exhausted : b.remaining = 0) (late : b.overdue now = true) :
    b.tick now = { b with nextReset := some now, remaining := 1 } := by
  unfold overdue resetFrom at late
  simp only [tick, untrusted, exhausted, late, Bool.false_and, Bool.not_false, decide_true,
    Bool.and_self, Bool.false_eq_true, ↓reduceIte]

theorem tick_otherwise {b : Bucket} {now : Instant} (notDue : b.refillDue now = false)
    (kept : ¬ (b.trusted = false ∧ b.remaining = 0 ∧ b.overdue now = true)) :
    b.tick now = { b with nextReset := some (b.resetFrom now) } := by
  unfold refillDue resetFrom at notDue
  unfold overdue resetFrom at kept
  have unreleased : (!b.trusted && decide (b.remaining = 0) &&
      decide ((staleTimeout : Int) < now - b.nextReset.getD now)) = false := by
    cases trusted : b.trusted <;> simp_all
  simp only [tick, notDue, unreleased, Bool.false_eq_true, ↓reduceIte, resetFrom]

theorem tick_cases (b : Bucket) (now : Instant) :
    (b.refillDue now = true ∧ b.tick now =
      { b with nextReset := some (b.resetFrom now), remaining := b.limit, trusted := false }) ∨
    (b.trusted = false ∧ b.remaining = 0 ∧ b.overdue now = true ∧
      b.tick now = { b with nextReset := some now, remaining := 1 }) ∨
    (b.refillDue now = false ∧ ¬ (b.trusted = false ∧ b.remaining = 0 ∧ b.overdue now = true) ∧
      b.tick now = { b with nextReset := some (b.resetFrom now) }) := by
  cases due : b.refillDue now with
  | true => exact Or.inl ⟨rfl, tick_of_refillDue due⟩
  | false =>
    by_cases released : b.trusted = false ∧ b.remaining = 0 ∧ b.overdue now = true
    · obtain ⟨untrusted, exhausted, late⟩ := released
      exact Or.inr (Or.inl ⟨untrusted, exhausted, late, tick_of_released untrusted exhausted late⟩)
    · exact Or.inr (Or.inr ⟨rfl, released, tick_otherwise due released⟩)

/-- An exhausted bucket stays at nothing left, so one form covers both answers. -/
theorem acquire_eq (b : Bucket) (now : Instant) :
    b.acquire now =
      (decide (0 < b.remaining), { b with remaining := b.remaining - 1, lastUsed := now }) := by
  unfold acquire
  split
  · rename_i left
    simp [left]
  · rename_i exhausted
    simp [Nat.eq_zero_of_not_pos exhausted]

theorem request_bucket (b : Bucket) (now : Instant) :
    (b.request now).2 =
      { b.tick now with remaining := (b.tick now).remaining - 1, lastUsed := now } := by
  simp only [request, acquire_eq]
  split <;> rfl

theorem request_granted_iff (b : Bucket) (now : Instant) :
    (b.request now).1 = none ↔ 0 < (b.tick now).remaining := by
  simp only [request, acquire_eq]
  split <;> simp_all

theorem request_denied {b : Bucket} {now : Instant} {delay : Span}
    (denied : (b.request now).1 = some delay) :
    (b.tick now).remaining = 0 ∧ delay = (b.request now).2.resetDelay now := by
  have exhausted : (b.tick now).remaining = 0 := by
    by_cases left : 0 < (b.tick now).remaining
    · rw [(b.request_granted_iff now).mpr left] at denied
      cases denied
    · exact Nat.eq_zero_of_not_pos left
  refine ⟨exhausted, ?_⟩
  simp only [request, acquire_eq, exhausted, Nat.lt_irrefl, decide_false, Bool.false_eq_true,
    ↓reduceIte, Option.some.injEq] at denied ⊢
  exact denied.symm

theorem request_of_untrusted {b : Bucket} {now : Instant} (exhausted : (b.tick now).remaining = 0)
    (untrusted : (b.tick now).trusted = false) : (b.request now).1 = some fallbackDelay := by
  simp only [request, acquire_eq, exhausted, Nat.lt_irrefl, decide_false, Bool.false_eq_true,
    ↓reduceIte, resetDelay, untrusted, Bool.not_false]

/- What no operation changes. -/

def identity (b : Bucket) : String × Nat := (b.key, b.major)

theorem tick_identity (b : Bucket) (now : Instant) : (b.tick now).identity = b.identity := by
  obtain ⟨_, refilled⟩ | ⟨_, _, _, released⟩ | ⟨_, _, noted⟩ := b.tick_cases now
  · rw [refilled]; rfl
  · rw [released]; rfl
  · rw [noted]; rfl

theorem request_identity (b : Bucket) (now : Instant) :
    (b.request now).2.identity = b.identity := by
  rw [request_bucket, ← b.tick_identity now]
  rfl

theorem tick_seeded (b : Bucket) (now : Instant) : (b.tick now).seeded = b.seeded := by
  obtain ⟨_, refilled⟩ | ⟨_, _, _, released⟩ | ⟨_, _, noted⟩ := b.tick_cases now
  · rw [refilled]
  · rw [released]
  · rw [noted]

theorem request_seeded (b : Bucket) (now : Instant) : (b.request now).2.seeded = b.seeded := by
  rw [request_bucket]
  exact b.tick_seeded now

theorem tick_limit (b : Bucket) (now : Instant) : (b.tick now).limit = b.limit := by
  obtain ⟨_, refilled⟩ | ⟨_, _, _, released⟩ | ⟨_, _, noted⟩ := b.tick_cases now
  · rw [refilled]
  · rw [released]
  · rw [noted]

theorem request_limit (b : Bucket) (now : Instant) : (b.request now).2.limit = b.limit := by
  rw [request_bucket]
  exact b.tick_limit now

/- A response moves the reset, then sets the limit, then seeds; no part touches another's fields. -/

theorem moveReset_eq (b : Bucket) (t : Option Instant) :
    b.moveReset t =
      { b with
        nextReset := (b.moveReset t).nextReset
        trusted := (b.moveReset t).trusted } := by
  unfold moveReset
  split
  · rfl
  · split <;> rfl

theorem seed_eq (b : Bucket) (n : Option Nat) :
    b.seed n = { b with remaining := (b.seed n).remaining, seeded := b.seeded || n.isSome } := by
  cases n with
  | none => simp [seed]
  | some n =>
    cases seeded : b.seeded with
    | true =>
      simp only [seed, seeded, ↓reduceIte, Bool.true_or]
      rw [← seeded]
    | false => simp [seed, seeded]

/-- What a first response leaves, or any other one. -/
def seedsTo (b : Bucket) (n : Option Nat) : Nat :=
  if b.seeded then b.remaining else min (n.getD b.remaining) b.remaining

theorem seed_remaining (b : Bucket) (n : Option Nat) : (b.seed n).remaining = b.seedsTo n := by
  cases n with
  | none => simp [seed, seedsTo]
  | some n => cases seeded : b.seeded <;> simp [seed, seedsTo, seeded]

theorem seedsTo_le (b : Bucket) (n : Option Nat) : b.seedsTo n ≤ b.remaining := by
  unfold seedsTo
  split <;> omega

theorem respond_eq (b : Bucket) (h : LimitHeaders) (now : Instant) :
    b.respond h now =
      { b with
        nextReset := (b.moveReset (announcedReset h now)).nextReset
        trusted := (b.moveReset (announcedReset h now)).trusted
        limit := h.limit.getD b.limit
        remaining := b.seedsTo h.remaining
        seeded := b.seeded || h.remaining.isSome } := by
  unfold respond
  rw [seed_eq, seed_remaining, moveReset_eq]
  cases h.limit <;> rfl

theorem respond_identity (b : Bucket) (h : LimitHeaders) (now : Instant) :
    (b.respond h now).identity = b.identity := by
  rw [respond_eq]
  rfl

theorem respond_remaining_le (b : Bucket) (h : LimitHeaders) (now : Instant) :
    (b.respond h now).remaining ≤ b.remaining := by
  rw [respond_eq]
  exact b.seedsTo_le h.remaining

theorem first_respond_remaining_le {b : Bucket} {h : LimitHeaders} {n : Nat}
    (first : b.seeded = false) (told : h.remaining = some n) (now : Instant) :
    (b.respond h now).remaining ≤ n := by
  rw [respond_eq]
  simp only [seedsTo, first, told, Bool.false_eq_true, ↓reduceIte, Option.getD_some]
  omega

/- The reset: once known it only moves later, and until it passes nothing is refilled. -/

def ResetsNotBefore (b : Bucket) (t : Instant) : Prop := ∃ reset, b.nextReset = some reset ∧ t ≤ reset

theorem tick_before_reset {b : Bucket} {t now : Instant} (ahead : b.ResetsNotBefore t)
    (early : now ≤ t) : b.tick now = b := by
  obtain ⟨reset, known, later⟩ := ahead
  have from_reset : b.resetFrom now = reset := by simp [resetFrom, known]
  have before : now ≤ reset := Int.le_trans early later
  have notDue : b.refillDue now = false := by simp [refillDue, from_reset, Int.not_lt.mpr before]
  have notLate : b.overdue now = false := by
    have elapsed : now - reset ≤ (staleTimeout : Int) :=
      Int.le_trans (Int.sub_nonpos_of_le before) (Int.natCast_nonneg _)
    simp [overdue, from_reset, Int.not_lt.mpr elapsed]
  rw [tick_otherwise notDue (by simp [notLate]), from_reset, ← known]

theorem request_before_reset {b : Bucket} {t now : Instant} (ahead : b.ResetsNotBefore t)
    (early : now ≤ t) :
    (b.request now).2.ResetsNotBefore t ∧
      (b.request now).2.remaining + (if (b.request now).1 = none then 1 else 0) = b.remaining := by
  have granted_iff := b.request_granted_iff now
  rw [request_bucket]
  rw [tick_before_reset ahead early] at granted_iff ⊢
  refine ⟨ahead, ?_⟩
  split
  · rename_i granted
    have left := granted_iff.mp granted
    simp only
    omega
  · rename_i denied
    have exhausted : ¬ 0 < b.remaining := fun left => denied (granted_iff.mpr left)
    simp only
    omega

theorem moveReset_keeps {b : Bucket} {t : Instant} (ahead : b.ResetsNotBefore t)
    (candidate : Option Instant) : (b.moveReset candidate).ResetsNotBefore t := by
  obtain ⟨reset, known, later⟩ := ahead
  cases candidate with
  | none => exact ⟨reset, known, later⟩
  | some s =>
    by_cases moves : reset < s
    · exact ⟨s, by simp [moveReset, known, moves], Int.le_trans later (Int.le_of_lt moves)⟩
    · exact ⟨reset, by simp [moveReset, known, moves], later⟩

theorem moveReset_reaches (b : Bucket) (t : Instant) : (b.moveReset (some t)).ResetsNotBefore t := by
  unfold moveReset
  cases known : b.nextReset with
  | none => exact ⟨t, by simp, Int.le_refl t⟩
  | some reset =>
    by_cases moves : reset < t
    · exact ⟨t, by simp [moves], Int.le_refl t⟩
    · exact ⟨reset, by simp [moves, known], Int.not_lt.mp moves⟩

theorem respond_keeps {b : Bucket} {t : Instant} (ahead : b.ResetsNotBefore t) (h : LimitHeaders)
    (now : Instant) : (b.respond h now).ResetsNotBefore t := by
  obtain ⟨reset, known, later⟩ := moveReset_keeps ahead (announcedReset h now)
  exact ⟨reset, by rw [respond_eq]; exact known, later⟩

theorem respond_reaches {h : LimitHeaders} {now t : Instant} (b : Bucket)
    (announced : announcedReset h now = some t) : (b.respond h now).ResetsNotBefore t := by
  obtain ⟨reset, known, later⟩ := b.moveReset_reaches t
  exact ⟨reset, by rw [respond_eq, announced]; exact known, later⟩

end Bucket
end SessionFleet
