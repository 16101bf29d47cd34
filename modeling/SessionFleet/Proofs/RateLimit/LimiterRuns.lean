import SessionFleet.Proofs.RateLimit.RegistryLaws
import SessionFleet.RateLimit.Limiter
/- A limiter under any sequence of calls: checks and responses of any callers, pruning, and what
   can be asked of the registry directly.  Each call brings its own instants, in no order of time. -/
namespace SessionFleet

inductive LimiterCall where
  | check (endpoint : String) (major : Nat) (now wall : Instant)
  | respond (h : LimitHeaders) (endpoint : String) (major : Nat) (now wall : Instant)
  | prune (now : Instant)
  | learn (endpoint key : String) (limit : Option Nat)
  | fetch (endpoint : String) (major : Nat) (wall : Instant)
  deriving DecidableEq, Repr

inductive LimiterAnswer where
  | admission (a : Admission)
  | bucket (b : Option Bucket)
  | pruned (count : Nat)
  | done
  deriving DecidableEq, Repr

/-- The response goes to this bucket: it carries everything and is not about all endpoints. -/
def LimiterCall.respondsTo (id : BucketId) : LimiterCall → Bool
  | .respond h _ major _ _ => h.complete && !h.global && h.bucket = some id.1 && major = id.2
  | _ => false

namespace Limiter

def call (l : Limiter) : LimiterCall → LimiterAnswer × Limiter
  | .check endpoint major now wall =>
    let (admission, l) := l.check endpoint major now wall
    (.admission admission, l)
  | .respond h endpoint major now wall => (.done, l.respond h endpoint major now wall)
  | .prune now =>
    (.pruned (l.registry.buckets.length - (l.registry.prune now).buckets.length), l.prune now)
  | .learn endpoint key limit => (.done, { l with registry := l.registry.learn endpoint key limit })
  | .fetch endpoint major wall =>
    let (found, registry) := l.registry.onBucket endpoint major wall fun b => (b, b)
    (.bucket found, { l with registry })

def after (l : Limiter) (calls : List LimiterCall) : Limiter :=
  calls.foldl (fun l c => (l.call c).2) l

/-- Each call of a run with its answer. -/
def trace (l : Limiter) : List LimiterCall → List (LimiterCall × LimiterAnswer)
  | [] => []
  | c :: rest => (c, (l.call c).1) :: (l.call c).2.trace rest

variable {l : Limiter} {h : LimitHeaders} {endpoint key : String} {major : Nat}
  {now wall : Instant}

theorem after_append (l : Limiter) (before later : List LimiterCall) :
    l.after (before ++ later) = (l.after before).after later :=
  List.foldl_append ..

/- What a check does, blocked or not. -/

theorem check_of_blocked (blocked : (l.blockedUntil now).isSome = true) :
    l.check endpoint major now wall = (.globallyBlocked, l) := by
  simp [check, blocked]

/-- The admission that a bucket's verdict means, without a bucket if there is none. -/
def admissionOf : Option (Option Span) → Admission
  | none => .allowed
  | some none => .allowed
  | some (some delay) => .retryAfter (delay + padding)

theorem check_of_open (endpoint : String) (major : Nat) (wall : Instant)
    (unblocked : l.blockedUntil now = none) :
    l.check endpoint major now wall =
      (admissionOf (l.registry.onBucket endpoint major wall fun b => b.request now).1,
        { l with registry := (l.registry.onBucket endpoint major wall fun b => b.request now).2 }) := by
  simp only [check, unblocked, Option.isSome_none, Bool.false_eq_true, ↓reduceIte]
  split <;> rename_i verdict <;> simp [verdict, admissionOf]

theorem admissionOf_allowed_iff (verdict : Option Span) :
    admissionOf (some verdict) = .allowed ↔ verdict = none := by
  cases verdict <;> simp [admissionOf]

theorem admissionOf_not_blocked (verdict : Option (Option Span)) :
    admissionOf verdict ≠ .globallyBlocked := by
  rcases verdict with _ | _ | _ <;> simp [admissionOf]

/- What a response does: nothing, the block, or one bucket. -/

theorem respond_of_incomplete (incomplete : h.complete = false) :
    l.respond h endpoint major now wall = l := by
  simp [respond, incomplete]

theorem respond_of_global (complete : h.complete = true) (global : h.global = true) :
    l.respond h endpoint major now wall = { l with globalExpiry := h.reset } := by
  simp [respond, complete, global]

theorem respond_of_key (complete : h.complete = true) (aboutOne : h.global = false)
    (named : h.bucket = some key) :
    l.respond h endpoint major now wall =
      { l with
        registry := ((l.registry.learn endpoint key h.limit).onBucket endpoint major wall
          fun b => ((), b.respond h now)).2 } := by
  simp [respond, complete, aboutOne, named]

theorem bucket_of_complete (complete : h.complete = true) : ∃ key, h.bucket = some key := by
  simp only [LimitHeaders.complete, Bool.and_eq_true] at complete
  exact Option.isSome_iff_exists.mp complete.2

theorem limit_of_complete (complete : h.complete = true) : ∃ limit, h.limit = some limit := by
  simp only [LimitHeaders.complete, Bool.and_eq_true] at complete
  exact Option.isSome_iff_exists.mp complete.1.1.1.1

theorem reset_of_complete (complete : h.complete = true) : ∃ reset, h.reset = some reset := by
  simp only [LimitHeaders.complete, Bool.and_eq_true] at complete
  exact Option.isSome_iff_exists.mp complete.1.1.2

theorem learn_mapped (r : Registry) (endpoint key : String) (major : Nat) (limit : Option Nat) :
    (r.learn endpoint key limit).bucketId? endpoint major = some (key, major) := by
  simp [Registry.learn, Registry.bucketId?, Table.get?_put_self]

/-- A property of buckets that new ones have, and that requests and the responses that reach them
    keep, holds of every bucket after a call. -/
theorem call_every {P : Bucket → Prop} {c : LimiterCall} (every : l.registry.Every P)
    (made : ∀ key major limit wall, P (Bucket.create key major limit wall))
    (requested : ∀ b endpoint now wall, c = .check endpoint b.major now wall → P b →
      P (b.request now).2)
    (responded : ∀ b h endpoint now wall, c = .respond h endpoint b.major now wall →
      c.respondsTo b.identity = true → P b → P (b.respond h now)) :
    (l.call c).2.registry.Every P := by
  cases c with
  | check endpoint major now wall =>
    simp only [call]
    cases blocked : l.blockedUntil now with
    | some expiry => rw [check_of_blocked (by simp [blocked])]; exact every
    | none =>
      rw [check_of_open endpoint major wall blocked]
      refine Registry.onBucket_every every (fun id limit _ => made id.1 id.2 limit wall)
        fun b mapped has => ⟨b.request_identity now, requested b endpoint now wall ?_ has⟩
      have sameMajor : b.major = major := Registry.major_of_bucketId? mapped
      rw [sameMajor]
  | respond h endpoint major now wall =>
    simp only [call]
    cases complete : h.complete with
    | false => rw [respond_of_incomplete complete]; exact every
    | true =>
      cases global : h.global with
      | true => rw [respond_of_global complete global]; exact every
      | false =>
        obtain ⟨key, named⟩ := bucket_of_complete complete
        rw [respond_of_key complete global named]
        refine Registry.onBucket_every (r := l.registry.learn endpoint key h.limit) every
          (fun id limit _ => made id.1 id.2 limit wall) fun b mapped has => ?_
        rw [learn_mapped] at mapped
        simp only [Option.some.injEq, Bucket.identity, Prod.mk.injEq] at mapped
        obtain ⟨sameKey, sameMajor⟩ := mapped
        refine ⟨b.respond_identity h now, responded b h endpoint now wall (by rw [sameMajor]) ?_ has⟩
        simp [LimiterCall.respondsTo, Bucket.identity, complete, global, named, sameKey, sameMajor]
  | prune now => exact fun e member => every e (List.mem_filter.mp member).1
  | learn endpoint key limit => exact every
  | fetch endpoint major wall =>
    exact Registry.onBucket_every (f := fun b => (b, b)) every
      (fun id limit _ => made id.1 id.2 limit wall) fun b _ has => ⟨rfl, has⟩

theorem call_wellFiled {c : LimiterCall} (filed : l.registry.WellFiled) :
    (l.call c).2.registry.WellFiled :=
  call_every filed (fun _ _ _ _ => trivial) (fun _ _ _ _ _ _ => trivial)
    fun _ _ _ _ _ _ _ _ => trivial

theorem after_wellFiled (calls : List LimiterCall) (filed : l.registry.WellFiled) :
    (l.after calls).registry.WellFiled := by
  induction calls generalizing l with
  | nil => exact filed
  | cons c rest ih => exact ih (call_wellFiled filed)

/-- What learning, pruning and every step on one bucket keep, every call keeps. -/
theorem call_keeps {I : Registry → Prop} {c : LimiterCall} (holds : I l.registry)
    (learned : ∀ r endpoint key limit, I r → I (r.learn endpoint key limit))
    (pruned : ∀ r now, I r → I (r.prune now))
    (stepped : ∀ {γ : Type} (r : Registry) (endpoint : String) (major : Nat) (wall : Instant)
      (f : Bucket → γ × Bucket), (∀ b, (f b).2.identity = b.identity) → I r →
      I (r.onBucket endpoint major wall f).2) :
    I (l.call c).2.registry := by
  cases c with
  | check endpoint major now wall =>
    simp only [call]
    cases blocked : l.blockedUntil now with
    | some expiry => rw [check_of_blocked (by simp [blocked])]; exact holds
    | none =>
      rw [check_of_open endpoint major wall blocked]
      exact stepped _ endpoint major wall _ (fun b => b.request_identity now) holds
  | respond h endpoint major now wall =>
    simp only [call]
    cases complete : h.complete with
    | false => rw [respond_of_incomplete complete]; exact holds
    | true =>
      cases global : h.global with
      | true => rw [respond_of_global complete global]; exact holds
      | false =>
        obtain ⟨key, named⟩ := bucket_of_complete complete
        rw [respond_of_key complete global named]
        exact stepped _ endpoint major wall (fun b => ((), b.respond h now))
          (fun b => b.respond_identity h now) (learned _ endpoint key h.limit holds)
  | prune now => exact pruned _ now holds
  | learn endpoint key limit => exact learned _ endpoint key limit holds
  | fetch endpoint major wall =>
    exact stepped _ endpoint major wall (fun b => (b, b)) (fun _ => rfl) holds

theorem after_sound (calls : List LimiterCall) (sound : l.registry.Sound) :
    (l.after calls).registry.Sound := by
  induction calls generalizing l with
  | nil => exact sound
  | cons c rest ih =>
    exact ih (call_keeps sound (fun _ endpoint key limit has => Registry.learn_sound has endpoint key limit)
      (fun _ now has => Registry.prune_sound has now) fun _ _ _ _ _ kept has => Registry.onBucket_sound has kept)

end Limiter
end SessionFleet
