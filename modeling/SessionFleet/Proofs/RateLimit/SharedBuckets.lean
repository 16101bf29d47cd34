import SessionFleet.Proofs.RateLimit.Forgetting
/- Who shares a bucket, and what does not reach it.

   There is one bucket for each key and major parameter, and endpoints share it as long as they are
   mapped to that key.  A step on an endpoint's bucket touches no other one.  So a bucket outlasts the
   time in which its endpoint is mapped elsewhere, unless it is forgotten or another endpoint uses it. -/
namespace SessionFleet
namespace LimiterCall

def endpoint? : LimiterCall → Option String
  | .check endpoint .. | .respond _ endpoint .. | .learn endpoint .. | .fetch endpoint .. => some endpoint
  | .prune _ => none

/-- Pruning that finds this bucket idle. -/
def drops (b : Bucket) : LimiterCall → Bool
  | .prune now => Registry.isIdle now b
  | .check .. | .respond .. | .learn .. | .fetch .. => false

end LimiterCall

namespace Registry

variable {r : Registry} {e₁ e₂ : String} {m₁ m₂ : Nat} {w₁ w₂ : Instant} {b b₁ b₂ : Bucket}

theorem mapped_of_found? (filed : r.WellFiled) (found : r.found? e₁ m₁ w₁ = some b) :
    r.bucketId? e₁ m₁ = some b.identity := by
  obtain ⟨⟨c, s⟩, entry, same⟩ := Option.map_eq_some_iff.mp found
  cases same
  exact (bucket?_every filed (fun _ _ _ => trivial) entry).2.2

theorem bucketId?_eq_iff {id : BucketId} (mapped : r.bucketId? e₁ m₁ = some id) :
    r.bucketId? e₁ m₁ = r.bucketId? e₂ m₂ ↔ r.keys.get? e₁ = r.keys.get? e₂ ∧ m₁ = m₂ := by
  obtain ⟨key, known, _⟩ := Option.map_eq_some_iff.mp mapped
  unfold bucketId?
  rw [known]
  cases r.keys.get? e₂ with
  | none => simp
  | some other => simp

/-- Two endpoints find the same bucket exactly if they are mapped to one key and ask with one major
    parameter. -/
theorem same_bucket_iff (filed : r.WellFiled) (first : r.found? e₁ m₁ w₁ = some b₁)
    (second : r.found? e₂ m₂ w₂ = some b₂) :
    b₁.identity = b₂.identity ↔ r.keys.get? e₁ = r.keys.get? e₂ ∧ m₁ = m₂ := by
  have mapped₁ := mapped_of_found? filed first
  have mapped₂ := mapped_of_found? filed second
  rw [← bucketId?_eq_iff mapped₁, mapped₁, mapped₂, Option.some.injEq]

theorem found?_store_own (mapped : r.bucketId? e₁ m₁ = some b.identity) :
    (r.store b).found? e₁ m₁ w₁ = some b :=
  found?_of_stored (r := r.store b) mapped (get?_store_own rfl)

theorem found?_store_of_ne (other : r.bucketId? e₁ m₁ ≠ some b.identity) :
    (r.store b).found? e₁ m₁ w₁ = r.found? e₁ m₁ w₁ := by
  cases mapped : r.bucketId? e₁ m₁ with
  | none =>
    rw [found?_of_unmapped mapped]
    exact found?_of_unmapped (r := r.store b) mapped
  | some id =>
    have away : b.identity ≠ id := fun same => other (by rw [mapped, same])
    have still := get?_store_of_ne (r := r) away
    cases stored : r.buckets.get? id with
    | some c =>
      rw [found?_of_stored mapped stored]
      exact found?_of_stored (r := r.store b) mapped (still.trans stored)
    | none =>
      rw [found?_of_absent mapped stored]
      exact found?_of_absent (r := r.store b) mapped (still.trans stored)

/-- What is done to the bucket of one endpoint shows in that of another exactly if they share it. -/
theorem found?_onBucket {γ : Type} {f : Bucket → γ × Bucket} (filed : r.WellFiled)
    (kept : ∀ b, (f b).2.identity = b.identity) (first : r.found? e₁ m₁ w₁ = some b₁)
    (second : r.found? e₂ m₂ w₂ = some b₂) :
    (r.onBucket e₁ m₁ w₁ f).2.found? e₂ m₂ w₂ =
      some (if b₁.identity = b₂.identity then (f b₁).2 else b₂) := by
  have mapped := mapped_of_found? filed second
  rw [onBucket_of_found first (kept b₁)]
  split
  · rename_i same
    exact found?_store_own (by rw [kept, same]; exact mapped)
  · rename_i other
    rw [← second]
    refine found?_store_of_ne ?_
    rw [kept, mapped]
    exact fun same => other (Option.some.inj same).symm

end Registry

namespace Limiter

variable {l : Limiter} {c : LimiterCall} {endpoint key : String} {major : Nat} {id : BucketId}
  {b : Bucket} {h : LimitHeaders} {now wall : Instant}

/-- The bucket that a call takes a request from or hands a response to. -/
def addressed (l : Limiter) : LimiterCall → Option BucketId
  | .check endpoint major now _ =>
    if (l.blockedUntil now).isSome then none else l.registry.bucketId? endpoint major
  | .respond h _ major _ _ =>
    if h.complete && !h.global then h.bucket.map fun key => (key, major) else none
  | .prune _ | .learn .. | .fetch .. => none

theorem check_elsewhere (filed : l.registry.WellFiled)
    (elsewhere : l.addressed (.check endpoint major now wall) ≠ some id) :
    (l.check endpoint major now wall).2.registry.buckets.get? id = l.registry.buckets.get? id := by
  cases blocked : l.blockedUntil now with
  | some expiry => rw [check_of_blocked (by simp [blocked])]
  | none =>
    rw [check_of_open endpoint major wall blocked]
    refine Registry.get?_onBucket_elsewhere wall filed (fun b => b.request_identity now) ?_
    simpa [addressed, blocked] using elsewhere

theorem respond_elsewhere (filed : l.registry.WellFiled)
    (elsewhere : l.addressed (.respond h endpoint major now wall) ≠ some id) :
    (l.respond h endpoint major now wall).registry.buckets.get? id = l.registry.buckets.get? id := by
  cases complete : h.complete with
  | false => rw [respond_of_incomplete complete]
  | true =>
    cases global : h.global with
    | true => rw [respond_of_global complete global]
    | false =>
      obtain ⟨key, named⟩ := bucket_of_complete complete
      rw [respond_of_key complete global named]
      refine Registry.get?_onBucket_elsewhere wall (r := l.registry.learn endpoint key h.limit)
        (f := fun b => ((), b.respond h now)) filed (fun b => b.respond_identity h now) ?_
      rw [learn_mapped]
      simpa [addressed, complete, global, named] using elsewhere

theorem call_elsewhere (sound : l.registry.Sound) (stored : l.registry.buckets.get? id = some b)
    (elsewhere : l.addressed c ≠ some id) (kept : c.drops b = false) :
    (l.call c).2.registry.buckets.get? id = some b := by
  cases c with
  | check endpoint major now wall => exact (check_elsewhere sound.filed elsewhere).trans stored
  | respond h endpoint major now wall =>
    exact (respond_elsewhere sound.filed elsewhere).trans stored
  | prune now =>
    refine (get?_prune sound stored now).trans ?_
    rw [show Registry.isIdle now b = false from kept]
    rfl
  | learn endpoint key limit => exact stored
  | fetch endpoint major wall =>
    exact Registry.get?_onBucket_unchanged endpoint major wall sound.filed stored

/-- Each call of a run with the limiter that it finds. -/
def course (l : Limiter) : List LimiterCall → List (Limiter × LimiterCall)
  | [] => []
  | c :: rest => (l, c) :: (l.call c).2.course rest

theorem after_elsewhere (calls : List LimiterCall) (sound : l.registry.Sound)
    (stored : l.registry.buckets.get? id = some b)
    (elsewhere : ∀ e ∈ l.course calls, e.1.addressed e.2 ≠ some id)
    (kept : ∀ c ∈ calls, c.drops b = false) :
    (l.after calls).registry.buckets.get? id = some b := by
  induction calls generalizing l with
  | nil => exact stored
  | cons c rest ih =>
    have next : (l.call c).2.registry.Sound := after_sound [c] sound
    exact ih next (call_elsewhere sound stored (elsewhere (l, c) (by simp [course])) (kept c (by simp)))
      (fun e member => elsewhere e (by simp [course, member])) fun d member => kept d (by simp [member])

/-- A call that an endpoint makes and that reaches a bucket leaves the endpoint mapped to it. -/
theorem mapped_of_addressed (own : c.endpoint? = some endpoint) (reaches : l.addressed c = some id) :
    (l.call c).2.registry.bucketId? endpoint id.2 = some id := by
  cases c with
  | check e major now wall =>
    obtain rfl : e = endpoint := Option.some.inj own
    cases blocked : l.blockedUntil now with
    | some expiry => simp [addressed, blocked] at reaches
    | none =>
      have mapped : l.registry.bucketId? e major = some id := by
        simpa [addressed, blocked] using reaches
      have sameMajor := Registry.major_of_bucketId? mapped
      simp only [call, check_of_open e major wall blocked]
      rw [sameMajor, ← mapped]
      simp only [Registry.bucketId?, (Registry.onBucket_learned _).1]
  | respond h e major now wall =>
    obtain rfl : e = endpoint := Option.some.inj own
    simp only [addressed] at reaches
    split at reaches
    · rename_i useful
      simp only [Bool.and_eq_true, Bool.not_eq_true'] at useful
      obtain ⟨key, named, same⟩ := Option.map_eq_some_iff.mp reaches
      simp only [call, respond_of_key useful.1 useful.2 named, ← same]
      rw [← learn_mapped l.registry e key major h.limit]
      simp only [Registry.bucketId?, (Registry.onBucket_learned _).1]
    · cases reaches
  | prune | learn | fetch => cases reaches

/- An endpoint that is mapped elsewhere for a time. -/

theorem found?_mapped_back {r : Registry} (stored : r.buckets.get? id = some b) (endpoint : String)
    (limit : Option Nat) (wall : Instant) :
    (r.learn endpoint id.1 limit).found? endpoint id.2 wall = some b :=
  Registry.found?_of_stored (learn_mapped r endpoint id.1 id.2 limit) stored

/-- The response that maps the endpoint back goes to the old bucket if it is about its major
    parameter. -/
theorem found?_respond_back (filed : l.registry.WellFiled)
    (stored : l.registry.buckets.get? id = some b) (complete : h.complete = true)
    (aboutOne : h.global = false) (named : h.bucket = some id.1) (endpoint : String) (major : Nat)
    (now wall wall' : Instant) :
    (l.respond h endpoint major now wall).registry.found? endpoint id.2 wall' =
      some (if major = id.2 then b.respond h now else b) := by
  let r := l.registry.learn endpoint id.1 h.limit
  let step : Bucket → Unit × Bucket := fun b => ((), b.respond h now)
  have keeps : ∀ b, (step b).2.identity = b.identity := fun b => b.respond_identity h now
  have mapped : ∀ m, r.bucketId? endpoint m = some (id.1, m) := fun m =>
    learn_mapped l.registry endpoint id.1 m h.limit
  have back : (r.onBucket endpoint major wall step).2.bucketId? endpoint id.2 = some id := by
    rw [← mapped id.2]
    simp only [Registry.bucketId?, (Registry.onBucket_learned step).1]
  rw [respond_of_key complete aboutOne named]
  refine Registry.found?_of_stored (r := (r.onBucket endpoint major wall step).2) back ?_
  by_cases same : major = id.2
  · rw [if_pos same, same, Registry.onBucket_of_stored wall step (mapped id.2) stored]
    exact Registry.get?_store_own ((keeps b).trans (Registry.every_of_get? filed stored).1)
  · rw [if_neg same]
    refine (Registry.get?_onBucket_elsewhere (r := r) wall filed keeps ?_).trans stored
    rw [mapped]
    exact fun own => same (congrArg Prod.snd (Option.some.inj own))

/-- The endpoint is mapped elsewhere in the course of these calls, no other endpoint uses its old
    bucket, and the bucket is not forgotten. -/
structure LeftAlone (l : Limiter) (endpoint : String) (id : BucketId) (b : Bucket)
    (away : List LimiterCall) : Prop where
  elsewhere : ∀ e ∈ l.course away, (e.1.call e.2).2.registry.bucketId? endpoint id.2 ≠ some id
  unused : ∀ e ∈ l.course away, e.1.addressed e.2 = some id → e.2.endpoint? = some endpoint
  kept : ∀ c ∈ away, c.drops b = false

theorem after_leftAlone {away : List LimiterCall} (sound : l.registry.Sound)
    (stored : l.registry.buckets.get? id = some b) (alone : l.LeftAlone endpoint id b away) :
    (l.after away).registry.buckets.get? id = some b := by
  refine after_elsewhere away sound stored ?_ alone.kept
  intro e member reaches
  exact alone.elsewhere e member (mapped_of_addressed (alone.unused e member reaches) reaches)

/-- After any calls there is one bucket for each key and major parameter, and it carries both.  Two
    endpoints find the same bucket exactly if they are mapped to the same key and ask with the same
    major parameter; then what is done to it through one shows in the other, and otherwise it does not.
    A check touches no bucket but the one of its endpoint, and a response none but the one that it
    names.  A bucket that is left alone while its endpoint is mapped elsewhere is found again as it
    was, and takes in the response that maps the endpoint back. -/
theorem buckets_shared_by_key_alone (history : List LimiterCall) :
    let l := empty.after history
    let r := l.registry
    (r.buckets.Distinct ∧ ∀ e ∈ r.buckets, (e.2.key, e.2.major) = e.1) ∧
      (∀ e₁ m₁ w₁ b₁ e₂ m₂ w₂ b₂, r.found? e₁ m₁ w₁ = some b₁ → r.found? e₂ m₂ w₂ = some b₂ →
        (b₁.identity = b₂.identity ↔ r.keys.get? e₁ = r.keys.get? e₂ ∧ m₁ = m₂) ∧
        ∀ {γ : Type} (f : Bucket → γ × Bucket), (∀ b, (f b).2.identity = b.identity) →
          (r.onBucket e₁ m₁ w₁ f).2.found? e₂ m₂ w₂ =
            some (if b₁.identity = b₂.identity then (f b₁).2 else b₂)) ∧
      (∀ endpoint major now wall id, r.bucketId? endpoint major ≠ some id →
        (l.check endpoint major now wall).2.registry.buckets.get? id = r.buckets.get? id) ∧
      (∀ h endpoint major now wall key id, h.complete = true → h.global = false →
        h.bucket = some key → id ≠ (key, major) →
        (l.respond h endpoint major now wall).registry.buckets.get? id = r.buckets.get? id) ∧
      ∀ endpoint id b away, r.buckets.get? id = some b → l.LeftAlone endpoint id b away →
        let back := l.after away
        (∀ limit wall, (back.registry.learn endpoint id.1 limit).found? endpoint id.2 wall = some b) ∧
          ∀ h major now wall wall', h.complete = true → h.global = false → h.bucket = some id.1 →
            (back.respond h endpoint major now wall).registry.found? endpoint id.2 wall' =
              some (if major = id.2 then b.respond h now else b) := by
  intro l r
  have sound : r.Sound := after_sound history Registry.empty_sound
  refine ⟨⟨sound.distinct, fun e member => (sound.filed e member).1⟩, ?_, ?_, ?_, ?_⟩
  · intro e₁ m₁ w₁ b₁ e₂ m₂ w₂ b₂ first second
    exact ⟨Registry.same_bucket_iff sound.filed first second,
      fun f kept => Registry.found?_onBucket sound.filed kept first second⟩
  · intro endpoint major now wall id elsewhere
    apply check_elsewhere sound.filed
    simp only [addressed]
    split
    · simp
    · exact elsewhere
  · intro h endpoint major now wall key id complete aboutOne named other
    apply respond_elsewhere sound.filed
    simp [addressed, complete, aboutOne, named, Ne.symm other]
  · intro endpoint id b away stored alone back
    have still : back.registry.buckets.get? id = some b := after_leftAlone sound stored alone
    have filed : back.registry.WellFiled := after_wellFiled away sound.filed
    exact ⟨fun limit wall => found?_mapped_back still endpoint limit wall,
      fun h major now wall wall' complete aboutOne named =>
        found?_respond_back filed still complete aboutOne named endpoint major now wall wall'⟩

/-- Two endpoints share a bucket.  One of them is mapped elsewhere and back while the other waits, and
    finds the bucket with the one request that it has left. -/
theorem bucket_outlasts_absence :
    let told (key : String) : LimitHeaders := { LimitHeaders.empty with
      limit := some 5, remaining := some 1, reset := some 1700000060000000000,
      resetAfter := some (Span.ofSeconds 60), bucket := some key }
    let start : Instant := 1700000000000000000
    let now : Instant := 1700000010000000000
    let history := [LimiterCall.respond (told "messages") "send" 7 start start,
      .respond (told "messages") "edit" 7 start start]
    let away := [LimiterCall.respond (told "uploads") "send" 7 now now, .check "send" 7 now now,
      .check "edit" 8 now now, .prune now]
    let l := empty.after history
    let b : Bucket := ⟨"messages", 7, 5, 1, some 1700000060000000000, true, true, start⟩
    let other : Bucket := ⟨"uploads", 7, 5, 0, some 1700000070000000000, true, true, now⟩
    l.registry.found? "send" 7 now = some b ∧ l.registry.found? "edit" 7 now = some b ∧
      (l.registry.onBucket "send" 7 now fun b => b.request now).2.found? "edit" 7 now =
        some { b with remaining := 0, lastUsed := now } ∧
      (l.check "send" 7 now now).2.registry.buckets.get? ("uploads", 7) = none ∧
      (l.respond (told "uploads") "send" 7 now now).registry.buckets.get? ("messages", 7) = some b ∧
      (l.after away).registry.found? "send" 7 now = some other ∧
      ((l.after away).registry.learn "send" "messages" none).found? "send" 7 now = some b ∧
      ((l.after away).respond (told "messages") "send" 7 now now).registry.found? "send" 7 now =
        some { b with nextReset := some 1700000070000000000 } := by
  intro told start now history away l b other
  have first : l.registry.found? "send" 7 now = some b := by decide +kernel
  have second : l.registry.found? "edit" 7 now = some b := by decide +kernel
  have stored : l.registry.buckets.get? ("messages", 7) = some b := by decide +kernel
  have alone : l.LeftAlone "send" ("messages", 7) b away := by
    refine ⟨?_, ?_, ?_⟩ <;> decide +kernel
  have absent : (l.after away).registry.found? "send" 7 now = some other := by decide +kernel
  obtain ⟨_, share, check, respond, back⟩ := buckets_shared_by_key_alone history
  obtain ⟨_, shows⟩ := share "send" 7 now b "edit" 7 now b first second
  have seen := shows (fun b => b.request now) fun b => b.request_identity now
  have unmade := check "send" 7 now now ("uploads", 7) (by decide +kernel)
  have untouched := respond (told "uploads") "send" 7 now now "uploads" ("messages", 7) rfl rfl rfl
    (by decide)
  obtain ⟨learned, responded⟩ := back "send" ("messages", 7) b away stored alone
  exact ⟨first, second, seen, unmade, untouched.trans stored, absent, learned none now,
    responded (told "messages") 7 now now now rfl rfl rfl⟩

end Limiter
end SessionFleet
