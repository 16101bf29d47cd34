import SessionFleet.Proofs.RateLimit.LimiterRuns
/- Between a response and the reset that it announces, a bucket lets through no more than what it had
   left right after the response.

   The reset of the bucket lies at or after the announced one, and it only moves later.  So no check
   inside the window finds it passed: nothing is refilled, nothing is released as stale, and each
   check that is let through takes one of the requests that are left. -/
namespace SessionFleet

/-- Anything may happen in a window except pruning, as long as no check is made after its end. -/
def LimiterCall.InWindow (stop : Instant) : LimiterCall → Prop
  | .check _ _ now _ => now ≤ stop
  | .prune _ => False
  | .respond .. | .learn .. | .fetch .. => True

namespace Limiter

/-- A check lets a request through, and its endpoint is mapped to this bucket. -/
def admits (l : Limiter) (id : BucketId) : LimiterCall → Bool
  | .check endpoint major now wall =>
    l.registry.bucketId? endpoint major = some id &&
      (l.check endpoint major now wall).1 = .allowed
  | .respond .. | .prune _ | .learn .. | .fetch .. => false

def admitted (l : Limiter) (id : BucketId) : List LimiterCall → Nat
  | [] => 0
  | c :: rest => (if l.admits id c then 1 else 0) + (l.call c).2.admitted id rest

variable {l : Limiter} {h : LimitHeaders} {endpoint key : String} {major : Nat} {id : BucketId}
  {b : Bucket} {now wall stop : Instant}

theorem check_in_window (filed : l.registry.WellFiled)
    (stored : l.registry.buckets.get? id = some b) (ahead : b.ResetsNotBefore stop)
    (early : now ≤ stop) :
    ∃ b', (l.check endpoint major now wall).2.registry.buckets.get? id = some b' ∧
      b'.ResetsNotBefore stop ∧
      b'.remaining + (if l.admits id (.check endpoint major now wall) then 1 else 0)
        ≤ b.remaining := by
  cases blocked : l.blockedUntil now with
  | some expiry =>
    have refused : l.check endpoint major now wall = (.globallyBlocked, l) :=
      check_of_blocked (by simp [blocked])
    exact ⟨b, by rw [refused]; exact stored, ahead, by simp [admits, refused]⟩
  | none =>
    have decided := check_of_open endpoint major wall blocked
    by_cases mapped : l.registry.bucketId? endpoint major = some id
    · have step := Registry.onBucket_of_stored wall (fun b => b.request now) mapped stored
      obtain ⟨still, count⟩ := Bucket.request_before_reset ahead early
      have own := (Registry.every_of_get? filed stored).1
      refine ⟨(b.request now).2, ?_, still, ?_⟩
      · rw [decided, step]
        exact Registry.get?_store_own ((b.request_identity now).trans own)
      · simp only [admits, mapped, decided, step, admissionOf_allowed_iff]
        simp only [decide_true, Bool.true_and, decide_eq_true_eq]
        omega
    · refine ⟨b, ?_, ahead, by simp [admits, mapped]⟩
      rw [decided]
      exact (Registry.get?_onBucket_elsewhere wall filed (fun b => b.request_identity now)
        mapped).trans stored

theorem respond_in_window (h : LimitHeaders) (endpoint : String) (major : Nat) (now wall : Instant)
    (filed : l.registry.WellFiled) (stored : l.registry.buckets.get? id = some b)
    (ahead : b.ResetsNotBefore stop) :
    ∃ b', (l.respond h endpoint major now wall).registry.buckets.get? id = some b' ∧
      b'.ResetsNotBefore stop ∧ b'.remaining ≤ b.remaining := by
  cases complete : h.complete with
  | false => exact ⟨b, by rw [respond_of_incomplete complete]; exact stored, ahead, Nat.le_refl _⟩
  | true =>
    cases global : h.global with
    | true =>
      exact ⟨b, by rw [respond_of_global complete global]; exact stored, ahead, Nat.le_refl _⟩
    | false =>
      obtain ⟨key, named⟩ := bucket_of_complete complete
      rw [respond_of_key complete global named]
      have own := (Registry.every_of_get? filed stored).1
      by_cases mapped : (l.registry.learn endpoint key h.limit).bucketId? endpoint major = some id
      · rw [Registry.onBucket_of_stored wall _ mapped stored]
        exact ⟨b.respond h now, Registry.get?_store_own ((b.respond_identity h now).trans own),
          Bucket.respond_keeps ahead h now, b.respond_remaining_le h now⟩
      · have elsewhere := Registry.get?_onBucket_elsewhere wall
          (r := l.registry.learn endpoint key h.limit) (f := fun b => ((), b.respond h now))
          filed (fun b => b.respond_identity h now) mapped
        exact ⟨b, elsewhere.trans stored, ahead, Nat.le_refl _⟩

theorem call_in_window {c : LimiterCall} (filed : l.registry.WellFiled)
    (stored : l.registry.buckets.get? id = some b) (ahead : b.ResetsNotBefore stop)
    (inside : c.InWindow stop) :
    ∃ b', (l.call c).2.registry.buckets.get? id = some b' ∧ b'.ResetsNotBefore stop ∧
      b'.remaining + (if l.admits id c then 1 else 0) ≤ b.remaining := by
  cases c with
  | check endpoint major now wall => exact check_in_window filed stored ahead inside
  | respond h endpoint major now wall =>
    obtain ⟨b', stored', still, fewer⟩ :=
      respond_in_window h endpoint major now wall filed stored ahead
    exact ⟨b', stored', still, by simpa [admits] using fewer⟩
  | prune now => exact inside.elim
  | learn endpoint key limit => exact ⟨b, stored, ahead, by simp [admits]⟩
  | fetch endpoint major wall =>
    exact ⟨b, Registry.get?_onBucket_unchanged endpoint major wall filed stored, ahead, by simp [admits]⟩

theorem admitted_in_window (window : List LimiterCall) (filed : l.registry.WellFiled)
    (stored : l.registry.buckets.get? id = some b) (ahead : b.ResetsNotBefore stop)
    (inside : ∀ c ∈ window, c.InWindow stop) : l.admitted id window ≤ b.remaining := by
  induction window generalizing l b with
  | nil => exact Nat.zero_le _
  | cons c rest ih =>
    obtain ⟨b', stored', ahead', fewer⟩ := call_in_window filed stored ahead (inside c (by simp))
    have more := ih (call_wellFiled filed) stored' ahead' fun d member => inside d (by simp [member])
    simp only [admitted]
    omega

/- The bucket that a response reaches, and whether it is the first one. -/

/-- The response finds the bucket or makes it, and the bucket takes the response in. -/
theorem respond_stores {P : Bucket → Prop} (endpoint : String) (major : Nat) (now wall : Instant)
    (every : l.registry.Every P)
    (made : ∀ key major limit wall, P (Bucket.create key major limit wall))
    (complete : h.complete = true) (aboutOne : h.global = false) (named : h.bucket = some key) :
    ∃ b, b.identity = (key, major) ∧ P b ∧
      (l.respond h endpoint major now wall).registry.buckets.get? (key, major) =
        some (b.respond h now) := by
  obtain ⟨limit, known⟩ := limit_of_complete complete
  have mapped := learn_mapped l.registry endpoint key major h.limit
  have limitKnown : (l.registry.learn endpoint key h.limit).limits.get? key = some limit := by
    simp [Registry.learn, known, Table.get?_put_self]
  have reachable : ∃ b s, (l.registry.learn endpoint key h.limit).bucket? endpoint major wall
      = some (b, s) := by
    cases stored : (l.registry.learn endpoint key h.limit).buckets.get? (key, major) with
    | some b => exact ⟨b, _, Registry.bucket?_of_stored mapped stored⟩
    | none => exact ⟨_, _, Registry.bucket?_of_new mapped stored limitKnown⟩
  obtain ⟨b, s, found⟩ := reachable
  obtain ⟨_, has, own⟩ := Registry.bucket?_every (r := l.registry.learn endpoint key h.limit) every
    (fun id limit _ => made id.1 id.2 limit wall) found
  rw [mapped] at own
  have same : b.identity = (key, major) := (Option.some.inj own).symm
  refine ⟨b, same, has, ?_⟩
  rw [respond_of_key complete aboutOne named]
  simp only [Registry.onBucket, found]
  exact Registry.get?_store_own ((b.respond_identity h now).trans same)

/-- No response has come to the bucket since it was last absent. -/
def Unanswered (history : List LimiterCall) (id : BucketId) : Prop :=
  ∃ before since, history = before ++ since ∧
    (empty.after before).registry.buckets.get? id = none ∧
    ∀ c ∈ since, c.respondsTo id = false

def UnseededAt (id : BucketId) (b : Bucket) : Prop := b.identity = id → b.seeded = false

theorem call_unseeded {c : LimiterCall} (every : l.registry.Every (UnseededAt id))
    (other : c.respondsTo id = false) : (l.call c).2.registry.Every (UnseededAt id) := by
  refine call_every every (fun _ _ _ _ _ => rfl) ?_ ?_
  · intro b _ now _ _ unseeded own
    rw [Bucket.request_identity] at own
    rw [Bucket.request_seeded]
    exact unseeded own
  · intro b h endpoint now wall _ reaches _ own
    rw [Bucket.respond_identity] at own
    rw [own, other] at reaches
    cases reaches

theorem after_unseeded (calls : List LimiterCall) (every : l.registry.Every (UnseededAt id))
    (others : ∀ c ∈ calls, c.respondsTo id = false) :
    (l.after calls).registry.Every (UnseededAt id) := by
  induction calls generalizing l with
  | nil => exact every
  | cons c rest ih =>
    exact ih (call_unseeded every (others c (by simp))) fun d member => others d (by simp [member])

theorem every_unseeded_of_absent (filed : l.registry.WellFiled)
    (absent : l.registry.buckets.get? id = none) : l.registry.Every (UnseededAt id) := by
  intro e member
  have own := (filed e member).1
  refine ⟨own, fun same => ?_⟩
  have stored : (id, e.2) ∈ l.registry.buckets := by rwa [← same, own]
  exact absurd stored (Table.not_mem_of_get?_none absent e.2)

theorem unseeded_of_unanswered {history : List LimiterCall} (unanswered : Unanswered history id) :
    (empty.after history).registry.Every (UnseededAt id) := by
  obtain ⟨before, since, split, absent, others⟩ := unanswered
  rw [split, after_append]
  have filed := after_wellFiled (l := empty) before (Registry.empty_every _)
  exact after_unseeded since (every_unseeded_of_absent filed absent) others

/-- From a response to the end of the time that it announces, the bucket lets through at most what it
    had left right after the response; and at most what the response says, if it is the first one
    that the bucket received. -/
theorem admitted_until_announced_reset (history : List LimiterCall) (h : LimitHeaders)
    (endpoint key : String) (major left : Nat) (wait : Span) (now wall : Instant)
    (complete : h.complete = true) (aboutOne : h.global = false) (named : h.bucket = some key)
    (remaining : h.remaining = some left) (resetAfter : h.resetAfter = some wait)
    (here : Instant.representable now = true) (there : Instant.representable (now + wait) = true)
    (window : List LimiterCall) (inside : ∀ c ∈ window, c.InWindow (now + wait)) :
    let l := (empty.after history).respond h endpoint major now wall
    ∃ b, l.registry.buckets.get? (key, major) = some b ∧
      l.admitted (key, major) window ≤ b.remaining ∧
      (Unanswered history (key, major) → l.admitted (key, major) window ≤ left) := by
  intro l
  have filed : (empty.after history).registry.WellFiled :=
    after_wellFiled history (Registry.empty_every _)
  have filedAfter : l.registry.WellFiled :=
    after_wellFiled [.respond h endpoint major now wall] filed
  have announced : Bucket.announcedReset h now = some (now + wait) := by
    simp only [Bucket.announcedReset, resetAfter, Option.bind_some]
    exact Instant.later?_of_representable here there
  obtain ⟨b, _, _, stored⟩ := respond_stores endpoint major now wall filed
    (fun _ _ _ _ => trivial) complete aboutOne named
  have bound : l.admitted (key, major) window ≤ (b.respond h now).remaining :=
    admitted_in_window window filedAfter stored (b.respond_reaches announced) inside
  refine ⟨b.respond h now, stored, bound, fun unanswered => ?_⟩
  obtain ⟨first, own, unseeded, stored'⟩ := respond_stores endpoint major now wall
    (unseeded_of_unanswered unanswered) (fun _ _ _ _ _ => rfl) complete aboutOne named
  have same : b.respond h now = first.respond h now := Option.some.inj (stored.symm.trans stored')
  rw [same] at bound
  exact Nat.le_trans bound (Bucket.first_respond_remaining_le (unseeded own) remaining now)

theorem admitted_after_first_response :
    let h := { LimitHeaders.empty with
      limit := some 5, remaining := some 2, reset := some 1700000001000000000,
      resetAfter := some (Span.ofSeconds 1), bucket := some "messages" }
    let check := LimiterCall.check "send" 7 1700000000500000000 0
    h.complete = true ∧ h.global = false ∧
      (∀ c ∈ [check, check, check], c.InWindow (1700000000000000000 + Span.ofSeconds 1)) ∧
      Unanswered [] ("messages", 7) ∧
      (let l := (empty.after []).respond h "send" 7 1700000000000000000 0
       ∃ b, l.registry.buckets.get? ("messages", 7) = some b ∧
        l.admitted ("messages", 7) [check, check, check] ≤ b.remaining ∧
        (Unanswered [] ("messages", 7) → l.admitted ("messages", 7) [check, check, check] ≤ 2)) := by
  intro h check
  have inside : ∀ c ∈ [check, check, check],
      c.InWindow (1700000000000000000 + Span.ofSeconds 1) := by
    intro c member
    have same : c = check := by simpa using member
    rw [same]
    show (1700000000500000000 : Int) ≤ 1700000000000000000 + Span.ofSeconds 1
    decide
  refine ⟨rfl, rfl, inside, ⟨[], [], rfl, rfl, by simp⟩, ?_⟩
  exact admitted_until_announced_reset [] h "send" "messages" 7 2 (Span.ofSeconds 1)
    1700000000000000000 0 rfl rfl rfl rfl rfl (by decide) (by decide) [check, check, check] inside

end Limiter
end SessionFleet
