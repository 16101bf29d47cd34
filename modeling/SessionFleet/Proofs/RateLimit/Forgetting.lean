import SessionFleet.Proofs.RateLimit.LimiterRuns
/- What a check answers after idle buckets have been forgotten.

   Whether a bucket is idle is told by its last use alone, not by its reset.  A bucket that is
   forgotten comes back full, with the limit known for its key.  So a reset that lies further ahead
   than the idle timeout does not outlive it, and the other resets do. -/
namespace SessionFleet
namespace Bucket

/-- A new bucket is neither due for a refill nor overdue. -/
theorem create_tick (key : String) (major limit : Nat) (created now : Instant) :
    (create key major limit created).tick now =
      { create key major limit created with nextReset := some now } := by
  have fresh : (create key major limit created).overdue now = false := by
    simp [overdue, resetFrom, create, staleTimeout, Span.ofSeconds, Span.second]
  exact tick_otherwise rfl (by simp [fresh])

theorem create_request (key : String) (major limit : Nat) (created now : Instant) :
    ((create key major limit created).request now).1 =
      if 0 < limit then none else some fallbackDelay := by
  have ticked := create_tick key major limit created now
  split
  · rename_i positive
    rw [request_granted_iff, ticked]
    exact positive
  · rename_i nothing
    have empty : limit = 0 := Nat.eq_zero_of_not_pos nothing
    exact request_of_untrusted (by rw [ticked]; exact empty) (by rw [ticked]; rfl)

end Bucket

namespace Limiter

variable {l : Limiter} {endpoint : String} {major : Nat} {now wall pruned : Instant} {id : BucketId}
  {b : Bucket}

theorem get?_prune (sound : l.registry.Sound) (stored : l.registry.buckets.get? id = some b)
    (pruned : Instant) :
    (l.prune pruned).registry.buckets.get? id =
      if Registry.isIdle pruned b then none else some b := by
  have kept := Table.get?_filter sound.distinct (fun e => !Registry.isIdle pruned e.2) id
  rw [stored] at kept
  refine kept.trans ?_
  cases idle : Registry.isIdle pruned b <;> simp [Option.filter, idle]

theorem check_of_stored (unblocked : l.blockedUntil now = none) (wall : Instant)
    (mapped : l.registry.bucketId? endpoint major = some id)
    (stored : l.registry.buckets.get? id = some b) :
    (l.check endpoint major now wall).1 = admissionOf (some (b.request now).1) := by
  rw [check_of_open endpoint major wall unblocked, Registry.onBucket_of_stored wall _ mapped stored]

/-- An endpoint whose bucket is gone gets a new one, which lets a request through if it can. -/
theorem check_of_new {limit : Nat} (unblocked : l.blockedUntil now = none) (wall : Instant)
    (mapped : l.registry.bucketId? endpoint major = some id)
    (absent : l.registry.buckets.get? id = none) (known : l.registry.limits.get? id.1 = some limit) :
    (l.check endpoint major now wall).1 =
      if 0 < limit then .allowed else .retryAfter (Bucket.fallbackDelay + padding) := by
  rw [check_of_open endpoint major wall unblocked]
  simp only [Registry.onBucket, Registry.bucket?_of_new mapped absent known, Bucket.create_request]
  split <;> rfl

theorem unblocked_of_denied {delay : Span}
    (denied : (l.check endpoint major now wall).1 = .retryAfter delay) :
    l.blockedUntil now = none := by
  cases blocked : l.blockedUntil now with
  | none => rfl
  | some expiry =>
    rw [check_of_blocked (by simp [blocked])] at denied
    cases denied

/-- A reset at most the idle timeout after the last use comes before the bucket is idle. -/
theorem not_idle_before_reset {reset : Instant} (early : pruned < reset)
    (soon : reset ≤ b.lastUsed + Registry.idleTimeout) : Registry.isIdle pruned b = false := by
  have within (p r u t : Int) (before : p < r) (near : r ≤ u + t) : ¬ t < p - u := by omega
  simp only [Registry.isIdle, decide_eq_false_iff_not]
  exact within _ _ _ _ early soon

/-- After idle buckets have been forgotten a request that would have been denied is let through if
    and only if its bucket was idle and its key has a limit above zero; if the bucket was not idle
    the answer is the same.  So a bucket never forgets a reset that lies ahead, unless this lies more
    than the idle timeout after the last use of the bucket. -/
theorem forgetting_admits_only_idle (history : List LimiterCall) (endpoint : String) (major : Nat)
    (pruned now wall : Instant) (id : BucketId) (b : Bucket) (delay : Span)
    (mapped : (empty.after history).registry.bucketId? endpoint major = some id)
    (stored : (empty.after history).registry.buckets.get? id = some b)
    (denied : ((empty.after history).check endpoint major now wall).1 = .retryAfter delay) :
    let l := empty.after history
    ∃ limit, l.registry.limits.get? id.1 = some limit ∧
      ∀ wall, ((l.prune pruned).check endpoint major now wall).1 =
          (if Registry.isIdle pruned b then
            if 0 < limit then .allowed else .retryAfter (Bucket.fallbackDelay + padding)
          else .retryAfter delay) ∧
        ∀ reset, b.nextReset = some reset → now < reset → pruned ≤ now →
          reset ≤ b.lastUsed + Registry.idleTimeout →
          ((l.prune pruned).check endpoint major now wall).1 = .retryAfter delay := by
  intro l
  have sound : l.registry.Sound := after_sound history Registry.empty_sound
  obtain ⟨limit, known⟩ := sound.known (id, b) (Table.mem_of_get? stored)
  have unblocked : l.blockedUntil now = none := unblocked_of_denied denied
  have verdict : admissionOf (some (b.request now).1) = .retryAfter delay :=
    (check_of_stored unblocked wall mapped stored).symm.trans denied
  have left := get?_prune sound stored pruned
  have answer (wall : Instant) : ((l.prune pruned).check endpoint major now wall).1 =
      if Registry.isIdle pruned b then
        if 0 < limit then .allowed else .retryAfter (Bucket.fallbackDelay + padding)
      else .retryAfter delay := by
    cases idle : Registry.isIdle pruned b with
    | true =>
      rw [idle] at left
      exact check_of_new (l := l.prune pruned) unblocked wall mapped left known
    | false =>
      rw [idle] at left
      exact (check_of_stored (l := l.prune pruned) unblocked wall mapped left).trans verdict
  refine ⟨limit, known, fun wall => ⟨answer wall, ?_⟩⟩
  intro reset _ ahead early soon
  have kept := not_idle_before_reset (Int.lt_of_le_of_lt early ahead) soon
  rw [answer wall, kept]
  rfl

/-- Its reset an hour away, a bucket is forgotten five minutes after its last use and no sooner. -/
theorem bucket_in_use_is_kept :
    let h := { LimitHeaders.empty with
      limit := some 1, remaining := some 0, reset := some 1700003600000000000,
      resetAfter := some (Span.ofSeconds 3600), bucket := some "messages" }
    let start : Instant := 1700000000000000000
    let history := [LimiterCall.respond h "send" 7 start start, .check "send" 7 start start]
    let l := empty.after history
    let b : Bucket := ⟨"messages", 7, 1, 0, some 1700003600000000000, true, true, start⟩
    let now : Instant := 1700000300000000000
    l.registry.bucketId? "send" 7 = some ("messages", 7) ∧
      l.registry.buckets.get? ("messages", 7) = some b ∧
      (l.check "send" 7 now now).1 = .retryAfter (Span.ofMillis 3300050) ∧
      ((l.prune now).check "send" 7 now now).1 = .retryAfter (Span.ofMillis 3300050) := by
  intro h start history l b now
  have mapped : l.registry.bucketId? "send" 7 = some ("messages", 7) := by rfl
  have stored : l.registry.buckets.get? ("messages", 7) = some b := by decide +kernel
  have denied : (l.check "send" 7 now now).1 = .retryAfter (Span.ofMillis 3300050) := by
    decide +kernel
  obtain ⟨limit, _, answer⟩ := forgetting_admits_only_idle history "send" 7 now now now
    ("messages", 7) b (Span.ofMillis 3300050) mapped stored denied
  have kept : Registry.isIdle now b = false := by decide +kernel
  have verdict := (answer now).1
  rw [kept] at verdict
  exact ⟨mapped, stored, denied, verdict⟩

/-- The bucket is exhausted, its reset is trusted and lies almost an hour ahead, and a request is
    denied; but if the bucket is forgotten just before, the request is let through. -/
theorem forgotten_bucket_admits_before_reset :
    let h := { LimitHeaders.empty with
      limit := some 1, remaining := some 0, reset := some 1700003600000000000,
      resetAfter := some (Span.ofSeconds 3600), bucket := some "messages" }
    let start : Instant := 1700000000000000000
    let l := empty.after [.respond h "send" 7 start start, .check "send" 7 start start]
    let now : Instant := 1700000301000000000
    l.registry.buckets.get? ("messages", 7) =
        some ⟨"messages", 7, 1, 0, some 1700003600000000000, true, true, start⟩ ∧
      now < 1700003600000000000 ∧
      (l.check "send" 7 now now).1 = .retryAfter (Span.ofMillis 3299050) ∧
      ((l.prune now).check "send" 7 now now).1 = .allowed := by
  refine ⟨?_, ?_, ?_, ?_⟩ <;> decide +kernel

end Limiter
end SessionFleet
