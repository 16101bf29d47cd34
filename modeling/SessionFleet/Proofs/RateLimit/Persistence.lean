import Mathlib.Data.List.Induction
import SessionFleet.Proofs.RateLimit.LimiterRuns
/- A caller who is denied, waits as long as it is told and checks again, and so on.

   What it waits for is either a trusted reset, and then the next check comes after it, or the
   release of a bucket that has been exhausted for too long.  As long as the clock does not run
   back, a reset that is not trusted never lies in the future, so the second wait ends too. -/
namespace SessionFleet
namespace Bucket

variable {b : Bucket} {t now reset : Instant} {delay : Span}

def Settled (t : Instant) (b : Bucket) : Prop :=
  b.trusted = false → ∀ reset, b.nextReset = some reset → reset ≤ t

theorem settled_later (settled : Settled t b) (later : t ≤ now) : Settled now b := by
  intro untrusted reset known
  exact Int.le_trans (settled untrusted reset known) later

theorem request_settled (settled : Settled now b) : Settled now (b.request now).2 := by
  rw [request_bucket]
  obtain ⟨due, refilled⟩ | ⟨_, _, _, released⟩ | ⟨_, _, noted⟩ := b.tick_cases now
  · intro _ reset known
    rw [refilled] at known
    simp only [refillDue, Bool.and_eq_true, decide_eq_true_eq] at due
    rw [← Option.some.inj known]
    exact Int.le_of_lt due.2
  · intro _ reset known
    rw [released] at known
    exact Int.le_of_eq (Option.some.inj known).symm
  · intro untrusted reset known
    rw [noted] at untrusted known
    rw [← Option.some.inj known]
    cases set : b.nextReset with
    | none => simp [resetFrom, set]
    | some earlier =>
      have passed := settled untrusted earlier set
      simpa [resetFrom, set] using passed

theorem respond_settled (settled : Settled t b) (h : LimitHeaders) (now : Instant) :
    Settled t (b.respond h now) := by
  rw [respond_eq]
  unfold moveReset
  cases announcedReset h now with
  | none => exact settled
  | some candidate =>
    by_cases moves : b.nextReset.all (· < candidate) = true
    · intro untrusted
      simp [moves] at untrusted
    · simp only [moves, Bool.false_eq_true, ↓reduceIte]
      exact settled

/- What a denied request leaves. -/

/-- The bucket waits for a trusted reset, which the delay reaches. -/
structure AwaitsReset (b : Bucket) (now reset : Instant) (delay : Span) : Prop where
  trusted : b.trusted = true
  exhausted : b.remaining = 0
  known : b.nextReset = some reset
  shortest : shortestDelay ≤ delay
  reached : reset ≤ now + delay

/-- The bucket waits for its release, counted from a reset that is not trusted. -/
structure AwaitsRelease (b : Bucket) (reset : Instant) : Prop where
  untrusted : b.trusted = false
  exhausted : b.remaining = 0
  known : b.nextReset = some reset

theorem reached_by {now reset : Int} {left wait : Nat} (ahead : now ≤ reset)
    (counts : (reset - now).toNat = left) (enough : left ≤ wait) : reset ≤ now + wait := by
  omega

theorem resetDelay_of_trusted (trusted : b.trusted = true) (known : b.nextReset = some reset)
    (ahead : now ≤ reset) :
    shortestDelay ≤ b.resetDelay now ∧ reset ≤ now + b.resetDelay now := by
  have short : shortestDelay ≤ fallbackDelay := by decide
  simp only [resetDelay, trusted, Bool.not_true, Bool.false_eq_true, ↓reduceIte, known,
    Option.bind_some, Instant.since?, ahead, Option.getD_some]
  split
  · rename_i soon
    exact ⟨short, reached_by ahead rfl (Nat.le_trans (Nat.le_of_lt soon) short)⟩
  · rename_i far
    exact ⟨Nat.le_of_not_lt far, reached_by ahead rfl (Nat.le_refl _)⟩

theorem denied_awaits (settled : Settled now b) (denied : (b.request now).1 = some delay) :
    ∃ reset, AwaitsReset (b.request now).2 now reset delay ∨
      AwaitsRelease (b.request now).2 reset ∧ reset ≤ now ∧ delay = fallbackDelay := by
  obtain ⟨exhausted, told⟩ := request_denied denied
  have unset := request_settled settled
  have left : (b.request now).2.remaining = 0 := by
    rw [request_bucket]
    simp only [exhausted]
  obtain ⟨reset, known, waits⟩ : ∃ reset, (b.request now).2.nextReset = some reset ∧
      ((b.request now).2.trusted = true → now ≤ reset) := by
    rw [request_bucket]
    obtain ⟨_, refilled⟩ | ⟨_, _, _, released⟩ | ⟨notDue, _, noted⟩ := b.tick_cases now
    · exact ⟨_, by rw [refilled], fun trusted => by simp [refilled] at trusted⟩
    · exact ⟨now, by rw [released], fun _ => Int.le_refl now⟩
    · refine ⟨_, by rw [noted], fun trusted => ?_⟩
      rw [noted] at trusted
      have sure : b.trusted = true := trusted
      simpa [refillDue, sure] using notDue
  refine ⟨reset, ?_⟩
  cases trusted : (b.request now).2.trusted with
  | true =>
    obtain ⟨shortest, reached⟩ := resetDelay_of_trusted trusted known (waits trusted)
    rw [← told] at shortest reached
    exact Or.inl ⟨trusted, left, known, shortest, reached⟩
  | false =>
    refine Or.inr ⟨⟨trusted, left, known⟩, unset trusted reset known, ?_⟩
    rw [told]
    simp [resetDelay, trusted]

/- What the next request finds. -/

theorem request_of_awaitsRelease (awaits : AwaitsRelease b reset) (now : Instant) :
    if staleTimeout < now - reset then (b.request now).1 = none
    else (b.request now).1 = some fallbackDelay ∧ AwaitsRelease (b.request now).2 reset := by
  obtain ⟨untrusted, exhausted, known⟩ := awaits
  have counted : b.resetFrom now = reset := by simp [resetFrom, known]
  split
  · rename_i late
    have overdue : b.overdue now = true := by simp [overdue, counted, late]
    have released := tick_of_released untrusted exhausted overdue
    rw [request_granted_iff, released]
    exact Nat.one_pos
  · rename_i early
    have notDue : b.refillDue now = false := by simp [refillDue, untrusted]
    have noted := tick_otherwise notDue (by simp [overdue, counted, early])
    refine ⟨request_of_untrusted (by rw [noted]; exact exhausted) (by rw [noted]; exact untrusted), ?_⟩
    rw [request_bucket, noted]
    exact ⟨untrusted, by simp [exhausted], by simp [counted]⟩

theorem request_after_reset (trusted : b.trusted = true) (known : b.nextReset = some reset)
    (passed : reset < now) :
    if 0 < b.limit then (b.request now).1 = none
    else (b.request now).1 = some fallbackDelay ∧ AwaitsRelease (b.request now).2 reset := by
  have counted : b.resetFrom now = reset := by simp [resetFrom, known]
  have due : b.refillDue now = true := by simp [refillDue, trusted, counted, passed]
  have refilled := tick_of_refillDue due
  split
  · rename_i positive
    rw [request_granted_iff, refilled]
    exact positive
  · rename_i nothing
    have empty : b.limit = 0 := Nat.eq_zero_of_not_pos nothing
    refine ⟨request_of_untrusted (by rw [refilled]; exact empty) (by rw [refilled]), ?_⟩
    rw [request_bucket, refilled]
    exact ⟨rfl, by simp [empty], by simp [counted]⟩

end Bucket

def LimiterCall.checkedAt : LimiterCall → Option Instant
  | .check _ _ now _ => some now
  | .respond .. | .prune _ | .learn .. | .fetch .. => none

namespace Limiter

variable {l : Limiter} {endpoint : String} {major : Nat} {b : Bucket} {t now wall : Instant}

/-- The clock does not run back from check to check, nor up to an instant. -/
def InOrder (history : List LimiterCall) (now : Instant) : Prop :=
  (history.filterMap LimiterCall.checkedAt ++ [now]).Pairwise (· ≤ ·)

/-- The answers to a caller who waits as it is told and checks again, up to the first answer that does
    not tell it to wait; one reading of the wall clock for each check. -/
def persist (l : Limiter) (endpoint : String) (major : Nat) (now : Instant) :
    List Instant → List Admission
  | [] => []
  | wall :: walls =>
    match l.check endpoint major now wall with
    | (.retryAfter delay, l) =>
      .retryAfter delay :: l.persist endpoint major (now + delay) walls
    | (.allowed, _) => [.allowed]
    | (.globallyBlocked, _) => [.globallyBlocked]

theorem inOrder_of_append {history : List LimiterCall} {c : LimiterCall}
    (inOrder : InOrder (history ++ [c]) now) :
    InOrder history now ∧ ∀ t, c.checkedAt = some t → InOrder history t ∧ t ≤ now := by
  unfold InOrder at inOrder
  rw [List.filterMap_append, List.append_assoc] at inOrder
  cases checked : c.checkedAt with
  | none =>
    rw [List.filterMap_cons_none checked] at inOrder
    exact ⟨inOrder, fun t none => by cases none⟩
  | some s =>
    rw [List.filterMap_cons_some checked, List.filterMap_nil] at inOrder
    constructor
    · refine inOrder.sublist ?_
      exact (List.Sublist.refl _).append (List.sublist_cons_self _ _)
    · intro t same
      cases same
      rw [List.pairwise_append] at inOrder
      obtain ⟨earlier, last, between⟩ := inOrder
      refine ⟨List.pairwise_append.mpr ⟨earlier, by simp, ?_⟩, by simpa using last⟩
      intro x member y final
      rw [List.mem_singleton.mp final]
      exact between x member s (by simp)

theorem call_settled {c : LimiterCall} (settled : l.registry.Every (Bucket.Settled now))
    (checked : ∀ t, c.checkedAt = some t → t = now) :
    (l.call c).2.registry.Every (Bucket.Settled now) := by
  refine call_every settled (fun _ _ _ _ _ _ known => by cases known) ?_ ?_
  · intro b endpoint t wall check has
    have same : t = now := checked t (by rw [check]; rfl)
    rw [same]
    exact Bucket.request_settled has
  · intro b h endpoint t wall _ _ has
    exact Bucket.respond_settled has h t

theorem after_settled (history : List LimiterCall) (inOrder : InOrder history now) :
    (empty.after history).registry.Every (Bucket.Settled now) := by
  induction history using List.reverseRecOn generalizing now with
  | nil => exact Registry.empty_every _
  | append_singleton history c ih =>
    rw [after_append]
    obtain ⟨before, atCheck⟩ := inOrder_of_append inOrder
    cases checked : c.checkedAt with
    | none => exact call_settled (ih before) fun t some => by rw [checked] at some; cases some
    | some t =>
      obtain ⟨untilCheck, later⟩ := atCheck t checked
      have settled := call_settled (c := c) (ih untilCheck) fun s same => by
        rw [checked] at same
        exact (Option.some.inj same).symm
      intro e member
      obtain ⟨own, has⟩ := settled e member
      exact ⟨own, Bucket.settled_later has later⟩

/-- From an instant on this bucket, and no block, decides on the endpoint. -/
structure DecidedBy (l : Limiter) (endpoint : String) (major : Nat) (now : Instant) (b : Bucket) :
    Prop where
  mapped : l.registry.bucketId? endpoint major = some b.identity
  stored : l.registry.buckets.get? b.identity = some b
  unblocked : ∀ later, now ≤ later → l.blockedUntil later = none

theorem unblocked_later (l : Limiter) (unblocked : l.blockedUntil t = none) (later : t ≤ now) :
    l.blockedUntil now = none := by
  cases set : l.globalExpiry with
  | none => simp [blockedUntil, set]
  | some expiry =>
    have expired : expiry ≤ t := by simpa [blockedUntil, set] using unblocked
    simpa [blockedUntil, set] using Int.le_trans expired later

/-- A check puts the bucket that has answered in its place. -/
theorem check_decided {r : Registry} (found : l.registry.bucket? endpoint major wall = some (b, r))
    (mapped : l.registry.bucketId? endpoint major = some b.identity)
    (unblocked : l.blockedUntil now = none) :
    (l.check endpoint major now wall).1 = admissionOf (some (b.request now).1) ∧
      (l.check endpoint major now wall).2.DecidedBy endpoint major now (b.request now).2 := by
  have own := b.request_identity now
  have step := Registry.onBucket_of_found (f := fun b => b.request now)
    (show l.registry.found? endpoint major wall = some b by simp [Registry.found?, found]) own
  rw [check_of_open endpoint major wall unblocked, step]
  refine ⟨rfl, ?_, ?_, ?_⟩
  · rw [own, ← mapped]
    rfl
  · exact Registry.get?_store_own rfl
  · intro later order
    exact unblocked_later l unblocked order

theorem recheck_decided (decided : l.DecidedBy endpoint major t b) (later : t ≤ now)
    (wall : Instant) :
    (l.check endpoint major now wall).1 = admissionOf (some (b.request now).1) ∧
      (l.check endpoint major now wall).2.DecidedBy endpoint major now (b.request now).2 :=
  check_decided (Registry.bucket?_of_stored decided.mapped decided.stored) decided.mapped
    (decided.unblocked now later)

/-- Behind a denial stands a bucket, the stored one if there is one. -/
theorem check_denied {delay : Span} (settled : l.registry.Every (Bucket.Settled now))
    (denied : (l.check endpoint major now wall).1 = .retryAfter delay) :
    ∃ b wait, Bucket.Settled now b ∧ (b.request now).1 = some wait ∧ delay = wait + padding ∧
      l.registry.bucketId? endpoint major = some b.identity ∧
      (∀ c, l.registry.buckets.get? b.identity = some c → c = b) ∧
      (l.check endpoint major now wall).2.DecidedBy endpoint major now (b.request now).2 := by
  cases blocked : l.blockedUntil now with
  | some expiry =>
    rw [check_of_blocked (by simp [blocked])] at denied
    cases denied
  | none =>
    cases found : l.registry.bucket? endpoint major wall with
    | none =>
      rw [check_of_open endpoint major wall blocked] at denied
      simp [Registry.onBucket, found, admissionOf] at denied
    | some entry =>
      obtain ⟨b, r⟩ := entry
      obtain ⟨_, has, mapped⟩ := Registry.bucket?_every settled
        (fun id limit _ _ reset known => by cases known) found
      obtain ⟨verdict, decided⟩ := check_decided found mapped blocked
      rw [verdict] at denied
      cases waits : (b.request now).1 with
      | none => simp [waits, admissionOf] at denied
      | some wait =>
        refine ⟨b, wait, has, waits, ?_, mapped, ?_, decided⟩
        · rw [waits] at denied
          exact (Admission.retryAfter.inj denied).symm
        · intro c stored
          rw [Registry.bucket?_of_stored mapped stored] at found
          simp only [Option.some.injEq, Prod.mk.injEq] at found
          exact found.1

/-- The delay of a caller whose bucket waits for its release. -/
def pause : Span := Bucket.fallbackDelay + padding

theorem pause_again {now reset : Int} {n p s : Nat}
    (enough : (s : Int) < now + ((n + 1) * p : Nat) - reset) :
    (s : Int) < now + p + (n * p : Nat) - reset := by
  rw [Nat.succ_mul] at enough
  omega

theorem persist_of_allowed (walls : List Instant)
    (allowed : (l.check endpoint major now wall).1 = .allowed) :
    l.persist endpoint major now (wall :: walls) = [.allowed] := by
  cases answer : l.check endpoint major now wall with
  | mk verdict next =>
    rw [answer] at allowed
    cases allowed
    simp [persist, answer]

theorem persist_of_denied {delay : Span} (walls : List Instant)
    (denied : (l.check endpoint major now wall).1 = .retryAfter delay) :
    l.persist endpoint major now (wall :: walls) =
      .retryAfter delay ::
        (l.check endpoint major now wall).2.persist endpoint major (now + delay) walls := by
  cases answer : l.check endpoint major now wall with
  | mk verdict next =>
    rw [answer] at denied
    cases denied
    simp [persist, answer]

/-- A caller whose bucket waits for its release is let through by the first check that comes late
    enough. -/
theorem persist_until_release {reset : Instant} {walls : List Instant}
    (decided : l.DecidedBy endpoint major t b) (later : t ≤ now) (awaits : b.AwaitsRelease reset)
    (wall : Instant)
    (enough : (Bucket.staleTimeout : Int) < now + (walls.length * pause : Nat) - reset) :
    (l.persist endpoint major now (wall :: walls)).getLast? = some .allowed := by
  induction walls generalizing l b t now wall with
  | nil =>
    obtain ⟨verdict, _⟩ := recheck_decided decided later wall
    have request := Bucket.request_of_awaitsRelease awaits now
    have late : (Bucket.staleTimeout : Int) < now - reset := by simpa using enough
    rw [if_pos late] at request
    rw [request] at verdict
    rw [persist_of_allowed [] verdict]
    rfl
  | cons next rest ih =>
    obtain ⟨verdict, decided'⟩ := recheck_decided decided later wall
    have request := Bucket.request_of_awaitsRelease awaits now
    split at request
    · rw [request] at verdict
      rw [persist_of_allowed _ verdict]
      rfl
    · obtain ⟨told, awaits'⟩ := request
      rw [told] at verdict
      have onward : now ≤ now + pause := Int.le_add_of_nonneg_right (Int.natCast_nonneg _)
      have again := ih decided' onward awaits' next (pause_again enough)
      have paused : l.persist endpoint major now (wall :: next :: rest) =
          .retryAfter pause :: (l.check endpoint major now wall).2.persist endpoint major
            (now + pause) (next :: rest) := persist_of_denied _ verdict
      rw [paused, List.getLast?_cons, again]
      rfl

theorem trusted_after_denial {wait : Span} (trusted : b.trusted = true) (positive : 0 < b.limit)
    (denied : (b.request now).1 = some wait) : (b.request now).2.trusted = true := by
  obtain ⟨exhausted, _⟩ := Bucket.request_denied denied
  rw [Bucket.request_bucket]
  obtain ⟨_, refilled⟩ | ⟨untrusted, _⟩ | ⟨_, _, noted⟩ := b.tick_cases now
  · rw [refilled] at exhausted
    exact absurd exhausted (Nat.ne_of_gt positive)
  · rw [untrusted] at trusted
    cases trusted
  · rw [noted]
    exact trusted

/-- The padding carries a caller who waited for a trusted reset past it. -/
theorem past_reset {now reset : Int} {wait delay : Nat} (reached : reset ≤ now + wait)
    (padded : delay = wait + padding) : reset + padding ≤ now + delay := by
  omega

theorem recheck_after_reset {reset : Instant} {wait : Span}
    (decided : l.DecidedBy endpoint major t b) (later : t ≤ now)
    (awaits : b.AwaitsReset t reset wait) (passed : reset + padding ≤ now) (wall : Instant) :
    if 0 < b.limit then (l.check endpoint major now wall).1 = .allowed
    else (l.check endpoint major now wall).1 = .retryAfter pause ∧
      ∃ b', b'.AwaitsRelease reset ∧
        (l.check endpoint major now wall).2.DecidedBy endpoint major now b' := by
  have beyond : reset < now :=
    Int.lt_of_lt_of_le (Int.lt_add_of_pos_right _ (by decide)) passed
  obtain ⟨verdict, decided'⟩ := recheck_decided decided later wall
  have request := Bucket.request_after_reset awaits.trusted awaits.known beyond
  split at request
  · rename_i positive
    rw [if_pos positive, verdict, request]
    rfl
  · rename_i nothing
    rw [if_neg nothing, verdict, request.1]
    exact ⟨rfl, _, request.2, decided'⟩

theorem persist_after_reset {reset : Instant} {wait : Span} {walls : List Instant}
    (decided : l.DecidedBy endpoint major t b) (later : t ≤ now)
    (awaits : b.AwaitsReset t reset wait) (passed : reset + padding ≤ now)
    (enough : walls.length = 20) (wall : Instant) :
    (l.persist endpoint major now (wall :: walls)).getLast? = some .allowed := by
  have recheck := recheck_after_reset decided later awaits passed wall
  split at recheck
  · rw [persist_of_allowed _ recheck]
    rfl
  · obtain ⟨denied, b', release, decided'⟩ := recheck
    obtain ⟨next, rest, split, short⟩ : ∃ next rest, walls = next :: rest ∧ rest.length = 19 := by
      cases walls with
      | nil => cases enough
      | cons next rest => exact ⟨next, rest, rfl, by simpa using enough⟩
    have late : (Bucket.staleTimeout : Int) < now + pause + (rest.length * pause : Nat) - reset := by
      have spare (x y : Int) (gap : y + 50000000 ≤ x) : 5000000000 < x + 250000000 + 4750000000 - y := by
        omega
      rw [short]
      exact spare now reset passed
    have last := persist_until_release decided' (Int.le_add_of_nonneg_right (Int.natCast_nonneg _))
      release next late
    rw [persist_of_denied _ denied, split, List.getLast?_cons, last]
    rfl

/-- A trusted reset and a limit above zero, seen before the denial or after it, are those of the bucket
    that has answered. -/
theorem trusted_behind_denial {waiting : Limiter} {wait : Span} {c : Bucket}
    (denied : (b.request now).1 = some wait)
    (same : ∀ c, l.registry.buckets.get? b.identity = some c → c = b)
    (after : waiting.registry.buckets.get? b.identity = some (b.request now).2)
    (stored : l.registry.buckets.get? b.identity = some c ∨
      waiting.registry.buckets.get? b.identity = some c)
    (trusted : c.trusted = true) (positive : 0 < c.limit) :
    (b.request now).2.trusted = true ∧ 0 < (b.request now).2.limit := by
  rcases stored with before | since
  · rw [same c before] at trusted positive
    exact ⟨trusted_after_denial trusted positive denied, by rwa [Bucket.request_limit]⟩
  · obtain rfl : (b.request now).2 = c := Option.some.inj (after.symm.trans since)
    exact ⟨trusted, positive⟩

/-- After a denial a lone caller who waits as it is told is let through by its 21st check at the
    latest, and by its first one if the reset is trusted and the bucket has a limit to be filled to.
    No delay is shorter than 60 milliseconds. -/
theorem waiting_as_told_ends_in_admission (history : List LimiterCall) (endpoint : String)
    (major : Nat) (now wall : Instant) (delay : Span) (inOrder : InOrder history now)
    (denied : ((empty.after history).check endpoint major now wall).1 = .retryAfter delay) :
    let l := empty.after history
    let waiting := (l.check endpoint major now wall).2
    Span.ofMillis 60 ≤ delay ∧
      (∀ walls, walls.length = 21 →
        (waiting.persist endpoint major (now + delay) walls).getLast? = some .allowed) ∧
      ∀ id b, l.registry.bucketId? endpoint major = some id →
        l.registry.buckets.get? id = some b ∨ waiting.registry.buckets.get? id = some b →
        b.trusted = true → 0 < b.limit →
        ∀ wall, (waiting.check endpoint major (now + delay) wall).1 = .allowed := by
  intro l waiting
  obtain ⟨b, wait, settled, told, padded, mapped, same, decided⟩ :=
    check_denied (after_settled history inOrder) denied
  have later : now ≤ now + delay := Int.le_add_of_nonneg_right (Int.natCast_nonneg _)
  have after : waiting.registry.buckets.get? b.identity = some (b.request now).2 := by
    rw [← b.request_identity now]
    exact decided.stored
  obtain ⟨reset, awaits | ⟨release, settledReset, fallback⟩⟩ := Bucket.denied_awaits settled told
  · -- the bucket waits for a trusted reset, and the padding leads past it
    have passed : reset + padding ≤ now + delay := past_reset awaits.reached padded
    refine ⟨?_, ?_, ?_⟩
    · rw [padded]
      exact Nat.add_le_add_right awaits.shortest padding
    · intro walls enough
      cases walls with
      | nil => cases enough
      | cons next rest =>
        exact persist_after_reset decided later awaits passed (by simpa using enough) next
    · intro id c own stored trusted positive next
      obtain rfl : b.identity = id := Option.some.inj (mapped.symm.trans own)
      have limit := (trusted_behind_denial told same after stored trusted positive).2
      have recheck := recheck_after_reset decided later awaits passed next
      rwa [if_pos limit] at recheck
  · -- the bucket waits for its release, counted from an instant that has passed
    rw [fallback] at padded
    refine ⟨?_, ?_, ?_⟩
    · rw [padded]
      decide
    · intro walls enough
      cases walls with
      | nil => cases enough
      | cons next rest =>
        have late : (Bucket.staleTimeout : Int) <
            now + delay + (rest.length * pause : Nat) - reset := by
          have spare (x y : Int) (gap : y ≤ x) :
              5000000000 < x + 250000000 + 5000000000 - y := by omega
          have short : rest.length = 20 := by simpa using enough
          rw [short, padded]
          exact spare now reset settledReset
        exact persist_until_release decided later release next late
    · intro id c own stored trusted positive
      obtain rfl : b.identity = id := Option.some.inj (mapped.symm.trans own)
      have still := (trusted_behind_denial told same after stored trusted positive).1
      rw [release.untrusted] at still
      cases still

/-- A bucket of limit 1 is used up until its reset in a second.  The caller is told to wait a second
    and the padding, and then let through. -/
theorem first_recheck_follows_trusted_reset :
    let h := { LimitHeaders.empty with
      limit := some 1, remaining := some 0, reset := some 1700000001000000000,
      resetAfter := some (Span.ofSeconds 1), bucket := some "messages" }
    let now : Instant := 1700000000000000000
    let history := [LimiterCall.respond h "send" 7 now 0]
    let l := empty.after history
    let waiting := (l.check "send" 7 now 0).2
    InOrder history now ∧ (l.check "send" 7 now 0).1 = .retryAfter (Span.ofMillis 1050) ∧
      (∃ b, l.registry.buckets.get? ("messages", 7) = some b ∧ b.trusted = true ∧ 0 < b.limit) ∧
      Span.ofMillis 60 ≤ Span.ofMillis 1050 ∧
      (waiting.persist "send" 7 (now + Span.ofMillis 1050) (List.replicate 21 0)).getLast?
        = some .allowed ∧
      (waiting.check "send" 7 (now + Span.ofMillis 1050) 0).1 = .allowed := by
  intro h now history l waiting
  have inOrder : InOrder history now := List.pairwise_singleton _ _
  have denied : (l.check "send" 7 now 0).1 = .retryAfter (Span.ofMillis 1050) := by decide +kernel
  obtain ⟨long, persisted, first⟩ := waiting_as_told_ends_in_admission history "send" 7
    now 0 (Span.ofMillis 1050) inOrder denied
  obtain ⟨b, stored, trusted, positive⟩ : ∃ b, l.registry.buckets.get? ("messages", 7) = some b ∧
      b.trusted = true ∧ 0 < b.limit := ⟨_, rfl, rfl, by decide⟩
  exact ⟨inOrder, denied, ⟨b, stored, trusted, positive⟩, long, persisted (List.replicate 21 0) rfl,
    first ("messages", 7) b rfl (Or.inl stored) trusted positive 0⟩

end Limiter
end SessionFleet
