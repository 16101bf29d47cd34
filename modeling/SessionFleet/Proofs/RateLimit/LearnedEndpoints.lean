import Mathlib.Data.List.Induction
import SessionFleet.Proofs.RateLimit.LimiterRuns
/- An endpoint that a response has told something about is under control from then on.

   The responses of a run are all that its limiter goes by: the latest one about an endpoint names the
   key, and the latest one about that key the limit.  As both come with every response, a key that an
   endpoint is mapped to always has a limit, and pruning takes away neither. -/
namespace SessionFleet

/-- What a response tells: the key of an endpoint, and the limit of that key. -/
structure Lesson where
  endpoint : String
  key : String
  limit : Nat
  deriving DecidableEq, Repr

namespace LimiterCall

/-- Only a complete response about one endpoint tells anything. -/
def lesson : LimiterCall → Option Lesson
  | .respond h endpoint _ _ _ =>
    if h.complete && !h.global then
      h.bucket.bind fun key => h.limit.map fun limit => ⟨endpoint, key, limit⟩
    else none
  | .check .. | .prune _ | .learn .. | .fetch .. => none

/-- The limiter is used and pruned; nobody reaches for its registry. -/
def isTraffic : LimiterCall → Bool
  | .check .. | .respond .. | .prune _ => true
  | .learn .. | .fetch .. => false

def latestLesson (about : Lesson → Bool) (history : List LimiterCall) : Option Lesson :=
  (history.filterMap lesson).reverse.find? about

def latestKey (endpoint : String) (history : List LimiterCall) : Option String :=
  (latestLesson (fun t => t.endpoint = endpoint) history).map (·.key)

def latestLimit (key : String) (history : List LimiterCall) : Option Nat :=
  (latestLesson (fun t => t.key = key) history).map (·.limit)

theorem latestLesson_concat (about : Lesson → Bool) (history : List LimiterCall) (c : LimiterCall) :
    latestLesson about (history ++ [c]) = (c.lesson.filter about).or (latestLesson about history) := by
  unfold latestLesson
  rw [List.filterMap_append, List.reverse_append, List.find?_append]
  cases taught : c.lesson with
  | none => simp [taught]
  | some t => cases concerns : about t <;> simp [taught, concerns, Option.filter]

theorem latestLesson_isSome_iff (about : Lesson → Bool) (history : List LimiterCall) :
    (latestLesson about history).isSome = true ↔
      ∃ c ∈ history, ∃ t, c.lesson = some t ∧ about t = true := by
  unfold latestLesson
  simp only [List.find?_isSome, List.mem_reverse, List.mem_filterMap]
  constructor
  · rintro ⟨t, ⟨c, member, taught⟩, concerns⟩
    exact ⟨c, member, t, taught, concerns⟩
  · rintro ⟨c, member, t, taught, concerns⟩
    exact ⟨t, ⟨c, member, taught⟩, concerns⟩

theorem latestKey_isSome_iff (endpoint : String) (history : List LimiterCall) :
    (latestKey endpoint history).isSome = true ↔
      ∃ c ∈ history, ∃ t, c.lesson = some t ∧ t.endpoint = endpoint := by
  simp only [latestKey, Option.isSome_map, latestLesson_isSome_iff, decide_eq_true_eq]

/-- With the key of an endpoint comes the limit of the key. -/
theorem latestLimit_of_latestKey {endpoint key : String} {history : List LimiterCall}
    (told : latestKey endpoint history = some key) : ∃ limit, latestLimit key history = some limit := by
  obtain ⟨t, latest, same⟩ := Option.map_eq_some_iff.mp told
  have member : t ∈ history.filterMap lesson := List.mem_reverse.mp (List.mem_of_find?_eq_some latest)
  obtain ⟨c, inHistory, taught⟩ := List.mem_filterMap.mp member
  have about : (latestLesson (fun t => t.key = key) history).isSome = true :=
    (latestLesson_isSome_iff _ history).mpr ⟨c, inHistory, t, taught, by simpa using same⟩
  obtain ⟨u, found⟩ := Option.isSome_iff_exists.mp about
  exact ⟨u.limit, by simp [latestLimit, found]⟩

end LimiterCall

namespace Limiter
open LimiterCall

variable {l : Limiter} {c : LimiterCall} {endpoint : String} {major : Nat} {now wall : Instant}
  {b : Bucket} {t : Lesson}

/- What a call makes known. -/

theorem call_untold (traffic : c.isTraffic = true) (untold : c.lesson = none) :
    (l.call c).2.registry.keys = l.registry.keys ∧
      (l.call c).2.registry.limits = l.registry.limits := by
  cases c with
  | check endpoint major now wall =>
    simp only [call]
    cases blocked : l.blockedUntil now with
    | some expiry =>
      rw [check_of_blocked (by simp [blocked])]
      exact ⟨rfl, rfl⟩
    | none =>
      rw [check_of_open endpoint major wall blocked]
      exact Registry.onBucket_learned _
  | respond h endpoint major now wall =>
    simp only [call]
    cases complete : h.complete with
    | false =>
      rw [respond_of_incomplete complete]
      exact ⟨rfl, rfl⟩
    | true =>
      cases global : h.global with
      | true =>
        rw [respond_of_global complete global]
        exact ⟨rfl, rfl⟩
      | false =>
        obtain ⟨key, named⟩ := bucket_of_complete complete
        obtain ⟨limit, limited⟩ := limit_of_complete complete
        simp [lesson, complete, global, named, limited] at untold
  | prune now => exact ⟨rfl, rfl⟩
  | learn | fetch => cases traffic

theorem call_told (told : c.lesson = some t) :
    (l.call c).2.registry.keys = l.registry.keys.put t.endpoint t.key ∧
      (l.call c).2.registry.limits = l.registry.limits.put t.key t.limit := by
  cases c with
  | respond h endpoint major now wall =>
    simp only [lesson] at told
    split at told
    · rename_i useful
      simp only [Bool.and_eq_true, Bool.not_eq_true'] at useful
      obtain ⟨complete, aboutOne⟩ := useful
      obtain ⟨key, named⟩ := bucket_of_complete complete
      obtain ⟨limit, limited⟩ := limit_of_complete complete
      simp only [named, limited, Option.bind_some, Option.map_some, Option.some.injEq] at told
      simp only [call, respond_of_key complete aboutOne named, limited, ← told]
      exact Registry.onBucket_learned _
    · cases told
  | check | prune | learn | fetch => cases told

theorem after_told (history : List LimiterCall) (traffic : ∀ c ∈ history, c.isTraffic = true) :
    (∀ endpoint, (empty.after history).registry.keys.get? endpoint = latestKey endpoint history) ∧
      ∀ key, (empty.after history).registry.limits.get? key = latestLimit key history := by
  induction history using List.reverseRecOn with
  | nil => exact ⟨fun _ => rfl, fun _ => rfl⟩
  | append_singleton history c ih =>
    obtain ⟨keys, limits⟩ := ih fun d member => traffic d (List.mem_append_left _ member)
    have last : (empty.after (history ++ [c])).registry = ((empty.after history).call c).2.registry := by
      rw [after_append]
      rfl
    simp only [last, latestKey, latestLimit, latestLesson_concat]
    cases told : c.lesson with
    | none =>
      obtain ⟨sameKeys, sameLimits⟩ :=
        call_untold (l := empty.after history) (traffic c (by simp)) told
      rw [sameKeys, sameLimits]
      exact ⟨keys, limits⟩
    | some t =>
      obtain ⟨newKeys, newLimits⟩ := call_told (l := empty.after history) told
      rw [newKeys, newLimits]
      constructor
      · intro endpoint
        by_cases same : t.endpoint = endpoint
        · simp [same, Table.get?_put_self, Option.filter]
        · simpa [same, Table.get?_put_of_ne same, Option.filter, latestKey] using keys endpoint
      · intro key
        by_cases same : t.key = key
        · simp [same, Table.get?_put_self, Option.filter]
        · simpa [same, Table.get?_put_of_ne same, Option.filter, latestLimit] using limits key

/- What a check goes by. -/

theorem unblocked_of_not_blocked
    (passes : (l.check endpoint major now wall).1 ≠ .globallyBlocked) : l.blockedUntil now = none := by
  cases blocked : l.blockedUntil now with
  | none => rfl
  | some expiry =>
    rw [check_of_blocked (by simp [blocked])] at passes
    exact absurd rfl passes

theorem check_of_found (unblocked : l.blockedUntil now = none)
    (found : l.registry.found? endpoint major wall = some b) :
    l.check endpoint major now wall =
      (admissionOf (some (b.request now).1),
        { l with registry := l.registry.store (b.request now).2 }) := by
  rw [check_of_open endpoint major wall unblocked,
    Registry.onBucket_of_found found (b.request_identity now)]

theorem check_of_nothing (unblocked : l.blockedUntil now = none)
    (nothing : l.registry.found? endpoint major wall = none) :
    l.check endpoint major now wall = (.allowed, l) := by
  rw [check_of_open endpoint major wall unblocked, Registry.onBucket_of_nothing _ nothing]
  rfl

/-- The bucket that an endpoint uses by what it has been told: the one that is stored under its latest
    key, or a new one with the latest limit of that key. -/
structure Controls (history : List LimiterCall) (endpoint : String) (major : Nat) (wall : Instant)
    (b : Bucket) : Prop where
  key : latestKey endpoint history = some b.key
  major : b.major = major
  origin : (empty.after history).registry.buckets.get? b.identity = some b ∨
    (empty.after history).registry.buckets.get? b.identity = none ∧ ∃ limit,
      latestLimit b.key history = some limit ∧ b = Bucket.create b.key b.major limit wall

theorem found?_after (history : List LimiterCall) (traffic : ∀ c ∈ history, c.isTraffic = true)
    (endpoint : String) (major : Nat) (wall : Instant) :
    let found := (empty.after history).registry.found? endpoint major wall
    latestKey endpoint history = none ∧ found = none ∨
      ∃ b, found = some b ∧ Controls history endpoint major wall b := by
  intro found
  let r := (empty.after history).registry
  have filed : r.WellFiled := after_wellFiled history (Registry.empty_every _)
  obtain ⟨keys, limits⟩ := after_told history traffic
  have mapped : r.bucketId? endpoint major =
      (latestKey endpoint history).map fun key => (key, major) := by
    rw [← keys]
    rfl
  cases told : latestKey endpoint history with
  | none => exact Or.inl ⟨rfl, Registry.found?_of_unmapped (by rw [mapped, told]; rfl)⟩
  | some key =>
    rw [told] at mapped
    right
    cases stored : r.buckets.get? (key, major) with
    | some b =>
      have own : b.identity = (key, major) := (Registry.every_of_get? filed stored).1
      obtain ⟨sameKey, sameMajor⟩ := Prod.mk.inj own
      exact ⟨b, Registry.found?_of_stored mapped stored, by rw [told, ← sameKey], sameMajor,
        Or.inl (by rw [own]; exact stored)⟩
    | none =>
      obtain ⟨limit, limited⟩ := latestLimit_of_latestKey told
      have known : r.limits.get? key = some limit := (limits key).trans limited
      refine ⟨Bucket.create key major limit wall, ?_, told, rfl, Or.inr ⟨stored, limit, limited, rfl⟩⟩
      refine (Registry.found?_of_absent mapped stored).trans ?_
      rw [known]
      rfl

/-- A check that no block stops is decided by a bucket exactly if some response has told about the
    endpoint; otherwise it is let through and changes nothing.  The bucket that decides is the one of
    the latest key of the endpoint, and if there is none any more, a new one with the latest limit of
    that key. -/
theorem learned_endpoint_stays_controlled (history : List LimiterCall)
    (traffic : ∀ c ∈ history, c.isTraffic = true) (endpoint : String) (major : Nat)
    (now wall : Instant)
    (passes : ((empty.after history).check endpoint major now wall).1 ≠ .globallyBlocked) :
    let l := empty.after history
    let decider := l.registry.found? endpoint major wall
    (decider.isSome = true ↔ ∃ c ∈ history, ∃ t, c.lesson = some t ∧ t.endpoint = endpoint) ∧
      (decider = none → l.check endpoint major now wall = (.allowed, l)) ∧
      ∀ b, decider = some b →
        l.check endpoint major now wall =
            (admissionOf (some (b.request now).1),
              { l with registry := l.registry.store (b.request now).2 }) ∧
          latestKey endpoint history = some b.key ∧ b.major = major ∧
          (l.registry.buckets.get? b.identity = some b ∨
            l.registry.buckets.get? b.identity = none ∧ ∃ limit,
              latestLimit b.key history = some limit ∧
                b = Bucket.create b.key b.major limit wall) := by
  intro l decider
  have unblocked : l.blockedUntil now = none := unblocked_of_not_blocked passes
  have finds := found?_after history traffic endpoint major wall
  rw [← latestKey_isSome_iff]
  refine ⟨?_, check_of_nothing unblocked, fun b found => ⟨check_of_found unblocked found, ?_⟩⟩
  · rcases finds with ⟨untold, nothing⟩ | ⟨b, found, controls⟩
    · simp [decider, l, untold, nothing]
    · simp [decider, l, found, controls.key]
  · rcases finds with ⟨_, nothing⟩ | ⟨c, same, controls⟩
    · cases nothing.symm.trans found
    · obtain rfl : c = b := Option.some.inj (same.symm.trans found)
      exact ⟨controls.key, controls.major, controls.origin⟩

/-- Another endpoint has told of a lower limit for the same key; after all buckets have been forgotten,
    the endpoint that was told about first gets a new bucket with that limit. -/
theorem forgotten_bucket_returns_with_latest_limit :
    let told (limit : Nat) : LimitHeaders := { LimitHeaders.empty with
      limit := some limit, remaining := some 0, reset := some 1700000001000000000,
      resetAfter := some (Span.ofSeconds 1), bucket := some "messages" }
    let start : Instant := 1700000000000000000
    let now : Instant := 1700003600000000000
    let history := [LimiterCall.respond (told 5) "send" 7 start start,
      .respond (told 3) "edit" 8 start start, .check "send" 7 start start, .prune now]
    let l := empty.after history
    let fresh := Bucket.create "messages" 9 3 now
    l.registry.found? "send" 9 now = some fresh ∧
      l.check "send" 9 now now =
        (.allowed, { l with registry := l.registry.store (fresh.request now).2 }) ∧
      latestKey "send" history = some "messages" ∧ latestLimit "messages" history = some 3 ∧
      l.registry.buckets = [] := by
  intro told start now history l fresh
  have traffic : ∀ c ∈ history, c.isTraffic = true := by simp [history, isTraffic]
  have passes : (l.check "send" 9 now now).1 ≠ .globallyBlocked := by decide +kernel
  have found : l.registry.found? "send" 9 now = some fresh := by decide +kernel
  have forgotten : l.registry.buckets = [] := by decide +kernel
  have granted : (fresh.request now).1 = none := by decide +kernel
  obtain ⟨_, _, decided⟩ := learned_endpoint_stays_controlled history traffic "send" 9 now now passes
  obtain ⟨verdict, key, _, origin⟩ := decided fresh found
  rw [granted] at verdict
  refine ⟨found, verdict, key, ?_, forgotten⟩
  rcases origin with stored | ⟨_, limit, limited, made⟩
  · rw [forgotten] at stored
    cases stored
  · rw [show limit = 3 from (congrArg Bucket.limit made).symm] at limited
    exact limited

end Limiter
end SessionFleet
