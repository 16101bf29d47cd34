import Mathlib.Algebra.GroupWithZero.Nat
import SessionFleet.Proofs.RateLimit.BucketRuns
/- Where the requests come from that a bucket lets through: its limit at the start, the limit at
   each refill, and one request each time it has been exhausted for too long.

   A refill uses up the trust that a response gave to the reset, and a release moves the reset to
   itself.  So refills are paid for by responses and releases by time, whatever the instants of a
   run are. -/
namespace SessionFleet
namespace BucketCall

/-- The instant of a call that looks at the clock before anything else. -/
def ticksAt? : BucketCall → Option Instant
  | .request now | .tick now => some now
  | .acquire _ | .delay _ | .respond _ _ => none

def seeds : BucketCall → Bool
  | .respond h _ => h.remaining.isSome
  | .acquire _ | .request _ | .tick _ | .delay _ => false

end BucketCall

namespace Bucket

variable {b : Bucket} {c : BucketCall} {t s : Instant}

/-- Exhausted, and for too long without a reset that is trusted. -/
def releaseDue (b : Bucket) (now : Instant) : Bool :=
  !b.trusted && b.remaining = 0 && b.overdue now

/-- The limit to which a call refills, if it does. -/
def refill? (b : Bucket) (c : BucketCall) : Option Nat :=
  c.ticksAt?.bind fun now => if b.refillDue now then some b.limit else none

/-- When a call lets one request out of a bucket that is exhausted, if it does. -/
def release? (b : Bucket) (c : BucketCall) : Option Instant :=
  c.ticksAt?.bind fun now => if b.releaseDue now then some now else none

/-- The reset that a response sets, if it is the first or later than the one before. -/
def move? (b : Bucket) : BucketCall → Option Instant
  | .respond h now => (b.respond h now).nextReset.filter fun t => b.nextReset.all (· < t)
  | .acquire _ | .request _ | .tick _ | .delay _ => none

def refills (b : Bucket) (calls : List BucketCall) : List Nat :=
  (b.course calls).filterMap fun e => e.1.refill? e.2

def releases (b : Bucket) (calls : List BucketCall) : List Instant :=
  (b.course calls).filterMap fun e => e.1.release? e.2

def moves (b : Bucket) (calls : List BucketCall) : List Instant :=
  (b.course calls).filterMap fun e => e.1.move? e.2

/- No tick both refills and releases. -/

theorem tick_refills_or_releases (b : Bucket) (now : Instant) :
    (b.refillDue now = true ∧ b.releaseDue now = false ∧ b.tick now =
      { b with nextReset := some (b.resetFrom now), remaining := b.limit, trusted := false }) ∨
    (b.refillDue now = false ∧ b.releaseDue now = true ∧
      b.tick now = { b with nextReset := some now, remaining := 1 }) ∨
    (b.refillDue now = false ∧ b.releaseDue now = false ∧
      b.tick now = { b with nextReset := some (b.resetFrom now) }) := by
  obtain ⟨due, refilled⟩ | ⟨untrusted, exhausted, late, released⟩ | ⟨notDue, kept, noted⟩ :=
    b.tick_cases now
  · have trusted : b.trusted = true := by
      simp only [refillDue, Bool.and_eq_true] at due
      exact due.1
    exact Or.inl ⟨due, by simp [releaseDue, trusted], refilled⟩
  · have notDue : b.refillDue now = false := by simp [refillDue, untrusted]
    have release : b.releaseDue now = true := by simp [releaseDue, untrusted, exhausted, late]
    exact Or.inr (Or.inl ⟨notDue, release, released⟩)
  · have unreleased : b.releaseDue now = false := by
      cases release : b.releaseDue now with
      | false => rfl
      | true =>
        simp only [releaseDue, Bool.and_eq_true, Bool.not_eq_true', decide_eq_true_eq] at release
        exact absurd ⟨release.1.1, release.1.2, release.2⟩ kept
    exact Or.inr (Or.inr ⟨notDue, unreleased, noted⟩)

/- Requests: what a call grants is taken from what was left, refilled or released. -/

theorem tick_remaining_le (b : Bucket) {now : Instant} (ticks : c.ticksAt? = some now) :
    (b.tick now).remaining ≤
      b.remaining + (b.refill? c).getD 0 + (b.release? c).toList.length := by
  unfold refill? release?
  rw [ticks, Option.bind_some, Option.bind_some]
  obtain ⟨due, _, refilled⟩ | ⟨_, release, released⟩ | ⟨_, _, noted⟩ :=
    b.tick_refills_or_releases now
  · rw [refilled, if_pos due, Option.getD_some]
    simp only
    omega
  · rw [released, if_pos release, Option.toList_some, List.length_singleton]
    simp only
    omega
  · rw [noted]
    simp only
    omega

theorem call_slots (b : Bucket) (c : BucketCall) :
    (if b.grants c then 1 else 0) + (b.call c).remaining ≤
      b.remaining + (b.refill? c).getD 0 + (b.release? c).toList.length := by
  cases c with
  | acquire now =>
    simp only [grants, call, acquire_eq, decide_eq_true_eq]
    split <;> omega
  | request now =>
    have ticked := b.tick_remaining_le (c := .request now) rfl
    simp only [grants, call, request_bucket, Option.isNone_iff_eq_none, request_granted_iff]
    split <;> omega
  | tick now =>
    have ticked := b.tick_remaining_le (c := .tick now) rfl
    simp only [grants, call, Bool.false_eq_true, ↓reduceIte]
    omega
  | delay now =>
    simp only [grants, call, Bool.false_eq_true, ↓reduceIte]
    omega
  | respond h now =>
    have fewer := b.respond_remaining_le h now
    simp only [grants, call, Bool.false_eq_true, ↓reduceIte]
    omega

theorem filterMap_course_cons {α : Type} (f : Bucket × BucketCall → Option α) (b : Bucket)
    (c : BucketCall) (rest : List BucketCall) :
    (b.course (c :: rest)).filterMap f =
      (f (b, c)).toList ++ ((b.call c).course rest).filterMap f := by
  cases found : f (b, c) <;> simp [course, found]

theorem granted_le (b : Bucket) (calls : List BucketCall) :
    b.granted calls + (b.after calls).remaining ≤
      b.remaining + (b.refills calls).sum + (b.releases calls).length := by
  unfold refills releases
  induction calls generalizing b with
  | nil => simp [granted, after, course]
  | cons c rest ih =>
    have first := b.call_slots c
    have others := ih (b.call c)
    have charged : (b.refill? c).toList.sum = (b.refill? c).getD 0 := by
      cases b.refill? c <;> simp
    have next : b.after (c :: rest) = (b.call c).after rest := rfl
    rw [filterMap_course_cons, filterMap_course_cons, List.sum_append, List.length_append, granted,
      next]
    simp only [charged]
    omega

/- Refills: each needs a reset that is trusted, and only a response that moves it gives trust. -/

theorem tick_trust (b : Bucket) {now : Instant} (ticks : c.ticksAt? = some now) :
    (b.refill? c).toList.length + (b.tick now).trusted.toNat ≤ b.trusted.toNat := by
  unfold refill?
  rw [ticks, Option.bind_some]
  obtain ⟨due, _, refilled⟩ | ⟨notDue, _, released⟩ | ⟨notDue, _, noted⟩ :=
    b.tick_refills_or_releases now
  · have trusted : b.trusted = true := by
      simp only [refillDue, Bool.and_eq_true] at due
      exact due.1
    rw [refilled, due, trusted]
    simp
  · rw [released, notDue]
    simp
  · rw [noted, notDue]
    simp

theorem respond_trust (b : Bucket) (h : LimitHeaders) (now : Instant) :
    (b.respond h now).trusted.toNat ≤
      b.trusted.toNat + (b.move? (.respond h now)).toList.length := by
  simp only [move?]
  rw [respond_eq]
  cases announced : announcedReset h now with
  | none => simp [moveReset]
  | some reset =>
    by_cases moves : b.nextReset.all (· < reset) = true
    · simp only [moveReset, moves, ↓reduceIte]
      rw [Option.filter_some, if_pos moves]
      simp
    · simp [moveReset, moves]

theorem call_trust (b : Bucket) (c : BucketCall) :
    (b.refill? c).toList.length + (b.call c).trusted.toNat ≤
      b.trusted.toNat + (b.move? c).toList.length := by
  cases c with
  | acquire now =>
    simp only [call, acquire_eq, refill?, BucketCall.ticksAt?]
    simp
  | request now =>
    have ticked := b.tick_trust (c := .request now) rfl
    simp only [call, request_bucket]
    omega
  | tick now =>
    have ticked := b.tick_trust (c := .tick now) rfl
    simp only [call]
    omega
  | delay now => simp [call, refill?, BucketCall.ticksAt?]
  | respond h now =>
    have trust := b.respond_trust h now
    simp only [call, refill?, BucketCall.ticksAt?, Option.bind_none, Option.toList_none,
      List.length_nil]
    omega

theorem refills_le_moves (b : Bucket) (calls : List BucketCall) :
    (b.refills calls).length ≤ b.trusted.toNat + (b.moves calls).length := by
  unfold refills moves
  induction calls generalizing b with
  | nil => simp [course]
  | cons c rest ih =>
    have first := b.call_trust c
    have others := ih (b.call c)
    rw [filterMap_course_cons, filterMap_course_cons, List.length_append, List.length_append]
    simp only
    omega

/- Releases: the reset never moves earlier, and a release moves it to its own instant. -/

theorem tick_keeps (ahead : b.ResetsNotBefore t) (now : Instant) :
    (b.tick now).ResetsNotBefore t := by
  obtain ⟨reset, known, later⟩ := ahead
  have counted : b.resetFrom now = reset := by simp [resetFrom, known]
  obtain ⟨_, _, refilled⟩ | ⟨_, release, released⟩ | ⟨_, _, noted⟩ :=
    b.tick_refills_or_releases now
  · exact ⟨reset, by rw [refilled, counted], later⟩
  · simp only [releaseDue, overdue, counted, Bool.and_eq_true, decide_eq_true_eq] at release
    have passed : reset < now :=
      Int.lt_of_sub_pos (Int.lt_of_le_of_lt (Int.natCast_nonneg _) release.2)
    exact ⟨now, by rw [released], Int.le_trans later (Int.le_of_lt passed)⟩
  · exact ⟨reset, by rw [noted, counted], later⟩

theorem call_keeps (ahead : b.ResetsNotBefore t) (c : BucketCall) :
    (b.call c).ResetsNotBefore t := by
  cases c with
  | acquire now =>
    simp only [call, acquire_eq]
    exact ahead
  | request now =>
    simp only [call, request_bucket]
    exact tick_keeps ahead now
  | tick now => exact tick_keeps ahead now
  | delay now => exact ahead
  | respond h now => exact respond_keeps ahead h now

theorem after_keeps (ahead : b.ResetsNotBefore t) (calls : List BucketCall) :
    (b.after calls).ResetsNotBefore t := by
  induction calls generalizing b with
  | nil => exact ahead
  | cons c rest ih => exact ih (call_keeps ahead c)

theorem released_at (released : b.release? c = some s) :
    c.ticksAt? = some s ∧ b.releaseDue s = true := by
  obtain ⟨now, ticks, at_now⟩ := Option.bind_eq_some_iff.mp released
  split at at_now
  · rename_i due
    rw [← Option.some.inj at_now]
    exact ⟨ticks, due⟩
  · cases at_now

theorem release_after_reset (ahead : b.ResetsNotBefore t) (released : b.release? c = some s) :
    (staleTimeout : Int) < s - t := by
  obtain ⟨reset, known, later⟩ := ahead
  obtain ⟨_, due⟩ := released_at released
  have counted : b.resetFrom s = reset := by simp [resetFrom, known]
  simp only [releaseDue, overdue, counted, Bool.and_eq_true, decide_eq_true_eq] at due
  exact Int.lt_of_lt_of_le due.2 (Int.sub_le_sub_left later s)

theorem release_sets_reset (released : b.release? c = some s) : (b.call c).ResetsNotBefore s := by
  obtain ⟨ticks, due⟩ := released_at released
  obtain ⟨_, kept, _⟩ | ⟨_, _, ticked⟩ | ⟨_, kept, _⟩ := b.tick_refills_or_releases s
  · simp [due] at kept
  · cases c with
    | acquire now | delay now | respond h now => cases ticks
    | request now =>
      cases ticks
      refine ⟨s, ?_, Int.le_refl s⟩
      rw [call, request_bucket, ticked]
    | tick now =>
      cases ticks
      exact ⟨s, by rw [call, ticked], Int.le_refl s⟩
  · simp [due] at kept

theorem releases_after_reset (ahead : b.ResetsNotBefore t) (calls : List BucketCall) :
    ∀ s ∈ b.releases calls, (staleTimeout : Int) < s - t := by
  unfold releases
  induction calls generalizing b with
  | nil => simp [course]
  | cons c rest ih =>
    intro s member
    rw [filterMap_course_cons, List.mem_append, Option.mem_toList] at member
    rcases member with now | later
    · exact release_after_reset ahead now
    · exact ih (call_keeps ahead c) s later

theorem releases_apart (b : Bucket) (calls : List BucketCall) :
    (b.releases calls).Pairwise fun earlier later => (staleTimeout : Int) < later - earlier := by
  unfold releases
  induction calls generalizing b with
  | nil => exact List.Pairwise.nil
  | cons c rest ih =>
    rw [filterMap_course_cons]
    cases released : b.release? c with
    | none => exact ih (b.call c)
    | some s =>
      exact List.pairwise_cons.mpr
        ⟨releases_after_reset (release_sets_reset released) rest, ih (b.call c)⟩

/- Responses: only the first that tells what remains is listened to. -/

theorem call_seeded (b : Bucket) (c : BucketCall) : (b.call c).seeded = (b.seeded || c.seeds) := by
  cases c with
  | acquire now => simp [call, acquire_eq, BucketCall.seeds]
  | request now => simp [call, request_seeded, BucketCall.seeds]
  | tick now => simp [call, tick_seeded, BucketCall.seeds]
  | delay now => simp [call, BucketCall.seeds]
  | respond h now => simp [call, respond_eq, BucketCall.seeds]

theorem after_seeded (b : Bucket) (calls : List BucketCall) :
    (b.after calls).seeded = (b.seeded || calls.any BucketCall.seeds) := by
  induction calls generalizing b with
  | nil => simp [after]
  | cons c rest ih =>
    have rest_seeded := ih (b.call c)
    rw [call_seeded] at rest_seeded
    rw [List.any_cons, ← Bool.or_assoc, ← rest_seeded]
    rfl

theorem respond_of_seeded (seeded : b.seeded = true) (h : LimitHeaders) (now : Instant) :
    (b.respond h now).remaining = b.remaining := by
  rw [respond_eq]
  simp [seedsTo, seeded]

/-- What a bucket lets through is its limit at the start, the limit at each refill and one request
    for each release.  There are no more refills than responses that move the reset, releases lie
    further apart than the stale timeout, a reset that is known never moves earlier, and a response
    leaves what remains as it is, but for the first one, which may lower it. -/
theorem slots_are_accounted_for (key : String) (major limit : Nat) (created : Instant)
    (calls : List BucketCall) :
    let b := create key major limit created
    b.granted calls ≤ limit + (b.refills calls).sum + (b.releases calls).length ∧
      (b.refills calls).length ≤ (b.moves calls).length ∧
      (b.releases calls).Pairwise
        (fun earlier later => (staleTimeout : Int) < later - earlier) ∧
      (∀ later reset, (b.after calls).nextReset = some reset →
        ∃ moved, ((b.after calls).after later).nextReset = some moved ∧ reset ≤ moved) ∧
      ∀ h now, ((b.after calls).respond h now).remaining ≤ (b.after calls).remaining ∧
        (calls.any BucketCall.seeds = true →
          ((b.after calls).respond h now).remaining = (b.after calls).remaining) := by
  intro b
  have slots := b.granted_le calls
  have trust := b.refills_le_moves calls
  have untrusted : b.trusted = false := rfl
  have full : b.remaining = limit := rfl
  rw [untrusted, Bool.toNat_false, Nat.zero_add] at trust
  refine ⟨by omega, trust, b.releases_apart calls, ?_, ?_⟩
  · intro later reset known
    exact after_keeps ⟨reset, known, Int.le_refl reset⟩ later
  · intro h now
    refine ⟨respond_remaining_le _ h now, ?_⟩
    intro told
    apply respond_of_seeded
    rw [after_seeded, told, Bool.or_true]

end Bucket
end SessionFleet
