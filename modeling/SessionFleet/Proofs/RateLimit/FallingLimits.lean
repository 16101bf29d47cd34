import Mathlib.Data.List.Chain
import SessionFleet.Proofs.RateLimit.SlotLedger
/- Whether a bucket ever has more left than its limit.

   A response sets the limit and leaves alone what remains, and an exhausted bucket lets one request
   out whatever its limit is.  So there is no more left than the limit as long as limits never fall
   and the first is not 0, and no weaker condition on the limits is enough. -/
namespace SessionFleet
namespace BucketCall

def names? : BucketCall → Option Nat
  | .respond h _ => h.limit
  | .acquire _ | .request _ | .tick _ | .delay _ => none

/-- A response that tells a limit and nothing else. -/
def naming (limit : Nat) : BucketCall := .respond { LimitHeaders.empty with limit := some limit } 0

def filling : List BucketCall :=
  [.respond { LimitHeaders.empty with resetAfter := some 0 } 0, .tick 1]

end BucketCall

namespace Bucket

variable {b : Bucket} {c : BucketCall}

def namedLimits (calls : List BucketCall) : List Nat := calls.filterMap BucketCall.names?

/-- A response names a limit below what it leaves, or a bucket that has no limit to give lets a
    request out. -/
def oversteps (b : Bucket) : BucketCall → Bool
  | .respond h _ => h.limit.any (· < b.seedsTo h.remaining)
  | .tick now => b.limit = 0 && b.releaseDue now
  | .acquire _ | .request _ | .delay _ => false

theorem call_limit (b : Bucket) (c : BucketCall) : (b.call c).limit = c.names?.getD b.limit := by
  cases c with
  | acquire now => simp [call, acquire_eq, BucketCall.names?]
  | request now => simp [call, request_limit, BucketCall.names?]
  | tick now => simp [call, tick_limit, BucketCall.names?]
  | delay now => simp [call, BucketCall.names?]
  | respond h now => simp [call, respond_eq, BucketCall.names?]

theorem call_within_iff (within : b.remaining ≤ b.limit) (c : BucketCall) :
    (b.call c).remaining ≤ (b.call c).limit ↔ b.oversteps c = false := by
  cases c with
  | acquire now =>
    simp only [call, acquire_eq, oversteps, iff_true]
    omega
  | request now =>
    simp only [call, request_bucket, tick_limit, oversteps, iff_true]
    obtain ⟨_, _, refilled⟩ | ⟨_, _, released⟩ | ⟨_, _, noted⟩ := b.tick_refills_or_releases now
    · rw [refilled]
      simp only
      omega
    · rw [released]
      simp only
      omega
    · rw [noted]
      simp only
      omega
  | tick now =>
    simp only [call, tick_limit, oversteps]
    obtain ⟨_, kept, refilled⟩ | ⟨_, release, released⟩ | ⟨_, kept, noted⟩ :=
      b.tick_refills_or_releases now
    · simp [refilled, kept]
    · simp [released, release, Nat.one_le_iff_ne_zero]
    · simp [noted, kept, within]
  | delay now => simp [call, oversteps, within]
  | respond h now =>
    have fewer := b.seedsTo_le h.remaining
    simp only [call, respond_eq, oversteps]
    cases named : h.limit with
    | none =>
      simp only [Option.getD_none, Option.any_none, iff_true]
      omega
    | some n => simp

theorem within_throughout_iff (within : b.remaining ≤ b.limit) (calls : List BucketCall) :
    (∀ past, past <+: calls → (b.after past).remaining ≤ (b.after past).limit) ↔
      ∀ e ∈ b.course calls, e.1.oversteps e.2 = false := by
  induction calls generalizing b with
  | nil => simp [course, after, within]
  | cons c rest ih =>
    rw [course, List.forall_mem_cons, ← call_within_iff within c]
    constructor
    · intro always
      have next : (b.call c).remaining ≤ (b.call c).limit := always [c] ⟨rest, rfl⟩
      refine ⟨next, (ih next).mp ?_⟩
      intro past earlier
      exact always (c :: past) (List.cons_prefix_cons.mpr ⟨rfl, earlier⟩)
    · intro steps past earlier
      obtain ⟨next, later⟩ := steps
      rcases List.prefix_cons_iff.mp earlier with start | ⟨front, split, before⟩
      · rw [start]
        exact within
      · rw [split]
        exact (ih next).mpr later front before

/- Limits that never fall. -/

theorem namedLimits_cons (c : BucketCall) (rest : List BucketCall) :
    namedLimits (c :: rest) = c.names?.toList ++ namedLimits rest := by
  cases named : c.names? <;> simp [namedLimits, named]

theorem namedLimits_append (calls later : List BucketCall) :
    namedLimits (calls ++ later) = namedLimits calls ++ namedLimits later :=
  List.filterMap_append

theorem not_oversteps (positive : 0 < b.limit) (within : b.remaining ≤ b.limit)
    (rises : ∀ n, c.names? = some n → b.limit ≤ n) : b.oversteps c = false := by
  cases c with
  | acquire now | request now | delay now => rfl
  | tick now => simp [oversteps, Nat.ne_of_gt positive]
  | respond h now =>
    cases named : h.limit with
    | none => simp [oversteps, named]
    | some n =>
      have risen := rises n named
      have fewer := b.seedsTo_le h.remaining
      simp only [oversteps, named, Option.any_some, decide_eq_false_iff_not]
      omega

theorem course_not_oversteps (positive : 0 < b.limit) (within : b.remaining ≤ b.limit)
    (calls : List BucketCall) (rising : (b.limit :: namedLimits calls).IsChain (· ≤ ·)) :
    ∀ e ∈ b.course calls, e.1.oversteps e.2 = false := by
  induction calls generalizing b with
  | nil =>
    intro e member
    cases member
  | cons c rest ih =>
    rw [namedLimits_cons] at rising
    have rises : (∀ n, c.names? = some n → b.limit ≤ n) ∧
        ((b.call c).limit :: namedLimits rest).IsChain (· ≤ ·) := by
      rw [call_limit]
      cases named : c.names? with
      | none =>
        rw [named] at rising
        exact ⟨by simp, rising⟩
      | some n =>
        rw [named] at rising
        obtain ⟨risen, rest_rising⟩ := List.isChain_cons_cons.mp rising
        exact ⟨by simp [risen], rest_rising⟩
    have steady := not_oversteps positive within rises.1
    have still_positive : 0 < (b.call c).limit := by
      rw [call_limit]
      cases named : c.names? with
      | none => exact positive
      | some n => exact Nat.lt_of_lt_of_le positive (rises.1 n named)
    intro e member
    rcases List.mem_cons.mp member with first | later
    · rw [first]
      exact steady
    · exact ih still_positive ((call_within_iff within c).mpr steady) rises.2 e later

/- Runs that reach any limit with a full bucket. -/

theorem after_naming (b : Bucket) (limits : List Nat) :
    b.after (limits.map BucketCall.naming) = { b with limit := limits.getLastD b.limit } := by
  induction limits generalizing b with
  | nil => rfl
  | cons n rest ih =>
    have next : b.call (.naming n) = { b with limit := n } := rfl
    rw [List.getLastD_cons, List.map_cons]
    exact (congrArg (Bucket.after · (rest.map BucketCall.naming)) next).trans (ih _)

theorem after_filling (unset : b.nextReset = none) :
    b.after BucketCall.filling =
      { b with nextReset := some 0, remaining := b.limit, trusted := false } := by
  have announced : announcedReset { LimitHeaders.empty with resetAfter := some 0 } 0 = some 0 := by
    decide
  have answered : b.respond { LimitHeaders.empty with resetAfter := some 0 } 0 =
      { b with nextReset := some 0, trusted := true } := by
    rw [respond_eq, announced]
    simp [moveReset, unset, seedsTo, LimitHeaders.empty]
  have due : refillDue { b with nextReset := some 0, trusted := true } 1 = true := by
    simp [refillDue, resetFrom]
  have run : b.after BucketCall.filling =
      (b.respond { LimitHeaders.empty with resetAfter := some 0 } 0).tick 1 := rfl
  rw [run, answered, tick_of_refillDue due]
  rfl

theorem namedLimits_naming (limits : List Nat) :
    namedLimits (limits.map BucketCall.naming) = limits := by
  induction limits with
  | nil => rfl
  | cons n rest ih =>
    rw [List.map_cons, namedLimits_cons, ih]
    rfl

/-- A run that is full when the next limit is named. -/
def risingRun (before : List Nat) (next : Nat) : List BucketCall :=
  before.map BucketCall.naming ++ BucketCall.filling ++ [BucketCall.naming next]

theorem namedLimits_risingRun (before : List Nat) (next : Nat) :
    namedLimits (risingRun before next) = before ++ [next] := by
  have filling : namedLimits BucketCall.filling = [] := rfl
  have last : namedLimits [BucketCall.naming next] = [next] := rfl
  rw [risingRun, namedLimits_append, namedLimits_append, namedLimits_naming, filling, last,
    List.append_nil]

theorem after_risingRun (unset : b.nextReset = none) (before : List Nat) (next : Nat) :
    (b.after (risingRun before next)).remaining = before.getLastD b.limit ∧
      (b.after (risingRun before next)).limit = next := by
  have run : b.after (risingRun before next) =
      ((b.after (before.map BucketCall.naming)).after BucketCall.filling).call (.naming next) := by
    simp [risingRun, after]
  have still_unset : (b.after (before.map BucketCall.naming)).nextReset = none := by
    rw [after_naming]
    exact unset
  rw [run, after_filling still_unset, after_naming]
  exact ⟨rfl, rfl⟩

/-- Every state of every run from this limit on that names just these others is within its limit. -/
def StaysWithin (limit : Nat) (named : List Nat) : Prop :=
  ∀ key major created calls, namedLimits calls = named → ∀ past, past <+: calls →
    ((create key major limit created).after past).remaining ≤
      ((create key major limit created).after past).limit

variable {limit : Nat} {named : List Nat}

/-- A bucket of limit 0 is stale six seconds after its first tick. -/
theorem positive_of_staysWithin (within : StaysWithin limit named) : 0 < limit := by
  apply Nat.pos_of_ne_zero
  intro empty
  let stale : List BucketCall := [.tick 0, .tick (Span.ofSeconds 6)]
  have names : namedLimits (stale ++ named.map BucketCall.naming) = named := by
    rw [namedLimits_append, namedLimits_naming]
    rfl
  have released := within "" 0 0 _ names stale (List.prefix_append _ _)
  rw [empty] at released
  exact absurd released (by decide)

theorem rising_of_staysWithin (within : StaysWithin limit named) :
    (limit :: named).IsChain (· ≤ ·) := by
  rw [List.isChain_iff_forall_rel_of_append_cons_cons]
  intro before next earlier later split
  obtain ⟨limits, named_split, last⟩ : ∃ limits, named = limits ++ next :: later ∧
      limits.getLastD limit = before := by
    cases earlier with
    | nil =>
      rw [List.nil_append, List.cons.injEq] at split
      exact ⟨[], split.2, split.1⟩
    | cons first earlier =>
      rw [List.cons_append, List.cons.injEq] at split
      exact ⟨earlier ++ [before], by simp [split.2], by simp⟩
  have names : namedLimits (risingRun limits next ++ later.map BucketCall.naming) = named := by
    rw [namedLimits_append, namedLimits_naming, namedLimits_risingRun, named_split]
    simp
  have run := within "" 0 0 _ names (risingRun limits next) (List.prefix_append _ _)
  obtain ⟨full, limited⟩ := after_risingRun (b := create "" 0 limit 0) rfl limits next
  rw [full, limited] at run
  rw [← last]
  exact run

theorem staysWithin_of_rising (positive : 0 < limit) (rising : (limit :: named).IsChain (· ≤ ·)) :
    StaysWithin limit named := by
  intro key major created calls names
  rw [← names] at rising
  exact (within_throughout_iff (Nat.le_refl limit) calls).mpr
    (course_not_oversteps positive (Nat.le_refl limit) calls rising)

/- What holds of every run. -/

theorem call_remaining_cases (b : Bucket) (c : BucketCall) :
    (b.call c).remaining ≤ b.remaining ∨ (b.call c).remaining ≤ b.limit ∨
      (b.call c).remaining ≤ 1 := by
  have ticked (now : Instant) : (b.tick now).remaining ≤ b.remaining ∨
      (b.tick now).remaining ≤ b.limit ∨ (b.tick now).remaining ≤ 1 := by
    obtain ⟨_, _, refilled⟩ | ⟨_, _, released⟩ | ⟨_, _, noted⟩ := b.tick_refills_or_releases now
    · exact Or.inr (Or.inl (by rw [refilled]))
    · exact Or.inr (Or.inr (by rw [released]))
    · exact Or.inl (by rw [noted])
  cases c with
  | acquire now =>
    simp only [call, acquire_eq]
    omega
  | request now =>
    have before := ticked now
    simp only [call, request_bucket]
    omega
  | tick now => exact ticked now
  | delay now => exact Or.inl (Nat.le_refl _)
  | respond h now => exact Or.inl (b.respond_remaining_le h now)

theorem remaining_le_some_limit (b : Bucket) (calls : List BucketCall) :
    ∃ l ∈ 1 :: b.remaining :: b.limit :: namedLimits calls, (b.after calls).remaining ≤ l := by
  induction calls generalizing b with
  | nil => exact ⟨b.remaining, by simp, Nat.le_refl _⟩
  | cons c rest ih =>
    obtain ⟨l, member, bounded⟩ := ih (b.call c)
    have next : b.after (c :: rest) = (b.call c).after rest := rfl
    have named_later : ∀ n ∈ namedLimits rest, n ∈ namedLimits (c :: rest) := by
      intro n later
      rw [namedLimits_cons]
      exact List.mem_append_right _ later
    rw [next]
    simp only [List.mem_cons] at member ⊢
    rcases member with one | left | limit | later
    · exact ⟨l, Or.inl one, bounded⟩
    · rw [left] at bounded
      rcases b.call_remaining_cases c with kept | refilled | released
      · exact ⟨b.remaining, Or.inr (Or.inl rfl), Nat.le_trans bounded kept⟩
      · exact ⟨b.limit, Or.inr (Or.inr (Or.inl rfl)), Nat.le_trans bounded refilled⟩
      · exact ⟨1, Or.inl rfl, Nat.le_trans bounded released⟩
    · refine ⟨l, Or.inr (Or.inr ?_), bounded⟩
      rw [limit, call_limit, namedLimits_cons]
      cases c.names? with
      | none => exact Or.inl rfl
      | some n => exact Or.inr (by simp)
    · exact ⟨l, Or.inr (Or.inr (Or.inr (named_later l later))), bounded⟩

/-- The runs that name certain limits are all within their limit in every state exactly if the first
    limit is not 0 and none is below the one before it.  A single run is if no response of it names
    a limit below what it leaves and no request is let out of a bucket of limit 0.  In any case no
    more is left than some limit that the bucket has had, or the one request that was let out. -/
theorem within_limit_iff_limits_never_fall (limit : Nat) :
    (∀ named, StaysWithin limit named ↔ 0 < limit ∧ (limit :: named).IsChain (· ≤ ·)) ∧
    ∀ key major created calls,
      let b := create key major limit created
      ((∀ past, past <+: calls → (b.after past).remaining ≤ (b.after past).limit) ↔
        ∀ e ∈ b.course calls, e.1.oversteps e.2 = false) ∧
      ∃ l ∈ 1 :: limit :: namedLimits calls, (b.after calls).remaining ≤ l := by
  constructor
  · intro named
    constructor
    · intro within
      exact ⟨positive_of_staysWithin within, rising_of_staysWithin within⟩
    · intro ⟨positive, rising⟩
      exact staysWithin_of_rising positive rising
  · intro key major created calls b
    refine ⟨within_throughout_iff (Nat.le_refl limit) calls, ?_⟩
    obtain ⟨l, member, bounded⟩ := b.remaining_le_some_limit calls
    refine ⟨l, ?_, bounded⟩
    simpa [b, create] using member

/-- Two responses, the second with a lower limit: ten requests are left where two are allowed. -/
theorem ten_left_at_limit_two :
    let first := { LimitHeaders.empty with
      limit := some 10, remaining := some 10, resetAfter := some (Span.ofSeconds 60) }
    let second := { LimitHeaders.empty with
      limit := some 2, remaining := some 1, resetAfter := some (Span.ofSeconds 59) }
    let b := (create "key" 1 10 1700000000000000000).after
      [.respond first 1700000000000000000, .respond second 1700000001000000000]
    b.limit = 2 ∧ b.remaining = 10 := by
  decide

end Bucket
end SessionFleet
