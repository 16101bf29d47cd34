import Mathlib.Data.List.Basic
import Mathlib.Order.Lattice
import SessionFleet.Proofs.RateLimit.BucketRuns
/- The reset of a bucket that only hears responses.

   The reset goes to the latest instant that is announced, and it is trusted from the first response
   that announces a later one.  Neither asks in which order the responses came, or how often. -/
namespace SessionFleet
namespace Bucket

variable {b : Bucket} {responses : List (LimitHeaders × Instant)}

/-- Each response with the instant of its receipt. -/
def hear (b : Bucket) (responses : List (LimitHeaders × Instant)) : Bucket :=
  responses.foldl (fun b r => b.respond r.1 r.2) b

/-- The instants at which the responses say that the bucket resets: the receipt and the time until
    the reset, if there is one and the sum can be represented. -/
def announced (responses : List (LimitHeaders × Instant)) : List Instant :=
  responses.filterMap fun r => r.1.resetAfter.bind r.2.later?

/-- The reset lies before this instant, or there is none. -/
def resetsBefore (b : Bucket) (t : Instant) : Bool := b.nextReset.all (· < t)

theorem hear_append (b : Bucket) (before later : List (LimitHeaders × Instant)) :
    b.hear (before ++ later) = (b.hear before).hear later :=
  List.foldl_append ..

theorem respond_nextReset (b : Bucket) (h : LimitHeaders) (now : Instant) :
    (b.respond h now).nextReset = (b.nextReset.toList ++ announced [(h, now)]).max? := by
  have moved : (b.respond h now).nextReset = (b.moveReset (announcedReset h now)).nextReset := by
    rw [respond_eq]
  rw [moved]
  unfold announcedReset announced
  cases told : h.resetAfter.bind now.later? with
  | none => cases known : b.nextReset <;> simp [moveReset, told, known]
  | some t =>
    cases known : b.nextReset with
    | none => simp [moveReset, told, known]
    | some reset =>
      by_cases moves : reset < t
      · simp [moveReset, told, known, moves, max_eq_right moves.le]
      · simp [moveReset, told, known, moves, max_eq_left (not_lt.mp moves)]

theorem respond_trusted (b : Bucket) (h : LimitHeaders) (now : Instant) :
    (b.respond h now).trusted = (b.trusted || (announced [(h, now)]).any b.resetsBefore) := by
  have moved : (b.respond h now).trusted = (b.moveReset (announcedReset h now)).trusted := by
    rw [respond_eq]
  rw [moved]
  unfold announcedReset announced
  cases told : h.resetAfter.bind now.later? with
  | none => simp [moveReset, told]
  | some t =>
    cases moves : b.resetsBefore t with
    | true =>
      have first : b.nextReset.all (· < t) = true := moves
      simp [moveReset, told, moves, first]
    | false =>
      have stays : b.nextReset.all (· < t) = false := moves
      simp [moveReset, told, moves, stays]

/-- A response that announces no later reset leaves the clock alone. -/
theorem respond_resetsBefore {h : LimitHeaders} {now : Instant}
    (early : (announced [(h, now)]).any b.resetsBefore = false) (t : Instant) :
    (b.respond h now).resetsBefore t = b.resetsBefore t := by
  have same : (b.respond h now).nextReset = b.nextReset := by
    rw [respond_eq]
    unfold announcedReset
    unfold announced at early
    cases told : h.resetAfter.bind now.later? with
    | none => rfl
    | some t =>
      have stays : b.nextReset.all (· < t) = false := by
        simpa [told, resetsBefore] using early
      simp [moveReset, stays]
  simp only [resetsBefore, same]

theorem announced_cons (r : LimitHeaders × Instant) (rest : List (LimitHeaders × Instant)) :
    announced (r :: rest) = announced [r] ++ announced rest := by
  unfold announced
  cases told : r.1.resetAfter.bind r.2.later? <;> simp [told]

/-- The latest of some instants and more. -/
theorem max?_of_max? (front back : List Instant) :
    (front.max?.toList ++ back).max? = (front ++ back).max? := by
  cases front with
  | nil => rfl
  | cons t rest =>
    rw [List.cons_append, List.max?_cons', List.max?_cons', List.foldl_append]
    exact List.max?_cons'

theorem hear_nextReset (b : Bucket) (responses : List (LimitHeaders × Instant)) :
    (b.hear responses).nextReset = (b.nextReset.toList ++ announced responses).max? := by
  induction responses generalizing b with
  | nil => cases known : b.nextReset <;> simp [hear, announced, known]
  | cons r rest ih =>
    have next : (b.hear (r :: rest)).nextReset = ((b.respond r.1 r.2).hear rest).nextReset := rfl
    rw [next, ih, respond_nextReset, max?_of_max?, List.append_assoc, ← announced_cons]

theorem hear_trusted (b : Bucket) (responses : List (LimitHeaders × Instant)) :
    (b.hear responses).trusted = (b.trusted || (announced responses).any b.resetsBefore) := by
  induction responses generalizing b with
  | nil => simp [hear, announced]
  | cons r rest ih =>
    have next : (b.hear (r :: rest)).trusted = ((b.respond r.1 r.2).hear rest).trusted := rfl
    rw [next, ih, respond_trusted, announced_cons r rest, List.any_append]
    cases moves : (announced [r]).any b.resetsBefore with
    | true => simp
    | false =>
      have same : (b.respond r.1 r.2).resetsBefore = b.resetsBefore := by
        funext t
        exact respond_resetsBefore moves t
      simp [same]

/-- What bears on the clock: the instants that are announced, and nothing else. -/
theorem hear_clock {others : List (LimitHeaders × Instant)}
    (same : ∀ t, t ∈ announced others ↔ t ∈ announced responses) (b : Bucket) :
    (b.hear others).nextReset = (b.hear responses).nextReset ∧
      (b.hear others).trusted = (b.hear responses).trusted := by
  constructor
  · rw [hear_nextReset, hear_nextReset]
    apply Option.ext
    intro t
    simp only [List.max?_eq_some_iff, List.mem_append, same]
  · rw [hear_trusted, hear_trusted]
    congr 1
    rw [Bool.eq_iff_iff, List.any_eq_true, List.any_eq_true]
    simp only [same]

theorem resetDelay_of_clock {c : Bucket} (reset : c.nextReset = b.nextReset)
    (trust : c.trusted = b.trusted) (now : Instant) : c.resetDelay now = b.resetDelay now := by
  simp only [resetDelay, reset, trust]

/-- Whatever the order of the responses, the clock ends the same, and any of them may come again.
    The reset ends at the latest of the instants that are announced and the old one. -/
theorem reset_clock_ignores_order (b : Bucket) (responses : List (LimitHeaders × Instant)) :
    (∀ reordered : List (LimitHeaders × Instant), reordered.Perm responses →
      (b.hear reordered).nextReset = (b.hear responses).nextReset ∧
        (b.hear reordered).trusted = (b.hear responses).trusted ∧
        ∀ now, (b.hear reordered).resetDelay now = (b.hear responses).resetDelay now) ∧
      (∀ again : List (LimitHeaders × Instant), again ⊆ responses →
        ((b.hear responses).hear again).nextReset = (b.hear responses).nextReset ∧
          ((b.hear responses).hear again).trusted = (b.hear responses).trusted) ∧
      (b.hear responses).nextReset =
        (b.nextReset.toList ++
          responses.filterMap fun r => r.1.resetAfter.bind r.2.later?).max? := by
  refine ⟨?_, ?_, hear_nextReset b responses⟩
  · intro reordered permuted
    have same (t : Instant) : t ∈ announced reordered ↔ t ∈ announced responses :=
      (permuted.filterMap _).mem_iff
    obtain ⟨reset, trust⟩ := hear_clock same b
    exact ⟨reset, trust, resetDelay_of_clock reset trust⟩
  · intro again heard
    rw [← hear_append]
    apply hear_clock
    intro t
    have known : t ∈ announced again → t ∈ announced responses := by
      intro told
      exact List.filterMap_subset _ heard told
    unfold announced at known ⊢
    rw [List.filterMap_append, List.mem_append]
    exact ⟨fun told => told.elim id known, Or.inl⟩

/-- A response that is overtaken by a later one, and one that says nothing of the reset. -/
theorem overtaken_response_sets_same_reset :
    let near : LimitHeaders × Instant :=
      ({ LimitHeaders.empty with resetAfter := some (Span.ofSeconds 10) }, 0)
    let far : LimitHeaders × Instant :=
      ({ LimitHeaders.empty with resetAfter := some (Span.ofSeconds 60) }, 5000000000)
    let mute : LimitHeaders × Instant := ({ LimitHeaders.empty with limit := some 5 }, 6000000000)
    let b := create "messages" 7 5 0
    [far, mute, near].Perm [near, far, mute] ∧ [near] ⊆ [near, far, mute] ∧
      (b.hear [far, mute, near]).nextReset = some 65000000000 ∧
      ((b.hear [near, far, mute]).hear [near]).nextReset = some 65000000000 ∧
      (b.hear [far, mute, near]).trusted = true := by
  intro near far mute b
  have permuted : [far, mute, near].Perm [near, far, mute] := by decide
  have heard : [near] ⊆ [near, far, mute] := by simp
  obtain ⟨reorder, repeated, _⟩ := reset_clock_ignores_order b [near, far, mute]
  obtain ⟨reset, trust, _⟩ := reorder [far, mute, near] permuted
  have ends : (b.hear [near, far, mute]).nextReset = some 65000000000 := by decide
  refine ⟨permuted, heard, reset.trans ends, (repeated [near] heard).1.trans ends, ?_⟩
  exact trust.trans (by decide)

end Bucket
end SessionFleet
