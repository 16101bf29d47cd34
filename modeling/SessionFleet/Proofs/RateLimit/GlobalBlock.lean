import SessionFleet.Proofs.RateLimit.LimiterRuns
/- The block that holds for every endpoint.

   Once it is set, no check before its end gets past it, whatever else happens, until another one is
   set.  And it leaves no trace: what the calls that it does not concern are answered, and the
   registry at the end, are those of the run without any global response and any blocked check. -/
namespace SessionFleet
namespace LimiterCall

def isGlobal : LimiterCall → Bool
  | .respond h _ _ _ _ => h.global
  | _ => false

/-- A global response counts only if it carries everything. -/
def setsBlock : LimiterCall → Bool
  | .respond h _ _ _ _ => h.complete && h.global
  | _ => false

end LimiterCall

namespace Limiter

variable {l : Limiter} {c : LimiterCall}

/-- A call that the block does not concern: no global response and no blocked check. -/
def visible (e : LimiterCall × LimiterAnswer) : Bool :=
  !e.1.isGlobal && e.2 ≠ .admission .globallyBlocked

/-- The run without the calls that the block concerns. -/
def withoutBlock (l : Limiter) (calls : List LimiterCall) : List LimiterCall :=
  ((l.trace calls).filter visible).map Prod.fst

def unblocked (l : Limiter) : Limiter := { l with globalExpiry := none }

/- The block holds. -/

theorem call_keeps_expiry (other : c.setsBlock = false) :
    (l.call c).2.globalExpiry = l.globalExpiry := by
  cases c with
  | check endpoint major now wall =>
    cases blocked : l.blockedUntil now with
    | some expiry => simp [call, check_of_blocked, blocked]
    | none => simp [call, check_of_open endpoint major wall blocked]
  | respond h endpoint major now wall =>
    simp only [LimiterCall.setsBlock] at other
    cases complete : h.complete with
    | false => simp [call, respond_of_incomplete complete]
    | true =>
      obtain ⟨key, named⟩ := bucket_of_complete complete
      have aboutOne : h.global = false := by simpa [complete] using other
      simp [call, respond_of_key complete aboutOne named]
  | prune now => rfl
  | learn endpoint key limit => rfl
  | fetch endpoint major wall => rfl

theorem after_keeps_expiry (calls : List LimiterCall) (others : ∀ c ∈ calls, c.setsBlock = false) :
    (l.after calls).globalExpiry = l.globalExpiry := by
  induction calls generalizing l with
  | nil => rfl
  | cons c rest ih =>
    exact (ih fun d member => others d (by simp [member])).trans
      (call_keeps_expiry (others c (by simp)))

theorem check_before_expiry {reset now : Instant} (set : l.globalExpiry = some reset)
    (early : now < reset) (endpoint : String) (major : Nat) (wall : Instant) :
    (l.check endpoint major now wall).1 = .globallyBlocked := by
  have blocked : (l.blockedUntil now).isSome = true := by simp [blockedUntil, set, early]
  rw [check_of_blocked blocked]

/- The block leaves no trace: a call that it concerns does not touch the registry, and every other
   call does the same where there is no block. -/

theorem hidden_call_registry (hidden : visible (c, (l.call c).1) = false) :
    (l.call c).2.registry = l.registry := by
  cases c with
  | check endpoint major now wall =>
    cases blocked : l.blockedUntil now with
    | some expiry => simp [call, check_of_blocked, blocked]
    | none =>
      simp only [visible, call, check_of_open endpoint major wall blocked,
        LimiterCall.isGlobal] at hidden
      simp [admissionOf_not_blocked] at hidden
  | respond h endpoint major now wall =>
    have global : h.global = true := by simpa [visible, call, LimiterCall.isGlobal] using hidden
    cases complete : h.complete with
    | false => simp [call, respond_of_incomplete complete]
    | true => simp [call, respond_of_global complete global]
  | prune now => simp [visible, call, LimiterCall.isGlobal] at hidden
  | learn endpoint key limit => simp [visible, call, LimiterCall.isGlobal] at hidden
  | fetch endpoint major wall => simp [visible, call, LimiterCall.isGlobal] at hidden

theorem unblocked_open (l : Limiter) (now : Instant) : l.unblocked.blockedUntil now = none := rfl

theorem visible_call_unblocked (seen : visible (c, (l.call c).1) = true) :
    l.unblocked.call c = ((l.call c).1, (l.call c).2.unblocked) := by
  cases c with
  | check endpoint major now wall =>
    cases blocked : l.blockedUntil now with
    | some expiry =>
      simp [visible, call, check_of_blocked, blocked] at seen
    | none =>
      simp only [call, check_of_open endpoint major wall blocked,
        check_of_open endpoint major wall (l.unblocked_open now)]
      rfl
  | respond h endpoint major now wall =>
    have aboutOne : h.global = false := by
      simpa [visible, call, LimiterCall.isGlobal] using seen
    cases complete : h.complete with
    | false => simp [call, respond_of_incomplete complete]
    | true =>
      obtain ⟨key, named⟩ := bucket_of_complete complete
      simp only [call, respond_of_key complete aboutOne named]
      rfl
  | prune now => rfl
  | learn endpoint key limit => rfl
  | fetch endpoint major wall => rfl

theorem run_withoutBlock (l : Limiter) (calls : List LimiterCall) :
    l.unblocked.trace (l.withoutBlock calls) = (l.trace calls).filter visible ∧
      l.unblocked.after (l.withoutBlock calls) = (l.after calls).unblocked := by
  induction calls generalizing l with
  | nil => exact ⟨rfl, rfl⟩
  | cons c rest ih =>
    obtain ⟨sameTrace, sameEnd⟩ := ih (l.call c).2
    cases seen : visible (c, (l.call c).1) with
    | false =>
      have start : (l.call c).2.unblocked = l.unblocked := by
        simp [unblocked, hidden_call_registry seen]
      rw [start] at sameTrace sameEnd
      have dropped : l.withoutBlock (c :: rest) = (l.call c).2.withoutBlock rest := by
        simp [withoutBlock, trace, seen]
      rw [dropped]
      exact ⟨by rw [sameTrace]; simp [trace, seen], sameEnd⟩
    | true =>
      have step := visible_call_unblocked seen
      have kept : l.withoutBlock (c :: rest) = c :: (l.call c).2.withoutBlock rest := by
        simp [withoutBlock, trace, seen]
      rw [kept]
      constructor
      · simp only [trace, step, sameTrace, List.filter_cons, seen, ↓reduceIte]
      · simp only [after, List.foldl_cons, step]
        exact sameEnd

/-- Over any registry: after a global response no check before its reset is let through until the
    next global response, and all that the block concerns can be left out of the run without a change
    to the other answers, to the buckets or to what is known about endpoints and keys. -/
theorem global_block_holds_without_trace (r : Registry) (calls : List LimiterCall) :
    let l : Limiter := ⟨r, none⟩
    (∀ before h e m t w between reset, calls = before ++ .respond h e m t w :: between →
        h.complete = true → h.global = true → h.reset = some reset →
        (∀ c ∈ between, c.setsBlock = false) → ∀ endpoint major now wall, now < reset →
        ((l.after calls).check endpoint major now wall).1 = .globallyBlocked) ∧
      l.trace (l.withoutBlock calls) = (l.trace calls).filter visible ∧
      (l.after (l.withoutBlock calls)).registry = (l.after calls).registry ∧
      ∀ c, visible (c, ((l.after calls).call c).1) = false →
        ((l.after calls).call c).2.registry = (l.after calls).registry := by
  intro l
  obtain ⟨sameTrace, sameEnd⟩ := l.run_withoutBlock calls
  have start : l.unblocked = l := rfl
  rw [start] at sameTrace sameEnd
  have sameRegistry : (l.after (l.withoutBlock calls)).registry = (l.after calls).registry := by
    rw [sameEnd]
    rfl
  refine ⟨?_, sameTrace, sameRegistry, fun c => hidden_call_registry⟩
  intro before h e m t w between reset split complete global announced others endpoint major now
    wall early
  have set : (l.after calls).globalExpiry = some reset := by
    rw [split, after_append]
    refine (after_keeps_expiry between others).trans ?_
    simp [call, respond_of_global complete global, announced]
  exact check_before_expiry set early endpoint major wall

theorem unknown_endpoint_is_blocked :
    let h := { LimitHeaders.empty with
      limit := some 5, remaining := some 2, reset := some 1700000001000000000,
      resetAfter := some (Span.ofSeconds 1), bucket := some "messages" }
    let global := { h with global := true }
    let calls := [LimiterCall.respond h "send" 7 1700000000000000000 0,
      .respond global "send" 7 1700000000000000000 0, .check "send" 7 1700000000500000000 0]
    global.complete = true ∧ global.reset = some 1700000001000000000 ∧
      (1700000000999999999 : Instant) < 1700000001000000000 ∧
      ((Limiter.after ⟨.empty, none⟩ calls).check "other" 8 1700000000999999999 0).1
        = .globallyBlocked := by
  intro h global calls
  refine ⟨rfl, rfl, by decide, ?_⟩
  exact (global_block_holds_without_trace .empty calls).1
    [.respond h "send" 7 1700000000000000000 0] global "send" 7 1700000000000000000 0
    [.check "send" 7 1700000000500000000 0] 1700000001000000000 rfl rfl rfl rfl
    (by simp [LimiterCall.setsBlock]) "other" 8 1700000000999999999 0 (by decide)

end Limiter
end SessionFleet
