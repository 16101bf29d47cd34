import SessionFleet.Proofs.RateLimit.GlobalBlock
/- Whose word counts for the block.  The global response that arrived last decides alone, also where an
   earlier one has announced a later end; a bucket whose responses come out of order keeps the later
   reset instead. -/
namespace SessionFleet
namespace LimiterCall

def announcedBlock : LimiterCall → Option Instant
  | .respond h _ _ _ _ => if h.complete && h.global then h.reset else none
  | _ => none

/-- The ends of the block that a run announces, in the order in which the responses arrive. -/
def announcedBlocks (calls : List LimiterCall) : List Instant := calls.filterMap announcedBlock

theorem announcedBlocks_append (before later : List LimiterCall) :
    announcedBlocks (before ++ later) = announcedBlocks before ++ announcedBlocks later :=
  List.filterMap_append ..

theorem announcedBlock_of_other {c : LimiterCall} (other : c.setsBlock = false) :
    c.announcedBlock = none := by
  cases c with
  | respond h endpoint major now wall =>
    simp only [setsBlock] at other
    simp [announcedBlock, other]
  | check | prune | learn | fetch => rfl

end LimiterCall

namespace Limiter
open LimiterCall

variable {l : Limiter} {c : LimiterCall} {now wall : Instant} {endpoint : String} {major : Nat}

theorem call_expiry (l : Limiter) (c : LimiterCall) :
    (l.call c).2.globalExpiry = c.announcedBlock.or l.globalExpiry := by
  cases sets : c.setsBlock with
  | false => rw [call_keeps_expiry sets, announcedBlock_of_other sets, Option.none_or]
  | true =>
    cases c with
    | respond h endpoint major now wall =>
      simp only [setsBlock, Bool.and_eq_true] at sets
      obtain ⟨complete, global⟩ := sets
      obtain ⟨reset, announced⟩ := reset_of_complete complete
      simp [call, respond_of_global complete global, announcedBlock, complete, global, announced]
    | check | prune | learn | fetch => cases sets

theorem after_expiry (l : Limiter) (calls : List LimiterCall) :
    (l.after calls).globalExpiry = (announcedBlocks calls).getLast?.or l.globalExpiry := by
  induction calls generalizing l with
  | nil => rfl
  | cons c rest ih =>
    have later := ih (l.call c).2
    rw [call_expiry] at later
    refine later.trans ?_
    unfold announcedBlocks
    rw [List.filterMap_cons]
    cases c.announcedBlock with
    | none => rw [Option.none_or]
    | some reset =>
      simp only [Option.some_or, List.getLast?_cons]
      cases (List.filterMap announcedBlock rest).getLast? <;> rfl

theorem check_blocked_iff (l : Limiter) (endpoint : String) (major : Nat) (now wall : Instant) :
    (l.check endpoint major now wall).1 = .globallyBlocked ↔ ∃ reset ∈ l.globalExpiry, now < reset := by
  constructor
  · intro blocked
    cases open_ : l.blockedUntil now with
    | none =>
      rw [check_of_open endpoint major wall open_] at blocked
      exact absurd blocked (admissionOf_not_blocked _)
    | some reset =>
      obtain ⟨set, early⟩ := Option.filter_eq_some_iff.mp open_
      exact ⟨reset, set, of_decide_eq_true early⟩
  · rintro ⟨reset, set, early⟩
    exact check_before_expiry set early endpoint major wall

/-- The block of a run is the one that was announced last. -/
theorem after_blocked_iff (r : Registry) (calls : List LimiterCall) (endpoint : String) (major : Nat)
    (now wall : Instant) :
    (((Limiter.mk r none).after calls).check endpoint major now wall).1 = .globallyBlocked ↔
      ∃ reset ∈ (announcedBlocks calls).getLast?, now < reset := by
  rw [check_blocked_iff, after_expiry, Option.or_none]

/-- The last end stands for all of them exactly if none lies beyond it. -/
theorem covered_iff (ends : List Instant) :
    (∀ now, (∃ reset ∈ ends.getLast?, now < reset) ↔ ∃ reset ∈ ends, now < reset) ↔
      ∀ reset ∈ ends, ∀ last ∈ ends.getLast?, reset ≤ last := by
  constructor
  · intro same reset member last isLast
    apply Int.not_lt.mp
    intro later
    obtain ⟨end_, isEnd, ahead⟩ := (same last).mpr ⟨reset, member, later⟩
    rw [Option.mem_unique isEnd isLast] at ahead
    exact Int.lt_irrefl last ahead
  · intro covered now
    constructor
    · rintro ⟨reset, isLast, early⟩
      exact ⟨reset, List.mem_of_getLast? isLast, early⟩
    · rintro ⟨reset, member, early⟩
      have some_last : ends.getLast?.isSome = true := by
        rw [List.getLast?_isSome]
        exact List.ne_nil_of_mem member
      obtain ⟨last, isLast⟩ := Option.isSome_iff_exists.mp some_last
      exact ⟨last, isLast, Int.lt_of_lt_of_le early (covered reset member last isLast)⟩

/-- A request is blocked as long as the end that was announced last lies ahead.  So every end that was
    announced is waited for exactly if none lies beyond the last one, and two responses can change
    places exactly if they announce the same end. -/
theorem last_announcement_decides (r : Registry) (calls : List LimiterCall) (endpoint : String)
    (major : Nat) (wall : Instant) :
    let blocked (calls : List LimiterCall) (now : Instant) : Prop :=
      (((Limiter.mk r none).after calls).check endpoint major now wall).1 = .globallyBlocked
    (∀ now, blocked calls now ↔ ∃ reset ∈ (announcedBlocks calls).getLast?, now < reset) ∧
      ((∀ now, blocked calls now ↔ ∃ reset ∈ announcedBlocks calls, now < reset) ↔
        ∀ reset ∈ announcedBlocks calls, ∀ last ∈ (announcedBlocks calls).getLast?, reset ≤ last) ∧
      ∀ first second a b, announcedBlock first = some a → announcedBlock second = some b →
        ((∀ now, blocked (calls ++ [first, second]) now ↔ blocked (calls ++ [second, first]) now) ↔
          a = b) := by
  intro blocked
  refine ⟨fun now => after_blocked_iff r calls endpoint major now wall, ?_, ?_⟩
  · simp only [blocked, after_blocked_iff]
    exact covered_iff (announcedBlocks calls)
  · intro first second a b firstEnd secondEnd
    have ends {c d : LimiterCall} {x y : Instant} (one : announcedBlock c = some x)
        (two : announcedBlock d = some y) (now : Instant) :
        blocked (calls ++ [c, d]) now ↔ now < y := by
      simp only [blocked, after_blocked_iff, announcedBlocks_append]
      simp [announcedBlocks, one, two]
    simp only [ends firstEnd secondEnd, ends secondEnd firstEnd]
    constructor
    · intro same
      have notBefore := (same a).mp
      have notAfter := (same b).mpr
      simp only [Int.lt_irrefl, imp_false, Int.not_lt] at notBefore notAfter
      exact Int.le_antisymm notAfter notBefore
    · intro same now
      rw [same]

theorem equal_ends_change_places :
    let global : LimitHeaders := { LimitHeaders.empty with
      global := true, limit := some 5, remaining := some 0, reset := some 1700000010000000000,
      resetAfter := some (Span.ofSeconds 10), bucket := some "messages" }
    let first := LimiterCall.respond global "send" 7 1700000000000000000 0
    let second := LimiterCall.respond global "read" 8 1700000001000000000 0
    announcedBlock first = some 1700000010000000000 ∧
      announcedBlock second = some 1700000010000000000 ∧
      ∀ now, (((Limiter.mk .empty none).after [first, second]).check "send" 7 now 0).1 =
          .globallyBlocked ↔
        (((Limiter.mk .empty none).after [second, first]).check "send" 7 now 0).1 =
          .globallyBlocked := by
  intro global first second
  have firstEnd : announcedBlock first = some 1700000010000000000 := rfl
  have secondEnd : announcedBlock second = some 1700000010000000000 := rfl
  obtain ⟨_, _, places⟩ := last_announcement_decides .empty [] "send" 7 0
  exact ⟨firstEnd, secondEnd, (places first second _ _ firstEnd secondEnd).mpr rfl⟩

/-- The second response announces an end nine seconds before that of the first; five seconds before the
    end of the first a request is let through.  In the other order it is blocked. -/
theorem late_response_shortens_block :
    let h : LimitHeaders := { LimitHeaders.empty with
      global := true, limit := some 5, remaining := some 0, bucket := some "messages" }
    let long := LimiterCall.respond { h with
      reset := some 1700000010000000000, resetAfter := some (Span.ofSeconds 10) }
      "send" 7 1700000000000000000 0
    let short := LimiterCall.respond { h with
      reset := some 1700000001000000000, resetAfter := some (Span.ofSeconds 1) }
      "send" 7 1700000000000000000 0
    let now : Instant := 1700000005000000000
    (∃ reset ∈ announcedBlocks [long, short], now < reset) ∧
      ((empty.after [long, short]).check "send" 7 now 0).1 = .allowed ∧
      ((empty.after [short, long]).check "send" 7 now 0).1 = .globallyBlocked := by
  intro h long short now
  exact ⟨⟨1700000010000000000, by decide, by decide⟩, by decide, by decide⟩

end Limiter
end SessionFleet
