import Mathlib.Data.List.Flatten
import SessionFleet.Proofs.Identify.TurnRuns
/- How far apart turns are handed out.  Between two rounds that grant somebody a whole period passes,
   also when the queue fell asleep in between: it falls asleep in a round of its own, a period after
   the last one that granted a turn, and only then can it be woken up again. -/
namespace SessionFleet

namespace TurnCourse

open LocalTurns

variable {c : TurnCourse}

/-- No round is held before this. -/
def earliest (c : TurnCourse) : Instant := c.turns.nextRound.getD c.clock

theorem earliest_le_elapse (c : TurnCourse) (d : Span) : c.earliest ≤ (c.elapse d).earliest := by
  simp only [earliest, elapse]
  cases c.turns.nextRound with
  | none => exact Int.le_add_of_nonneg_right (Int.natCast_nonneg d)
  | some t => exact Int.le_refl t

theorem earliest_le_held {e : TurnEvent} {r : Round} (held : (c.meet e).1 = some r) :
    c.earliest ≤ r.held := by
  obtain ⟨_, due, rfl⟩ := due_of_meet held
  simp only [roundDue] at due
  simp only [earliest]
  cases next : c.turns.nextRound with
  | none => simp [next] at due
  | some t => simpa [next] using due

/-- After a round that granted somebody a whole period passes. -/
theorem earliest_of_called {e : TurnEvent} {r : Round} (held : (c.meet e).1 = some r)
    (called : r.called ≠ []) : (c.meet e).2.earliest = r.held + LocalTurns.period := by
  obtain ⟨rfl, due, rfl⟩ := due_of_meet held
  have someone : c.turns.callUp.1.isEmpty = false := by simpa using called
  rw [meet_of_due due]
  simp only [earliest, round_of_called someone, LocalTurns.nextRound, List.head?_cons,
    Option.getD_some]

theorem earliest_le_meet (kept : Kept c) (e : TurnEvent) : c.earliest ≤ (c.meet e).2.earliest := by
  cases e with
  | join shard =>
    cases awake : c.turns.awake with
    | true => simp [meet, earliest, LocalTurns.join, LocalTurns.nextRound, awake]
    | false =>
      -- the new keeper first waits for the others to come
      have nobody := keepers_of_asleep kept awake
      have now : c.earliest = c.clock := by simp [earliest, LocalTurns.nextRound, nobody]
      have next : (c.meet (.join shard)).2.earliest = c.clock + LocalTurns.warmUp := by
        simp [meet, earliest, LocalTurns.join, LocalTurns.nextRound, awake, nobody]
      rw [now, next]
      exact Int.le_add_of_nonneg_right (Int.natCast_nonneg LocalTurns.warmUp)
  | abandon ticket => exact Int.le_refl _
  | round =>
    cases due : c.roundDue with
    | false =>
      have still : (c.meet .round).2 = c := congrArg Prod.snd (meet_of_not_due due)
      exact Int.le_of_eq (by rw [still])
    | true =>
      obtain ⟨_, t, alone, early⟩ := keepers_of_due kept due
      have now : c.earliest = t := by simp [earliest, LocalTurns.nextRound, alone]
      rw [meet_of_due due, now]
      cases called : c.turns.callUp.1.isEmpty with
      | true =>
        simp only [earliest, round_of_none_called called, LocalTurns.nextRound, alone,
          List.tail_cons, List.head?_nil, Option.getD_none]
        exact early
      | false =>
        simp only [earliest, round_of_called called, LocalTurns.nextRound, List.head?_cons,
          Option.getD_some]
        exact Int.le_trans early (Int.le_add_of_nonneg_right (Int.natCast_nonneg LocalTurns.period))

theorem rounds_apart (kept : Kept c) (events : List (Span × TurnEvent)) :
    (∀ r ∈ c.rounds events, c.earliest ≤ r.held) ∧
      (c.rounds events).Pairwise fun (r s : Round) =>
        r.called ≠ [] → r.held + LocalTurns.period ≤ s.held := by
  induction events generalizing c with
  | nil => simp [rounds]
  | cons e rest ih =>
    have waited := c.earliest_le_elapse e.1
    have grows : (c.elapse e.1).earliest ≤ (c.step e).2.earliest :=
      earliest_le_meet (elapse_kept kept e.1) e.2
    obtain ⟨bounded, apart⟩ := ih (step_kept kept e)
    simp only [rounds]
    cases held : (c.step e).1 with
    | none =>
      simp only [Option.toList_none, List.nil_append]
      refine ⟨?_, apart⟩
      intro r member
      exact Int.le_trans waited (Int.le_trans grows (bounded r member))
    | some s =>
      have first : (c.elapse e.1).earliest ≤ s.held := earliest_le_held held
      simp only [Option.toList_some, List.cons_append, List.nil_append, List.mem_cons]
      constructor
      · rintro r (rfl | member)
        · exact Int.le_trans waited first
        · exact Int.le_trans waited (Int.le_trans grows (bounded r member))
      · apply List.Pairwise.cons
        · intro r member called
          have whole : (c.step e).2.earliest = s.held + LocalTurns.period :=
            earliest_of_called held called
          rw [← whole]
          exact bounded r member
        · exact apart

theorem called_of_rounds {r : Round} (events : List (Span × TurnEvent)) (member : r ∈ c.rounds events) :
    ∃ q : LocalTurns, q.concurrency = c.turns.concurrency ∧ r.called = q.callUp.1 := by
  induction events generalizing c with
  | nil => simp [rounds] at member
  | cons e rest ih =>
    simp only [rounds, List.mem_append, Option.mem_toList] at member
    rcases member with now | later
    · obtain ⟨_, _, same⟩ := due_of_meet now
      exact ⟨c.turns, rfl, by rw [same]; rfl⟩
    · obtain ⟨q, same, called⟩ := ih later
      exact ⟨q, same.trans (c.step_concurrency e), called⟩

/-- Of rounds that lie a period apart at most one falls into a window of that length. -/
theorem grants_in_window_le {n : Nat} {rs : List Round}
    (apart : rs.Pairwise fun (r s : Round) => r.called ≠ [] → r.held + LocalTurns.period ≤ s.held)
    (few : ∀ r ∈ rs, r.called.length ≤ n) (t : Instant) :
    ((rs.flatMap Round.grants).filter fun g =>
      t ≤ g.when_ ∧ g.when_ < t + LocalTurns.period).length ≤ n := by
  induction rs with
  | nil => simp
  | cons r rest ih =>
    obtain ⟨before, apart⟩ := List.pairwise_cons.mp apart
    have others := ih apart fun s member => few s (List.mem_cons_of_mem r member)
    rw [List.flatMap_cons, List.filter_append, List.length_append]
    by_cases inside : r.called ≠ [] ∧ t ≤ r.held ∧ r.held < t + LocalTurns.period
    · obtain ⟨called, opened, _⟩ := inside
      have outside : (rest.flatMap Round.grants).filter
          (fun g => t ≤ g.when_ ∧ g.when_ < t + LocalTurns.period) = [] := by
        apply List.filter_eq_nil_iff.mpr
        intro g member
        obtain ⟨s, listed, granted⟩ := List.mem_flatMap.mp member
        have gap := before s listed called
        have same := (Round.mem_grants.mp granted).2
        simp only [decide_eq_true_eq, same]
        intro ⟨_, early⟩
        have late := Int.le_trans (Int.add_le_add_right opened _) gap
        exact Int.not_lt.mpr late early
      have own := few r List.mem_cons_self
      have most := List.length_filter_le
        (fun g : Grant => t ≤ g.when_ ∧ g.when_ < t + LocalTurns.period) r.grants
      simp only [Round.grants, List.length_map] at most
      rw [outside, List.length_nil]
      exact Nat.le_trans most own
    · have outside : r.grants.filter
          (fun g => t ≤ g.when_ ∧ g.when_ < t + LocalTurns.period) = [] := by
        apply List.filter_eq_nil_iff.mpr
        intro g member
        obtain ⟨called, same⟩ := Round.mem_grants.mp member
        rw [same]
        simp only [decide_eq_true_eq]
        intro within
        exact inside ⟨List.ne_nil_of_mem called, within⟩
      rw [outside, List.length_nil, Nat.zero_add]
      exact others

/-- Whoever waits or gives up at whatever time: turns of one bucket lie a period apart, a window of
    that length holds no more turns than there are buckets, and there is never a second keeper. -/
theorem turns_keep_their_distance (concurrency : Nat) (clock : Instant)
    (events : List (Span × TurnEvent)) :
    let c := start concurrency clock
    let buckets := max concurrency 1
    ((c.grants events).Pairwise fun (g h : Grant) =>
        g.waiter.shard % buckets = h.waiter.shard % buckets →
          g.when_ + LocalTurns.period ≤ h.when_) ∧
      (∀ t : Instant, ((c.grants events).filter fun g : Grant =>
        t ≤ g.when_ ∧ g.when_ < t + LocalTurns.period).length ≤ buckets) ∧
      (c.after events).turns.keepers.length ≤ 1 := by
  intro c buckets
  have kept : Kept c := start_kept concurrency clock
  obtain ⟨_, apart⟩ := rounds_apart kept events
  refine ⟨?_, ?_, ?_⟩
  · apply List.pairwise_flatMap.mpr
    constructor
    · intro r member
      obtain ⟨q, same, called⟩ := called_of_rounds events member
      have distinct := q.called_distinct_buckets
      rw [← called, same] at distinct
      apply List.pairwise_map.mpr
      exact distinct.imp fun differ equal => absurd equal differ
    · apply apart.imp
      intro r s gap g granted h next _
      obtain ⟨called, sameG⟩ := Round.mem_grants.mp granted
      obtain ⟨_, sameH⟩ := Round.mem_grants.mp next
      rw [sameG, sameH]
      exact gap (List.ne_nil_of_mem called)
  · intro t
    apply grants_in_window_le apart
    intro r member
    obtain ⟨q, same, called⟩ := called_of_rounds events member
    have positive : 0 < q.concurrency := by
      rw [same]
      exact Nat.lt_of_lt_of_le Nat.zero_lt_one (Nat.le_max_right concurrency 1)
    have few := LocalTurns.called_length_le positive
    rw [← called, same] at few
    exact few
  · rw [(after_kept kept events).keepers]
    split <;> omega

end TurnCourse
end SessionFleet
