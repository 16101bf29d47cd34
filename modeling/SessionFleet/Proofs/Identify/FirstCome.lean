import Mathlib.Data.List.Flatten
import Mathlib.Data.List.Nodup
import SessionFleet.Proofs.Identify.TurnRuns
/- First come, first served, in every bucket.  A waiter that was granted a turn is behind nobody any
   more, and nobody overtakes: whoever has to wait sees the waiters ahead become fewer in each round. -/
namespace SessionFleet

/-- Another waiter, and a later one if both are of one bucket. -/
def Waiter.Before (n : Nat) (v w : Waiter) : Prop :=
  v.ticket ≠ w.ticket ∧ (v.shard % n = w.shard % n → v.ticket < w.ticket)

namespace LocalTurns

variable {q : LocalTurns} {v w : Waiter} {ws : List Waiter}

theorem same_of_ticket (ordered : ws.Pairwise fun v w => v.ticket < w.ticket) (left : v ∈ ws)
    (right : w ∈ ws) (same : v.ticket = w.ticket) : v = w := by
  have distinct : (ws.map (·.ticket)).Nodup := by
    apply List.pairwise_map.mpr
    exact ordered.imp Nat.ne_of_lt
  exact List.inj_on_of_nodup_map distinct left right same

theorem called_before_called (ordered : q.waiting.Pairwise fun v w => v.ticket < w.ticket) :
    q.callUp.1.Pairwise (Waiter.Before q.concurrency) := by
  apply q.called_distinct_buckets.imp_of_mem
  intro v w left right differ
  constructor
  · intro same
    apply differ
    rw [same_of_ticket ordered (called_of_mem left) (called_of_mem right) same]
  · intro equal
    exact absurd equal differ

theorem called_before_kept (ordered : q.waiting.Pairwise fun v w => v.ticket < w.ticket)
    (called : v ∈ q.callUp.1) (stays : w ∈ q.callUp.2) : Waiter.Before q.concurrency v w := by
  have earlier (equal : v.shard % q.concurrency = w.shard % q.concurrency) :
      v.ticket < w.ticket := by
    have first : v ∈ ofBucket q.concurrency (v.shard % q.concurrency) q.callUp.1 :=
      mem_ofBucket.mpr ⟨called, rfl⟩
    have later : w ∈ ofBucket q.concurrency (v.shard % q.concurrency) q.callUp.2 :=
      mem_ofBucket.mpr ⟨stays, equal.symm⟩
    rw [callUp_ofBucket] at first
    rw [kept_ofBucket] at later
    have sorted : (live (q.line (v.shard % q.concurrency))).Pairwise
        fun v w => v.ticket < w.ticket :=
      (ordered.sublist List.filter_sublist).sublist (List.dropWhile_sublist _)
    rw [← List.take_append_drop 1 (live _)] at sorted
    exact (List.pairwise_append.mp sorted).2.2 v first w later
  refine ⟨?_, earlier⟩
  intro same
  have equal := same_of_ticket ordered (called_of_mem called) (q.kept_sublist.subset stays) same
  have less := earlier (by rw [equal])
  omega

theorem live_cases (ws : List Waiter) :
    (live ws = [] ∧ ws.countP (·.present) = 0) ∨
      ∃ v rest, live ws = v :: rest ∧ ws.countP (·.present) = rest.countP (·.present) + 1 := by
  induction ws with
  | nil => exact Or.inl ⟨rfl, rfl⟩
  | cons w ws ih =>
    cases there : w.present with
    | true =>
      right
      exact ⟨w, ws, by simp [live, there], by simp [there]⟩
    | false =>
      have skipped : live (w :: ws) = live ws := by simp [live, there]
      rw [skipped, List.countP_cons_of_neg (by simp [there])]
      exact ih

theorem live_append (ahead behind : List Waiter) :
    live (ahead ++ behind) =
      if (live ahead).isEmpty then live behind else live ahead ++ behind :=
  List.dropWhile_append

theorem ofBucket_append (n b : Nat) (vs ws : List Waiter) :
    ofBucket n b (vs ++ ws) = ofBucket n b vs ++ ofBucket n b ws := List.filter_append ..

theorem abandon_line (q : LocalTurns) (ticket b : Nat) :
    (q.abandon ticket).line b =
      (q.line b).map fun w => if w.ticket = ticket then { w with present := false } else w := by
  simp only [line, ofBucket, abandon, List.filter_map]
  congr 1
  apply List.filter_congr
  intro w _
  simp only [Function.comp_apply]
  split <;> rfl

/-- A waiter who is still there, with so many others ahead who are still there. -/
def Waits (q : LocalTurns) (b ticket k : Nat) : Prop :=
  ∃ ahead w behind, q.line b = ahead ++ w :: behind ∧ w.ticket = ticket ∧ w.present = true ∧
    ahead.countP (·.present) ≤ k

variable {b ticket k : Nat}

theorem join_waits (waits : q.Waits b ticket k) (other shard : Nat) (now : Instant) :
    (q.join other shard now).Waits b ticket k := by
  obtain ⟨ahead, w, behind, place, own, there, few⟩ := waits
  refine ⟨ahead, w, behind ++ ofBucket q.concurrency b [⟨other, shard, true⟩], ?_, own, there, few⟩
  rw [line] at place
  rw [line, join_concurrency, join_waiting, ofBucket_append, place]
  simp only [List.append_assoc, List.cons_append]

theorem abandon_waits (waits : q.Waits b ticket k) {other : Nat} (differ : other ≠ ticket) :
    (q.abandon other).Waits b ticket k := by
  obtain ⟨ahead, w, behind, place, own, there, few⟩ := waits
  let leave (w : Waiter) : Waiter := if w.ticket = other then { w with present := false } else w
  have stays : leave w = w := by
    have another : w.ticket ≠ other := by omega
    simp only [leave, another, ↓reduceIte]
  refine ⟨ahead.map leave, w, behind.map leave, ?_, own, there, ?_⟩
  · rw [abandon_line, place, List.map_append, List.map_cons]
    change ahead.map leave ++ leave w :: behind.map leave = _
    rw [stays]
  · rw [List.countP_map]
    apply Nat.le_trans _ few
    apply List.countP_mono_left
    intro v _ still
    simp only [Function.comp_apply, leave] at still
    split at still
    · simp at still
    · exact still

/-- A round either grants the waiter a turn or takes somebody away who was ahead. -/
theorem round_waits (waits : q.Waits b ticket k) (now : Instant) :
    (∃ w ∈ q.callUp.1, w.ticket = ticket) ∨
      ∃ fewer, k = fewer + 1 ∧ (q.round now).2.Waits b ticket fewer := by
  obtain ⟨ahead, w, behind, place, own, there, few⟩ := waits
  have called := q.callUp_ofBucket b
  have stays := q.kept_ofBucket b
  rw [place, live_append] at called stays
  rcases live_cases ahead with ⟨nobody, _⟩ | ⟨v, rest, first, count⟩
  · left
    have next : live (w :: behind) = w :: behind := by simp [live, there]
    rw [nobody, List.isEmpty_nil, if_pos rfl, next] at called
    have member : w ∈ ofBucket q.concurrency b q.callUp.1 := by
      rw [called]
      exact List.mem_cons_self
    exact ⟨w, (mem_ofBucket.mp member).1, own⟩
  · right
    refine ⟨k - 1, by omega, rest, w, behind, ?_, own, there, by omega⟩
    rw [line, round_concurrency, round_waiting, stays, first]
    rfl

end LocalTurns

namespace TurnCourse

open LocalTurns

variable {c : TurnCourse} {v : Waiter}

/-- The waiter has left the line, and everybody in it comes after. -/
def Left (c : TurnCourse) (v : Waiter) : Prop :=
  v.ticket < c.issued ∧ ∀ w ∈ c.turns.waiting, v.Before c.turns.concurrency w

theorem left_of_called (kept : Kept c) {e : TurnEvent} {r : Round} (held : (c.meet e).1 = some r)
    (called : v ∈ r.called) : Left (c.meet e).2 v := by
  obtain ⟨rfl, due, rfl⟩ := due_of_meet held
  rw [meet_of_due due]
  refine ⟨kept.issued v (called_of_mem called), ?_⟩
  simp only [round_waiting, round_concurrency]
  intro w stays
  exact called_before_kept kept.ordered called stays

theorem meet_left (left : Left c v) (e : TurnEvent) : Left (c.meet e).2 v := by
  obtain ⟨issued, before⟩ := left
  cases e with
  | join shard =>
    refine ⟨Nat.lt_succ_of_lt issued, ?_⟩
    simp only [meet, join_waiting, join_concurrency]
    intro w member
    rcases List.mem_append.mp member with there | last
    · exact before w there
    · rw [List.mem_singleton.mp last]
      exact ⟨Nat.ne_of_lt issued, fun _ => issued⟩
  | abandon ticket =>
    refine ⟨issued, ?_⟩
    intro w member
    simp only [meet, LocalTurns.abandon] at member
    obtain ⟨x, there, same⟩ := List.mem_map.mp member
    have after := before x there
    rw [← same]
    split <;> exact after
  | round =>
    cases due : c.roundDue with
    | false =>
      rw [meet_of_not_due due]
      exact ⟨issued, before⟩
    | true =>
      rw [meet_of_due due]
      refine ⟨issued, ?_⟩
      simp only [round_waiting, round_concurrency]
      intro w stays
      exact before w (c.turns.kept_sublist.subset stays)

theorem called_after_left (left : Left c v) (events : List (Span × TurnEvent)) :
    ∀ r ∈ c.rounds events, ∀ w ∈ r.called, v.Before c.turns.concurrency w := by
  induction events generalizing c with
  | nil => simp [rounds]
  | cons e rest ih =>
    intro r member w called
    have gone : Left (c.step e).2 v := meet_left (c := c.elapse e.1) left e.2
    simp only [rounds, List.mem_append, Option.mem_toList] at member
    rcases member with now | later
    · obtain ⟨_, _, same⟩ := due_of_meet now
      rw [same] at called
      exact left.2 w (called_of_mem called)
    · have follows := ih gone r later w called
      rwa [step_concurrency] at follows

theorem grants_in_order (kept : Kept c) (events : List (Span × TurnEvent)) :
    (c.grants events).Pairwise fun (g h : Grant) => g.waiter.Before c.turns.concurrency h.waiter := by
  induction events generalizing c with
  | nil => exact List.Pairwise.nil
  | cons e rest ih =>
    have later := ih (step_kept kept e)
    rw [step_concurrency] at later
    have waited := elapse_kept kept e.1
    cases held : (c.step e).1 with
    | none =>
      simp only [grants, rounds, held, Option.toList_none, List.nil_append]
      exact later
    | some r =>
      simp only [grants, rounds, held, Option.toList_some, List.cons_append, List.nil_append,
        List.flatMap_cons]
      apply List.pairwise_append.mpr
      refine ⟨?_, later, ?_⟩
      · obtain ⟨_, _, same⟩ := due_of_meet held
        apply List.pairwise_map.mpr
        rw [same]
        exact called_before_called waited.ordered
      · intro g first h next
        obtain ⟨s, listed, granted⟩ := List.mem_flatMap.mp next
        have gone := left_of_called waited held (Round.mem_grants.mp first).1
        have follows := called_after_left gone rest s listed h.waiter (Round.mem_grants.mp granted).1
        change g.waiter.Before (c.step e).2.turns.concurrency h.waiter at follows
        rwa [step_concurrency] at follows

/-- With `k` others ahead the turn comes in one of the next `k + 1` rounds. -/
theorem granted_within {b ticket k : Nat} (waits : c.turns.Waits b ticket k)
    (later : List (Span × TurnEvent)) (stays : ∀ e ∈ later, e.2 ≠ .abandon ticket)
    (enough : k < (c.rounds later).length) :
    ∃ r ∈ (c.rounds later).take (k + 1), ∃ w ∈ r.called, w.ticket = ticket := by
  induction later generalizing c k with
  | nil => simp [rounds] at enough
  | cons e rest ih =>
    have stays_on : ∀ e ∈ rest, e.2 ≠ .abandon ticket :=
      fun e member => stays e (List.mem_cons_of_mem _ member)
    have present := stays e List.mem_cons_self
    obtain ⟨d, e⟩ := e
    cases e with
    | join shard =>
      exact ih (c := (c.step (d, .join shard)).2) (join_waits waits ..) stays_on enough
    | abandon other =>
      have differ : other ≠ ticket := fun same => present (by rw [same])
      exact ih (c := (c.step (d, .abandon other)).2) (abandon_waits waits differ) stays_on enough
    | round =>
      cases due : (c.elapse d).roundDue with
      | false =>
        simp only [rounds, step, meet_of_not_due due] at enough ⊢
        exact ih (c := c.elapse d) waits stays_on enough
      | true =>
        simp only [rounds, step, meet_of_due due, Option.toList_some, List.cons_append,
          List.nil_append, List.length_cons, List.take_succ_cons] at enough ⊢
        rcases round_waits waits (c.elapse d).clock with granted | ⟨fewer, rfl, closer⟩
        · exact ⟨_, List.mem_cons_self, granted⟩
        · obtain ⟨r, member, granted⟩ := ih
            (c := { c.elapse d with turns := (c.turns.round (c.elapse d).clock).2 })
            closer stays_on (Nat.lt_of_succ_lt_succ enough)
          exact ⟨r, List.mem_cons_of_mem _ member, granted⟩

/-- Nobody is forgotten: a queue that sleeps has no waiters, one that has any has a keeper.  Each
    round grants a turn to the oldest waiter of every bucket who is still there, so that turns follow
    the order of the waits, no waiter is granted two, and whoever stays is granted one in at most as
    many rounds as others are ahead, and one more. -/
theorem first_come_first_served (concurrency : Nat) (clock : Instant)
    (events : List (Span × TurnEvent)) :
    let c := start concurrency clock
    let buckets := max concurrency 1
    let now := c.after events
    (now.turns.awake = false → ∀ b, now.turns.line b = []) ∧
      (∀ b, now.turns.line b ≠ [] → now.turns.nextRound.isSome = true) ∧
      (∀ d r, (now.step (d, .round)).1 = some r →
        (∀ w ∈ r.called, w.present = true) ∧
        ∀ b, ofBucket buckets b r.called = ((now.turns.line b).find? (·.present)).toList) ∧
      ((c.grants events).Pairwise fun (g h : Grant) =>
        g.waiter.shard % buckets = h.waiter.shard % buckets →
          g.waiter.ticket < h.waiter.ticket) ∧
      ((c.grants events).map (·.waiter.ticket)).Nodup ∧
      ∀ d shard later, (∀ e ∈ later, e.2 ≠ .abandon now.issued) →
        let ahead := (now.turns.line (shard % buckets)).countP (·.present)
        let rounds := (now.step (d, .join shard)).2.rounds later
        ahead < rounds.length →
          ∃ r ∈ rounds.take (ahead + 1), ∃ w ∈ r.called, w.ticket = now.issued := by
  intro c buckets now
  have startKept : Kept c := start_kept concurrency clock
  have kept : Kept now := after_kept startKept events
  have same : now.turns.concurrency = buckets := c.after_concurrency events
  have asleep (sleeps : now.turns.awake = false) : ∀ b, now.turns.line b = [] := by
    intro b
    rw [line, kept.nobody sleeps]
    rfl
  have ordered := grants_in_order startKept events
  refine ⟨asleep, ?_, ?_, ?_, ?_, ?_⟩
  · intro b waited
    cases awake : now.turns.awake with
    | false => exact absurd (asleep awake b) waited
    | true =>
      obtain ⟨t, alone⟩ := keepers_of_awake kept awake
      simp [nextRound, alone]
  · intro d r held
    obtain ⟨_, _, called⟩ := due_of_meet held
    rw [called, ← same]
    exact ⟨fun w member => called_present member, now.turns.callUp_oldest⟩
  · exact ordered.imp fun before => before.2
  · apply List.pairwise_map.mpr
    exact ordered.imp fun before => before.1
  · intro d shard later stays ahead rounds enough
    have waits : (now.step (d, .join shard)).2.turns.Waits (shard % buckets) now.issued ahead := by
      refine ⟨now.turns.line (shard % buckets), ⟨now.issued, shard, true⟩, [], ?_, rfl, rfl,
        Nat.le_refl _⟩
      have own : ofBucket buckets (shard % buckets) [⟨now.issued, shard, true⟩] =
          [⟨now.issued, shard, true⟩] := ofBucket_cons_same rfl
      simp only [step, meet, elapse, line, join_concurrency, join_waiting, ofBucket_append, same,
        own]
    exact granted_within waits later stays enough

/-- One waiter gives up before the first round, which passes on to the next one; a third who came
    last is granted a turn in the second round. -/
theorem last_of_three_is_granted :
    let events := [(0, TurnEvent.join 4), (0, .join 5), (0, .abandon 0)]
    let later := [(warmUp, TurnEvent.round), (period, .round)]
    let now := (start 1 0).after events
    let rounds := (now.step (0, .join 7)).2.rounds later
    (now.step (warmUp, .round)).1 = some ⟨250000000, [⟨1, 5, true⟩]⟩ ∧
      now.turns.line 0 ≠ [] ∧ (∀ e ∈ later, e.2 ≠ .abandon now.issued) ∧
      (now.turns.line 0).countP (·.present) = 1 ∧
      (now.turns.line 0).countP (·.present) < rounds.length ∧
      now.turns.nextRound.isSome = true ∧
      ofBucket 1 0 [⟨1, 5, true⟩] = ((now.turns.line 0).find? (·.present)).toList ∧
      ∃ r ∈ rounds.take ((now.turns.line 0).countP (·.present) + 1),
        ∃ w ∈ r.called, w.ticket = now.issued := by
  intro events later now rounds
  obtain ⟨_, awake, oldest, _, _, within⟩ := first_come_first_served 1 0 events
  have held : (now.step (warmUp, .round)).1 = some ⟨250000000, [⟨1, 5, true⟩]⟩ := by decide +kernel
  have waited : now.turns.line 0 ≠ [] := by decide +kernel
  have stays : ∀ e ∈ later, e.2 ≠ .abandon now.issued := by simp [later]
  have one : (now.turns.line 0).countP (·.present) = 1 := by decide +kernel
  have enough : (now.turns.line 0).countP (·.present) < rounds.length := by decide +kernel
  exact ⟨held, waited, stays, one, enough, awake 0 waited, (oldest warmUp _ held).2 0,
    within 0 7 later stays enough⟩

end TurnCourse
end SessionFleet
