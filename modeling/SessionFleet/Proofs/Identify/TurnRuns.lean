import SessionFleet.Proofs.Identify.RoundLaws
/- A queue of turns through any sequence of waits, waiters that give up, and rounds.  Time passes
   before each event, as much as it likes; a keeper holds a round at any time from the one that was
   set for it. -/
namespace SessionFleet

inductive TurnEvent where
  | join (shard : Nat)
  | abandon (ticket : Nat)
  | round
  deriving DecidableEq, Repr

structure Round where
  held : Instant
  called : List Waiter
  deriving DecidableEq, Repr

structure Grant where
  when_ : Instant
  waiter : Waiter
  deriving DecidableEq, Repr

def Round.grants (r : Round) : List Grant := r.called.map (Grant.mk r.held)

theorem Round.mem_grants {r : Round} {g : Grant} :
    g ∈ r.grants ↔ g.waiter ∈ r.called ∧ g.when_ = r.held := by
  simp only [grants, List.mem_map]
  constructor
  · rintro ⟨w, member, rfl⟩
    exact ⟨member, rfl⟩
  · intro ⟨member, same⟩
    exact ⟨g.waiter, member, by rw [← same]⟩

/-- A queue over time.  Tickets are numbers in the order of the waits. -/
structure TurnCourse where
  turns : LocalTurns
  clock : Instant
  issued : Nat
  deriving DecidableEq, Repr

namespace TurnCourse

open LocalTurns

def start (concurrency : Nat) (clock : Instant) : TurnCourse := ⟨.create concurrency, clock, 0⟩

def elapse (c : TurnCourse) (d : Span) : TurnCourse := { c with clock := c.clock + d }

def roundDue (c : TurnCourse) : Bool := c.turns.nextRound.any fun t => t ≤ c.clock

/-- What comes of an event: the round that is held, if one is, and the queue afterwards. -/
def meet (c : TurnCourse) : TurnEvent → Option Round × TurnCourse
  | .join shard =>
    (none, { c with turns := c.turns.join c.issued shard c.clock, issued := c.issued + 1 })
  | .abandon ticket => (none, { c with turns := c.turns.abandon ticket })
  | .round =>
    if c.roundDue then
      (some ⟨c.clock, c.turns.callUp.1⟩, { c with turns := (c.turns.round c.clock).2 })
    else (none, c)

def step (c : TurnCourse) (e : Span × TurnEvent) : Option Round × TurnCourse :=
  (c.elapse e.1).meet e.2

def after (c : TurnCourse) (events : List (Span × TurnEvent)) : TurnCourse :=
  events.foldl (fun c e => (c.step e).2) c

def rounds (c : TurnCourse) : List (Span × TurnEvent) → List Round
  | [] => []
  | e :: rest => (c.step e).1.toList ++ (c.step e).2.rounds rest

/-- The turns that are granted, in the order in which they are handed out. -/
def grants (c : TurnCourse) (events : List (Span × TurnEvent)) : List Grant :=
  (c.rounds events).flatMap Round.grants

variable {c : TurnCourse}

/- What an event does, in the two cases of a round. -/

theorem meet_of_due (due : c.roundDue = true) :
    c.meet .round = (some ⟨c.clock, c.turns.callUp.1⟩, { c with turns := (c.turns.round c.clock).2 }) := by
  simp [meet, due]

theorem meet_of_not_due (notDue : c.roundDue = false) : c.meet .round = (none, c) := by
  simp [meet, notDue]

theorem due_of_meet {e : TurnEvent} {r : Round} (held : (c.meet e).1 = some r) :
    e = .round ∧ c.roundDue = true ∧ r = ⟨c.clock, c.turns.callUp.1⟩ := by
  cases e with
  | join shard => simp [meet] at held
  | abandon ticket => simp [meet] at held
  | round =>
    cases due : c.roundDue with
    | false => simp [meet_of_not_due due] at held
    | true =>
      rw [meet_of_due due] at held
      exact ⟨rfl, rfl, (Option.some.inj held).symm⟩

theorem step_concurrency (c : TurnCourse) (e : Span × TurnEvent) :
    (c.step e).2.turns.concurrency = c.turns.concurrency := by
  obtain ⟨d, e⟩ := e
  cases e with
  | join shard => exact join_concurrency ..
  | abandon ticket => rfl
  | round =>
    simp only [step, meet]
    split
    · exact round_concurrency ..
    · rfl

theorem after_concurrency (c : TurnCourse) (events : List (Span × TurnEvent)) :
    (c.after events).turns.concurrency = c.turns.concurrency := by
  induction events generalizing c with
  | nil => rfl
  | cons e rest ih => exact (ih (c.step e).2).trans (c.step_concurrency e)

/-- The queue is awake exactly as long as there is a keeper, then the only one; nobody waits while
    it is asleep; and the line is in the order of the tickets. -/
structure Kept (c : TurnCourse) : Prop where
  keepers : c.turns.keepers.length = if c.turns.awake then 1 else 0
  nobody : c.turns.awake = false → c.turns.waiting = []
  ordered : c.turns.waiting.Pairwise fun v w => v.ticket < w.ticket
  issued : ∀ w ∈ c.turns.waiting, w.ticket < c.issued

theorem start_kept (concurrency : Nat) (clock : Instant) : Kept (start concurrency clock) :=
  ⟨rfl, fun _ => rfl, List.Pairwise.nil, by simp [start, LocalTurns.create]⟩

theorem join_kept (kept : Kept c) (shard : Nat) : Kept (c.meet (.join shard)).2 := by
  refine ⟨?_, ?_, ?_, ?_⟩
  · have one := kept.keepers
    simp only [meet, LocalTurns.join]
    cases awake : c.turns.awake with
    | true => simpa [awake] using one
    | false => simpa [awake] using one
  · intro asleep
    simp only [meet, LocalTurns.join] at asleep
    split at asleep
    · rename_i awake
      simp [awake] at asleep
    · simp at asleep
  · simp only [meet, join_waiting]
    apply List.pairwise_append.mpr
    refine ⟨kept.ordered, List.pairwise_singleton .., ?_⟩
    intro w member v last
    rw [List.mem_singleton.mp last]
    exact kept.issued w member
  · intro w member
    simp only [meet, join_waiting, List.mem_append, List.mem_singleton] at member ⊢
    rcases member with before | last
    · have earlier := kept.issued w before
      omega
    · rw [last]
      exact Nat.lt_succ_self _

theorem abandon_kept (kept : Kept c) (ticket : Nat) : Kept (c.meet (.abandon ticket)).2 := by
  have sameTickets := abandon_waiting c.turns ticket
  refine ⟨kept.keepers, ?_, ?_, ?_⟩
  · intro asleep
    have empty := kept.nobody asleep
    simp [meet, LocalTurns.abandon, empty]
  · have ordered := List.pairwise_map.mpr kept.ordered
    rw [← sameTickets] at ordered
    exact List.pairwise_map.mp ordered
  · intro w member
    have listed : w.ticket ∈ (c.turns.abandon ticket).waiting.map (·.ticket) :=
      List.mem_map_of_mem member
    rw [sameTickets] at listed
    obtain ⟨v, there, same⟩ := List.mem_map.mp listed
    rw [← same]
    exact kept.issued v there

theorem keepers_of_asleep (kept : Kept c) (asleep : c.turns.awake = false) :
    c.turns.keepers = [] := by
  have none_left := kept.keepers
  simpa [asleep] using none_left

theorem keepers_of_awake (kept : Kept c) (awake : c.turns.awake = true) :
    ∃ t, c.turns.keepers = [t] := by
  have one := kept.keepers
  simp only [awake, ↓reduceIte] at one
  exact List.length_eq_one_iff.mp one

theorem keepers_of_due (kept : Kept c) (due : c.roundDue = true) :
    c.turns.awake = true ∧ ∃ t, c.turns.keepers = [t] ∧ t ≤ c.clock := by
  cases awake : c.turns.awake with
  | false => simp [roundDue, LocalTurns.nextRound, keepers_of_asleep kept awake] at due
  | true =>
    obtain ⟨t, alone⟩ := keepers_of_awake kept awake
    have early : t ≤ c.clock := by simpa [roundDue, LocalTurns.nextRound, alone] using due
    exact ⟨rfl, t, alone, early⟩

theorem round_kept (kept : Kept c) (due : c.roundDue = true) : Kept (c.meet .round).2 := by
  have sub := c.turns.kept_sublist
  obtain ⟨awake, t, alone, _⟩ := keepers_of_due kept due
  rw [meet_of_due due]
  refine ⟨?_, ?_, ?_, ?_⟩
  · cases called : c.turns.callUp.1.isEmpty with
    | true => simp [round_of_none_called called, alone]
    | false => simp [round_of_called called, alone, awake]
  · intro asleep
    cases called : c.turns.callUp.1.isEmpty with
    | true => simp [round_of_none_called called]
    | false => simp [round_of_called called, awake] at asleep
  · simp only [round_waiting]
    exact kept.ordered.sublist sub
  · simp only [round_waiting]
    intro w member
    exact kept.issued w (sub.subset member)

theorem elapse_kept (kept : Kept c) (d : Span) : Kept (c.elapse d) :=
  ⟨kept.keepers, kept.nobody, kept.ordered, kept.issued⟩

theorem step_kept (kept : Kept c) (e : Span × TurnEvent) : Kept (c.step e).2 := by
  obtain ⟨d, e⟩ := e
  have later := elapse_kept kept d
  cases e with
  | join shard => exact join_kept later shard
  | abandon ticket => exact abandon_kept later ticket
  | round =>
    cases due : (c.elapse d).roundDue with
    | true => exact round_kept later due
    | false =>
      simp only [step, meet_of_not_due due]
      exact later

theorem after_kept (kept : Kept c) (events : List (Span × TurnEvent)) : Kept (c.after events) := by
  induction events generalizing c with
  | nil => exact kept
  | cons e rest ih => exact ih (step_kept kept e)

end TurnCourse
end SessionFleet
