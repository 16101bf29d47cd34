import Mathlib.Data.List.DropRight
import Mathlib.Data.List.Induction
import SessionFleet.Heartbeat.Health
/- What a connection tells of its heartbeats is a function of what has happened on it.  An answer is
   missing if the timer has sent a heartbeat since the last answer and the last greeting.  An answer
   is measured from the last heartbeat since the last greeting, whoever wanted it.  What an answer
   measured is shown until the next answer, or until it is cleared. -/
namespace SessionFleet

/-- What can happen to the health of a connection. -/
inductive HealthCall where
  | reset
  | sent
  | requestedSent
  | ack
  | clearLatency
  deriving DecidableEq, Repr

namespace HealthCall

/-- A heartbeat goes out, of the timer or because the server asked. -/
def sends : HealthCall → Bool
  | .sent | .requestedSent => true
  | .reset | .ack | .clearLatency => false

/-- No answer is outstanding behind this. -/
def settles : HealthCall → Bool
  | .reset | .ack => true
  | .sent | .requestedSent | .clearLatency => false

def resets : HealthCall → Bool
  | .reset => true
  | .sent | .requestedSent | .ack | .clearLatency => false

end HealthCall

/-- Calls with their instants, the oldest first. -/
abbrev HealthHistory := List (HealthCall × Instant)

namespace HealthHistory

/-- The calls behind the last one of a kind. -/
def since (kind : HealthCall → Bool) (history : HealthHistory) : HealthHistory :=
  history.rtakeWhile fun e => !kind e.1

/-- When the last heartbeat went out since the last greeting. -/
def lastSending (history : HealthHistory) : Option Instant :=
  ((since HealthCall.resets history).filter fun e => e.1.sends).getLast?.map Prod.snd

variable {history : HealthHistory}

theorem since_concat (kind : HealthCall → Bool) (history : HealthHistory)
    (e : HealthCall × Instant) :
    since kind (history ++ [e]) = if kind e.1 then [] else since kind history ++ [e] := by
  cases last : kind e.1 with
  | true => simp [since, last]
  | false => simp [since, last]

theorem lastSending_concat (history : HealthHistory) (e : HealthCall × Instant) :
    lastSending (history ++ [e]) =
      if e.1.resets then none else if e.1.sends then some e.2 else lastSending history := by
  unfold lastSending
  rw [since_concat]
  cases e.1.resets with
  | true => rfl
  | false => cases goes : e.1.sends <;> simp [goes]

theorem lastSending_mem {t : Instant} (last : lastSending history = some t) :
    ∃ e ∈ history, e.2 = t := by
  obtain ⟨e, latest, at_t⟩ := Option.map_eq_some_iff.mp last
  have member := List.mem_of_mem_filter (List.mem_of_getLast? latest)
  exact ⟨e, (List.rtakeWhile_suffix _ _).mem member, at_t⟩

end HealthHistory

namespace Health

variable {later : HealthHistory}

def meet (h : Health) (e : HealthCall × Instant) : Health :=
  match e.1 with
  | .reset => h.reset
  | .sent => h.sent e.2
  | .requestedSent => h.requestedSent e.2
  | .ack => h.ack e.2
  | .clearLatency => h.clearLatency

def after (h : Health) (history : HealthHistory) : Health := history.foldl meet h

theorem after_concat (h : Health) (history : HealthHistory) (e : HealthCall × Instant) :
    h.after (history ++ [e]) = (h.after history).meet e := by
  simp [after]

theorem after_append (h : Health) (history later : HealthHistory) :
    h.after (history ++ later) = (h.after history).after later :=
  List.foldl_append ..

theorem meet_overdue (h : Health) (e : HealthCall × Instant) :
    (h.meet e).overdue = (if e.1.settles then false else h.overdue || decide (e.1 = .sent)) := by
  obtain ⟨call, t⟩ := e
  cases call <;> simp [meet, overdue, HealthCall.settles, reset, sent, requestedSent, ack, clearLatency]

theorem meet_lastSent (h : Health) (e : HealthCall × Instant) :
    (h.meet e).lastSent =
      if e.1.resets then none else if e.1.sends then some e.2 else h.lastSent := by
  obtain ⟨call, t⟩ := e
  cases call <;> rfl

theorem meet_latency {e : HealthCall × Instant} (unanswered : e.1 ≠ .ack) (h : Health) :
    (h.meet e).latency = if e.1 = .clearLatency then none else h.latency := by
  obtain ⟨call, t⟩ := e
  cases call with
  | ack => exact absurd rfl unanswered
  | reset | sent | requestedSent | clearLatency => rfl

theorem after_overdue (history : HealthHistory) :
    (start.after history).overdue =
      (history.since HealthCall.settles).any fun e => decide (e.1 = .sent) := by
  induction history using List.reverseRecOn with
  | nil => rfl
  | append_singleton history e ih =>
    rw [after_concat, meet_overdue, HealthHistory.since_concat, ih]
    cases e.1.settles with
    | true => rfl
    | false => simp

theorem after_lastSent (history : HealthHistory) :
    (start.after history).lastSent = history.lastSending := by
  induction history using List.reverseRecOn with
  | nil => rfl
  | append_singleton history e ih =>
    rw [after_concat, meet_lastSent, HealthHistory.lastSending_concat, ih]

/-- What is shown stays while no answer comes, unless it is cleared. -/
theorem after_latency (unanswered : ∀ e ∈ later, e.1 ≠ .ack) (h : Health) :
    (h.after later).latency = if ∃ e ∈ later, e.1 = .clearLatency then none else h.latency := by
  induction later generalizing h with
  | nil => simp [after]
  | cons e later ih =>
    obtain ⟨first, rest⟩ := List.forall_mem_cons.mp unanswered
    have next : h.after (e :: later) = (h.meet e).after later := rfl
    rw [next, ih rest, meet_latency first]
    by_cases clears : e.1 = .clearLatency
    · simp [clears]
    · simp only [List.exists_mem_cons_iff, clears, false_or, ↓reduceIte]

/-- What the health of a connection tells after any history, and what the next answer measures. -/
theorem health_follows_history (history : HealthHistory) :
    let h := start.after history
    (h.overdue = true ↔ ∃ e ∈ history.since HealthCall.settles, e.1 = .sent) ∧
      (∀ now, (∀ e ∈ history, e.2 ≤ now) →
        match history.lastSending with
        | some t => ∃ d : Span, (h.ack now).latency = some d ∧ t + d = now
        | none => (h.ack now).latency = none) ∧
      (∀ before now later, history = before ++ (.ack, now) :: later →
        (∀ e ∈ later, e.1 ≠ .ack) →
        h.latency =
          if ∃ e ∈ later, e.1 = .clearLatency then none
          else ((start.after before).ack now).latency) ∧
      ((∀ e ∈ history, e.1 ≠ .ack) → h.latency = none) := by
  intro h
  refine ⟨?_, ?_, ?_, ?_⟩
  · simp [h, after_overdue]
  · intro now past
    have measured : (h.ack now).latency = history.lastSending.map fun t => (now - t).toNat := by
      rw [← after_lastSent]
      rfl
    rw [measured]
    cases last : history.lastSending with
    | none => rfl
    | some t =>
      obtain ⟨e, member, at_t⟩ := HealthHistory.lastSending_mem last
      have earlier : t ≤ now := at_t ▸ past e member
      have elapsed (x y : Int) (le : x ≤ y) : x + (y - x).toNat = y := by omega
      exact ⟨(now - t).toNat, rfl, elapsed t now earlier⟩
  · intro before now later split unanswered
    have answered : h = ((start.after before).ack now).after later := by
      simp only [h, split, after_append]
      rfl
    rw [answered, after_latency unanswered]
  · intro unanswered
    simp only [h, after_latency unanswered]
    exact ite_self none

/-- An answer to a heartbeat that the server had asked for; after the next greeting two more
    heartbeats, the second of them the timer's. -/
theorem answer_is_measured_from_last_heartbeat :
    let asked : HealthHistory := [(.sent, 1000), (.requestedSent, 3000)]
    let greeted : HealthHistory := [(.reset, 6000), (.requestedSent, 7000), (.sent, 8000)]
    let h := start.after (asked ++ (.ack, 5000) :: greeted)
    (∀ e ∈ asked ++ (.ack, 5000) :: greeted, e.2 ≤ 9000) ∧ (∀ e ∈ greeted, e.1 ≠ .ack) ∧
      (∀ e ∈ asked, e.1 ≠ .ack) ∧
      h.overdue = true ∧ (∃ d : Span, (h.ack 9000).latency = some d ∧ 8000 + (d : Int) = 9000) ∧
      h.latency = some 2000 ∧ (start.after asked).latency = none := by
  intro asked greeted h
  obtain ⟨missing, measured, shown, _⟩ :=
    health_follows_history (asked ++ (.ack, 5000) :: greeted)
  obtain ⟨_, _, _, unshown⟩ := health_follows_history asked
  have past : ∀ e ∈ asked ++ (.ack, 5000) :: greeted, e.2 ≤ 9000 := by decide
  have unanswered : ∀ e ∈ greeted, e.1 ≠ .ack := by decide
  have unanswered_first : ∀ e ∈ asked, e.1 ≠ .ack := by decide
  refine ⟨past, unanswered, unanswered_first, missing.mpr ?_, measured 9000 past, ?_,
    unshown unanswered_first⟩
  · exact ⟨(.sent, 8000), by decide, rfl⟩
  · exact (shown asked 5000 greeted rfl unanswered).trans (by decide)

end Health
end SessionFleet
