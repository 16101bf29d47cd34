import Mathlib.Data.List.Induction
import SessionFleet.Proofs.Session.Continuity
/- What becomes of a timer's tick.  If the heartbeat that the timer sent last is unanswered, the socket
   is given up; else the next heartbeat is sent.  Only greetings, answers and the timer's own
   heartbeats since the last greeting count for this: not the heartbeats that the server asks for, and
   nothing that earlier sockets left behind. -/
namespace SessionFleet
namespace SessionInput

def answers : SessionInput → Bool
  | .frame p => p.op = .heartbeatAck
  | _ => false

def asksForBeat : SessionInput → Bool
  | .frame p => p.op = .heartbeat
  | _ => false

/-- The same input where schedules are counted from `b` on and not from `a` on. -/
def recount (a b : Nat) : SessionInput → SessionInput
  | .tick generation => .tick (generation - a + b)
  | i => i

end SessionInput

namespace Effect

def beats : Effect → Bool
  | .heartbeat _ => true
  | _ => false

def reconnects : Effect → Bool
  | .reconnect _ _ => true
  | _ => false

end Effect

def timedBeat (e : SessionInput × List Effect) : Bool :=
  match e.1 with
  | .tick _ => e.2.any Effect.beats
  | _ => false

/-- The timer sent a heartbeat, and neither an answer nor a greeting has come since. -/
def AnswerMissing (seen : List (SessionInput × List Effect)) : Prop :=
  ∃ before beat later, seen = before ++ beat :: later ∧ timedBeat beat = true ∧
    ∀ e ∈ later, e.1.answers = false ∧ e.1.greets = false

theorem answerMissing_append (seen : List (SessionInput × List Effect))
    (e : SessionInput × List Effect) :
    AnswerMissing (seen ++ [e]) ↔
      timedBeat e = true ∨ (e.1.answers = false ∧ e.1.greets = false) ∧ AnswerMissing seen := by
  constructor
  · intro ⟨before, beat, later, split, timed, quiet⟩
    cases later using List.reverseRecOn with
    | nil =>
      obtain ⟨_, same⟩ := List.append_inj' split rfl
      left
      rw [List.singleton_inj.mp same]
      exact timed
    | append_singleton later last =>
      right
      have last_split : seen ++ [e] = (before ++ beat :: later) ++ [last] := by simp [split]
      obtain ⟨front, same⟩ := List.append_inj' last_split rfl
      rw [List.singleton_inj.mp same]
      refine ⟨quiet last (by simp), before, beat, later, front, timed, ?_⟩
      intro d member
      exact quiet d (List.mem_append_left _ member)
  · rintro (timed | ⟨quiet, before, beat, later, split, timed, others⟩)
    · exact ⟨seen, e, [], rfl, timed, by simp⟩
    · refine ⟨before, beat, later ++ [e], by simp [split], timed, ?_⟩
      intro d member
      rcases List.mem_append.mp member with earlier | last
      · exact others d earlier
      · rw [List.mem_singleton.mp last]
        exact quiet

namespace Session

variable {s t : Session} {m : Moment} {p : Packet}

theorem ticked_accepted {generation : Nat} (accepted : s.accepts generation = true) (m : Moment) :
    s.step true m (.tick generation) =
      if s.health.overdue then
        ⟨{ s with phase := .reconnecting }, [.disrupted .ackMissed, .reconnect .protocolError 0], true⟩
      else ⟨{ s with health := s.health.sent m.now }, [.heartbeat s.sequence], true⟩ := by
  simp only [step, ticked, accepted, Bool.not_true, Bool.false_eq_true, ↓reduceIte]
  rfl

theorem step_acked (m : Moment) (s : Session) (i : SessionInput) :
    (s.step true m i).session.health.acked =
      (if timedBeat (i, (s.step true m i).effects) then false
        else if i.answers || i.greets then true else s.health.acked) := by
  cases i with
  | opened => rfl
  | closed => rfl
  | tick generation =>
    cases accepted : s.accepts generation with
    | false =>
      rw [ticked_refused accepted]
      rfl
    | true =>
      rw [ticked_accepted accepted]
      cases s.health.overdue <;> rfl
  | frame p =>
    cases op : p.op with
    | hello =>
      cases read : Hello.ofJson p.payload with
      | error mismatch =>
        simp [step, framed, op, read, silent, timedBeat, SessionInput.answers, SessionInput.greets]
      | ok hello =>
        by_cases usable : hello.heartbeatInterval = 0
        · simp [step, framed, op, read, greeted, usable, giveUp_reached, timedBeat,
            SessionInput.answers, SessionInput.greets]
        · simp [step, framed, op, read, greeted_reached usable, usable, timedBeat, Health.reset,
            SessionInput.answers, SessionInput.greets]
    | heartbeatAck =>
      simp [step, framed, op, answered_session, timedBeat, Health.ack, SessionInput.answers]
    | dispatch =>
      have turn : s.step true m (.frame p) = dispatched true s p := by simp only [step, framed, op]
      rw [turn, ((dispatched_pulse p).1 s).2.1]
      simp [timedBeat, op, SessionInput.answers, SessionInput.greets]
    | invalidSession =>
      obtain ⟨resumable, turn⟩ := refusal_turn op m s
      simp only [step, turn, refused_reached]
      cases resumable <;> simp [timedBeat, op, SessionInput.answers, SessionInput.greets]
    | heartbeat | reconnect | identify | presenceUpdate | voiceStateUpdate | resume
    | requestGuildMembers =>
      simp [step, framed, op, calling, giveUp, silent, timedBeat, Health.requestedSent,
        SessionInput.answers, SessionInput.greets]

theorem overdue_iff_answerMissing (fresh : s.health.acked = true)
    (history : List (Moment × SessionInput)) :
    (s.after history).health.overdue = true ↔ AnswerMissing (s.trace history) := by
  induction history using List.reverseRecOn with
  | nil => simp [after, trace, Health.overdue, fresh, AnswerMissing]
  | append_singleton history last ih =>
    obtain ⟨m, i⟩ := last
    have acked := step_acked m (s.after history) i
    have next : (s.after (history ++ [(m, i)])) = ((s.after history).step true m i).session := by
      rw [after_append]
      rfl
    rw [next, trace_append]
    simp only [trace]
    rw [answerMissing_append, ← ih]
    simp only [Health.overdue]
    rw [acked]
    cases timedBeat (i, ((s.after history).step true m i).effects) <;>
      cases i.answers <;> cases i.greets <;> simp

/-- The two are told apart by no tick, but for the count of the schedules: this is `a` more in the one
    and `b` more in the other than some count that both have passed. -/
structure Alike (a b : Nat) (s t : Session) : Prop where
  phase : s.phase = t.phase
  acked : s.health.acked = t.health.acked
  running : s.pacer.isRunning = t.pacer.isRunning
  generation : s.generation + b = t.generation + a
  beyond : a = 0 ∧ b = 0 ∨ a < s.generation

variable {a b : Nat}

theorem accepts_alike (alike : Alike a b s t) (generation : Nat) :
    t.accepts (generation - a + b) = s.accepts generation := by
  obtain ⟨phase, _, running, count, beyond⟩ := alike
  have current : (generation - a + b = t.generation) = (generation = s.generation) := by
    apply propext
    omega
  simp only [accepts, phase, running, current]

theorem step_alike (alike : Alike a b s t) (m : Moment) (i : SessionInput) :
    Alike a b (s.step true m i).session (t.step true m (i.recount a b)).session := by
  have count := alike.generation
  have beyond := alike.beyond
  cases i with
  | opened => exact ⟨rfl, alike.acked, alike.running, count, beyond⟩
  | closed => exact ⟨rfl, alike.acked, rfl, count, beyond⟩
  | tick generation =>
    have same := accepts_alike alike generation
    simp only [SessionInput.recount]
    cases accepted : s.accepts generation with
    | false =>
      rw [ticked_refused accepted, ticked_refused (same.trans accepted)]
      exact alike
    | true =>
      have overdue : t.health.overdue = s.health.overdue := by
        simp only [Health.overdue, alike.acked]
      rw [ticked_accepted accepted, ticked_accepted (same.trans accepted), overdue]
      cases s.health.overdue with
      | true => exact ⟨rfl, alike.acked, alike.running, count, beyond⟩
      | false => exact ⟨alike.phase, rfl, alike.running, count, beyond⟩
  | frame p =>
    simp only [SessionInput.recount]
    cases op : p.op with
    | hello =>
      cases read : Hello.ofJson p.payload with
      | error mismatch =>
        simp only [step, framed, op, read]
        exact alike
      | ok hello =>
        by_cases usable : hello.heartbeatInterval = 0
        · simp only [step, framed, op, read, greeted, usable, ↓reduceIte, giveUp_reached]
          exact ⟨rfl, alike.acked, alike.running, count, beyond⟩
        · simp only [step, framed, op, read, greeted_reached usable]
          exact ⟨rfl, rfl, rfl, by simp only; omega, by simp only; omega⟩
    | heartbeatAck =>
      simp only [step, framed, op, answered_session]
      exact ⟨alike.phase, rfl, alike.running, count, beyond⟩
    | dispatch =>
      obtain ⟨kept, phase⟩ := dispatched_pulse p
      obtain ⟨_, healthS, pacerS, countS⟩ := kept s
      obtain ⟨_, healthT, pacerT, countT⟩ := kept t
      have turn (s : Session) : s.step true m (.frame p) = dispatched true s p := by
        simp only [step, framed, op]
      rw [turn, turn]
      refine ⟨?_, by rw [healthS, healthT, alike.acked], by rw [pacerS, pacerT, alike.running],
        by rw [countS, countT, count], by rw [countS]; exact beyond⟩
      rcases phase with same | connected
      · rw [same, same, alike.phase]
      · rw [connected, connected]
    | invalidSession =>
      obtain ⟨resumableS, turnS⟩ := refusal_turn op m s
      obtain ⟨resumableT, turnT⟩ := refusal_turn op m t
      simp only [step, turnS, turnT, refused_reached]
      cases resumableS <;> cases resumableT <;>
        exact ⟨rfl, alike.acked, alike.running, count, beyond⟩
    | heartbeat =>
      simp only [step, framed, op]
      exact ⟨alike.phase, alike.acked, alike.running, count, beyond⟩
    | reconnect =>
      simp only [step, framed, op, giveUp_reached]
      exact ⟨rfl, alike.acked, alike.running, count, beyond⟩
    | identify | presenceUpdate | voiceStateUpdate | resume | requestGuildMembers =>
      simp only [step, framed, op]
      exact alike

theorem after_alike (alike : Alike a b s t) (history : List (Moment × SessionInput)) :
    Alike a b (s.after history) (t.after (history.map fun e => (e.1, e.2.recount a b))) := by
  induction history generalizing s t with
  | nil => exact alike
  | cons e rest ih => exact ih (step_alike alike e.1 e.2)

theorem alike_refl (s : Session) : Alike 0 0 s s := ⟨rfl, rfl, rfl, rfl, Or.inl ⟨rfl, rfl⟩⟩

theorem recount_zero (i : SessionInput) : i.recount 0 0 = i := by cases i <;> rfl

theorem asked_alike {i : SessionInput} (alike : Alike 0 0 s t) (asks : i.asksForBeat = true)
    (m : Moment) : Alike 0 0 (s.step true m i).session t := by
  cases i with
  | opened | closed | tick _ => simp [SessionInput.asksForBeat] at asks
  | frame p =>
    have op : p.op = .heartbeat := by simpa [SessionInput.asksForBeat] using asks
    simp only [step, framed, op]
    exact ⟨alike.phase, alike.acked, alike.running, alike.generation, Or.inl ⟨rfl, rfl⟩⟩

theorem asked_sequence {i : SessionInput} (asks : i.asksForBeat = true) (m : Moment) (s : Session) :
    (s.step true m i).session.sequence = s.sequence := by
  cases i with
  | opened | closed | tick _ => simp [SessionInput.asksForBeat] at asks
  | frame p =>
    have op : p.op = .heartbeat := by simpa [SessionInput.asksForBeat] using asks
    simp only [step, framed, op]
    rfl

/-- The heartbeats that the server asked for can be left out of a run. -/
theorem after_unasked (history : List (Moment × SessionInput)) (alike : Alike 0 0 s t)
    (sequence : s.sequence = t.sequence) :
    let u := t.after (history.filter fun e => !e.2.asksForBeat)
    Alike 0 0 (s.after history) u ∧ (s.after history).sequence = u.sequence := by
  induction history generalizing s t with
  | nil => exact ⟨alike, sequence⟩
  | cons e rest ih =>
    obtain ⟨m, i⟩ := e
    cases asks : i.asksForBeat with
    | true =>
      rw [List.filter_cons_of_neg (by simp [asks])]
      exact ih (asked_alike alike asks m) ((asked_sequence asks m s).trans sequence)
    | false =>
      rw [List.filter_cons_of_pos (by simp [asks])]
      have stepped := step_alike alike m i
      rw [recount_zero] at stepped
      apply ih stepped
      rw [(step_keeps m s i).sequence, (step_keeps m t i).sequence, sequence]

theorem ticked_alike (alike : Alike a b s t) (m : Moment) (generation : Nat) :
    let here := s.step true m (.tick generation)
    let there := t.step true m (.tick (generation - a + b))
    here.effects.any Effect.beats = there.effects.any Effect.beats ∧
      here.effects.any Effect.reconnects = there.effects.any Effect.reconnects ∧
      (s.sequence = t.sequence → here.effects = there.effects) := by
  have same := accepts_alike alike generation
  have overdue : t.health.overdue = s.health.overdue := by
    simp only [Health.overdue, alike.acked]
  intro here there
  cases accepted : s.accepts generation with
  | false =>
    have stays : here = silent s := ticked_refused accepted m
    have stays' : there = silent t := ticked_refused (same.trans accepted) m
    rw [stays, stays']
    exact ⟨rfl, rfl, fun _ => rfl⟩
  | true =>
    have turn := ticked_accepted accepted m
    have turn' := ticked_accepted (same.trans accepted) m
    rw [overdue] at turn'
    have effects : here.effects = _ := congrArg Turn.effects turn
    have effects' : there.effects = _ := congrArg Turn.effects turn'
    rw [effects, effects']
    cases s.health.overdue with
    | true => exact ⟨rfl, rfl, fun _ => rfl⟩
    | false => exact ⟨rfl, rfl, fun sequence => by simp [sequence]⟩

theorem greeting_alike (greets : (SessionInput.frame p).greets = true) (m : Moment) (s t : Session) :
    Alike s.generation t.generation (s.step true m (.frame p)).session
      (t.step true m (.frame p)).session := by
  obtain ⟨interval, usable, turn⟩ := step_of_greets greets m
  rw [turn, turn, greeted_reached usable, greeted_reached usable]
  exact ⟨rfl, rfl, rfl, by simp only; omega, Or.inr (by simp only; omega)⟩

/-- A tick that counts gives the socket up if the timer's last heartbeat since the last greeting is
    unanswered, and else sends the next heartbeat.  It does the same if the server had asked for no
    heartbeat, and, as long as the last greeting stands, if anything else had been before that. -/
theorem missed_answer_is_detected (shard : Shard) (history : List (Moment × SessionInput)) :
    let s := (start shard).after history
    (∀ m generation, s.accepts generation = true →
      (AnswerMissing ((start shard).trace history) →
        s.step true m (.tick generation) =
          ⟨{ s with phase := .reconnecting },
            [.disrupted .ackMissed, .reconnect .protocolError 0], true⟩) ∧
      (¬ AnswerMissing ((start shard).trace history) →
        (s.step true m (.tick generation)).effects = [.heartbeat s.sequence])) ∧
    (∀ m generation,
      let u := (start shard).after (history.filter fun e => !e.2.asksForBeat)
      u.accepts generation = s.accepts generation ∧
        (u.step true m (.tick generation)).effects =
          (s.step true m (.tick generation)).effects) ∧
    (∀ before first p later, history = before ++ (first, .frame p) :: later →
      (SessionInput.frame p).greets = true →
      ∀ (other : Session) m generation,
        let a := ((start shard).after before).generation
        let b := other.generation
        let t := other.after
          ((first, .frame p) :: later.map fun e => (e.1, e.2.recount a b))
        let here := s.step true m (.tick generation)
        let there := t.step true m (.tick (generation - a + b))
        t.accepts (generation - a + b) = s.accepts generation ∧
          there.effects.any Effect.beats = here.effects.any Effect.beats ∧
          there.effects.any Effect.reconnects = here.effects.any Effect.reconnects) := by
  intro s
  have missing : s.health.overdue = true ↔ AnswerMissing ((start shard).trace history) :=
    overdue_iff_answerMissing rfl history
  refine ⟨?_, ?_, ?_⟩
  · intro m generation accepted
    rw [ticked_accepted accepted, ← missing]
    constructor
    · intro overdue
      rw [if_pos overdue]
    · intro answered
      rw [if_neg answered]
  · intro m generation u
    obtain ⟨alike, sequence⟩ := after_unasked history (alike_refl (start shard)) rfl
    have accepts := accepts_alike alike generation
    obtain ⟨-, -, effects⟩ := ticked_alike alike m generation
    exact ⟨accepts, (effects sequence).symm⟩
  · intro before first p later split greets other m generation a b t here there
    have greeted := greeting_alike greets first ((start shard).after before) other
    have alike : Alike a b s t := by
      have run : s = ((start shard).after before).after ((first, .frame p) :: later) := by
        rw [← after_append, ← split]
      rw [run]
      exact after_alike greeted later
    obtain ⟨beats, reconnects, -⟩ := ticked_alike alike m generation
    exact ⟨accepts_alike alike generation, beats.symm, reconnects.symm⟩

/-- A socket dies with a heartbeat outstanding.  On the next one the first tick sends a heartbeat all
    the same, and the second one, which finds no answer to that, gives up. -/
theorem outstanding_heartbeat_is_left_behind :
    let hello : Packet :=
      ⟨.hello, some (.object [("heartbeat_interval", .number (.whole 45000))]), none, none⟩
    let m := Moment.steady 0
    let before : List (Moment × SessionInput) :=
      [(m, .opened), (m, .frame hello), (m, .tick 1), (m, .closed), (m, .opened)]
    let quiet := (start ⟨0, 1⟩).after (before ++ [(m, .frame hello)])
    let beaten := (start ⟨0, 1⟩).after (before ++ [(m, .frame hello), (m, .tick 2)])
    (SessionInput.frame hello).greets = true ∧
      quiet.accepts 2 = true ∧ (quiet.step true m (.tick 2)).effects = [.heartbeat none] ∧
      beaten.accepts 2 = true ∧ beaten.step true m (.tick 2) =
        ⟨{ beaten with phase := .reconnecting },
          [.disrupted .ackMissed, .reconnect .protocolError 0], true⟩ ∧
      ((start ⟨0, 1⟩).after [(m, .frame hello), (m, .tick 1)]).accepts 1 = beaten.accepts 2 := by
  intro hello m before quiet beaten
  obtain ⟨first, _, _⟩ :=
    missed_answer_is_detected ⟨0, 1⟩ (before ++ [(m, .frame hello)])
  obtain ⟨second, _, others⟩ :=
    missed_answer_is_detected ⟨0, 1⟩ (before ++ [(m, .frame hello), (m, .tick 2)])
  have greets : (SessionInput.frame hello).greets = true := by rfl
  have acceptsFirst : quiet.accepts 2 = true := by rfl
  have acceptsSecond : beaten.accepts 2 = true := by rfl
  have missing : AnswerMissing
      ((start ⟨0, 1⟩).trace (before ++ [(m, .frame hello), (m, .tick 2)])) :=
    (overdue_iff_answerMissing rfl _).mp rfl
  have answered : ¬ AnswerMissing ((start ⟨0, 1⟩).trace (before ++ [(m, .frame hello)])) := by
    intro missing
    have overdue : quiet.health.overdue = true := (overdue_iff_answerMissing rfl _).mpr missing
    exact absurd overdue (by decide +kernel)
  refine ⟨greets, acceptsFirst, (first m 2 acceptsFirst).2 answered, acceptsSecond,
    (second m 2 acceptsSecond).1 missing, ?_⟩
  exact (others before m hello [(m, .tick 2)] rfl greets (start ⟨0, 1⟩) m 2).1

end Session
end SessionFleet
