import SessionFleet.Session.Step
/- A session through any sequence of inputs, while the owner of the socket is there: sockets that open
   and close, frames of any kind and ticks of any schedule, each at a moment of its own. -/
namespace SessionFleet
namespace Session

def after (s : Session) (history : List (Moment × SessionInput)) : Session :=
  history.foldl (fun s e => (s.step true e.1 e.2).session) s

/-- Each input of a history with what the owner of the socket was asked to do. -/
def trace (s : Session) : List (Moment × SessionInput) → List (SessionInput × List Effect)
  | [] => []
  | e :: rest => (e.2, (s.step true e.1 e.2).effects) :: (s.step true e.1 e.2).session.trace rest

variable {s : Session} {m : Moment} {p : Packet}

theorem after_append (s : Session) (before later : List (Moment × SessionInput)) :
    s.after (before ++ later) = (s.after before).after later :=
  List.foldl_append ..

theorem trace_append (s : Session) (before later : List (Moment × SessionInput)) :
    s.trace (before ++ later) = s.trace before ++ (s.after before).trace later := by
  induction before generalizing s with
  | nil => rfl
  | cons e rest ih =>
    simp only [List.cons_append, trace]
    rw [ih]
    rfl

theorem giveUp_reached (s : Session) (why : Disruption) (code : CloseCode) (delay : Span) :
    giveUp true s why code delay =
      ⟨{ s with phase := .reconnecting }, [.disrupted why, .reconnect code delay], true⟩ := rfl

theorem refused_reached (m : Moment) (s : Session) (resumable : Bool) :
    refused true m s resumable =
      if resumable then
        ⟨{ s with phase := .reconnecting },
          [.disrupted (.invalidSession true), .reconnect .resumable (refusedDelay m)], true⟩
      else
        ⟨{ s with sessionId := none, sequence := none, phase := .reconnecting },
          [.disrupted (.invalidSession false), .reconnect .normal (refusedDelay m)], true⟩ := by
  cases resumable <;> rfl

/-- How a session is taken up with the server. -/
def opening (s : Session) : Effect :=
  match s.sessionId with
  | some id => .resume id s.sequence
  | none => .identify

theorem greeted_reached {interval : Nat} (usable : interval ≠ 0) (m : Moment) (s : Session) :
    greeted true m s interval =
      ⟨{ s with
          health := s.health.reset
          generation := s.generation + 1
          pacer := s.pacer.start (Span.ofMillis interval)
            (Pacer.firstDelay (Span.ofMillis interval) m.beat) (.takes 0) m.now
          phase := .identifying }, [s.opening], true⟩ := by
  simp only [greeted, usable, ↓reduceIte, opening]
  cases s.sessionId <;> rfl

/- A dispatch frame always counts its sequence number; an event may follow from it. -/

def sequenced (s : Session) (p : Packet) : Session := { s with sequence := p.s.or s.sequence }

theorem dispatched_of_unnamed (unnamed : p.t = none) (s : Session) :
    dispatched true s p = silent (s.sequenced p) := by
  simp only [dispatched, unnamed, sequenced]

theorem dispatched_of_unread {name : String} {fault : EventFault}
    (named : p.t = some name) (unread : Event.decode name p.payload = .error fault) (s : Session) :
    dispatched true s p = silent (s.sequenced p) := by
  simp only [dispatched, named, unread, sequenced]

theorem dispatched_of_event {name : String} {e : Event} (named : p.t = some name)
    (read : Event.decode name p.payload = .ok e) (s : Session) :
    dispatched true s p =
      match (s.sequenced p).absorb e with
      | none => silent (s.sequenced p)
      | some s => ⟨s, [.deliver e], true⟩ := by
  simp only [dispatched, named, read, sequenced]
  rfl

theorem answered_session (m : Moment) (s : Session) :
    (answered true m s).session = { s with health := s.health.ack m.now } := by
  simp only [answered]
  split <;> rfl

/-- A session that is refused can be resumed only where the frame says so. -/
theorem refusal_resumable (op : p.op = .invalidSession) (m : Moment) (s : Session) :
    framed true m s p = refused true m s (p.payload = .bool true) := by
  simp only [framed, op]
  cases p.payload with
  | bool resumable => cases resumable <;> rfl
  | _ => rfl

theorem refusal_turn (op : p.op = .invalidSession) (m : Moment) (s : Session) :
    ∃ resumable, framed true m s p = refused true m s resumable :=
  ⟨_, refusal_resumable op m s⟩

theorem ticked_refused {reachable : Bool} {generation : Nat} (refused : s.accepts generation = false)
    (m : Moment) : s.step reachable m (.tick generation) = silent s := by
  simp [step, ticked, refused]

/-- A dispatch frame touches neither the shard nor its heartbeats and their schedule, and whether it
    puts the shard to work is up to the frame. -/
theorem dispatched_pulse (p : Packet) :
    (∀ s, (dispatched true s p).session.shard = s.shard ∧
        (dispatched true s p).session.health = s.health ∧
        (dispatched true s p).session.pacer = s.pacer ∧
        (dispatched true s p).session.generation = s.generation) ∧
      ((∀ s, (dispatched true s p).session.phase = s.phase) ∨
        ∀ s, (dispatched true s p).session.phase = .connected) := by
  cases named : p.t with
  | none =>
    refine ⟨fun s => ?_, Or.inl fun s => ?_⟩ <;> rw [dispatched_of_unnamed named]
    · exact ⟨rfl, rfl, rfl, rfl⟩
    · rfl
  | some name =>
    cases read : Event.decode name p.payload with
    | error fault =>
      refine ⟨fun s => ?_, Or.inl fun s => ?_⟩ <;> rw [dispatched_of_unread named read]
      · exact ⟨rfl, rfl, rfl, rfl⟩
      · rfl
    | ok event =>
      refine ⟨fun s => ?_, ?_⟩
      · rw [dispatched_of_event named read]
        cases event <;> exact ⟨rfl, rfl, rfl, rfl⟩
      · cases event with
        | ready r => exact Or.inr fun s => by rw [dispatched_of_event named read]; rfl
        | resumed => exact Or.inr fun s => by rw [dispatched_of_event named read]; rfl
        | unrecognized n => exact Or.inl fun s => by rw [dispatched_of_event named read]; rfl
        | passed k d => exact Or.inl fun s => by rw [dispatched_of_event named read]; rfl

theorem step_shard (m : Moment) (s : Session) (i : SessionInput) :
    (s.step true m i).session.shard = s.shard := by
  cases i with
  | opened | closed => rfl
  | tick generation =>
    simp only [step, ticked]
    split
    · rfl
    · split <;> rfl
  | frame p =>
    cases op : p.op with
    | hello =>
      cases read : Hello.ofJson p.payload with
      | error mismatch =>
        simp only [step, framed, op, read]
        rfl
      | ok hello =>
        by_cases usable : hello.heartbeatInterval = 0
        · simp only [step, framed, op, read, greeted, usable, ↓reduceIte, giveUp_reached]
        · simp only [step, framed, op, read, greeted_reached usable]
    | heartbeatAck => simp only [step, framed, op, answered_session]
    | dispatch =>
      simp only [step, framed, op]
      exact ((dispatched_pulse p).1 s).1
    | invalidSession =>
      obtain ⟨resumable, turn⟩ := refusal_turn op m s
      simp only [step, turn, refused_reached]
      cases resumable <;> rfl
    | heartbeat | reconnect | identify | presenceUpdate | voiceStateUpdate | resume
    | requestGuildMembers =>
      simp only [step, framed, op]
      rfl

end Session
end SessionFleet
