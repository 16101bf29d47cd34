import SessionFleet.Proofs.Session.Delivery
import SessionFleet.Proofs.Session.StaleTicks
/- A session that has given its socket up.

   The frames that were on their way still come in until the socket closes.  Ticks are turned away
   then, but frames are not: a greeting, or the word of the server that a session is up, puts the
   shard to work on a socket that is about to go. -/
namespace SessionFleet
namespace SessionInput

/-- What comes in while a socket is open. -/
def comesIn : SessionInput → Bool
  | .frame _ | .tick _ => true
  | .opened | .closed => false

/-- The server says that a session is set up or resumed. -/
def takesUp (i : SessionInput) : Bool :=
  match i.event? with
  | some (.ready _) | some .resumed => true
  | some (.passed _ _) | some (.unrecognized _) | none => false

/-- Where an input leads a session that has given its socket up. -/
def afterGivingUp (i : SessionInput) : Phase :=
  if i.greets then .identifying else if i.takesUp then .connected else .reconnecting

theorem afterGivingUp_iff (i : SessionInput) :
    i.afterGivingUp = .reconnecting ↔ i.greets = false ∧ i.takesUp = false := by
  unfold afterGivingUp
  cases i.greets <;> cases i.takesUp <;> simp

end SessionInput

namespace Session

variable {s : Session} {i : SessionInput} {p : Packet}

/-- Each step finds the owner of the socket there or gone. -/
def run (s : Session) (history : List (Bool × Moment × SessionInput)) : Session :=
  history.foldl (fun s e => (s.step e.1 e.2.1 e.2.2).session) s

theorem run_append (s : Session) (before later : List (Bool × Moment × SessionInput)) :
    s.run (before ++ later) = (s.run before).run later :=
  List.foldl_append ..

/-- Where the inputs of an open socket leave a session: a greeting and a session that is up have the
    last word, everything else leaves it where it is or gives it up. -/
structure Leads (s : Session) (i : SessionInput) (phase : Phase) : Prop where
  greeted : i.greets = true → phase = .identifying
  takenUp : i.takesUp = true → phase = .connected
  otherwise : i.greets = false → i.takesUp = false → phase = s.phase ∨ phase = .reconnecting

theorem leads_otherwise {phase : Phase} (ungreeted : i.greets = false) (notUp : i.takesUp = false)
    (stays : phase = s.phase ∨ phase = .reconnecting) : s.Leads i phase :=
  ⟨by simp [ungreeted], by simp [notUp], fun _ _ => stays⟩

theorem dispatched_leads (op : p.op = .dispatch) (reachable : Bool) (s : Session) :
    s.Leads (.frame p) (dispatched reachable s p).session.phase := by
  have ungreeted : SessionInput.greets (.frame p) = false := by simp [SessionInput.greets, op]
  cases named : p.t with
  | none =>
    have notUp : SessionInput.takesUp (.frame p) = false := by
      simp [SessionInput.takesUp, SessionInput.event?_of_unnamed named]
    simp only [dispatched, named]
    exact leads_otherwise ungreeted notUp (Or.inl rfl)
  | some name =>
    have brought := SessionInput.event?_of_named op named
    simp only [dispatched, named]
    cases read : Event.decode name p.payload with
    | error fault =>
      rw [read] at brought
      exact leads_otherwise ungreeted (by simp [SessionInput.takesUp, brought]) (Or.inl rfl)
    | ok event =>
      rw [read] at brought
      cases event with
      | ready r =>
        have up : SessionInput.takesUp (.frame p) = true := by simp [SessionInput.takesUp, brought]
        exact ⟨by simp [ungreeted], fun _ => rfl, by simp [up]⟩
      | resumed =>
        have up : SessionInput.takesUp (.frame p) = true := by simp [SessionInput.takesUp, brought]
        exact ⟨by simp [ungreeted], fun _ => rfl, by simp [up]⟩
      | unrecognized n =>
        exact leads_otherwise ungreeted (by simp [SessionInput.takesUp, brought]) (Or.inl rfl)
      | passed kind payload =>
        exact leads_otherwise ungreeted (by simp [SessionInput.takesUp, brought]) (Or.inl rfl)

theorem greeted_leads (op : p.op = .hello) (reachable : Bool) (m : Moment) (s : Session) :
    s.Leads (.frame p) (framed reachable m s p).session.phase := by
  have notUp : SessionInput.takesUp (.frame p) = false := by
    simp [SessionInput.takesUp, SessionInput.event?_of_other, op]
  cases read : Hello.ofJson p.payload with
  | error mismatch =>
    simp only [framed, op, read]
    exact leads_otherwise (by simp [SessionInput.greets, read]) notUp (Or.inl rfl)
  | ok hello =>
    simp only [framed, op, read, greeted]
    by_cases usable : hello.heartbeatInterval = 0
    · rw [if_pos usable, giveUp_session]
      exact leads_otherwise (by simp [SessionInput.greets, read, usable]) notUp (Or.inr rfl)
    · have greets : SessionInput.greets (.frame p) = true := by
        simp [SessionInput.greets, op, read, usable]
      rw [if_neg usable]
      refine ⟨fun _ => ?_, by simp [notUp], by simp [greets]⟩
      cases s.sessionId <;> cases reachable <;> rfl

theorem framed_leads (reachable : Bool) (m : Moment) (s : Session) (p : Packet) :
    s.Leads (.frame p) (framed reachable m s p).session.phase := by
  have plain (greeting : p.op ≠ .hello) (dispatch : p.op ≠ .dispatch) {phase : Phase}
      (stays : phase = s.phase ∨ phase = .reconnecting) : s.Leads (.frame p) phase :=
    leads_otherwise (by simp [SessionInput.greets, greeting])
      (by simp [SessionInput.takesUp, SessionInput.event?_of_other dispatch]) stays
  cases op : p.op with
  | dispatch =>
    simp only [framed, op]
    exact dispatched_leads op reachable s
  | hello => exact greeted_leads op reachable m s
  | invalidSession =>
    apply plain (by simp [op]) (by simp [op])
    right
    simp only [framed, op]
    cases p.payload.asBool with
    | error _ => simp only [refused, Bool.false_eq_true, ↓reduceIte, giveUp_session]
    | ok resumable =>
      cases resumable <;> simp only [refused, Bool.false_eq_true, ↓reduceIte, giveUp_session]
  | heartbeat =>
    apply plain (by simp [op]) (by simp [op])
    left
    simp only [framed, op, calling_session]
    cases reachable <;> rfl
  | heartbeatAck =>
    apply plain (by simp [op]) (by simp [op])
    left
    simp only [framed, op, answered]
    split <;> rfl
  | reconnect =>
    apply plain (by simp [op]) (by simp [op])
    right
    simp only [framed, op, giveUp_session]
  | identify | presenceUpdate | voiceStateUpdate | resume | requestGuildMembers =>
    apply plain (by simp [op]) (by simp [op])
    left
    simp only [framed, op]
    rfl

theorem step_leads (comes : i.comesIn = true) (reachable : Bool) (m : Moment) (s : Session) :
    s.Leads i (s.step reachable m i).session.phase := by
  cases i with
  | opened | closed => simp [SessionInput.comesIn] at comes
  | frame p => exact framed_leads reachable m s p
  | tick generation =>
    apply leads_otherwise rfl rfl
    simp only [step, ticked]
    split
    · exact Or.inl rfl
    · split
      · rw [giveUp_session]
        exact Or.inr rfl
      · rw [calling_session]
        left
        cases reachable <;> rfl

theorem step_of_givenUp (givenUp : s.phase = .reconnecting) (comes : i.comesIn = true)
    (reachable : Bool) (m : Moment) :
    (s.step reachable m i).session.phase = i.afterGivingUp := by
  have leads := step_leads comes reachable m s
  unfold SessionInput.afterGivingUp
  cases greets : i.greets with
  | true => exact leads.greeted greets
  | false =>
    cases up : i.takesUp with
    | true => exact leads.takenUp up
    | false =>
      rcases leads.otherwise greets up with stays | again
      · exact stays.trans givenUp
      · exact again

theorem run_givenUp_iff (givenUp : s.phase = .reconnecting)
    (late : List (Bool × Moment × SessionInput)) (comeIn : ∀ e ∈ late, e.2.2.comesIn = true) :
    (∀ past, past <+: late → (s.run past).phase = .reconnecting) ↔
      ∀ e ∈ late, e.2.2.greets = false ∧ e.2.2.takesUp = false := by
  induction late generalizing s with
  | nil => simp [run, givenUp]
  | cons first rest ih =>
    obtain ⟨reachable, m, i⟩ := first
    rw [List.forall_mem_cons] at comeIn ⊢
    have step := step_of_givenUp givenUp comeIn.1 reachable m
    rw [← i.afterGivingUp_iff, ← step]
    constructor
    · intro always
      have next : (s.step reachable m i).session.phase = .reconnecting :=
        always [(reachable, m, i)] ⟨rest, rfl⟩
      refine ⟨next, (ih next comeIn.2).mp ?_⟩
      intro past earlier
      exact always _ (List.cons_prefix_cons.mpr ⟨rfl, earlier⟩)
    · intro ⟨next, later⟩ past earlier
      rcases List.prefix_cons_iff.mp earlier with start | ⟨front, split, before⟩
      · rw [start]
        exact givenUp
      · rw [split]
        exact (ih next comeIn.2).mpr later front before

/-- As long as nothing but frames and ticks come in, a session that has given its socket up stays so
    exactly if none of them is a greeting that can be kept or the word that a session is up: the
    first leads to identifying and the second to work.  The close of the socket ends it in any
    case. -/
theorem reconnecting_lasts_iff (givenUp : s.phase = .reconnecting)
    (late : List (Bool × Moment × SessionInput)) (comeIn : ∀ e ∈ late, e.2.2.comesIn = true) :
    ((∀ past, past <+: late → (s.run past).phase = .reconnecting) ↔
        ∀ e ∈ late, e.2.2.greets = false ∧ e.2.2.takesUp = false) ∧
      (∀ reachable m (i : SessionInput), i.comesIn = true →
        (s.step reachable m i).session.phase = i.afterGivingUp) ∧
      ∀ reachable m, ((s.run late).step reachable m .closed).session.phase = .disconnected := by
  refine ⟨run_givenUp_iff givenUp late comeIn, ?_, ?_⟩
  · intro reachable m i comes
    exact step_of_givenUp givenUp comes reachable m
  · intro reachable m
    rfl

/-- The server asks for a new connection, then for a heartbeat, and a tick falls due. -/
theorem heartbeat_request_changes_nothing :
    let hello : Packet :=
      ⟨.hello, some (.object [("heartbeat_interval", .number (.whole 45000))]), none, none⟩
    let m := Moment.steady 0
    let s := (start ⟨0, 1⟩).run
      [(true, m, .opened), (true, m, .frame hello),
        (true, m, .frame ⟨.reconnect, none, none, none⟩)]
    let late : List (Bool × Moment × SessionInput) :=
      [(true, m, .frame ⟨.heartbeat, none, none, none⟩), (true, m, .tick 1)]
    s.phase = .reconnecting ∧ (∀ e ∈ late, e.2.2.comesIn = true) ∧
      (s.run late).phase = .reconnecting ∧
      ((s.run late).step true m .closed).session.phase = .disconnected := by
  intro hello m s late
  have givenUp : s.phase = .reconnecting := by rfl
  have comeIn : ∀ e ∈ late, e.2.2.comesIn = true := by simp [late, SessionInput.comesIn]
  obtain ⟨lasts_iff, _, closes⟩ := reconnecting_lasts_iff givenUp late comeIn
  have quiet : ∀ e ∈ late, e.2.2.greets = false ∧ e.2.2.takesUp = false := by
    simp [late, SessionInput.greets, SessionInput.takesUp, SessionInput.event?]
  exact ⟨givenUp, comeIn, lasts_iff.mpr quiet late (List.prefix_refl late), closes true m⟩

/-- The session that the server sets up comes in behind its own request to connect again. -/
theorem session_comes_up_on_given_up_socket :
    let hello : Packet :=
      ⟨.hello, some (.object [("heartbeat_interval", .number (.whole 45000))]), none, none⟩
    let ready : Packet :=
      ⟨.dispatch, some (.object [("session_id", .text "abc"),
        ("user", .object [("id", .text "1001")])]), some 1, some "READY"⟩
    let m := Moment.steady 0
    let s := (start ⟨0, 1⟩).run
      [(true, m, .opened), (true, m, .frame hello),
        (true, m, .frame ⟨.reconnect, none, none, none⟩)]
    s.phase = .reconnecting ∧ (s.step true m (.frame ready)).session.phase = .connected := by
  decide +kernel

end Session
end SessionFleet
