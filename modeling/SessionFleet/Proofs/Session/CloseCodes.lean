import SessionFleet.Proofs.Session.Causes
import SessionFleet.Proofs.Session.LeftBehind
/- How a socket is closed that a session gives up.

   The server discards a session whose socket is closed as normal, and keeps it for a while after any
   other close.  So the code has to agree with what the session remembers: it is normal exactly if
   the session forgets what it could resume. -/
namespace SessionFleet
namespace Disruption

def closeCode : Disruption → CloseCode
  | .reconnectRequested | .invalidSession true => .resumable
  | .invalidSession false => .normal
  | .ackMissed | .badHello => .protocolError

/-- How long a disruption lets the next connection wait. -/
def Delays : Disruption → Span → Prop
  | .reconnectRequested, delay => delay = Span.ofSeconds 1
  | .invalidSession _, delay => ∃ ms, 1000 ≤ ms ∧ ms < 5000 ∧ delay = Span.ofMillis ms
  | .ackMissed, delay | .badHello, delay => delay = 0

theorem closeCode_normal_iff (why : Disruption) :
    why.closeCode = .normal ↔ why = .invalidSession false := by
  cases why with
  | invalidSession resumable => cases resumable <;> simp [closeCode]
  | reconnectRequested | ackMissed | badHello => simp [closeCode]

end Disruption

namespace Session

variable {s : Session} {i : SessionInput} {p : Packet} {why : Disruption}

/-- What is left of a session that is disrupted. -/
def disrupted (s : Session) : Disruption → Session
  | .invalidSession false => { s with sessionId := none, sequence := none }
  | .reconnectRequested | .invalidSession true | .ackMissed | .badHello => s

theorem disrupted_of_resumable (resumable : why ≠ .invalidSession false) : s.disrupted why = s := by
  cases why with
  | invalidSession kept =>
    cases kept with
    | true => rfl
    | false => exact absurd rfl resumable
  | reconnectRequested | ackMissed | badHello => rfl

/-- A turn that gives the socket up for this cause. -/
def GivesUp (reachable : Bool) (s : Session) (why : Disruption) (t : Turn) : Prop :=
  ∃ delay, why.Delays delay ∧ t = giveUp reachable (s.disrupted why) why why.closeCode delay

theorem refused_givesUp (reachable : Bool) (m : Moment) (s : Session) (resumable : Bool) :
    s.GivesUp reachable (.invalidSession resumable) (refused reachable m s resumable) := by
  have bounded : 1000 + m.wait.val < 5000 := by
    have drawn := m.wait.isLt
    omega
  refine ⟨refusedDelay m, ⟨1000 + m.wait.val, Nat.le_add_right .., bounded, rfl⟩, ?_⟩
  cases resumable <;> rfl

theorem framed_givesUp (cause : s.cause? (.frame p) = some why) (reachable : Bool) (m : Moment) :
    s.GivesUp reachable why (framed reachable m s p) := by
  cases op : p.op with
  | reconnect =>
    obtain rfl : .reconnectRequested = why := by
      simpa [cause?, SessionInput.hasOp, op] using cause
    simp only [framed, op]
    exact ⟨requestedDelay, rfl, rfl⟩
  | invalidSession =>
    obtain rfl : .invalidSession (decide (p.payload = .bool true)) = why := by
      simpa [cause?, SessionInput.hasOp, SessionInput.forgets, op] using cause
    have turn : framed reachable m s p = refused reachable m s (p.payload = .bool true) := by
      simp only [framed, op]
      cases p.payload with
      | bool resumable => cases resumable <;> rfl
      | _ => rfl
    rw [turn]
    exact refused_givesUp reachable m s _
  | hello =>
    cases read : Hello.ofJson p.payload with
    | error mismatch =>
      simp [cause?, SessionInput.hasOp, SessionInput.misgreets, misses, op, read] at cause
    | ok hello =>
      by_cases useless : hello.heartbeatInterval = 0
      · obtain rfl : .badHello = why := by
          simpa [cause?, SessionInput.hasOp, SessionInput.misgreets, op, read, useless] using cause
        simp only [framed, op, read, greeted, useless, ↓reduceIte]
        exact ⟨0, rfl, rfl⟩
      · simp [cause?, SessionInput.hasOp, SessionInput.misgreets, misses, op, read, useless] at cause
  | dispatch | heartbeat | heartbeatAck | identify | presenceUpdate | voiceStateUpdate | resume
  | requestGuildMembers =>
    rw [calm_of_op (by simp [op]) (by simp [op]) (by simp [op])] at cause
    cases cause

theorem step_givesUp (cause : s.cause? i = some why) (reachable : Bool) (m : Moment) :
    s.GivesUp reachable why (s.step reachable m i) := by
  cases i with
  | opened | closed =>
    simp [cause?, SessionInput.hasOp, SessionInput.misgreets, misses] at cause
  | frame p => exact framed_givesUp cause reachable m
  | tick generation =>
    have missed : s.misses (.tick generation) = true ∧ .ackMissed = why := by
      simpa [cause?, SessionInput.hasOp, SessionInput.misgreets] using cause
    obtain ⟨misses, rfl⟩ := missed
    simp only [Session.misses, Bool.and_eq_true] at misses
    simp only [step, ticked, misses.1, misses.2, Bool.not_true, Bool.false_eq_true, ↓reduceIte]
    exact ⟨0, rfl, rfl⟩

theorem calling_subset (s : Session) (e : Effect) (after : Session → Session) :
    (calling false s e after).effects ⊆ (calling true s e after).effects :=
  List.nil_subset _

theorem telling_subset (s : Session) (e : Effect) :
    (telling false s e).effects ⊆ (telling true s e).effects :=
  List.nil_subset _

theorem giveUp_subset (s : Session) (why : Disruption) (code : CloseCode) (delay : Span) :
    (giveUp false s why code delay).effects ⊆ (giveUp true s why code delay).effects :=
  List.cons_subset_cons _ (List.nil_subset _)

/-- An owner that is gone is not asked for anything that it would not have been asked for. -/
theorem step_effects_subset (reachable : Bool) (m : Moment) (s : Session) (i : SessionInput) :
    (s.step reachable m i).effects ⊆ (s.step true m i).effects := by
  cases reachable with
  | true => exact List.Subset.refl _
  | false =>
    cases i with
    | opened | closed => exact List.Subset.refl _
    | tick generation =>
      simp only [step, ticked]
      split
      · exact List.Subset.refl _
      · split
        · exact giveUp_subset ..
        · exact calling_subset ..
    | frame p =>
      cases op : p.op with
      | hello =>
        simp only [step, framed, op]
        split
        · exact List.Subset.refl _
        · unfold greeted
          split
          · exact giveUp_subset ..
          · cases s.sessionId <;> exact calling_subset ..
      | dispatch =>
        simp only [step, framed, op, dispatched]
        split
        · exact List.Subset.refl _
        · split
          · exact List.Subset.refl _
          · split
            · exact List.Subset.refl _
            · exact telling_subset ..
      | invalidSession =>
        simp only [step, framed, op]
        split
        · rename_i resumable _
          cases resumable <;> exact giveUp_subset ..
        · exact giveUp_subset ..
      | heartbeatAck =>
        simp only [step, framed, op, answered]
        split
        · exact List.Subset.refl _
        · exact telling_subset ..
      | heartbeat =>
        simp only [step, framed, op]
        exact calling_subset ..
      | reconnect =>
        simp only [step, framed, op]
        exact giveUp_subset ..
      | identify | presenceUpdate | voiceStateUpdate | resume | requestGuildMembers =>
        simp only [step, framed, op]
        exact List.Subset.refl _

/-- The session is forgotten for one cause only. -/
theorem forgets_of_cause (cause : s.cause? i = some why) :
    why = .invalidSession false ↔ i.forgets = true := by
  have refused : (i.hasOp .invalidSession && i.forgets) = i.forgets := by
    cases i with
    | frame p => simp [SessionInput.hasOp, SessionInput.forgets]
    | opened | closed | tick _ => rfl
  have counted := s.cause?_any i fun w => w = .invalidSession false
  simp only [cause, Option.any_some, reduceCtorEq, decide_false, Bool.and_false, Bool.false_or,
    Disruption.invalidSession.injEq, Bool.not_eq_false', Bool.or_false, Bool.decide_eq_true,
    refused] at counted
  rw [← counted, decide_eq_true_iff]

/-- Without a cause the socket is kept. -/
theorem step_calm (calm : s.cause? i = none) (reachable : Bool) (m : Moment) :
    ∀ e ∈ (s.step reachable m i).effects, e.reconnects = false ∧ e.cause? = none := by
  intro e asked
  have tidings := step_tidings m s i
  have causes := tidings.causes
  have reconnects := tidings.reconnects
  rw [calm] at causes reconnects
  have member := step_effects_subset reachable m s i asked
  constructor
  · simpa using List.countP_eq_zero.mp reconnects e member
  · exact List.filterMap_eq_nil_iff.mp causes e member

theorem giveUp_reconnects_le (reachable : Bool) (s : Session) (why : Disruption) (code : CloseCode)
    (delay : Span) : (giveUp reachable s why code delay).effects.countP Effect.reconnects ≤ 1 := by
  cases reachable <;> exact Nat.le_of_ble_eq_true rfl

/-- A step gives the socket up at most once, and only for a cause: then it says why, asks for the
    reconnection and nothing else, and leaves the session reconnecting.  The socket is closed as normal
    exactly if the session cannot be resumed, which is then forgotten together with its sequence
    number; any other close leaves both as they were. -/
theorem close_code_tells_what_is_kept (reachable : Bool) (m : Moment) (s : Session)
    (i : SessionInput) :
    let t := s.step reachable m i
    t.effects.countP Effect.reconnects ≤ 1 ∧
      (s.cause? i = none → ∀ e ∈ t.effects, e.reconnects = false ∧ e.cause? = none) ∧
      ∀ why, s.cause? i = some why →
        (∃ delay, why.Delays delay ∧
          t.effects =
            .disrupted why :: (if reachable then [.reconnect why.closeCode delay] else [])) ∧
        t.reached = reachable ∧ t.session.phase = .reconnecting ∧
        (why.closeCode = .normal ↔ i.forgets = true) ∧
        (why.closeCode = .normal → t.session.sessionId = none ∧ t.session.sequence = none) ∧
        (why.closeCode ≠ .normal →
          t.session.sessionId = s.sessionId ∧ t.session.sequence = s.sequence) := by
  intro t
  refine ⟨?_, fun calm => step_calm calm reachable m, ?_⟩
  · cases cause : s.cause? i with
    | none =>
      have kept : t.effects.countP Effect.reconnects = 0 := by
        apply List.countP_eq_zero.mpr
        intro e asked
        simp [(step_calm cause reachable m e asked).1]
      omega
    | some why =>
      obtain ⟨delay, _, turn⟩ := step_givesUp cause reachable m
      have given : t = giveUp reachable (s.disrupted why) why why.closeCode delay := turn
      rw [given]
      exact giveUp_reconnects_le ..
  · intro why cause
    obtain ⟨delay, delays, turn⟩ := step_givesUp cause reachable m
    have given : t = giveUp reachable (s.disrupted why) why why.closeCode delay := turn
    have left : t.session = { s.disrupted why with phase := .reconnecting } := by
      rw [given, giveUp_session]
    refine ⟨⟨delay, delays, ?_⟩, ?_, by rw [left], ?_, ?_, ?_⟩
    · rw [given]
      cases reachable <;> rfl
    · rw [given]
      cases reachable <;> rfl
    · rw [Disruption.closeCode_normal_iff]
      exact forgets_of_cause cause
    · intro normal
      obtain rfl := (Disruption.closeCode_normal_iff why).mp normal
      rw [left]
      exact ⟨rfl, rfl⟩
    · intro other
      have resumable : why ≠ .invalidSession false := by
        intro refused
        exact other ((Disruption.closeCode_normal_iff why).mpr refused)
      rw [left, disrupted_of_resumable resumable]
      exact ⟨rfl, rfl⟩

/-- A session that is up is refused, once with a word that cannot be read and once for the moment. -/
theorem garbled_refusal_forgets :
    let hello : Packet :=
      ⟨.hello, some (.object [("heartbeat_interval", .number (.whole 45000))]), none, none⟩
    let ready : Packet :=
      ⟨.dispatch, some (.object [("session_id", .text "abc"),
        ("user", .object [("id", .text "1001")])]), some 1, some "READY"⟩
    let m := Moment.steady 0
    let s := (start ⟨0, 1⟩).run
      [(true, m, .opened), (true, m, .frame hello), (true, m, .frame ready)]
    let garbled : SessionInput := .frame ⟨.invalidSession, some (.text "maybe"), none, none⟩
    let passing : SessionInput := .frame ⟨.invalidSession, some (.bool true), none, none⟩
    s.cause? garbled = some (.invalidSession false) ∧
      s.cause? passing = some (.invalidSession true) ∧
      (s.step true m garbled).session.sessionId = none ∧
      (s.step true m passing).session.sessionId = some "abc" ∧
      (s.step true m passing).session.sequence = some 1 := by
  intro hello ready m s garbled passing
  have refused : s.cause? garbled = some (.invalidSession false) := by decide
  have delayed : s.cause? passing = some (.invalidSession true) := by decide
  have known : s.sessionId = some "abc" ∧ s.sequence = some 1 := by decide +kernel
  obtain ⟨_, _, forgotten⟩ := close_code_tells_what_is_kept true m s garbled
  obtain ⟨_, _, kept⟩ := close_code_tells_what_is_kept true m s passing
  obtain ⟨_, _, _, _, gone, _⟩ := forgotten _ refused
  obtain ⟨_, _, _, _, _, stays⟩ := kept _ delayed
  obtain ⟨session, sequence⟩ := stays (by decide)
  exact ⟨refused, delayed, (gone rfl).1, session.trans known.1, sequence.trans known.2⟩

end Session
end SessionFleet
