import SessionFleet.Proofs.Session.GivenUp
/- What a session that was refused for good leaves for the next socket.

   The refusal itself clears all that is remembered.  But the frames that come in behind it, on a
   socket that has been given up, are still taken in: the next socket starts afresh exactly if none
   of them brought a session or a sequence number. -/
namespace SessionFleet
namespace SessionInput

def dispatches : SessionInput → Bool
  | .frame p => p.op = .dispatch
  | .opened | .closed | .tick _ => false

theorem carries_of_not_dispatches {i : SessionInput} (other : i.dispatches = false) :
    i.carries = none := by
  cases i with
  | opened | closed | tick _ => rfl
  | frame p =>
    simp only [dispatches, decide_eq_false_iff_not] at other
    simp only [carries, if_neg other]

theorem sinceForgotten_refused {i : SessionInput} (refused : i.forgets = true)
    (past later : List SessionInput) :
    sinceForgotten (past ++ i :: later) = sinceForgotten later := by
  induction later using List.reverseRecOn with
  | nil =>
    rw [sinceForgotten_append, refused]
    rfl
  | append_singleton later last ih =>
    have split : past ++ i :: (later ++ [last]) = (past ++ i :: later) ++ [last] := by simp
    rw [split, sinceForgotten_append, sinceForgotten_append, ih]

end SessionInput

namespace Session

variable {s : Session} {i : SessionInput}

/-- Only the health of a session depends on whether its owner was there. -/
theorem step_reached (reachable : Bool) (m : Moment) (s : Session) (i : SessionInput) :
    ∃ health, (s.step reachable m i).session = { (s.step true m i).session with health } := by
  cases reachable with
  | true => exact ⟨_, rfl⟩
  | false =>
    cases i with
    | opened | closed => exact ⟨_, rfl⟩
    | tick generation =>
      simp only [step, ticked]
      split
      · exact ⟨_, rfl⟩
      · split <;> exact ⟨_, rfl⟩
    | frame p =>
      cases op : p.op with
      | hello =>
        simp only [step, framed, op]
        split
        · exact ⟨_, rfl⟩
        · unfold greeted
          split
          · exact ⟨_, rfl⟩
          · cases s.sessionId <;> exact ⟨_, rfl⟩
      | dispatch =>
        simp only [step, framed, op, dispatched]
        split
        · exact ⟨_, rfl⟩
        · split
          · exact ⟨_, rfl⟩
          · split <;> exact ⟨_, rfl⟩
      | invalidSession =>
        simp only [step, framed, op]
        split
        · rename_i resumable _
          cases resumable <;> exact ⟨_, rfl⟩
        · exact ⟨_, rfl⟩
      | heartbeatAck =>
        simp only [step, framed, op, answered]
        split <;> exact ⟨_, rfl⟩
      | heartbeat | reconnect | identify | presenceUpdate | voiceStateUpdate | resume
      | requestGuildMembers =>
        simp only [step, framed, op]
        exact ⟨_, rfl⟩

theorem step_remembers (reachable : Bool) (m : Moment) (s : Session) (i : SessionInput) :
    (s.step reachable m i).session.sessionId =
        (if i.forgets then none else i.announces.or s.sessionId) ∧
      (s.step reachable m i).session.sequence =
        (if i.forgets then none else i.carries.or s.sequence) := by
  obtain ⟨health, same⟩ := step_reached reachable m s i
  have kept := step_keeps m s i
  rw [same]
  exact ⟨kept.session, kept.sequence⟩

theorem run_remembers (shard : Shard) (history : List (Bool × Moment × SessionInput)) :
    ((start shard).run history).sessionId =
        SessionInput.latestSession (history.map fun e => e.2.2) ∧
      ((start shard).run history).sequence =
        SessionInput.latestSequence (history.map fun e => e.2.2) := by
  induction history using List.reverseRecOn with
  | nil => exact ⟨rfl, rfl⟩
  | append_singleton history last ih =>
    obtain ⟨reachable, m, i⟩ := last
    obtain ⟨session, sequence⟩ := ih
    have stepped := step_remembers reachable m ((start shard).run history) i
    rw [session, sequence] at stepped
    rw [run_append, List.map_append, List.map_singleton, SessionInput.latestSession_append,
      SessionInput.latestSequence_append]
    exact stepped

theorem run_without_session (none_yet : s.sessionId = none)
    (fresh : List (Bool × Moment × SessionInput))
    (unannounced : ∀ e ∈ fresh, e.2.2.announces = none) : (s.run fresh).sessionId = none := by
  induction fresh generalizing s with
  | nil => exact none_yet
  | cons e rest ih =>
    refine ih ?_ fun d member => unannounced d (List.mem_cons_of_mem _ member)
    rw [(step_remembers e.1 e.2.1 s e.2.2).1, unannounced e List.mem_cons_self, none_yet]
    split <;> rfl

theorem run_without_sequence (none_yet : s.sequence = none)
    (fresh : List (Bool × Moment × SessionInput)) (others : ∀ e ∈ fresh, e.2.2.dispatches = false) :
    (s.run fresh).sequence = none := by
  induction fresh generalizing s with
  | nil => exact none_yet
  | cons e rest ih =>
    refine ih ?_ fun d member => others d (List.mem_cons_of_mem _ member)
    have uncarried := SessionInput.carries_of_not_dispatches (others e List.mem_cons_self)
    rw [(step_remembers e.1 e.2.1 s e.2.2).2, uncarried, none_yet]
    split <;> rfl

theorem eq_of_calling {reachable : Bool} {e f : Effect} {after : Session → Session}
    (asked : e ∈ (calling reachable s f after).effects) : e = f := by
  cases reachable with
  | true => exact List.mem_singleton.mp asked
  | false => cases asked

theorem eq_of_telling {reachable : Bool} {e f : Effect}
    (asked : e ∈ (telling reachable s f).effects) : e = f := by
  cases reachable with
  | true => exact List.mem_singleton.mp asked
  | false => cases asked

theorem eq_of_giveUp {reachable : Bool} {e : Effect} {why : Disruption} {code : CloseCode}
    {delay : Span} (asked : e ∈ (giveUp reachable s why code delay).effects) :
    e = .disrupted why ∨ e = .reconnect code delay := by
  rcases List.mem_cons.mp asked with first | second
  · exact Or.inl first
  · exact Or.inr (eq_of_calling second)

variable {reachable : Bool} {m : Moment} {sequence : Option Nat}

theorem no_heartbeat_of_giveUp {why : Disruption} {code : CloseCode} {delay : Span} :
    .heartbeat sequence ∉ (giveUp reachable s why code delay).effects := by
  intro sent
  rcases eq_of_giveUp sent with same | same <;> cases same

theorem framed_heartbeat_carries {p : Packet}
    (sent : .heartbeat sequence ∈ (framed reachable m s p).effects) : sequence = s.sequence := by
  cases op : p.op with
  | hello =>
    simp only [framed, op] at sent
    split at sent
    · cases sent
    · unfold greeted at sent
      split at sent
      · exact absurd sent no_heartbeat_of_giveUp
      · cases known : s.sessionId <;> simp only [known] at sent <;> cases eq_of_calling sent
  | heartbeat =>
    simp only [framed, op] at sent
    exact Effect.heartbeat.inj (eq_of_calling sent)
  | heartbeatAck =>
    simp only [framed, op, answered] at sent
    split at sent
    · cases sent
    · cases eq_of_telling sent
  | reconnect =>
    simp only [framed, op] at sent
    exact absurd sent no_heartbeat_of_giveUp
  | invalidSession =>
    simp only [framed, op, refused] at sent
    split at sent
    · split at sent <;> exact absurd sent no_heartbeat_of_giveUp
    · exact absurd sent no_heartbeat_of_giveUp
  | dispatch =>
    simp only [framed, op, dispatched] at sent
    split at sent
    · cases sent
    · split at sent
      · cases sent
      · split at sent
        · cases sent
        · cases eq_of_telling sent
  | identify | presenceUpdate | voiceStateUpdate | resume | requestGuildMembers =>
    simp only [framed, op] at sent
    cases sent

theorem heartbeat_carries (sent : .heartbeat sequence ∈ (s.step reachable m i).effects) :
    sequence = s.sequence := by
  cases i with
  | opened | closed => cases sent
  | frame p => exact framed_heartbeat_carries sent
  | tick generation =>
    simp only [step, ticked] at sent
    split at sent
    · cases sent
    · split at sent
      · exact absurd sent no_heartbeat_of_giveUp
      · exact Effect.heartbeat.inj (eq_of_calling sent)

/-- A socket that has just been opened is used as if there had been none before: as long as no
    session has been set up on it a greeting is answered by identifying, and as long as nothing has
    been dispatched on it heartbeats carry no sequence number. -/
def StartsAfresh (s : Session) : Prop :=
  ∀ fresh : List (Bool × Moment × SessionInput), (∀ e ∈ fresh, e.2.2.comesIn = true) →
    ((∀ e ∈ fresh, e.2.2.announces = none) → ∀ m i, SessionInput.greets i = true →
      ((s.run fresh).step true m i).effects.filter Effect.opens = [.identify]) ∧
    ((∀ e ∈ fresh, e.2.2.dispatches = false) → ∀ reachable m i sequence,
      .heartbeat sequence ∈ ((s.run fresh).step reachable m i).effects → sequence = none)

theorem startsAfresh_iff (s : Session) :
    s.StartsAfresh ↔ s.sessionId = none ∧ s.sequence = none := by
  constructor
  · intro afresh
    obtain ⟨identifies, carriesNothing⟩ := afresh [] (by simp)
    constructor
    · let hello : Packet :=
        ⟨.hello, some (.object [("heartbeat_interval", .number (.whole 45000))]), none, none⟩
      have greets : SessionInput.greets (.frame hello) = true := by rfl
      have answer := identifies (by simp) (Moment.steady 0) (.frame hello) greets
      rw [(step_keeps _ _ _).opens, greets] at answer
      cases known : s.sessionId with
      | none => rfl
      | some id => simp [opening, run, known] at answer
    · let ask : Packet := ⟨.heartbeat, none, none, none⟩
      have sent : .heartbeat s.sequence ∈
          (s.step true (Moment.steady 0) (.frame ask)).effects := List.mem_singleton.mpr rfl
      exact carriesNothing (by simp) true (Moment.steady 0) (.frame ask) s.sequence sent
  · intro remembersNothing fresh _
    obtain ⟨noSession, noSequence⟩ := remembersNothing
    constructor
    · intro unannounced m i greets
      have still := run_without_session noSession fresh unannounced
      rw [(step_keeps _ _ _).opens, greets]
      simp [opening, still]
    · intro others reachable m i sequence sent
      have still := run_without_sequence noSequence fresh others
      exact (heartbeat_carries sent).trans still

theorem sinceForgotten_closed (inputs : List SessionInput) :
    SessionInput.sinceForgotten (inputs ++ [.closed, .opened]) =
      .opened :: .closed :: SessionInput.sinceForgotten inputs := by
  have split : inputs ++ [.closed, .opened] = (inputs ++ [.closed]) ++ [SessionInput.opened] := by
    simp
  rw [split, SessionInput.sinceForgotten_append, SessionInput.sinceForgotten_append]
  rfl

/-- After a session was refused for good, the next socket starts afresh exactly if nothing that was
    still taken in on the old one, since it was last refused, set up a session or carried a sequence
    number. -/
theorem starts_afresh_iff_nothing_taken_in (shard : Shard)
    (past late : List (Bool × Moment × SessionInput)) {refusal : Bool × Moment × SessionInput}
    (refused : refusal.2.2.forgets = true) (closing opening : Bool × Moment) :
    ((start shard).run (past ++ refusal :: (late ++
        [(closing.1, closing.2, .closed), (opening.1, opening.2, .opened)]))).StartsAfresh ↔
      SessionInput.latestSession (late.map fun e => e.2.2) = none ∧
        SessionInput.latestSequence (late.map fun e => e.2.2) = none := by
  obtain ⟨session, sequence⟩ := run_remembers shard (past ++ refusal :: (late ++
    [(closing.1, closing.2, .closed), (opening.1, opening.2, .opened)]))
  rw [startsAfresh_iff, session, sequence]
  unfold SessionInput.latestSession SessionInput.latestSequence
  rw [List.map_append, List.map_cons, List.map_append, SessionInput.sinceForgotten_refused refused]
  have socket : ([(closing.1, closing.2, .closed), (opening.1, opening.2, .opened)] :
      List (Bool × Moment × SessionInput)).map (fun e => e.2.2) = [.closed, .opened] := rfl
  rw [socket, sinceForgotten_closed]
  rfl

/-- An answer to a heartbeat and a tick are all that comes in behind the refusal. -/
theorem afresh_behind_answer_and_tick :
    let hello : Packet :=
      ⟨.hello, some (.object [("heartbeat_interval", .number (.whole 45000))]), none, none⟩
    let m := Moment.steady 0
    let refusal : Bool × Moment × SessionInput :=
      (true, m, .frame ⟨.invalidSession, some (.bool false), none, none⟩)
    refusal.2.2.forgets = true ∧
      ((start ⟨0, 1⟩).run ([(true, m, .opened), (true, m, .frame hello)] ++ refusal ::
        ([(true, m, .frame ⟨.heartbeatAck, none, none, none⟩), (true, m, .tick 1)] ++
          [(true, m, .closed), (true, m, .opened)]))).StartsAfresh := by
  intro hello m refusal
  have refused : refusal.2.2.forgets = true := by rfl
  refine ⟨refused, ?_⟩
  apply (starts_afresh_iff_nothing_taken_in ⟨0, 1⟩ [(true, m, .opened), (true, m, .frame hello)]
    [(true, m, .frame ⟨.heartbeatAck, none, none, none⟩), (true, m, .tick 1)] refused
    (true, m) (true, m)).mpr
  exact ⟨rfl, rfl⟩

/-- A message comes in behind the refusal.  Its number goes out with the first heartbeat of the next
    socket, where the shard has identified and nothing has been dispatched. -/
theorem late_number_goes_out_on_next_socket :
    let hello : Packet :=
      ⟨.hello, some (.object [("heartbeat_interval", .number (.whole 45000))]), none, none⟩
    let m := Moment.steady 0
    let refusal : Packet := ⟨.invalidSession, some (.bool false), none, none⟩
    let message : Packet := ⟨.dispatch, some (.object []), some 10, some "MESSAGE_CREATE"⟩
    let s := (start ⟨0, 1⟩).run
      [(true, m, .opened), (true, m, .frame hello), (true, m, .frame refusal),
        (true, m, .frame message), (true, m, .closed), (true, m, .opened)]
    (SessionInput.frame refusal).forgets = true ∧
      (s.step true m (.frame hello)).effects = [.identify] ∧
      ((s.step true m (.frame hello)).session.step true m
        (.frame ⟨.heartbeat, none, none, none⟩)).effects = [.heartbeat (some 10)] := by
  decide +kernel

end Session
end SessionFleet
