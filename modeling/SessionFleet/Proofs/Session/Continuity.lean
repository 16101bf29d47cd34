import Mathlib.Data.List.Induction
import SessionFleet.Proofs.Session.SessionRuns
/- What a session remembers is a function of the inputs that it has seen, whatever sockets they came
   on: the session that the server set up last and the sequence number that came last, both since
   the server last refused a session for good.  A greeting is answered from just these two. -/
namespace SessionFleet
namespace SessionInput

def announces : SessionInput → Option String
  | .frame p =>
    if p.op = .dispatch ∧ p.t = some "READY" then
      match Ready.ofJson p.payload with
      | .ok r => some r.session
      | .error _ => none
    else none
  | _ => none

def carries : SessionInput → Option Nat
  | .frame p => if p.op = .dispatch then p.s else none
  | _ => none

/-- A session is refused, and not with the plain word that it can be resumed. -/
def forgets : SessionInput → Bool
  | .frame p => p.op = .invalidSession && p.payload ≠ .bool true
  | _ => false

def greets : SessionInput → Bool
  | .frame p =>
    p.op = .hello &&
      match Hello.ofJson p.payload with
      | .ok h => h.heartbeatInterval ≠ 0
      | .error _ => false
  | _ => false

/-- The inputs since a session was last refused for good, the newest first. -/
def sinceForgotten (inputs : List SessionInput) : List SessionInput :=
  inputs.reverse.takeWhile fun i => !i.forgets

def latestSession (inputs : List SessionInput) : Option String :=
  (sinceForgotten inputs).findSome? announces

def latestSequence (inputs : List SessionInput) : Option Nat :=
  (sinceForgotten inputs).findSome? carries

theorem sinceForgotten_append (inputs : List SessionInput) (i : SessionInput) :
    sinceForgotten (inputs ++ [i]) = if i.forgets then [] else i :: sinceForgotten inputs := by
  cases forgotten : i.forgets <;> simp [sinceForgotten, forgotten]

theorem latestSession_append (inputs : List SessionInput) (i : SessionInput) :
    latestSession (inputs ++ [i]) =
      if i.forgets then none else i.announces.or (latestSession inputs) := by
  unfold latestSession
  rw [sinceForgotten_append]
  split
  · rfl
  · cases announced : i.announces <;> simp [announced]

theorem latestSequence_append (inputs : List SessionInput) (i : SessionInput) :
    latestSequence (inputs ++ [i]) =
      if i.forgets then none else i.carries.or (latestSequence inputs) := by
  unfold latestSequence
  rw [sinceForgotten_append]
  split
  · rfl
  · cases carried : i.carries <;> simp [carried]

/-- Only the first event of a session announces one, and only if it is read. -/
theorem announces_of_dispatch {p : Packet} {name : String} (op : p.op = .dispatch)
    (named : p.t = some name) :
    announces (.frame p) =
      match Event.decode name p.payload with
      | .ok (.ready r) => some r.session
      | _ => none := by
  by_cases first : name = "READY"
  · cases read : Ready.ofJson p.payload <;> simp [announces, Event.decode, op, named, first, read]
  · have unannounced : announces (.frame p) = none := by simp [announces, named, first]
    rw [unannounced]
    simp only [Event.decode, first, ↓reduceIte]
    by_cases resumed : name = "RESUMED"
    · simp [resumed]
    · simp only [resumed, ↓reduceIte]
      cases DispatchKind.ofName? name with
      | none => rfl
      | some kind => cases p.payload.isObject <;> rfl

end SessionInput

def Effect.opens : Effect → Bool
  | .identify | .resume _ _ => true
  | .heartbeat _ | .reconnect _ _ | .deliver _ | .latency _ | .disrupted _ => false

namespace Session

/-- What one turn does to the two things that are remembered, and how it takes up a session. -/
structure Keeps (s : Session) (i : SessionInput) (t : Turn) : Prop where
  session : t.session.sessionId = if i.forgets then none else i.announces.or s.sessionId
  sequence : t.session.sequence = if i.forgets then none else i.carries.or s.sequence
  opens : t.effects.filter Effect.opens = if i.greets then [s.opening] else []

variable {s : Session} {m : Moment} {p : Packet}

/-- The frames that neither dispatch, nor greet, nor refuse a session. -/
theorem keeps_otherwise {t : Turn} (dispatch : p.op ≠ .dispatch) (hello : p.op ≠ .hello)
    (refusal : p.op ≠ .invalidSession) (sameSession : t.session.sessionId = s.sessionId)
    (sameSequence : t.session.sequence = s.sequence)
    (nothing : t.effects.filter Effect.opens = []) : Keeps s (.frame p) t := by
  refine ⟨?_, ?_, ?_⟩
  · simp [sameSession, SessionInput.forgets, SessionInput.announces, dispatch, refusal]
  · simp [sameSequence, SessionInput.forgets, SessionInput.carries, dispatch, refusal]
  · simp [nothing, SessionInput.greets, hello]

theorem dispatched_keeps (op : p.op = .dispatch) : Keeps s (.frame p) (dispatched true s p) := by
  have remembered : SessionInput.forgets (.frame p) = false := by simp [SessionInput.forgets, op]
  have carried : SessionInput.carries (.frame p) = p.s := by simp [SessionInput.carries, op]
  have ungreeted : SessionInput.greets (.frame p) = false := by simp [SessionInput.greets, op]
  -- whatever becomes of the event, only the announced session differs
  have keeps {t : Turn}
      (session : t.session.sessionId = (SessionInput.frame p).announces.or s.sessionId)
      (sequence : t.session.sequence = p.s.or s.sequence)
      (nothing : t.effects.filter Effect.opens = []) : Keeps s (.frame p) t :=
    ⟨by simp [remembered, session], by simp [remembered, carried, sequence],
      by simp [ungreeted, nothing]⟩
  cases named : p.t with
  | none =>
    have unannounced : SessionInput.announces (.frame p) = none := by
      simp [SessionInput.announces, named]
    rw [dispatched_of_unnamed named]
    exact keeps (by rw [unannounced]; rfl) rfl rfl
  | some name =>
    have announced := SessionInput.announces_of_dispatch op named
    cases read : Event.decode name p.payload with
    | error fault =>
      rw [read] at announced
      rw [dispatched_of_unread named read]
      exact keeps (by rw [announced]; rfl) rfl rfl
    | ok event =>
      rw [read] at announced
      rw [dispatched_of_event named read]
      cases event <;> exact keeps (by rw [announced]; rfl) rfl rfl

theorem greeted_keeps (op : p.op = .hello) (m : Moment) : Keeps s (.frame p) (framed true m s p) := by
  have remembered : SessionInput.forgets (.frame p) = false := by simp [SessionInput.forgets, op]
  have unannounced : SessionInput.announces (.frame p) = none := by
    simp [SessionInput.announces, op]
  have uncarried : SessionInput.carries (.frame p) = none := by simp [SessionInput.carries, op]
  have keeps {t : Turn} (session : t.session.sessionId = s.sessionId)
      (sequence : t.session.sequence = s.sequence)
      (opens : t.effects.filter Effect.opens =
        if SessionInput.greets (.frame p) then [s.opening] else []) : Keeps s (.frame p) t :=
    ⟨by simp [remembered, unannounced, session], by simp [remembered, uncarried, sequence], opens⟩
  cases read : Hello.ofJson p.payload with
  | error mismatch =>
    have ungreeted : SessionInput.greets (.frame p) = false := by
      simp [SessionInput.greets, op, read]
    simp only [framed, op, read]
    exact keeps rfl rfl (by rw [ungreeted]; rfl)
  | ok hello =>
    simp only [framed, op, read]
    by_cases usable : hello.heartbeatInterval = 0
    · have ungreeted : SessionInput.greets (.frame p) = false := by
        simp [SessionInput.greets, op, read, usable]
      simp only [greeted, usable, ↓reduceIte, giveUp_reached]
      exact keeps rfl rfl (by rw [ungreeted]; rfl)
    · have greets : SessionInput.greets (.frame p) = true := by
        simp [SessionInput.greets, op, read, usable]
      rw [greeted_reached usable]
      refine keeps rfl rfl ?_
      rw [greets]
      simp only [opening]
      cases s.sessionId <;> rfl

theorem refused_keeps (op : p.op = .invalidSession) (m : Moment) :
    Keeps s (.frame p) (framed true m s p) := by
  have unannounced : SessionInput.announces (.frame p) = none := by
    simp [SessionInput.announces, op]
  have uncarried : SessionInput.carries (.frame p) = none := by simp [SessionInput.carries, op]
  have ungreeted : SessionInput.greets (.frame p) = false := by simp [SessionInput.greets, op]
  rw [refusal_resumable op, refused_reached]
  by_cases resumable : p.payload = .bool true
  · have remembered : SessionInput.forgets (.frame p) = false := by
      simp [SessionInput.forgets, resumable]
    rw [if_pos (decide_eq_true resumable)]
    exact ⟨by simp [remembered, unannounced], by simp [remembered, uncarried],
      by rw [ungreeted]; rfl⟩
  · have forgotten : SessionInput.forgets (.frame p) = true := by
      simp [SessionInput.forgets, op, resumable]
    rw [if_neg (by simp [resumable])]
    exact ⟨by simp [forgotten], by simp [forgotten], by rw [ungreeted]; rfl⟩

theorem framed_keeps (m : Moment) (s : Session) (p : Packet) :
    Keeps s (.frame p) (framed true m s p) := by
  cases op : p.op with
  | dispatch =>
    have turn : framed true m s p = dispatched true s p := by simp only [framed, op]
    rw [turn]
    exact dispatched_keeps op
  | hello => exact greeted_keeps op m
  | invalidSession => exact refused_keeps op m
  | heartbeat =>
    simp only [framed, op]
    exact keeps_otherwise (by simp [op]) (by simp [op]) (by simp [op]) rfl rfl rfl
  | heartbeatAck =>
    simp only [framed, op, answered]
    split <;> exact keeps_otherwise (by simp [op]) (by simp [op]) (by simp [op]) rfl rfl rfl
  | reconnect =>
    simp only [framed, op, giveUp_reached]
    exact keeps_otherwise (by simp [op]) (by simp [op]) (by simp [op]) rfl rfl rfl
  | identify | presenceUpdate | voiceStateUpdate | resume | requestGuildMembers =>
    simp only [framed, op]
    exact keeps_otherwise (by simp [op]) (by simp [op]) (by simp [op]) rfl rfl rfl

theorem step_keeps (m : Moment) (s : Session) (i : SessionInput) : Keeps s i (s.step true m i) := by
  cases i with
  | opened => exact ⟨rfl, rfl, rfl⟩
  | closed => exact ⟨rfl, rfl, rfl⟩
  | frame p => exact framed_keeps m s p
  | tick generation =>
    simp only [step, ticked]
    split
    · exact ⟨rfl, rfl, rfl⟩
    · split <;> exact ⟨rfl, rfl, rfl⟩

theorem step_of_greets (greets : (SessionInput.frame p).greets = true) (m : Moment) :
    ∃ interval, interval ≠ 0 ∧
      ∀ s : Session, s.step true m (.frame p) = greeted true m s interval := by
  have op : p.op = .hello := by
    simp only [SessionInput.greets, Bool.and_eq_true, decide_eq_true_eq] at greets
    exact greets.1
  cases read : Hello.ofJson p.payload with
  | error mismatch => simp [SessionInput.greets, read] at greets
  | ok hello =>
    have usable : hello.heartbeatInterval ≠ 0 := by
      simpa [SessionInput.greets, op, read] using greets
    refine ⟨hello.heartbeatInterval, usable, ?_⟩
    intro s
    simp only [step, framed, op, read]

theorem after_remembers (shard : Shard) (history : List (Moment × SessionInput)) :
    ((start shard).after history).sessionId = SessionInput.latestSession (history.map Prod.snd) ∧
      ((start shard).after history).sequence =
        SessionInput.latestSequence (history.map Prod.snd) := by
  induction history using List.reverseRecOn with
  | nil => exact ⟨rfl, rfl⟩
  | append_singleton history last ih =>
    obtain ⟨m, i⟩ := last
    obtain ⟨session, sequence⟩ := ih
    have kept := step_keeps m ((start shard).after history) i
    rw [after_append, List.map_append, List.map_singleton, SessionInput.latestSession_append,
      SessionInput.latestSequence_append, ← session, ← sequence]
    exact ⟨kept.session, kept.sequence⟩

/-- After any history a session remembers the session set up last and the sequence number that came
    last, each since a session was last refused for good.  A greeting that can be kept is answered
    by taking up just that session, or a new one if there is none, and nothing else takes up any. -/
theorem session_follows_history (shard : Shard) (history : List (Moment × SessionInput)) :
    let s := (start shard).after history
    let inputs := history.map Prod.snd
    s.sessionId = SessionInput.latestSession inputs ∧
      s.sequence = SessionInput.latestSequence inputs ∧
      ∀ m i, (s.step true m i).effects.filter Effect.opens =
        if i.greets then
          match SessionInput.latestSession inputs with
          | some id => [.resume id (SessionInput.latestSequence inputs)]
          | none => [.identify]
        else [] := by
  intro s inputs
  obtain ⟨session, sequence⟩ := after_remembers shard history
  refine ⟨session, sequence, fun m i => ?_⟩
  rw [(step_keeps m s i).opens, ← session, ← sequence]
  simp only [opening]
  cases s.sessionId <;> rfl

end Session
end SessionFleet
