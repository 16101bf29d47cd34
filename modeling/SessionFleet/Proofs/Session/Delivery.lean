import SessionFleet.Proofs.Session.Continuity
/- Which events are delivered.  A dispatch frame brings the event that its name and its payload say, if
   that is one that is known here; each is delivered once and in its place.  Frames that cannot be used
   are no failure: they bring nothing, and at most their sequence number counts. -/
namespace SessionFleet

/-- What a frame brings, without regard to who receives it.  The payload of a kind that is passed on
    stays as it is. -/
inductive Packet.Brings (p : Packet) : Event → Prop where
  | ready (r : Ready) (op : p.op = .dispatch) (named : p.t = some "READY")
      (read : Ready.ofJson p.payload = .ok r) : p.Brings (.ready r)
  | resumed (op : p.op = .dispatch) (named : p.t = some "RESUMED") : p.Brings .resumed
  | passed (name : String) (kind : DispatchKind) (op : p.op = .dispatch) (named : p.t = some name)
      (known : DispatchKind.ofName? name = some kind) (whole : p.payload.isObject = true) :
      p.Brings (.passed kind p.payload)

namespace SessionInput

def event? : SessionInput → Option Event
  | .frame p =>
    if p.op = .dispatch then
      match p.t with
      | none => none
      | some name =>
        match Event.decode name p.payload with
        | .ok (.unrecognized _) => none
        | .ok e => some e
        | .error _ => none
    else none
  | _ => none

/-- A greeting or an event that cannot be read, or an event that nothing here knows. -/
def unusable : SessionInput → Bool
  | .frame p =>
    match p.op with
    | .hello => !(Hello.ofJson p.payload).isOk
    | .dispatch =>
      match p.t with
      | none => true
      | some name =>
        match Event.decode name p.payload with
        | .ok (.unrecognized _) => true
        | .ok _ => false
        | .error _ => true
    | _ => false
  | _ => false

variable {p : Packet}

theorem event?_of_other (op : p.op ≠ .dispatch) : event? (.frame p) = none := by
  simp [event?, op]

theorem event?_of_unnamed (named : p.t = none) : event? (.frame p) = none := by
  simp [event?, named]

theorem event?_of_named {name : String} (op : p.op = .dispatch) (named : p.t = some name) :
    event? (.frame p) =
      match Event.decode name p.payload with
      | .ok (.unrecognized _) => none
      | .ok e => some e
      | .error _ => none := by
  simp only [event?, op, named, ↓reduceIte]

theorem handshakes_not_passed : DispatchKind.ofName? "READY" = none ∧
    DispatchKind.ofName? "RESUMED" = none := by decide

theorem brings_of_decode {name : String} {e : Event} (op : p.op = .dispatch)
    (named : p.t = some name) (read : Event.decode name p.payload = .ok e)
    (recognized : ∀ n, e ≠ .unrecognized n) : p.Brings e := by
  unfold Event.decode at read
  by_cases first : name = "READY"
  · rw [if_pos first] at read
    cases ready : Ready.ofJson p.payload with
    | error mismatch => simp [ready] at read
    | ok r =>
      simp only [ready, Except.ok.injEq] at read
      rw [← read]
      exact .ready r op (by rw [named, first]) ready
  · rw [if_neg first] at read
    by_cases again : name = "RESUMED"
    · rw [if_pos again, Except.ok.injEq] at read
      rw [← read]
      exact .resumed op (by rw [named, again])
    · rw [if_neg again] at read
      cases known : DispatchKind.ofName? name with
      | none =>
        simp only [known, Except.ok.injEq] at read
        exact absurd read.symm (recognized name)
      | some kind =>
        cases whole : p.payload.isObject with
        | false => simp [known, whole] at read
        | true =>
          simp only [known, whole, ↓reduceIte, Except.ok.injEq] at read
          rw [← read]
          exact .passed name kind op named known whole

theorem decode_of_brings {e : Event} (brings : p.Brings e) :
    ∃ name, p.op = .dispatch ∧ p.t = some name ∧ Event.decode name p.payload = .ok e ∧
      ∀ n, e ≠ .unrecognized n := by
  obtain ⟨notReady, notResumed⟩ := handshakes_not_passed
  cases brings with
  | ready r op named read => exact ⟨"READY", op, named, by simp [Event.decode, read], by simp⟩
  | resumed op named => exact ⟨"RESUMED", op, named, by simp [Event.decode], by simp⟩
  | passed name kind op named known whole =>
    have first : name ≠ "READY" := by
      intro same
      rw [same, notReady] at known
      cases known
    have again : name ≠ "RESUMED" := by
      intro same
      rw [same, notResumed] at known
      cases known
    exact ⟨name, op, named, by simp [Event.decode, first, again, known, whole], by simp⟩

theorem event?_iff_brings (p : Packet) (e : Event) : event? (.frame p) = some e ↔ p.Brings e := by
  constructor
  · intro brought
    by_cases op : p.op = .dispatch
    · cases named : p.t with
      | none => simp [event?_of_unnamed named] at brought
      | some name =>
        rw [event?_of_named op named] at brought
        split at brought
        · cases brought
        · rename_i recognized read
          cases brought
          exact brings_of_decode op named read recognized
        · cases brought
    · simp [event?_of_other op] at brought
  · intro brings
    obtain ⟨name, op, named, read, recognized⟩ := decode_of_brings brings
    rw [event?_of_named op named, read]
    cases e with
    | unrecognized n => exact absurd rfl (recognized n)
    | ready | resumed | passed => rfl

end SessionInput

def Effect.event? : Effect → Option Event
  | .deliver e => some e
  | _ => none

/-- The events that were delivered, in their order. -/
def deliveries (seen : List (SessionInput × List Effect)) : List Event :=
  seen.flatMap fun e => e.2.filterMap Effect.event?

namespace Session

variable {s : Session} {m : Moment} {p : Packet}

/-- A turn that fails at nothing and delivers just what its input brings. -/
structure Delivers (i : SessionInput) (t : Turn) : Prop where
  events : t.effects.filterMap Effect.event? = i.event?.toList
  reached : t.reached = true

theorem delivers_nothing {i : SessionInput} {t : Turn} (brings : i.event? = none)
    (silent : t.effects.filterMap Effect.event? = []) (reached : t.reached = true) :
    Delivers i t :=
  ⟨by rw [brings, silent]; rfl, reached⟩

theorem dispatched_delivers (op : p.op = .dispatch) (s : Session) :
    Delivers (.frame p) (dispatched true s p) := by
  cases named : p.t with
  | none =>
    rw [dispatched_of_unnamed named]
    exact delivers_nothing (SessionInput.event?_of_unnamed named) rfl rfl
  | some name =>
    have brings := SessionInput.event?_of_named op named
    cases read : Event.decode name p.payload with
    | error fault =>
      rw [read] at brings
      rw [dispatched_of_unread named read]
      exact delivers_nothing brings rfl rfl
    | ok event =>
      rw [read] at brings
      rw [dispatched_of_event named read]
      cases event <;> exact ⟨by rw [brings]; rfl, rfl⟩

theorem greeted_delivers (op : p.op = .hello) (m : Moment) (s : Session) :
    Delivers (.frame p) (framed true m s p) := by
  have brings : SessionInput.event? (.frame p) = none :=
    SessionInput.event?_of_other (by simp [op])
  cases read : Hello.ofJson p.payload with
  | error mismatch =>
    simp only [framed, op, read]
    exact delivers_nothing brings rfl rfl
  | ok hello =>
    simp only [framed, op, read]
    by_cases usable : hello.heartbeatInterval = 0
    · simp only [greeted, usable, ↓reduceIte]
      exact delivers_nothing brings rfl rfl
    · rw [greeted_reached usable]
      refine delivers_nothing brings ?_ rfl
      simp only [opening]
      cases s.sessionId <;> rfl

theorem framed_delivers (m : Moment) (s : Session) (p : Packet) :
    Delivers (.frame p) (framed true m s p) := by
  cases op : p.op with
  | dispatch =>
    have turn : framed true m s p = dispatched true s p := by simp only [framed, op]
    rw [turn]
    exact dispatched_delivers op s
  | hello => exact greeted_delivers op m s
  | invalidSession =>
    obtain ⟨resumable, turn⟩ := refusal_turn op m s
    rw [turn, refused_reached]
    have brings : SessionInput.event? (.frame p) = none :=
      SessionInput.event?_of_other (by simp [op])
    cases resumable <;> exact delivers_nothing brings rfl rfl
  | heartbeatAck =>
    have brings : SessionInput.event? (.frame p) = none :=
      SessionInput.event?_of_other (by simp [op])
    simp only [framed, op, answered]
    split <;> exact delivers_nothing brings rfl rfl
  | heartbeat | reconnect | identify | presenceUpdate | voiceStateUpdate | resume
  | requestGuildMembers =>
    simp only [framed, op]
    exact delivers_nothing (SessionInput.event?_of_other (by simp [op])) rfl rfl

theorem step_delivers (m : Moment) (s : Session) (i : SessionInput) :
    Delivers i (s.step true m i) := by
  cases i with
  | opened | closed => exact ⟨rfl, rfl⟩
  | frame p => exact framed_delivers m s p
  | tick generation =>
    simp only [step, ticked]
    split
    · exact ⟨rfl, rfl⟩
    · split <;> exact ⟨rfl, rfl⟩

theorem trace_delivers (s : Session) (history : List (Moment × SessionInput)) :
    deliveries (s.trace history) = (history.map Prod.snd).filterMap SessionInput.event? := by
  induction history generalizing s with
  | nil => rfl
  | cons e rest ih =>
    have one := (step_delivers e.1 s e.2).events
    have later := ih (s.step true e.1 e.2).session
    unfold deliveries at later ⊢
    simp only [trace, List.flatMap_cons, List.map_cons, List.filterMap_cons]
    rw [one, later]
    cases e.2.event? <;> rfl

theorem step_of_unusable {i : SessionInput} (unusable : i.unusable = true) (m : Moment)
    (s : Session) : s.step true m i = silent { s with sequence := i.carries.or s.sequence } := by
  cases i with
  | opened | closed | tick => cases unusable
  | frame p =>
    cases op : p.op with
    | hello =>
      cases read : Hello.ofJson p.payload with
      | error mismatch => simp [step, framed, op, read, SessionInput.carries]
      | ok hello => simp [SessionInput.unusable, op, read, Except.isOk, Except.toBool] at unusable
    | dispatch =>
      have carried : SessionInput.carries (.frame p) = p.s := by simp [SessionInput.carries, op]
      have turn : s.step true m (.frame p) = dispatched true s p := by simp only [step, framed, op]
      rw [carried, turn]
      cases named : p.t with
      | none => exact dispatched_of_unnamed named s
      | some name =>
        cases read : Event.decode name p.payload with
        | error fault => exact dispatched_of_unread named read s
        | ok event =>
          rw [dispatched_of_event named read]
          cases event with
          | unrecognized => rfl
          | ready | resumed | passed => simp [SessionInput.unusable, op, named, read] at unusable
    | _ => simp [SessionInput.unusable, op] at unusable

/-- From any session on, the events that are delivered are those that the frames bring, in their order,
    and no input fails.  A frame that cannot be used changes the sequence number at most. -/
theorem events_delivered_once_in_order (s : Session) (history : List (Moment × SessionInput)) :
    deliveries (s.trace history) = (history.map Prod.snd).filterMap SessionInput.event? ∧
      (∀ p e, SessionInput.event? (.frame p) = some e ↔ p.Brings e) ∧
      (∀ m i, ((s.after history).step true m i).reached = true) ∧
      ∀ m i, i.unusable = true → (s.after history).step true m i =
        silent { s.after history with sequence := i.carries.or (s.after history).sequence } :=
  ⟨trace_delivers s history, SessionInput.event?_iff_brings,
    fun m i => (step_delivers m (s.after history) i).reached,
    fun m _ unusable => step_of_unusable unusable m (s.after history)⟩

/-- The payload is no object: nothing follows from it, but the sequence number counts. -/
theorem garbled_event_is_passed_over :
    let first : Packet := ⟨.dispatch, some (.object [("session_id", .text "abc"),
      ("user", .object [("id", .text "1")])]), some 7, some "READY"⟩
    let garbled : Packet := ⟨.dispatch, some (.text "oops"), some 8, some "GUILD_CREATE"⟩
    let history := [(Moment.steady 0, SessionInput.opened), (Moment.steady 1, .frame first),
      (Moment.steady 2, .frame garbled)]
    let s := (start ⟨0, 1⟩).after history
    (SessionInput.frame garbled).unusable = true ∧
      s.step true (.steady 3) (.frame garbled) = silent { s with sequence := some 8 } ∧
      deliveries ((start ⟨0, 1⟩).trace history) = [.ready ⟨"abc", ⟨"1", none⟩, none⟩] := by
  intro first garbled history s
  have unusable : (SessionInput.frame garbled).unusable = true := by decide
  obtain ⟨delivered, _, _, unchanged⟩ := events_delivered_once_in_order (start ⟨0, 1⟩) history
  refine ⟨unusable, unchanged (.steady 3) (.frame garbled) unusable, ?_⟩
  rw [delivered]
  decide

end Session
end SessionFleet
