import SessionFleet.Proofs.Connection.Dismissal
import SessionFleet.Proofs.Connection.Talks
/- The attempts of a connection, and what is in between.  An attempt begins when a socket is dialed and
   ends where that fails or where the socket is left; each has one result.  From there the way leads
   to the next attempt or to the end, and what happens on the socket until then has no part in it. -/
namespace SessionFleet

/-- An attempt that has come to its end: with which result, whether it has tripped the breaker, and what
    was drawn then for the jitter of the backoff. -/
structure Ended where
  parting : Connection.Parting
  tripped : Bool
  draw : Binary64
  deriving DecidableEq, Repr

def Ended.failed (o : Ended) : Bool :=
  match o.parting with
  | .failed _ => true
  | .told | .reconnect _ | .lost => false

/-- How long to wait before the next attempt, if the attempt has asked for so long. -/
def Ended.requested (o : Ended) : Option Span :=
  match o.parting with
  | .reconnect d => some d
  | .told | .lost | .failed _ => none

/-- What there is to see of a connection between its attempts. -/
inductive Notch where
  | ended (o : Ended)
  | waits (delay : Span)
  /-- the wait is over, and this is drawn then -/
  | elapsed (draw : Binary64)
  | asks
  | granted
  | dials
  deriving DecidableEq, Repr

def Notch.ended? : Notch → Option Ended
  | .ended o => some o
  | .waits _ | .elapsed _ | .asks | .granted | .dials => none

def Deed.notch? : Deed → Option Notch
  | .wait d => some (.waits d)
  | .askTurn => some .asks
  | .dial => some .dials
  | _ => none

namespace Connection

variable {s : Circumstances} {c : Connection} {i : Stimulus}

/-- Why a socket cannot be opened, if it cannot. -/
def dialFault (c : Connection) (d : Dial) : Option FleetError :=
  match c.target, d with
  | .error e, _ => some e
  | .ok _, .opened => none
  | .ok _, .failed e => some e
  | .ok _, .timedOut => some (.connectionFailed 0 "Connection timeout")

/-- The fault of a frame that has to be written now. -/
def unwritten (s : Circumstances) : Option Parting := s.writeFault.map fun why => .failed (.webSocket why)

/-- The result of the attempt that comes to its end with a stimulus, if one does. -/
def result (s : Circumstances) (c : Connection) (i : Stimulus) : Option Parting :=
  match c.stage, i with
  | .dialing, .dialed d => (c.dialFault d).map .failed
  | .online, .heard .close | .online, .heard .ended => some .lost
  | .online, .heard (.broken why) => some (.failed (.webSocket why))
  | .online, .heard (.ping _) | .online, .command (.send _) => unwritten s
  | .online, .flush =>
    match c.outbox with
    | [] => none
    | .send _ :: _ => unwritten s
    | .reconnect _ d :: _ => some (.reconnect d)
  | .online, .command .reconnect => some (.reconnect 0)
  | .online, .command .close => some .told
  | _, _ => none

def ended? (s : Circumstances) (c : Connection) (i : Stimulus) : Option Ended :=
  (c.result s i).map fun why => ⟨why, (c.step s i).deeds.contains .tripped, s.fraction⟩

/-- What is waited for comes to pass. -/
def passes (s : Circumstances) (c : Connection) (i : Stimulus) : List Notch :=
  match c.stage, i with
  | .cooling, .timeUp | .pausing, .timeUp => [.elapsed s.fraction]
  | .queueing, .turn => [.granted]
  | _, _ => []

def notches (s : Circumstances) (c : Connection) (i : Stimulus) : List Notch :=
  c.passes s i ++ (c.ended? s i).toList.map .ended ++ (c.step s i).deeds.filterMap Deed.notch?

/-- What there is to see from the launch on. -/
def timeline (settings : GatewaySettings) (shard : Shard) (history : List (Circumstances × Stimulus)) :
    List Notch :=
  (start settings shard).deeds.filterMap Deed.notch? ++
    observed notches (start settings shard).connection history

/-- The attempts that have come to an end. -/
def attempts (settings : GatewaySettings) (shard : Shard) (history : List (Circumstances × Stimulus)) :
    List Ended := (timeline settings shard history).filterMap Notch.ended?

theorem ended?_of_notch (d : Deed) : d.notch?.bind Notch.ended? = none := by
  cases d <;> rfl

theorem notches_ended (s : Circumstances) (c : Connection) (i : Stimulus) :
    (c.notches s i).filterMap Notch.ended? = (c.ended? s i).toList := by
  have passed : (c.passes s i).filterMap Notch.ended? = [] := by
    unfold passes
    split <;> rfl
  have done : ((c.step s i).deeds.filterMap Deed.notch?).filterMap Notch.ended? = [] := by
    rw [List.filterMap_filterMap]
    exact List.filterMap_eq_nil_iff.mpr fun d _ => ended?_of_notch d
  rw [notches, List.filterMap_append, List.filterMap_append, passed, done]
  cases c.ended? s i <;> rfl

section
variable (settings : GatewaySettings) (shard : Shard) (history : List (Circumstances × Stimulus))
  (last : Circumstances × Stimulus)

theorem timeline_concat :
    timeline settings shard (history ++ [last]) = timeline settings shard history ++
      ((start settings shard).connection.run history).connection.notches last.1 last.2 := by
  unfold timeline
  rw [observed_concat, List.append_assoc]

theorem attempts_concat :
    attempts settings shard (history ++ [last]) = attempts settings shard history ++
      (((start settings shard).connection.run history).connection.ended? last.1 last.2).toList := by
  unfold attempts
  rw [timeline_concat, List.filterMap_append, notches_ended]

end

/- The end of an attempt. -/

/-- All that the way to the next attempt goes by. -/
structure SameCounts (c d : Connection) : Prop where
  settings : d.settings = c.settings
  attempt : d.attempt = c.attempt
  failures : d.failures = c.failures
  first : d.first = c.first
  tripped : d.tripped = c.tripped
  requested : d.requested = c.requested

theorem SocketEnd.result {why : Parting} {code : Option CloseCode} (ends : SocketEnd s c i why code)
    (stage : c.stage = .online) : c.result s i = some why := by
  cases ends with
  | closed | ended | broken | renewed | dismissed => simp [Connection.result, stage]
  | unanswered data fault | unsent p fault => simp [Connection.result, stage, unwritten, fault]
  | unflushed next fault => simp [Connection.result, stage, next, unwritten, fault]
  | givenUp next => simp [Connection.result, stage, next]

theorem SameCounts.refl (c : Connection) : SameCounts c c := ⟨rfl, rfl, rfl, rfl, rfl, rfl⟩

theorem socketEnd_of_result {why : Parting} (stage : c.stage = .online)
    (result : c.result s i = some why) : ∃ code, SocketEnd s c i why code := by
  have unwritten {why : Parting} (unable : unwritten s = some why) :
      ∃ text, s.writeFault = some text ∧ why = .failed (.webSocket text) := by
    obtain ⟨text, fault, same⟩ := Option.map_eq_some_iff.mp unable
    exact ⟨text, fault, same.symm⟩
  cases i with
  | heard m =>
    cases m with
    | close =>
      simp only [Connection.result, stage, Option.some.injEq] at result
      exact ⟨none, result ▸ .closed⟩
    | ended =>
      simp only [Connection.result, stage, Option.some.injEq] at result
      exact ⟨none, result ▸ .ended⟩
    | broken text =>
      simp only [Connection.result, stage, Option.some.injEq] at result
      exact ⟨none, result ▸ .broken text⟩
    | ping data =>
      simp only [Connection.result, stage] at result
      obtain ⟨text, fault, same⟩ := unwritten result
      exact ⟨none, same ▸ .unanswered data fault⟩
    | text | binary | pong => simp [Connection.result, stage] at result
  | flush =>
    simp only [Connection.result, stage] at result
    cases next : c.outbox with
    | nil => simp [next] at result
    | cons order rest =>
      cases order with
      | send p =>
        simp only [next] at result
        obtain ⟨text, fault, same⟩ := unwritten result
        exact ⟨none, same ▸ .unflushed next fault⟩
      | reconnect code delay =>
        simp only [next, Option.some.injEq] at result
        exact ⟨code, result ▸ .givenUp next⟩
  | command k =>
    cases k with
    | send p =>
      simp only [Connection.result, stage] at result
      obtain ⟨text, fault, same⟩ := unwritten result
      exact ⟨none, same ▸ .unsent p fault⟩
    | reconnect =>
      simp only [Connection.result, stage, Option.some.injEq] at result
      exact ⟨some .resumable, result ▸ .renewed⟩
    | close =>
      simp only [Connection.result, stage, Option.some.injEq] at result
      exact ⟨some .normal, result ▸ .dismissed⟩
  | timeUp | turn | dialed | tick => simp [Connection.result, stage] at result

/-- Whatever the result, it is known what becomes of the socket, and the rest is the way on. -/
inductive Leaves (s : Circumstances) (c : Connection) (why : Parting) : Advance → Prop where
  | mk (left : Connection) (lead : List Deed) (same : SameCounts c left) (stage : left.stage = c.stage)
      (lasting : ∀ d ∈ lead, d.wayside = false) :
      Leaves s c why ⟨(left.onward s why).connection, lead ++ (left.onward s why).deeds⟩

theorem news_not_wayside (c : Connection) (p : Phase) : ∀ d ∈ c.news p, d.wayside = false := by
  intro d member
  unfold news at member
  split at member
  · cases member
  · rw [List.mem_singleton.mp member]
    rfl

theorem farewell_not_wayside (s : Circumstances) (code : Option CloseCode) :
    ∀ d ∈ farewell s code, d.wayside = false := by
  intro d member
  obtain ⟨f, write⟩ := farewell_writes s code d member
  rw [write]
  rfl

theorem step_leaves {why : Parting} (result : c.result s i = some why) :
    Leaves s c why (c.step s i) := by
  cases stage : c.stage with
  | online =>
    obtain ⟨code, ends⟩ := socketEnd_of_result stage result
    obtain ⟨outbox, step⟩ := ends.parts stage
    have parted := part_eq s why { c with outbox }
    rw [converse_closed (c := { c with outbox }) s stage] at parted
    let left : Connection :=
      { c with outbox, session := c.session.closed, reported := .disconnected }
    have leaves : Leaves s c why ⟨(left.onward s why).connection,
        (farewell s code ++ (c.news .disconnected ++ [.closed])) ++ (left.onward s why).deeds⟩ := by
      refine .mk left _ ⟨rfl, rfl, rfl, rfl, rfl, rfl⟩ rfl ?_
      simp only [List.forall_mem_append, List.forall_mem_singleton]
      exact ⟨farewell_not_wayside s code, news_not_wayside c _, rfl⟩
    rw [List.append_assoc, List.append_assoc] at leaves
    rw [step]
    simp only [Advance.also, parted]
    exact leaves
  | dialing =>
    cases i with
    | dialed d =>
      simp only [Connection.result, stage] at result
      obtain ⟨e, fault, same⟩ := Option.map_eq_some_iff.mp result
      have fails : c.step s (.dialed d) = c.fail s e := by
        simp only [step, stage, dialed]
        unfold dialFault at fault
        cases target : c.target <;> cases d <;> simp_all
      rw [fails, ← same]
      exact .mk c [] (.refl c) rfl (by simp)
    | _ => simp [Connection.result, stage] at result
  | _ => simp [Connection.result, stage] at result

/- Everything else. -/

/-- What happens where no attempt comes to its end. -/
inductive GoesOn (s : Circumstances) (c : Connection) : Stimulus → Advance → Prop where
  | stays {i : Stimulus} {a : Advance} (idle : c.passes s i = []) (same : SameCounts c a.connection)
      (stage : a.connection.stage = c.stage ∨
        c.stage = .online ∧ a.connection.stage = .stopped .crashed)
      (lasting : ∀ d ∈ a.deeds, d.wayside = false ∨ d = .failed) : GoesOn s c i a
  | enters {i : Stimulus} {a : Advance} (before : c.stage = .dialing) (idle : c.passes s i = [])
      (same : SameCounts c a.connection) (stage : a.connection.stage = .online)
      (lasting : ∀ d ∈ a.deeds, d.wayside = false) : GoesOn s c i a
  | retries (stage : c.stage = .cooling) : GoesOn s c .timeUp (c.closeBreaker.pause s)
  | resumes (stage : c.stage = .pausing) : GoesOn s c .timeUp c.approach
  | dials (stage : c.stage = .queueing) : GoesOn s c .turn c.dial
  | halts (stage : c.stage = .cooling ∨ c.stage = .pausing ∨ c.stage = .queueing) :
      GoesOn s c (.command .close) ⟨{ c with stage := .stopped .told }, [.leave]⟩

theorem effect_not_wayside (s : Circumstances) (e : Effect) :
    ∀ d ∈ e.deeds s, d.wayside = false ∨ d = .failed := by
  cases e with
  | deliver event =>
    simp only [Effect.deeds]
    split <;> simp [Deed.wayside]
  | _ => simp [Effect.deeds, Deed.wayside]

theorem converse_goesOn (s : Circumstances) (j : SessionInput) (stage : c.stage = .online)
    {lead : List Deed} (lasting : ∀ d ∈ lead, d.wayside = false) :
    GoesOn s c i (Advance.also ⟨c, lead⟩ fun c => c.converse s j) := by
  have idle : c.passes s i = [] := by simp [passes, stage]
  have spoken : ∀ d ∈ lead ++ (c.session.step true s.moment j).effects.flatMap (Effect.deeds s),
      d.wayside = false ∨ d = .failed := by
    intro d member
    rcases List.mem_append.mp member with early | acted
    · exact Or.inl (lasting d early)
    · obtain ⟨e, _, done⟩ := List.mem_flatMap.mp acted
      exact effect_not_wayside s e d done
  simp only [Advance.also]
  obtain ⟨outbox, crashed | survived⟩ := converse_cases s j stage
  · rw [crashed]
    exact .stays idle ⟨rfl, rfl, rfl, rfl, rfl, rfl⟩ (Or.inr ⟨stage, rfl⟩) spoken
  · rw [survived]
    refine .stays idle ⟨rfl, rfl, rfl, rfl, rfl, rfl⟩ (Or.inl rfl) ?_
    intro d member
    rw [← List.append_assoc] at member
    rcases List.mem_append.mp member with early | told
    · exact spoken d early
    · exact Or.inl (news_not_wayside c _ d told)

theorem online_goesOn (stage : c.stage = .online) (unended : c.result s i = none) :
    GoesOn s c i (c.step s i) := by
  have idle : c.passes s i = [] := by simp [passes, stage]
  have reaction := online_reaction (s := s) stage i
  generalize c.step s i = a at reaction ⊢
  cases reaction with
  | ignores => exact .stays idle (.refl c) (Or.inl rfl) (by simp)
  | counts | pongs | flushes | sends =>
    exact .stays idle ⟨rfl, rfl, rfl, rfl, rfl, rfl⟩ (Or.inl rfl) (by simp [Deed.wayside])
  | hears => exact converse_goesOn s _ stage (by simp [Deed.wayside])
  | ticks g =>
    have ticks : GoesOn s c (.tick g) (Advance.also ⟨c, []⟩ fun c => c.converse s (.tick g)) :=
      converse_goesOn s (.tick g) stage (by simp)
    exact ticks
  | parts why code outbox _ ends =>
    rw [ends.result stage] at unended
    cases unended
  | enters before | fails _ _ before | retries before | resumes before | dials before =>
    cases stage.symm.trans before
  | obeys before =>
    rcases before with before | before | before <;> cases stage.symm.trans before

theorem dialed_goesOn (stage : c.stage = .dialing) {d : Dial} (sound : c.dialFault d = none) :
    GoesOn s c (.dialed d) (c.dialed s d) := by
  have opens : c.dialed s d = c.enter s := by
    unfold dialFault at sound
    unfold dialed
    cases target : c.target <;> cases d <;> simp_all
  have silent := converse_silent (c := { c with stage := .online, outbox := [] }) (s := s)
    (j := .opened) rfl rfl
  rw [opens]
  simp only [enter, Advance.also]
  rw [silent]
  refine .enters stage (by simp [passes, stage]) ⟨rfl, rfl, rfl, rfl, rfl, rfl⟩ rfl ?_
  simp only [List.forall_mem_append, List.forall_mem_singleton]
  exact ⟨rfl, news_not_wayside _ _⟩

theorem ignores_goesOn (idle : c.passes s i = []) : GoesOn s c i ⟨c, []⟩ :=
  .stays idle (.refl c) (Or.inl rfl) (by simp)

theorem obeyIdle_goesOn (stage : c.stage = .cooling ∨ c.stage = .pausing ∨ c.stage = .queueing)
    (k : Command) : GoesOn s c (.command k) (c.obeyIdle k) := by
  cases k with
  | close => exact .halts stage
  | send | reconnect =>
    apply ignores_goesOn
    rcases stage with stage | stage | stage <;> simp [passes, stage]

theorem step_goesOn (unended : c.result s i = none) : GoesOn s c i (c.step s i) := by
  cases stage : c.stage with
  | online => exact online_goesOn stage unended
  | stopped how =>
    rw [step_stopped stage]
    exact ignores_goesOn (by simp [passes, stage])
  | dialing =>
    cases i with
    | dialed d =>
      simp only [Connection.result, stage, Option.map_eq_none_iff] at unended
      simp only [step, stage]
      exact dialed_goesOn stage unended
    | _ =>
      simp only [step, stage]
      exact ignores_goesOn (by simp [passes, stage])
  | queueing =>
    cases i with
    | turn =>
      simp only [step, stage]
      exact .dials stage
    | command k =>
      simp only [step, stage]
      exact obeyIdle_goesOn (by simp [stage]) k
    | _ =>
      simp only [step, stage]
      exact ignores_goesOn (by simp [passes, stage])
  | cooling =>
    cases i with
    | timeUp =>
      simp only [step, stage]
      exact .retries stage
    | command k =>
      simp only [step, stage]
      exact obeyIdle_goesOn (by simp [stage]) k
    | _ =>
      simp only [step, stage]
      exact ignores_goesOn (by simp [passes, stage])
  | pausing =>
    cases i with
    | timeUp =>
      simp only [step, stage]
      exact .resumes stage
    | command k =>
      simp only [step, stage]
      exact obeyIdle_goesOn (by simp [stage]) k
    | _ =>
      simp only [step, stage]
      exact ignores_goesOn (by simp [passes, stage])

/- From the end of an attempt to the next one. -/

/-- Where it goes on once the breaker is closed, if so long is to be waited first. -/
inductive Onto (held : Session) : Span → Stage → List Deed → Prop where
  | pauses {delay : Span} (long : delay ≠ 0) : Onto held delay .pausing [.wait delay]
  | queues (fresh : held.hasSession = false) : Onto held 0 .queueing [.askTurn]
  | dials (resumes : held.hasSession = true) : Onto held 0 .dialing [.dial]

theorem approach_onto (c : Connection) :
    ∃ stage deeds, c.approach = ⟨{ c with stage }, deeds⟩ ∧ Onto c.session 0 stage deeds := by
  unfold approach
  cases holds : c.session.hasSession with
  | true => exact ⟨_, _, rfl, .dials holds⟩
  | false => exact ⟨_, _, rfl, .queues holds⟩

theorem pause_onto (s : Circumstances) (c : Connection) :
    ∃ stage deeds, c.pause s = ⟨{ c with requested := none, stage }, deeds⟩ ∧
      Onto c.session (c.delay s) stage deeds := by
  unfold pause
  by_cases now : c.delay s = 0
  · obtain ⟨stage, deeds, approached, onto⟩ := approach_onto { c with requested := none }
    simp only [now, ↓reduceIte]
    exact ⟨stage, deeds, approached, onto⟩
  · simp only [now, ↓reduceIte]
    exact ⟨_, _, rfl, .pauses now⟩

theorem Onto.closed {held : Session} {delay : Span} {stage : Stage} {deeds : List Deed}
    (onto : Onto held delay stage deeds) : stage ≠ .cooling := by
  cases onto <;> simp

theorem round_closed (s : Circumstances) (closed : c.tripped = false) : c.round s = c.pause s := by
  simp [round, closed]

theorem round_tripped (s : Circumstances) (tripped : c.tripped = true) :
    c.round s =
      if c.settings.connection.breakerResetTimeout = 0 then c.closeBreaker.pause s
      else ⟨{ c with stage := .cooling }, [.wait c.settings.connection.breakerResetTimeout]⟩ := by
  simp [round, tripped]

end Connection
end SessionFleet
