import SessionFleet.Connection.Step
/- All that a step of a connection can do, said once: for each stimulus that it reacts to, when it
   does and exactly what comes of it. -/
namespace SessionFleet

/-- What is done on behalf of an effect of the session. -/
def Effect.deeds (s : Circumstances) : Effect → List Deed
  | .identify => [.identified]
  | .resume _ _ => [.resumed]
  | .heartbeat _ => [.beat]
  | .reconnect _ _ => []
  | .deliver e => [.event e, if s.survives e then .delivered else .failed]
  | .latency time => [.latency time]
  | .disrupted why => [.disrupted why]

/-- The order that an effect comes to. -/
def Effect.order (settings : GatewaySettings) (shard : Shard) : Effect → Option Order
  | .identify => some (.send (.identify settings.token settings.intents shard))
  | .resume id sequence => some (.send (.resume settings.token id sequence))
  | .heartbeat sequence => some (.send (.heartbeat sequence))
  | .reconnect code delay => some (.reconnect code delay)
  | .deliver _ | .latency _ | .disrupted _ => none

namespace Connection

variable {s : Circumstances} {c : Connection} {i : Stimulus}

/- What the session asks for is queued or done.  Apart from the orders that wait, only the stage can
   change by it, and that only to the worst. -/

theorem carryOut_eq (s : Circumstances) (e : Effect) (c : Connection) :
    ∃ outbox stage, outbox = c.outbox ++ (e.order c.settings c.session.shard).toList ∧
      (stage = c.stage ∨ stage = .stopped .crashed) ∧
      c.carryOut s e = ⟨{ c with outbox, stage }, e.deeds s⟩ := by
  cases e with
  | deliver event =>
    refine ⟨c.outbox, (c.deliver s event).connection.stage, by simp [Effect.order], ?_, ?_⟩
    · unfold deliver
      split
      · exact Or.inl rfl
      · split
        · exact Or.inr rfl
        · exact Or.inl rfl
    · cases survives : s.survives event with
      | true => simp [carryOut, deliver, Effect.deeds, survives]
      | false => cases low : c.settings.connection.lowLatency <;>
          simp [carryOut, deliver, Effect.deeds, survives, low]
  | identify | resume | heartbeat | reconnect => exact ⟨_, c.stage, rfl, Or.inl rfl, rfl⟩
  | latency | disrupted => exact ⟨c.outbox, c.stage, by simp [Effect.order], Or.inl rfl, rfl⟩

theorem carryOutAll_eq (s : Circumstances) (effects : List Effect) (c : Connection) :
    ∃ outbox stage,
      outbox = c.outbox ++ effects.filterMap (Effect.order c.settings c.session.shard) ∧
      (stage = c.stage ∨ stage = .stopped .crashed) ∧
      carryOutAll s effects c = ⟨{ c with outbox, stage }, effects.flatMap (Effect.deeds s)⟩ := by
  induction effects generalizing c with
  | nil => exact ⟨c.outbox, c.stage, by simp, Or.inl rfl, rfl⟩
  | cons e rest ih =>
    obtain ⟨outbox, stage, queued, first, one⟩ := carryOut_eq s e c
    obtain ⟨outbox', stage', queued', later, others⟩ := ih { c with outbox, stage }
    refine ⟨outbox', stage', ?_, ?_, ?_⟩
    · rw [queued', queued, List.append_assoc]
      cases order : e.order c.settings c.session.shard <;> simp [order]
    · rcases later with same | crashed
      · rw [same]
        exact first
      · exact Or.inr crashed
    · simp [carryOutAll, Advance.also, one, others]

/-- What is told of a phase, if it is another one than was told last. -/
def news (c : Connection) (p : Phase) : List Deed := if p = c.reported then [] else [.phase p]

theorem report_online (stage : c.stage = .online) :
    c.report = ⟨{ c with reported := c.session.phase }, c.news c.session.phase⟩ := by
  by_cases same : c.session.phase = c.reported
  · simp [report, news, same]
  · simp [report, news, same, stage]

theorem report_offline (offline : c.stage ≠ .online) : c.report = ⟨c, []⟩ := by
  simp [report, offline]

theorem report_eq (c : Connection) : ∃ reported said, (∀ d ∈ said, ∃ p, d = .phase p) ∧
    c.report = ⟨{ c with reported }, said⟩ := by
  unfold report
  split
  · exact ⟨_, _, by simp, rfl⟩
  · exact ⟨c.reported, [], by simp, rfl⟩

theorem converse_eq (s : Circumstances) (j : SessionInput) (c : Connection) :
    let t := c.session.step true s.moment j
    ∃ outbox stage reported said,
      outbox = c.outbox ++ t.effects.filterMap (Effect.order c.settings t.session.shard) ∧
      (stage = c.stage ∨ stage = .stopped .crashed) ∧ (∀ d ∈ said, ∃ p, d = .phase p) ∧
      c.converse s j = ⟨{ c with session := t.session, outbox, stage, reported },
        t.effects.flatMap (Effect.deeds s) ++ said⟩ := by
  intro t
  obtain ⟨outbox, stage, queued, stays, done⟩ :=
    carryOutAll_eq s t.effects { c with session := t.session }
  obtain ⟨reported, said, phases, told⟩ :=
    report_eq { c with session := t.session, outbox, stage }
  refine ⟨outbox, stage, reported, said, queued, stays, phases, ?_⟩
  simp only [converse, Advance.also]
  rw [done, told]

/-- A step of the session whose effects the connection survives ends with a report.  After a crash
    nothing is told any more. -/
theorem converse_cases (s : Circumstances) (j : SessionInput) (stage : c.stage = .online) :
    let t := c.session.step true s.moment j
    ∃ outbox,
      c.converse s j =
          ⟨{ c with session := t.session, outbox, stage := .stopped .crashed },
            t.effects.flatMap (Effect.deeds s)⟩ ∨
        c.converse s j =
          ⟨{ c with session := t.session, outbox, reported := t.session.phase },
            t.effects.flatMap (Effect.deeds s) ++ c.news t.session.phase⟩ := by
  intro t
  obtain ⟨outbox, stage', _, stays, done⟩ := carryOutAll_eq s t.effects { c with session := t.session }
  refine ⟨outbox, ?_⟩
  simp only [converse, Advance.also]
  rw [done]
  rcases stays with same | crashed
  · right
    rw [report_online (same.trans stage), same]
    rfl
  · left
    rw [report_offline (by simp [crashed]), crashed, List.append_nil]

theorem converse_silent {j : SessionInput} {held : Session} (stage : c.stage = .online)
    (silent : c.session.step true s.moment j = Session.silent held) :
    c.converse s j = ⟨{ c with session := held, reported := held.phase }, c.news held.phase⟩ := by
  simp only [converse, silent, Session.silent, carryOutAll, Advance.also, List.nil_append]
  exact report_online (c := { c with session := held }) stage

/- The way to the next attempt. -/

inductive Heading (held : Session) : Stage → Deed → Prop where
  | cools (delay : Span) : Heading held .cooling (.wait delay)
  | pauses (delay : Span) : Heading held .pausing (.wait delay)
  | queues (fresh : held.hasSession = false) : Heading held .queueing .askTurn
  | dials (resumes : held.hasSession = true) : Heading held .dialing .dial

/-- On the way the attempt is counted at most; of the connection only what is waited for is touched.
    The breaker is open behind it only if it is waited out there, or was open before. -/
inductive WayOn (c : Connection) : Advance → Prop where
  | mk (lead : List Deed) (counts : ∀ d ∈ lead, ∃ n, d = .retried n) (requested : Option Span)
      (failures : Nat) (first tripped : Bool) {stage : Stage} {last : Deed}
      (heading : Heading c.session stage last)
      (breaker : tripped = true → stage = .cooling ∨ c.tripped = true) :
      WayOn c ⟨{ c with stage, requested, failures, first, tripped }, lead ++ [last]⟩

/-- What the way itself sets does not depend on what it was before. -/
theorem WayOn.of_reset {requested : Option Span} {failures : Nat} {first : Bool} {a : Advance}
    (way : WayOn { c with requested, failures, first } a) : WayOn c a := by
  cases way with
  | mk lead counts requested failures first tripped heading breaker =>
    exact .mk lead counts requested failures first tripped heading breaker

theorem approach_way (c : Connection) : WayOn c c.approach := by
  unfold approach
  cases holds : c.session.hasSession with
  | true => exact .mk [] (by simp) c.requested c.failures c.first c.tripped (.dials holds) Or.inr
  | false => exact .mk [] (by simp) c.requested c.failures c.first c.tripped (.queues holds) Or.inr

theorem pause_way (s : Circumstances) (c : Connection) : WayOn c (c.pause s) := by
  unfold pause
  by_cases now : c.delay s = 0
  · simp only [now, ↓reduceIte]
    exact (approach_way { c with requested := none }).of_reset
  · simp only [now, ↓reduceIte]
    exact .mk [] (by simp) none c.failures c.first c.tripped (.pauses _) Or.inr

theorem closeBreaker_way (s : Circumstances) (c : Connection) :
    WayOn { c with tripped := false } (c.closeBreaker.pause s) :=
  (pause_way s c.closeBreaker).of_reset

theorem round_way (s : Circumstances) (c : Connection) :
    WayOn { c with tripped := false } (c.round s) := by
  unfold round
  cases tripped : c.tripped with
  | false =>
    have same : { c with tripped := false } = c := by rw [← tripped]
    rw [same]
    exact pause_way s c
  | true =>
    simp only [Bool.not_true, Bool.false_eq_true, ↓reduceIte]
    split
    · exact closeBreaker_way s c
    · exact .mk [] (by simp) c.requested c.failures c.first true (.cools _) fun _ => Or.inl rfl

theorem WayOn.counted {a : Advance} (way : WayOn c a) (n : Nat) :
    WayOn c ⟨a.connection, .retried n :: a.deeds⟩ := by
  cases way with
  | mk lead counts requested failures first tripped heading breaker =>
    refine .mk (.retried n :: lead) ?_ requested failures first tripped heading breaker
    rw [List.forall_mem_cons]
    exact ⟨⟨n, rfl⟩, counts⟩

theorem again_way (s : Circumstances) (c : Connection) : WayOn { c with tripped := false } (c.again s) :=
  (round_way s { c with first := false }).of_reset.counted c.attempt

/-- All that a failed attempt can lead to, and when. -/
inductive Fails (s : Circumstances) (e : FleetError) (c : Connection) : Advance → Prop where
  | trips {next : Advance} (retries : s.retries = true)
      (enough : c.settings.connection.breakerThreshold ≤ c.failures + 1)
      (onward : next = Connection.round s { c with failures := c.failures + 1, tripped := true }) :
      Fails s e c ⟨next.connection,
        .failed :: .tripped :: .error (.breakerOpen (c.failures + 1)) :: next.deeds⟩
  | declines (refuses : s.retries = false) (why : FleetError) :
      Fails s e c ⟨{ c with
        failures := c.failures + 1
        tripped := false
        stage := .stopped (.gaveUp why) }, [.failed, .tripped, .error why]⟩
  | refuses (refuses : s.retries = false) :
      Fails s e c ⟨{ c with
        failures := c.failures + 1
        stage := .stopped (.gaveUp e) }, [.failed, .error e]⟩
  | exhausts (retries : s.retries = true)
      (within : c.failures + 1 < c.settings.connection.breakerThreshold)
      (last : c.settings.connection.maxConnectAttempts ≤ c.attempt + 1) :
      Fails s e c ⟨{ c with
        failures := c.failures + 1
        attempt := c.attempt + 1
        stage := .stopped (.gaveUp (.connectionFailed (c.attempt + 1) e.message)) }, [.failed, .error e]⟩
  | counts {next : Advance} (retries : s.retries = true)
      (within : c.failures + 1 < c.settings.connection.breakerThreshold)
      (more : c.attempt + 1 < c.settings.connection.maxConnectAttempts)
      (onward : next =
        Connection.again s { c with failures := c.failures + 1, attempt := c.attempt + 1 }) :
      Fails s e c ⟨next.connection, .failed :: .error e :: next.deeds⟩

theorem fail_fails (s : Circumstances) (e : FleetError) (c : Connection) : Fails s e c (c.fail s e) := by
  unfold fail
  simp only
  by_cases breaks : c.settings.connection.breakerThreshold ≤ c.failures + 1
  · rw [if_pos breaks]
    cases retries : s.retries with
    | true => exact .trips retries breaks rfl
    | false => exact .declines retries _
  · have within := Nat.not_le.mp breaks
    rw [if_neg breaks]
    cases retries : s.retries with
    | false => exact .refuses retries
    | true =>
      simp only [Bool.not_true, Bool.false_eq_true, ↓reduceIte]
      by_cases last : c.settings.connection.maxConnectAttempts ≤ c.attempt + 1
      · simp only [Advance.also, last, ↓reduceIte]
        exact .exhausts retries within last
      · simp only [Advance.also, last, ↓reduceIte]
        exact .counts retries within (Nat.not_le.mp last) rfl

/-- What a failed attempt comes to, up to the way on.  If the handler wants to go on, the failure either
    trips the breaker, or it is one too many, or it is counted. -/
inductive Failing (s : Circumstances) (e : FleetError) (c : Connection) : Advance → Prop where
  | absorbed {rest : Advance} (retries : s.retries = true) (why : FleetError)
      (way : WayOn { c with tripped := false } rest) :
      Failing s e c ⟨rest.connection, .failed :: .tripped :: .error why :: rest.deeds⟩
  | broken (refuses : s.retries = false) (why : FleetError) :
      Failing s e c ⟨{ c with
        failures := c.failures + 1
        tripped := false
        stage := .stopped (.gaveUp why) }, [.failed, .tripped, .error why]⟩
  | refused (refuses : s.retries = false) :
      Failing s e c ⟨{ c with
        failures := c.failures + 1
        stage := .stopped (.gaveUp e) }, [.failed, .error e]⟩
  | exhausted (retries : s.retries = true)
      (most : c.settings.connection.maxConnectAttempts ≤ c.attempt + 1) :
      Failing s e c ⟨{ c with
        failures := c.failures + 1
        attempt := c.attempt + 1
        stage := .stopped (.gaveUp (.connectionFailed (c.attempt + 1) e.message)) }, [.failed, .error e]⟩
  | counted {rest : Advance} (retries : s.retries = true)
      (more : c.attempt + 1 < c.settings.connection.maxConnectAttempts)
      (way : WayOn { c with attempt := c.attempt + 1, tripped := false } rest) :
      Failing s e c ⟨rest.connection, .failed :: .error e :: rest.deeds⟩

theorem fail_failing (s : Circumstances) (e : FleetError) (c : Connection) :
    Failing s e c (c.fail s e) := by
  have fails := fail_fails s e c
  generalize c.fail s e = a at fails ⊢
  cases fails with
  | @trips next retries _ onward =>
    have way : WayOn { c with tripped := false } next :=
      onward ▸ (round_way s { c with failures := c.failures + 1, tripped := true }).of_reset
    exact .absorbed retries _ way
  | declines refuses why => exact .broken refuses why
  | refuses refuses => exact .refused refuses
  | exhausts retries _ last => exact .exhausted retries last
  | @counts next retries _ more onward =>
    have way : WayOn { c with attempt := c.attempt + 1, tripped := false } next :=
      onward ▸ (again_way s { c with failures := c.failures + 1, attempt := c.attempt + 1 }).of_reset
    exact .counted retries more way

/-- How it goes on where a socket has been left. -/
def onward (s : Circumstances) (why : Parting) (c : Connection) : Advance :=
  match why with
  | .told => c.stop .told
  | .lost => c.restartCounts.again s
  | .reconnect d => { c.restartCounts with requested := some d }.again s
  | .failed e => c.fail s e

theorem part_eq (s : Circumstances) (why : Parting) (c : Connection) :
    let left := c.converse s .closed
    c.part s why = ⟨(left.connection.onward s why).connection,
      left.deeds ++ .closed :: (left.connection.onward s why).deeds⟩ := by
  cases why <;> rfl

/- The reactions. -/

/-- The ways of an open socket to end: on which stimulus, for which reason, and by which code if it is
    this side that closes it. -/
inductive SocketEnd (s : Circumstances) (c : Connection) :
    Stimulus → Parting → Option CloseCode → Prop where
  | closed : SocketEnd s c (.heard .close) .lost none
  | ended : SocketEnd s c (.heard .ended) .lost none
  | broken (why : String) : SocketEnd s c (.heard (.broken why)) (.failed (.webSocket why)) none
  /-- a ping that cannot be answered -/
  | unanswered (data : List UInt8) {why : String} (fault : s.writeFault = some why) :
      SocketEnd s c (.heard (.ping data)) (.failed (.webSocket why)) none
  /-- a packet of the session that cannot be written -/
  | unflushed {p : Packet} {rest : List Order} {why : String} (next : c.outbox = .send p :: rest)
      (fault : s.writeFault = some why) : SocketEnd s c .flush (.failed (.webSocket why)) none
  /-- a packet of the owner that cannot be written -/
  | unsent (p : Packet) {why : String} (fault : s.writeFault = some why) :
      SocketEnd s c (.command (.send p)) (.failed (.webSocket why)) none
  /-- the session gives the socket up -/
  | givenUp {code : CloseCode} {delay : Span} {rest : List Order}
      (next : c.outbox = .reconnect code delay :: rest) :
      SocketEnd s c .flush (.reconnect delay) (some code)
  | renewed : SocketEnd s c (.command .reconnect) (.reconnect 0) (some .resumable)
  /-- the owner wants the connection to stop, or is gone -/
  | dismissed : SocketEnd s c (.command .close) .told (some .normal)

/-- The last that is written on a socket that this side closes. -/
def farewell (s : Circumstances) : Option CloseCode → List Deed
  | none => []
  | some code => if s.writeFault.isSome then [] else [.write (.close code)]

theorem farewell_writes (s : Circumstances) (code : Option CloseCode) :
    ∀ d ∈ farewell s code, ∃ f, d = .write f := by
  cases code with
  | none => simp [farewell]
  | some code =>
    simp only [farewell]
    split <;> simp

inductive Reaction (s : Circumstances) (c : Connection) : Stimulus → Advance → Prop where
  | ignores {i : Stimulus} (untold : c.stage = .online → ∀ t, i ≠ .heard (.text t))
      (untimed : c.stage = .online → ∀ g, i ≠ .tick g)
      (unturned : c.stage = .queueing → i ≠ .turn) : Reaction s c i ⟨c, []⟩
  | counts {t : String} {fault : Fault} (stage : c.stage = .online)
      (unread : Packet.ofText t = .error fault) : Reaction s c (.heard (.text t)) ⟨c, [.received]⟩
  | hears {t : String} {p : Packet} (stage : c.stage = .online) (read : Packet.ofText t = .ok p) :
      Reaction s c (.heard (.text t)) (Advance.also ⟨c, [.received]⟩ fun c => c.converse s (.frame p))
  | ticks (g : Nat) (stage : c.stage = .online) : Reaction s c (.tick g) (c.converse s (.tick g))
  | pongs (data : List UInt8) (stage : c.stage = .online) (writable : s.writeFault = none) :
      Reaction s c (.heard (.ping data)) ⟨c, [.write (.pong data)]⟩
  | flushes {p : Packet} {rest : List Order} (stage : c.stage = .online)
      (next : c.outbox = .send p :: rest) (writable : s.writeFault = none) :
      Reaction s c .flush ⟨{ c with outbox := rest }, [.write (.packet p), .sent]⟩
  | sends (p : Packet) (stage : c.stage = .online) (writable : s.writeFault = none) :
      Reaction s c (.command (.send p)) ⟨c, [.write (.packet p), .sent]⟩
  | parts {i : Stimulus} (why : Parting) (code : Option CloseCode) (outbox : List Order)
      (stage : c.stage = .online) (ends : SocketEnd s c i why code) :
      Reaction s c i (Advance.also ⟨{ c with outbox }, farewell s code⟩ fun c => c.part s why)
  | enters (stage : c.stage = .dialing) : Reaction s c (.dialed .opened) (c.enter s)
  | fails (d : Dial) (e : FleetError) (stage : c.stage = .dialing) :
      Reaction s c (.dialed d) (c.fail s e)
  | retries (stage : c.stage = .cooling) : Reaction s c .timeUp (c.closeBreaker.pause s)
  | resumes (stage : c.stage = .pausing) : Reaction s c .timeUp c.approach
  | dials (stage : c.stage = .queueing) : Reaction s c .turn c.dial
  | obeys (stage : c.stage = .cooling ∨ c.stage = .pausing ∨ c.stage = .queueing) :
      Reaction s c (.command .close) ⟨{ c with stage := .stopped .told }, [.leave]⟩

theorem step_heard (stage : c.stage = .online) (m : Incoming) : c.step s (.heard m) = c.hear s m := by
  simp only [step, stage]

theorem step_flush (stage : c.stage = .online) : c.step s .flush = c.flush s := by
  simp only [step, stage]

theorem step_command (stage : c.stage = .online) (k : Command) :
    c.step s (.command k) = c.obey s k := by
  simp only [step, stage]

theorem hear_reaction (stage : c.stage = .online) (m : Incoming) :
    Reaction s c (.heard m) (c.hear s m) := by
  cases m with
  | text t =>
    cases read : Packet.ofText t with
    | ok p =>
      simp only [hear, read]
      exact .hears stage read
    | error fault =>
      simp only [hear, read]
      exact .counts stage read
  | ping data =>
    cases fault : s.writeFault with
    | none =>
      simp only [hear, fault]
      exact .pongs data stage fault
    | some why =>
      simp only [hear, fault]
      exact .parts (.failed (.webSocket why)) none c.outbox stage (.unanswered data fault)
  | binary | pong => exact .ignores (by simp) (by simp) (by simp)
  | close => exact .parts .lost none c.outbox stage .closed
  | ended => exact .parts .lost none c.outbox stage .ended
  | broken why => exact .parts (.failed (.webSocket why)) none c.outbox stage (.broken why)

theorem flush_reaction (stage : c.stage = .online) : Reaction s c .flush (c.flush s) := by
  cases next : c.outbox with
  | nil =>
    simp only [flush, next]
    exact .ignores (by simp) (by simp) (by simp)
  | cons order rest =>
    cases order with
    | send p =>
      cases fault : s.writeFault with
      | none =>
        simp only [flush, next, writePacket, fault]
        exact .flushes stage next fault
      | some why =>
        simp only [flush, next, writePacket, fault]
        exact .parts (.failed (.webSocket why)) none rest stage (.unflushed next fault)
    | reconnect code delay =>
      simp only [flush, next]
      exact .parts (.reconnect delay) (some code) rest stage (.givenUp next)

theorem obey_reaction (stage : c.stage = .online) (k : Command) :
    Reaction s c (.command k) (c.obey s k) := by
  cases k with
  | send p =>
    cases fault : s.writeFault with
    | none =>
      simp only [obey, writePacket, fault]
      exact .sends p stage fault
    | some why =>
      simp only [obey, writePacket, fault]
      exact .parts (.failed (.webSocket why)) none c.outbox stage (.unsent p fault)
  | reconnect => exact .parts (.reconnect 0) (some .resumable) c.outbox stage .renewed
  | close => exact .parts .told (some .normal) c.outbox stage .dismissed

theorem dialed_reaction (stage : c.stage = .dialing) (d : Dial) :
    Reaction s c (.dialed d) (c.dialed s d) := by
  unfold dialed
  split
  · exact .fails d _ stage
  · cases d with
    | opened => exact .enters stage
    | failed e => exact .fails _ e stage
    | timedOut => exact .fails _ _ stage

/-- Where there is no socket, whatever does not concern the stage is passed over. -/
theorem ignores_offline (offline : c.stage ≠ .online) (unturned : c.stage = .queueing → i ≠ .turn) :
    Reaction s c i ⟨c, []⟩ :=
  .ignores (fun online => absurd online offline) (fun online => absurd online offline) unturned

theorem obeyIdle_reaction (stage : c.stage = .cooling ∨ c.stage = .pausing ∨ c.stage = .queueing)
    (k : Command) : Reaction s c (.command k) (c.obeyIdle k) := by
  cases k with
  | send | reconnect =>
    refine ignores_offline ?_ (by simp)
    rcases stage with stage | stage | stage <;> simp [stage]
  | close => exact .obeys stage

theorem online_reaction (stage : c.stage = .online) (i : Stimulus) :
    Reaction s c i (c.step s i) := by
  cases i with
  | heard m =>
    rw [step_heard stage]
    exact hear_reaction stage m
  | flush =>
    rw [step_flush stage]
    exact flush_reaction stage
  | tick g =>
    simp only [step, stage]
    exact .ticks g stage
  | command k =>
    rw [step_command stage]
    exact obey_reaction stage k
  | timeUp | turn | dialed _ =>
    simp only [step, stage]
    exact .ignores (by simp) (by simp) (by simp [stage])

theorem step_stopped {how : Ending} (stage : c.stage = .stopped how) (i : Stimulus) :
    c.step s i = ⟨c, []⟩ := by
  cases i <;> simp only [step, stage]

theorem step_reaction (s : Circumstances) (c : Connection) (i : Stimulus) :
    Reaction s c i (c.step s i) := by
  cases stage : c.stage with
  | online => exact online_reaction stage i
  | dialing =>
    cases i with
    | dialed d =>
      simp only [step, stage]
      exact dialed_reaction stage d
    | _ =>
      simp only [step, stage]
      exact ignores_offline (by simp [stage]) (by simp [stage])
  | queueing =>
    cases i with
    | turn =>
      simp only [step, stage]
      exact .dials stage
    | command k =>
      simp only [step, stage]
      exact obeyIdle_reaction (by simp [stage]) k
    | _ =>
      simp only [step, stage]
      exact ignores_offline (by simp [stage]) (by simp)
  | cooling =>
    cases i with
    | timeUp =>
      simp only [step, stage]
      exact .retries stage
    | command k =>
      simp only [step, stage]
      exact obeyIdle_reaction (by simp [stage]) k
    | _ =>
      simp only [step, stage]
      exact ignores_offline (by simp [stage]) (by simp [stage])
  | pausing =>
    cases i with
    | timeUp =>
      simp only [step, stage]
      exact .resumes stage
    | command k =>
      simp only [step, stage]
      exact obeyIdle_reaction (by simp [stage]) k
    | _ =>
      simp only [step, stage]
      exact ignores_offline (by simp [stage]) (by simp [stage])
  | stopped how =>
    rw [step_stopped stage]
    exact ignores_offline (by simp [stage]) (by simp [stage])

theorem SocketEnd.parts {why : Parting} {code : Option CloseCode} (ends : SocketEnd s c i why code)
    (stage : c.stage = .online) :
    ∃ outbox, c.step s i =
      Advance.also ⟨{ c with outbox }, farewell s code⟩ fun c => c.part s why := by
  cases ends with
  | closed | ended | broken =>
    rw [step_heard stage]
    exact ⟨c.outbox, rfl⟩
  | unanswered data fault =>
    rw [step_heard stage]
    simp only [hear, fault]
    exact ⟨c.outbox, rfl⟩
  | unsent p fault =>
    rw [step_command stage]
    simp only [obey, writePacket, fault]
    exact ⟨c.outbox, rfl⟩
  | renewed | dismissed =>
    rw [step_command stage]
    exact ⟨c.outbox, rfl⟩
  | @unflushed p rest why next fault =>
    rw [step_flush stage]
    simp only [flush, next, writePacket, fault]
    exact ⟨rest, rfl⟩
  | @givenUp code delay rest next =>
    rw [step_flush stage]
    simp only [flush, next]
    exact ⟨rest, rfl⟩

end Connection
end SessionFleet
