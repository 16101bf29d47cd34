import SessionFleet.Proofs.Connection.ConnectionRuns
/- The milestones of a connection: sockets that open and close, frames that are written, and failures.
   Each step is one of a few turns, of which it is known what they do to the counts, to the breaker and
   to the orders that wait, and which milestones they pass. -/
namespace SessionFleet

def Deed.milestone : Deed → Bool
  | .opened _ | .closed | .write _ | .tripped | .error _ => true
  | _ => false

/-- The frames that are written at once on what happens on the socket or on a command, not on behalf of
    the session. -/
inductive Stimulus.Prompts : Stimulus → Frame → Prop where
  | pong (data : List UInt8) : Prompts (.heard (.ping data)) (.pong data)
  | packet (p : Packet) : Prompts (.command (.send p)) (.packet p)
  | reconnect : Prompts (.command .reconnect) (.close .resumable)
  | close : Prompts (.command .close) (.close .normal)

namespace Connection

variable {s : Circumstances} {c : Connection} {i : Stimulus}

/-- Once the breaker has been waited out, it is closed. -/
def BreakerClosed (c : Connection) : Prop :=
  c.tripped = true → c.stage = .cooling ∨ ∃ how, c.stage = .stopped how

theorem BreakerClosed.untripped (closed : c.BreakerClosed) (waited : c.stage ≠ .cooling)
    (going : ∀ how, c.stage ≠ .stopped how) : c.tripped = false := by
  cases tripped : c.tripped with
  | false => rfl
  | true =>
    rcases closed tripped with cooling | ⟨how, stopped⟩
    · exact absurd cooling waited
    · exact absurd stopped (going how)

/-- The way to the next attempt. -/
structure Continues (c : Connection) (a : Advance) : Prop where
  settings : a.connection.settings = c.settings
  attempt : a.connection.attempt = c.attempt
  breaker : a.connection.BreakerClosed
  stage : a.connection.stage = .cooling ∨ a.connection.stage = .pausing ∨
    a.connection.stage = .queueing ∨ a.connection.stage = .dialing
  quiet : ∀ d ∈ a.deeds, d.milestone = false

theorem breakerClosed_of_untripped (untripped : c.tripped = false) : c.BreakerClosed := by
  intro tripped
  rw [untripped] at tripped
  cases tripped

theorem WayOn.continues {a : Advance} (way : WayOn c a) (untripped : c.tripped = false) :
    Continues c a := by
  cases way with
  | mk lead counts requested failures first tripped heading breaker =>
    refine ⟨rfl, rfl, ?_, ?_, ?_⟩
    · intro again
      rcases breaker again with cools | before
      · exact Or.inl cools
      · rw [untripped] at before
        cases before
    · cases heading <;> simp
    · intro d member
      rcases List.mem_append.mp member with counted | last
      · obtain ⟨n, retried⟩ := counts d counted
        rw [retried]
        rfl
      · rw [List.mem_singleton.mp last]
        cases heading <;> rfl

theorem WayOn.continues_closed {a : Advance} (way : WayOn { c with tripped := false } a) :
    Continues c a := by
  have onward := way.continues rfl
  exact ⟨onward.settings, onward.attempt, onward.breaker, onward.stage, onward.quiet⟩

theorem again_continues (s : Circumstances) (c : Connection) : Continues c (c.again s) :=
  (again_way s c).continues_closed

theorem Continues.going {a : Advance} (onward : Continues c a) (how : Ending) :
    a.connection.stage ≠ .stopped how := by
  intro stopped
  rcases onward.stage with stage | stage | stage | stage <;> rw [stage] at stopped <;> cases stopped

/-- What a failed attempt comes to.  Only in the last two cases does it count. -/
inductive Failure (s : Circumstances) (e : FleetError) (c : Connection) : Advance → Prop where
  | absorbed {rest : Advance} (retries : s.retries = true) (onward : Continues c rest) (why : FleetError) :
      Failure s e c ⟨rest.connection, .failed :: .tripped :: .error why :: rest.deeds⟩
  | refused {a : Advance} (refuses : s.retries = false) (settings : a.connection.settings = c.settings)
      (stage : ∃ why, a.connection.stage = .stopped (.gaveUp why))
      (deeds : a.deeds = [.failed, .error e] ∨ ∃ why, a.deeds = [.failed, .tripped, .error why]) :
      Failure s e c a
  | exhausted (retries : s.retries = true)
      (most : c.settings.connection.maxConnectAttempts ≤ c.attempt + 1) :
      Failure s e c ⟨{ c with
        failures := c.failures + 1
        attempt := c.attempt + 1
        stage := .stopped (.gaveUp (.connectionFailed (c.attempt + 1) e.message)) }, [.failed, .error e]⟩
  | counted {rest : Advance} (retries : s.retries = true)
      (more : c.attempt + 1 < c.settings.connection.maxConnectAttempts)
      (onward : Continues { c with attempt := c.attempt + 1 } rest) :
      Failure s e c ⟨rest.connection, .failed :: .error e :: rest.deeds⟩

theorem fail_failure (s : Circumstances) (e : FleetError) (c : Connection) :
    Failure s e c (c.fail s e) := by
  have failing := fail_failing s e c
  generalize c.fail s e = a at failing ⊢
  cases failing with
  | absorbed retries why way => exact .absorbed retries way.continues_closed why
  | broken refuses why => exact .refused refuses rfl ⟨_, rfl⟩ (Or.inr ⟨why, rfl⟩)
  | refused refuses => exact .refused refuses rfl ⟨_, rfl⟩ (Or.inl rfl)
  | exhausted retries most => exact .exhausted retries most
  | counted retries more way =>
    have onward : Continues { c with attempt := c.attempt + 1 } _ := way.continues_closed
    exact .counted retries more onward

/-- What a session asks for is carried out: its orders join those that wait, and nothing of it is a
    milestone. -/
structure Spoken (effects : List Effect) (c : Connection) (a : Advance) : Prop where
  settings : a.connection.settings = c.settings
  attempt : a.connection.attempt = c.attempt
  tripped : a.connection.tripped = c.tripped
  session : a.connection.session = c.session
  outbox : a.connection.outbox = c.outbox ++ effects.filterMap (Effect.order c.settings c.session.shard)
  quiet : ∀ d ∈ a.deeds, d.milestone = false

theorem effect_quiet (s : Circumstances) (e : Effect) : ∀ d ∈ e.deeds s, d.milestone = false := by
  cases e with
  | deliver event =>
    simp only [Effect.deeds]
    split <;> simp [Deed.milestone]
  | identify | resume | heartbeat | reconnect | latency | disrupted =>
    simp [Effect.deeds, Deed.milestone]

theorem converse_spoken (s : Circumstances) (j : SessionInput) (c : Connection) :
    let t := c.session.step true s.moment j
    Spoken t.effects { c with session := t.session } (c.converse s j) := by
  intro t
  obtain ⟨outbox, stage, reported, said, queued, _, phases, done⟩ := converse_eq s j c
  rw [done]
  refine ⟨rfl, rfl, rfl, rfl, queued, ?_⟩
  intro d member
  rcases List.mem_append.mp member with acted | told
  · obtain ⟨e, _, acts⟩ := List.mem_flatMap.mp acted
    exact effect_quiet s e d acts
  · obtain ⟨p, phase⟩ := phases d told
    rw [phase]
    rfl

/-- The orders that an input makes the session ask for. -/
def ordersOn (s : Circumstances) (c : Connection) (j : SessionInput) : List Order :=
  (c.session.step true s.moment j).effects.filterMap (Effect.order c.settings c.session.shard)

theorem converse_outbox (s : Circumstances) (j : SessionInput) (c : Connection) :
    (c.converse s j).connection.outbox = c.outbox ++ c.ordersOn s j := by
  have queued := (converse_spoken s j c).outbox
  simp only at queued
  rwa [Session.step_shard] at queued

theorem Failure.settings {e : FleetError} {a : Advance} (failure : Failure s e c a) :
    a.connection.settings = c.settings := by
  cases failure with
  | absorbed _ onward | counted _ _ onward => exact onward.settings
  | refused _ settings => exact settings
  | exhausted => rfl

theorem Failure.breakerClosed {e : FleetError} {a : Advance} (failure : Failure s e c a) :
    a.connection.BreakerClosed := by
  cases failure with
  | absorbed _ onward | counted _ _ onward => exact onward.breaker
  | refused _ _ stage =>
    obtain ⟨why, stopped⟩ := stage
    exact fun _ => Or.inr ⟨_, stopped⟩
  | exhausted => exact fun _ => Or.inr ⟨_, rfl⟩

theorem Continues.offline {a : Advance} (onward : Continues c a) : a.connection.stage ≠ .online := by
  intro online
  rcases onward.stage with stage | stage | stage | stage <;> rw [stage] at online <;> cases online

theorem Failure.offline {e : FleetError} {a : Advance} (failure : Failure s e c a) :
    a.connection.stage ≠ .online := by
  cases failure with
  | absorbed _ onward | counted _ _ onward => exact onward.offline
  | refused _ _ stage =>
    obtain ⟨why, stopped⟩ := stage
    simp [stopped]
  | exhausted => simp

/-- Deeds that have to do with failures only, not with any socket. -/
def Unsocketed (deeds : List Deed) : Prop :=
  ∀ d ∈ deeds, d.milestone = true → d = .tripped ∨ ∃ why, d = .error why

theorem unsocketed_of_quiet {deeds : List Deed} (quiet : ∀ d ∈ deeds, d.milestone = false) :
    Unsocketed deeds := by
  intro d member milestone
  rw [quiet d member] at milestone
  cases milestone

theorem Unsocketed.cons {d : Deed} {deeds : List Deed} (rest : Unsocketed deeds)
    (first : d.milestone = true → d = .tripped ∨ ∃ why, d = .error why) : Unsocketed (d :: deeds) := by
  intro d' member
  rcases List.mem_cons.mp member with same | later
  · rw [same]
    exact first
  · exact rest d' later

theorem Failure.unsocketed {e : FleetError} {a : Advance} (failure : Failure s e c a) :
    Unsocketed a.deeds := by
  have failed {rest : List Deed} (why : FleetError) (quiet : Unsocketed rest) :
      Unsocketed (.failed :: .error why :: rest) :=
    (quiet.cons fun _ => Or.inr ⟨why, rfl⟩).cons (by simp [Deed.milestone])
  have tripped {rest : List Deed} (why : FleetError) (quiet : Unsocketed rest) :
      Unsocketed (.failed :: .tripped :: .error why :: rest) :=
    ((quiet.cons fun _ => Or.inr ⟨why, rfl⟩).cons fun _ => Or.inl rfl).cons (by simp [Deed.milestone])
  have nothing : Unsocketed [] := unsocketed_of_quiet (by simp)
  cases failure with
  | absorbed _ onward why => exact tripped why (unsocketed_of_quiet onward.quiet)
  | refused _ _ _ deeds =>
    rcases deeds with same | ⟨why, same⟩ <;> rw [same]
    · exact failed e nothing
    · exact tripped why nothing
  | exhausted => exact failed e nothing
  | counted _ _ onward => exact failed e (unsocketed_of_quiet onward.quiet)

/-- After a socket, the settings are the same, the breaker is closed or waited out, and nothing more is
    said of sockets until the next one. -/
structure Departs (c : Connection) (a : Advance) : Prop where
  settings : a.connection.settings = c.settings
  breaker : a.connection.BreakerClosed
  offline : a.connection.stage ≠ .online
  unsocketed : Unsocketed a.deeds

theorem onward_departs (s : Circumstances) (why : Parting) (c : Connection) :
    Departs c (c.onward s why) := by
  have again {d : Connection} (same : d.settings = c.settings) : Departs c (d.again s) := by
    have way := again_continues s d
    exact ⟨way.settings.trans same, way.breaker, way.offline, unsocketed_of_quiet way.quiet⟩
  cases why with
  | told => exact ⟨rfl, fun _ => Or.inr ⟨.told, rfl⟩, by simp [onward, stop],
      unsocketed_of_quiet (by simp [onward, stop])⟩
  | lost => exact again rfl
  | reconnect d => exact again rfl
  | failed e =>
    have failure := fail_failure s e c
    exact ⟨failure.settings, failure.breakerClosed, failure.offline, failure.unsocketed⟩

/-- What is said until a socket is closed, and then the way on. -/
theorem part_departs (s : Circumstances) (why : Parting) (c : Connection) :
    ∃ said rest, c.part s why = ⟨rest.connection, said ++ .closed :: rest.deeds⟩ ∧
      (∀ d ∈ said, d.milestone = false) ∧ Departs c rest := by
  have spoken := converse_spoken s .closed c
  have departs := onward_departs s why (c.converse s .closed).connection
  exact ⟨_, _, part_eq s why c, spoken.quiet,
    ⟨departs.settings.trans spoken.settings, departs.breaker, departs.offline, departs.unsocketed⟩⟩

/- The turns that a step can take. -/

/-- What the session has to deal with while a socket is open. -/
def handled (c : Connection) (i : Stimulus) : Option SessionInput :=
  match c.stage, i with
  | .online, .heard (.text t) => (Packet.ofText t).toOption.map .frame
  | .online, .tick g => some (.tick g)
  | _, _ => none

inductive Turnout (s : Circumstances) (c : Connection) (i : Stimulus) : Advance → Prop where
  | stays (outbox : List Order) (deeds : List Deed) (unhandled : c.handled i = none)
      (waiting : i ≠ .flush → outbox = c.outbox)
      (writes : ∀ d ∈ deeds, d.milestone = true → ∃ f, d = .write f ∧ (i = .flush ∨ i.Prompts f)) :
      Turnout s c i ⟨{ c with outbox }, deeds⟩
  | speaks (j : SessionInput) (stage : c.stage = .online) (handled : c.handled i = some j)
      (lead : List Deed) (quiet : ∀ d ∈ lead, d.milestone = false) :
      Turnout s c i (Advance.also ⟨c, lead⟩ fun c => c.converse s j)
  | parts (why : Parting) (stage : c.stage = .online) (unhandled : c.handled i = none)
      (outbox : List Order) (goodbye : List Deed)
      (writes : ∀ d ∈ goodbye, ∃ f, d = .write f ∧ (i = .flush ∨ i.Prompts f)) :
      Turnout s c i (Advance.also ⟨{ c with outbox }, goodbye⟩ fun c => c.part s why)
  | enters (stage : c.stage = .dialing) (unhandled : c.handled i = none) : Turnout s c i (c.enter s)
  | fails (e : FleetError) (stage : c.stage = .dialing) (unhandled : c.handled i = none) :
      Turnout s c i (c.fail s e)
  | waits {a : Advance} (unhandled : c.handled i = none) (offline : c.stage ≠ .online)
      (onward : Continues c a) : Turnout s c i a
  | halts (unhandled : c.handled i = none) (offline : c.stage ≠ .online) :
      Turnout s c i ⟨{ c with stage := .stopped .told }, [.leave]⟩

theorem farewell_prompted {why : Parting} {code : Option CloseCode} (ends : SocketEnd s c i why code) :
    ∀ d ∈ farewell s code, ∃ f, d = .write f ∧ (i = .flush ∨ i.Prompts f) := by
  intro d member
  have closes {last : CloseCode} (member : d ∈ farewell s (some last)) : d = .write (.close last) := by
    simp only [farewell] at member
    split at member
    · cases member
    · exact List.mem_singleton.mp member
  cases ends with
  | closed | ended | broken | unanswered | unflushed | unsent => cases member
  | givenUp => exact ⟨_, closes member, Or.inl rfl⟩
  | renewed => exact ⟨_, closes member, Or.inr .reconnect⟩
  | dismissed => exact ⟨_, closes member, Or.inr .close⟩

theorem Reaction.turnout {a : Advance} (reaction : Reaction s c i a) (closed : c.BreakerClosed) :
    Turnout s c i a := by
  cases reaction with
  | ignores untold untimed =>
    refine .stays c.outbox [] ?_ (fun _ => rfl) (by simp)
    unfold Connection.handled
    split
    · exact absurd rfl (untold ‹_› _)
    · exact absurd rfl (untimed ‹_› _)
    · rfl
  | counts stage read =>
    exact .stays c.outbox [.received] (by simp [Connection.handled, stage, read, Except.toOption])
      (fun _ => rfl) (by simp [Deed.milestone])
  | hears stage read =>
    exact .speaks (.frame _) stage (by simp [Connection.handled, stage, read, Except.toOption])
      [.received] (by simp [Deed.milestone])
  | ticks g stage => exact .speaks (.tick g) stage (by simp [Connection.handled, stage]) [] (by simp)
  | pongs data stage =>
    refine .stays c.outbox _ (by simp [Connection.handled, stage]) (fun _ => rfl) ?_
    intro d member _
    exact ⟨_, List.mem_singleton.mp member, Or.inr (.pong data)⟩
  | flushes stage =>
    refine .stays _ _ (by simp [Connection.handled, stage]) (fun other => absurd rfl other) ?_
    simp [Deed.milestone]
  | sends p stage =>
    refine .stays c.outbox _ (by simp [Connection.handled, stage]) (fun _ => rfl) ?_
    simp [Deed.milestone, Stimulus.Prompts.packet p]
  | parts why code outbox stage ends =>
    refine .parts why stage ?_ outbox _ (farewell_prompted ends)
    cases ends <;> simp [Connection.handled, stage]
  | enters stage => exact .enters stage (by simp [Connection.handled, stage])
  | fails d e stage => exact .fails e stage (by simp [Connection.handled, stage])
  | retries stage =>
    exact .waits (by simp [Connection.handled, stage]) (by simp [stage]) (closeBreaker_way s c).continues_closed
  | resumes stage =>
    have untripped := closed.untripped (by simp [stage]) (by simp [stage])
    exact .waits (by simp [Connection.handled, stage]) (by simp [stage])
      ((approach_way c).continues untripped)
  | dials stage =>
    have untripped := closed.untripped (by simp [stage]) (by simp [stage])
    exact .waits (by simp [Connection.handled, stage]) (by simp [stage])
      ⟨rfl, rfl, breakerClosed_of_untripped untripped, by simp [dial], by simp [dial, Deed.milestone]⟩
  | obeys stage =>
    rcases stage with stage | stage | stage <;>
      exact .halts (by simp [Connection.handled, stage]) (by simp [stage])

theorem step_turnout (s : Circumstances) (closed : c.BreakerClosed) (i : Stimulus) :
    Turnout s c i (c.step s i) := (step_reaction s c i).turnout closed

theorem Turnout.settings {a : Advance} (turnout : Turnout s c i a) :
    a.connection.settings = c.settings := by
  cases turnout with
  | stays | halts => rfl
  | speaks j => exact (converse_spoken s j c).settings
  | parts why _ _ outbox =>
    obtain ⟨said, rest, same, _, departs⟩ := part_departs s why { c with outbox }
    simp only [Advance.also, same]
    exact departs.settings
  | enters => exact (converse_spoken s .opened { c with stage := .online, outbox := [] }).settings
  | fails e => exact (fail_failure s e c).settings
  | waits _ _ onward => exact onward.settings

theorem Turnout.breakerClosed {a : Advance} (turnout : Turnout s c i a) (closed : c.BreakerClosed) :
    a.connection.BreakerClosed := by
  cases turnout with
  | stays => exact closed
  | speaks j stage =>
    have untripped := closed.untripped (by simp [stage]) (by simp [stage])
    exact breakerClosed_of_untripped ((converse_spoken s j c).tripped.trans untripped)
  | parts why _ _ outbox =>
    obtain ⟨said, rest, same, _, departs⟩ := part_departs s why { c with outbox }
    simp only [Advance.also, same]
    exact departs.breaker
  | enters stage =>
    have untripped := closed.untripped (by simp [stage]) (by simp [stage])
    have spoken := converse_spoken s .opened { c with stage := .online, outbox := [] }
    exact breakerClosed_of_untripped (spoken.tripped.trans untripped)
  | fails e => exact (fail_failure s e c).breakerClosed
  | waits _ _ onward => exact onward.breaker
  | halts => exact fun _ => Or.inr ⟨.told, rfl⟩

/- Along a run. -/

/-- What each step of a run shows, one after the other. -/
def observed {α : Type} (shown : Circumstances → Connection → Stimulus → List α) (c : Connection) :
    List (Circumstances × Stimulus) → List α
  | [] => []
  | e :: rest => shown e.1 c e.2 ++ observed shown (c.step e.1 e.2).connection rest

theorem observed_concat {α : Type} (shown : Circumstances → Connection → Stimulus → List α)
    (c : Connection) (history : List (Circumstances × Stimulus)) (last : Circumstances × Stimulus) :
    observed shown c (history ++ [last]) =
      observed shown c history ++ shown last.1 (c.run history).connection last.2 := by
  induction history generalizing c with
  | nil => simp [observed, run]
  | cons e rest ih =>
    simp only [List.cons_append, observed]
    rw [ih, List.append_assoc]
    rfl

theorem run_concat (c : Connection) (history : List (Circumstances × Stimulus))
    (last : Circumstances × Stimulus) :
    (c.run (history ++ [last])).connection = ((c.run history).connection.step last.1 last.2).connection :=
  run_append c history [last]

theorem run_breakerClosed (settings : GatewaySettings) (shard : Shard)
    (history : List (Circumstances × Stimulus)) :
    ((start settings shard).connection.run history).connection.BreakerClosed := by
  induction history using List.reverseRecOn with
  | nil => exact breakerClosed_of_untripped rfl
  | append_singleton history last ih =>
    rw [run_concat]
    exact (step_turnout last.1 ih last.2).breakerClosed ih

theorem run_settings (settings : GatewaySettings) (shard : Shard)
    (history : List (Circumstances × Stimulus)) :
    ((start settings shard).connection.run history).connection.settings = settings := by
  induction history using List.reverseRecOn with
  | nil => rfl
  | append_singleton history last ih =>
    rw [run_concat]
    exact (step_turnout last.1 (run_breakerClosed settings shard history) last.2).settings.trans ih

end Connection
end SessionFleet
