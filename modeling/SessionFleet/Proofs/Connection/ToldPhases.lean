import Mathlib.Data.List.Destutter
import SessionFleet.Proofs.Connection.Milestones
import SessionFleet.Proofs.Connection.Reactions
import SessionFleet.Proofs.Fleet.GaugeLaws
import SessionFleet.Proofs.Session.GivenUp
/- What the outside is told of a connection's phase.

   The phase is told from a copy that is compared at several places: after each step of the session,
   after a socket has opened, and after it has closed.  All that a run tells is the phases after its
   steps, without repetitions. -/
namespace SessionFleet

theorem told_effects (s : Circumstances) (effects : List Effect) :
    told (effects.flatMap (Effect.deeds s)) = [] := by
  refine List.filterMap_eq_nil_iff.mpr ?_
  intro d member
  obtain ⟨e, _, done⟩ := List.mem_flatMap.mp member
  cases e with
  | deliver event =>
    rcases List.mem_cons.mp done with event | dealt
    · rw [event]
      rfl
    · rw [List.mem_singleton.mp dealt]
      split <;> rfl
  | identify | resume | heartbeat | latency | disrupted =>
    rw [List.mem_singleton.mp done]
    rfl
  | reconnect => simp [Effect.deeds] at done

/-- Nothing is left of the socket: no schedule runs, and no latency is known. -/
structure Session.AtRest (s : Session) : Prop where
  phase : s.phase = .disconnected
  pacer : s.pacer = .idle
  latency : s.health.latency = none

/-- A session after its socket has closed. -/
def Session.closed (s : Session) : Session :=
  { s with pacer := .idle, health := s.health.clearLatency, phase := .disconnected }

theorem Session.closed_atRest (s : Session) : s.closed.AtRest := ⟨rfl, rfl, rfl⟩

namespace Connection

variable {s : Circumstances} {c : Connection} {i : Stimulus}

/-- On the way to the next attempt, or to the end, the session is not touched and nothing shows. -/
structure Wanders (c : Connection) (a : Advance) : Prop where
  session : a.connection.session = c.session
  reported : a.connection.reported = c.reported
  offline : a.connection.stage ≠ .online
  lives : a.connection.stage ≠ .stopped .crashed
  unseen : ∀ d ∈ a.deeds, d.shows = false

theorem Wanders.after {a : Advance} (wanders : Wanders c a) (lead : List Deed)
    (unseen : ∀ d ∈ lead, d.shows = false) : Wanders c ⟨a.connection, lead ++ a.deeds⟩ := by
  refine ⟨wanders.session, wanders.reported, wanders.offline, wanders.lives, ?_⟩
  intro d member
  exact (List.mem_append.mp member).elim (unseen d) (wanders.unseen d)

theorem WayOn.wanders {a : Advance} {attempt : Nat} {tripped : Bool}
    (way : WayOn { c with attempt, tripped } a) : Wanders c a := by
  cases way with
  | mk lead counts _ _ _ _ heading =>
    refine ⟨rfl, rfl, ?_, ?_, ?_⟩
    · cases heading <;> simp
    · cases heading <;> simp
    · intro d member
      rcases List.mem_append.mp member with counted | last
      · obtain ⟨n, retried⟩ := counts d counted
        rw [retried]
        rfl
      · rw [List.mem_singleton.mp last]
        cases heading <;> rfl

theorem dial_wanders (c : Connection) : Wanders c c.dial :=
  ⟨rfl, rfl, by simp [dial], by simp [dial], by simp [dial, Deed.shows]⟩

theorem fail_wanders (s : Circumstances) (e : FleetError) (c : Connection) :
    Wanders c (c.fail s e) := by
  have failing := fail_failing s e c
  generalize c.fail s e = a at failing ⊢
  cases failing with
  | absorbed _ why way =>
    exact way.wanders.after [.failed, .tripped, .error why] (by simp [Deed.shows])
  | counted _ _ way => exact way.wanders.after [.failed, .error e] (by simp [Deed.shows])
  | broken | refused | exhausted => exact ⟨rfl, rfl, by simp, by simp, by simp [Deed.shows]⟩

theorem onward_wanders (s : Circumstances) (why : Parting) (c : Connection) :
    Wanders c (c.onward s why) := by
  have again {d : Connection} (session : d.session = c.session) (reported : d.reported = c.reported) :
      Wanders c (d.again s) := by
    have way := (again_way s d).wanders
    exact ⟨way.session.trans session, way.reported.trans reported, way.offline, way.lives, way.unseen⟩
  cases why with
  | told => exact ⟨rfl, rfl, by simp [onward, stop], by simp [onward, stop], by simp [onward, stop]⟩
  | lost => exact again rfl rfl
  | reconnect d => exact again rfl rfl
  | failed e => exact fail_wanders s e c

/-- The phase after a step is told if it is another one than was told last.  Only if the connection
    crashes on the way, nothing is told any more. -/
inductive Tells (c : Connection) (a : Advance) : Prop where
  | crashes (stage : a.connection.stage = .stopped .crashed)
      (reported : a.connection.reported = c.reported) (silent : told a.deeds = [])
  | survives (stage : a.connection.stage ≠ .stopped .crashed)
      (reported : a.connection.reported = a.connection.session.phase)
      (said : told a.deeds =
        if a.connection.session.phase = c.reported then [] else [a.connection.session.phase])

theorem Tells.of_unchanged {a : Advance} (stage : a.connection.stage ≠ .stopped .crashed)
    (reported : c.reported = c.session.phase) (session : a.connection.session = c.session)
    (same : a.connection.reported = c.reported) (silent : told a.deeds = []) : Tells c a := by
  refine .survives stage ?_ ?_
  · rw [same, session, reported]
  · rw [silent, session, if_pos reported.symm]

theorem Wanders.tells {a : Advance} (wanders : Wanders c a) (reported : c.reported = c.session.phase) :
    Tells c a :=
  .of_unchanged wanders.lives reported wanders.session wanders.reported (told_of_unseen wanders.unseen)

theorem told_news (c : Connection) (p : Phase) :
    told (c.news p) = if p = c.reported then [] else [p] := by
  unfold news
  split <;> rfl

theorem converse_tells (s : Circumstances) (j : SessionInput) (stage : c.stage = .online) :
    Tells c (c.converse s j) := by
  have silent := told_effects s (c.session.step true s.moment j).effects
  obtain ⟨outbox, crashed | survived⟩ := converse_cases s j stage
  · rw [crashed]
    exact .crashes rfl rfl silent
  · rw [survived]
    refine .survives (by simp [stage]) rfl ?_
    rw [told_append, silent, told_news]
    rfl

/-- Between the last frame of a socket and the way on from there, the session is told that the socket
    is closed. -/
theorem converse_closed (s : Circumstances) (stage : c.stage = .online) :
    c.converse s .closed =
      ⟨{ c with session := c.session.closed, reported := .disconnected }, c.news .disconnected⟩ :=
  converse_silent stage rfl

theorem told_farewell (s : Circumstances) (code : Option CloseCode) : told (farewell s code) = [] := by
  cases code with
  | none => rfl
  | some code =>
    simp only [farewell]
    split <;> rfl

/-- An open socket is left: after the last that is written the session is closed and told of, then the
    socket is gone, and nothing of the way on shows. -/
theorem parts_closed (s : Circumstances) (why : Parting) (code : Option CloseCode)
    (outbox : List Order) (stage : c.stage = .online) :
    ∃ rest,
      (Advance.also ⟨{ c with outbox }, farewell s code⟩ fun c => c.part s why) =
        ⟨rest.connection, farewell s code ++ c.news .disconnected ++ .closed :: rest.deeds⟩ ∧
      Wanders { c with session := c.session.closed, outbox, reported := .disconnected } rest := by
  have parted := part_eq s why { c with outbox }
  rw [converse_closed (c := { c with outbox }) s stage] at parted
  refine ⟨_, ?_, onward_wanders s why _⟩
  simp only [Advance.also, parted, List.append_assoc]
  rfl

/-- How a connection stands to the outside.  Unless it has crashed, its phase is the one that was told
    last; while a socket is open its session is up in some way, and without one it is at rest. -/
structure Synced (c : Connection) : Prop where
  reported : c.stage ≠ .stopped .crashed → c.reported = c.session.phase
  working : c.stage = .online → c.session.phase ≠ .disconnected
  resting : c.stage ≠ .online → c.stage ≠ .stopped .crashed → c.session.AtRest

theorem start_synced (settings : GatewaySettings) (shard : Shard) :
    (start settings shard).connection.Synced :=
  ⟨fun _ => rfl, by simp [start], fun _ _ => ⟨rfl, rfl, rfl⟩⟩

theorem Wanders.synced {a : Advance} (wanders : Wanders c a)
    (reported : c.reported = c.session.phase) (rests : c.session.AtRest) : a.connection.Synced := by
  refine ⟨fun _ => ?_, fun online => absurd online wanders.offline, fun _ _ => ?_⟩
  · rw [wanders.reported, wanders.session, reported]
  · rw [wanders.session]
    exact rests

theorem converse_synced (s : Circumstances) (j : SessionInput) (stage : c.stage = .online)
    (works : (c.session.step true s.moment j).session.phase ≠ .disconnected) :
    (c.converse s j).connection.Synced := by
  obtain ⟨outbox, crashed | survived⟩ := converse_cases s j stage
  · rw [crashed]
    exact ⟨fun lives => absurd rfl lives, by simp, fun _ lives => absurd rfl lives⟩
  · rw [survived]
    exact ⟨fun _ => rfl, fun _ => works, fun offline => absurd stage offline⟩

/-- What comes in on a socket never takes the session back to where there is none. -/
theorem comesIn_works {held : Session} {j : SessionInput} (comes : j.comesIn = true) (m : Moment)
    (works : held.phase ≠ .disconnected) : (held.step true m j).session.phase ≠ .disconnected := by
  have leads := Session.step_leads comes true m held
  cases greets : j.greets with
  | true => simp [leads.greeted greets]
  | false =>
    cases up : j.takesUp with
    | true => simp [leads.takenUp up]
    | false =>
      rcases leads.otherwise greets up with stays | givenUp
      · rw [stays]
        exact works
      · simp [givenUp]

theorem Synced.unmoved {c' : Connection} (synced : c.Synced) (session : c'.session = c.session)
    (reported : c'.reported = c.reported) (stage : c'.stage = c.stage) : c'.Synced := by
  refine ⟨?_, ?_, ?_⟩
  · rw [stage, session, reported]
    exact synced.reported
  · rw [stage, session]
    exact synced.working
  · rw [stage, session]
    exact synced.resting

theorem Reaction.synced {a : Advance} (reaction : Reaction s c i a) (synced : c.Synced) :
    a.connection.Synced := by
  have onward {a : Advance} (offline : c.stage ≠ .online) (lives : c.stage ≠ .stopped .crashed)
      (wanders : Wanders c a) : a.connection.Synced :=
    wanders.synced (synced.reported lives) (synced.resting offline lives)
  cases reaction with
  | ignores | counts | pongs | flushes | sends => exact synced.unmoved rfl rfl rfl
  | hears stage => exact converse_synced s _ stage (comesIn_works rfl _ (synced.working stage))
  | ticks g stage => exact converse_synced s _ stage (comesIn_works rfl _ (synced.working stage))
  | parts why code outbox stage =>
    obtain ⟨rest, parted, wanders⟩ := parts_closed s why code outbox stage
    rw [parted]
    exact wanders.synced rfl c.session.closed_atRest
  | enters =>
    exact converse_synced (c := { c with stage := .online, outbox := [] }) s .opened rfl
      (by simp [Session.step, Session.silent])
  | fails d e stage => exact onward (by simp [stage]) (by simp [stage]) (fail_wanders s e c)
  | retries stage => exact onward (by simp [stage]) (by simp [stage]) (closeBreaker_way s c).wanders
  | resumes stage => exact onward (by simp [stage]) (by simp [stage]) (approach_way c).wanders
  | dials stage => exact onward (by simp [stage]) (by simp [stage]) (dial_wanders c)
  | obeys stage =>
    have offline : c.stage ≠ .online := by rcases stage with stage | stage | stage <;> simp [stage]
    have lives : c.stage ≠ .stopped .crashed := by
      rcases stage with stage | stage | stage <;> simp [stage]
    exact ⟨fun _ => synced.reported lives, by simp, fun _ _ => synced.resting offline lives⟩

theorem Tells.after {a : Advance} {c' : Connection} {lead : List Deed} (tells : Tells c' a)
    (reported : c'.reported = c.reported) (silent : told lead = []) :
    Tells c ⟨a.connection, lead ++ a.deeds⟩ := by
  cases tells with
  | crashes stage same nothing =>
    exact .crashes stage (same.trans reported) (by rw [told_append, silent, nothing, List.nil_append])
  | survives stage current said =>
    refine .survives stage current ?_
    rw [told_append, silent, said, reported, List.nil_append]

theorem Reaction.tells {a : Advance} (reaction : Reaction s c i a) (synced : c.Synced) :
    Tells c a := by
  -- while the socket is open, deeds of which nothing shows lead nowhere else
  have stays {outbox : List Order} {deeds : List Deed} (stage : c.stage = .online)
      (unseen : ∀ d ∈ deeds, d.shows = false) : Tells c ⟨{ c with outbox }, deeds⟩ :=
    .of_unchanged (by simp [stage]) (synced.reported (by simp [stage])) rfl rfl
      (told_of_unseen unseen)
  have onward {a : Advance} (lives : c.stage ≠ .stopped .crashed) (wanders : Wanders c a) :
      Tells c a := wanders.tells (synced.reported lives)
  cases reaction with
  | ignores =>
    by_cases crashed : c.stage = .stopped .crashed
    · exact .crashes crashed rfl rfl
    · exact .of_unchanged crashed (synced.reported crashed) rfl rfl rfl
  | counts stage => exact stays stage (by simp [Deed.shows])
  | pongs data stage => exact stays stage (by simp [Deed.shows])
  | flushes stage => exact stays stage (by simp [Deed.shows])
  | sends p stage => exact stays stage (by simp [Deed.shows])
  | hears stage => exact (converse_tells s (.frame _) stage).after rfl rfl
  | ticks g stage => exact converse_tells s (.tick g) stage
  | parts why code outbox stage =>
    obtain ⟨rest, parted, wanders⟩ := parts_closed s why code outbox stage
    rw [parted]
    refine .survives wanders.lives ?_ ?_
    · rw [wanders.reported, wanders.session]
      rfl
    · have silent : told (.closed :: rest.deeds) = [] :=
        (List.filterMap_cons_none rfl).trans (told_of_unseen wanders.unseen)
      rw [wanders.session, told_append, told_append, told_farewell, told_news, silent,
        List.nil_append, List.append_nil]
      rfl
  | enters stage =>
    exact (converse_tells (c := { c with stage := .online, outbox := [] }) s .opened rfl).after rfl rfl
  | fails d e stage => exact onward (by simp [stage]) (fail_wanders s e c)
  | retries stage => exact onward (by simp [stage]) (closeBreaker_way s c).wanders
  | resumes stage => exact onward (by simp [stage]) (approach_way c).wanders
  | dials stage => exact onward (by simp [stage]) (dial_wanders c)
  | obeys stage =>
    have lives : c.stage ≠ .stopped .crashed := by
      rcases stage with stage | stage | stage <;> simp [stage]
    exact .of_unchanged (by simp) (synced.reported lives) rfl rfl rfl

/- Along a run. -/

def timed (s : Circumstances) (c : Connection) (i : Stimulus) : List (Instant × Deed) :=
  (c.step s i).deeds.map fun d => (s.moment.now, d)

theorem timed_deeds (s : Circumstances) (c : Connection) (i : Stimulus) :
    (timed s c i).map Prod.snd = (c.step s i).deeds := by
  rw [timed, List.map_map]
  exact List.map_id _

def tellings (s : Circumstances) (c : Connection) (i : Stimulus) : List Phase := told (c.step s i).deeds

/-- The phase after a step, if the step comes to its end. -/
def settled (s : Circumstances) (c : Connection) (i : Stimulus) : List Phase :=
  let after := (c.step s i).connection
  if after.stage = .stopped .crashed then [] else [after.session.phase]

theorem told_run (synced : c.Synced) (history : List (Circumstances × Stimulus)) :
    c.reported :: observed tellings c history =
      (c.reported :: observed settled c history).destutter (· ≠ ·) := by
  rw [List.destutter_cons']
  -- the phase that was told last is the one that `destutter'` compares the next with
  induction history generalizing c with
  | nil => rfl
  | cons e rest ih =>
    obtain ⟨s, i⟩ := e
    have reaction := step_reaction s c i
    have later := ih (reaction.synced synced)
    simp only [observed, tellings, settled]
    cases reaction.tells synced with
    | crashes crashed reported silent =>
      rw [silent, if_pos crashed, List.nil_append, List.nil_append, ← reported]
      exact later
    | survives lives reported said =>
      rw [said, if_neg lives, ← reported, List.singleton_append]
      by_cases same : (c.step s i).connection.reported = c.reported
      · rw [if_pos same, List.nil_append, List.destutter'_cons_neg _ (by simpa using same.symm), ← same]
        exact later
      · rw [if_neg same, List.singleton_append,
          List.destutter'_cons_pos _ (by simpa using Ne.symm same)]
        exact congrArg (c.reported :: ·) later

theorem told_deeds (c : Connection) (history : List (Circumstances × Stimulus)) :
    told (c.run history).deeds = observed tellings c history := by
  induction history generalizing c with
  | nil => rfl
  | cons e rest ih =>
    simp only [run, Advance.also, told_append, observed, tellings]
    rw [ih]

theorem run_synced (settings : GatewaySettings) (shard : Shard)
    (history : List (Circumstances × Stimulus)) :
    ((start settings shard).connection.run history).connection.Synced := by
  induction history using List.reverseRecOn with
  | nil => exact start_synced settings shard
  | append_singleton history last ih =>
    rw [run_concat]
    exact (step_reaction last.1 _ last.2).synced ih

end Connection
end SessionFleet
