import SessionFleet.Proofs.Connection.Reactions
import SessionFleet.Proofs.Session.Continuity
/- A connection through any sequence of stimuli, and what can be seen of it meanwhile.  Each step of a
   connection is one of a few moves; all that is proved of its runs goes by these. -/
namespace SessionFleet

/-- A turn that was granted, a packet that came in, or something that the connection did. -/
inductive Sighting where
  | granted
  | packet (p : Packet)
  | deed (d : Deed)
  deriving DecidableEq, Repr

/-- The deeds by which a connection comes to a socket, leaves it, and identifies on it. -/
def Deed.pivotal : Deed → Bool
  | .askTurn | .dial | .opened _ | .closed | .identified => true
  | _ => false

theorem Deed.not_mem_of_plain {deeds : List Deed} {d : Deed}
    (plain : ∀ d ∈ deeds, d.pivotal = false) (pivotal : d.pivotal = true) : d ∉ deeds := by
  intro member
  rw [plain d member] at pivotal
  cases pivotal

def Sighting.pivotal : Sighting → Bool
  | .granted => true
  | .packet _ => false
  | .deed d => d.pivotal

namespace Session

/-- The same shard, and again with a session to resume or again without one. -/
structure HoldsAs (s t : Session) : Prop where
  hasSession : t.hasSession = s.hasSession
  shard : t.shard = s.shard

theorem step_holds (m : Moment) (s : Session) {i : SessionInput} (remembered : i.forgets = false)
    (unannounced : i.announces = none) : s.HoldsAs (s.step true m i).session := by
  refine ⟨?_, step_shard m s i⟩
  simp only [hasSession, (step_keeps m s i).session, remembered, unannounced]
  rfl

end Session

namespace Connection

variable {s : Circumstances} {c : Connection} {i : Stimulus}

/-- The turns and packets that are of concern where the connection stands. -/
def notices (c : Connection) (i : Stimulus) : List Sighting :=
  match c.stage, i with
  | .queueing, .turn => [.granted]
  | .online, .heard (.text t) =>
    match Packet.ofText t with
    | .ok p => [.packet p]
    | .error _ => []
  | _, _ => []

def sightings (s : Circumstances) (c : Connection) (i : Stimulus) : List Sighting :=
  c.notices i ++ (c.step s i).deeds.map .deed

def log (c : Connection) : List (Circumstances × Stimulus) → List Sighting
  | [] => []
  | e :: rest => c.sightings e.1 e.2 ++ (c.step e.1 e.2).connection.log rest

theorem run_append (c : Connection) (before later : List (Circumstances × Stimulus)) :
    (c.run (before ++ later)).connection = ((c.run before).connection.run later).connection := by
  induction before generalizing c with
  | nil => rfl
  | cons e rest ih => exact ih (c.step e.1 e.2).connection

theorem log_append (c : Connection) (before later : List (Circumstances × Stimulus)) :
    c.log (before ++ later) = c.log before ++ (c.run before).connection.log later := by
  induction before generalizing c with
  | nil => rfl
  | cons e rest ih =>
    simp only [List.cons_append, log]
    rw [ih, List.append_assoc]
    rfl

/- The way to the next attempt, and what a session has carried out. -/

/-- The connection goes on with a session as it is: it asks for a turn, dials, waits or ends. -/
inductive Onward (held : Session) (a : Advance) : Prop where
  | asks (lead : List Deed) (fresh : held.hasSession = false) (kept : a.connection.session = held)
      (stage : a.connection.stage = .queueing) (plain : ∀ d ∈ lead, d.pivotal = false)
      (deeds : a.deeds = lead ++ [.askTurn])
  | dials (lead : List Deed) (resumes : held.hasSession = true) (kept : a.connection.session = held)
      (stage : a.connection.stage = .dialing) (plain : ∀ d ∈ lead, d.pivotal = false)
      (deeds : a.deeds = lead ++ [.dial])
  | rests (kept : a.connection.session = held)
      (stage : a.connection.stage = .cooling ∨ a.connection.stage = .pausing ∨
        ∃ how, a.connection.stage = .stopped how)
      (plain : ∀ d ∈ a.deeds, d.pivotal = false)

theorem Onward.after {held : Session} {a : Advance} (onward : Onward held a) (lead : List Deed)
    (quiet : ∀ d ∈ lead, d.pivotal = false) : Onward held ⟨a.connection, lead ++ a.deeds⟩ := by
  cases onward with
  | asks later fresh kept stage plain same =>
    refine .asks (lead ++ later) fresh kept stage ?_ (by rw [same, List.append_assoc])
    intro d member
    exact (List.mem_append.mp member).elim (quiet d) (plain d)
  | dials later resumes kept stage plain same =>
    refine .dials (lead ++ later) resumes kept stage ?_ (by rw [same, List.append_assoc])
    intro d member
    exact (List.mem_append.mp member).elim (quiet d) (plain d)
  | rests kept stage plain =>
    refine .rests kept stage ?_
    intro d member
    exact (List.mem_append.mp member).elim (quiet d) (plain d)

theorem WayOn.onward {a : Advance} (way : WayOn c a) : Onward c.session a := by
  cases way with
  | mk lead counts _ _ _ _ heading =>
    have plain : ∀ d ∈ lead, d.pivotal = false := by
      intro d member
      obtain ⟨n, counted⟩ := counts d member
      rw [counted]
      rfl
    cases heading with
    | cools delay =>
      refine Onward.after (a := ⟨_, [.wait delay]⟩) ?_ lead plain
      exact .rests rfl (Or.inl rfl) (by simp [Deed.pivotal])
    | pauses delay =>
      refine Onward.after (a := ⟨_, [.wait delay]⟩) ?_ lead plain
      exact .rests rfl (Or.inr (Or.inl rfl)) (by simp [Deed.pivotal])
    | queues fresh => exact .asks lead fresh rfl rfl plain rfl
    | dials resumes => exact .dials lead resumes rfl rfl plain rfl

theorem fail_onward (s : Circumstances) (e : FleetError) (c : Connection) :
    Onward c.session (c.fail s e) := by
  have failing := fail_failing s e c
  generalize c.fail s e = a at failing
  cases failing with
  | absorbed _ why way =>
    exact way.onward.after [.failed, .tripped, .error why] (by simp [Deed.pivotal])
  | counted _ _ way => exact way.onward.after [.failed, .error e] (by simp [Deed.pivotal])
  | broken | refused | exhausted =>
    exact .rests rfl (Or.inr (Or.inr ⟨_, rfl⟩)) (by simp [Deed.pivotal])

theorem onward_onward (s : Circumstances) (why : Parting) (c : Connection) :
    Onward c.session (c.onward s why) := by
  cases why with
  | told => exact .rests rfl (Or.inr (Or.inr ⟨.told, rfl⟩)) (by simp [Connection.onward, stop])
  | lost => exact (again_way s c.restartCounts).onward
  | reconnect d => exact (again_way s { c.restartCounts with requested := some d }).onward
  | failed e => exact fail_onward s e c

/-- What a session asks for is carried out without its being touched again.  Of all that is done, only
    an identification that was asked for is of concern for the sockets. -/
structure CarriedOut (effects : List Effect) (c : Connection) (a : Advance) : Prop where
  session : a.connection.session = c.session
  stage : a.connection.stage = c.stage ∨ a.connection.stage = .stopped .crashed
  pivotal : ∀ d ∈ a.deeds, d.pivotal = true → d = .identified ∧ Effect.identify ∈ effects

theorem effect_pivotal (s : Circumstances) (e : Effect) {d : Deed} (member : d ∈ e.deeds s)
    (pivotal : d.pivotal = true) : d = .identified ∧ e = .identify := by
  cases e with
  | identify => exact ⟨List.mem_singleton.mp member, rfl⟩
  | deliver event =>
    rcases List.mem_cons.mp member with handed | dealt
    · rw [handed] at pivotal
      cases pivotal
    · rw [List.mem_singleton.mp dealt] at pivotal
      split at pivotal <;> cases pivotal
  | resume | heartbeat | latency | disrupted =>
    rw [List.mem_singleton.mp member] at pivotal
    cases pivotal
  | reconnect => simp [Effect.deeds] at member

theorem converse_carried (s : Circumstances) (j : SessionInput) (c : Connection) :
    let t := c.session.step true s.moment j
    CarriedOut t.effects { c with session := t.session } (c.converse s j) := by
  intro t
  obtain ⟨outbox, stage, reported, said, _, stays, phases, done⟩ := converse_eq s j c
  rw [done]
  refine ⟨rfl, stays, ?_⟩
  intro d member pivotal
  rcases List.mem_append.mp member with acted | told
  · obtain ⟨e, asked, acts⟩ := List.mem_flatMap.mp acted
    obtain ⟨identified, identify⟩ := effect_pivotal s e acts pivotal
    rw [identify] at asked
    exact ⟨identified, asked⟩
  · obtain ⟨p, phase⟩ := phases d told
    rw [phase] at pivotal
    cases pivotal

/-- Where no identification is asked for, nothing is done that is of concern for the sockets. -/
theorem converse_plain (s : Circumstances) {j : SessionInput} (c : Connection)
    (unasked : Effect.identify ∉ (c.session.step true s.moment j).effects) :
    ∀ d ∈ (c.converse s j).deeds, d.pivotal = false := by
  intro d member
  cases pivotal : d.pivotal with
  | false => rfl
  | true =>
    obtain ⟨_, asked⟩ := (converse_carried s j c).pivotal d member pivotal
    exact absurd asked unasked

theorem identify_unasked (m : Moment) (held : Session) {j : SessionInput} (silent : j.greets = false) :
    Effect.identify ∉ (held.step true m j).effects := by
  intro asked
  have opens := (Session.step_keeps m held j).opens
  rw [silent] at opens
  have kept : Effect.identify ∈ (held.step true m j).effects.filter Effect.opens :=
    List.mem_filter.mpr ⟨asked, rfl⟩
  rw [opens] at kept
  simp at kept

/-- A socket is left: what is said until its end, and the way on. -/
structure Parts (held : Session) (a rest : Advance) (said : List Deed) : Prop where
  deeds : a.deeds = said ++ .closed :: rest.deeds
  connection : a.connection = rest.connection
  plain : ∀ d ∈ said, d.pivotal = false
  onward : Onward held rest

theorem part_parts (s : Circumstances) (why : Parting) (c : Connection) :
    ∃ rest said, Parts (c.session.step true s.moment .closed).session (c.part s why) rest said := by
  have left := (converse_carried s .closed c).session
  have plain := converse_plain s c (identify_unasked s.moment c.session (j := .closed) rfl)
  have onward := onward_onward s why (c.converse s .closed).connection
  rw [left] at onward
  rw [part_eq]
  exact ⟨_, _, rfl, rfl, plain, onward⟩

/- The moves of a connection. -/

inductive Move (s : Circumstances) (c : Connection) (i : Stimulus) : Advance → Prop where
  | stay (unnoticed : c.notices i = []) : Move s c i ⟨c, []⟩
  | stop {a : Advance} (unnoticed : c.notices i = []) (kept : a.connection.session = c.session)
      (stage : ∃ how, a.connection.stage = .stopped how) (plain : ∀ d ∈ a.deeds, d.pivotal = false) :
      Move s c i a
  | dial (stage : c.stage = .queueing) (noticed : c.notices i = [.granted]) : Move s c i c.dial
  | goOn {a : Advance} (stage : c.stage = .cooling ∨ c.stage = .pausing ∨ c.stage = .dialing)
      (unnoticed : c.notices i = []) (onward : Onward c.session a) : Move s c i a
  | enter {a : Advance} (n : Nat) (said : List Deed) (stage : c.stage = .dialing)
      (unnoticed : c.notices i = []) (entered : a.connection.stage = .online ∨
        a.connection.stage = .stopped .crashed)
      (deeds : a.deeds = .opened n :: said) (plain : ∀ d ∈ said, d.pivotal = false)
      (holds : c.session.HoldsAs a.connection.session) : Move s c i a
  | hear (p : Packet) (stage : c.stage = .online) (noticed : c.notices i = [.packet p]) :
      Move s c i (Advance.also ⟨c, [.received]⟩ fun c => c.converse s (.frame p))
  | talk {a : Advance} (stage : c.stage = .online) (unnoticed : c.notices i = [])
      (stays : a.connection.stage = .online ∨ a.connection.stage = .stopped .crashed)
      (plain : ∀ d ∈ a.deeds, d.pivotal = false)
      (holds : c.session.HoldsAs a.connection.session) : Move s c i a
  | part {a rest : Advance} {said : List Deed} (stage : c.stage = .online)
      (unnoticed : c.notices i = [])
      (parts : Parts (c.session.step true s.moment .closed).session a rest said) : Move s c i a

theorem part_moves (stage : c.stage = .online) (unnoticed : c.notices i = []) (why : Parting)
    (code : Option CloseCode) (outbox : List Order) :
    Move s c i (Advance.also ⟨{ c with outbox }, farewell s code⟩ fun c => c.part s why) := by
  obtain ⟨rest, said, deeds, connection, plain, onward⟩ := part_parts s why { c with outbox }
  have parts : Parts (c.session.step true s.moment .closed).session
      (Advance.also ⟨{ c with outbox }, farewell s code⟩ fun c => c.part s why) rest
      (farewell s code ++ said) := by
    refine ⟨?_, connection, ?_, onward⟩
    · simp only [Advance.also, deeds, List.append_assoc]
    · intro d member
      rcases List.mem_append.mp member with written | later
      · obtain ⟨f, write⟩ := farewell_writes s code d written
        rw [write]
        rfl
      · exact plain d later
  exact .part stage unnoticed parts

theorem Reaction.moves {a : Advance} (reaction : Reaction s c i a) : Move s c i a := by
  cases reaction with
  | ignores untold untimed unturned =>
    refine .stay ?_
    unfold notices
    split
    · exact absurd rfl (unturned ‹_›)
    · exact absurd rfl (untold ‹_› _)
    · rfl
  | counts stage read =>
    exact .talk stage (by simp [notices, stage, read]) (Or.inl stage) (by simp [Deed.pivotal]) ⟨rfl, rfl⟩
  | hears stage read => exact .hear _ stage (by simp [notices, stage, read])
  | ticks g stage =>
    have carried := converse_carried s (.tick g) c
    have stays := carried.stage
    simp only [stage] at stays
    refine .talk stage (by simp [notices, stage]) stays
      (converse_plain s c (identify_unasked s.moment c.session rfl)) ?_
    rw [carried.session]
    exact Session.step_holds s.moment c.session rfl rfl
  | pongs data stage | flushes stage | sends p stage =>
    exact .talk stage (by simp [notices, stage]) (Or.inl stage) (by simp [Deed.pivotal]) ⟨rfl, rfl⟩
  | parts why code outbox stage ends =>
    refine part_moves stage ?_ why code outbox
    cases ends <;> simp [notices, stage]
  | enters stage =>
    have carried := converse_carried s .opened { c with stage := .online, outbox := [] }
    refine .enter c.attempt _ stage (by simp [notices, stage]) carried.stage rfl
      (converse_plain s _ (identify_unasked s.moment c.session rfl)) ?_
    rw [show (c.enter s).connection.session = _ from carried.session]
    exact Session.step_holds s.moment c.session rfl rfl
  | fails d e stage =>
    exact .goOn (Or.inr (Or.inr stage)) (by simp [notices, stage]) (fail_onward s e c)
  | retries stage =>
    exact .goOn (Or.inl stage) (by simp [notices, stage]) (pause_way s c.closeBreaker).onward
  | resumes stage =>
    exact .goOn (Or.inr (Or.inl stage)) (by simp [notices, stage]) (approach_way c).onward
  | dials stage => exact .dial stage (by simp [notices, stage])
  | obeys stage =>
    refine .stop ?_ rfl ⟨.told, rfl⟩ (by simp [Deed.pivotal])
    rcases stage with stage | stage | stage <;> simp [notices, stage]

theorem step_moves (s : Circumstances) (c : Connection) (i : Stimulus) : Move s c i (c.step s i) :=
  (step_reaction s c i).moves

theorem Onward.kept {held : Session} {a : Advance} (onward : Onward held a) :
    a.connection.session = held := by
  cases onward with
  | asks _ _ kept | dials _ _ kept | rests kept => exact kept

theorem Onward.pivotal {held : Session} {a : Advance} {d : Deed} (onward : Onward held a)
    (member : d ∈ a.deeds) (pivotal : d.pivotal = true) :
    d = .askTurn ∧ held.hasSession = false ∨ d = .dial := by
  have not_plain {deeds : List Deed} (plain : ∀ d ∈ deeds, d.pivotal = false) : d ∉ deeds :=
    Deed.not_mem_of_plain plain pivotal
  cases onward with
  | asks lead fresh _ _ plain deeds =>
    rw [deeds] at member
    rcases List.mem_append.mp member with early | last
    · exact absurd early (not_plain plain)
    · exact Or.inl ⟨List.mem_singleton.mp last, fresh⟩
  | dials lead _ _ _ plain deeds =>
    rw [deeds] at member
    rcases List.mem_append.mp member with early | last
    · exact absurd early (not_plain plain)
    · exact Or.inr (List.mem_singleton.mp last)
  | rests _ _ plain => exact absurd member (not_plain plain)

/-- A turn is asked for only while there is no session to resume, and the connection identifies only
    because a packet that came in made the session ask for it. -/
theorem Move.pivotal {a : Advance} {d : Deed} (move : Move s c i a) (member : d ∈ a.deeds)
    (pivotal : d.pivotal = true) :
    (d = .askTurn ∧ c.session.hasSession = false ∧ a.connection.session.hasSession = false) ∨
      d = .dial ∨ (∃ n, d = .opened n) ∨ d = .closed ∨
      (d = .identified ∧ ∃ p, c.stage = .online ∧ c.notices i = [.packet p] ∧
        a.deeds = .received :: (c.converse s (.frame p)).deeds ∧
        Effect.identify ∈ (c.session.step true s.moment (.frame p)).effects) := by
  have not_plain {deeds : List Deed} (plain : ∀ d ∈ deeds, d.pivotal = false) : d ∉ deeds :=
    Deed.not_mem_of_plain plain pivotal
  have goes {held : Session} {a : Advance} (onward : Onward held a) (member : d ∈ a.deeds) :
      (d = .askTurn ∧ held.hasSession = false ∧ a.connection.session.hasSession = false) ∨
        d = .dial := by
    rcases onward.pivotal member pivotal with ⟨asks, fresh⟩ | dials
    · exact Or.inl ⟨asks, fresh, by rw [onward.kept]; exact fresh⟩
    · exact Or.inr dials
  cases move with
  | stay => simp at member
  | stop _ _ _ plain => exact absurd member (not_plain plain)
  | dial => exact Or.inr (Or.inl (List.mem_singleton.mp member))
  | goOn _ _ onward => exact (goes onward member).imp_right Or.inl
  | enter n said _ _ _ deeds plain =>
    rw [deeds] at member
    rcases List.mem_cons.mp member with opened | later
    · exact Or.inr (Or.inr (Or.inl ⟨n, opened⟩))
    · exact absurd later (not_plain plain)
  | hear p stage noticed =>
    rcases List.mem_cons.mp member with received | later
    · rw [received] at pivotal
      cases pivotal
    · obtain ⟨identified, asked⟩ := (converse_carried s (.frame p) c).pivotal d later pivotal
      exact Or.inr (Or.inr (Or.inr (Or.inr ⟨identified, p, stage, noticed, rfl, asked⟩)))
  | talk _ _ _ plain => exact absurd member (not_plain plain)
  | part _ _ parts =>
    rw [parts.deeds] at member
    rcases List.mem_append.mp member with early | later
    · exact absurd early (not_plain parts.plain)
    · rcases List.mem_cons.mp later with closed | later
      · exact Or.inr (Or.inr (Or.inr (Or.inl closed)))
      · rw [parts.connection]
        exact (goes parts.onward later).imp_right Or.inl

theorem converse_identifies (s : Circumstances) {j : SessionInput} (c : Connection)
    (effects : (c.session.step true s.moment j).effects = [.identify]) :
    ∃ rest, (c.converse s j).deeds = .identified :: rest ∧ ∀ d ∈ rest, d.pivotal = false := by
  obtain ⟨outbox, stage, reported, said, _, _, phases, done⟩ := converse_eq s j c
  refine ⟨said, by rw [done, effects]; rfl, ?_⟩
  intro d member
  obtain ⟨p, phase⟩ := phases d member
  rw [phase]
  rfl

/-- A connection identifies only when it is greeted without a session to resume, and just once. -/
theorem Move.identifies {a : Advance} (move : Move s c i a) (member : Deed.identified ∈ a.deeds) :
    ∃ p rest, c.stage = .online ∧ c.notices i = [.packet p] ∧
      (SessionInput.frame p).greets = true ∧ c.session.hasSession = false ∧
      a.deeds = .received :: .identified :: rest ∧ ∀ d ∈ rest, d.pivotal = false := by
  rcases move.pivotal member rfl with ⟨asks, _⟩ | dials | ⟨n, opened⟩ | closed | ⟨_, heard⟩
  · cases asks
  · cases dials
  · cases opened
  · cases closed
  · obtain ⟨p, stage, noticed, deeds, asked⟩ := heard
    cases greets : (SessionInput.frame p).greets with
    | false => exact absurd asked (identify_unasked s.moment c.session greets)
    | true =>
      obtain ⟨interval, usable, turn⟩ := Session.step_of_greets greets s.moment
      rw [turn, Session.greeted_reached usable] at asked
      have opening : c.session.opening = .identify := (List.mem_singleton.mp asked).symm
      have fresh : c.session.hasSession = false := by
        unfold Session.opening at opening
        unfold Session.hasSession
        cases held : c.session.sessionId with
        | none => rfl
        | some id =>
          rw [held] at opening
          cases opening
      have effects : (c.session.step true s.moment (.frame p)).effects = [.identify] := by
        rw [turn, Session.greeted_reached usable, opening]
      obtain ⟨rest, said, plain⟩ := converse_identifies s c effects
      exact ⟨p, rest, stage, noticed, greets, fresh, by rw [deeds, said], plain⟩

theorem Move.asks {a : Advance} (move : Move s c i a) (member : Deed.askTurn ∈ a.deeds) :
    c.session.hasSession = false ∧ a.connection.session.hasSession = false := by
  rcases move.pivotal member rfl with ⟨_, fresh⟩ | dials | ⟨n, opened⟩ | closed | ⟨identified, _⟩
  · exact fresh
  · cases dials
  · cases opened
  · cases closed
  · cases identified

theorem Move.shard {a : Advance} (move : Move s c i a) :
    a.connection.session.shard = c.session.shard := by
  cases move with
  | stay | dial => rfl
  | stop _ kept => rw [kept]
  | goOn _ _ onward => rw [onward.kept]
  | enter _ _ _ _ _ _ _ holds => exact holds.shard
  | hear p =>
    change (c.converse s (.frame p)).connection.session.shard = _
    rw [(converse_carried s (.frame p) c).session]
    exact Session.step_shard s.moment c.session (.frame p)
  | talk _ _ _ _ holds => exact holds.shard
  | part _ _ parts =>
    rw [parts.connection, parts.onward.kept]
    rfl

theorem run_keeps_shard (c : Connection) (history : List (Circumstances × Stimulus)) :
    (c.run history).connection.session.shard = c.session.shard := by
  induction history generalizing c with
  | nil => rfl
  | cons e rest ih => exact (ih (c.step e.1 e.2).connection).trans (step_moves e.1 c e.2).shard

end Connection
end SessionFleet
