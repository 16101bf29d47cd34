import SessionFleet.Proofs.Connection.ConnectionRuns
/- Each identification has a turn of its own.  Whether a turn is needed is decided before a socket is
   opened, and whether to identify only when the socket greets.  The two agree since nothing but
   packets changes whether there is a session to resume, and none comes before the greeting. -/
namespace SessionFleet
namespace Connection

variable {s : Circumstances} {c : Connection} {i : Stimulus} {log more : List Sighting}

def story (settings : GatewaySettings) (shard : Shard) (history : List (Circumstances × Stimulus)) :
    List Sighting :=
  (start settings shard).deeds.map .deed ++ (start settings shard).connection.log history

def SocketsEnded (log : List Sighting) : Prop :=
  ∀ before n later, log = before ++ .deed (.opened n) :: later → .deed .closed ∈ later

/-- A greeting is the first packet on its socket. -/
def GreetedFirst (log : List Sighting) : Prop :=
  ∀ before p later, log = before ++ .packet p :: later → (SessionInput.frame p).greets = true →
    ∃ earlier n talk, before = earlier ++ .deed (.opened n) :: talk ∧ ∀ q, .packet q ∉ talk

/-- After the end of every earlier socket a turn was asked for and granted, and with it the socket was
    opened on which nobody has identified yet. -/
def TurnTaken (log : List Sighting) : Prop :=
  ∃ earlier n talk,
    log = earlier ++ .deed .askTurn :: .granted :: .deed .dial :: .deed (.opened n) :: talk ∧
      SocketsEnded earlier ∧ ∀ e ∈ talk, e.pivotal = false

theorem split_append {α : Type} {first second before later : List α} {x : α}
    (same : first ++ second = before ++ x :: later) :
    (∃ rest, first = before ++ x :: rest ∧ later = rest ++ second) ∨
      ∃ rest, before = first ++ rest ∧ second = rest ++ x :: later := by
  rcases List.append_eq_append_iff.mp same with ⟨rest, front, back⟩ | ⟨rest, front, back⟩
  · exact Or.inr ⟨rest, front, back⟩
  · cases rest with
    | nil => exact Or.inr ⟨[], by simpa using front.symm, by simpa using back.symm⟩
    | cons y rest =>
      obtain ⟨head, tail⟩ := List.cons.inj back
      subst head
      exact Or.inl ⟨rest, front, tail⟩

theorem split_cons {α : Type} {before talk before' talk' : List α} {x y : α}
    (same : before ++ x :: talk = before' ++ y :: talk') :
    (before' = before ∧ y = x ∧ talk' = talk) ∨
      (∃ rest, before' = before ++ x :: rest ∧ talk = rest ++ y :: talk') ∨
      ∃ rest, before = before' ++ y :: rest ∧ talk' = rest ++ x :: talk := by
  rcases split_append same with ⟨rest, front, later⟩ | ⟨rest, front, back⟩
  · exact Or.inr (Or.inr ⟨rest, front, later⟩)
  · cases rest with
    | nil =>
      obtain ⟨head, tail⟩ := List.cons.inj back
      exact Or.inl ⟨by simpa using front, head.symm, tail.symm⟩
    | cons z rest =>
      obtain ⟨head, tail⟩ := List.cons.inj back
      subst head
      exact Or.inr (Or.inl ⟨rest, front, tail⟩)

theorem plain_map {deeds : List Deed} (plain : ∀ d ∈ deeds, d.pivotal = false) :
    ∀ e ∈ deeds.map Sighting.deed, e.pivotal = false := by
  intro e member
  obtain ⟨d, seen, same⟩ := List.mem_map.mp member
  rw [← same]
  exact plain d seen

theorem deed_not_mem {deeds : List Deed} {d : Deed} (plain : ∀ d ∈ deeds, d.pivotal = false)
    (pivotal : d.pivotal = true) : Sighting.deed d ∉ deeds.map .deed := by
  intro member
  exact absurd pivotal (by simpa [Sighting.pivotal] using plain_map plain _ member)

theorem SocketsEnded.append (ended : SocketsEnded log) (unopened : ∀ n, .deed (.opened n) ∉ more) :
    SocketsEnded (log ++ more) := by
  intro before n later split
  rcases split_append split with ⟨rest, front, back⟩ | ⟨rest, _, back⟩
  · rw [back]
    exact List.mem_append_left _ (ended before n rest front)
  · exact absurd (by simp [back]) (unopened n)

theorem SocketsEnded.of_append (ended : SocketsEnded (log ++ more)) (open_ : .deed .closed ∉ more) :
    SocketsEnded log := by
  intro before n later split
  have closes := ended before n (later ++ more) (by simp [split])
  exact (List.mem_append.mp closes).resolve_right open_

theorem socketsEnded_of_closed {n : Nat} {talk : List Sighting}
    (unopened : ∀ n, .deed (.opened n) ∉ talk) (closes : .deed .closed ∈ talk) :
    SocketsEnded (log ++ .deed (.opened n) :: talk) := by
  intro before m later split
  rcases split_cons split with ⟨_, _, same⟩ | ⟨rest, _, back⟩ | ⟨rest, _, back⟩
  · rw [same]
    exact closes
  · exact absurd (by simp [back]) (unopened m)
  · simp [back, closes]

theorem GreetedFirst.of_append (greeted : GreetedFirst (log ++ more)) : GreetedFirst log := by
  intro before p later split
  exact greeted before p (later ++ more) (by simp [split])

/-- A turn was granted for the attempt that goes on now. -/
def TurnHeld (log : List Sighting) : Prop :=
  ∃ earlier, log = earlier ++ [.deed .askTurn, .granted, .deed .dial]

/-- What was said on the open socket, and what has to have come before it for an identification. -/
structure OnSocket (held : Session) (log before : List Sighting) (n : Nat) (talk : List Sighting) :
    Prop where
  split : log = before ++ .deed (.opened n) :: talk
  ended : SocketsEnded before
  pivotal : ∀ e ∈ talk, e.pivotal = true → e = .deed .identified
  untouched : (∀ p, .packet p ∉ talk) →
    .deed .identified ∉ talk ∧ (held.hasSession = false → TurnHeld before)

/-- How the log of a connection ends, depending on where the connection stands. -/
def Accounted (c : Connection) (log : List Sighting) : Prop :=
  match c.stage with
  | .cooling | .pausing => SocketsEnded log
  | .queueing =>
    c.session.hasSession = false ∧ SocketsEnded log ∧ ∃ earlier, log = earlier ++ [.deed .askTurn]
  | .dialing => SocketsEnded log ∧ (c.session.hasSession = false → TurnHeld log)
  | .online => ∃ before n talk, OnSocket c.session log before n talk
  | .stopped _ => True

theorem accounted_online (stage : c.stage = .online) :
    Accounted c log ↔ ∃ before n talk, OnSocket c.session log before n talk := by
  simp only [Accounted, stage]

theorem accounted_stopped {how : Ending} (stage : c.stage = .stopped how) : Accounted c log := by
  simp only [Accounted, stage]

theorem accounted_offline (stage : c.stage = .cooling ∨ c.stage = .pausing ∨ c.stage = .dialing)
    (accounted : Accounted c log) : SocketsEnded log := by
  rcases stage with stage | stage | stage <;> simp only [Accounted, stage] at accounted
  · exact accounted
  · exact accounted
  · exact accounted.1

theorem Onward.accounted {held : Session} {a : Advance} (onward : Onward held a)
    (ended : SocketsEnded log) : Accounted a.connection (log ++ a.deeds.map .deed) := by
  have unopened : ∀ n, Sighting.deed (.opened n) ∉ a.deeds.map .deed := by
    intro n member
    obtain ⟨d, seen, same⟩ := List.mem_map.mp member
    cases same
    rcases onward.pivotal seen rfl with ⟨asks, _⟩ | dials
    · cases asks
    · cases dials
  have still := ended.append unopened
  cases onward with
  | asks lead fresh kept stage _ deeds =>
    simp only [Accounted, stage]
    refine ⟨by rw [kept]; exact fresh, still, log ++ lead.map .deed, ?_⟩
    simp [deeds]
  | dials lead resumes kept stage =>
    simp only [Accounted, stage]
    refine ⟨still, ?_⟩
    intro fresh
    rw [kept, resumes] at fresh
    cases fresh
  | rests _ stage =>
    rcases stage with stage | stage | ⟨how, stage⟩ <;> simp only [Accounted, stage]
    · exact still
    · exact still

/-- What is said on a socket leaves the account of it as it is, as long as no packet comes or nothing
    more is asked of it. -/
theorem OnSocket.append {held held' : Session} {before talk : List Sighting} {n : Nat}
    (on : OnSocket held log before n talk)
    (pivotal : ∀ e ∈ more, e.pivotal = true → e = .deed .identified)
    (quiet : (∀ p, .packet p ∉ more) →
      .deed .identified ∉ more ∧ held'.hasSession = held.hasSession) :
    OnSocket held' (log ++ more) before n (talk ++ more) := by
  refine ⟨by simp [on.split], on.ended, ?_, ?_⟩
  · intro e member
    exact (List.mem_append.mp member).elim (on.pivotal e) (pivotal e)
  · intro unheard
    obtain ⟨silent, turn⟩ := on.untouched fun p seen => unheard p (List.mem_append_left _ seen)
    obtain ⟨silent', same⟩ := quiet fun p seen => unheard p (List.mem_append_right _ seen)
    refine ⟨?_, fun fresh => turn (by rw [← same]; exact fresh)⟩
    intro member
    exact (List.mem_append.mp member).elim silent silent'

theorem OnSocket.unopened {held : Session} {before talk : List Sighting} {n : Nat}
    (on : OnSocket held log before n talk) (m : Nat) : .deed (.opened m) ∉ talk := by
  intro member
  cases on.pivotal _ member rfl

theorem OnSocket.part {held held' : Session} {before talk : List Sighting} {n : Nat}
    {a rest : Advance} {said : List Deed} (on : OnSocket held log before n talk)
    (parts : Parts held' a rest said) : Accounted a.connection (log ++ a.deeds.map .deed) := by
  have ended : SocketsEnded (log ++ (said.map .deed ++ [.deed .closed])) := by
    rw [on.split, List.append_assoc, List.cons_append]
    apply socketsEnded_of_closed
    · intro m member
      rcases List.mem_append.mp member with early | late
      · exact on.unopened m early
      · rcases List.mem_append.mp late with early | last
        · exact deed_not_mem parts.plain rfl early
        · simp at last
    · simp
  have onward := parts.onward.accounted ended
  rw [parts.connection, parts.deeds]
  simpa using onward

/-- Once a packet has come, there is no more to account for on this socket. -/
theorem OnSocket.hear {held held' : Session} {before talk : List Sighting} {n : Nat}
    {deeds : List Deed} (on : OnSocket held log before n talk) (p : Packet)
    (pivotal : ∀ d ∈ deeds, d.pivotal = true → d = .identified) :
    OnSocket held' (log ++ .packet p :: deeds.map .deed) before n
      (talk ++ .packet p :: deeds.map .deed) := by
  apply on.append
  · intro e member isPivotal
    rcases List.mem_cons.mp member with packet | done
    · rw [packet] at isPivotal
      cases isPivotal
    · obtain ⟨d, did, same⟩ := List.mem_map.mp done
      subst same
      rw [pivotal d did isPivotal]
  · intro unheard
    exact absurd List.mem_cons_self (unheard p)

theorem Move.accounted {a : Advance} (move : Move s c i a) (accounted : Accounted c log) :
    Accounted a.connection (log ++ (c.notices i ++ a.deeds.map .deed)) := by
  cases move with
  | stay unnoticed =>
    rw [unnoticed]
    simpa using accounted
  | stop _ _ stage =>
    obtain ⟨how, stage⟩ := stage
    exact accounted_stopped stage
  | dial stage noticed =>
    simp only [Accounted, stage] at accounted
    obtain ⟨_, ended, earlier, split⟩ := accounted
    rw [noticed]
    simp only [Accounted, Connection.dial]
    refine ⟨ended.append (by simp), fun _ => ⟨earlier, by simp [split]⟩⟩
  | goOn stage unnoticed onward =>
    rw [unnoticed, List.nil_append]
    exact onward.accounted (accounted_offline stage accounted)
  | enter n said stage unnoticed entered deeds plain holds =>
    rcases entered with online | crashed
    · simp only [Accounted, stage] at accounted
      obtain ⟨ended, turn⟩ := accounted
      rw [accounted_online online, unnoticed, deeds]
      refine ⟨log, n, said.map .deed, by simp, ended, ?_, ?_⟩
      · intro e member pivotal
        exact absurd pivotal (by simp [plain_map plain e member])
      · intro _
        refine ⟨deed_not_mem plain rfl, fun fresh => turn ?_⟩
        rw [← holds.hasSession]
        exact fresh
    · exact accounted_stopped crashed
  | hear p stage noticed =>
    have carried := converse_carried s (.frame p) c
    obtain ⟨before, n, talk, on⟩ := (accounted_online stage).mp accounted
    rcases carried.stage with online | crashed
    · apply (accounted_online (online.trans stage)).mpr
      rw [noticed]
      refine ⟨before, n, _, on.hear p ?_⟩
      intro d member pivotal
      rcases List.mem_cons.mp member with received | later
      · rw [received] at pivotal
        cases pivotal
      · exact (carried.pivotal d later pivotal).1
    · exact accounted_stopped crashed
  | talk stage unnoticed stays plain holds =>
    obtain ⟨before, n, talk, on⟩ := (accounted_online stage).mp accounted
    rcases stays with online | crashed
    · rw [accounted_online online, unnoticed, List.nil_append]
      refine ⟨before, n, _, on.append ?_ ?_⟩
      · intro e member pivotal
        exact absurd pivotal (by simp [plain_map plain e member])
      · intro _
        exact ⟨deed_not_mem plain rfl, holds.hasSession⟩
    · exact accounted_stopped crashed
  | part stage unnoticed parts =>
    obtain ⟨before, n, talk, on⟩ := (accounted_online stage).mp accounted
    rw [unnoticed, List.nil_append]
    exact on.part parts

/- The turn before an identification. -/

/-- If no packet has come on a socket, none has come on the one that is open: it is the last. -/
theorem OnSocket.unheard {held : Session} {before talk earlier talk' : List Sighting} {n m : Nat}
    (on : OnSocket held log before n talk) (opened : log = earlier ++ .deed (.opened m) :: talk')
    (unheard : ∀ q, .packet q ∉ talk') : ∀ q, .packet q ∉ talk := by
  rw [on.split] at opened
  rcases split_cons opened with ⟨_, _, same⟩ | ⟨between, _, back⟩ | ⟨between, _, back⟩
  · rw [← same]
    exact unheard
  · exact absurd (by simp [back]) (on.unopened m)
  · intro q member
    exact unheard q (by simp [back, member])

theorem OnSocket.turnTaken {held : Session} {before talk : List Sighting} {n : Nat}
    (on : OnSocket held log before n talk) (unheard : ∀ q, .packet q ∉ talk)
    (fresh : held.hasSession = false) (plain : ∀ e ∈ more, e.pivotal = false) :
    TurnTaken (log ++ more) := by
  obtain ⟨silent, turn⟩ := on.untouched unheard
  obtain ⟨earlier, taken⟩ := turn fresh
  have ended : SocketsEnded earlier := by
    have ended := on.ended
    rw [taken] at ended
    exact ended.of_append (by simp)
  refine ⟨earlier, n, talk ++ more, by simp [on.split, taken], ended, ?_⟩
  intro e member
  rcases List.mem_append.mp member with said | later
  · cases pivotal : e.pivotal with
    | false => rfl
    | true =>
      rw [on.pivotal e said pivotal] at said
      exact absurd said silent
  · exact plain e later

theorem identified_once {lead before later : List Sighting} {rest : List Deed}
    (early : .deed .identified ∉ lead) (plain : ∀ d ∈ rest, d.pivotal = false)
    (split : lead ++ .deed .identified :: rest.map .deed = before ++ .deed .identified :: later) :
    before = lead := by
  rcases split_cons split with same | ⟨between, _, back⟩ | ⟨between, front, _⟩
  · exact same.1
  · exact absurd (by simp [back]) (deed_not_mem plain (d := .identified) rfl)
  · exact absurd (by simp [front]) early

theorem identified_not_noticed (c : Connection) (i : Stimulus) :
    .deed .identified ∉ c.notices i := by
  intro noticed
  unfold notices at noticed
  split at noticed
  · simp at noticed
  · split at noticed <;> simp at noticed
  · simp at noticed

theorem Move.turnTaken {a : Advance} {before later : List Sighting} (move : Move s c i a)
    (accounted : Accounted c log) (greeted : GreetedFirst (log ++ c.notices i))
    (split : c.notices i ++ a.deeds.map .deed = before ++ .deed .identified :: later) :
    TurnTaken (log ++ before) := by
  have identified : Deed.identified ∈ a.deeds := by
    have member : Sighting.deed .identified ∈ c.notices i ++ a.deeds.map .deed := by simp [split]
    rcases List.mem_append.mp member with noticed | done
    · exact absurd noticed (identified_not_noticed c i)
    · obtain ⟨d, seen, same⟩ := List.mem_map.mp done
      cases same
      exact seen
  obtain ⟨p, rest, stage, noticed, greets, fresh, deeds, plain⟩ := move.identifies identified
  rw [noticed, deeds] at split
  have front : before = [.packet p, .deed .received] := identified_once (by simp) plain split
  obtain ⟨socket, n, talk, on⟩ := (accounted_online stage).mp accounted
  rw [noticed] at greeted
  obtain ⟨earlier, m, talk', opened, unheard⟩ := greeted log p [] (by simp) greets
  rw [front]
  exact on.turnTaken (on.unheard opened unheard) fresh (by simp [Sighting.pivotal, Deed.pivotal])

def AllInTurn (log : List Sighting) : Prop :=
  ∀ before later, log = before ++ .deed .identified :: later → TurnTaken before

theorem AllInTurn.distinct {before between later : List Sighting} (turns : AllInTurn log)
    (split : log = before ++ .deed .identified :: (between ++ .deed .identified :: later)) :
    .granted ∈ between := by
  obtain ⟨earlier, n, talk, shape, _, plain⟩ :=
    turns (before ++ .deed .identified :: between) later (by simp [split])
  have shape' : before ++ Sighting.deed .identified :: between = (earlier ++ [.deed .askTurn]) ++
      .granted :: .deed .dial :: .deed (.opened n) :: talk := by
    rw [shape]
    simp
  rcases split_cons shape' with ⟨_, same, _⟩ | ⟨rest, _, back⟩ | ⟨rest, _, back⟩
  · cases same
  · simp [back]
  · -- the first identification cannot lie in what was said since the second turn
    have member : Sighting.deed .identified ∈ .deed .dial :: .deed (.opened n) :: talk := by
      simp [back]
    have said : Sighting.deed .identified ∈ talk := by simpa using member
    exact absurd (plain _ said) (by simp [Sighting.pivotal, Deed.pivotal])

theorem run_accounted (settings : GatewaySettings) (shard : Shard)
    (history : List (Circumstances × Stimulus)) :
    Accounted ((start settings shard).connection.run history).connection
      (story settings shard history) := by
  induction history using List.reverseRecOn with
  | nil =>
    refine ⟨rfl, ?_, [], rfl⟩
    intro before n later split
    have member : Sighting.deed (.opened n) ∈ [.deed .askTurn] := by
      change [Sighting.deed .askTurn] = _ at split
      simp [split]
    simp at member
  | append_singleton history last ih =>
    have next := (step_moves last.1 _ last.2).accounted ih
    rw [run_append]
    unfold story at next ⊢
    rw [log_append, ← List.append_assoc]
    simpa [log, run, Advance.also, sightings] using next

theorem run_shard (settings : GatewaySettings) (shard : Shard)
    (history : List (Circumstances × Stimulus)) :
    ((start settings shard).connection.run history).connection.session.shard = shard := by
  rw [run_keeps_shard]
  rfl

theorem run_inTurn (settings : GatewaySettings) (shard : Shard)
    (history : List (Circumstances × Stimulus))
    (greeted : GreetedFirst (story settings shard history)) :
    AllInTurn (story settings shard history) := by
  induction history using List.reverseRecOn with
  | nil =>
    intro before later split
    have member : Sighting.deed .identified ∈ [.deed .askTurn] := by
      change [Sighting.deed .askTurn] = _ at split
      simp [split]
    simp at member
  | append_singleton history last ih =>
    let c := ((start settings shard).connection.run history).connection
    have grows : story settings shard (history ++ [last]) =
        story settings shard history ++ c.sightings last.1 last.2 := by
      unfold story
      rw [log_append, ← List.append_assoc]
      simp [log, c]
    rw [grows] at greeted ⊢
    intro before later split
    rcases split_append split with ⟨rest, front, _⟩ | ⟨rest, front, back⟩
    · exact ih greeted.of_append before rest front
    · rw [front]
      unfold sightings at greeted back
      rw [← List.append_assoc] at greeted
      exact (step_moves last.1 c last.2).turnTaken (run_accounted settings shard history)
        greeted.of_append back

/-- If each socket greets at most once and before anything else, then before every identification,
    after the end of the last socket and before the opening of this one, a turn was asked for and
    granted, and each has a turn of its own.  No turn is asked for while there is a session. -/
theorem identifies_in_own_turn (settings : GatewaySettings) (shard : Shard)
    (history : List (Circumstances × Stimulus)) :
    let c := ((start settings shard).connection.run history).connection
    let log := story settings shard history
    (GreetedFirst log →
      (∀ before later, log = before ++ .deed .identified :: later → TurnTaken before) ∧
      ∀ before between later,
        log = before ++ .deed .identified :: (between ++ .deed .identified :: later) →
        .granted ∈ between) ∧
    c.session.shard = shard ∧
    (c.stage = .queueing → c.session.hasSession = false) ∧
    ∀ s i, .askTurn ∈ (c.step s i).deeds →
      c.session.hasSession = false ∧ (c.step s i).connection.session.hasSession = false := by
  intro c log
  refine ⟨?_, run_shard settings shard history, ?_, ?_⟩
  · intro greeted
    have turns : AllInTurn log := run_inTurn settings shard history greeted
    exact ⟨turns, fun before between later split => turns.distinct split⟩
  · intro stage
    have accounted := run_accounted settings shard history
    simp only [Accounted, c, stage] at accounted
    exact accounted.1
  · intro s i asked
    exact (step_moves s c i).asks asked

/-- A socket is left as soon as the connection has identified; on the next one it identifies again. -/
theorem second_identification_has_second_turn :
    let around : Circumstances := ⟨.steady 0, .ofNat 1, true, fun _ => true, none⟩
    let greeting : Stimulus := .heard (.text "[10,[45000]]")
    let once := [(around, .turn), (around, .dialed .opened), (around, greeting)]
    let hello : Packet := ⟨.hello, some (.list [.number (.whole 45000)]), none, none⟩
    let attempt : List Sighting := [.deed .askTurn, .granted, .deed .dial]
    let talk : List Sighting := [.deed (.phase .handshaking)]
    let leaving : List Sighting := [.deed (.phase .identifying), .deed (.write (.close .resumable)),
      .deed (.phase .disconnected), .deed .closed, .deed (.retried 0)]
    let before := attempt ++ .deed (.opened 0) :: (talk ++ [.packet hello, .deed .received])
    let log := story { token := "token" } ⟨0, 1⟩ (once ++ (around, .command .reconnect) :: once)
    let c := ((start { token := "token" } ⟨0, 1⟩).connection.run once).connection
    let waiting :=
      ((start { token := "token" } ⟨0, 1⟩).connection.run (once ++ [(around, .command .reconnect)])).connection
    log = before ++ .deed .identified :: (leaving ++ before ++
      .deed .identified :: [.deed (.phase .identifying)]) ∧
      GreetedFirst log ∧ TurnTaken before ∧ .granted ∈ leaving ++ before ∧
      .askTurn ∈ (c.step around (.command .reconnect)).deeds ∧ c.session.hasSession = false ∧
      waiting.stage = .queueing ∧ waiting.session.hasSession = false := by
  intro around greeting once hello attempt talk leaving before log c waiting
  have shape : log = before ++ .deed .identified :: (leaving ++ before ++
      .deed .identified :: [.deed (.phase .identifying)]) := by decide +kernel
  have asked : Deed.askTurn ∈ (c.step around (.command .reconnect)).deeds := by decide +kernel
  have queues : waiting.stage = .queueing := by decide +kernel
  have greeted : GreetedFirst log := by
    intro front p later split _
    have packets : log = (attempt ++ .deed (.opened 0) :: talk) ++ .packet hello ::
        ((.deed .received :: .deed .identified :: (leaving ++ attempt)) ++ .deed (.opened 0) :: talk ++
          .packet hello :: [.deed .received, .deed .identified, .deed (.phase .identifying)]) := by
      rw [shape]
      simp [before]
    rw [packets] at split
    -- a split at a packet is at one of the two greetings, each the first on its socket
    rcases split_cons split with ⟨here, _, _⟩ | ⟨rest, front', back⟩ | ⟨rest, early, _⟩
    · exact ⟨attempt, 0, talk, here, by simp [talk]⟩
    · rcases split_cons back with ⟨here, _, _⟩ | ⟨rest', _, late⟩ | ⟨rest', between, _⟩
      · exact ⟨_, 0, talk, by rw [front', here, ← List.cons_append, ← List.append_assoc],
          by simp [talk]⟩
      · have member : Sighting.packet p ∈
            [Sighting.deed .received, .deed .identified, .deed (.phase .identifying)] := by simp [late]
        simp at member
      · have member : Sighting.packet p ∈ (Sighting.deed .received :: .deed .identified ::
            (leaving ++ attempt)) ++ .deed (.opened 0) :: talk := by simp [between]
        simp [leaving, attempt, talk] at member
    · have member : Sighting.packet p ∈ attempt ++ Sighting.deed (.opened 0) :: talk := by simp [early]
      simp [attempt, talk] at member
  obtain ⟨turns, _⟩ := identifies_in_own_turn { token := "token" } ⟨0, 1⟩
    (once ++ (around, .command .reconnect) :: once)
  obtain ⟨_, _, _, asks⟩ := identifies_in_own_turn { token := "token" } ⟨0, 1⟩ once
  obtain ⟨_, _, waits, _⟩ := identifies_in_own_turn { token := "token" } ⟨0, 1⟩
    (once ++ [(around, .command .reconnect)])
  obtain ⟨own, distinct⟩ := turns greeted
  exact ⟨shape, greeted, own before _ shape, distinct before _ _ shape, asked, (asks _ _ asked).1,
    queues, waits queues⟩

end Connection
end SessionFleet
