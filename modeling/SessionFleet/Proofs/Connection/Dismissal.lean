import SessionFleet.Proofs.Connection.OpenSockets
import SessionFleet.Proofs.Fleet.FleetRuns
/- A connection that is told to stop does so for good, wherever it takes the command up, and nothing
   else ends it in this way.  It leaves no socket open; what an earlier connection of the shard has
   left open is another matter. -/
namespace SessionFleet
namespace Connection

variable {s : Circumstances} {c : Connection} {i : Stimulus}

theorem run_stopped {how : Ending} (stage : c.stage = .stopped how)
    (history : List (Circumstances × Stimulus)) : c.run history = ⟨c, []⟩ := by
  induction history with
  | nil => rfl
  | cons e rest ih =>
    simp only [run, Advance.also]
    rw [step_stopped stage, ih, List.append_nil]

theorem isStopped_iff (c : Connection) : c.isStopped = true ↔ ∃ how, c.stage = .stopped how := by
  unfold isStopped
  split <;> simp_all

theorem run_isStopped (stopped : c.isStopped = true) (history : List (Circumstances × Stimulus)) :
    (c.run history).connection.isStopped = true := by
  obtain ⟨how, stage⟩ := (isStopped_iff c).mp stopped
  rw [run_stopped stage]
  exact stopped

theorem run_deeds_append (c : Connection) (before later : List (Circumstances × Stimulus)) :
    (c.run (before ++ later)).deeds =
      (c.run before).deeds ++ ((c.run before).connection.run later).deeds := by
  induction before generalizing c with
  | nil => rfl
  | cons e rest ih =>
    simp only [List.cons_append, run, Advance.also]
    rw [ih, List.append_assoc]

theorem offline_of_listens (listens : c.listens = true) (offline : c.stage ≠ .online) :
    c.stage = .cooling ∨ c.stage = .pausing ∨ c.stage = .queueing := by
  unfold Connection.listens at listens
  split at listens
  · exact Or.inl ‹_›
  · exact Or.inr (Or.inl ‹_›)
  · exact Or.inr (Or.inr ‹_›)
  · exact absurd ‹_› offline
  · cases listens
  · cases listens

/- What the command comes to. -/

theorem dismissed_online (s : Circumstances) (stage : c.stage = .online) :
    c.step s (.command .close) =
      ⟨{ c with session := c.session.closed, reported := .disconnected, stage := .stopped .told },
        farewell s (some .normal) ++ (c.news .disconnected ++ [.closed])⟩ := by
  have parted := part_eq s .told c
  rw [converse_closed s stage] at parted
  rw [step_command stage]
  simp only [obey, hangUp, Advance.also]
  rw [parted]
  rfl

theorem dismissed_offline (s : Circumstances)
    (stage : c.stage = .cooling ∨ c.stage = .pausing ∨ c.stage = .queueing) :
    c.step s (.command .close) = ⟨{ c with stage := .stopped .told }, [.leave]⟩ := by
  rcases stage with stage | stage | stage <;> simp only [step, stage] <;> rfl

theorem dismissed_stage (s : Circumstances) (listens : c.listens = true) :
    (c.step s (.command .close)).connection.stage = .stopped .told := by
  by_cases online : c.stage = .online
  · rw [dismissed_online s online]
  · rw [dismissed_offline s (offline_of_listens listens online)]

/-- On the way to its end a connection turns to no socket and no arbiter any more. -/
theorem dismissed_turns_away (s : Circumstances) (listens : c.listens = true) :
    ∀ d ∈ (c.step s (.command .close)).deeds, d ≠ .askTurn ∧ d ≠ .dial ∧ ∀ n, d ≠ .opened n := by
  intro d member
  by_cases online : c.stage = .online
  · rw [dismissed_online s online] at member
    rcases List.mem_append.mp member with written | later
    · obtain ⟨f, write⟩ := farewell_writes s (some .normal) d written
      simp [write]
    · rcases List.mem_append.mp later with told | closed
      · unfold news at told
        split at told
        · cases told
        · simp [List.mem_singleton.mp told]
      · simp [List.mem_singleton.mp closed]
  · rw [dismissed_offline s (offline_of_listens listens online)] at member
    simp [List.mem_singleton.mp member]

/- Nothing else comes to that. -/

theorem WayOn.going {a : Advance} (way : WayOn c a) (how : Ending) :
    a.connection.stage ≠ .stopped how := by
  cases way with
  | mk _ _ _ _ _ _ heading => cases heading <;> simp

theorem fail_untold (s : Circumstances) (e : FleetError) (c : Connection) :
    (c.fail s e).connection.stage ≠ .stopped .told := by
  have failing := fail_failing s e c
  generalize c.fail s e = a at failing ⊢
  cases failing with
  | absorbed _ _ way => exact way.going .told
  | counted _ _ way => exact way.going .told
  | broken | refused | exhausted => simp

theorem converse_untold (s : Circumstances) (j : SessionInput) (stage : c.stage = .online) :
    (c.converse s j).connection.stage ≠ .stopped .told := by
  rcases (converse_carried s j c).stage with same | crashed
  · rw [same]
    simp [stage]
  · simp [crashed]

theorem SocketEnd.dismissed_of_told {why : Parting} {code : Option CloseCode} {outbox : List Order}
    (ends : SocketEnd s c i why code)
    (told : ({ c with outbox }.part s why).connection.stage = .stopped .told) :
    i = .command .close := by
  rw [part_eq] at told
  cases ends with
  | closed | ended => exact absurd told ((again_way s _).going .told)
  | broken | unanswered | unflushed | unsent => exact absurd told (fail_untold s _ _)
  | givenUp | renewed => exact absurd told ((again_way s _).going .told)
  | dismissed => rfl

theorem Reaction.dismissed_of_told {a : Advance} (reaction : Reaction s c i a)
    (told : a.connection.stage = .stopped .told) :
    c.stage = .stopped .told ∨ i = .command .close ∧ c.listens = true := by
  cases reaction with
  | ignores => exact Or.inl told
  | counts stage | pongs _ stage | flushes stage | sends _ stage =>
    rw [show _ = c.stage from rfl, stage] at told
    cases told
  | hears stage => exact absurd told (converse_untold s _ stage)
  | ticks g stage => exact absurd told (converse_untold s _ stage)
  | parts why code outbox stage ends =>
    exact Or.inr ⟨ends.dismissed_of_told told, by simp [listens, stage]⟩
  | enters =>
    exact absurd told (converse_untold (c := { c with stage := .online, outbox := [] }) s .opened rfl)
  | fails d e => exact absurd told (fail_untold s e c)
  | retries => exact absurd told ((pause_way s c.closeBreaker).going .told)
  | resumes => exact absurd told ((approach_way c).going .told)
  | dials => cases told
  | obeys stage =>
    refine Or.inr ⟨rfl, ?_⟩
    rcases stage with stage | stage | stage <;> simp [listens, stage]

theorem told_iff_dismissed (settings : GatewaySettings) (shard : Shard)
    (history : List (Circumstances × Stimulus)) :
    let first := (start settings shard).connection
    (first.run history).connection.stage = .stopped .told ↔
      ∃ before s later, history = before ++ (s, .command .close) :: later ∧
        (first.run before).connection.listens = true := by
  intro first
  constructor
  · intro told
    -- it was told before the last thing that happened, or that was the command
    induction history using List.reverseRecOn with
    | nil => cases told
    | append_singleton history last ih =>
      rw [run_concat] at told
      rcases (step_reaction last.1 _ last.2).dismissed_of_told told with before | ⟨close, listens⟩
      · obtain ⟨before, s, later, split, listens⟩ := ih before
        exact ⟨before, s, later ++ [last], by simp [split], listens⟩
      · exact ⟨history, last.1, [], by rw [← close], listens⟩
  · rintro ⟨before, s, later, split, listens⟩
    rw [split, run_append]
    simp only [run, Advance.also]
    rw [run_stopped (dismissed_stage s listens)]
    exact dismissed_stage s listens

/-- After a connection that was told to stop only a socket of an earlier one can be shown. -/
theorem shown_when_told {settings : GatewaySettings} {shard : Shard}
    {history : List (Circumstances × Stimulus)} (launched : Instant)
    (told : ((start settings shard).connection.run history).connection.stage = .stopped .told)
    (past : List (Forerunner shard.id)) :
    ((({ shard := shard.id } : Gauge).recordAll (past.flatMap Forerunner.deeds)).recordAll
        (lifetime settings shard launched history)).isConnected = true ↔
      (∀ n, .opened n ∉ ((start settings shard).connection.run history).deeds) ∧
        Forerunner.LeftOpen past := by
  let present : Forerunner shard.id :=
    ⟨settings, shard.total, launched, history, (isStopped_iff _).mpr ⟨.told, told⟩⟩
  have whole : ¬ present.Crashed := by
    intro crashed
    have ending : Stage.stopped .told = .stopped .crashed := told.symm.trans crashed
    cases ending
  rw [Gauge.recordAll_connected]
  refine (present.shows_iff _).trans ?_
  rw [Forerunner.past_shows_iff]
  exact or_iff_right whole

/-- A connection has stopped because it was told to just if it has taken up the command to close, be it
    while it waited for the breaker, for the next attempt or for its turn, or on an open socket.  An open
    socket is closed normally first.  From the command on it opens no socket, asks for no turn, and
    does nothing at all any more, whatever happens.  The fleet shows that it is not connected if no
    earlier connection of the shard has crashed.  A crash goes on being shown as an open socket, and
    only a socket that a later connection opens puts an end to that. -/
theorem close_is_final (settings : GatewaySettings) (shard : Shard)
    (history : List (Circumstances × Stimulus)) (launched : Instant) :
    let first := (start settings shard).connection
    let c := (first.run history).connection
    (c.stage = .stopped .told ↔
      ∃ before s later, history = before ++ (s, .command .close) :: later ∧
        (first.run before).connection.listens = true) ∧
      ∀ before s later, history = before ++ (s, .command .close) :: later →
        let there := (first.run before).connection
        let last := there.step s (.command .close)
        there.listens = true →
          c = last.connection ∧ c.stage = .stopped .told ∧
          (first.run history).deeds = (first.run before).deeds ++ last.deeds ∧
          (∀ d ∈ last.deeds, d ≠ .askTurn ∧ d ≠ .dial ∧ ∀ n, d ≠ .opened n) ∧
          (there.stage = .online → last.deeds =
            farewell s (some .normal) ++ (there.news .disconnected ++ [.closed])) ∧
          (there.stage ≠ .online → last.deeds = [.leave]) ∧
          ∀ (past : List (Forerunner shard.id)) log, DeedLog.of shard.id log =
              past.flatMap Forerunner.deeds ++ lifetime settings shard launched history →
            ∃ g, (({} : Metrics).recordLog log).gauge? shard.id = some g ∧
              ((∀ t ∈ past, ¬ t.Crashed) → g.isConnected = false) ∧
              (g.isConnected = true ↔
                (∀ n, .opened n ∉ (first.run history).deeds) ∧ Forerunner.LeftOpen past) := by
  intro first c
  refine ⟨told_iff_dismissed settings shard history, ?_⟩
  intro before s later split there last listens
  have told : last.connection.stage = .stopped .told := dismissed_stage s listens
  have rest : last.connection.run later = ⟨last.connection, []⟩ := run_stopped told later
  have stays : c = last.connection := by
    have onward : c = (last.connection.run later).connection := by
      simp only [c]
      rw [split, run_append]
      rfl
    rw [onward, rest]
  have done : (first.run history).deeds = (first.run before).deeds ++ last.deeds := by
    rw [split, run_deeds_append]
    simp only [run, Advance.also]
    rw [rest, List.append_nil]
  refine ⟨stays, stays ▸ told, done, dismissed_turns_away s listens, ?_, ?_, ?_⟩
  · intro online
    exact congrArg Advance.deeds (dismissed_online s online)
  · intro offline
    exact congrArg Advance.deeds (dismissed_offline s (offline_of_listens listens offline))
  · intro past log own
    have shown := shown_when_told launched (stays ▸ told) past
    refine ⟨_, gauge_of_lifetime own, ?_, shown⟩
    intro whole
    refine Bool.eq_false_iff.mpr ?_
    intro lit
    obtain ⟨_, _, t, _, split, crashed, _⟩ := shown.mp lit
    exact whole t (by simp [split]) crashed

/-- The command comes on an open socket, another one and what belongs to a new attempt come after it,
    and another shard is connected meanwhile.  Of the connections before, one crashed on its socket or
    was told to stop on it, and one was told to stop while it waited for its turn. -/
theorem closed_socket_stays_closed :
    let around : Circumstances := ⟨.steady 0, .ofNat 1, true, fun _ => true, none⟩
    let settings : GatewaySettings := { token := "token", connection.lowLatency := true }
    let greeted : List (Circumstances × Stimulus) :=
      [(around, .turn), (around, .dialed .opened), (around, .heard (.text "[10,[45000]]"))]
    let strike : Circumstances × Stimulus := ({ around with survives := fun _ => false },
      .heard (.text "[0,\x7b\x7d,1,\"GUILD_CREATE\"]"))
    let stop : Circumstances × Stimulus := (around, .command .close)
    let struck : Forerunner 0 := ⟨settings, 1, 0, greeted ++ [strike], by decide +kernel⟩
    let closed : Forerunner 0 := ⟨settings, 1, 0, greeted ++ [stop], by decide +kernel⟩
    let unopened : Forerunner 0 := ⟨settings, 1, 0, [stop], by decide +kernel⟩
    let history := greeted ++ stop :: [stop, (around, .turn), (around, .dialed .opened)]
    let first := (start settings ⟨0, 1⟩).connection
    let c := (first.run history).connection
    let there := (first.run greeted).connection
    let own (past : List (Forerunner 0)) :=
      past.flatMap Forerunner.deeds ++ lifetime settings ⟨0, 1⟩ 0 history
    let log (past : List (Forerunner 0)) : DeedLog :=
      (1, 0, .opened 0) :: (own past).map fun e => (0, e)
    there.listens = true ∧ there.stage = .online ∧ c.stage = .stopped .told ∧
      (first.run history).deeds = (first.run greeted).deeds ++
        (farewell around (some .normal) ++ (there.news .disconnected ++ [.closed])) ∧
      .opened 0 ∈ (first.run greeted).deeds ∧ .write (.close .normal) ∈ (first.run history).deeds ∧
      struck.Crashed ∧ .opened 0 ∈ struck.run.deeds ∧ .opened 0 ∈ closed.run.deeds ∧
      ∀ past ∈ [[struck, unopened], [closed, unopened]],
        DeedLog.of 0 (log past) = own past ∧
          ∃ g, (({} : Metrics).recordLog (log past)).gauge? 0 = some g ∧ g.isConnected = false := by
  intro around settings greeted strike stop struck closed unopened history first c there own log
  have listens : there.listens = true := by decide +kernel
  have online : there.stage = .online := by decide +kernel
  have opened : .opened 0 ∈ (first.run history).deeds := by decide +kernel
  have crashed : struck.run.connection.stage = .stopped .crashed := by decide +kernel
  have ofStruck : DeedLog.of 0 (log [struck, unopened]) = own [struck, unopened] := by decide +kernel
  have ofClosed : DeedLog.of 0 (log [closed, unopened]) = own [closed, unopened] := by decide +kernel
  have whole : ∀ t ∈ [closed, unopened], t.run.connection.stage ≠ .stopped .crashed := by
    decide +kernel
  obtain ⟨_, final⟩ := close_is_final settings ⟨0, 1⟩ history 0
  obtain ⟨_, told, done, _, sent, _, shown⟩ := final greeted around _ rfl listens
  refine ⟨listens, online, told, ?_, by decide +kernel, by decide +kernel, crashed, by decide +kernel,
    by decide +kernel, ?_⟩
  · rw [done, sent online]
  · intro past member
    simp only [List.mem_cons, List.not_mem_nil, or_false] at member
    rcases member with harmed | harmless
    · rw [harmed]
      obtain ⟨g, gauge, _, lit⟩ := shown _ _ ofStruck
      refine ⟨ofStruck, g, gauge, Bool.eq_false_iff.mpr ?_⟩
      intro on
      exact (lit.mp on).1 0 opened
    · rw [harmless]
      obtain ⟨g, gauge, dark, _⟩ := shown _ _ ofClosed
      exact ⟨ofClosed, g, gauge, dark whole⟩

/-- The handler panics on an event of the only shard, and takes the connection down with its socket.  The
    fleet is shut down and started again, and the new connection is told to stop while it waits for
    its turn.  It has opened no socket, and the fleet shows one after it has stopped. -/
theorem dismissed_shard_still_shown :
    let around : Circumstances := ⟨.steady 0, .ofNat 1, true, fun _ => true, none⟩
    let settings : GatewaySettings := { token := "token", connection.lowLatency := true }
    let event (i : FleetInput) : FleetEvent := .input (fun _ => none) around i
    let start : FleetInput := .call 0 (.start ⟨0, 0, 1, settings⟩)
    let strike : FleetEvent := .input (fun _ => none) { around with survives := fun _ => false }
      (.stimulus 0 (.heard (.text "[0,\x7b\x7d,1,\"GUILD_CREATE\"]")))
    let crashed := (Fleet.create settings).after [event start, event (.stimulus 0 .turn),
      event (.stimulus 0 (.dialed .opened)), event (.stimulus 0 (.heard (.text "[10,[45000]]"))), strike]
    let again := crashed.after [event (.call 1 .shutdown), event start, event (.call 2 .shutdown)]
    let ended := again.after [event (.mail 0)]
    crashed.crew.map (·.connection.stage) = [.stopped .crashed] ∧
      again.crew.map (fun m => (m.connection.stage, m.mailbox)) = [(.queueing, [.close])] ∧
      again.crew.map (fun m => (m.connection.step around (.command .close)).connection.stage) =
        [.stopped .told] ∧
      ended.crew = [] ∧ ended.underway = none ∧
      (ended.metrics.gauge? 0).map (·.isConnected) = some true ∧
      ended.metrics.health (.ofRatio false 1 2) = (1, 1, true) := by
  decide +kernel

end Connection
end SessionFleet
