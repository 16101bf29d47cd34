import SessionFleet.Proofs.Connection.ToldPhases
/- However a socket ends, nothing is left of it: not in the session, not in what the owner was told,
   and not in what the fleet shows of the shard. -/
namespace SessionFleet
namespace Connection

variable {s : Circumstances} {c : Connection} {i : Stimulus}

/-- All that a connection does from its launch on. -/
def lifetime (settings : GatewaySettings) (shard : Shard) (launched : Instant)
    (history : List (Circumstances × Stimulus)) : List (Instant × Deed) :=
  let begun := start settings shard
  (begun.deeds.map fun d => (launched, d)) ++ observed timed begun.connection history

theorem lifetime_concat (settings : GatewaySettings) (shard : Shard) (launched : Instant)
    (history : List (Circumstances × Stimulus)) (last : Circumstances × Stimulus) :
    lifetime settings shard launched (history ++ [last]) =
      lifetime settings shard launched history ++
        timed last.1 ((start settings shard).connection.run history).connection last.2 := by
  simp only [lifetime]
  rw [observed_concat, List.append_assoc]

theorem lifetime_ne_nil (settings : GatewaySettings) (shard : Shard) (launched : Instant)
    (history : List (Circumstances × Stimulus)) : lifetime settings shard launched history ≠ [] := by
  simp [lifetime, start]

theorem lifetime_deeds (settings : GatewaySettings) (shard : Shard) (launched : Instant)
    (history : List (Circumstances × Stimulus)) :
    (lifetime settings shard launched history).map Prod.snd =
      (start settings shard).deeds ++ ((start settings shard).connection.run history).deeds := by
  have later (c : Connection) : (observed timed c history).map Prod.snd = (c.run history).deeds := by
    induction history generalizing c with
    | nil => rfl
    | cons e rest ih =>
      simp only [observed, List.map_append, run, Advance.also]
      rw [timed_deeds, ih]
  simp only [lifetime, List.map_append, List.map_map]
  rw [later]
  exact congrArg (· ++ _) (List.map_id _)

theorem told_lifetime (settings : GatewaySettings) (shard : Shard) (launched : Instant)
    (history : List (Circumstances × Stimulus)) :
    told ((lifetime settings shard launched history).map Prod.snd) =
      told ((start settings shard).connection.run history).deeds := by
  rw [lifetime_deeds, told_append]
  rfl

theorem Reaction.stays_or_ends {a : Advance} (reaction : Reaction s c i a) (stage : c.stage = .online) :
    (a.connection.stage = .online ∨ a.connection.stage = .stopped .crashed) ∨
      ∃ why code, SocketEnd s c i why code := by
  have converses (j : SessionInput) : (c.converse s j).connection.stage = .online ∨
      (c.converse s j).connection.stage = .stopped .crashed := by
    obtain ⟨outbox, crashed | survived⟩ := converse_cases s j stage
    · rw [crashed]
      exact Or.inr rfl
    · rw [survived]
      exact Or.inl stage
  cases reaction with
  | ignores | counts | pongs | flushes | sends => exact Or.inl (Or.inl stage)
  | hears => exact Or.inl (converses (.frame _))
  | ticks g => exact Or.inl (converses (.tick g))
  | parts why code _ _ ends => exact Or.inr ⟨why, code, ends⟩
  | enters other | fails _ _ other | retries other | resumes other | dials other =>
    rw [stage] at other
    cases other
  | obeys other => simp [stage] at other

/-- What the end of an open socket comes to. -/
theorem SocketEnd.closes {why : Parting} {code : Option CloseCode} (ends : SocketEnd s c i why code)
    (stage : c.stage = .online) :
    ∃ outbox rest,
      c.step s i =
        ⟨rest.connection, farewell s code ++ c.news .disconnected ++ .closed :: rest.deeds⟩ ∧
      Wanders { c with session := c.session.closed, outbox, reported := .disconnected } rest := by
  obtain ⟨outbox, left⟩ := ends.parts stage
  obtain ⟨rest, parted, wanders⟩ := parts_closed s why code outbox stage
  exact ⟨outbox, rest, left.trans parted, wanders⟩

/-- An open socket stays open, or the connection crashes, or the socket comes to one of its ends. -/
theorem leaves_iff (s : Circumstances) (stage : c.stage = .online) (i : Stimulus) :
    (c.step s i).connection.stage ≠ .online ∧ (c.step s i).connection.stage ≠ .stopped .crashed ↔
      ∃ why code, SocketEnd s c i why code := by
  constructor
  · rintro ⟨offline, lives⟩
    rcases (step_reaction s c i).stays_or_ends stage with (online | crashed) | ends
    · exact absurd online offline
    · exact absurd crashed lives
    · exact ends
  · rintro ⟨why, code, ends⟩
    obtain ⟨outbox, rest, turn, wanders⟩ := ends.closes stage
    rw [turn]
    exact ⟨wanders.offline, wanders.lives⟩

/-- Whatever the gauge showed before, after the end of a socket it shows that none is open. -/
theorem SocketEnd.darkens {why : Parting} {code : Option CloseCode} (ends : SocketEnd s c i why code)
    (stage : c.stage = .online) (synced : c.Synced) (g : Gauge) :
    (g.recordAll (timed s c i)).Dark ∧ (g.recordAll (timed s c i)).phase = .disconnected := by
  obtain ⟨outbox, rest, turn, wanders⟩ := ends.closes stage
  have changes : Phase.disconnected ≠ c.reported := by
    rw [synced.reported (by simp [stage])]
    exact (synced.working stage).symm
  have done : timed s c i =
      ((farewell s code ++ c.news .disconnected).map fun d => (s.moment.now, d)) ++
        (s.moment.now, .closed) :: rest.deeds.map fun d => (s.moment.now, d) := by
    simp [timed, turn]
  constructor
  · rw [done, Gauge.recordAll_append]
    apply Gauge.recordAll_dark
    intro e member
    obtain ⟨d, later, same⟩ := List.mem_map.mp member
    rw [← same]
    exact wanders.unseen d later
  · have phase : (c.step s i).connection.session.phase = .disconnected := by
      rw [turn, wanders.session]
      rfl
    rw [Gauge.recordAll_phase, timed_deeds]
    cases (step_reaction s c i).tells synced with
    | crashes crashed =>
      rw [turn] at crashed
      exact absurd crashed wanders.lives
    | survives _ _ said =>
      rw [said, phase, if_neg changes]
      rfl

theorem gauge_of_lifetime {settings : GatewaySettings} {shard : Shard} {launched : Instant}
    {history : List (Circumstances × Stimulus)} {earlier : List (Instant × Deed)} {log : DeedLog}
    (own : DeedLog.of shard.id log = earlier ++ lifetime settings shard launched history) :
    (({} : Metrics).recordLog log).gauge? shard.id =
      some ((({ shard := shard.id } : Gauge).recordAll earlier).recordAll
        (lifetime settings shard launched history)) := by
  have done : earlier ++ lifetime settings shard launched history ≠ [] :=
    List.append_ne_nil_of_right_ne_nil _ (lifetime_ne_nil settings shard launched history)
  rw [Metrics.gauge?_recordLog, own, if_neg done, Gauge.recordAll_append]

/-- On every run of a connection the phases that are told are those after its steps, without
    repetitions, and the fleet shows the one that was told last.  Without a socket the session is at
    rest.  Unless the connection crashes, an open socket comes to one of its ends; then the session is
    as it was, except that it is disconnected, runs no schedule and knows no latency, and the fleet
    shows the same.  What other shards do meanwhile, or the shard did before, makes no difference. -/
theorem every_socket_end_cleans_up (settings : GatewaySettings) (shard : Shard)
    (history : List (Circumstances × Stimulus)) (launched : Instant)
    (earlier : List (Instant × Deed)) :
    let first := (start settings shard).connection
    let c := (first.run history).connection
    .disconnected :: told (first.run history).deeds =
        (.disconnected :: observed settled first history).destutter (· ≠ ·) ∧
      (∀ log, DeedLog.of shard.id log = earlier ++ lifetime settings shard launched history →
        ∃ g, (({} : Metrics).recordLog log).gauge? shard.id = some g ∧
          g.phase = (told (earlier.map Prod.snd) ++ told (first.run history).deeds).getLastD
            .disconnected) ∧
      (c.stage ≠ .online → c.stage ≠ .stopped .crashed → c.session.AtRest) ∧
      (c.stage = .online → ∀ s i,
        let after := (c.step s i).connection
        (after.stage ≠ .online ∧ after.stage ≠ .stopped .crashed ↔
          ∃ why code, SocketEnd s c i why code) ∧
        ∀ why code, SocketEnd s c i why code →
          after.session = { c.session with
            pacer := .idle
            health := c.session.health.clearLatency
            phase := .disconnected } ∧
          ∀ log, DeedLog.of shard.id log =
              earlier ++ lifetime settings shard launched (history ++ [(s, i)]) →
            ∃ g, (({} : Metrics).recordLog log).gauge? shard.id = some g ∧
              g.isConnected = false ∧ g.latency = none ∧ g.phase = .disconnected) := by
  intro first c
  have synced : c.Synced := run_synced settings shard history
  refine ⟨?_, ?_, synced.resting, ?_⟩
  · rw [told_deeds]
    exact told_run (start_synced settings shard) history
  · intro log own
    refine ⟨_, gauge_of_lifetime own, ?_⟩
    rw [← Gauge.recordAll_append, Gauge.recordAll_phase, List.map_append, told_append, told_lifetime]
  · intro stage s i after
    refine ⟨leaves_iff s stage i, ?_⟩
    intro why code ends
    obtain ⟨outbox, rest, turn, wanders⟩ := ends.closes stage
    refine ⟨?_, ?_⟩
    · simp only [after]
      rw [turn, wanders.session]
      rfl
    · intro log own
      have shown := gauge_of_lifetime own
      rw [lifetime_concat, Gauge.recordAll_append] at shown
      obtain ⟨dark, phase⟩ := ends.darkens stage synced
        ((({ shard := shard.id } : Gauge).recordAll earlier).recordAll
          (lifetime settings shard launched history))
      exact ⟨_, shown, dark.connected, dark.latency, phase⟩

/-- A heartbeat has been answered when the stream of the socket ends, and another shard is connected
    meanwhile.  An earlier connection of the shard crashed on its socket, which is what is shown when this
    one is launched. -/
theorem ended_stream_leaves_nothing :
    let around : Circumstances := ⟨.steady 0, .ofNat 1, true, fun _ => true, none⟩
    let harsh : Circumstances := { around with survives := fun _ => false }
    let settings : GatewaySettings := { token := "token", connection.lowLatency := true }
    let history : List (Circumstances × Stimulus) := [(around, .turn), (around, .dialed .opened),
      (around, .heard (.text "[10,[45000]]")), (around, .tick 1), (around, .heard (.text "[11,null]"))]
    let earlier := lifetime settings ⟨0, 1⟩ 0
      (history ++ [(harsh, .heard (.text "[0,\x7b\x7d,1,\"GUILD_CREATE\"]"))])
    let left := ({ shard := 0 } : Gauge).recordAll earlier
    let first := (start settings ⟨0, 1⟩).connection
    let c := (first.run history).connection
    let after := (c.step around (.heard .ended)).connection
    let done := lifetime settings ⟨0, 1⟩ 0 (history ++ [(around, .heard .ended)])
    let log : DeedLog := (1, 0, .phase .connected) :: (earlier ++ done).map fun e => (0, e)
    c.stage = .online ∧ c.session.pacer.isRunning = true ∧ c.session.health.latency = some 0 ∧
      SocketEnd around c (.heard .ended) .lost none ∧
      after.session.pacer = .idle ∧ after.session.health.latency = none ∧
      left.isConnected = true ∧ left.latency = some 0 ∧ left.phase = .identifying ∧
      DeedLog.of 0 log = earlier ++ done ∧
      ∃ g, (({} : Metrics).recordLog log).gauge? 0 = some g ∧
        g.isConnected = false ∧ g.latency = none ∧ g.phase = .disconnected := by
  intro around harsh settings history earlier left first c after done log
  have stage : c.stage = .online := by decide +kernel
  have running : c.session.pacer.isRunning = true := by decide +kernel
  have latency : c.session.health.latency = some 0 := by decide +kernel
  have own : DeedLog.of 0 log = earlier ++ done := by decide +kernel
  have ends : SocketEnd around c (.heard .ended) .lost none := .ended
  obtain ⟨_, _, _, leaves⟩ := every_socket_end_cleans_up settings ⟨0, 1⟩ history 0 earlier
  obtain ⟨_, cleans⟩ := leaves stage around (.heard .ended)
  obtain ⟨session, shown⟩ := cleans _ _ ends
  refine ⟨stage, running, latency, ends, ?_, ?_, by decide +kernel, by decide +kernel,
    by decide +kernel, own, shown log own⟩
  · rw [session]
  · rw [session]
    rfl

end Connection
end SessionFleet
