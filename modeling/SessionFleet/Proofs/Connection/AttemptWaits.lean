import SessionFleet.Proofs.Connection.AttemptCounts
/- What is waited for before each attempt.  The breaker is waited out first if the last attempt has tripped
   it, then a delay that this attempt has asked for, or else the backoff; and a new session
   needs a turn besides.  Commands that come in on the way, but for the one to close, change nothing. -/
namespace SessionFleet

/-- How long the breaker is to be waited out before the next attempt. -/
def GatewaySettings.breakerWait (settings : GatewaySettings) (os : List Ended) : Span :=
  match os.getLast? with
  | some o => if o.tripped then settings.connection.breakerResetTimeout else 0
  | none => 0

/-- How long to wait before the next attempt as the last one has asked for. -/
def askedDelay (os : List Ended) : Option Span := os.getLast?.bind Ended.requested

/-- How long to wait then: as long as was asked for, and otherwise not at all while all attempts have
    tripped the breaker, and for the backoff once one has not. -/
def GatewaySettings.ownWait (settings : GatewaySettings) (os : List Ended) (draw : Binary64) : Span :=
  (askedDelay os).getD (if os.all (·.tripped) then 0
    else settings.backoff.delay ((sinceRegular os).countP (!·.tripped)) draw)

/-- The breaker has been waited out after these attempts if there was need, and this was drawn last. -/
inductive Cooled (settings : GatewaySettings) (os : List Ended) : List Notch → Binary64 → Prop where
  | atOnce {draw : Binary64} (short : settings.breakerWait os = 0)
      (drawn : ∀ o, os.getLast? = some o → o.draw = draw) : Cooled settings os [] draw
  | waited (long : settings.breakerWait os ≠ 0) (draw : Binary64) :
      Cooled settings os [.waits (settings.breakerWait os), .elapsed draw] draw

/-- Both waits are over. -/
inductive Rested (settings : GatewaySettings) (os : List Ended) : List Notch → Prop where
  | atOnce {cooling : List Notch} {draw : Binary64} (cooled : Cooled settings os cooling draw)
      (short : settings.ownWait os draw = 0) : Rested settings os cooling
  | waited {cooling : List Notch} {draw : Binary64} (cooled : Cooled settings os cooling draw)
      (long : settings.ownWait os draw ≠ 0) (later : Binary64) :
      Rested settings os (cooling ++ [.waits (settings.ownWait os draw), .elapsed later])

/-- The turn that a new session needs is asked for once. -/
inductive Turned : List Notch → Prop where
  | resumes : Turned []
  | granted : Turned [.asks, .granted]

/-- Where it stands on the way from these attempts to the next one. -/
inductive OnTheWay (settings : GatewaySettings) (os : List Ended) : Stage → List Notch → Prop where
  | cools (long : settings.breakerWait os ≠ 0) (unasked : askedDelay os = none) :
      OnTheWay settings os .cooling [.waits (settings.breakerWait os)]
  | pauses {cooling : List Notch} {draw : Binary64} (cooled : Cooled settings os cooling draw)
      (long : settings.ownWait os draw ≠ 0) :
      OnTheWay settings os .pausing (cooling ++ [.waits (settings.ownWait os draw)])
  | queues {waits : List Notch} (rested : Rested settings os waits) :
      OnTheWay settings os .queueing (waits ++ [.asks])
  | tries {waits turn : List Notch} {stage : Stage} (rested : Rested settings os waits)
      (turned : Turned turn) (begun : stage = .dialing ∨ stage = .online) :
      OnTheWay settings os stage (waits ++ turn ++ [.dials])

/-- Before each of these attempts it has been waited as it is to be after those before it. -/
inductive Scheduled (settings : GatewaySettings) : List Ended → List Notch → Prop where
  | launch : Scheduled settings [] []
  | attempt {os : List Ended} {past waits turn : List Notch} (earlier : Scheduled settings os past)
      (rested : Rested settings os waits) (turned : Turned turn) (o : Ended) :
      Scheduled settings (os ++ [o]) (past ++ (waits ++ turn ++ [.dials]) ++ [.ended o])

namespace Connection

variable {s : Circumstances} {c : Connection} {i : Stimulus} {os : List Ended} {settings : GatewaySettings}
  {shown : List Notch} {draw : Binary64}

theorem Counted.delay_eq (counted : Counted os c) (requested : c.requested = askedDelay os)
    (s : Circumstances) : c.delay s = c.settings.ownWait os s.fraction := by
  rw [delay, GatewaySettings.ownWait, requested, counted.first, counted.attempt]

theorem Onto.ready {held : Session} {stage : Stage} {deeds : List Deed} (onto : Onto held 0 stage deeds)
    (rested : Rested settings os shown) :
    OnTheWay settings os stage (shown ++ deeds.filterMap Deed.notch?) := by
  cases onto with
  | pauses long => exact absurd rfl long
  | queues fresh => exact .queues rested
  | dials resumes =>
    have way := OnTheWay.tries rested .resumes (Or.inl (rfl : Stage.dialing = .dialing))
    rw [List.append_nil] at way
    exact way

theorem pause_onTheWay (cooled : Cooled settings os shown s.fraction)
    (delay : c.delay s = settings.ownWait os s.fraction) :
    OnTheWay settings os (c.pause s).connection.stage
      (shown ++ (c.pause s).deeds.filterMap Deed.notch?) := by
  obtain ⟨stage, deeds, paused, onto⟩ := pause_onto s c
  rw [paused]
  simp only
  rw [delay] at onto
  by_cases short : settings.ownWait os s.fraction = 0
  · rw [short] at onto
    exact onto.ready (.atOnce cooled short)
  · generalize span : settings.ownWait os s.fraction = d at onto short
    cases onto with
    | pauses long =>
      rw [← span] at long ⊢
      exact .pauses cooled long
    | queues | dials => exact absurd rfl short

/-- The next round begins the way from an attempt that has just come to its end. -/
theorem round_onTheWay {o : Ended} (counted : Counted (os ++ [o]) c) (tripped : c.tripped = o.tripped)
    (requested : c.requested = o.requested) (calm : o.tripped = true → o.requested = none)
    (drawn : o.draw = s.fraction) :
    OnTheWay c.settings (os ++ [o]) (c.round s).connection.stage
      ((c.round s).deeds.filterMap Deed.notch?) := by
  have asks : askedDelay (os ++ [o]) = o.requested := by simp [askedDelay]
  have last : ∀ last, (os ++ [o]).getLast? = some last → last.draw = s.fraction := by simp [drawn]
  have delay := counted.delay_eq (requested.trans asks.symm) s
  -- where the breaker is not waited out, the backoff goes by what the attempt has drawn
  have at_once (none : c.settings.breakerWait (os ++ [o]) = 0) :
      Cooled c.settings (os ++ [o]) [] s.fraction := .atOnce none last
  cases trips : c.tripped with
  | false =>
    have untripped : o.tripped = false := tripped.symm.trans trips
    rw [round_closed s trips]
    exact pause_onTheWay (at_once (by simp [GatewaySettings.breakerWait, untripped])) delay
  | true =>
    have breaks : o.tripped = true := tripped.symm.trans trips
    have wait : c.settings.breakerWait (os ++ [o]) = c.settings.connection.breakerResetTimeout := by
      simp [GatewaySettings.breakerWait, breaks]
    rw [round_tripped s trips]
    split
    · next short => exact pause_onTheWay (c := c.closeBreaker) (at_once (wait.trans short)) delay
    · next long =>
      rw [← wait] at long ⊢
      exact .cools long (asks.trans (calm breaks))

/- Along a run. -/

theorem notches_going (unended : c.result s i = none) :
    c.notches s i = c.passes s i ++ (c.step s i).deeds.filterMap Deed.notch? := by
  simp [notches, ended?, unended]

theorem notches_leaving {why : Parting} (result : c.result s i = some why) :
    c.notches s i = .ended ⟨why, (c.step s i).deeds.contains .tripped, s.fraction⟩ ::
      (c.step s i).deeds.filterMap Deed.notch? := by
  have idle : c.passes s i = [] := by
    rcases stage_of_result result with stage | stage <;> simp [passes, stage]
  simp [notches, ended?, result, idle]

theorem notch_of_quiet {deeds : List Deed} (lasting : ∀ d ∈ deeds, d.wayside = false ∨ d = .failed) :
    deeds.filterMap Deed.notch? = [] := by
  apply List.filterMap_eq_nil_iff.mpr
  intro d member
  rcases lasting d member with plain | rfl
  · exact notch_of_lasting plain
  · rfl

theorem GoesOn.onTheWay {a : Advance} (goesOn : GoesOn s c i a) (tallied : Tallied os c)
    (way : OnTheWay c.settings os c.stage shown) (going : a.connection.isStopped = false) :
    OnTheWay c.settings os a.connection.stage
      (shown ++ (c.passes s i ++ a.deeds.filterMap Deed.notch?)) := by
  cases goesOn with
  | stays idle _ stage lasting =>
    rcases stage with stage | ⟨_, crashed⟩
    · rw [idle, notch_of_quiet lasting, stage]
      simpa using way
    · simp [isStopped, crashed] at going
  | enters before idle _ stage lasting =>
    rw [before] at way
    rw [idle, notch_of_quiet fun d member => Or.inl (lasting d member), stage]
    simp only [List.append_nil]
    cases way with
    | tries rested turned => exact .tries rested turned (Or.inr rfl)
  | retries stage =>
    rw [stage] at way
    cases way with
    | cools long unasked =>
      have counted := tallied.counted.closeBreaker (tallied.cools.mpr stage)
      have delay := counted.delay_eq (tallied.requested.trans unasked.symm) s
      have passed : c.passes s .timeUp = [.elapsed s.fraction] := by simp [passes, stage]
      rw [passed, ← List.append_assoc]
      exact pause_onTheWay (.waited long s.fraction) delay
    | tries _ _ begun => simp at begun
  | resumes stage =>
    rw [stage] at way
    cases way with
    | pauses cooled long =>
      obtain ⟨stage, deeds, approached, onto⟩ := approach_onto c
      have passed : c.passes s .timeUp = [.elapsed s.fraction] := by simp [passes, *]
      have rested := Rested.waited cooled long s.fraction
      have way := onto.ready rested
      rw [passed, approached]
      simpa using way
    | tries _ _ begun => simp at begun
  | dials stage =>
    rw [stage] at way
    cases way with
    | queues rested =>
      have passed : c.passes s .turn = [.granted] := by simp [passes, stage]
      have way := OnTheWay.tries rested .granted (Or.inl (rfl : Stage.dialing = .dialing))
      rw [passed]
      simpa [dial, Deed.notch?] using way
    | tries _ _ begun => simp at begun
  | halts => simp [isStopped] at going

theorem WayOn.settings_eq {a : Advance} (way : WayOn c a) : a.connection.settings = c.settings := by
  cases way
  rfl

theorem Concluded.onTheWay {o : Ended} {a : Advance} (concluded : Concluded s os o a)
    (drawn : o.draw = s.fraction) (same : a.connection.settings = settings)
    (going : a.connection.isStopped = false) :
    OnTheWay settings (os ++ [o]) a.connection.stage (a.deeds.filterMap Deed.notch?) := by
  cases concluded with
  | goesOn d lead counted tripped requested calm brief =>
    have nothing : lead.filterMap Deed.notch? = [] := List.filterMap_eq_nil_iff.mpr brief
    have kept : (d.round s).connection.settings = d.settings := (round_way s d).settings_eq
    have way := round_onTheWay counted tripped requested calm drawn
    rw [← kept, same] at way
    rw [List.filterMap_append, nothing]
    exact way
  | exhausts _ _ _ stage => simp [isStopped, stage] at going
  | halts stopped =>
    rw [stopped] at going
    cases going

/-- The past of a connection is on schedule, and so is what has come after its last attempt. -/
inductive OnSchedule (settings : GatewaySettings) (os : List Ended) (c : Connection) : List Notch → Prop
    where
  | mk {past shown : List Notch} (scheduled : Scheduled settings os past)
      (way : c.isStopped = false → OnTheWay settings os c.stage shown) :
      OnSchedule settings os c (past ++ shown)

/-- An attempt that is under way began after all the waits. -/
theorem begun_of_onTheWay {stage : Stage} (way : OnTheWay settings os stage shown)
    (under : stage = .dialing ∨ stage = .online) :
    ∃ waits turn, Rested settings os waits ∧ Turned turn ∧ shown = waits ++ turn ++ [.dials] := by
  cases way with
  | tries rested turned => exact ⟨_, _, rested, turned, rfl⟩
  | cools | pauses | queues => simp at under

theorem notches_stopped (stopped : c.isStopped = true) (s : Circumstances) (i : Stimulus) :
    c.notches s i = [] := by
  obtain ⟨how, stage⟩ := (isStopped_iff c).mp stopped
  simp [notches, unended_of_stopped stopped, step_stopped stage, passes, stage]

theorem OnSchedule.step (onSchedule : OnSchedule settings os c shown) (same : c.settings = settings)
    (same_next : (c.step s i).connection.settings = settings)
    (tallied : c.isStopped = false → Tallied os c) :
    OnSchedule settings (os ++ (c.ended? s i).toList) (c.step s i).connection
      (shown ++ c.notches s i) := by
  cases onSchedule with
  | @mk past shown scheduled way =>
    cases going : c.isStopped with
    | true =>
      obtain ⟨how, stage⟩ := (isStopped_iff c).mp going
      rw [unended_of_stopped going, notches_stopped going, step_stopped stage]
      simp only [Option.toList_none, List.append_nil]
      exact .mk scheduled way
    | false =>
      cases result : c.result s i with
      | none =>
        have unended : c.ended? s i = none := by simp [ended?, result]
        rw [unended, notches_going result, List.append_assoc]
        simp only [Option.toList_none, List.append_nil]
        refine .mk scheduled ?_
        rw [← same] at way ⊢
        exact (step_goesOn result).onTheWay (tallied going) (way going)
      | some why =>
        have tallied := tallied going
        have concluded := (step_leaves result).concluded tallied (tallied.closed result)
        obtain ⟨waits, turn, rested, turned, begun⟩ :=
          begun_of_onTheWay (way going) (stage_of_result result)
        rw [notches_leaving result, begun]
        simp only [ended?, result, Option.map_some, Option.toList_some]
        have next := OnSchedule.mk (scheduled.attempt rested turned _)
          (concluded.onTheWay rfl same_next)
        simpa using next

theorem run_onSchedule (settings : GatewaySettings) (shard : Shard)
    (history : List (Circumstances × Stimulus)) :
    OnSchedule settings (attempts settings shard history)
      ((start settings shard).connection.run history).connection (timeline settings shard history) := by
  induction history using List.reverseRecOn with
  | nil =>
    have cooled : Cooled settings [] [] (.ofNat 0) := .atOnce rfl (by simp)
    have way := OnTheWay.queues (.atOnce cooled rfl)
    have onSchedule : OnSchedule settings [] (start settings shard).connection ([] ++ [.asks]) :=
      .mk .launch fun _ => way
    exact onSchedule
  | append_singleton history last ih =>
    have same_next := run_settings settings shard (history ++ [last])
    rw [run_concat] at same_next
    rw [timeline_concat, attempts_concat, run_concat]
    apply ih.step (run_settings settings shard history) same_next
    intro going
    cases run_reached settings shard history with
    | going _ tallied => exact tallied
    | exhausted _ _ _ _ _ stage => simp [isStopped, stage] at going
    | aside stopped =>
      rw [stopped] at going
      cases going

/- What is put in on the way. -/

/-- The second history is the first one with commands put in where the connection waits, for a time to pass or
    for its turn: packets to be sent and orders to reconnect, as many as may be. -/
inductive Pestered :
    Connection → List (Circumstances × Stimulus) → List (Circumstances × Stimulus) → Prop where
  | none (c : Connection) : Pestered c [] []
  | step {c : Connection} (s : Circumstances) (i : Stimulus)
      {history pestered : List (Circumstances × Stimulus)}
      (rest : Pestered (c.step s i).connection history pestered) :
      Pestered c ((s, i) :: history) ((s, i) :: pestered)
  | command {c : Connection} (s : Circumstances) {k : Command}
      {history pestered : List (Circumstances × Stimulus)}
      (waits : c.stage = .cooling ∨ c.stage = .pausing ∨ c.stage = .queueing) (spares : k ≠ .close)
      (rest : Pestered c history pestered) : Pestered c history ((s, .command k) :: pestered)

theorem step_pestered (s : Circumstances) {k : Command}
    (waits : c.stage = .cooling ∨ c.stage = .pausing ∨ c.stage = .queueing) (spares : k ≠ .close) :
    c.step s (.command k) = ⟨c, []⟩ ∧ c.notches s (.command k) = [] := by
  have same : c.step s (.command k) = ⟨c, []⟩ := by
    rcases waits with stage | stage | stage <;>
      cases k <;> simp_all [step, obeyIdle]
  have unended : c.ended? s (.command k) = none := by
    rcases waits with stage | stage | stage <;> simp [ended?, Connection.result, stage]
  refine ⟨same, ?_⟩
  rw [notches, same, unended]
  rcases waits with stage | stage | stage <;> simp [passes, stage]

theorem Pestered.unmoved {history pestered : List (Circumstances × Stimulus)}
    (put_in : Pestered c history pestered) :
    c.run pestered = c.run history ∧ observed notches c pestered = observed notches c history := by
  induction put_in with
  | none c => exact ⟨rfl, rfl⟩
  | step s i rest ih =>
    obtain ⟨same, shown⟩ := ih
    simp only [run, observed, Advance.also, same, shown, and_self]
  | command s waits spares rest ih =>
    obtain ⟨same, shown⟩ := ih
    obtain ⟨stays, nothing⟩ := step_pestered s waits spares
    simp only [run, observed, Advance.also, stays, nothing, List.nil_append]
    exact ⟨same, shown⟩

/-- A connection that goes on waits before each attempt as long as the attempts before it tell.  Packets
    and orders to reconnect that come in on the way change nothing in what it does and waits for. -/
theorem waits_before_each_attempt (settings : GatewaySettings) (shard : Shard)
    (history : List (Circumstances × Stimulus)) :
    let first := (start settings shard).connection
    let c := (first.run history).connection
    let os := attempts settings shard history
    (∃ past shown, timeline settings shard history = past ++ shown ∧ Scheduled settings os past ∧
      (c.isStopped = false → OnTheWay settings os c.stage shown)) ∧
    ∀ pestered, Pestered first history pestered → first.run pestered = first.run history ∧
      timeline settings shard pestered = timeline settings shard history := by
  intro first c os
  constructor
  · have onSchedule := run_onSchedule settings shard history
    generalize timeline settings shard history = shown at onSchedule ⊢
    cases onSchedule with
    | mk scheduled way => exact ⟨_, _, rfl, scheduled, way⟩
  · intro pestered put_in
    obtain ⟨same, shown⟩ := put_in.unmoved
    refine ⟨same, ?_⟩
    unfold timeline
    rw [shown]

/-- After a failure that counts and one that trips the breaker both waits are kept, whatever is sent. -/
theorem waits_twice_after_trip :
    let around : Circumstances := ⟨.steady 0, .ofNat 1, true, fun _ => true, none⟩
    let settings : GatewaySettings :=
      { token := "token", connection := { maxConnectAttempts := 3, breakerThreshold := 2 } }
    let nag : Circumstances × Stimulus := (around, .command .reconnect)
    let history : List (Circumstances × Stimulus) := [(around, .turn), (around, .dialed .timedOut),
      (around, .timeUp), (around, .turn), (around, .dialed .timedOut), (around, .timeUp)]
    let pestered : List (Circumstances × Stimulus) := [nag, (around, .turn), (around, .dialed .timedOut),
      nag, (around, .timeUp), nag, nag, (around, .turn), (around, .dialed .timedOut), nag,
      (around, .timeUp)]
    let first := (start settings ⟨0, 1⟩).connection
    let c := (first.run pestered).connection
    Pestered first history pestered ∧ c.isStopped = false ∧ c.stage = .pausing ∧
      settings.breakerWait (attempts settings ⟨0, 1⟩ pestered) =
        settings.connection.breakerResetTimeout ∧
      first.run pestered = first.run history ∧
      ∃ past shown, timeline settings ⟨0, 1⟩ history = past ++ shown ∧
        OnTheWay settings (attempts settings ⟨0, 1⟩ pestered) .pausing shown := by
  intro around settings nag history pestered first c
  have put_in : Pestered first history pestered := by
    refine .command around (by decide +kernel) (by decide) (.step _ _ (.step _ _ ?_))
    refine .command around (by decide +kernel) (by decide) (.step _ _ ?_)
    refine .command around (by decide +kernel) (by decide) ?_
    refine .command around (by decide +kernel) (by decide) (.step _ _ (.step _ _ ?_))
    exact .command around (by decide +kernel) (by decide) (.step _ _ (.none _))
  have going : c.isStopped = false := by decide +kernel
  have stage : c.stage = .pausing := by decide +kernel
  have waits : settings.breakerWait (attempts settings ⟨0, 1⟩ pestered) =
      settings.connection.breakerResetTimeout := by decide +kernel
  obtain ⟨⟨past, shown, split, _, way⟩, _⟩ := waits_before_each_attempt settings ⟨0, 1⟩ pestered
  obtain ⟨_, unmoved⟩ := waits_before_each_attempt settings ⟨0, 1⟩ history
  obtain ⟨same, same_timeline⟩ := unmoved pestered put_in
  rw [← stage]
  exact ⟨put_in, going, rfl, waits, same, past, shown, same_timeline.symm.trans split, way going⟩

end Connection
end SessionFleet
