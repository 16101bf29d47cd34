import Mathlib.Algebra.GroupWithZero.Nat
import SessionFleet.Proofs.Fleet.Strides
/- The totals of a fleet and the gauges of its shards are written at many places, each for itself.  All
   of them follow from one log of deeds, so they balance: with each other, and with what the connections
   have dealt with. -/
namespace SessionFleet

def Deed.isOpened : Deed → Bool
  | .opened _ => true
  | _ => false

def Deed.isFailed : Deed → Bool
  | .failed => true
  | _ => false

def Disruption.isRefusal : Disruption → Bool
  | .invalidSession _ => true
  | _ => false

/-- A total that goes up by one with each deed that counts. -/
def Counters.Totals (reads : Counters → Nat) (counts : Deed → Bool) : Prop :=
  ∀ c d, reads (c.record d) = reads c + if counts d then 1 else 0

namespace Metrics

theorem total_recordLog {reads : Counters → Nat} {counts : Deed → Bool}
    (totals : Counters.Totals reads counts) (m : Metrics) (log : DeedLog) :
    reads (m.recordLog log).counters = reads m.counters + log.plain.countP fun e => counts e.2 := by
  induction log using List.reverseRecOn with
  | nil => rfl
  | append_singleton log last ih =>
    have step : reads (m.recordLog (log ++ [last])).counters =
        reads (m.recordLog log).counters + if counts last.2.2 then 1 else 0 := by
      rw [recordLog_append]
      exact totals _ _
    rw [step, ih, DeedLog.plain, DeedLog.plain, List.map_append, List.countP_append]
    simp only [List.map_cons, List.map_nil, List.countP_singleton]
    omega

/-- How many events the shards show together. -/
def eventsShown (gauges : List Gauge) : Nat := (gauges.map Gauge.events).sum

theorem eventsShown_updateGauge {f : Gauge → Gauge} {n : Nat} (adds : ∀ g, (f g).events = g.events + n)
    (shard : Nat) (gauges : List Gauge) :
    eventsShown (updateGauge shard f gauges) = eventsShown gauges + n := by
  unfold eventsShown
  induction gauges with
  | nil => simp [updateGauge, adds]
  | cons first rest ih =>
    unfold updateGauge
    split
    · simp only [List.map_cons, List.sum_cons, adds]
      omega
    · split
      · simp only [List.map_cons, List.sum_cons, adds]
        omega
      · simp only [List.map_cons, List.sum_cons, ih]
        omega

theorem record_events (g : Gauge) (now : Instant) (d : Deed) :
    (g.record now d).events = g.events + if d.isDelivered then 1 else 0 := by
  cases d <;> rfl

theorem eventsShown_recordLog (m : Metrics) (log : DeedLog) :
    eventsShown (m.recordLog log).gauges =
      eventsShown m.gauges + log.plain.countP fun e => e.2.isDelivered := by
  induction log using List.reverseRecOn with
  | nil => rfl
  | append_singleton log last ih =>
    have step : eventsShown (m.recordLog (log ++ [last])).gauges =
        eventsShown (m.recordLog log).gauges + if last.2.2.isDelivered then 1 else 0 := by
      rw [recordLog_append]
      exact eventsShown_updateGauge (fun g => record_events g _ _) _ _
    rw [step, ih, DeedLog.plain, DeedLog.plain, List.map_append, List.countP_append]
    simp only [List.map_cons, List.map_nil, List.countP_singleton]
    omega

theorem snapshot_active (m : Metrics) (now : Instant) : (m.snapshot now).active = m.active :=
  List.countP_map ..

end Metrics

namespace Counters

/-- What a deed adds to the totals that are read here: to each of them one, or nothing. -/
structure Adds (c : Counters) (d : Deed) (next : Counters) : Prop where
  connections : next.connections = c.connections + if d.isOpened then 1 else 0
  sessions : next.identifies + next.resumes =
    c.identifies + c.resumes + if d.opensSession then 1 else 0
  heartbeatAcks : next.heartbeatAcks = c.heartbeatAcks + if d.isLatency then 1 else 0
  eventsDispatched : next.eventsDispatched = c.eventsDispatched + if d.isDelivered then 1 else 0
  serverReconnects : next.serverReconnects =
    c.serverReconnects + if d.cause?.any (· = .reconnectRequested) then 1 else 0
  invalidSessions : next.invalidSessions =
    c.invalidSessions + if d.cause?.any Disruption.isRefusal then 1 else 0
  heartbeatFailures : next.heartbeatFailures =
    c.heartbeatFailures + if d.cause?.any (· = .ackMissed) then 1 else 0
  errors : next.errors =
    c.errors + if d.isFailed || d.cause?.any (· = .badHello) then 1 else 0

theorem record_adds (c : Counters) (d : Deed) : Adds c d (c.record d) := by
  cases d with
  | disrupted why => cases why <;> exact ⟨rfl, rfl, rfl, rfl, rfl, rfl, rfl, rfl⟩
  | identified => exact ⟨rfl, Nat.add_right_comm .., rfl, rfl, rfl, rfl, rfl, rfl⟩
  | _ => exact ⟨rfl, rfl, rfl, rfl, rfl, rfl, rfl, rfl⟩

theorem connections_totals : Totals Counters.connections Deed.isOpened :=
  fun c d => (record_adds c d).connections

/-- A session is taken up either anew or again. -/
theorem sessions_totals : Totals (fun c => c.identifies + c.resumes) Deed.opensSession :=
  fun c d => (record_adds c d).sessions

theorem heartbeatAcks_totals : Totals Counters.heartbeatAcks Deed.isLatency :=
  fun c d => (record_adds c d).heartbeatAcks

theorem eventsDispatched_totals : Totals Counters.eventsDispatched Deed.isDelivered :=
  fun c d => (record_adds c d).eventsDispatched

end Counters

namespace Stride

theorem opened_count (w : Stride) :
    w.advance.deeds.countP Deed.isOpened = if w.opens then 1 else 0 := by
  have shown := (Connection.step_reaction w.circumstances w.connection w.stimulus).sockets_eq
  have same : w.advance.deeds.countP Deed.isOpened = (sockets w.advance.deeds).count true := by
    rw [sockets, List.count, List.countP_filterMap]
    apply List.countP_congr
    intro d _
    cases d <;> simp [Deed.isOpened, Deed.socket?]
  rw [same, advance, shown, opens, advance]
  cases w.connection.showsOpen <;>
    cases (w.connection.step w.circumstances w.stimulus).connection.showsOpen <;> rfl

end Stride

namespace Fleet

variable {settings : GatewaySettings} {run : List FleetEvent}

/-- A total is the number of deeds that count for it. -/
theorem total_eq (settings : GatewaySettings) (run : List FleetEvent) {reads : Counters → Nat}
    {counts : Deed → Bool} (totals : Counters.Totals reads counts) (fresh : reads {} = 0) :
    reads ((create settings).after run).metrics.counters =
      (deedsDone ((create settings).log run)).countP fun e => counts e.2 := by
  obtain ⟨log, metrics, plain⟩ := (create_moves settings run).charted
  have total := Metrics.total_recordLog totals {} log
  rw [plain, fresh, Nat.zero_add] at total
  rw [metrics]
  exact total

/-- What counts on behalf of the sessions is in each talk there once or not at all. -/
theorem total_of_talks {reads : Counters → Nat} {counts : Deed → Bool} {leads : Talk → Bool}
    (totals : Counters.Totals reads counts) (fresh : reads {} = 0)
    (speaks : ∀ d, counts d = true → d.isSpoken = true)
    (one : ∀ t : Talk, t.deeds.countP counts = if leads t then 1 else 0) :
    reads ((create settings).after run).metrics.counters = ((create settings).talks run).countP leads := by
  rw [total_eq settings run totals fresh, countP_talks speaks, countP_flatMap_of_one one]

theorem delivered_speaks (d : Deed) (counts : d.isDelivered = true) : d.isSpoken = true := by
  cases d with
  | delivered => rfl
  | _ => cases counts

theorem latency_speaks (d : Deed) (counts : d.isLatency = true) : d.isSpoken = true := by
  cases d with
  | latency => rfl
  | _ => cases counts

theorem opensSession_speaks (d : Deed) (counts : d.opensSession = true) : d.isSpoken = true := by
  cases d with
  | identified | resumed => rfl
  | _ => cases counts

/-- However the shards of a fleet take turns, after every step the totals balance.  The events
    dispatched are those that all shards show together and those whose handler has come through;
    sessions were taken up as often as greetings came that can be kept; heartbeats were acknowledged as
    often as a latency followed; and there were as many connections as sockets that opened.  There is
    one gauge for each shard that was launched, by ascending shard.  The open sockets are counted alike
    in both views, and unless a handler has crashed a connection they are those of the shards that are
    online. -/
theorem metrics_balance (settings : GatewaySettings) (run : List FleetEvent) (now : Instant) :
    let f := (create settings).after run
    let seen := (create settings).log run
    let talks := (create settings).talks run
    let totals := f.metrics.counters
    let shown := f.metrics.snapshot now
    totals.eventsDispatched = (shown.shards.map (·.gauge.events)).sum ∧
      totals.eventsDispatched = talks.countP Talk.delivers ∧
      totals.identifies + totals.resumes = talks.countP (·.input.greets) ∧
      totals.heartbeatAcks = talks.countP Talk.yields ∧
      totals.connections = ((create settings).strides run).countP Stride.opens ∧
      shown.counters = totals ∧
      shown.active = f.metrics.active ∧
      (crashes seen = [] → shown.active = f.crew.countP fun m => m.connection.stage = .online) ∧
      (shown.shards.map (·.gauge.shard)).Pairwise (· < ·) ∧
      ∀ n, n ∈ shown.shards.map (·.gauge.shard) ↔ n ∈ doers (deedsDone seen) := by
  intro f seen talks totals shown
  obtain ⟨log, metrics, plain⟩ := (create_moves settings run).charted
  have charted : f.metrics = ({} : Metrics).recordLog log := metrics
  have events : (shown.shards.map (·.gauge.events)).sum = Metrics.eventsShown f.metrics.gauges := by
    simp only [shown, Metrics.snapshot, List.map_map]
    rfl
  have shards : shown.shards.map (·.gauge.shard) = f.metrics.gauges.map Gauge.shard := by
    simp only [shown, Metrics.snapshot, List.map_map]
    rfl
  have active : shown.active = f.metrics.active := f.metrics.snapshot_active now
  have opened : totals.connections =
      ((create settings).strides run).countP Stride.opens := by
    rw [← countP_flatMap_of_one Stride.opened_count, ← countP_log rfl]
    exact total_eq settings run Counters.connections_totals rfl
  refine ⟨?_, total_of_talks Counters.eventsDispatched_totals rfl delivered_speaks Talk.delivered_count,
    total_of_talks Counters.sessions_totals rfl opensSession_speaks Talk.opensSession_count,
    total_of_talks Counters.heartbeatAcks_totals rfl latency_speaks Talk.latency_count,
    opened, rfl, active, ?_, ?_, ?_⟩
  · rw [events, charted, Metrics.eventsShown_recordLog, plain]
    have total := total_eq settings run Counters.eventsDispatched_totals rfl
    simpa [Metrics.eventsShown] using total
  · intro whole
    have lit := Metrics.active_eq log
    rw [plain, ← charted] at lit
    rw [active, lit]
    exact lit_count (not_mem_of_crashes whole)
  · rw [shards, charted]
    exact List.pairwise_map.mpr (Metrics.recordLog_ascending log)
  · intro n
    rw [shards, charted, (Metrics.gauge_shards log).mem_iff, plain]

/-- The first shard identifies, gets an answer to its heartbeat and an event, while the socket of the
    second one opens and breaks. -/
theorem two_shards_balance :
    let around : Circumstances := ⟨.steady 0, .ofNat 1, true, fun _ => true, none⟩
    let event (i : FleetInput) : FleetEvent := .input (fun _ => none) around i
    let heard (text : String) : FleetEvent := event (.stimulus 0 (.heard (.text text)))
    let run := [event (.call 0 (.start ⟨0, 1, 2, { token := "token", connection.shardStartDelay := 0 }⟩)),
      event (.stimulus 0 .turn), event (.stimulus 1 .turn), event (.stimulus 0 (.dialed .opened)),
      event (.stimulus 1 (.dialed .opened)), heard "[10,[45000]]", event (.stimulus 0 (.tick 1)),
      heard "[11,null]", heard "[0,\x7b\x7d,1,\"GUILD_CREATE\"]",
      event (.stimulus 1 (.heard (.broken "reset")))]
    let f := (create { token := "token" }).after run
    let shown := f.metrics.snapshot 0
    crashes ((create { token := "token" }).log run) = [] ∧ shown.active = 1 ∧
      f.crew.countP (fun m => m.connection.stage = .online) = 1 ∧ f.metrics.counters.connections = 2 ∧
      f.metrics.counters.identifies = 1 ∧ f.metrics.counters.heartbeatAcks = 1 ∧
      f.metrics.counters.eventsDispatched = 1 ∧ shown.shards.map (·.gauge.events) = [1, 0] := by
  intro around event heard run f shown
  have whole : crashes ((create { token := "token" }).log run) = [] := by decide +kernel
  obtain ⟨_, _, _, _, _, _, _, active, _⟩ := metrics_balance { token := "token" } run 0
  have online : f.crew.countP (fun m => m.connection.stage = .online) = 1 := by decide +kernel
  exact ⟨whole, (active whole).trans online, online, by decide +kernel⟩

end Fleet
end SessionFleet
