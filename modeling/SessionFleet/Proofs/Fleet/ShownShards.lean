import Mathlib.Data.List.Dedup
import Mathlib.Data.List.Perm.Subperm
import SessionFleet.Proofs.Fleet.GaugeLaws
import SessionFleet.Proofs.Fleet.LifeCycle
/- What a fleet shows of its health.  It counts every shard that was ever launched, whether that is
   among those that run or not. -/
namespace SessionFleet

/- Who has done anything, and whether its last socket is open. -/

/-- The deeds of a log without their times. -/
def DeedLog.plain (log : DeedLog) : List (Nat × Deed) := log.map fun e => (e.1, e.2.2)

def deedsBy (shard : Nat) (deeds : List (Nat × Deed)) : List Deed :=
  deeds.filterMap fun e => if e.1 = shard then some e.2 else none

def doers (deeds : List (Nat × Deed)) : List Nat := (deeds.map Prod.fst).dedup

def lit (deeds : List (Nat × Deed)) (shard : Nat) : Bool := (sockets (deedsBy shard deeds)).getLastD false

theorem deedsBy_append (shard : Nat) (first later : List (Nat × Deed)) :
    deedsBy shard (first ++ later) = deedsBy shard first ++ deedsBy shard later :=
  List.filterMap_append ..

theorem deedsBy_all (shard n : Nat) (deeds : List Deed) :
    deedsBy n (deeds.map fun d => (shard, d)) = if shard = n then deeds else [] := by
  by_cases own : shard = n <;> simp [deedsBy, List.filterMap_map, own]

theorem DeedLog.of_plain (shard : Nat) (log : DeedLog) :
    (log.of shard).map Prod.snd = deedsBy shard log.plain := by
  induction log with
  | nil => rfl
  | cons e rest ih =>
    simp only [DeedLog.of, plain, deedsBy] at ih ⊢
    by_cases own : e.1 = shard <;> simp [own, ih]

theorem DeedLog.of_ne_nil_iff (shard : Nat) (log : DeedLog) :
    log.of shard ≠ [] ↔ shard ∈ doers log.plain := by
  simp only [DeedLog.of, plain, doers, List.mem_dedup, ne_eq, List.map_eq_nil_iff,
    List.filter_eq_nil_iff]
  simp

namespace Metrics

theorem gauge_shards_nodup (log : DeedLog) :
    ((({} : Metrics).recordLog log).gauges.map Gauge.shard).Nodup :=
  List.pairwise_map.mpr ((recordLog_ascending log).imp Nat.ne_of_lt)

theorem gauge?_of_mem {log : DeedLog} {g : Gauge} (member : g ∈ (({} : Metrics).recordLog log).gauges) :
    (({} : Metrics).recordLog log).gauge? g.shard = some g := by
  cases found : (({} : Metrics).recordLog log).gauge? g.shard with
  | none =>
    have absent := List.find?_eq_none.mp found g member
    simp at absent
  | some h =>
    have there := List.mem_of_find?_eq_some found
    have same : h.shard = g.shard := by simpa using List.find?_some found
    rw [List.inj_on_of_nodup_map (gauge_shards_nodup log) there member same]

/-- There is one gauge for each shard that has done anything. -/
theorem gauge_shards (log : DeedLog) :
    ((({} : Metrics).recordLog log).gauges.map Gauge.shard).Perm (doers log.plain) := by
  apply (List.perm_ext_iff_of_nodup (gauge_shards_nodup log) (List.nodup_dedup _)).mpr
  intro shard
  rw [← doers, ← DeedLog.of_ne_nil_iff]
  constructor
  · intro member
    obtain ⟨g, there, own⟩ := List.mem_map.mp member
    have known := gauge?_of_mem there
    rw [own, gauge?_recordLog] at known
    intro silent
    rw [if_pos silent] at known
    cases known
  · intro spoke
    have known := gauge?_recordLog log shard
    rw [if_neg spoke] at known
    have there := List.mem_of_find?_eq_some known
    have own : (Gauge.recordAll { shard } (log.of shard)).shard = shard := by
      simpa using List.find?_some known
    exact List.mem_map.mpr ⟨_, there, own⟩

theorem gauge_lit {log : DeedLog} {g : Gauge} (member : g ∈ (({} : Metrics).recordLog log).gauges) :
    g.isConnected = lit log.plain g.shard := by
  have known := gauge?_of_mem member
  rw [gauge?_recordLog] at known
  split at known
  · cases known
  · have same := Option.some.inj known
    have shown := Gauge.recordAll_connected { shard := g.shard } (log.of g.shard)
    rw [same, DeedLog.of_plain] at shown
    exact shown

theorem active_eq (log : DeedLog) :
    (({} : Metrics).recordLog log).active = (doers log.plain).countP (lit log.plain) := by
  rw [← (gauge_shards log).countP_eq, List.countP_map]
  apply List.countP_congr
  intro g member
  simp [gauge_lit member]

end Metrics

/-- All that the shards of a fleet have been seen to do. -/
def deedsDone (seen : List FleetSighting) : List (Nat × Deed) :=
  seen.filterMap fun
    | .act (.deed shard d) => some (shard, d)
    | _ => none

theorem deedsDone_append (first later : List FleetSighting) :
    deedsDone (first ++ later) = deedsDone first ++ deedsDone later := List.filterMap_append ..

theorem deedsDone_deeds (shard : Nat) (deeds : List Deed) :
    deedsDone ((deeds.map (.deed shard)).map .act) = deeds.map fun d => (shard, d) := by
  induction deeds with
  | nil => rfl
  | cons d rest ih =>
    simp only [deedsDone, List.map_cons, List.filterMap_cons] at ih ⊢
    rw [ih]

theorem deedsDone_touched (m : Member) (shard : Nat) (s : Circumstances) (i : Stimulus) :
    deedsDone (m.touched shard s i) = [] := by
  unfold Member.touched
  split <;> rfl

/-- The shards whose connections have crashed. -/
def crashes (seen : List FleetSighting) : List Nat :=
  seen.filterMap fun
    | .crashed shard => some shard
    | _ => none

theorem not_mem_of_crashes {seen : List FleetSighting} (whole : crashes seen = []) (shard : Nat) :
    .crashed shard ∉ seen := by
  intro crashed
  have silent := List.filterMap_eq_nil_iff.mp whole _ crashed
  cases silent

namespace Fleet

variable {f g : Fleet} {seen : List FleetSighting}

theorem recordAll_eq (m : Metrics) (shard : Nat) (now : Instant) (deeds : List Deed) :
    m.recordAll shard now deeds = m.recordLog (deeds.map fun d => (shard, now, d)) := by
  unfold Metrics.recordAll Metrics.recordLog
  rw [List.foldl_map]

theorem plain_deeds (shard : Nat) (now : Instant) (deeds : List Deed) :
    DeedLog.plain (deeds.map fun d => (shard, now, d)) = deeds.map fun d => (shard, d) := by
  simp [DeedLog.plain]

/-- A shard that is enrolled has a deed at once, by which its gauge comes to be anyway. -/
theorem launch_metrics (f : Fleet) (now : Instant) (p : LaunchPlan) (next : Nat) :
    (f.launch now p next).2.metrics = f.metrics.recordLog [(next, now, .askTurn)] := by
  have once : Metrics.updateGauge next (fun g => g.record now .askTurn)
      (Metrics.updateGauge next id f.metrics.gauges) = _ :=
    Metrics.updateGauge_twice (fun _ => rfl) fun g => g.record now .askTurn
  exact congrArg (Metrics.mk _) once

theorem Move.charted (move : Move f seen g) :
    ∃ log : DeedLog, g.metrics = f.metrics.recordLog log ∧ log.plain = deedsDone seen := by
  cases move with
  | calls | refuses | admits | waits | cuts | dismisses | ends | posts => exact ⟨[], rfl, rfl⟩
  | launches now _ p next => exact ⟨_, launch_metrics f now p next, rfl⟩
  | completes now _ p => exact ⟨_, launch_metrics f now p p.last, rfl⟩
  | reaches s shard m _ i =>
    refine ⟨_, recordAll_eq .., ?_⟩
    rw [plain_deeds, deedsDone_append, deedsDone_touched, deedsDone_deeds]
    rfl

theorem Moves.charted (moves : Moves f seen g) :
    ∃ log : DeedLog, g.metrics = f.metrics.recordLog log ∧ log.plain = deedsDone seen := by
  induction moves with
  | none => exact ⟨[], rfl, rfl⟩
  | more move _ ih =>
    obtain ⟨first, before, same⟩ := move.charted
    obtain ⟨later, after, rest⟩ := ih
    refine ⟨first ++ later, ?_, ?_⟩
    · rw [after, before]
      exact (List.foldl_append ..).symm
    · rw [deedsDone_append, ← same, ← rest]
      exact List.map_append

/- Who is there, and whose socket is open. -/

/-- The connections that have not been seen to stop, by shard. -/
def roster (f : Fleet) : List (Nat × Connection) := f.crew.map fun m => (m.shard, m.connection)

/-- What one move comes to for those who are there. -/
inductive Turnover (before : List (Nat × Connection)) (seen : List FleetSighting) :
    List (Nat × Connection) → Prop where
  | stays (quiet : deedsDone seen = []) : Turnover before seen before
  | launches (shard : Nat) (c : Connection) (after : List (Nat × Connection))
      (asks : c.stage = .queueing) (done : deedsDone seen = [(shard, .askTurn)])
      (adds : ∀ e, e ∈ after ↔ e ∈ before ∨ e = (shard, c)) : Turnover before seen after
  | ends (quiet : deedsDone seen = []) (stopped : ∀ e ∈ before, e.2.isStopped = true) :
      Turnover before seen []
  | reaches (shard : Nat) (c : Connection) (s : Circumstances) (i : Stimulus)
      (there : (shard, c) ∈ before)
      (done : deedsDone seen = (c.step s i).deeds.map fun d => (shard, d))
      (crash : (c.step s i).connection.stage = .stopped .crashed → .crashed shard ∈ seen) :
      Turnover before seen
        (before.map fun e => if e.1 = shard then (shard, (c.step s i).connection) else e)

theorem launch_turnover (f : Fleet) (now : Instant) (p : LaunchPlan) (next : Nat)
    (done : deedsDone seen = [(next, .askTurn)]) :
    Turnover f.roster seen (f.launch now p next).2.roster := by
  refine .launches next (Connection.start p.settings ⟨next, p.total⟩).connection _ rfl done ?_
  intro e
  simp only [roster, Fleet.crew, launch, note, List.map_append, List.mem_append, List.map_cons,
    List.map_nil, List.mem_singleton]
  exact or_right_comm

theorem Move.turnover (move : Move f seen g) {launched : Option LaunchPlan}
    (posture : Posture launched f) : Turnover f.roster seen g.roster := by
  cases move with
  | calls | refuses | admits | waits | cuts => exact .stays rfl
  | launches now _ p next => exact launch_turnover f now p next rfl
  | completes now _ p => exact launch_turnover f now p p.last rfl
  | dismisses _ _ free =>
    have same : (f.members.map fun m => m.post .close).map (fun m => (m.shard, m.connection)) =
        f.roster := by
      simp only [roster, Fleet.crew, posture.nobody_leaves free, List.append_nil, List.map_map]
      rfl
    simp only [roster, Fleet.crew, List.nil_append] at same ⊢
    rw [same]
    exact .stays rfl
  | ends _ busy stopped =>
    simp only [roster, Fleet.crew, posture.nobody_stays busy, List.nil_append, List.map_nil]
    refine .ends rfl ?_
    intro e member
    obtain ⟨m, leaves, same⟩ := List.mem_map.mp member
    rw [← same]
    exact stopped m leaves
  | reaches s shard m n i found stepped =>
    obtain ⟨there, own⟩ := member?_some found
    have same : n.shard = shard := (shard_of_stepped stepped).trans own
    have next : (replace shard n f.members ++ replace shard n f.leaving).map
        (fun m => (m.shard, m.connection)) = f.roster.map fun e =>
          if e.1 = shard then (shard, (m.connection.step s i).connection) else e := by
      rw [crew_replace]
      simp only [roster, replace, List.map_map]
      apply List.map_congr_left
      intro other _
      simp only [Function.comp]
      split
      · rw [same, stepped]
      · rfl
    simp only [roster, Fleet.crew] at next ⊢
    rw [next]
    refine .reaches shard m.connection s i ?_ ?_ ?_
    · exact List.mem_map.mpr ⟨m, there, by rw [own]⟩
    · rw [deedsDone_append, deedsDone_touched, deedsDone_deeds]
      rfl
    · intro crashed
      apply List.mem_append_left
      simp [Member.touched, crashed]
  | posts shard k =>
    have same : (f.members.map fun n => if n.shard = shard then n.post k else n).map
        (fun m => (m.shard, m.connection)) = f.members.map fun m => (m.shard, m.connection) := by
      rw [List.map_map]
      apply List.map_congr_left
      intro m _
      simp only [Function.comp]
      split <;> rfl
    simp only [roster, Fleet.crew, List.map_append, same]
    exact .stays rfl

namespace Turnover

variable {before after : List (Nat × Connection)}

def Open (roster : List (Nat × Connection)) (shard : Nat) : Prop :=
  ∃ e ∈ roster, e.1 = shard ∧ e.2.stage = .online

theorem did (turnover : Turnover before seen after) {n : Nat} (member : n ∈ after.map Prod.fst) :
    n ∈ before.map Prod.fst ∨ n ∈ doers (deedsDone seen) := by
  cases turnover with
  | stays => exact Or.inl member
  | launches shard c _ _ done adds =>
    obtain ⟨e, there, own⟩ := List.mem_map.mp member
    rcases (adds e).mp there with old | new
    · exact Or.inl (List.mem_map.mpr ⟨e, old, own⟩)
    · rw [new] at own
      refine Or.inr ?_
      rw [done, ← own]
      simp [doers]
  | ends => cases member
  | reaches shard c s i =>
    obtain ⟨e, there, own⟩ := List.mem_map.mp member
    obtain ⟨old, was, same⟩ := List.mem_map.mp there
    refine Or.inl (List.mem_map.mpr ⟨old, was, ?_⟩)
    rw [← own, ← same]
    split
    · assumption
    · rfl

theorem uncrashed (turnover : Turnover before seen after) (whole : ∀ n, .crashed n ∉ seen)
    (sane : ∀ e ∈ before, e.2.stage ≠ .stopped .crashed) :
    ∀ e ∈ after, e.2.stage ≠ .stopped .crashed := by
  intro e member
  cases turnover with
  | stays => exact sane e member
  | launches shard c _ asks _ adds =>
    rcases (adds e).mp member with old | new
    · exact sane e old
    · rw [new, asks]
      simp
  | ends => cases member
  | reaches shard c s i _ _ crash =>
    obtain ⟨old, was, same⟩ := List.mem_map.mp member
    rw [← same]
    split
    · exact fun crashed => whole shard (crash crashed)
    · exact sane old was

theorem open_replaced {shard : Nat} {c : Connection} (there : (shard, c) ∈ before) (next : Connection)
    (n : Nat) : Open (before.map fun e => if e.1 = shard then (shard, next) else e) n ↔
      if shard = n then next.stage = .online else Open before n := by
  constructor
  · rintro ⟨e, member, own, online⟩
    obtain ⟨old, was, same⟩ := List.mem_map.mp member
    split at same
    · rw [← same] at own online
      rw [if_pos own]
      exact online
    · rename_i other
      rw [same] at was other
      rw [if_neg fun this => other (own.trans this.symm)]
      exact ⟨e, was, own, online⟩
  · intro opened
    split at opened
    · rename_i own
      exact ⟨_, List.mem_map.mpr ⟨_, there, if_pos rfl⟩, own, opened⟩
    · rename_i other
      obtain ⟨e, member, own, online⟩ := opened
      exact ⟨e, List.mem_map.mpr ⟨e, member, if_neg fun this => other (this.symm.trans own)⟩, own, online⟩

/-- The last socket that was opened or left is open just if the shard is online. -/
theorem opens (turnover : Turnover before seen after) (apart : (before.map Prod.fst).Nodup)
    (whole : ∀ n, .crashed n ∉ seen) (sane : ∀ e ∈ before, e.2.stage ≠ .stopped .crashed) {n : Nat}
    {b : Bool} (known : b = true ↔ Open before n) :
    (sockets (deedsBy n (deedsDone seen))).getLastD b = true ↔ Open after n := by
  cases turnover with
  | stays quiet =>
    rw [quiet]
    exact known
  | launches shard c _ asks done adds =>
    have silent : sockets (deedsBy n (deedsDone seen)) = [] := by
      have one := deedsBy_all shard n [.askTurn]
      rw [done]
      rw [List.map_singleton] at one
      rw [one]
      split <;> rfl
    rw [silent]
    refine known.trans ⟨?_, ?_⟩
    · rintro ⟨e, there, own, online⟩
      exact ⟨e, (adds e).mpr (Or.inl there), own, online⟩
    · rintro ⟨e, there, own, online⟩
      rcases (adds e).mp there with old | new
      · exact ⟨e, old, own, online⟩
      · rw [new, asks] at online
        cases online
  | ends quiet stopped =>
    rw [quiet]
    refine known.trans ⟨?_, ?_⟩
    · rintro ⟨e, there, _, online⟩
      have ended := stopped e there
      simp [Connection.isStopped, online] at ended
    · rintro ⟨e, there, _⟩
      cases there
  | reaches shard c s i there done crash =>
    rw [done, deedsBy_all, open_replaced there]
    by_cases own : shard = n
    · subst own
      have one : Open before shard ↔ c.stage = .online := by
        constructor
        · rintro ⟨e, member, same, online⟩
          rw [List.inj_on_of_nodup_map apart member there same] at online
          exact online
        · exact fun online => ⟨_, there, rfl, online⟩
      -- a crashed connection is shown with the socket that it has lost, hence the two hypotheses
      have lives := sane _ there
      have shown : b = c.showsOpen := by
        rw [Bool.eq_iff_iff, known, one, Connection.showsOpen_iff]
        exact ⟨Or.inl, fun online => online.resolve_right lives⟩
      rw [if_pos rfl, if_pos rfl, shown, (Connection.step_reaction s c i).shows,
        Connection.showsOpen_iff]
      exact ⟨fun online => online.resolve_right fun crashed => whole shard (crash crashed), Or.inl⟩
    · rw [if_neg own, if_neg own]
      exact known

end Turnover

theorem roster_shards (f : Fleet) : f.roster.map Prod.fst = f.crew.map Member.shard := by
  unfold roster
  rw [List.map_map]
  rfl

theorem Moves.did (moves : Moves f seen g) {r : Register} (accord : Accord r f) {n : Nat}
    (member : n ∈ g.roster.map Prod.fst) :
    n ∈ f.roster.map Prod.fst ∨ n ∈ doers (deedsDone seen) := by
  induction moves generalizing r with
  | none => exact Or.inl member
  | more move _ ih =>
    simp only [doers, List.mem_dedup, deedsDone_append, List.map_append, List.mem_append] at ih ⊢
    rcases ih (move.accord accord) member with before | later
    · rcases (move.turnover accord.posture).did before with old | new
      · exact Or.inl old
      · exact Or.inr (Or.inl (List.mem_dedup.mp new))
    · exact Or.inr (Or.inr later)

theorem Moves.opens (moves : Moves f seen g) {r : Register} (accord : Accord r f)
    (whole : ∀ n, .crashed n ∉ seen) (sane : ∀ e ∈ f.roster, e.2.stage ≠ .stopped .crashed) {n : Nat}
    {b : Bool} (known : b = true ↔ Turnover.Open f.roster n) :
    (sockets (deedsBy n (deedsDone seen))).getLastD b = true ↔ Turnover.Open g.roster n := by
  induction moves generalizing r b with
  | none => exact known
  | more move _ ih =>
    have apart := accord.posture.crew
    rw [← roster_shards] at apart
    have first (n : Nat) := fun crashed => whole n (List.mem_append_left _ crashed)
    have later (n : Nat) := fun crashed => whole n (List.mem_append_right _ crashed)
    have turnover := move.turnover accord.posture
    have opened := turnover.opens apart first sane known
    rw [deedsDone_append, deedsBy_append, sockets_append, getLastD_append]
    exact ih (move.accord accord) later (turnover.uncrashed first sane) opened

theorem lit_iff {run : List FleetEvent} {settings : GatewaySettings}
    (whole : ∀ n, .crashed n ∉ (create settings).log run) (n : Nat) :
    lit (deedsDone ((create settings).log run)) n = true ↔
      Turnover.Open ((create settings).after run).roster n := by
  have nobody : (create settings).roster = [] := rfl
  refine (create_moves settings run).opens (create_accord settings) whole ?_ ?_
  · simp [nobody]
  · simp [nobody, Turnover.Open]

/-- As many shards are lit as are online. -/
theorem lit_count {run : List FleetEvent} {settings : GatewaySettings}
    (whole : ∀ n, .crashed n ∉ (create settings).log run) :
    let deeds := deedsDone ((create settings).log run)
    (doers deeds).countP (lit deeds) =
      ((create settings).after run).crew.countP fun m => m.connection.stage = .online := by
  intro deeds
  let f := (create settings).after run
  have apart := (run_accord settings run).posture.crew
  rw [← roster_shards] at apart
  have same : ((doers deeds).filter (lit deeds)).Perm
      ((f.roster.filter fun e => e.2.stage = .online).map Prod.fst) := by
    have left : ((doers deeds).filter (lit deeds)).Nodup := (List.nodup_dedup _).filter _
    have right : ((f.roster.filter fun e => e.2.stage = .online).map Prod.fst).Nodup :=
      apart.sublist (List.filter_sublist.map _)
    apply (List.perm_ext_iff_of_nodup left right).mpr
    intro n
    rw [List.mem_filter, lit_iff whole]
    constructor
    · rintro ⟨_, e, member, own, online⟩
      exact List.mem_map.mpr ⟨e, List.mem_filter.mpr ⟨member, by simp [online]⟩, own⟩
    · intro member
      obtain ⟨e, there, own⟩ := List.mem_map.mp member
      obtain ⟨member, online⟩ := List.mem_filter.mp there
      have did := (create_moves settings run).did (create_accord settings)
        (List.mem_map.mpr ⟨e, member, own⟩)
      exact ⟨did.resolve_left (by simp [create, roster, Fleet.crew]), e, member, own, by simpa using online⟩
  rw [List.countP_eq_length_filter, same.length_eq, List.length_map, ← List.countP_eq_length_filter]
  simp only [f, roster, List.countP_map]
  rfl

theorem ids_did (settings : GatewaySettings) (run : List FleetEvent) :
    ((create settings).after run).shardIds.Nodup ∧
      ∀ n ∈ ((create settings).after run).shardIds, n ∈ doers (deedsDone ((create settings).log run)) := by
  have apart := (run_accord settings run).posture.crew
  rw [Fleet.crew, List.map_append] at apart
  refine ⟨(List.nodup_append.mp apart).1, ?_⟩
  intro n member
  have there : n ∈ ((create settings).after run).roster.map Prod.fst := by
    rw [roster_shards, Fleet.crew, List.map_append]
    exact List.mem_append_left _ member
  have did := (create_moves settings run).did (create_accord settings) there
  exact did.resolve_left (by simp [create, roster, Fleet.crew])

theorem length_eq_iff_covers {ids all : List Nat} (distinct : ids.Nodup) (each : all.Nodup)
    (within : ∀ n ∈ ids, n ∈ all) : all.length = ids.length ↔ ∀ n ∈ all, n ∈ ids := by
  constructor
  · intro same n member
    have perm := (distinct.subperm within).perm_of_length_le (Nat.le_of_eq same)
    exact perm.mem_iff.mpr member
  · intro covers
    apply List.Perm.length_eq
    exact (List.perm_ext_iff_of_nodup each distinct).mpr fun n => ⟨covers n, within n⟩

/-- What a fleet shows is one gauge for every shard that was ever launched.  So the total is that of the
    shards that it runs just if all of them are among those.  As long as no connection crashes, those
    that it shows as connected are the ones with an open socket. -/
theorem health_counts_every_shard_launched (settings : GatewaySettings) (run : List FleetEvent)
    (least : Binary64) :
    let f := (create settings).after run
    let seen := (create settings).log run
    let launched := doers (deedsDone seen)
    let shown := f.metrics.health least
    shown.2.1 = launched.length ∧
      (shown.2.1 = f.shardIds.length ↔ ∀ n ∈ launched, n ∈ f.shardIds) ∧
      shown.1 = launched.countP (lit (deedsDone seen)) ∧
      (crashes seen = [] → shown.1 = f.crew.countP fun m => m.connection.stage = .online) ∧
      (f.underway = none → f.crew = f.members) ∧
      (shown = (0, 0, true) ↔ launched = []) := by
  intro f seen launched shown
  obtain ⟨log, metrics, plain⟩ := (create_moves settings run).charted
  have charted : f.metrics = ({} : Metrics).recordLog log := metrics
  have total : shown.2.1 = launched.length := by
    have same := (Metrics.gauge_shards log).length_eq
    rw [List.length_map, plain, ← charted] at same
    exact same
  have connected : shown.1 = launched.countP (lit (deedsDone seen)) := by
    have same := Metrics.active_eq log
    rw [plain, ← charted] at same
    exact same
  obtain ⟨distinct, did⟩ := ids_did settings run
  refine ⟨total, ?_, connected, ?_, ?_, ?_⟩
  · rw [total]
    exact length_eq_iff_covers distinct (List.nodup_dedup _) did
  · intro whole
    rw [connected]
    exact lit_count (not_mem_of_crashes whole)
  · intro free
    have gone := (run_accord settings run).posture.nobody_leaves free
    simp only [f, Fleet.crew, gone, List.append_nil]
  · constructor
    · intro nothing
      rw [nothing] at total
      exact List.length_eq_zero_iff.mp total.symm
    · intro none
      rw [none] at total connected
      have nobody : f.metrics.gauges.length = 0 := total
      have dark : f.metrics.active = 0 := connected
      simp only [shown, Metrics.health, nobody, dark]
      rfl

/-- The only shard runs, and its socket is open. -/
theorem open_shard_is_counted :
    let around : Circumstances := ⟨.steady 0, .ofNat 1, true, fun _ => true, none⟩
    let event (i : FleetInput) : FleetEvent := .input (fun _ => none) around i
    let run := [event (.call 0 (.start ⟨0, 0, 1, { token := "token" }⟩)), event (.stimulus 0 .turn),
      event (.stimulus 0 (.dialed .opened))]
    let f := (create { token := "token" }).after run
    let shown := f.metrics.health (.ofRatio false 1 2)
    shown.1 = 1 ∧ shown.2.1 = f.shardIds.length ∧
      shown.1 = f.crew.countP (fun m => m.connection.stage = .online) := by
  intro around event run f shown
  have online : f.crew.countP (fun m => m.connection.stage = .online) = 1 := by decide +kernel
  have launched : ∀ n ∈ doers (deedsDone ((create { token := "token" }).log run)), n ∈ f.shardIds := by
    decide +kernel
  obtain ⟨_, total, _, connected, _⟩ :=
    health_counts_every_shard_launched { token := "token" } run (.ofRatio false 1 2)
  have whole : crashes ((create { token := "token" }).log run) = [] := by decide +kernel
  exact ⟨(connected whole).trans online, total.mpr launched, connected whole⟩

/-- A fleet that has been shut down runs nothing, and still shows a shard that is not connected. -/
theorem stopped_shard_is_counted :
    let around : Circumstances := ⟨.steady 0, .ofNat 1, true, fun _ => true, none⟩
    let event (i : FleetInput) : FleetEvent := .input (fun _ => none) around i
    let run := [event (.call 0 (.start ⟨0, 0, 1, { token := "token" }⟩)), event (.call 1 .shutdown),
      event (.mail 0)]
    let f := (create { token := "token" }).after run
    let r := ({} : Register).noteAll ((create { token := "token" }).log run)
    r.waiting = [] ∧ f.underway = none ∧ f.shardIds = [] ∧ f.crew = [] ∧
      f.metrics.health (.ofRatio false 1 2) = (0, 1, false) ∧
      (f.metrics.health (.ofRatio false 1 2)).2.1 ≠ f.shardIds.length ∧
      f.metrics.health (.ofRatio false 1 2) ≠ (0, 0, true) := by
  decide +kernel

end Fleet
end SessionFleet
