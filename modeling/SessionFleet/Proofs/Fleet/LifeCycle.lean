import SessionFleet.Proofs.Connection.Dismissal
import SessionFleet.Proofs.Fleet.Posture
/- Which shards a fleet runs follows from what its callers have been told: those of the last start that
   was admitted, until a shutdown has come to its end. -/
namespace SessionFleet

/-- What has reached a shard, in order. -/
def reached (shard : Nat) (seen : List FleetSighting) : List (Circumstances × Stimulus) :=
  seen.filterMap fun
    | .reached n s i => if n = shard then some (s, i) else none
    | _ => none

theorem reached_append (shard : Nat) (first later : List FleetSighting) :
    reached shard (first ++ later) = reached shard first ++ reached shard later :=
  List.filterMap_append ..

theorem reached_acts (shard : Nat) (acts : List FleetAct) : reached shard (acts.map .act) = [] := by
  induction acts with
  | nil => rfl
  | cons a rest ih => exact ih

theorem reached_touched (m : Member) (n shard : Nat) (s : Circumstances) (i : Stimulus) :
    reached n (m.touched shard s i) = if shard = n then [(s, i)] else [] := by
  unfold Member.touched
  by_cases own : shard = n <;> split <;> simp [reached, own]

namespace Fleet

/-- What a member's connection has become is still in the crew, unless it has stopped. -/
def Kept (f : Fleet) (m : Member) (seen : List FleetSighting) : Prop :=
  let c := (m.connection.run (reached m.shard seen)).connection
  c.isStopped = true ∨ ∃ n ∈ f.crew, n.connection = c

theorem Kept.untouched {g : Fleet} {m n : Member} {seen : List FleetSighting}
    (quiet : reached m.shard seen = []) (stays : n ∈ g.crew) (same : n.connection = m.connection) :
    Kept g m seen := by
  unfold Kept
  rw [quiet]
  exact Or.inr ⟨n, stays, same⟩

theorem mem_crew_launch {f : Fleet} {m : Member} (member : m ∈ f.crew) (now : Instant) (p : LaunchPlan)
    (next : Nat) : m ∈ (f.launch now p next).2.crew := by
  rcases List.mem_append.mp member with runs | leaves
  · exact List.mem_append_left _ (List.mem_append_left _ runs)
  · exact List.mem_append_right _ leaves

theorem crew_replace (f : Fleet) (shard : Nat) (n : Member) :
    replace shard n f.members ++ replace shard n f.leaving = replace shard n f.crew :=
  List.map_append.symm

theorem Move.keeps {f g : Fleet} {seen : List FleetSighting} (move : Move f seen g)
    {launched : Option LaunchPlan} (posture : Posture launched f) {m : Member} (member : m ∈ f.crew) :
    Kept g m seen := by
  cases move with
  | calls | refuses | admits | waits | cuts => exact .untouched rfl member rfl
  | launches now _ p next => exact .untouched (reached_acts _ _) (mem_crew_launch member now p next) rfl
  | completes now _ p =>
    refine .untouched ?_ (mem_crew_launch member now p p.last) rfl
    rw [reached_append, reached_acts]
    rfl
  | dismisses _ _ free =>
    have runs : m ∈ f.members := by simpa [Fleet.crew, posture.nobody_leaves free] using member
    exact .untouched rfl (List.mem_append_right _ (List.mem_map.mpr ⟨m, runs, rfl⟩)) rfl
  | ends _ busy stopped =>
    have leaves : m ∈ f.leaving := by simpa [Fleet.crew, posture.nobody_stays busy] using member
    exact Or.inl (stopped m leaves)
  | reaches s shard found n i first stepped =>
    obtain ⟨there, own⟩ := member?_some first
    unfold Kept
    rw [reached_append, reached_acts, List.append_nil, reached_touched]
    simp only [Fleet.crew, crew_replace]
    by_cases same : shard = m.shard
    · have one : m = found := List.inj_on_of_nodup_map posture.crew member there (by rw [own, same])
      rw [if_pos same, one]
      exact Or.inr ⟨n, List.mem_map.mpr ⟨found, there, if_pos own⟩, stepped⟩
    · rw [if_neg same]
      exact Or.inr ⟨m, List.mem_map.mpr ⟨m, member, if_neg (Ne.symm same)⟩, rfl⟩
  | posts shard k =>
    rcases List.mem_append.mp member with runs | leaves
    · refine .untouched rfl (List.mem_append_left _ (List.mem_map.mpr ⟨m, runs, rfl⟩)) ?_
      split <;> rfl
    · exact .untouched rfl (List.mem_append_right _ leaves) rfl

theorem Moves.keeps {f g : Fleet} {seen : List FleetSighting} (moves : Moves f seen g) {r : Register}
    (accord : Accord r f) {m : Member} (member : m ∈ f.crew) : Kept g m seen := by
  induction moves generalizing r m with
  | none => exact .untouched rfl member rfl
  | more move _ ih =>
    have first := move.keeps accord.posture member
    unfold Kept at first ⊢
    rw [reached_append, Connection.run_append]
    -- the rest of the run is about the member that the connection is found in after the first move
    rcases first with stopped | ⟨n, stays, same⟩
    · exact Or.inl (Connection.run_isStopped stopped _)
    · have later := ih (move.accord accord) stays
      have own : n.shard = m.shard := by
        unfold Member.shard
        rw [same, Connection.run_keeps_shard]
      unfold Kept at later
      rw [same, own] at later
      exact later

/-- Whoever has been there once is still there, unless its connection has stopped. -/
theorem run_keeps (settings : GatewaySettings) (before later : List FleetEvent) {m : Member}
    (member : m ∈ ((create settings).after before).crew) :
    Kept ((create settings).after (before ++ later)) m (((create settings).after before).log later) := by
  have range := (create_moves settings before).onRange (fun _ _ _ busy => nomatch busy)
  rw [after_append]
  exact (after_moves _ range later).keeps (run_accord settings before) member

/- What is asked of a start. -/

theorem launchOn_agrees (f : Fleet) (now : Instant) (caller : Nat) (p : LaunchPlan) (next left : Nat)
    (other : Nat) (e : FleetError) : .started other (some e) ∉ (f.launchOn now caller p next left).1 := by
  have launched (f : Fleet) (next : Nat) : .started other (some e) ∉ (f.launch now p next).1 := by
    simp [launch, note]
  induction left generalizing f next with
  | zero => simp [launchOn, launched]
  | succ left ih =>
    unfold launchOn
    by_cases rushed : p.delay = 0
    · simp [rushed, launched, ih]
    · simp [rushed, launched]

theorem start_refused {f : Fleet} {storeFault : String → Option String} {p : LaunchPlan}
    (fault : f.isRunning = true ∨ p.fault? ≠ none ∨
      ∃ e, Arbiter.create storeFault p.settings.identify = .error e) (now : Instant) (caller : Nat) :
    ∃ e, f.start storeFault now caller p = ([.started caller (some e)], f) := by
  unfold start
  split
  · exact ⟨_, rfl⟩
  · rename_i stands
    split
    · exact ⟨_, rfl⟩
    · rename_i fits
      split
      · exact ⟨_, rfl⟩
      · rename_i a served
        rcases fault with runs | unfit | ⟨e, refused⟩
        · exact absurd runs stands
        · exact absurd fits unfit
        · cases refused.symm.trans served

theorem start_agrees {f : Fleet} {storeFault : String → Option String} {p : LaunchPlan}
    (free : f.isRunning = false) (fits : p.fault? = none)
    (served : ∀ e, Arbiter.create storeFault p.settings.identify ≠ .error e) (now : Instant)
    (caller other : Nat) (e : FleetError) :
    .started other (some e) ∉ (f.start storeFault now caller p).1 := by
  unfold start
  split
  · simp_all
  · split
    · simp_all
    · split
      · rename_i refused
        exact absurd refused (served _)
      · simp [launchOn_agrees]

theorem fault?_ne_none_iff (p : LaunchPlan) :
    p.fault? ≠ none ↔ p.total = 0 ∨ p.last < p.first ∨ p.total ≤ p.last := by
  rw [ne_eq, p.fits_iff]
  omega

/-- A start is refused for these reasons and no other, and then nothing changes. -/
theorem start_verdict (f : Fleet) (storeFault : String → Option String) (now : Instant) (caller : Nat)
    (p : LaunchPlan) :
    let refused := f.isRunning = true ∨ p.total = 0 ∨ p.last < p.first ∨ p.total ≤ p.last ∨
      ∃ e, Arbiter.create storeFault p.settings.identify = .error e
    let outcome := f.start storeFault now caller p
    (refused → ∃ e, outcome = ([.started caller (some e)], f)) ∧
      ((∃ other e, .started other (some e) ∈ outcome.1) → refused) := by
  intro refused outcome
  have same : refused ↔ f.isRunning = true ∨ p.fault? ≠ none ∨
      ∃ e, Arbiter.create storeFault p.settings.identify = .error e := by
    rw [fault?_ne_none_iff]
    simp only [refused, or_assoc]
  rw [same]
  refine ⟨fun fault => start_refused fault now caller, ?_⟩
  rintro ⟨other, e, said⟩
  by_contra sound
  simp only [not_or, ne_eq, not_not, not_exists] at sound
  obtain ⟨stands, fits, served⟩ := sound
  exact start_agrees (by simpa using stands) fits served now caller other e said

theorem recommended_ids (f : Fleet) (i : BotInfo) :
    (f.recommended i).fault? = none ∧ (f.recommended i).ids = List.range (max i.shards 1) := by
  have some_ : 1 ≤ max i.shards 1 := Nat.le_max_right ..
  refine ⟨(LaunchPlan.fits_iff _).mpr ?_, ?_⟩
  · simp only [recommended]
    omega
  · have count : max i.shards 1 - 1 + 1 = max i.shards 1 := by omega
    simp only [LaunchPlan.ids, recommended, Nat.sub_zero]
    rw [count, List.range_eq_range']

theorem post_shuttingDown_iff (f : Fleet) (shard : Nat) (k : Command) :
    f.post shard k = .error .shuttingDown ↔ shard ∉ f.shardIds := by
  unfold post shardIds
  cases found : f.members.find? fun m => m.shard = shard with
  | none => simpa using found
  | some m =>
    have member := List.mem_of_find?_eq_some found
    have own : m.shard = shard := by simpa using List.find?_some found
    have there : shard ∈ f.members.map Member.shard := List.mem_map.mpr ⟨m, member, own⟩
    simp only [there, not_true_eq_false, iff_false]
    split <;> simp

/- Between the calls. -/

theorem ids_take (p : LaunchPlan) {count : Nat} (range : p.first + count ≤ p.last + 1) :
    List.range' p.first count = p.ids.take count :=
  (List.take_range'_of_length_ge (by omega)).symm

theorem Posture.ids {launched : Option LaunchPlan} {f : Fleet} (posture : Posture launched f) :
    f.shardIds = [] ∨ ∃ p count, launched = some p ∧ f.shardIds = p.ids.take count := by
  cases posture with
  | empty _ members => exact Or.inl (by simp [shardIds, members])
  | standing p count _ _ _ range crewed =>
    refine Or.inr ⟨p, count, rfl, ?_⟩
    rw [← ids_take p range]
    exact crewed.shards
  | launching _ p next _ _ _ range crewed =>
    refine Or.inr ⟨p, next - p.first, rfl, ?_⟩
    rw [← ids_take p (by omega)]
    exact crewed.shards
  | closing _ _ members => exact Or.inl (by simp [shardIds, members])

theorem Accord.deserted {r : Register} {f : Fleet} (accord : Accord r f) (none : r.launched = none) :
    f.crew = [] := by
  have posture := accord.posture
  rw [none] at posture
  cases posture with
  | empty _ members leaving => simp [Fleet.crew, members, leaving]
  | closing _ _ members _ gone => simp [Fleet.crew, members, gone rfl]

theorem Accord.idle {r : Register} {f : Fleet} (accord : Accord r f) (served : f.Served)
    (answered : r.waiting = []) :
    f.underway = none ∧ f.leaving = [] ∧
      (r.launched = none ∧ f.members = [] ∨
        ∃ p, r.launched = some p ∧ p.fault? = none ∧ Crewed p p.ids f.members) := by
  have nobody : f.pending = [] := accord.waiting.symm.trans answered
  have free : f.underway = none := by
    cases busy : f.underway with
    | none => rfl
    | some u => simp [pending, busy] at nobody
  refine ⟨free, ?_⟩
  have posture := accord.posture
  obtain ⟨_, launched⟩ := r
  simp only at posture ⊢
  cases posture with
  | empty _ members leaving => exact ⟨leaving, Or.inl ⟨rfl, members⟩⟩
  | standing p count _ leaving fits range crewed whole =>
    refine ⟨leaving, Or.inr ⟨p, rfl, fits, ?_⟩⟩
    rcases whole with whole | ⟨other, called⟩
    · have all : count = p.last + 1 - p.first := by omega
      rw [all] at crewed
      exact crewed
    · rw [served free] at called
      cases called
  | launching _ _ _ busy | closing _ busy => cases free.symm.trans busy

/-- Whatever is called, posted and happens in between: as soon as everybody has been answered, a fleet
    runs exactly the shards of the last start that was admitted, each one launched once, with its
    number and its total, or none at all if no start has been admitted since a shutdown came to its
    end.  A start that is cut short leaves a part of its shards behind only until the shutdown that
    cut it is served.  After a shutdown everything that ever ran has stopped. -/
theorem life_cycle (settings : GatewaySettings) (run : List FleetEvent) :
    let f := (create settings).after run
    let r := ({} : Register).noteAll ((create settings).log run)
    (r.waiting = [] → f.underway = none ∧ f.leaving = [] ∧
      (r.launched = none ∧ f.shardIds = [] ∨
        ∃ p, r.launched = some p ∧ f.shardIds = p.ids ∧ p.ids ≠ [] ∧ (∀ id ∈ p.ids, id < p.total) ∧
          Crewed p p.ids f.members)) ∧
      (f.shardIds = [] ∨ ∃ p count, r.launched = some p ∧ f.shardIds = p.ids.take count) ∧
      (r.launched = none → f.crew = []) ∧
      (∀ before later, run = before ++ later → ∀ m ∈ ((create settings).after before).crew,
        let since := reached m.shard (((create settings).after before).log later)
        let c := (m.connection.run since).connection
        (c.isStopped = true ∨ ∃ n ∈ f.crew, n.connection = c) ∧
          (r.launched = none → c.isStopped = true)) ∧
      (∀ storeFault now caller p,
        let refused := f.isRunning = true ∨ p.total = 0 ∨ p.last < p.first ∨ p.total ≤ p.last ∨
          ∃ e, Arbiter.create storeFault p.settings.identify = .error e
        let outcome := f.undertake storeFault now caller (.start p)
        (refused → ∃ e, outcome = ([.started caller (some e)], f)) ∧
          ((∃ other e, .started other (some e) ∈ outcome.1) → refused)) ∧
      (∀ i, (f.recommended i).fault? = none ∧ (f.recommended i).total = max i.shards 1 ∧
        (f.recommended i).ids = List.range (max i.shards 1)) ∧
      ∀ shard k, f.post shard k = .error .shuttingDown ↔ shard ∉ f.shardIds := by
  intro f r
  have accord : Accord r f := run_accord settings run
  have served : f.Served := after_served _ (fun _ => rfl) run
  refine ⟨?_, accord.posture.ids, ?_, ?_, ?_, ?_, post_shuttingDown_iff f⟩
  · intro answered
    obtain ⟨free, leaving, none | ⟨p, launched, fits, crewed⟩⟩ := accord.idle served answered
    · exact ⟨free, leaving, Or.inl ⟨none.1, by simp [shardIds, none.2]⟩⟩
    · obtain ⟨range, total⟩ := p.fits_iff.mp fits
      refine ⟨free, leaving, Or.inr ⟨p, launched, crewed.shards, ?_, ?_, crewed⟩⟩
      · simp only [LaunchPlan.ids, ne_eq, List.range'_eq_nil_iff]
        omega
      · intro id member
        obtain ⟨_, _⟩ := List.mem_range'_1.mp member
        omega
  · exact accord.deserted
  · intro before later split m member since c
    have kept := run_keeps settings before later member
    rw [← split] at kept
    refine ⟨kept, ?_⟩
    intro none
    rcases kept with stopped | ⟨n, stays, _⟩
    · exact stopped
    · rw [accord.deserted none] at stays
      cases stays
  · exact start_verdict f
  · intro i
    obtain ⟨fits, ids⟩ := recommended_ids f i
    exact ⟨fits, rfl, ids⟩

/-- Two of four shards are launched with a pause between them, a second start is refused meanwhile, and
    after the shutdown both have stopped. -/
theorem started_and_stopped :
    let around : Circumstances := ⟨.steady 0, .ofNat 1, true, fun _ => true, none⟩
    let event (i : FleetInput) : FleetEvent := .input (fun _ => none) around i
    let settings : GatewaySettings := { token := "token" }
    let p : LaunchPlan := ⟨1, 2, 4, settings⟩
    let before := [event (.call 0 (.start p)), event (.call 1 (.start p)), event .staggered]
    let later := [event (.call 2 .shutdown), event (.mail 1), event (.mail 2)]
    let f := (create settings).after before
    let g := (create settings).after (before ++ later)
    f.shardIds = [1, 2] ∧ Crewed p p.ids f.members ∧ g.crew = [] ∧ g.shardIds = [] ∧
      (∀ m ∈ f.crew,
        let c := (m.connection.run (reached m.shard (f.log later))).connection
        c.isStopped = true) ∧
      (∃ e, f.undertake (fun _ => none) 0 3 (.start p) = ([.started 3 (some e)], f)) ∧
      g.post 1 .reconnect = .error .shuttingDown := by
  intro around event settings p before later f g
  have running : (({} : Register).noteAll ((create settings).log before)).launched = some p := by
    decide +kernel
  have answered : (({} : Register).noteAll ((create settings).log before)).waiting = [] := by
    decide +kernel
  have ended : (({} : Register).noteAll ((create settings).log (before ++ later))).launched = none := by
    decide +kernel
  have busy : f.isRunning = true := by decide +kernel
  obtain ⟨idle, _, _, _, starts, _⟩ := life_cycle settings before
  obtain ⟨_, _, deserted, stopped, _, _, posts⟩ := life_cycle settings (before ++ later)
  obtain ⟨_, _, ⟨never, _⟩ | ⟨q, launched, ids, _, _, crewed⟩⟩ := idle answered
  · cases never.symm.trans running
  · cases launched.symm.trans running
    have gone : g.crew = [] := deserted ended
    have none_left : g.shardIds = [] := by
      have members : g.members = [] := (List.append_eq_nil_iff.mp gone).1
      simp [shardIds, members]
    refine ⟨ids, crewed, gone, none_left, ?_, (starts _ 0 3 p).1 (Or.inl busy), ?_⟩
    · intro m member
      exact (stopped before later rfl m member).2 ended
    · refine (posts 1 .reconnect).mpr ?_
      have absent : 1 ∉ g.shardIds := by simp [none_left]
      exact absent

end Fleet
end SessionFleet
