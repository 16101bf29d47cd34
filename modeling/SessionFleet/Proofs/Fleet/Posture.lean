import Mathlib.Data.List.Forall2
import SessionFleet.Proofs.Connection.OwnTurn
import SessionFleet.Proofs.Fleet.FleetRuns
/- What the callers of a fleet have been told, and how the fleet stands to that after any of its
   moves. -/
namespace SessionFleet

/-- The shards in the order in which they are launched. -/
def LaunchPlan.ids (p : LaunchPlan) : List Nat := List.range' p.first (p.last + 1 - p.first)

theorem LaunchPlan.fits_iff (p : LaunchPlan) : p.fault? = none ↔ p.first ≤ p.last ∧ p.last < p.total := by
  simp only [fault?]
  constructor
  · intro fits
    simp at fits
    omega
  · intro inside
    have outside : ¬((p.total = 0 ∨ p.last < p.first) ∨ p.total ≤ p.last) := by omega
    simpa using outside

def Errand.plan? : Errand → Option LaunchPlan
  | .start p => some p
  | .shutdown => none

def Underway.call : Underway → Nat × Errand
  | .launching caller p _ => (caller, .start p)
  | .closing caller => (caller, .shutdown)

/-- Who has not been answered yet, and what the last start that was admitted is to launch, unless a
    shutdown has come to its end since. -/
structure Register where
  waiting : List (Nat × Errand) := []
  launched : Option LaunchPlan := none

namespace Register

/-- Callers are answered in the order in which they call. -/
def note (r : Register) : FleetSighting → Register
  | .called caller e => { r with waiting := r.waiting ++ [(caller, e)] }
  | .act (.turns _) => { r with launched := r.waiting.head?.bind fun w => w.2.plan? }
  | .act (.started _ _) => { r with waiting := r.waiting.tail }
  | .act (.ended _) => ⟨r.waiting.tail, none⟩
  | _ => r

def noteAll (r : Register) (seen : List FleetSighting) : Register := seen.foldl note r

theorem noteAll_append (r : Register) (first later : List FleetSighting) :
    r.noteAll (first ++ later) = (r.noteAll first).noteAll later := List.foldl_append ..

theorem noteAll_deeds (r : Register) (shard : Nat) (deeds : List Deed) :
    r.noteAll ((deeds.map (.deed shard)).map .act) = r := by
  induction deeds with
  | nil => rfl
  | cons d rest ih => exact ih

theorem noteAll_touched (r : Register) (m : Member) (shard : Nat) (s : Circumstances) (i : Stimulus) :
    r.noteAll (m.touched shard s i) = r := by
  unfold Member.touched
  split <;> rfl

end Register

namespace Fleet

/-- A connection that was launched under that number, after whatever has reached it since. -/
def Descends (p : LaunchPlan) (id : Nat) (m : Member) : Prop :=
  ∃ history, m.connection =
    ((Connection.start p.settings ⟨id, p.total⟩).connection.run history).connection

def Crewed (p : LaunchPlan) : List Nat → List Member → Prop := List.Forall₂ (Descends p)

section
variable {p : LaunchPlan} {id : Nat} {ids : List Nat} {m n : Member} {ms : List Member}

theorem Descends.shard (descends : Descends p id m) : m.shard = id := by
  obtain ⟨history, same⟩ := descends
  unfold Member.shard
  rw [same, Connection.run_shard]

theorem Descends.step (descends : Descends p id m) {s : Circumstances} {i : Stimulus}
    (stepped : n.connection = (m.connection.step s i).connection) : Descends p id n := by
  obtain ⟨history, same⟩ := descends
  refine ⟨history ++ [(s, i)], ?_⟩
  rw [stepped, Connection.run_append, same]
  rfl

theorem Crewed.shards (crewed : Crewed p ids ms) : ms.map Member.shard = ids := by
  induction crewed with
  | nil => rfl
  | cons descends _ ih => rw [List.map_cons, descends.shard, ih]

theorem Crewed.launch (crewed : Crewed p ids ms) (id : Nat) :
    Crewed p (ids ++ [id]) (ms ++ [⟨(Connection.start p.settings ⟨id, p.total⟩).connection, []⟩]) :=
  List.rel_append crewed (.cons ⟨[], rfl⟩ .nil)

theorem Crewed.map (crewed : Crewed p ids ms) {f : Member → Member}
    (keeps : ∀ id m, Descends p id m → Descends p id (f m)) : Crewed p ids (ms.map f) := by
  induction crewed with
  | nil => exact .nil
  | cons descends _ ih => exact .cons (keeps _ _ descends) ih

theorem Crewed.post (crewed : Crewed p ids ms) (shard : Nat) (k : Command) :
    Crewed p ids (ms.map fun n => if n.shard = shard then n.post k else n) := by
  apply crewed.map
  intro id m descends
  split <;> exact descends

theorem Crewed.replace (crewed : Crewed p ids ms) {shard : Nat} (descends : Descends p shard n) :
    Crewed p ids (Fleet.replace shard n ms) := by
  apply crewed.map
  intro id m before
  split
  · rename_i own
    rw [← before.shard, own]
    exact descends
  · exact before

theorem Crewed.of_mem (crewed : Crewed p ids ms) (member : m ∈ ms) : Descends p m.shard m := by
  induction crewed with
  | nil => cases member
  | cons descends _ ih =>
    rcases List.mem_cons.mp member with head | tail
    · rw [head, descends.shard]
      exact descends
    · exact ih tail

end

/-- How a fleet stands to the last start that was admitted. -/
inductive Posture : Option LaunchPlan → Fleet → Prop where
  | empty {f : Fleet} (free : f.underway = none) (members : f.members = []) (leaving : f.leaving = []) :
      Posture none f
  | standing {f : Fleet} (p : LaunchPlan) (count : Nat) (free : f.underway = none)
      (leaving : f.leaving = []) (fits : p.fault? = none) (range : p.first + count ≤ p.last + 1)
      (crewed : Crewed p (List.range' p.first count) f.members)
      (whole : p.first + count = p.last + 1 ∨ ∃ other, (other, .shutdown) ∈ f.line) :
      Posture (some p) f
  | launching {f : Fleet} (caller : Nat) (p : LaunchPlan) (next : Nat)
      (busy : f.underway = some (.launching caller p next)) (leaving : f.leaving = [])
      (fits : p.fault? = none) (range : p.first ≤ next ∧ next ≤ p.last)
      (crewed : Crewed p (List.range' p.first (next - p.first)) f.members) : Posture (some p) f
  | closing {f : Fleet} {launched : Option LaunchPlan} (caller : Nat)
      (busy : f.underway = some (.closing caller)) (members : f.members = [])
      (apart : (f.leaving.map Member.shard).Nodup) (gone : launched = none → f.leaving = []) :
      Posture launched f

/-- Those who wait for an answer. -/
def pending (f : Fleet) : List (Nat × Errand) := (f.underway.map Underway.call).toList ++ f.line

theorem noteAll_launch (r : Register) (f : Fleet) (now : Instant) (p : LaunchPlan) (next : Nat) :
    r.noteAll ((f.launch now p next).1.map .act) = r := r.noteAll_deeds next _

theorem Move.waiting {f g : Fleet} {seen : List FleetSighting} (move : Move f seen g) {r : Register}
    (waiting : r.waiting = f.pending) : (r.noteAll seen).waiting = g.pending := by
  cases move with
  | calls => simp [Register.noteAll, Register.note, pending, waiting]
  | refuses _ _ _ _ free first | admits _ _ _ _ free first | dismisses _ _ free first =>
    simp [Register.noteAll, Register.note, pending, waiting, free, first, Underway.call]
  | launches _ _ _ _ busy =>
    rw [noteAll_launch, waiting]
    simp [pending, launch, note, busy, Underway.call]
  | completes _ _ _ busy =>
    rw [Register.noteAll_append, noteAll_launch]
    simp [Register.noteAll, Register.note, pending, launch, note, waiting, busy, Underway.call]
  | cuts _ _ _ _ busy | ends _ busy =>
    simp [Register.noteAll, Register.note, pending, waiting, busy, Underway.call]
  | reaches _ shard m _ i =>
    rw [Register.noteAll_append, Register.noteAll_touched, Register.noteAll_deeds]
    exact waiting
  | waits | posts => exact waiting

theorem Crewed.launched {f : Fleet} {p : LaunchPlan} {next : Nat} (first : p.first ≤ next)
    (crewed : Crewed p (List.range' p.first (next - p.first)) f.members) (now : Instant) :
    Crewed p (List.range' p.first (next + 1 - p.first)) (f.launch now p next).2.members := by
  have grown := crewed.launch next
  have ids : List.range' p.first (next + 1 - p.first) =
      List.range' p.first (next - p.first) ++ [next] := by
    have count : next + 1 - p.first = (next - p.first) + 1 := by omega
    have last : p.first + (next - p.first) = next := by omega
    rw [count, List.range'_1_concat, last]
  rw [ids]
  exact grown

theorem replace_absent {shard : Nat} {ms : List Member} (absent : shard ∉ ms.map Member.shard)
    (n : Member) : replace shard n ms = ms := by
  have keeps : ∀ m ∈ ms, (if m.shard = shard then n else m) = id m := by
    intro m member
    have other : m.shard ≠ shard := fun own => absent (List.mem_map.mpr ⟨m, member, own⟩)
    rw [if_neg other]
    rfl
  unfold replace
  rw [List.map_congr_left keeps, List.map_id]

theorem replace_shards {shard : Nat} {n : Member} (own : n.shard = shard) (ms : List Member) :
    (replace shard n ms).map Member.shard = ms.map Member.shard := by
  unfold replace
  rw [List.map_map]
  apply List.map_congr_left
  intro m _
  simp only [Function.comp]
  split
  · rename_i same
    rw [own, same]
  · rfl

/-- A posture is kept as long as no errand is begun or ends and nobody comes or goes. -/
theorem Posture.carried {launched : Option LaunchPlan} {f g : Fleet} (posture : Posture launched f)
    (underway : g.underway = f.underway) (line : ∀ w ∈ f.line, w ∈ g.line)
    (crewed : ∀ p ids, Crewed p ids f.members → Crewed p ids g.members)
    (members : f.members = [] → g.members = [])
    (leaving : g.leaving.map Member.shard = f.leaving.map Member.shard) : Posture launched g := by
  have left : f.leaving = [] → g.leaving = [] := by
    intro gone
    rw [gone] at leaving
    exact List.map_eq_nil_iff.mp leaving
  cases posture with
  | empty free none gone => exact .empty (underway.trans free) (members none) (left gone)
  | standing p count free gone fits range crew whole =>
    refine .standing p count (underway.trans free) (left gone) fits range (crewed _ _ crew) ?_
    rcases whole with whole | ⟨other, called⟩
    · exact Or.inl whole
    · exact Or.inr ⟨other, line _ called⟩
  | launching caller p next busy gone fits range crew =>
    exact .launching caller p next (underway.trans busy) (left gone) fits range (crewed _ _ crew)
  | closing caller busy none apart gone =>
    refine .closing caller (underway.trans busy) (members none) ?_ (fun never => left (gone never))
    rw [leaving]
    exact apart

theorem Posture.nobody_leaves {launched : Option LaunchPlan} {f : Fleet} (posture : Posture launched f)
    (free : f.underway = none) : f.leaving = [] := by
  cases posture with
  | empty _ _ leaving | standing _ _ _ leaving => exact leaving
  | launching _ _ _ busy | closing _ busy => cases free.symm.trans busy

theorem Posture.nobody_stays {launched : Option LaunchPlan} {f : Fleet} (posture : Posture launched f)
    {caller : Nat} (busy : f.underway = some (.closing caller)) : f.members = [] := by
  cases posture with
  | closing _ _ members => exact members
  | launching _ _ _ other => cases busy.symm.trans other
  | empty free | standing _ _ free => cases free.symm.trans busy

/-- Nobody is in two places. -/
theorem Posture.crew {launched : Option LaunchPlan} {f : Fleet} (posture : Posture launched f) :
    (f.crew.map Member.shard).Nodup := by
  have range (first count : Nat) : (List.range' first count).Nodup := List.nodup_range'
  cases posture with
  | empty _ members leaving => simp [Fleet.crew, members, leaving]
  | standing p count _ leaving _ _ crewed =>
    simp only [Fleet.crew, leaving, List.append_nil]
    rw [crewed.shards]
    exact range ..
  | launching _ p next _ leaving _ _ crewed =>
    simp only [Fleet.crew, leaving, List.append_nil]
    rw [crewed.shards]
    exact range ..
  | closing _ _ members apart =>
    simp only [Fleet.crew, members, List.nil_append]
    exact apart

theorem member?_some {f : Fleet} {shard : Nat} {m : Member} (found : f.member? shard = some m) :
    m ∈ f.crew ∧ m.shard = shard :=
  ⟨List.mem_of_find?_eq_some found, by simpa using List.find?_some found⟩

theorem shard_of_stepped {m n : Member} {s : Circumstances} {i : Stimulus}
    (stepped : n.connection = (m.connection.step s i).connection) : n.shard = m.shard := by
  unfold Member.shard
  rw [stepped, (Connection.step_moves s m.connection i).shard]

theorem Move.posture {f g : Fleet} {seen : List FleetSighting} (move : Move f seen g) {r : Register}
    (waiting : r.waiting = f.pending) (posture : Posture r.launched f) :
    Posture (r.noteAll seen).launched g := by
  obtain ⟨callers, launched⟩ := r
  simp only at waiting posture
  cases move with
  | calls caller e =>
    exact posture.carried rfl (fun w called => List.mem_append_left _ called) (fun _ _ => id) id rfl
  | refuses caller p e rest free first =>
    change Posture launched _
    cases posture with
    | empty _ members leaving => exact .empty free members leaving
    | standing q count _ leaving fits range crewed whole =>
      -- a start is refused, so the shutdown that cut the last one short is behind it in the line
      refine .standing q count free leaving fits range crewed ?_
      rw [first] at whole
      simpa using whole
    | launching _ _ _ busy | closing _ busy => cases free.symm.trans busy
  | admits caller p a rest free first empty fits =>
    have admitted : (Register.noteAll ⟨callers, launched⟩ [.act (.turns a)]).launched = some p := by
      simp [Register.noteAll, Register.note, waiting, pending, free, first, Errand.plan?]
    rw [admitted]
    obtain ⟨range, _⟩ := p.fits_iff.mp fits
    have nobody : Crewed p (List.range' p.first (p.first - p.first)) f.members := by
      rw [empty, Nat.sub_self]
      exact .nil
    cases posture with
    | empty _ _ leaving => exact .launching caller p p.first rfl leaving fits ⟨Nat.le_refl _, range⟩ nobody
    | standing _ _ _ leaving =>
      exact .launching caller p p.first rfl leaving fits ⟨Nat.le_refl _, range⟩ nobody
    | launching _ _ _ busy | closing _ busy => cases free.symm.trans busy
  | launches now caller p next busy before =>
    rw [noteAll_launch]
    cases posture with
    | launching _ _ _ same leaving fits range crewed =>
      cases busy.symm.trans same
      exact .launching caller p (next + 1) rfl leaving fits (by omega) (crewed.launched range.1 now)
    | empty free | standing _ _ free => cases free.symm.trans busy
    | closing _ other => cases busy.symm.trans other
  | completes now caller p busy =>
    rw [Register.noteAll_append, noteAll_launch]
    cases posture with
    | launching _ _ _ same leaving fits range crewed =>
      cases busy.symm.trans same
      have whole : p.first + (p.last + 1 - p.first) = p.last + 1 := by omega
      exact .standing p _ rfl leaving fits (Nat.le_of_eq whole) (crewed.launched range.1 now) (Or.inl whole)
    | empty free | standing _ _ free => cases free.symm.trans busy
    | closing _ other => cases busy.symm.trans other
  | waits => exact posture
  | cuts caller p next other busy called =>
    change Posture launched _
    cases posture with
    | launching _ _ _ same leaving fits range crewed =>
      cases busy.symm.trans same
      exact .standing p _ rfl leaving fits (by omega) crewed (Or.inr ⟨other, called⟩)
    | empty free | standing _ _ free => cases free.symm.trans busy
    | closing _ other => cases busy.symm.trans other
  | dismisses caller rest free first =>
    have told : (f.members.map fun m => m.post .close).map Member.shard = f.members.map Member.shard := by
      rw [List.map_map]
      rfl
    change Posture launched _
    cases posture with
    | empty _ members leaving =>
      refine .closing caller rfl rfl ?_ ?_
      · simp [members]
      · simp [members]
    | standing p count _ leaving fits range crewed whole =>
      refine .closing caller rfl rfl ?_ ?_
      · simp only [told]
        rw [crewed.shards]
        exact List.nodup_range'
      · simp
    | launching _ _ _ busy | closing _ busy => cases free.symm.trans busy
  | ends caller busy stopped =>
    change Posture none _
    cases posture with
    | closing _ _ members => exact .empty rfl members rfl
    | launching _ _ _ other => cases busy.symm.trans other
    | empty free | standing _ _ free => cases free.symm.trans busy
  | reaches s shard m n i found stepped =>
    rw [Register.noteAll_append, Register.noteAll_touched, Register.noteAll_deeds]
    obtain ⟨member, own⟩ := member?_some found
    have same : n.shard = shard := (shard_of_stepped stepped).trans own
    -- whoever is reached runs or leaves; one that leaves has no namesake among those that run
    refine posture.carried rfl (fun _ => id) ?_ ?_ (replace_shards same f.leaving)
    · intro p ids crewed
      rcases List.mem_append.mp member with runs | leaves
      · have descends := (crewed.of_mem runs).step stepped
        rw [own] at descends
        exact crewed.replace descends
      · have apart := posture.crew
        rw [Fleet.crew, List.map_append] at apart
        have absent : shard ∉ f.members.map Member.shard := by
          intro there
          have here : shard ∈ f.leaving.map Member.shard := List.mem_map.mpr ⟨m, leaves, own⟩
          exact (List.nodup_append.mp apart).2.2 shard there shard here rfl
        simp only
        rwa [replace_absent absent]
    · intro none
      simp [replace, none]
  | posts shard k =>
    exact posture.carried rfl (fun _ => id) (fun _ _ crewed => crewed.post shard k)
      (fun none => by simp [none]) rfl

/-- What a fleet runs and whom it serves is what its callers can tell from the answers. -/
structure Accord (r : Register) (f : Fleet) : Prop where
  waiting : r.waiting = f.pending
  posture : Posture r.launched f

theorem Move.accord {f g : Fleet} {seen : List FleetSighting} (move : Move f seen g) {r : Register}
    (accord : Accord r f) : Accord (r.noteAll seen) g :=
  ⟨move.waiting accord.waiting, move.posture accord.waiting accord.posture⟩

theorem Moves.accord {f g : Fleet} {seen : List FleetSighting} (moves : Moves f seen g) {r : Register}
    (accord : Accord r f) : Accord (r.noteAll seen) g := by
  induction moves generalizing r with
  | none => exact accord
  | more move _ ih =>
    rw [Register.noteAll_append]
    exact ih (move.accord accord)

theorem create_accord (settings : GatewaySettings) : Accord {} (create settings) :=
  ⟨rfl, .empty rfl rfl rfl⟩

theorem create_moves (settings : GatewaySettings) (run : List FleetEvent) :
    Moves (create settings) ((create settings).log run) ((create settings).after run) := by
  apply after_moves
  intro caller p next busy
  cases busy

theorem run_accord (settings : GatewaySettings) (run : List FleetEvent) :
    Accord (({} : Register).noteAll ((create settings).log run)) ((create settings).after run) :=
  (create_moves settings run).accord (create_accord settings)

end Fleet
end SessionFleet
