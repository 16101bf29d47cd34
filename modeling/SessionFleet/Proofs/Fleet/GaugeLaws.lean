import Mathlib.Data.List.Induction
import SessionFleet.Fleet.Metrics
/- The gauge of a shard follows from the deeds of that shard alone, whatever the others do in
   between; and of those only a few can be read off it. -/
namespace SessionFleet

/-- The deeds by which the state of a socket can be seen from the outside. -/
def Deed.shows : Deed → Bool
  | .opened _ | .closed | .phase _ | .latency _ => true
  | _ => false

def Deed.phase? : Deed → Option Phase
  | .phase p => some p
  | _ => none

def told (deeds : List Deed) : List Phase := deeds.filterMap Deed.phase?

theorem told_append (first later : List Deed) : told (first ++ later) = told first ++ told later :=
  List.filterMap_append ..

theorem told_of_unseen {deeds : List Deed} (unseen : ∀ d ∈ deeds, d.shows = false) :
    told deeds = [] := by
  refine List.filterMap_eq_nil_iff.mpr ?_
  intro d member
  have hidden := unseen d member
  cases d with
  | phase p => simp [Deed.shows] at hidden
  | _ => rfl

/-- Whether a socket is open after a deed, if it has to do with that. -/
def Deed.socket? : Deed → Option Bool
  | .opened _ => some true
  | .closed => some false
  | _ => none

def sockets (deeds : List Deed) : List Bool := deeds.filterMap Deed.socket?

theorem getLastD_append {α : Type} (first later : List α) (a : α) :
    (first ++ later).getLastD a = later.getLastD (first.getLastD a) := by
  induction first generalizing a with
  | nil => rfl
  | cons x rest ih =>
    rw [List.cons_append, List.getLastD_cons, List.getLastD_cons]
    exact ih x

theorem sockets_append (first later : List Deed) :
    sockets (first ++ later) = sockets first ++ sockets later := List.filterMap_append ..

theorem sockets_of_unseen {deeds : List Deed} (unseen : ∀ d ∈ deeds, d.shows = false) :
    sockets deeds = [] := by
  apply List.filterMap_eq_nil_iff.mpr
  intro d member
  have hidden := unseen d member
  cases d with
  | opened | closed => simp [Deed.shows] at hidden
  | _ => rfl

/-- Deeds in the order in which they are counted: by which shard, when, and what. -/
abbrev DeedLog := List (Nat × Instant × Deed)

def DeedLog.of (shard : Nat) (log : DeedLog) : List (Instant × Deed) :=
  (log.filter fun e => e.1 = shard).map Prod.snd

theorem DeedLog.of_append (shard : Nat) (log : DeedLog) (e : Nat × Instant × Deed) :
    DeedLog.of shard (log ++ [e]) = DeedLog.of shard log ++ if e.1 = shard then [e.2] else [] := by
  by_cases own : e.1 = shard <;> simp [DeedLog.of, own]

namespace Gauge

def recordAll (g : Gauge) (deeds : List (Instant × Deed)) : Gauge :=
  deeds.foldl (fun g e => g.record e.1 e.2) g

theorem recordAll_append (g : Gauge) (first later : List (Instant × Deed)) :
    g.recordAll (first ++ later) = (g.recordAll first).recordAll later :=
  List.foldl_append ..

theorem record_shard (g : Gauge) (now : Instant) (d : Deed) : (g.record now d).shard = g.shard := by
  cases d <;> rfl

/-- A gauge shows the phase that was told last. -/
theorem recordAll_phase (g : Gauge) (deeds : List (Instant × Deed)) :
    (g.recordAll deeds).phase = (told (deeds.map Prod.snd)).getLastD g.phase := by
  induction deeds using List.reverseRecOn with
  | nil => rfl
  | append_singleton deeds last ih =>
    obtain ⟨now, d⟩ := last
    have step : (g.recordAll (deeds ++ [(now, d)])).phase = ((g.recordAll deeds).record now d).phase := by
      rw [recordAll_append]
      rfl
    rw [step, List.map_append, told_append]
    cases d with
    | phase p => simp [record, told, Deed.phase?]
    | _ => simpa [record, told, Deed.phase?] using ih

theorem record_connected (g : Gauge) (now : Instant) (d : Deed) :
    (g.record now d).isConnected = (sockets [d]).getLastD g.isConnected := by
  cases d <;> rfl

/-- A gauge shows whether the last socket is still open. -/
theorem recordAll_connected (g : Gauge) (deeds : List (Instant × Deed)) :
    (g.recordAll deeds).isConnected = (sockets (deeds.map Prod.snd)).getLastD g.isConnected := by
  induction deeds generalizing g with
  | nil => rfl
  | cons first rest ih =>
    have later := ih (g.record first.1 first.2)
    rw [record_connected] at later
    have split : sockets ((first :: rest).map Prod.snd) = sockets [first.2] ++ sockets (rest.map Prod.snd) :=
      sockets_append [first.2] _
    rw [split, getLastD_append]
    exact later

structure Dark (g : Gauge) : Prop where
  connected : g.isConnected = false
  latency : g.latency = none

theorem record_dark {g : Gauge} (dark : g.Dark) (now : Instant) {d : Deed} (unseen : d.shows = false) :
    (g.record now d).Dark := by
  cases d with
  | opened | phase | latency | closed => simp [Deed.shows] at unseen
  | _ => exact ⟨dark.connected, dark.latency⟩

/-- Once a socket has closed, the gauge is dark until another one opens. -/
theorem recordAll_dark (g : Gauge) (now : Instant) {deeds : List (Instant × Deed)}
    (unseen : ∀ e ∈ deeds, e.2.shows = false) :
    (g.recordAll ((now, .closed) :: deeds)).Dark := by
  induction deeds using List.reverseRecOn with
  | nil => exact ⟨rfl, rfl⟩
  | append_singleton deeds last ih =>
    rw [List.forall_mem_append] at unseen
    rw [← List.cons_append, recordAll_append]
    exact record_dark (ih unseen.1) last.1 (unseen.2 last (by simp))

end Gauge

namespace Metrics

def recordLog (m : Metrics) (log : DeedLog) : Metrics :=
  log.foldl (fun m e => m.record e.1 e.2.1 e.2.2) m

theorem recordLog_append (m : Metrics) (log : DeedLog) (e : Nat × Instant × Deed) :
    m.recordLog (log ++ [e]) = (m.recordLog log).record e.1 e.2.1 e.2.2 := by
  simp [recordLog]

def Ascending (gauges : List Gauge) : Prop := gauges.Pairwise fun g h => g.shard < h.shard

section
variable {shard : Nat} {f : Gauge → Gauge} {gauges : List Gauge}

theorem updateGauge_twice (keeps : ∀ g, (f g).shard = g.shard) (h : Gauge → Gauge) :
    updateGauge shard h (updateGauge shard f gauges) = updateGauge shard (h ∘ f) gauges := by
  induction gauges with
  | nil => simp [updateGauge, keeps]
  | cons first rest ih =>
    by_cases here : first.shard = shard
    · simp [updateGauge, keeps, here]
    · by_cases before : shard < first.shard
      · simp [updateGauge, keeps, here, before]
      · simp [updateGauge, here, before, ih]

theorem mem_updateGauge (keeps : ∀ g, (f g).shard = g.shard) {g : Gauge}
    (member : g ∈ updateGauge shard f gauges) :
    g.shard = shard ∨ ∃ h ∈ gauges, g.shard = h.shard := by
  induction gauges with
  | nil =>
    rw [List.mem_singleton.mp member]
    exact Or.inl (keeps _)
  | cons first rest ih =>
    unfold updateGauge at member
    split at member
    · rename_i same
      rcases List.mem_cons.mp member with head | tail
      · rw [head, keeps]
        exact Or.inl same
      · exact Or.inr ⟨g, List.mem_cons_of_mem _ tail, rfl⟩
    · split at member
      · rcases List.mem_cons.mp member with head | tail
        · rw [head]
          exact Or.inl (keeps _)
        · exact Or.inr ⟨g, tail, rfl⟩
      · rcases List.mem_cons.mp member with head | tail
        · exact Or.inr ⟨first, List.mem_cons_self, by rw [head]⟩
        · rcases ih tail with new | ⟨h, old, same⟩
          · exact Or.inl new
          · exact Or.inr ⟨h, List.mem_cons_of_mem _ old, same⟩

theorem updateGauge_ascending (keeps : ∀ g, (f g).shard = g.shard) (ascending : Ascending gauges) :
    Ascending (updateGauge shard f gauges) := by
  induction gauges with
  | nil => exact List.pairwise_singleton _ _
  | cons first rest ih =>
    obtain ⟨least, others⟩ := List.pairwise_cons.mp ascending
    unfold updateGauge
    split
    · refine List.pairwise_cons.mpr ⟨?_, others⟩
      intro g member
      rw [keeps]
      exact least g member
    · rename_i other
      split
      · rename_i before
        refine List.pairwise_cons.mpr ⟨?_, ascending⟩
        intro g member
        rw [keeps]
        rcases List.mem_cons.mp member with head | tail
        · rw [head]
          exact before
        · exact Nat.lt_trans before (least g tail)
      · rename_i behind
        refine List.pairwise_cons.mpr ⟨?_, ih others⟩
        intro g member
        rcases mem_updateGauge keeps member with new | ⟨h, old, same⟩
        · omega
        · rw [same]
          exact least h old

theorem find?_updateGauge (keeps : ∀ g, (f g).shard = g.shard) (ascending : Ascending gauges)
    (n : Nat) :
    (updateGauge shard f gauges).find? (fun g => g.shard = n) =
      if shard = n then some (f ((gauges.find? fun g => g.shard = n).getD { shard := n }))
      else gauges.find? fun g => g.shard = n := by
  induction gauges with
  | nil =>
    by_cases own : shard = n
    · simp [updateGauge, keeps, own]
    · simp [updateGauge, keeps, own]
  | cons first rest ih =>
    obtain ⟨least, others⟩ := List.pairwise_cons.mp ascending
    have later := ih others
    unfold updateGauge
    split
    · rename_i same
      by_cases own : shard = n
      · simp [keeps, same, own]
      · simp [keeps, same, own]
    · rename_i other
      split
      · rename_i before
        by_cases own : shard = n
        · -- everything that is there stands behind the new gauge
          have absent : (first :: rest).find? (fun g => g.shard = n) = none := by
            refine List.find?_eq_none.mpr ?_
            intro g member
            rcases List.mem_cons.mp member with head | tail
            · simp only [head, decide_eq_true_eq]
              omega
            · have behind := least g tail
              simp only [decide_eq_true_eq]
              omega
          rw [if_pos own, absent]
          simp [keeps, own]
        · rw [if_neg own, List.find?_cons_of_neg (by simp [keeps, own])]
      · by_cases here : first.shard = n
        · have own : shard ≠ n := fun own => other (here.trans own.symm)
          simp [here, own]
        · rw [List.find?_cons_of_neg (by simp [here]), List.find?_cons_of_neg (by simp [here])]
          exact later

end

theorem recordLog_ascending (log : DeedLog) : Ascending (({} : Metrics).recordLog log).gauges := by
  induction log using List.reverseRecOn with
  | nil => exact List.Pairwise.nil
  | append_singleton log last ih =>
    rw [recordLog_append]
    exact updateGauge_ascending (fun g => g.record_shard _ _) ih

/-- What a fleet shows of a shard is what that shard has done, in its own order. -/
theorem gauge?_recordLog (log : DeedLog) (shard : Nat) :
    (({} : Metrics).recordLog log).gauge? shard =
      if log.of shard = [] then none else some (({ shard } : Gauge).recordAll (log.of shard)) := by
  induction log using List.reverseRecOn with
  | nil => rfl
  | append_singleton log last ih =>
    rw [recordLog_append, DeedLog.of_append]
    simp only [gauge?, record]
    rw [find?_updateGauge (fun g => g.record_shard _ _) (recordLog_ascending log)]
    rw [gauge?] at ih
    rw [ih]
    by_cases own : last.1 = shard
    · rw [if_pos own, if_pos own, if_neg (List.concat_ne_nil _ _), Gauge.recordAll_append]
      by_cases first : DeedLog.of shard log = []
      · rw [if_pos first, first]
        rfl
      · rw [if_neg first]
        rfl
    · rw [if_neg own, if_neg own, List.append_nil]

end Metrics
end SessionFleet
