import SessionFleet.Proofs.Connection.Talks
import SessionFleet.Proofs.Fleet.ShownShards
/- What the shards of a fleet do, one step of one connection after the other.  The fleet itself adds to
   it only that a shard asks for its first turn when it is launched. -/
namespace SessionFleet

/-- A step that one of the connections takes. -/
structure Stride where
  shard : Nat
  circumstances : Circumstances
  connection : Connection
  stimulus : Stimulus

namespace Stride

def advance (w : Stride) : Advance := w.connection.step w.circumstances w.stimulus

def done (w : Stride) : List (Nat × Deed) := w.advance.deeds.map fun d => (w.shard, d)

def talk? (w : Stride) : Option Talk := w.connection.talk? w.circumstances w.stimulus

theorem speaks (w : Stride) :
    spoken w.advance.deeds = w.talk?.toList.flatMap fun t => spoken t.deeds :=
  Connection.step_speaks ..

/-- There is an open socket after the step, and there was none before it. -/
def opens (w : Stride) : Bool := !w.connection.showsOpen && w.advance.connection.showsOpen

end Stride

/-- What is done apart from asking for turns. -/
def besidesAsking (deeds : List (Nat × Deed)) : List (Nat × Deed) :=
  deeds.filter fun e => e.2 ≠ .askTurn

theorem besidesAsking_append (first later : List (Nat × Deed)) :
    besidesAsking (first ++ later) = besidesAsking first ++ besidesAsking later := List.filter_append ..

theorem countP_besidesAsking {counts : Deed → Bool} (unasked : counts .askTurn = false)
    (deeds : List (Nat × Deed)) :
    (besidesAsking deeds).countP (fun e => counts e.2) = deeds.countP fun e => counts e.2 := by
  rw [besidesAsking, List.countP_filter]
  apply List.countP_congr
  intro e _
  by_cases asked : e.2 = .askTurn <;> simp [asked, unasked]

namespace Fleet

/-- The step of a connection that an event leads to, if it leads to one. -/
def stride? (f : Fleet) : FleetEvent → Option Stride
  | .input _ s (.stimulus shard i) => (f.member? shard).map fun m => ⟨shard, s, m.connection, i⟩
  | .input _ s (.mail shard) =>
    match f.member? shard with
    | none => none
    | some m =>
      match m.mailbox with
      | [] => none
      | k :: _ => if m.connection.listens then some ⟨shard, s, m.connection, .command k⟩ else none
  | .input _ _ (.call _ _) | .input _ _ .staggered | .post _ _ => none

def strides (f : Fleet) : List FleetEvent → List Stride
  | [] => []
  | e :: rest => (f.stride? e).toList ++ (f.meet e).2.strides rest

/-- The inputs that the sessions of a fleet have to deal with. -/
def talks (f : Fleet) (run : List FleetEvent) : List Talk := (f.strides run).filterMap Stride.talk?

/- The errands of the callers. -/

/-- No shard does more than to ask for its turn. -/
def OnlyAsks (acts : List FleetAct) : Prop := ∀ shard d, .deed shard d ∈ acts → d = .askTurn

theorem OnlyAsks.append {first later : List FleetAct} (before : OnlyAsks first) (after : OnlyAsks later) :
    OnlyAsks (first ++ later) := by
  intro shard d member
  rcases List.mem_append.mp member with early | late
  · exact before shard d early
  · exact after shard d late

theorem onlyAsks_of_no_deed {acts : List FleetAct} (silent : ∀ shard d, .deed shard d ∉ acts) :
    OnlyAsks acts :=
  fun shard d member => absurd member (silent shard d)

theorem OnlyAsks.nothing_besides {acts : List FleetAct} (asks : OnlyAsks acts) :
    besidesAsking (deedsDone (acts.map .act)) = [] := by
  apply List.filter_eq_nil_iff.mpr
  intro e member
  obtain ⟨sighting, there, same⟩ := List.mem_filterMap.mp member
  obtain ⟨a, among, act⟩ := List.mem_map.mp there
  rw [← act] at same
  cases a with
  | deed shard d =>
    rw [← Option.some.inj same, asks shard d among]
    simp
  | turns | stagger | started | ended => cases same

theorem launch_onlyAsks (f : Fleet) (now : Instant) (p : LaunchPlan) (shard : Nat) :
    OnlyAsks (f.launch now p shard).1 := by
  intro n d member
  have asked : FleetAct.deed n d = .deed shard .askTurn := List.mem_singleton.mp member
  exact (FleetAct.deed.inj asked).2

theorem launchOn_onlyAsks (f : Fleet) (now : Instant) (caller : Nat) (p : LaunchPlan)
    (next left : Nat) : OnlyAsks (f.launchOn now caller p next left).1 := by
  induction left generalizing f next with
  | zero => exact (launch_onlyAsks f now p next).append (onlyAsks_of_no_deed (by simp))
  | succ left ih =>
    unfold launchOn
    by_cases rushed : p.delay = 0
    · simp only [rushed, ↓reduceIte]
      exact (launch_onlyAsks f now p next).append (ih _ (next + 1))
    · simp only [rushed, ↓reduceIte]
      exact (launch_onlyAsks f now p next).append (onlyAsks_of_no_deed (by simp))

theorem finishClosing_onlyAsks (f : Fleet) : OnlyAsks f.finishClosing.1 := by
  apply onlyAsks_of_no_deed
  intro shard d
  unfold finishClosing
  split
  · split <;> simp
  · simp

theorem undertake_onlyAsks (f : Fleet) (storeFault : String → Option String) (now : Instant)
    (caller : Nat) (e : Errand) : OnlyAsks (f.undertake storeFault now caller e).1 := by
  cases e with
  | shutdown => exact finishClosing_onlyAsks _
  | start p =>
    simp only [undertake, start]
    split
    · exact onlyAsks_of_no_deed (by simp)
    · split
      · exact onlyAsks_of_no_deed (by simp)
      · split
        · exact onlyAsks_of_no_deed (by simp)
        · rename_i a _
          have admitted : OnlyAsks [.turns a] := onlyAsks_of_no_deed (by simp)
          exact admitted.append (launchOn_onlyAsks f now caller p _ _)

theorem serve_onlyAsks (storeFault : String → Option String) (now : Instant)
    (line : List (Nat × Errand)) (f : Fleet) : OnlyAsks (serve storeFault now line f).1 := by
  induction line generalizing f with
  | nil => exact onlyAsks_of_no_deed (by simp [serve])
  | cons first rest ih =>
    unfold serve
    split
    · exact onlyAsks_of_no_deed (by simp)
    · exact (undertake_onlyAsks f storeFault now first.1 first.2).append (ih _)

/-- Whoever is served behind it, nothing besides is done. -/
theorem thenServe_besides (storeFault : String → Option String) (now : Instant)
    (r : List FleetAct × Fleet) :
    besidesAsking (deedsDone ((thenServe storeFault now r).1.map .act)) =
      besidesAsking (deedsDone (r.1.map .act)) := by
  have served := (serve_onlyAsks storeFault now r.2.line r.2).nothing_besides
  simp only [thenServe, List.map_append]
  rw [deedsDone_append, besidesAsking_append, served, List.append_nil]

theorem cutShort_onlyAsks (f : Fleet) (e : Errand) : OnlyAsks (f.cutShort e).1 := by
  apply onlyAsks_of_no_deed
  intro shard d
  unfold cutShort
  split
  · simp
  · split <;> simp

/- The steps of the connections. -/

theorem advance_besides (f : Fleet) (s : Circumstances) (shard : Nat) (m : Member) (i : Stimulus) :
    besidesAsking (deedsDone ((f.advance s shard m i).1.map .act)) =
      besidesAsking (Stride.done ⟨shard, s, m.connection, i⟩) := by
  simp only [advance, note, List.map_append]
  rw [deedsDone_append, besidesAsking_append, (finishClosing_onlyAsks _).nothing_besides,
    deedsDone_deeds, List.append_nil]
  rfl

theorem touched_besides (m : Member) (shard : Nat) (s : Circumstances) (i : Stimulus)
    (acts : List FleetAct) :
    besidesAsking (deedsDone (m.touched shard s i ++ acts.map .act)) =
      besidesAsking (deedsDone (acts.map .act)) := by
  rw [deedsDone_append, deedsDone_touched, List.nil_append]

theorem meet_besides (f : Fleet) (e : FleetEvent) :
    besidesAsking (deedsDone (f.meet e).1) =
      besidesAsking ((f.stride? e).toList.flatMap Stride.done) := by
  cases e with
  | post shard k =>
    simp only [meet]
    split <;> rfl
  | input storeFault s i =>
    cases i with
    | call caller e =>
      have cut := (cutShort_onlyAsks { f with line := f.line ++ [(caller, e)] } e).nothing_besides
      exact (thenServe_besides storeFault s.moment.now _).trans cut
    | staggered =>
      simp only [meet, step, notices, stride?]
      split
      · have launched (caller : Nat) (p : LaunchPlan) (next : Nat) :=
          (launchOn_onlyAsks f s.moment.now caller p next (p.last - next)).nothing_besides
        exact (thenServe_besides storeFault s.moment.now _).trans (launched _ _ _)
      · rfl
    | stimulus shard i =>
      cases found : f.member? shard with
      | none =>
        simp only [meet, step, notices, stride?, found]
        rfl
      | some m =>
        simp only [meet, step, notices, stride?, found]
        rw [touched_besides, thenServe_besides, advance_besides]
        simp
    | mail shard =>
      have quiet : besidesAsking
          (deedsDone ((thenServe storeFault s.moment.now ([], f)).1.map .act)) = [] :=
        thenServe_besides storeFault s.moment.now ([], f)
      cases found : f.member? shard with
      | none =>
        simp only [meet, step, notices, takeMail, stride?, found]
        exact quiet
      | some m =>
        cases waiting : m.mailbox with
        | nil =>
          simp only [meet, step, notices, takeMail, stride?, found, waiting]
          exact quiet
        | cons k rest =>
          by_cases listens : m.connection.listens = true
          · simp only [meet, step, notices, takeMail, stride?, found, waiting, if_pos listens]
            rw [touched_besides, thenServe_besides, advance_besides]
            simp
          · simp only [meet, step, notices, takeMail, stride?, found, waiting, if_neg listens]
            exact quiet

theorem log_besides (f : Fleet) (run : List FleetEvent) :
    besidesAsking (deedsDone (f.log run)) = besidesAsking ((f.strides run).flatMap Stride.done) := by
  induction run generalizing f with
  | nil => rfl
  | cons e rest ih =>
    simp only [log, strides, List.flatMap_append]
    rw [deedsDone_append, besidesAsking_append, besidesAsking_append, meet_besides, ih]

/-- What counts of all that is done, if asking for a turn does not, counts in the steps. -/
theorem countP_log {counts : Deed → Bool} (unasked : counts .askTurn = false) (f : Fleet)
    (run : List FleetEvent) :
    (deedsDone (f.log run)).countP (fun e => counts e.2) =
      ((f.strides run).flatMap fun w => w.advance.deeds).countP counts := by
  rw [← countP_besidesAsking unasked, log_besides, countP_besidesAsking unasked, List.countP_flatMap,
    List.countP_flatMap]
  simp only [Function.comp_def, Stride.done, List.countP_map]

/-- What is done on behalf of a session is done in the talks. -/
theorem countP_talks {counts : Deed → Bool} (speaks : ∀ d, counts d = true → d.isSpoken = true)
    (f : Fleet) (run : List FleetEvent) :
    (deedsDone (f.log run)).countP (fun e => counts e.2) =
      ((f.talks run).flatMap Talk.deeds).countP counts := by
  have unasked : counts .askTurn = false := by
    cases asked : counts .askTurn with
    | false => rfl
    | true => cases speaks .askTurn asked
  have only (deeds : List Deed) : deeds.countP counts = (spoken deeds).countP counts := by
    rw [spoken, List.countP_filter]
    apply List.countP_congr
    intro d _
    simp only [Bool.and_eq_true]
    exact ⟨fun counted => ⟨counted, speaks d counted⟩, And.left⟩
  have one (w : Stride) : w.advance.deeds.countP counts =
      (w.talk?.toList.flatMap Talk.deeds).countP counts := by
    rw [only, only (w.talk?.toList.flatMap Talk.deeds), w.speaks]
    cases w.talk? with
    | none => rfl
    | some t => simp
  rw [countP_log unasked, talks, List.filterMap_eq_flatMap_toList, List.flatMap_assoc,
    List.countP_flatMap, List.countP_flatMap]
  congr 1
  apply List.map_congr_left
  intro w _
  exact one w

end Fleet
end SessionFleet
