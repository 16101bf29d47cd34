import SessionFleet.Fleet.Step
import SessionFleet.Proofs.Connection.Reactions
/- A fleet through any interleaving of calls, commands and whatever happens to its connections.  All
   that one event leads to is a sequence of a few moves; what holds of runs is shown of these. -/
namespace SessionFleet

/-- What can be seen of a fleet: the calls, what reaches a connection, the ones that crash, and what is
    done. -/
inductive FleetSighting where
  | called (caller : Nat) (e : Errand)
  | reached (shard : Nat) (s : Circumstances) (i : Stimulus)
  | crashed (shard : Nat)
  | act (a : FleetAct)

/-- Something happens to the fleet, or somebody hands a command to a shard. -/
inductive FleetEvent where
  | input (storeFault : String → Option String) (s : Circumstances) (i : FleetInput)
  | post (shard : Nat) (k : Command)

def Member.touched (m : Member) (shard : Nat) (s : Circumstances) (i : Stimulus) : List FleetSighting :=
  .reached shard s i ::
    if (m.connection.step s i).connection.stage = .stopped .crashed then [.crashed shard] else []

namespace Fleet

def notices (f : Fleet) (s : Circumstances) : FleetInput → List FleetSighting
  | .call caller e => [.called caller e]
  | .staggered => []
  | .stimulus shard i =>
    match f.member? shard with
    | none => []
    | some m => m.touched shard s i
  | .mail shard =>
    match f.member? shard with
    | none => []
    | some m =>
      match m.mailbox with
      | [] => []
      | k :: _ => if m.connection.listens then m.touched shard s (.command k) else []

def meet (f : Fleet) : FleetEvent → List FleetSighting × Fleet
  | .input storeFault s i =>
    let (acts, g) := f.step storeFault s i
    (f.notices s i ++ acts.map .act, g)
  | .post shard k =>
    match f.post shard k with
    | .ok g => ([], g)
    | .error _ => ([], f)

def after (f : Fleet) : List FleetEvent → Fleet
  | [] => f
  | e :: rest => (f.meet e).2.after rest

def log (f : Fleet) : List FleetEvent → List FleetSighting
  | [] => []
  | e :: rest => (f.meet e).1 ++ (f.meet e).2.log rest

theorem after_append (f : Fleet) (before later : List FleetEvent) :
    f.after (before ++ later) = (f.after before).after later := by
  induction before generalizing f with
  | nil => rfl
  | cons e rest ih => exact ih (f.meet e).2

/-- The one step that a fleet takes: somebody calls, the errand of the first in line is refused or
    begun, a start launches one more shard, waits or is cut short, a shutdown is over, something
    reaches a connection or its mailbox. -/
inductive Move : Fleet → List FleetSighting → Fleet → Prop where
  | calls (f : Fleet) (caller : Nat) (e : Errand) :
      Move f [.called caller e] { f with line := f.line ++ [(caller, e)] }
  | refuses (f : Fleet) (caller : Nat) (p : LaunchPlan) (e : FleetError) (rest : List (Nat × Errand))
      (free : f.underway = none) (first : f.line = (caller, .start p) :: rest) :
      Move f [.act (.started caller (some e))] { f with line := rest }
  | admits (f : Fleet) (caller : Nat) (p : LaunchPlan) (a : Arbiter) (rest : List (Nat × Errand))
      (free : f.underway = none) (first : f.line = (caller, .start p) :: rest)
      (empty : f.members = []) (fits : p.fault? = none) :
      Move f [.act (.turns a)]
        { f with line := rest, underway := some (.launching caller p p.first) }
  | launches (f : Fleet) (now : Instant) (caller : Nat) (p : LaunchPlan) (next : Nat)
      (busy : f.underway = some (.launching caller p next)) (before : next < p.last) :
      Move f ((f.launch now p next).1.map .act)
        { (f.launch now p next).2 with underway := some (.launching caller p (next + 1)) }
  | completes (f : Fleet) (now : Instant) (caller : Nat) (p : LaunchPlan)
      (busy : f.underway = some (.launching caller p p.last)) :
      Move f ((f.launch now p p.last).1.map .act ++ [.act (.started caller none)])
        { (f.launch now p p.last).2 with underway := none }
  | waits (f : Fleet) (delay : Span) : Move f [.act (.stagger delay)] f
  | cuts (f : Fleet) (caller : Nat) (p : LaunchPlan) (next other : Nat)
      (busy : f.underway = some (.launching caller p next)) (called : (other, .shutdown) ∈ f.line) :
      Move f [.act (.started caller none)] { f with underway := none }
  | dismisses (f : Fleet) (caller : Nat) (rest : List (Nat × Errand))
      (free : f.underway = none) (first : f.line = (caller, .shutdown) :: rest) :
      Move f []
        { f with
          line := rest
          members := []
          leaving := f.members.map fun m => m.post .close
          underway := some (.closing caller) }
  | ends (f : Fleet) (caller : Nat) (busy : f.underway = some (.closing caller))
      (stopped : ∀ m ∈ f.leaving, m.connection.isStopped = true) :
      Move f [.act (.ended caller)] { f with leaving := [], underway := none }
  | reaches (f : Fleet) (s : Circumstances) (shard : Nat) (m n : Member) (i : Stimulus)
      (found : f.member? shard = some m)
      (stepped : n.connection = (m.connection.step s i).connection) :
      Move f
        (m.touched shard s i ++ ((m.connection.step s i).deeds.map (.deed shard)).map .act)
        { f with
          metrics := f.metrics.recordAll shard s.moment.now (m.connection.step s i).deeds
          members := replace shard n f.members
          leaving := replace shard n f.leaving }
  | posts (f : Fleet) (shard : Nat) (k : Command) :
      Move f [] { f with members := f.members.map fun n => if n.shard = shard then n.post k else n }

inductive Moves : Fleet → List FleetSighting → Fleet → Prop where
  | none (f : Fleet) : Moves f [] f
  | more {f g h : Fleet} {first rest : List FleetSighting} (move : Move f first g)
      (moves : Moves g rest h) : Moves f (first ++ rest) h

theorem Moves.append {f g h : Fleet} {first later : List FleetSighting} (before : Moves f first g)
    (after : Moves g later h) : Moves f (first ++ later) h := by
  induction before with
  | none => exact after
  | more move _ ih =>
    rw [List.append_assoc]
    exact .more move (ih after)

theorem Move.moves {f g : Fleet} {seen : List FleetSighting} (move : Move f seen g) : Moves f seen g := by
  have single := Moves.more move (.none g)
  rwa [List.append_nil] at single

section
variable {storeFault : String → Option String} {now : Instant} {caller : Nat} {p : LaunchPlan}

/- The functions that carry out an errand do not look at the callers in line.  What they do to a fleet
   they do to the same fleet with any others waiting. -/

theorem lined {f : Fleet} {line : List (Nat × Errand)} (same : f.line = line) : { f with line } = f := by
  rw [← same]

theorem launchOn_moves {left : Nat} (f : Fleet) (next : Nat) (line : List (Nat × Errand))
    (range : next + left = p.last) :
    Moves { f with underway := some (.launching caller p next), line }
      ((f.launchOn now caller p next left).1.map .act)
      { (f.launchOn now caller p next left).2 with line } := by
  induction left generalizing f next with
  | zero =>
    have last : next = p.last := by omega
    subst last
    have done := (Move.completes { f with underway := some (.launching caller p p.last), line } now
      caller p rfl).moves
    simpa [launchOn, launch, note] using done
  | succ left ih =>
    have launched := (Move.launches { f with underway := some (.launching caller p next), line } now
      caller p next rfl (by omega)).moves
    unfold launchOn
    by_cases rushed : p.delay = 0
    · have rest := ih (f.launch now p next).2 (next + 1) (by omega)
      simpa [rushed, launch, note] using launched.append rest
    · simpa [rushed, launch, note] using launched.append (Move.waits _ p.delay).moves

theorem launchOn_line (f : Fleet) (next left : Nat) :
    (f.launchOn now caller p next left).2.line = f.line := by
  induction left generalizing f next with
  | zero => rfl
  | succ left ih =>
    unfold launchOn
    by_cases rushed : p.delay = 0
    · have rest := ih (f.launch now p next).2 (next + 1)
      simpa [rushed, launch, note] using rest
    · simp [rushed, launch, note]

theorem start_moves (f : Fleet) (rest : List (Nat × Errand)) (free : f.underway = none) :
    Moves { f with line := (caller, .start p) :: rest } ((f.start storeFault now caller p).1.map .act)
      { (f.start storeFault now caller p).2 with line := rest } := by
  have refused (e : FleetError) : Moves { f with line := (caller, .start p) :: rest }
      [.act (.started caller (some e))] { f with line := rest } :=
    (Move.refuses { f with line := (caller, .start p) :: rest } caller p e rest free rfl).moves
  unfold start
  split
  · exact refused _
  · rename_i stands
    split
    · exact refused _
    · rename_i fits
      split
      · exact refused _
      · rename_i a _
        have empty : f.members = [] := by simpa [isRunning] using stands
        have range : p.first + (p.last - p.first) = p.last := by
          simp only [LaunchPlan.fault?, ite_eq_right_iff] at fits
          simp at fits
          omega
        have admitted := (Move.admits { f with line := (caller, .start p) :: rest } caller p a rest free
          rfl empty fits).moves
        exact admitted.append (launchOn_moves f p.first rest range)

theorem finishClosing_moves (f : Fleet) (line : List (Nat × Errand)) :
    Moves { f with line } (f.finishClosing.1.map .act) { f.finishClosing.2 with line } := by
  unfold finishClosing
  split
  · rename_i caller busy
    split
    · rename_i stopped
      exact (Move.ends { f with line } caller busy (List.all_eq_true.mp stopped)).moves
    · exact .none _
  · exact .none _

theorem finishClosing_line (f : Fleet) : f.finishClosing.2.line = f.line := by
  unfold finishClosing
  split
  · split <;> rfl
  · rfl

theorem undertake_moves (f : Fleet) (e : Errand) (rest : List (Nat × Errand)) (free : f.underway = none) :
    Moves { f with line := (caller, e) :: rest } ((f.undertake storeFault now caller e).1.map .act)
      { (f.undertake storeFault now caller e).2 with line := rest } := by
  cases e with
  | start p => exact start_moves f rest free
  | shutdown =>
    have dismissed := (Move.dismisses { f with line := (caller, .shutdown) :: rest } caller rest free
      rfl).moves
    let g : Fleet := { f with
      members := []
      leaving := f.members.map fun m => m.post .close
      underway := some (.closing caller) }
    exact dismissed.append (finishClosing_moves g rest)

theorem serve_moves (f : Fleet) (line : List (Nat × Errand)) :
    Moves { f with line } ((serve storeFault now line f).1.map .act) (serve storeFault now line f).2 := by
  induction line generalizing f with
  | nil => exact .none _
  | cons first rest ih =>
    unfold serve
    split
    · exact .none _
    · rename_i idle
      have free : f.underway = none := by simpa using idle
      have served := @undertake_moves storeFault now first.1 f first.2 rest free
      rw [List.map_append]
      exact served.append (ih _)

theorem thenServe_moves {f g : Fleet} {seen : List FleetSighting} {acts : List FleetAct}
    (moves : Moves f (seen ++ acts.map .act) g) :
    Moves f (seen ++ (thenServe storeFault now (acts, g)).1.map .act)
      (thenServe storeFault now (acts, g)).2 := by
  have served := @serve_moves storeFault now g g.line
  simp only [thenServe, List.map_append]
  rw [← List.append_assoc]
  exact moves.append served

end

/-- A launch that waits has a shard to launch next. -/
def OnRange (f : Fleet) : Prop :=
  ∀ caller p next, f.underway = some (.launching caller p next) → next ≤ p.last

theorem Move.onRange {f g : Fleet} {seen : List FleetSighting} (move : Move f seen g)
    (range : f.OnRange) : g.OnRange := by
  intro caller p next busy
  cases move with
  | calls | refuses | waits | reaches | posts => exact range caller p next busy
  | admits _ _ _ _ _ _ _ fits =>
    cases busy
    simp only [LaunchPlan.fault?] at fits
    simp at fits
    omega
  | launches _ _ _ _ _ before =>
    cases busy
    exact before
  | completes | cuts | dismisses | ends => cases busy

theorem Moves.onRange {f g : Fleet} {seen : List FleetSighting} (moves : Moves f seen g)
    (range : f.OnRange) : g.OnRange := by
  induction moves with
  | none => exact range
  | more move _ ih => exact ih (move.onRange range)

theorem advance_moves (f : Fleet) (s : Circumstances) {shard : Nat} {m : Member} (i : Stimulus)
    (mailbox : List Command) (found : f.member? shard = some m) :
    Moves f (m.touched shard s i ++ (f.advance s shard { m with mailbox } i).1.map .act)
      (f.advance s shard { m with mailbox } i).2 := by
  let n : Member := ⟨(m.connection.step s i).connection, mailbox⟩
  let g : Fleet := { f with
    metrics := f.metrics.recordAll shard s.moment.now (m.connection.step s i).deeds
    members := replace shard n f.members
    leaving := replace shard n f.leaving }
  have reached := (Move.reaches f s shard m n i found rfl).moves
  have closed := finishClosing_moves g g.line
  rw [lined (finishClosing_line g)] at closed
  have both := reached.append closed
  rw [List.append_assoc, ← List.map_append] at both
  exact both

theorem post_ok {f g : Fleet} {shard : Nat} {k : Command} (posted : f.post shard k = .ok g) :
    g = { f with members := f.members.map fun n => if n.shard = shard then n.post k else n } := by
  unfold post at posted
  split at posted
  · cases posted
  · split at posted
    · cases posted
    · exact (Except.ok.inj posted).symm

theorem meet_moves (f : Fleet) (range : f.OnRange) (e : FleetEvent) :
    Moves f (f.meet e).1 (f.meet e).2 := by
  cases e with
  | post shard k =>
    cases posted : f.post shard k with
    | ok g =>
      simp only [meet, posted]
      rw [post_ok posted]
      exact (Move.posts f shard k).moves
    | error e =>
      simp only [meet, posted]
      exact .none f
  | input storeFault s i =>
    cases i with
    | call caller e =>
      -- whoever calls is in line before a start is cut short, so the start knows the shutdown by that
      have called := (Move.calls f caller e).moves
      have cut : Moves f ([.called caller e] ++
          (cutShort { f with line := f.line ++ [(caller, e)] } e).1.map .act)
          (cutShort { f with line := f.line ++ [(caller, e)] } e).2 := by
        unfold cutShort
        split
        · exact called
        · split
          · rename_i first p next busy
            exact called.append (Move.cuts { f with line := f.line ++ [(caller, .shutdown)] } first p next
              caller busy (by simp)).moves
          · exact called
      exact thenServe_moves cut
    | staggered =>
      simp only [meet, step, notices]
      split
      · rename_i caller p next busy
        have left : next + (p.last - next) = p.last := by
          have := range caller p next busy
          omega
        have launched := @launchOn_moves s.moment.now caller p _ f next f.line left
        rw [← busy, lined (launchOn_line f next _)] at launched
        exact thenServe_moves launched
      · exact .none f
    | stimulus shard i =>
      cases found : f.member? shard with
      | none =>
        simp only [meet, step, notices, found]
        exact .none f
      | some m =>
        simp only [meet, step, notices, found]
        exact thenServe_moves (advance_moves f s i m.mailbox found)
    | mail shard =>
      have quiet : Moves f ([] ++ (thenServe storeFault s.moment.now ([], f)).1.map .act)
          (thenServe storeFault s.moment.now ([], f)).2 := thenServe_moves (.none f)
      cases found : f.member? shard with
      | none =>
        simp only [meet, step, notices, takeMail, found]
        exact quiet
      | some m =>
        cases waiting : m.mailbox with
        | nil =>
          simp only [meet, step, notices, takeMail, found, waiting]
          exact quiet
        | cons k rest =>
          by_cases listens : m.connection.listens = true
          · simp only [meet, step, notices, takeMail, found, waiting, if_pos listens]
            exact thenServe_moves (advance_moves f s (.command k) rest found)
          · simp only [meet, step, notices, takeMail, found, waiting, if_neg listens]
            exact quiet

theorem after_moves (f : Fleet) (range : f.OnRange) (run : List FleetEvent) :
    Moves f (f.log run) (f.after run) := by
  induction run generalizing f with
  | nil => exact .none f
  | cons e rest ih =>
    have moves := meet_moves f range e
    exact moves.append (ih (f.meet e).2 (moves.onRange range))

/-- Nobody waits behind nothing. -/
def Served (f : Fleet) : Prop := f.underway = none → f.line = []

theorem serve_served (storeFault : String → Option String) (now : Instant)
    (line : List (Nat × Errand)) (f : Fleet) : (serve storeFault now line f).2.Served := by
  induction line generalizing f with
  | nil => exact fun _ => rfl
  | cons first rest ih =>
    unfold serve
    split
    · rename_i busy
      intro free
      simp only at free
      rw [free] at busy
      cases busy
    · exact ih _

theorem meet_served (f : Fleet) (served : f.Served) (e : FleetEvent) : (f.meet e).2.Served := by
  cases e with
  | post shard k =>
    cases posted : f.post shard k with
    | ok g =>
      simp only [meet, posted]
      rw [post_ok posted]
      exact served
    | error e =>
      simp only [meet, posted]
      exact served
  | input storeFault s i =>
    cases i with
    | call => exact serve_served _ _ _ _
    | mail => exact serve_served _ _ _ _
    | staggered =>
      simp only [meet, step]
      split
      · exact serve_served _ _ _ _
      · exact served
    | stimulus shard =>
      simp only [meet, step]
      cases f.member? shard with
      | none => exact served
      | some m => exact serve_served _ _ _ _

theorem after_served (f : Fleet) (served : f.Served) (run : List FleetEvent) : (f.after run).Served := by
  induction run generalizing f with
  | nil => exact served
  | cons e rest ih => exact ih _ (meet_served f served e)

end Fleet
end SessionFleet
