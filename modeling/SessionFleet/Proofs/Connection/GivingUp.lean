import Mathlib.Data.List.DropRight
import SessionFleet.Proofs.Connection.Milestones
/- When a connection gives up.  It does once as many attempts in a row have failed as it may make.  A
   socket that was opened and failed later counts like one that was never opened: only a socket that is
   left in another way starts the count again.  Attempts that trip the breaker are passed over. -/
namespace SessionFleet

/-- What became of an attempt to connect. -/
inductive Fate where
  /-- it failed before a socket was open -/
  | unopened
  /-- a socket was opened and failed later -/
  | broken
  /-- a socket was opened and left in another way -/
  | ended
  /-- it failed, early or late, and tripped the breaker -/
  | absorbed
  deriving DecidableEq, Repr

def Fate.failed : Fate → Bool
  | .unopened | .broken => true
  | .ended | .absorbed => false

def Deed.isError : Deed → Bool
  | .error _ => true
  | _ => false

/-- What the deeds of a step tell about the attempt that comes to its end with them. -/
def Fate.ofDeeds (deeds : List Deed) : Option Fate :=
  if .tripped ∈ deeds then some .absorbed
  else if deeds.any Deed.isError then some (if .closed ∈ deeds then .broken else .unopened)
  else if .closed ∈ deeds then some .ended
  else none

def unabsorbed (fates : List Fate) : List Fate := fates.filter (· ≠ .absorbed)

/-- The failures since an attempt came to a regular end. -/
def failuresInARow (fates : List Fate) : List Fate :=
  (unabsorbed fates).rtakeWhile Fate.failed

theorem failuresInARow_absorbed (fates : List Fate) :
    failuresInARow (fates ++ [.absorbed]) = failuresInARow fates := by
  simp [failuresInARow, unabsorbed]

theorem failuresInARow_ended (fates : List Fate) :
    failuresInARow (fates ++ [.ended]) = [] := by
  simp [failuresInARow, unabsorbed, List.rtakeWhile_concat_neg, Fate.failed]

theorem failuresInARow_failed {o : Fate} (fates : List Fate) (failed : o.failed = true) :
    failuresInARow (fates ++ [o]) = failuresInARow fates ++ [o] := by
  have counts : o ≠ .absorbed := by
    intro absorbed
    rw [absorbed] at failed
    cases failed
  simp [failuresInARow, unabsorbed, counts, List.rtakeWhile_concat_pos, failed]

theorem last_failed {fates : List Fate} {n : Nat} (enough : n ≤ (failuresInARow fates).length) :
    ∀ o ∈ (unabsorbed fates).rtake n, o = .unopened ∨ o = .broken := by
  intro o member
  have last : (unabsorbed fates).rtake n <:+ unabsorbed fates := List.drop_suffix _ _
  have failures : failuresInARow fates <:+ unabsorbed fates := List.rtakeWhile_suffix _ _
  have few : ((unabsorbed fates).rtake n).length ≤ (failuresInARow fates).length := by
    rw [List.rtake, List.length_drop]
    omega
  have among := (List.suffix_of_suffix_length_le last failures few).subset member
  have failed : o.failed = true := List.mem_rtakeWhile_imp among
  cases o with
  | unopened => exact Or.inl rfl
  | broken => exact Or.inr rfl
  | ended | absorbed => cases failed

def Deed.tells : Deed → Bool
  | .tripped | .closed | .error _ => true
  | _ => false

theorem Deed.untold_of_quiet {d : Deed} (quiet : d.milestone = false) : d.tells = false := by
  cases d with
  | tripped | closed | error => cases quiet
  | _ => rfl

theorem Fate.ofDeeds_unfailed {deeds : List Deed}
    (unfailed : ∀ d ∈ deeds, d.tells = true → d = .closed) :
    Fate.ofDeeds deeds = if .closed ∈ deeds then some .ended else none := by
  have untripped : .tripped ∉ deeds := by
    intro member
    cases unfailed _ member rfl
  have no_error : deeds.any Deed.isError = false := by
    apply List.any_eq_false.mpr
    intro d member error
    cases d with
    | error e => cases unfailed _ member rfl
    | _ => cases error
  unfold ofDeeds
  rw [if_neg untripped, no_error, if_neg Bool.false_ne_true]

theorem Fate.ofDeeds_untold {deeds : List Deed} (untold : ∀ d ∈ deeds, d.tells = false) :
    Fate.ofDeeds deeds = none := by
  have open_ : .closed ∉ deeds := by
    intro member
    cases untold _ member
  rw [ofDeeds_unfailed fun d member tells => absurd tells (by simp [untold d member]), if_neg open_]

theorem Fate.ofDeeds_ended {before after : List Deed} (early : ∀ d ∈ before, d.tells = false)
    (late : ∀ d ∈ after, d.tells = false) :
    Fate.ofDeeds (before ++ .closed :: after) = some .ended := by
  have unfailed : ∀ d ∈ before ++ .closed :: after, d.tells = true → d = .closed := by
    intro d member tells
    rcases List.mem_append.mp member with sooner | later
    · exact absurd tells (by simp [early d sooner])
    · rcases List.mem_cons.mp later with same | later
      · exact same
      · exact absurd tells (by simp [late d later])
  rw [ofDeeds_unfailed unfailed, if_pos (by simp)]

theorem Fate.ofDeeds_failed (deeds : List Deed) {e : FleetError} (untripped : .tripped ∉ deeds)
    (error : .error e ∈ deeds) : ∃ o, Fate.ofDeeds deeds = some o ∧ o.failed = true := by
  have failed : deeds.any Deed.isError = true := List.any_eq_true.mpr ⟨_, error, rfl⟩
  refine ⟨if .closed ∈ deeds then .broken else .unopened, by simp [ofDeeds, untripped, failed], ?_⟩
  split <;> rfl

namespace Connection

variable {s : Circumstances} {c : Connection} {i : Stimulus}

def fate (s : Circumstances) (c : Connection) (i : Stimulus) : Option Fate :=
  Fate.ofDeeds (c.step s i).deeds

def fates (c : Connection) (history : List (Circumstances × Stimulus)) : List Fate :=
  observed (fun s c i => (c.fate s i).toList) c history

theorem fates_concat (c : Connection) (history : List (Circumstances × Stimulus))
    (last : Circumstances × Stimulus) :
    c.fates (history ++ [last]) =
      c.fates history ++ ((c.run history).connection.fate last.1 last.2).toList :=
  observed_concat _ c history last

def Persists (c : Connection) : Prop := ∀ e, c.stage ≠ .stopped (.gaveUp e)

/-- A connection gives up just when one more attempt fails and there are by then at least `most` failures,
    and it names their number. -/
structure GivesUpAt (most : Nat) (last : Option Fate) (failures : List Fate)
    (next : Connection) : Prop where
  just : (∃ e, next.stage = .stopped (.gaveUp e)) ↔
    (∃ o, last = some o ∧ o.failed = true) ∧ most ≤ failures.length
  error : ∀ e, next.stage = .stopped (.gaveUp e) → ∃ detail, e = .connectionFailed failures.length detail

/-- What a step does to the count of failed attempts. -/
inductive Reckoned (s : Circumstances) (c : Connection) : Option Fate → Connection → Prop where
  | none {next : Connection} (attempt : next.attempt = c.attempt) (persists : next.Persists) :
      Reckoned s c none next
  | absorbed {next : Connection} (attempt : next.attempt = c.attempt) (persists : next.Persists) :
      Reckoned s c (some .absorbed) next
  | ended {next : Connection} (restarted : next.isStopped = false → next.attempt = 0)
      (persists : next.Persists) : Reckoned s c (some .ended) next
  | refused {next : Connection} (o : Option Fate) (refuses : s.retries = false)
      (stopped : next.isStopped = true) : Reckoned s c o next
  | exhausted {next : Connection} (o : Fate) (detail : String) (failed : o.failed = true)
      (most : c.settings.connection.maxConnectAttempts ≤ c.attempt + 1)
      (attempt : next.attempt = c.attempt + 1)
      (stage : next.stage = .stopped (.gaveUp (.connectionFailed (c.attempt + 1) detail))) :
      Reckoned s c (some o) next
  | counted {next : Connection} (o : Fate) (failed : o.failed = true)
      (more : c.attempt + 1 < c.settings.connection.maxConnectAttempts)
      (attempt : next.attempt = c.attempt + 1) (persists : next.Persists) :
      Reckoned s c (some o) next

theorem Reckoned.of_same {d next : Connection} {o : Option Fate} (reckoned : Reckoned s d o next)
    (settings : d.settings = c.settings) (attempt : d.attempt = c.attempt) : Reckoned s c o next := by
  cases reckoned with
  | none same persists => exact .none (same.trans attempt) persists
  | absorbed same persists => exact .absorbed (same.trans attempt) persists
  | ended restarted persists => exact .ended restarted persists
  | refused o refuses stopped => exact .refused o refuses stopped
  | exhausted o detail failed most counted stage =>
    rw [attempt] at most counted stage
    rw [settings] at most
    exact .exhausted o detail failed most counted stage
  | counted o failed more counted persists =>
    rw [attempt] at more counted
    rw [settings] at more
    exact .counted o failed more counted persists

theorem persists_of_going (going : c.isStopped = false) : c.Persists := by
  intro e stopped
  simp [isStopped, stopped] at going

theorem Continues.persists {a : Advance} (onward : Continues c a) : a.connection.Persists :=
  fun e => onward.going (.gaveUp e)

theorem untold_of_quiet {deeds : List Deed} (quiet : ∀ d ∈ deeds, d.milestone = false) :
    ∀ d ∈ deeds, d.tells = false :=
  fun d member => Deed.untold_of_quiet (quiet d member)

theorem untold_of_writes {deeds : List Deed} {P : Frame → Prop}
    (writes : ∀ d ∈ deeds, d.milestone = true → ∃ f, d = .write f ∧ P f) :
    ∀ d ∈ deeds, d.tells = false := by
  intro d member
  cases milestone : d.milestone with
  | false => exact Deed.untold_of_quiet milestone
  | true =>
    obtain ⟨f, same, _⟩ := writes d member milestone
    rw [same]
    rfl

theorem Failure.reckoned {e : FleetError} {a : Advance} (failure : Failure s e c a) (lead : List Deed)
    (untripped : .tripped ∉ lead) : Reckoned s c (Fate.ofDeeds (lead ++ a.deeds)) a.connection := by
  cases failure with
  | @absorbed rest _ onward why =>
    have tripped : Fate.ofDeeds (lead ++ .failed :: .tripped :: .error why :: rest.deeds) =
        some .absorbed := by simp [Fate.ofDeeds]
    simp only [tripped]
    exact .absorbed onward.attempt onward.persists
  | refused refuses _ stage =>
    obtain ⟨why, stage⟩ := stage
    exact .refused _ refuses (by simp [isStopped, stage])
  | exhausted _ most =>
    obtain ⟨o, same, failed⟩ := Fate.ofDeeds_failed (e := e) (lead ++ [.failed, .error e])
      (by simp [untripped]) (by simp)
    simp only [same]
    exact .exhausted o e.message failed most rfl rfl
  | @counted rest _ more onward =>
    have quiet : .tripped ∉ rest.deeds := by
      intro member
      cases onward.quiet _ member
    obtain ⟨o, same, failed⟩ := Fate.ofDeeds_failed (e := e)
      (lead ++ .failed :: .error e :: rest.deeds) (by simp [untripped, quiet]) (by simp)
    simp only [same]
    exact .counted o failed more onward.attempt onward.persists

theorem converse_persists (s : Circumstances) (j : SessionInput) (persists : c.Persists) :
    (c.converse s j).connection.Persists := by
  intro e
  rcases (converse_carried s j c).stage with same | crashed
  · rw [same]
    exact persists e
  · simp [crashed]

theorem part_reckoned (s : Circumstances) (why : Parting) (c : Connection) {goodbye : List Deed}
    (untold : ∀ d ∈ goodbye, d.tells = false) :
    Reckoned s c (Fate.ofDeeds (goodbye ++ (c.part s why).deeds)) (c.part s why).connection := by
  have spoken := converse_spoken s .closed c
  have quiet : ∀ d ∈ goodbye ++ (c.converse s .closed).deeds, d.tells = false := by
    intro d member
    exact (List.mem_append.mp member).elim (untold d) (untold_of_quiet spoken.quiet d)
  -- a socket that is left without an error starts the count again
  have again {d : Connection} (restarted : d.attempt = 0) :
      Reckoned s c (Fate.ofDeeds ((goodbye ++ (c.converse s .closed).deeds) ++
        .closed :: (d.again s).deeds)) (d.again s).connection := by
    have onward := again_continues s d
    rw [Fate.ofDeeds_ended quiet (untold_of_quiet onward.quiet)]
    exact .ended (fun _ => onward.attempt.trans restarted) onward.persists
  simp only [part_eq, ← List.append_assoc]
  cases why with
  | told =>
    simp only [onward, stop]
    rw [Fate.ofDeeds_ended quiet (by simp)]
    exact .ended (by simp [isStopped]) (by intro e; simp)
  | lost => exact again rfl
  | reconnect d => exact again rfl
  | failed e =>
    have untripped : .tripped ∉ (goodbye ++ (c.converse s .closed).deeds) ++ [.closed] := by
      intro member
      rcases List.mem_append.mp member with early | closed
      · cases quiet _ early
      · simp at closed
    have reckoned := (fail_failure s e (c.converse s .closed).connection).reckoned _ untripped
    simp only [List.append_assoc, List.singleton_append] at reckoned ⊢
    exact reckoned.of_same spoken.settings spoken.attempt

theorem Turnout.reckoned {a : Advance} (turnout : Turnout s c i a) (going : c.isStopped = false) :
    Reckoned s c (Fate.ofDeeds a.deeds) a.connection := by
  have persists : c.Persists := persists_of_going going
  cases turnout with
  | stays outbox deeds _ _ writes =>
    rw [Fate.ofDeeds_untold (untold_of_writes writes)]
    exact .none rfl persists
  | speaks j _ _ lead quiet =>
    have spoken := converse_spoken s j c
    have untold : ∀ d ∈ lead ++ (c.converse s j).deeds, d.tells = false := by
      intro d member
      exact (List.mem_append.mp member).elim (untold_of_quiet quiet d)
        (untold_of_quiet spoken.quiet d)
    simp only [Advance.also]
    rw [Fate.ofDeeds_untold untold]
    exact .none spoken.attempt (converse_persists s j persists)
  | parts why _ _ outbox goodbye writes =>
    have untold := untold_of_writes fun d member _ => writes d member
    exact (part_reckoned s why { c with outbox } untold).of_same rfl rfl
  | enters =>
    have spoken := converse_spoken s .opened { c with stage := .online, outbox := [] }
    have untold : ∀ d ∈ (c.enter s).deeds, d.tells = false := by
      intro d member
      rcases List.mem_append.mp member with opened | said
      · rw [List.mem_singleton.mp opened]
        rfl
      · exact untold_of_quiet spoken.quiet d said
    rw [Fate.ofDeeds_untold untold]
    exact .none spoken.attempt (converse_persists s .opened (by intro e; simp))
  | fails e => exact (fail_failure s e c).reckoned [] (by simp)
  | waits _ _ onward =>
    rw [Fate.ofDeeds_untold (untold_of_quiet onward.quiet)]
    exact .none onward.attempt onward.persists
  | halts =>
    rw [Fate.ofDeeds_untold (by simp [Deed.tells])]
    exact .none rfl (by intro e; simp)

/- The count along a run. -/

theorem Reckoned.attempt {next : Connection} {o : Option Fate} {fates : List Fate}
    (reckoned : Reckoned s c o next) (counted : c.attempt = (failuresInARow fates).length)
    (going : next.isStopped = false) :
    next.attempt = (failuresInARow (fates ++ o.toList)).length := by
  cases reckoned with
  | none attempt => simpa [attempt] using counted
  | absorbed attempt => simpa [attempt, failuresInARow_absorbed] using counted
  | ended restarted => simp [restarted going, failuresInARow_ended]
  | refused o _ stopped =>
    rw [stopped] at going
    cases going
  | exhausted o _ failed _ attempt | counted o failed _ attempt =>
    simp [failuresInARow_failed fates failed, attempt, counted]

theorem going_before (going : (c.step s i).connection.isStopped = false) : c.isStopped = false := by
  cases stage : c.stage with
  | stopped how =>
    rwa [step_stopped stage] at going
  | _ => simp [isStopped, stage]

theorem run_attempt (settings : GatewaySettings) (shard : Shard)
    (history : List (Circumstances × Stimulus)) :
    let first := (start settings shard).connection
    let c := (first.run history).connection
    c.isStopped = false → c.attempt = (failuresInARow (first.fates history)).length := by
  induction history using List.reverseRecOn with
  | nil =>
    intro first c going
    rfl
  | append_singleton history last ih =>
    intro first c going
    -- a connection that goes on now went on before, so the count was right before this step
    have steps : c = _ := run_concat first history last
    rw [steps] at going ⊢
    rw [fates_concat]
    have turnout := step_turnout last.1 (run_breakerClosed settings shard history) last.2
    exact (turnout.reckoned (going_before going)).attempt (ih (going_before going)) going

theorem givesUpAt_of_persists {most : Nat} {last : Option Fate} {failures : List Fate}
    {next : Connection} (persists : next.Persists)
    (spared : (∃ o, last = some o ∧ o.failed = true) → failures.length < most) :
    GivesUpAt most last failures next := by
  refine ⟨⟨?_, ?_⟩, fun e stage => absurd stage (persists e)⟩
  · rintro ⟨e, stage⟩
    exact absurd stage (persists e)
  · rintro ⟨failed, reached⟩
    exact absurd reached (Nat.not_le.mpr (spared failed))

theorem Reckoned.givesUpAt {next : Connection} {o : Option Fate} {fates : List Fate}
    (reckoned : Reckoned s c o next) (counted : c.attempt = (failuresInARow fates).length)
    (retries : s.retries = true) :
    GivesUpAt c.settings.connection.maxConnectAttempts o (failuresInARow (fates ++ o.toList)) next := by
  have one_more {o : Fate} (failed : o.failed = true) :
      (failuresInARow (fates ++ (some o).toList)).length = c.attempt + 1 := by
    simp [failuresInARow_failed fates failed, counted]
  cases reckoned with
  | none _ persists => exact givesUpAt_of_persists persists (by simp)
  | absorbed _ persists => exact givesUpAt_of_persists persists (by simp [Fate.failed])
  | ended _ persists => exact givesUpAt_of_persists persists (by simp [Fate.failed])
  | refused _ refuses =>
    rw [retries] at refuses
    cases refuses
  | exhausted o detail failed most _ stage =>
    rw [← one_more failed] at most stage
    refine ⟨⟨fun _ => ⟨⟨o, rfl, failed⟩, most⟩, fun _ => ⟨_, stage⟩⟩, ?_⟩
    intro e same
    rw [stage] at same
    cases same
    exact ⟨detail, rfl⟩
  | counted o failed more _ persists =>
    exact givesUpAt_of_persists persists (by simpa only [one_more failed] using fun _ => more)

/-- Where the handler agrees to go on, a connection gives up just when one more attempt fails and by then
    as many have failed in a row as it may make.  Attempts that trip the breaker are passed over.  Each of
    the last attempts failed before a socket was open, or its socket broke. -/
theorem gives_up_after_failures_in_a_row (settings : GatewaySettings) (shard : Shard)
    (history : List (Circumstances × Stimulus)) :
    let first := (start settings shard).connection
    let c := (first.run history).connection
    c.isStopped = false →
      c.attempt = (failuresInARow (first.fates history)).length ∧
      ∀ s i, s.retries = true →
        let most := settings.connection.maxConnectAttempts
        let fates := first.fates (history ++ [(s, i)])
        let next := (c.step s i).connection
        GivesUpAt most (c.fate s i) (failuresInARow fates) next ∧
          ∀ e, next.stage = .stopped (.gaveUp e) →
            ∀ o ∈ (unabsorbed fates).rtake most, o = .unopened ∨ o = .broken := by
  intro first c going
  have counted := run_attempt settings shard history going
  refine ⟨counted, ?_⟩
  intro s i retries most fates next
  have grown : fates = _ := fates_concat first history (s, i)
  have reckoned := (step_turnout s (run_breakerClosed settings shard history) i).reckoned going
  have givesUp : GivesUpAt most (c.fate s i) (failuresInARow fates) next := by
    rw [grown]
    have givesUp := reckoned.givesUpAt counted retries
    rwa [run_settings] at givesUp
  refine ⟨givesUp, ?_⟩
  intro e stage
  obtain ⟨_, enough⟩ := givesUp.just.mp ⟨e, stage⟩
  exact last_failed enough

/-- A socket that breaks and an attempt that fails before a socket is open are two failures in a row. -/
theorem broken_then_unopened_are_two_failures :
    let around : Circumstances := ⟨.steady 0, .ofNat 1, true, fun _ => true, none⟩
    let settings : GatewaySettings := { token := "token", connection := { maxConnectAttempts := 2 } }
    let history : List (Circumstances × Stimulus) := [(around, .turn), (around, .dialed .opened),
      (around, .heard (.broken "reset")), (around, .timeUp), (around, .turn)]
    let first := (start settings ⟨0, 1⟩).connection
    let c := (first.run history).connection
    let next := (c.step around (.dialed .timedOut)).connection
    c.isStopped = false ∧ around.retries = true ∧ c.attempt = 1 ∧
      failuresInARow (first.fates (history ++ [(around, .dialed .timedOut)])) = [.broken, .unopened] ∧
      GivesUpAt 2 (some .unopened) [.broken, .unopened] next ∧
      next.stage = .stopped (.gaveUp (.connectionFailed 2 "Connection failed after 0 attempts: Connection timeout")) ∧
      ∀ o ∈ (unabsorbed (first.fates (history ++ [(around, .dialed .timedOut)]))).rtake 2,
        o = .unopened ∨ o = .broken := by
  intro around settings history first c next
  have going : c.isStopped = false := by decide +kernel
  have earlier : failuresInARow (first.fates history) = [.broken] := by decide +kernel
  have failures : failuresInARow (first.fates (history ++ [(around, .dialed .timedOut)])) =
      [.broken, .unopened] := by decide +kernel
  have last : c.fate around (.dialed .timedOut) = some .unopened := by decide +kernel
  obtain ⟨counted, givesUp⟩ := gives_up_after_failures_in_a_row settings ⟨0, 1⟩ history going
  have stage : next.stage = .stopped (.gaveUp
      (.connectionFailed 2 "Connection failed after 0 attempts: Connection timeout")) := by decide +kernel
  obtain ⟨gives, all_failed⟩ := givesUp around (.dialed .timedOut) rfl
  rw [failures, last] at gives
  exact ⟨going, rfl, counted.trans (by rw [earlier]; rfl), failures, gives, stage, all_failed _ stage⟩

/-- It is not so that a connection gives up only on attempts that failed before a socket was open: one
    that may make a single attempt gives up when the socket that it opened breaks. -/
theorem broken_socket_counts_as_failed_attempt :
    ¬∀ (settings : GatewaySettings) (shard : Shard) (history : List (Circumstances × Stimulus))
        (s : Circumstances) (i : Stimulus) (e : FleetError),
      let first := (start settings shard).connection
      let c := (first.run history).connection
      c.isStopped = false → s.retries = true → (c.step s i).connection.stage = .stopped (.gaveUp e) →
        ∀ o ∈ (unabsorbed (first.fates (history ++ [(s, i)]))).rtake
          settings.connection.maxConnectAttempts, o = .unopened := by
  intro claim
  let around : Circumstances := ⟨.steady 0, .ofNat 1, true, fun _ => true, none⟩
  have all_unopened := claim { token := "token", connection := { maxConnectAttempts := 1 } } ⟨0, 1⟩
    [(around, .turn), (around, .dialed .opened)] around (.heard (.broken "reset"))
    (.connectionFailed 1 "WebSocket error: reset") (by decide +kernel) rfl (by decide +kernel)
  exact absurd (all_unopened .broken (by decide +kernel)) (by decide)

end Connection
end SessionFleet
