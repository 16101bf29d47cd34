import SessionFleet.Proofs.Connection.AttemptCounts
import SessionFleet.Proofs.Connection.GivingUp
/- After how many attempts a connection gives up.  Of a round of failures the one that trips the breaker is
   not among those that count, so the more often it trips the more attempts there are.  What has
   been dialed, reported to the handler and told of the breaker goes with the attempts that have ended. -/
namespace SessionFleet

/-- With all but one failure of each round counting, this many rounds are complete at the last one. -/
theorem rounds_at_limit {t m n : Nat} (counted : n - n / t = m) (incomplete : n % t ≠ 0) :
    n / t = (m - 1) / (t - 1) := by
  have split := Nat.div_add_mod n t
  rcases t with _ | k
  · simp
  have below := Nat.mod_lt n (Nat.succ_pos k)
  generalize n / (k + 1) = q at *
  generalize n % (k + 1) = r at *
  rw [Nat.add_mul, Nat.one_mul] at split
  -- the last round is under way, so the failure that is taken off here is one of its own
  have rest : m - 1 = r - 1 + k * q := by omega
  rw [Nat.add_sub_cancel, rest, Nat.add_mul_div_left _ _ (by omega), Nat.div_eq_of_lt (by omega),
    Nat.zero_add]

theorem below_limit {t m n : Nat} (two : 2 ≤ t) (fewer : n - n / t < m) :
    n < m + (m - 1) / (t - 1) := by
  have split := Nat.div_add_mod n t
  obtain ⟨k, rfl⟩ : ∃ k, t = k + 2 := ⟨t - 2, by omega⟩
  generalize n / (k + 2) = q at *
  have rounds : q * (k + 1) ≤ m - 1 := by
    have expanded : (k + 2) * q = q * (k + 1) + q := by rw [Nat.mul_comm, Nat.mul_succ q (k + 1)]
    omega
  have complete : q ≤ (m - 1) / (k + 1) := (Nat.le_div_iff_mul_le (Nat.succ_pos k)).mpr rounds
  have shift : k + 2 - 1 = k + 1 := rfl
  rw [shift]
  omega

namespace Connection

variable {s : Circumstances} {c : Connection} {i : Stimulus}

/- What can be seen of the attempts. -/

/-- An attempt has begun and has not come to its end: it is under way, or its handler has panicked. -/
def unended (c : Connection) : Bool := c.stage = .dialing || c.showsOpen

/-- What the deeds on the way tell: of how many attempts that failed, of how many that tripped the breaker,
    and whether the next one begins there. -/
structure Leads (errors trips : Nat) (a : Advance) : Prop where
  errors : a.deeds.countP Deed.isError = errors
  trips : a.deeds.count .tripped = trips
  dials : a.deeds.count .dial = a.connection.unended.toNat

theorem Leads.after {errors trips : Nat} {next : Advance} (leads : Leads errors trips next)
    (lead : List Deed) (begun : lead.count .dial = 0) :
    Leads (lead.countP Deed.isError + errors) (lead.count .tripped + trips)
      ⟨next.connection, lead ++ next.deeds⟩ where
  errors := by rw [List.countP_append, leads.errors]
  trips := by rw [List.count_append, leads.trips]
  dials := by rw [List.count_append, begun, leads.dials, Nat.zero_add]

theorem WayOn.leads {a : Advance} (way : WayOn c a) : Leads 0 0 a := by
  have headed := way.headed
  refine ⟨?_, ?_, ?_⟩
  · apply List.countP_eq_zero.mpr
    intro d member error
    have head := headed d member
    cases d <;> simp_all [Deed.isError, Deed.headed]
  · apply List.count_eq_zero.mpr
    intro member
    cases headed _ member
  · cases way with
    | mk lead counts _ _ _ _ heading =>
      have none : lead.count .dial = 0 := by
        apply List.count_eq_zero.mpr
        intro member
        obtain ⟨n, counted⟩ := counts _ member
        cases counted
      rw [List.count_append, none]
      cases heading <;> simp [unended, showsOpen]

theorem fail_leads (s : Circumstances) (e : FleetError) (c : Connection) :
    Leads 1 ((c.fail s e).deeds.contains .tripped).toNat (c.fail s e) := by
  have fails := fail_fails s e c
  generalize c.fail s e = a at fails ⊢
  cases fails with
  | trips _ _ onward =>
    have way := round_way s { c with failures := c.failures + 1, tripped := true }
    rw [← onward] at way
    exact way.leads.after [.failed, .tripped, .error (.breakerOpen (c.failures + 1))] rfl
  | declines => exact ⟨rfl, rfl, rfl⟩
  | refuses | exhausts => exact ⟨rfl, rfl, rfl⟩
  | counts _ _ _ onward =>
    have way := again_way s { c with failures := c.failures + 1, attempt := c.attempt + 1 }
    rw [← onward] at way
    have untripped : Deed.tripped ∉ _ := List.count_eq_zero.mp way.leads.trips
    have leads : Leads 1 0 _ := way.leads.after [.failed, .error e] rfl
    simpa [untripped] using leads

/-- The handler is asked once for each attempt that fails, the breaker trips as often as attempts say so,
    and every attempt begins once. -/
structure Noted (before : Connection) (os : List Ended) (a : Advance) : Prop where
  errors : a.deeds.countP Deed.isError = os.countP Ended.failed
  trips : a.deeds.count .tripped = os.countP (·.tripped)
  dials : before.unended.toNat + a.deeds.count .dial = os.length + a.connection.unended.toNat

theorem Noted.also {first next : Advance} {earlier later : List Ended}
    (noted : Noted c earlier first) (again : Noted first.connection later next) :
    Noted c (earlier ++ later) ⟨next.connection, first.deeds ++ next.deeds⟩ := by
  have dials := noted.dials
  have later_dials := again.dials
  refine ⟨?_, ?_, ?_⟩
  · rw [List.countP_append, List.countP_append, noted.errors, again.errors]
  · rw [List.count_append, List.countP_append, noted.trips, again.trips]
  · rw [List.count_append, List.length_append]
    simp only
    omega

theorem Leads.noted {a : Advance} (leads : Leads 0 0 a) (idle : c.unended = false) : Noted c [] a where
  errors := leads.errors
  trips := leads.trips
  dials := by rw [leads.dials, idle]; rfl

/-- Off the way to an attempt nothing is told of any. -/
theorem quiet_of_lasting {deeds : List Deed} (lasting : ∀ d ∈ deeds, d.wayside = false ∨ d = .failed) :
    deeds.countP Deed.isError = 0 ∧ deeds.count .tripped = 0 ∧ deeds.count .dial = 0 := by
  have apart {d : Deed} (member : d ∈ deeds) : d.wayside = false ∨ d = .failed := lasting d member
  refine ⟨?_, ?_, ?_⟩
  · apply List.countP_eq_zero.mpr
    intro d member error
    rcases apart member with plain | rfl
    · cases d <;> simp_all [Deed.isError, Deed.wayside]
    · cases error
  · exact List.count_eq_zero.mpr fun member => by simpa [Deed.wayside] using apart member
  · exact List.count_eq_zero.mpr fun member => by simpa [Deed.wayside] using apart member

theorem onward_leads (s : Circumstances) (why : Parting) (c : Connection) (f : Binary64) :
    let a := c.onward s why
    let o : Ended := ⟨why, a.deeds.contains .tripped, f⟩
    Leads o.failed.toNat o.tripped.toNat a := by
  have leads_of_way {d : Connection} {a : Advance} (way : WayOn d a) :
      Leads 0 (a.deeds.contains .tripped).toNat a := by
    have untripped : Deed.tripped ∉ a.deeds := List.count_eq_zero.mp way.leads.trips
    simpa [untripped] using way.leads
  intro a o
  cases why with
  | told => exact ⟨rfl, rfl, rfl⟩
  | lost => exact leads_of_way (again_way s c.restartCounts)
  | reconnect d => exact leads_of_way (again_way s { c.restartCounts with requested := some d })
  | failed e => exact fail_leads s e c

theorem Leaves.noted {why : Parting} {a : Advance} (leaves : Leaves s c why a)
    (result : c.result s i = some why) :
    Noted c [⟨why, a.deeds.contains .tripped, s.fraction⟩] a := by
  have begun : c.unended = true := by
    rcases stage_of_result result with stage | stage <;> simp [unended, showsOpen, stage]
  cases leaves with
  | mk left lead same stage lasting =>
    obtain ⟨errors, trips, dials⟩ := quiet_of_lasting fun d member => Or.inl (lasting d member)
    have leads := (onward_leads s why left s.fraction).after lead dials
    rw [errors, trips, Nat.zero_add, Nat.zero_add] at leads
    refine ⟨?_, ?_, ?_⟩
    · rw [leads.errors]
      cases why <;> rfl
    · rw [leads.trips, tripped_after lasting]
      cases (left.onward s why).deeds.contains .tripped <;> rfl
    · rw [leads.dials, begun]
      rfl

theorem GoesOn.noted {a : Advance} (goesOn : GoesOn s c i a) : Noted c [] a := by
  cases goesOn with
  | stays _ _ stage lasting =>
    obtain ⟨errors, trips, dials⟩ := quiet_of_lasting lasting
    have same : a.connection.unended = c.unended := by
      rcases stage with stage | ⟨online, crashed⟩
      · simp [unended, showsOpen, stage]
      · simp [unended, showsOpen, online, crashed]
    exact ⟨errors, trips, by rw [dials, same]; exact Nat.add_comm ..⟩
  | enters before _ _ stage lasting =>
    obtain ⟨errors, trips, dials⟩ := quiet_of_lasting fun d member => Or.inl (lasting d member)
    have same : a.connection.unended = c.unended := by simp [unended, showsOpen, before, stage]
    exact ⟨errors, trips, by rw [dials, same]; exact Nat.add_comm ..⟩
  | retries stage => exact (pause_way s c.closeBreaker).leads.noted (by simp [unended, showsOpen, stage])
  | resumes stage => exact (approach_way c).leads.noted (by simp [unended, showsOpen, stage])
  | dials stage => exact Leads.noted ⟨rfl, rfl, rfl⟩ (by simp [unended, showsOpen, stage])
  | halts stage =>
    exact Leads.noted ⟨rfl, rfl, rfl⟩ (by rcases stage with h | h | h <;> simp [unended, showsOpen, h])

theorem step_noted (s : Circumstances) (c : Connection) (i : Stimulus) :
    Noted c (c.ended? s i).toList (c.step s i) := by
  cases result : c.result s i with
  | none =>
    have unended : c.ended? s i = none := by simp [ended?, result]
    rw [unended]
    exact (step_goesOn result).noted
  | some why =>
    have ended : c.ended? s i = some ⟨why, (c.step s i).deeds.contains .tripped, s.fraction⟩ := by
      simp [ended?, result]
    rw [ended]
    exact (step_leaves result).noted result

theorem run_noted (settings : GatewaySettings) (shard : Shard)
    (history : List (Circumstances × Stimulus)) :
    let first := (start settings shard).connection
    Noted first (attempts settings shard history) (first.run history) := by
  intro first
  induction history using List.reverseRecOn with
  | nil => exact ⟨rfl, rfl, rfl⟩
  | append_singleton history last ih =>
    have noted := ih.also (step_noted last.1 (first.run history).connection last.2)
    have deeds : (first.run (history ++ [last])).deeds =
        (first.run history).deeds ++ ((first.run history).connection.step last.1 last.2).deeds := by
      rw [run_deeds_append]
      simp [run, Advance.also]
    have grown : first.run (history ++ [last]) = ⟨_, _⟩ :=
      congrArg₂ Advance.mk (run_concat first history last) deeds
    rw [attempts_concat, grown]
    exact noted

/- What the counts come to. -/

theorem failures_counted (failures : List Ended) :
    failures.countP (!·.tripped) = failures.length - failures.countP (·.tripped) := by
  have all := failures.length_eq_countP_add_countP (·.tripped)
  have same : failures.countP (fun o => decide ¬o.tripped = true) = failures.countP (!·.tripped) := by
    congr 1
    funext o
    cases o.tripped <;> rfl
  omega

theorem Counted.below_limit (counted : Counted os c) (two : 2 ≤ c.settings.threshold) :
    (sinceRegular os).length < c.settings.most + (c.settings.most - 1) / (c.settings.threshold - 1) := by
  have few := counted.few
  rw [counted.attempt, failures_counted, counted.trips] at few
  exact SessionFleet.below_limit two few

theorem Exhausted.at_limit (exhausted : Exhausted os c) :
    (sinceRegular os).countP (·.tripped) = (c.settings.most - 1) / (c.settings.threshold - 1) ∧
    (sinceRegular os).length = c.settings.most + (c.settings.most - 1) / (c.settings.threshold - 1) := by
  have all := exhausted.all
  have most : 0 < c.settings.most := Nat.lt_of_lt_of_le Nat.one_pos (Nat.le_max_right ..)
  rw [failures_counted, exhausted.trips] at all
  have rounds := rounds_at_limit all exhausted.incomplete
  rw [exhausted.trips, ← rounds]
  exact ⟨rfl, by omega⟩

/-- Nothing but failures can end a connection: the handler agrees each time and nobody closes it. -/
def Willing (history : List (Circumstances × Stimulus)) : Prop :=
  ∀ e ∈ history, e.1.retries = true ∧ e.2 ≠ .command .close

theorem EndedOtherwise.crashed_of_willing {history : List (Circumstances × Stimulus)}
    (otherwise : EndedOtherwise history c) (willing : Willing history) : c.stage = .stopped .crashed := by
  cases otherwise with
  | unwilling e member refuses => simp [(willing e member).1] at refuses
  | dismissed e member close => exact absurd close (willing e member).2
  | crashed stage => exact stage

/-- How far the failures in a row can go when as many as `threshold` trip the breaker and `most` that do not
    are too many. -/
structure Limited (failures : List Ended) (most threshold : Nat) (os : List Ended) (c : Connection) :
    Prop where
  within : failures.length ≤ most + (most - 1) / (threshold - 1)
  trips : failures.countP (·.tripped) = failures.length / threshold
  just : c.isStopped = true ↔ failures.length = most + (most - 1) / (threshold - 1)
  end_trips : c.isStopped = true → failures.countP (·.tripped) = (most - 1) / (threshold - 1)
  result : c.isStopped = true → ∃ o e, os.getLast? = some o ∧ o.parting = .failed e ∧
    c.stage = .stopped (.gaveUp (.connectionFailed most e.message))

theorem Reached.limited {history : List (Circumstances × Stimulus)} (reached : Reached history os c)
    (willing : Willing history) (uncrashed : c.stage ≠ .stopped .crashed)
    (two : 2 ≤ c.settings.threshold) :
    Limited (sinceRegular os) c.settings.most c.settings.threshold os c := by
  cases reached with
  | going going tallied =>
    have below := tallied.counted.below_limit two
    exact ⟨Nat.le_of_lt below, tallied.counted.trips, by simp [going, Nat.ne_of_lt below],
      by simp [going], by simp [going]⟩
  | exhausted o e last failed exhausted stage =>
    obtain ⟨trips, length⟩ := exhausted.at_limit
    have halted : c.isStopped = true := by simp [isStopped, stage]
    exact ⟨Nat.le_of_eq length, exhausted.trips, by simp [halted, length], fun _ => trips,
      fun _ => ⟨o, e, last, failed, stage⟩⟩
  | aside _ _ _ otherwise => exact absurd (otherwise.crashed_of_willing willing) uncrashed

theorem Reached.unlimited {history : List (Circumstances × Stimulus)} (reached : Reached history os c)
    (willing : Willing history) (uncrashed : c.stage ≠ .stopped .crashed)
    (one : c.settings.threshold = 1) :
    c.isStopped = false ∧ ∀ o ∈ sinceRegular os, o.tripped = true := by
  cases reached with
  | going going tallied =>
    have trips := tallied.counted.trips
    rw [one, Nat.div_one] at trips
    exact ⟨going, List.countP_eq_length.mp trips⟩
  | exhausted o e last failed exhausted stage =>
    have incomplete := exhausted.incomplete
    rw [one] at incomplete
    exact absurd (Nat.mod_one _) incomplete
  | aside _ _ _ otherwise => exact absurd (otherwise.crashed_of_willing willing) uncrashed

/-- Both counters stay within their bounds, and while it goes on they are known from the failures. -/
theorem Reached.within {history : List (Circumstances × Stimulus)} (reached : Reached history os c) :
    c.failures ≤ c.settings.threshold ∧ c.attempt ≤ c.settings.most := by
  cases reached with
  | going _ tallied => exact ⟨tallied.within, Nat.le_of_lt tallied.counted.few⟩
  | exhausted _ _ _ _ exhausted => exact ⟨exhausted.failures, Nat.le_of_eq exhausted.attempt⟩
  | aside _ failures attempt => exact ⟨failures, attempt⟩

/-- The counters are known from the failures in a row, and start again with an attempt that has not failed. -/
theorem Tallied.counters (tallied : Tallied os c) :
    c.attempt = (sinceRegular os).countP (!·.tripped) ∧
    c.failures = (if c.tripped then c.settings.threshold
      else (sinceRegular os).length % c.settings.threshold) ∧
    (sinceRegular os = [] → c.attempt = 0 ∧ c.failures = 0) := by
  have counted := tallied.counted
  refine ⟨counted.attempt, counted.failures, ?_⟩
  intro none
  have closed : c.tripped = false := by
    cases tripped : c.tripped with
    | false => rfl
    | true => exact absurd none (counted.complete tripped).1
  constructor
  · rw [counted.attempt, none]
    rfl
  · rw [counted.failures, closed, none]
    exact Nat.zero_mod _

/-- A connection whose handler always agrees and that nobody closes gives up with a certain failure in a
    row: one that trips the breaker at times makes so many attempts more, and one that trips it each
    time never gives up.  An attempt that has not failed starts the count again. -/
theorem gives_up_just_at_limit (settings : GatewaySettings) (shard : Shard)
    (history : List (Circumstances × Stimulus)) :
    let launched := start settings shard
    let run := launched.connection.run history
    let c := run.connection
    let deeds := launched.deeds ++ run.deeds
    let os := attempts settings shard history
    let failures := sinceRegular os
    let most := max settings.connection.maxConnectAttempts 1
    let threshold := settings.connection.breakerThreshold
    (deeds.countP Deed.isError = os.countP Ended.failed ∧ deeds.count .tripped = os.countP (·.tripped) ∧
      deeds.count .dial = os.length + c.unended.toNat) ∧
    (c.failures ≤ max threshold 1 ∧ c.attempt ≤ most) ∧
    (c.isStopped = false → c.attempt = failures.countP (!·.tripped) ∧
      c.failures = (if c.tripped then max threshold 1 else failures.length % max threshold 1) ∧
      (failures = [] → c.attempt = 0 ∧ c.failures = 0)) ∧
    ((∀ o ∈ os, o.failed = true) → failures = os) ∧
    (∀ o, os.getLast? = some o → o.failed = false → failures = []) ∧
    (Willing history → c.stage ≠ .stopped .crashed →
      (2 ≤ threshold → Limited failures most threshold os c) ∧
      (threshold ≤ 1 → c.isStopped = false ∧ ∀ o ∈ failures, o.tripped = true)) := by
  intro launched run c deeds os failures most threshold
  have reached := run_reached settings shard history
  have noted := run_noted settings shard history
  have same : c.settings = settings := run_settings settings shard history
  have most_eq : c.settings.most = most := by rw [same]; rfl
  have threshold_eq : c.settings.threshold = max threshold 1 := by rw [same]; rfl
  refine ⟨⟨noted.errors, noted.trips, ?_⟩, ?_, ?_, ?_, ?_, ?_⟩
  · have dials := noted.dials
    have begun : launched.connection.unended.toNat = 0 := rfl
    rw [begun, Nat.zero_add] at dials
    exact dials
  · rw [← threshold_eq, ← most_eq]
    exact reached.within
  · intro going
    rw [← threshold_eq]
    cases reached with
    | going _ tallied => exact tallied.counters
    | exhausted _ _ _ _ _ stage => simp [c, run, launched, isStopped, stage] at going
    | aside stopped =>
      rw [stopped] at going
      cases going
  · exact List.rtakeWhile_eq_self_iff.mpr
  · intro o last regular
    obtain ⟨before, split⟩ := List.getLast?_eq_some_iff.mp last
    rw [show failures = sinceRegular os from rfl, split]
    exact sinceRegular_regular before regular
  · intro willing uncrashed
    constructor
    · intro two
      have threshold_same : c.settings.threshold = threshold :=
        threshold_eq.trans (Nat.max_eq_left (Nat.le_of_succ_le two))
      rw [← most_eq, ← threshold_same]
      exact reached.limited willing uncrashed (threshold_same ▸ two)
    · intro few
      exact reached.unlimited willing uncrashed (threshold_eq.trans (Nat.max_eq_right few))

/-- Where two failures trip the breaker and three are too many, it gives up with the fifth. -/
theorem five_failures_at_limit :
    let around : Circumstances := ⟨.steady 0, .ofNat 1, true, fun _ => true, none⟩
    let settings : GatewaySettings :=
      { token := "token", connection := { maxConnectAttempts := 3, breakerThreshold := 2 } }
    let fails : List (Circumstances × Stimulus) :=
      [(around, .timeUp), (around, .timeUp), (around, .turn), (around, .dialed .timedOut)]
    let history := fails ++ fails ++ fails ++ fails ++ fails
    let c := ((start settings ⟨0, 1⟩).connection.run history).connection
    Willing history ∧ c.stage ≠ .stopped .crashed ∧ c.isStopped = true ∧
      (attempts settings ⟨0, 1⟩ history).length = 5 ∧
      (attempts settings ⟨0, 1⟩ history).countP (·.tripped) = 2 ∧
      Limited (attempts settings ⟨0, 1⟩ history) 3 2 (attempts settings ⟨0, 1⟩ history) c := by
  intro around settings fails history c
  have willing : Willing history := by
    intro e member
    have each : ∀ e ∈ fails, e.1.retries = true ∧ e.2 ≠ .command .close := by
      simp [fails, around]
    refine each e ?_
    simpa [history] using member
  have facts : c.isStopped = true ∧ c.stage ≠ .stopped .crashed ∧
      ∀ o ∈ attempts settings ⟨0, 1⟩ history, o.failed = true := by decide +kernel
  obtain ⟨stopped, uncrashed, all_failed⟩ := facts
  obtain ⟨_, _, _, all, _, limit⟩ := gives_up_just_at_limit settings ⟨0, 1⟩ history
  obtain ⟨most, _⟩ := limit willing uncrashed
  have limited : Limited _ 3 2 _ c := most (by decide)
  rw [all all_failed] at limited
  exact ⟨willing, uncrashed, stopped, limited.just.mp stopped, limited.end_trips stopped, limited⟩

end Connection
end SessionFleet
