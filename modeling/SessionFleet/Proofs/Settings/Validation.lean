import Mathlib.Data.List.Basic
import SessionFleet.Settings.Gateway
/- Which settings are accepted, and what is said of the others.  Eight rules are checked one after the
   other, and the first that is violated is reported.  The rule for the multiplier is checked by
   whether it is 0 or less, which a multiplier that is no number is not. -/
namespace SessionFleet

/-- A number, and greater than 0. -/
def Binary64.Positive : Binary64 → Prop
  | .nan => False
  | .infinite negative => negative = false
  | .finite negative m _ => negative = false ∧ m ≠ 0

theorem Binary64.magnitudeLe_zero (m : Nat) (q q' : Int) :
    magnitudeLe m q 0 q' = true ↔ m = 0 := by
  have positive (e : Nat) : Nat.pow 2 e ≠ 0 := Nat.ne_of_gt (Nat.pow_pos Nat.two_pos)
  simp only [magnitudeLe, ratio, Nat.zero_mul, decide_eq_true_eq, Nat.le_zero, Nat.mul_eq_zero,
    positive, or_false]

theorem Binary64.le_zero_iff (x : Binary64) :
    x.le (Binary64.ofNat 0) = true ↔ x ≠ .nan ∧ ¬ x.Positive := by
  have zero : Binary64.ofNat 0 = .finite false 0 (-1074) := rfl
  rw [zero]
  cases x with
  | nan => simp [le]
  | infinite negative => cases negative <;> simp [le, Positive]
  | finite negative m q => cases negative with
    | true => simp [le, Positive]
    | false => simp [le, Positive, magnitudeLe_zero]

/-- The address that a strategy names, by its role. -/
def IdentifyStrategy.url? : IdentifyStrategy → Option (String × String)
  | .local => none
  | .sharedLock url => some ("redis", url)
  | .remoteQueue url _ => some ("identify queue", url)

/-- What is asked of the settings of a fleet. -/
inductive SettingsRule where
  | token
  | gatewayUrl
  | delays
  | multiplier
  | concurrency
  | concurrencyCap
  | turnsUrl
  | queueTimeout
  deriving DecidableEq, Repr

namespace SettingsRule

variable {s : GatewaySettings} {rule : SettingsRule} {f : SettingsFault}

/-- The order in which the rules are checked. -/
def inOrder : List SettingsRule :=
  [.token, .gatewayUrl, .delays, .multiplier, .concurrency, .concurrencyCap, .turnsUrl, .queueTimeout]

def Met (s : GatewaySettings) : SettingsRule → Prop
  | .token => ∃ c ∈ s.token.toList, isBlankPoint c.toNat = false
  | .gatewayUrl => ∃ url, Url.ofText s.gatewayUrl = .ok url
  | .delays => s.backoff.initialDelay ≤ s.backoff.maxDelay
  | .multiplier => s.backoff.multiplier.Positive
  | .concurrency => 1 ≤ s.identify.recommendedConcurrency
  | .concurrencyCap => ∀ cap, s.identify.maxConcurrency = some cap → 1 ≤ cap
  | .turnsUrl => ∀ role text, s.identify.strategy.url? = some (role, text) →
      ∃ url, Url.ofText text = .ok url
  | .queueTimeout => ∀ text timeout, s.identify.strategy = .remoteQueue text timeout → timeout ≠ 0

/-- What is said of a rule that is violated. -/
inductive Reports (s : GatewaySettings) : SettingsRule → SettingsFault → Prop where
  | token : Reports s .token .missingToken
  | gatewayUrl {fault : UrlFault} (unread : Url.ofText s.gatewayUrl = .error fault) :
      Reports s .gatewayUrl (.badUrl "gateway_url" fault)
  | delays : Reports s .delays .delaysReversed
  | multiplier : Reports s .multiplier .multiplierNotPositive
  | concurrency : Reports s .concurrency .noConcurrency
  | concurrencyCap : Reports s .concurrencyCap .zeroConcurrencyCap
  | turnsUrl {role text : String} {fault : UrlFault}
      (named : s.identify.strategy.url? = some (role, text)) (unread : Url.ofText text = .error fault) :
      Reports s .turnsUrl (.badUrl role fault)
  | queueTimeout : Reports s .queueTimeout .zeroQueueTimeout

/-- The rules as they are checked: a multiplier that is no number is let through. -/
def Passed (s : GatewaySettings) (rule : SettingsRule) : Prop :=
  rule.Met s ∨ rule = .multiplier ∧ s.backoff.multiplier = .nan

/-- The faults that checking one rule finds. -/
def faults (s : GatewaySettings) : SettingsRule → List SettingsFault
  | .token => faultIf (isBlankText s.token) .missingToken
  | .gatewayUrl => urlFaults "gateway_url" s.gatewayUrl
  | .delays => faultIf (s.backoff.maxDelay < s.backoff.initialDelay) .delaysReversed
  | .multiplier => faultIf (s.backoff.multiplier.le (Binary64.ofNat 0)) .multiplierNotPositive
  | .concurrency => faultIf (s.identify.recommendedConcurrency = 0) .noConcurrency
  | .concurrencyCap => faultIf (s.identify.maxConcurrency = some 0) .zeroConcurrencyCap
  | .turnsUrl =>
    match s.identify.strategy.url? with
    | none => []
    | some (role, text) => urlFaults role text
  | .queueTimeout =>
    match s.identify.strategy with
    | .remoteQueue _ timeout => faultIf (timeout = 0) .zeroQueueTimeout
    | .local | .sharedLock _ => []

theorem faults_inOrder (s : GatewaySettings) : s.faults = inOrder.flatMap (faults s) := by
  cases strategy : s.identify.strategy <;>
    simp [GatewaySettings.faults, IdentifySettings.faults, IdentifyStrategy.faults, inOrder, faults,
      strategy, IdentifyStrategy.url?]

theorem mem_inOrder (rule : SettingsRule) : rule ∈ inOrder := by cases rule <;> decide

/-- Checking one rule finds its fault just if it is not passed. -/
inductive Checked (s : GatewaySettings) (rule : SettingsRule) : Prop where
  | passed (passed : rule.Passed s) (none : rule.faults s = [])
  | violated (f : SettingsFault) (violated : ¬ rule.Passed s) (one : rule.faults s = [f])
      (reported : rule.Reports s f)

theorem checked_of_faultIf {violated : Bool} (plain : rule ≠ .multiplier)
    (found : rule.faults s = faultIf violated f) (reported : rule.Reports s f)
    (met : rule.Met s ↔ violated = false) : Checked s rule := by
  cases violated with
  | false => exact .passed (Or.inl (met.mpr rfl)) found
  | true =>
    refine .violated f ?_ found reported
    rintro (holds | ⟨same, _⟩)
    · exact absurd (met.mp holds) (by simp)
    · exact plain same

theorem checked_of_urlFaults {role text : String} (plain : rule ≠ .multiplier)
    (found : rule.faults s = urlFaults role text)
    (reported : ∀ fault, Url.ofText text = .error fault → rule.Reports s (.badUrl role fault))
    (met : rule.Met s ↔ ∃ url, Url.ofText text = .ok url) : Checked s rule := by
  cases read : Url.ofText text with
  | ok url => exact .passed (Or.inl (met.mpr ⟨url, read⟩)) (by simp [found, urlFaults, read])
  | error fault =>
    refine .violated (.badUrl role fault) ?_ (by simp [found, urlFaults, read]) (reported fault read)
    rintro (holds | ⟨same, _⟩)
    · obtain ⟨url, readable⟩ := met.mp holds
      rw [read] at readable
      cases readable
    · exact plain same

theorem checked (s : GatewaySettings) (rule : SettingsRule) : Checked s rule := by
  cases rule with
  | token =>
    apply checked_of_faultIf (by decide) rfl .token
    simp [Met, isBlankText]
  | gatewayUrl =>
    exact checked_of_urlFaults (by decide) rfl (fun _ => .gatewayUrl) Iff.rfl
  | delays =>
    apply checked_of_faultIf (by decide) rfl .delays
    simp [Met]
  | multiplier =>
    have refused := Binary64.le_zero_iff s.backoff.multiplier
    cases low : s.backoff.multiplier.le (Binary64.ofNat 0) with
    | true =>
      obtain ⟨number, unmet⟩ := refused.mp low
      refine .violated .multiplierNotPositive ?_ (by simp [faults, faultIf, low]) .multiplier
      exact fun passed => passed.elim unmet fun unchecked => number unchecked.2
    | false =>
      refine .passed ?_ (by simp [faults, faultIf, low])
      by_cases number : s.backoff.multiplier = .nan
      · exact Or.inr ⟨rfl, number⟩
      · refine Or.inl (Classical.byContradiction fun unmet => ?_)
        rw [refused.mpr ⟨number, unmet⟩] at low
        cases low
  | concurrency =>
    apply checked_of_faultIf (by decide) rfl .concurrency
    simp [Met, Nat.one_le_iff_ne_zero]
  | concurrencyCap =>
    apply checked_of_faultIf (by decide) rfl .concurrencyCap
    cases cap : s.identify.maxConcurrency <;> simp [Met, cap, Nat.one_le_iff_ne_zero]
  | turnsUrl =>
    cases named : s.identify.strategy.url? with
    | none => exact .passed (Or.inl (by simp [Met, named])) (by simp [faults, named])
    | some address =>
      obtain ⟨role, text⟩ := address
      apply checked_of_urlFaults (by decide) (by simp [faults, named]) (fun _ => .turnsUrl named)
      simp [Met, named]
  | queueTimeout =>
    cases strategy : s.identify.strategy with
    | remoteQueue text timeout =>
      have found : queueTimeout.faults s = faultIf (timeout = 0) .zeroQueueTimeout := by
        simp only [faults, strategy]
      apply checked_of_faultIf (by decide) found .queueTimeout
      simp [Met, strategy]
    | _ => exact .passed (Or.inl (by simp [Met, strategy])) (by simp [faults, strategy])

theorem faults_nil_iff (s : GatewaySettings) (rule : SettingsRule) :
    rule.faults s = [] ↔ rule.Passed s := by
  cases checked s rule with
  | passed passed none => exact ⟨fun _ => passed, fun _ => none⟩
  | violated f violated one reported =>
    refine ⟨fun none => ?_, fun passed => absurd passed violated⟩
    rw [one] at none
    cases none

theorem no_faults_iff (s : GatewaySettings) : s.faults = [] ↔ ∀ rule, Passed s rule := by
  rw [faults_inOrder, List.flatMap_eq_nil_iff]
  simp only [faults_nil_iff]
  exact ⟨fun all rule => all rule (mem_inOrder rule), fun all rule _ => all rule⟩

/-- The first rule that is not passed gives the first fault. -/
theorem first_fault {before after : List SettingsRule} (order : inOrder = before ++ rule :: after)
    (passed : ∀ r ∈ before, Passed s r) (violated : ¬ Passed s rule) :
    ∃ f later, s.faults = f :: later ∧ rule.Reports s f := by
  have quiet : before.flatMap (faults s) = [] := by
    rw [List.flatMap_eq_nil_iff]
    intro r member
    exact (faults_nil_iff s r).mpr (passed r member)
  cases checked s rule with
  | passed passes none => exact absurd passes violated
  | violated f _ one reported =>
    refine ⟨f, after.flatMap (faults s), ?_, reported⟩
    rw [faults_inOrder, order, List.flatMap_append, quiet, List.flatMap_cons, one]
    rfl

/-- A fault comes from a rule that is not passed. -/
theorem fault_reported (found : f ∈ s.faults) : ∃ rule, ¬ Passed s rule ∧ rule.Reports s f := by
  rw [faults_inOrder] at found
  obtain ⟨rule, _, member⟩ := List.mem_flatMap.mp found
  cases checked s rule with
  | passed passes none =>
    rw [none] at member
    cases member
  | violated g violated one reported =>
    rw [one, List.mem_singleton] at member
    exact ⟨rule, violated, member ▸ reported⟩

/-- Settings are accepted just if these conditions hold of all rules, and as they are; else the first
    rule of which they do not hold is reported. -/
structure DecidesBy (holds : SettingsRule → Prop) (s : GatewaySettings) : Prop where
  accepted : (∃ t, s.validated = .ok t) ↔ ∀ rule, holds rule
  unchanged : ∀ t, s.validated = .ok t →
    t = s ∧ 1 ≤ t.identify.effectiveConcurrency ∧
      t.identify.effectiveConcurrency ≤ t.identify.recommendedConcurrency
  reported : ∀ before rule after, inOrder = before ++ rule :: after →
    (∀ r ∈ before, holds r) → ¬ holds rule →
    ∃ f, s.validated = .error f ∧ rule.Reports s f

theorem effective_within (concurrency : Passed s .concurrency) (cap : Passed s .concurrencyCap) :
    1 ≤ s.identify.effectiveConcurrency ∧
      s.identify.effectiveConcurrency ≤ s.identify.recommendedConcurrency := by
  simp only [Passed, reduceCtorEq, false_and, or_false, Met] at concurrency cap
  unfold IdentifySettings.effectiveConcurrency
  cases named : s.identify.maxConcurrency with
  | none => exact ⟨concurrency, Nat.le_refl _⟩
  | some most =>
    have least := cap most named
    simp only
    omega

theorem decidesBy_passed (s : GatewaySettings) : DecidesBy (Passed s) s := by
  constructor
  · rw [← no_faults_iff]
    cases found : s.faults with
    | nil => simp [GatewaySettings.validated, found]
    | cons f later => simp [GatewaySettings.validated, found]
  · intro t accepted
    cases found : s.faults with
    | nil =>
      have all := (no_faults_iff s).mp found
      have same : t = s := by simpa [GatewaySettings.validated, found] using accepted.symm
      rw [same]
      exact ⟨rfl, effective_within (all .concurrency) (all .concurrencyCap)⟩
    | cons f later => simp [GatewaySettings.validated, found] at accepted
  · intro before rule after order passed violated
    obtain ⟨f, later, found, reported⟩ := first_fault order passed violated
    exact ⟨f, by simp [GatewaySettings.validated, found], reported⟩

theorem passed_iff_met (plain : rule ≠ .multiplier ∨ s.backoff.multiplier ≠ .nan) :
    Passed s rule ↔ rule.Met s := by
  constructor
  · rintro (met | ⟨same, unchecked⟩)
    · exact met
    · rcases plain with other | number
      · exact absurd same other
      · exact absurd unchecked number
  · exact Or.inl

/-- The rules that are checked before the multiplier's. -/
def beforeMultiplier : List SettingsRule := [.token, .gatewayUrl, .delays]

theorem before_multiplier {before after : List SettingsRule}
    (order : inOrder = before ++ .multiplier :: after) : before = beforeMultiplier := by
  have split : inOrder = beforeMultiplier ++ .multiplier ::
      [.concurrency, .concurrencyCap, .turnsUrl, .queueTimeout] := rfl
  rw [split] at order
  exact ((List.append_cons_inj_of_notMem (by decide) (by decide)).mp order).1.symm

theorem not_reported_of_nan (unchecked : s.backoff.multiplier = .nan) :
    s.validated ≠ .error .multiplierNotPositive := by
  intro refused
  have found : .multiplierNotPositive ∈ s.faults := by
    cases faults : s.faults with
    | nil => simp [GatewaySettings.validated, faults] at refused
    | cons f later =>
      have same : f = .multiplierNotPositive := by
        simpa [GatewaySettings.validated, faults] using refused
      simp [same]
  obtain ⟨rule, violated, reported⟩ := fault_reported found
  cases reported
  exact violated (Or.inr ⟨rfl, unchecked⟩)

/-- Where no multiplier is let through that is no number, the rules decide; and where one is, if an
    earlier rule is violated anyway. -/
theorem decidesBy_met_iff (s : GatewaySettings) :
    DecidesBy (Met s) s ↔
      ¬ (s.backoff.multiplier = .nan ∧ ∀ rule ∈ beforeMultiplier, rule.Met s) := by
  constructor
  · intro law ⟨unchecked, earlier⟩
    have unmet : ¬ multiplier.Met s := by simp [Met, unchecked, Binary64.Positive]
    obtain ⟨f, refused, reported⟩ := law.reported beforeMultiplier .multiplier _ rfl earlier unmet
    cases reported
    exact not_reported_of_nan unchecked refused
  · intro checked
    by_cases number : s.backoff.multiplier = .nan
    · simp only [not_and, not_forall, exists_prop] at checked
      obtain ⟨early, member, unmet⟩ := checked number
      have other : early ≠ .multiplier := by
        intro same
        rw [same] at member
        exact absurd member (by decide)
      have violated : ¬ Passed s early := fun passed =>
        unmet ((passed_iff_met (Or.inl other)).mp passed)
      obtain ⟨accepted, unchanged, reported⟩ := decidesBy_passed s
      refine ⟨?_, unchanged, ?_⟩
      · rw [accepted]
        exact ⟨fun all => absurd (all early) violated, fun all => absurd (all early) unmet⟩
      · intro before rule after order met first
        have plain : rule ≠ .multiplier := by
          intro same
          rw [same] at order
          exact unmet (met early (before_multiplier order ▸ member))
        apply reported before rule after order
        · exact fun r earlier => Or.inl (met r earlier)
        · exact fun passed => first ((passed_iff_met (Or.inl plain)).mp passed)
    · have same : Passed s = Met s := by
        funext rule
        exact propext (passed_iff_met (Or.inr number))
      exact same ▸ decidesBy_passed s

/-- Settings go by the rules, but for a multiplier that is no number: this is let through as if it
    were greater than 0.  The answer differs from what the rules say just if the rules that are
    checked earlier are met. -/
theorem validation_goes_by_rules (s : GatewaySettings) :
    DecidesBy (fun rule => rule.Met s ∨ rule = .multiplier ∧ s.backoff.multiplier = .nan) s ∧
      (DecidesBy (fun rule => rule.Met s) s ↔
        ¬ (s.backoff.multiplier = .nan ∧ Met s .token ∧ Met s .gatewayUrl ∧ Met s .delays)) := by
  refine ⟨decidesBy_passed s, (decidesBy_met_iff s).trans ?_⟩
  simp [beforeMultiplier]

/-- A multiplier that is no number is accepted. -/
theorem multiplier_that_is_no_number_is_accepted :
    let s : GatewaySettings := { token := "token", backoff := { multiplier := .nan } }
    s.validated = .ok s ∧ ¬ Met s .multiplier ∧ ¬ DecidesBy (fun rule => rule.Met s) s := by
  intro s
  have accepted : s.validated = .ok s := by decide +kernel
  have unmet : ¬ Met s .multiplier := id
  exact ⟨accepted, unmet, fun law => unmet (law.accepted.mp ⟨s, accepted⟩ .multiplier)⟩

end SettingsRule
end SessionFleet
