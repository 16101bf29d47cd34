import Mathlib.Data.List.DropRight
import SessionFleet.Proofs.Connection.Attempts
/- How many attempts a connection makes.  Two counts go up with each failure: the one that trips the
   breaker starts again when it has, and does not let the other one go on then.  Both follow from the
   number of attempts that have failed since one came to a regular end. -/
namespace SessionFleet

/-- The attempts that have failed since one came to a regular end. -/
def sinceRegular (os : List Ended) : List Ended := os.rtakeWhile Ended.failed

theorem sinceRegular_failed (os : List Ended) {o : Ended} (failed : o.failed = true) :
    sinceRegular (os ++ [o]) = sinceRegular os ++ [o] :=
  List.rtakeWhile_concat_pos _ _ _ failed

theorem sinceRegular_regular (os : List Ended) {o : Ended} (regular : o.failed = false) :
    sinceRegular (os ++ [o]) = [] :=
  List.rtakeWhile_concat_neg _ _ _ (by simp [regular])

/-- How many failures in a row trip the breaker: one at least. -/
def GatewaySettings.threshold (s : GatewaySettings) : Nat := max s.connection.breakerThreshold 1

/-- How many failed attempts are too many: one at least. -/
def GatewaySettings.most (s : GatewaySettings) : Nat := max s.connection.maxConnectAttempts 1

theorem GatewaySettings.threshold_pos (s : GatewaySettings) : 0 < s.threshold :=
  Nat.lt_of_lt_of_le Nat.one_pos (Nat.le_max_right ..)

/-- One more failure where the last round of them is not complete. -/
theorem failure_within {t n : Nat} (within : n % t + 1 < t) :
    (n + 1) % t = n % t + 1 ∧ (n + 1) / t = n / t := by
  have split := Nat.div_add_mod n t
  have next : n + 1 = n % t + 1 + t * (n / t) := by omega
  constructor
  · rw [next, Nat.add_mul_mod_self_left, Nat.mod_eq_of_lt within]
  · rw [next, Nat.add_mul_div_left _ _ (by omega), Nat.div_eq_of_lt within]
    omega

/-- One more failure that completes a round of them. -/
theorem failure_complete {t n : Nat} (pos : 0 < t) (complete : t ≤ n % t + 1) :
    (n + 1) % t = 0 ∧ (n + 1) / t = n / t + 1 := by
  have split := Nat.div_add_mod n t
  have below := Nat.mod_lt n pos
  have next : n + 1 = t * (n / t + 1) := by
    rw [Nat.mul_add, Nat.mul_one]
    omega
  rw [next]
  exact ⟨Nat.mul_mod_right .., Nat.mul_div_cancel_left _ pos⟩

namespace Connection

variable {s : Circumstances} {c : Connection} {i : Stimulus} {os : List Ended}

/-- What a connection has counted of the attempts that have ended. -/
structure Counted (os : List Ended) (c : Connection) : Prop where
  attempt : c.attempt = (sinceRegular os).countP (!·.tripped)
  trips : (sinceRegular os).countP (·.tripped) = (sinceRegular os).length / c.settings.threshold
  failures : c.failures =
    if c.tripped then c.settings.threshold else (sinceRegular os).length % c.settings.threshold
  complete : c.tripped = true →
    sinceRegular os ≠ [] ∧ (sinceRegular os).length % c.settings.threshold = 0
  first : c.first = os.all (·.tripped)
  few : c.attempt < c.settings.most

/-- Between two steps, as long as it goes on, the breaker is open only where it is waited out, and a
    delay that was asked for has been taken up. -/
structure Tallied (os : List Ended) (c : Connection) : Prop where
  counted : Counted os c
  cools : c.tripped = true ↔ c.stage = .cooling
  requested : c.requested = none

theorem Counted.of_same {d : Connection} (counted : Counted os c) (same : SameCounts c d) :
    Counted os d where
  attempt := by rw [same.attempt, counted.attempt]
  trips := by rw [same.settings, counted.trips]
  failures := by rw [same.failures, same.settings, same.tripped, counted.failures]
  complete := by rw [same.settings, same.tripped]; exact counted.complete
  first := by rw [same.first, counted.first]
  few := by rw [same.attempt, same.settings]; exact counted.few

theorem Tallied.of_same {d : Connection} (tallied : Tallied os c) (same : SameCounts c d)
    (cools : d.stage = .cooling ↔ c.stage = .cooling) : Tallied os d where
  counted := tallied.counted.of_same same
  cools := by rw [same.tripped, cools, tallied.cools]
  requested := by rw [same.requested, tallied.requested]

theorem Tallied.untripped (tallied : Tallied os c) (waited : c.stage ≠ .cooling) : c.tripped = false := by
  cases tripped : c.tripped with
  | false => rfl
  | true => exact absurd (tallied.cools.mp tripped) waited

theorem start_tallied (settings : GatewaySettings) (shard : Shard) :
    Tallied [] (start settings shard).connection where
  counted := ⟨rfl, (Nat.zero_div _).symm, (Nat.zero_mod _).symm, by simp [start], rfl,
    Nat.lt_of_lt_of_le Nat.one_pos (Nat.le_max_right ..)⟩
  cools := by simp [start]
  requested := rfl

/- On the way. -/

theorem Counted.paused (counted : Counted os c) (closed : c.tripped = false) (s : Circumstances) :
    Tallied os (c.pause s).connection := by
  obtain ⟨stage, deeds, paused, onto⟩ := pause_onto s c
  rw [paused]
  exact ⟨⟨counted.attempt, counted.trips, counted.failures, counted.complete, counted.first,
    counted.few⟩, by simp [closed, onto.closed], rfl⟩

/-- Once the breaker is closed the failures start again, and a round of them is complete. -/
theorem Counted.closeBreaker (counted : Counted os c) (tripped : c.tripped = true) :
    Counted os c.closeBreaker where
  attempt := counted.attempt
  trips := counted.trips
  failures := (counted.complete tripped).2.symm
  complete := by simp [Connection.closeBreaker]
  first := counted.first
  few := counted.few

theorem Counted.round_open (counted : Counted os c) (tripped : c.tripped = true)
    (requested : c.requested = none) (s : Circumstances) : Tallied os (c.round s).connection := by
  rw [round_tripped s tripped]
  split
  · exact (counted.closeBreaker tripped).paused rfl s
  · exact ⟨⟨counted.attempt, counted.trips, counted.failures, counted.complete, counted.first,
      counted.few⟩, by simp [tripped], requested⟩

theorem GoesOn.tallied {a : Advance} (goesOn : GoesOn s c i a) (tallied : Tallied os c)
    (going : a.connection.isStopped = false) : Tallied os a.connection := by
  cases goesOn with
  | stays _ same stage =>
    rcases stage with stage | ⟨_, crashed⟩
    · exact tallied.of_same same (by rw [stage])
    · simp [isStopped, crashed] at going
  | enters before _ same stage => exact tallied.of_same same (by simp [stage, before])
  | retries stage =>
    exact (tallied.counted.closeBreaker (tallied.cools.mpr stage)).paused rfl s
  | resumes stage =>
    have untripped := tallied.untripped (by simp [stage])
    obtain ⟨next, deeds, approached, onto⟩ := approach_onto c
    rw [approached]
    refine tallied.of_same ⟨rfl, rfl, rfl, rfl, rfl, rfl⟩ ?_
    simp [stage, onto.closed]
  | dials stage => exact tallied.of_same ⟨rfl, rfl, rfl, rfl, rfl, rfl⟩ (by simp [dial, stage])
  | halts => simp [isStopped] at going

/- At the end of an attempt. -/

theorem counted_regular {o : Ended} (regular : o.failed = false) (untripped : o.tripped = false)
    (closed : c.tripped = false) (attempt : c.attempt = 0) (failures : c.failures = 0)
    (first : c.first = false) : Counted (os ++ [o]) c where
  attempt := by rw [attempt, sinceRegular_regular os regular]; rfl
  trips := by rw [sinceRegular_regular os regular]; exact (Nat.zero_div _).symm
  failures := by
    rw [failures, closed, sinceRegular_regular os regular]
    exact (Nat.zero_mod _).symm
  complete := by simp [closed]
  first := by simp [first, untripped]
  few := by rw [attempt]; exact Nat.lt_of_lt_of_le Nat.one_pos (Nat.le_max_right ..)

/-- While the breaker is closed the failures of a round are counted that is not complete. -/
theorem Counted.failures_closed (counted : Counted os c) (closed : c.tripped = false) :
    c.failures = (sinceRegular os).length % c.settings.threshold := by
  rw [counted.failures, closed]
  exact if_neg Bool.false_ne_true

/-- A failure that trips the breaker completes a round of failures and is no attempt that counts. -/
theorem Counted.trip {o : Ended} (counted : Counted os c) (closed : c.tripped = false)
    (failed : o.failed = true) (tripped : o.tripped = true)
    (enough : c.settings.threshold ≤ c.failures + 1) :
    Counted (os ++ [o]) { c with failures := c.failures + 1, tripped := true } := by
  have failures := counted.failures_closed closed
  have below := Nat.mod_lt (sinceRegular os).length c.settings.threshold_pos
  obtain ⟨complete, trips⟩ := failure_complete c.settings.threshold_pos (failures ▸ enough)
  have since := sinceRegular_failed os failed
  refine ⟨?_, ?_, ?_, ?_, ?_, counted.few⟩
  · simp [since, tripped, counted.attempt]
  · simp [since, tripped, counted.trips, trips]
  · simp only [↓reduceIte]
    omega
  · simp [since, complete]
  · simp [tripped, counted.first]

theorem Counted.count {o : Ended} (counted : Counted os c) (closed : c.tripped = false)
    (failed : o.failed = true) (untripped : o.tripped = false)
    (within : c.failures + 1 < c.settings.threshold) (more : c.attempt + 1 < c.settings.most) :
    Counted (os ++ [o])
      { c with failures := c.failures + 1, attempt := c.attempt + 1, first := false } := by
  have failures := counted.failures_closed closed
  rw [failures] at within
  obtain ⟨rest, trips⟩ := failure_within within
  have since := sinceRegular_failed os failed
  refine ⟨?_, ?_, ?_, ?_, ?_, more⟩
  · simp [since, untripped, counted.attempt]
  · simp [since, untripped, counted.trips, trips]
  · simp [since, closed, failures, rest]
  · simp [closed]
  · simp [untripped]

theorem Tallied.within (tallied : Tallied os c) : c.failures ≤ c.settings.threshold := by
  have below := Nat.mod_lt (sinceRegular os).length c.settings.threshold_pos
  rw [tallied.counted.failures]
  split <;> omega

/-- The end of a connection that has made as many attempts as it may. -/
structure Exhausted (os : List Ended) (c : Connection) : Prop where
  all : (sinceRegular os).countP (!·.tripped) = c.settings.most
  trips : (sinceRegular os).countP (·.tripped) = (sinceRegular os).length / c.settings.threshold
  incomplete : (sinceRegular os).length % c.settings.threshold ≠ 0
  attempt : c.attempt = c.settings.most
  failures : c.failures ≤ c.settings.threshold

/-- Where an attempt leads when it comes to its end.  If it goes on there is another round, in which the
    breaker is waited out just if the attempt has tripped it and a delay is kept just if it asked for one. -/
inductive Concluded (s : Circumstances) (os : List Ended) (o : Ended) : Advance → Prop where
  | goesOn (d : Connection) (lead : List Deed) (counted : Counted (os ++ [o]) d)
      (tripped : d.tripped = o.tripped) (requested : d.requested = o.requested)
      (calm : o.tripped = true → o.requested = none) (brief : ∀ x ∈ lead, x.notch? = none) :
      Concluded s os o ⟨(d.round s).connection, lead ++ (d.round s).deeds⟩
  | exhausts {a : Advance} (e : FleetError) (result : o.parting = .failed e)
      (exhausted : Exhausted (os ++ [o]) a.connection)
      (stage : a.connection.stage =
        .stopped (.gaveUp (.connectionFailed a.connection.settings.most e.message))) :
      Concluded s os o a
  | halts {a : Advance} (stopped : a.connection.isStopped = true)
      (failures : a.connection.failures ≤ a.connection.settings.threshold)
      (attempt : a.connection.attempt ≤ a.connection.settings.most)
      (unwilling : s.retries = false ∨ o.parting = .told) : Concluded s os o a

theorem going_of_way {a : Advance} (way : WayOn c a) : a.connection.isStopped = false := by
  cases stopped : a.connection.isStopped with
  | false => rfl
  | true =>
    obtain ⟨how, stage⟩ := (isStopped_iff a.connection).mp stopped
    exact absurd stage (way.going how)

theorem Concluded.after {o : Ended} {a : Advance} (concluded : Concluded s os o a) {lead : List Deed}
    (brief : ∀ x ∈ lead, x.notch? = none) : Concluded s os o ⟨a.connection, lead ++ a.deeds⟩ := by
  cases concluded with
  | goesOn d later counted tripped requested calm quiet =>
    rw [← List.append_assoc]
    refine .goesOn d _ counted tripped requested calm ?_
    rw [List.forall_mem_append]
    exact ⟨brief, quiet⟩
  | exhausts e result exhausted stage => exact .exhausts e result exhausted stage
  | halts stopped failures attempt unwilling => exact .halts stopped failures attempt unwilling

theorem fail_concluded (s : Circumstances) (e : FleetError) (tallied : Tallied os c)
    (closed : c.tripped = false) {o : Ended} (result : o.parting = .failed e)
    (tripped : o.tripped = (c.fail s e).deeds.contains .tripped) :
    Concluded s os o (c.fail s e) := by
  have failed : o.failed = true := by simp [Ended.failed, result]
  have unasked : o.requested = none := by simp [Ended.requested, result]
  have counted := tallied.counted
  have few := counted.few
  have below : c.failures < c.settings.threshold := by
    rw [counted.failures_closed closed]
    exact Nat.mod_lt _ c.settings.threshold_pos
  have fails := fail_fails s e c
  generalize c.fail s e = a at fails tripped ⊢
  cases fails with
  | trips retries breaks onward =>
    have trips : o.tripped = true := by simp [tripped]
    have enough : c.settings.threshold ≤ c.failures + 1 := Nat.max_le.mpr ⟨breaks, by omega⟩
    rw [onward]
    exact .goesOn _ [.failed, .tripped, .error _] (counted.trip closed failed trips enough)
      trips.symm (tallied.requested.trans unasked.symm) (fun _ => unasked) (by simp [Deed.notch?])
  | declines refuses why | refuses refuses =>
    exact .halts rfl below (Nat.le_of_lt few) (Or.inl refuses)
  | exhausts retries within last =>
    have untripped : o.tripped = false := by simp [tripped]
    have enough : c.settings.most ≤ c.attempt + 1 := Nat.max_le.mpr ⟨last, by omega⟩
    have most : c.attempt + 1 = c.settings.most := by omega
    have within : c.failures + 1 < c.settings.threshold :=
      Nat.lt_of_lt_of_le within (Nat.le_max_left ..)
    have failures := counted.failures_closed closed
    obtain ⟨rest, trips⟩ := failure_within (failures ▸ within)
    have since := sinceRegular_failed os failed
    refine .exhausts e result ⟨?_, ?_, ?_, most, below⟩ ?_
    · simp [since, untripped, ← counted.attempt, most]
    · simp [since, untripped, counted.trips, trips]
    · simp [since, rest]
    · simp [most]
  | counts retries within more onward =>
    have within : c.failures + 1 < c.settings.threshold :=
      Nat.lt_of_lt_of_le within (Nat.le_max_left ..)
    have more : c.attempt + 1 < c.settings.most := Nat.lt_of_lt_of_le more (Nat.le_max_left ..)
    have way := again_way s { c with failures := c.failures + 1, attempt := c.attempt + 1 }
    rw [← onward] at way
    have quiet : Deed.tripped ∉ _ := fun member => Bool.false_ne_true (way.headed _ member)
    have untripped : o.tripped = false := by simp [tripped, quiet]
    rw [onward]
    exact .goesOn _ [.failed, .error e, .retried _]
      (counted.count closed failed untripped within more) (closed.trans untripped.symm)
      (tallied.requested.trans unasked.symm) (fun _ => unasked) (by simp [Deed.notch?])

theorem regular_concluded (s : Circumstances) {o : Ended} (regular : o.failed = false)
    (closed : c.tripped = false) (attempt : c.attempt = 0) (failures : c.failures = 0)
    (requested : c.requested = o.requested)
    (tripped : o.tripped = (c.again s).deeds.contains .tripped) : Concluded s os o (c.again s) := by
  have way := again_way s c
  have quiet : Deed.tripped ∉ (c.again s).deeds := fun member => Bool.false_ne_true (way.headed _ member)
  have untripped : o.tripped = false := by simp [tripped, quiet]
  have counted : Counted (os ++ [o]) { c with first := false } :=
    counted_regular regular untripped closed attempt failures rfl
  exact .goesOn _ [.retried _] counted (closed.trans untripped.symm) requested
    (by simp [untripped]) (by simp [Deed.notch?])

theorem notch_of_lasting {d : Deed} (lasting : d.wayside = false) : d.notch? = none := by
  cases d <;> first | rfl | cases lasting

/-- What becomes of a socket does not trip the breaker. -/
theorem tripped_after {lead : List Deed} (lasting : ∀ d ∈ lead, d.wayside = false) (deeds : List Deed) :
    (lead ++ deeds).contains Deed.tripped = deeds.contains .tripped := by
  have quiet : Deed.tripped ∉ lead := fun member => Bool.false_ne_true (lasting _ member).symm
  simp [quiet]

theorem Leaves.concluded {why : Parting} {a : Advance} (leaves : Leaves s c why a)
    (tallied : Tallied os c) (closed : c.tripped = false) :
    Concluded s os ⟨why, a.deeds.contains .tripped, s.fraction⟩ a := by
  cases leaves with
  | mk left lead same stage lasting =>
    have ready : Tallied os left := tallied.of_same same (by rw [stage])
    have untripped : left.tripped = false := same.tripped.trans closed
    refine Concluded.after ?_ fun d member => notch_of_lasting (lasting d member)
    rw [tripped_after lasting]
    cases why with
    | told => exact .halts rfl ready.within (Nat.le_of_lt ready.counted.few) (Or.inr rfl)
    | lost => exact regular_concluded (c := left.restartCounts) s rfl untripped rfl rfl ready.requested rfl
    | reconnect d =>
      exact regular_concluded (c := { left.restartCounts with requested := some d }) s rfl untripped
        rfl rfl rfl rfl
    | failed e => exact fail_concluded s e ready untripped rfl rfl

/-- On a round the breaker is waited out if it is open, and a delay that was asked for is taken up. -/
theorem Counted.round (counted : Counted os c) (calm : c.tripped = true → c.requested = none)
    (s : Circumstances) : Tallied os (c.round s).connection := by
  cases tripped : c.tripped with
  | true => exact counted.round_open tripped (calm tripped) s
  | false =>
    rw [round_closed s tripped]
    exact counted.paused tripped s

/- Along a run. -/

theorem unended_of_stopped (stopped : c.isStopped = true) (s : Circumstances) (i : Stimulus) :
    c.ended? s i = none := by
  obtain ⟨how, stage⟩ := (isStopped_iff c).mp stopped
  simp [ended?, Connection.result, stage]

theorem stage_of_result {why : Parting} (result : c.result s i = some why) :
    c.stage = .dialing ∨ c.stage = .online := by
  cases stage : c.stage with
  | dialing => exact Or.inl rfl
  | online => exact Or.inr rfl
  | _ => simp [Connection.result, stage] at result

theorem close_of_told (result : c.result s i = some .told) : i = .command .close := by
  rcases stage_of_result result with stage | stage
  · cases i with
    | dialed d => simp [Connection.result, stage] at result
    | _ => simp [Connection.result, stage] at result
  · obtain ⟨code, ends⟩ := socketEnd_of_result stage result
    cases ends
    rfl

/-- Something else than a failure has ended a connection. -/
inductive EndedOtherwise (history : List (Circumstances × Stimulus)) (c : Connection) : Prop where
  | unwilling (e : Circumstances × Stimulus) (member : e ∈ history) (refuses : e.1.retries = false)
  | dismissed (e : Circumstances × Stimulus) (member : e ∈ history) (close : e.2 = .command .close)
  | crashed (stage : c.stage = .stopped .crashed)

/-- Where a run of a connection has led. -/
inductive Reached (history : List (Circumstances × Stimulus)) (os : List Ended) (c : Connection) :
    Prop where
  | going (going : c.isStopped = false) (tallied : Tallied os c)
  | exhausted (o : Ended) (e : FleetError) (last : os.getLast? = some o) (result : o.parting = .failed e)
      (exhausted : Exhausted os c)
      (stage : c.stage = .stopped (.gaveUp (.connectionFailed c.settings.most e.message)))
  | aside (stopped : c.isStopped = true) (failures : c.failures ≤ c.settings.threshold)
      (attempt : c.attempt ≤ c.settings.most) (otherwise : EndedOtherwise history c)

theorem GoesOn.reached {a : Advance} {history : List (Circumstances × Stimulus)}
    (goesOn : GoesOn s c i a) (before : c.isStopped = false) (tallied : Tallied os c) :
    Reached (history ++ [(s, i)]) os a.connection := by
  cases going : a.connection.isStopped with
  | false => exact .going going (goesOn.tallied tallied going)
  | true =>
    have within := tallied.within
    have few := Nat.le_of_lt tallied.counted.few
    cases goesOn with
    | stays _ same stage =>
      have crashed : a.connection.stage = .stopped .crashed := by
        rcases stage with stage | ⟨_, crashed⟩
        · have same : a.connection.isStopped = c.isStopped := by simp [isStopped, stage]
          rw [same, before] at going
          cases going
        · exact crashed
      refine .aside going ?_ ?_ (.crashed crashed)
      · rw [same.failures, same.settings]
        exact within
      · rw [same.attempt, same.settings]
        exact few
    | enters _ _ _ stage => simp [isStopped, stage] at going
    | retries =>
      rw [going_of_way (pause_way s c.closeBreaker)] at going
      cases going
    | resumes =>
      rw [going_of_way (approach_way c)] at going
      cases going
    | dials => simp [isStopped, dial] at going
    | halts => exact .aside going within few (.dismissed (s, .command .close) (by simp) rfl)

theorem Tallied.closed {why : Parting} (tallied : Tallied os c) (result : c.result s i = some why) :
    c.tripped = false := by
  apply tallied.untripped
  rcases stage_of_result result with stage | stage <;> simp [stage]

theorem Concluded.reached {o : Ended} {a : Advance} {history : List (Circumstances × Stimulus)}
    (concluded : Concluded s os o a) (told : o.parting = .told → i = .command .close) :
    Reached (history ++ [(s, i)]) (os ++ [o]) a.connection := by
  cases concluded with
  | goesOn d _ counted tripped requested calm =>
    have going := going_of_way (round_way s d)
    have quiet := fun trips => requested.trans (calm (tripped.symm.trans trips))
    exact .going going (counted.round quiet s)
  | exhausts e failed exhausted stage => exact .exhausted o e (by simp) failed exhausted stage
  | halts stopped failures attempt unwilling =>
    refine .aside stopped failures attempt ?_
    rcases unwilling with refuses | dismissed
    · exact .unwilling (s, i) (by simp) refuses
    · exact .dismissed (s, i) (by simp) (told dismissed)

theorem EndedOtherwise.later {history : List (Circumstances × Stimulus)}
    (otherwise : EndedOtherwise history c) (last : Circumstances × Stimulus) :
    EndedOtherwise (history ++ [last]) c := by
  cases otherwise with
  | unwilling e member refuses => exact .unwilling e (List.mem_append_left _ member) refuses
  | dismissed e member close => exact .dismissed e (List.mem_append_left _ member) close
  | crashed stage => exact .crashed stage

theorem run_reached (settings : GatewaySettings) (shard : Shard)
    (history : List (Circumstances × Stimulus)) :
    Reached history (attempts settings shard history)
      ((start settings shard).connection.run history).connection := by
  induction history using List.reverseRecOn with
  | nil => exact .going rfl (start_tallied settings shard)
  | append_singleton history last ih =>
    obtain ⟨s, i⟩ := last
    have stopped {c : Connection} (halted : c.isStopped = true) :
        (c.step s i).connection = c ∧ c.ended? s i = none := by
      obtain ⟨how, stage⟩ := (isStopped_iff c).mp halted
      exact ⟨by rw [step_stopped stage], unended_of_stopped halted s i⟩
    rw [attempts_concat, run_concat]
    generalize ((start settings shard).connection.run history).connection = c at ih ⊢
    -- only a connection that goes on can move; the tallies say where its next attempt leads
    cases ih with
    | going going tallied =>
      cases result : c.result s i with
      | none =>
        simp only [ended?, result, Option.map_none, Option.toList_none, List.append_nil]
        exact (step_goesOn result).reached going tallied
      | some why =>
        simp only [ended?, result, Option.map_some, Option.toList_some]
        have concluded := (step_leaves result).concluded tallied (tallied.closed result)
        exact concluded.reached fun told => close_of_told (result.trans (congrArg some told))
    | exhausted o e lastEnded failed exhausted stage =>
      have halted : c.isStopped = true := by simp [isStopped, stage]
      obtain ⟨same, unended⟩ := stopped halted
      simp only [same, unended, Option.toList_none, List.append_nil]
      exact .exhausted o e lastEnded failed exhausted stage
    | aside halted failures attempt otherwise =>
      obtain ⟨same, unended⟩ := stopped halted
      simp only [same, unended, Option.toList_none, List.append_nil]
      exact .aside halted failures attempt (otherwise.later (s, i))

end Connection
end SessionFleet
