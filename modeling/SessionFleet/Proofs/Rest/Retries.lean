import SessionFleet.Rest.Client
/- A request under any course of the world.

   Its checks go on as long as they are denied and there are waits left.  It is sent once at most,
   right behind the check that admits it, and what the response says goes back once. -/
namespace SessionFleet
namespace RequestStep

def isCheck : RequestStep → Bool
  | .checked _ => true
  | .waited _ | .built | .sent | .fed _ => false

def isWait : RequestStep → Bool
  | .waited _ => true
  | .checked _ | .built | .sent | .fed _ => false

def isFeed : RequestStep → Bool
  | .fed _ => true
  | .checked _ | .waited _ | .built | .sent => false

end RequestStep

namespace Client

variable {endpoint : String} {major : Nat} {c : Course} {l start after : Limiter} {now : Instant}
  {answer : Admission} {delay : Span}

/-- How long an answer lets its caller wait: as long as it says, or to the end of the block that is in
    effect, or for 200 ms if that has passed meanwhile. -/
inductive AsksFor (l : Limiter) (now : Instant) : Admission → Span → Prop where
  | retry (delay : Span) : AsksFor l now (.retryAfter delay) delay
  | block {expiry : Instant} (known : l.globalExpiry = some expiry) (ahead : now < expiry) :
      AsksFor l now .globallyBlocked (expiry - now).toNat
  | passed (past : ∀ expiry, l.globalExpiry = some expiry → expiry ≤ now) :
      AsksFor l now .globallyBlocked (Span.ofMillis 200)

theorem delayFor_eq_none_iff (l : Limiter) (now : Instant) (answer : Admission) :
    delayFor l now answer = none ↔ answer = .allowed := by
  cases answer <;> simp [delayFor]

theorem asksFor_of_delay (asked : delayFor l now answer = some delay) : AsksFor l now answer delay := by
  cases answer with
  | allowed => cases asked
  | retryAfter told =>
    obtain rfl : told = delay := Option.some.inj asked
    exact .retry told
  | globallyBlocked =>
    cases known : l.globalExpiry with
    | none =>
      obtain rfl : Bucket.fallbackDelay = delay := by
        simpa [delayFor, Limiter.blockedUntil, known] using asked
      exact .passed (by simp [known])
    | some expiry =>
      by_cases ahead : now < expiry
      · obtain rfl : (expiry - now).toNat = delay := by
          simpa [delayFor, Limiter.blockedUntil, known, Option.filter, ahead] using asked
        exact .block known ahead
      · obtain rfl : Bucket.fallbackDelay = delay := by
          simpa [delayFor, Limiter.blockedUntil, known, Option.filter, ahead] using asked
        refine .passed ?_
        intro other same
        rw [known] at same
        cases same
        exact Int.not_lt.mp ahead

theorem AsksFor.denies (asks : AsksFor l now answer delay) : answer ≠ .allowed := by
  cases asks <;> simp

theorem toNat_next {most waits : UInt32} (more : ¬ most ≤ waits) :
    (waits + 1).toNat = waits.toNat + 1 := by
  have below : waits.toNat < most.toNat := Nat.not_le.mp more
  have fits : most.toNat < 2 ^ 32 := most.toNat_lt
  rw [UInt32.toNat_add]
  exact Nat.mod_eq_of_lt (by change waits.toNat + 1 < _; omega)

section

variable (endpoint : String) (major : Nat) (c : Course) (start : Limiter)

/-- The first `n` checks were denied, and each was followed by one wait of at least a millisecond: the
    limiter that they left, and what was done. -/
inductive Denied : Nat → Limiter → List RequestStep → Prop where
  | fresh : Denied 0 start []
  | again {n : Nat} {l after : Limiter} {steps : List RequestStep} {answer : Admission} {delay : Span}
      (before : Denied n l steps) (checked : check endpoint major c n l = (answer, after))
      (asks : AsksFor after (c.checkedAt n) answer delay) :
      Denied (n + 1) after (steps ++ [.checked answer, .waited (max delay (Span.ofMillis 1))])

/-- What a request comes to that may wait so often, after so many denials in a row: it is sent right
    behind the check that admits it, or it gives up with the delay of the last denial. -/
inductive Ended (most : Nat) : Nat → Outcome → Prop where
  | answered {k : Nat} {l after : Limiter} {steps : List RequestStep} {r : Response} {now : Instant}
      (denied : Denied endpoint major c start k l steps) (within : k ≤ most)
      (admitted : check endpoint major c k l = (.allowed, after))
      (came : c.exchange = .answered r now) :
      Ended most k
        ⟨.ok r, steps ++ [.checked .allowed, .built, .sent, .fed (.parse r.headers)],
          after.respond (.parse r.headers) endpoint major now now⟩
  | broken {k : Nat} {l after : Limiter} {steps : List RequestStep} {detail : String}
      (denied : Denied endpoint major c start k l steps) (within : k ≤ most)
      (admitted : check endpoint major c k l = (.allowed, after))
      (came : c.exchange = .broken detail) :
      Ended most k ⟨.error (.http detail), steps ++ [.checked .allowed, .built, .sent], after⟩
  | refused {l after : Limiter} {steps : List RequestStep} {answer : Admission} {delay : Span}
      (denied : Denied endpoint major c start most l steps)
      (last : check endpoint major c most l = (answer, after))
      (asks : AsksFor after (c.checkedAt most) answer delay) :
      Ended most most
        ⟨.error (.rateLimited endpoint (some delay)), steps ++ [.checked answer], after⟩

/-- The same attempt by a counter of 32 bits, which counts the waits and wraps around. -/
def attemptInWords (most waits : UInt32) (l : Limiter) : Outcome :=
  let (answer, l) := check endpoint major c waits.toNat l
  match delayFor l (c.checkedAt waits.toNat) answer with
  | none => (send endpoint major l c.exchange).behind [.checked answer]
  | some delay =>
    if most ≤ waits then ⟨.error (.rateLimited endpoint (some delay)), [.checked answer], l⟩
    else
      (attemptInWords most (waits + 1) l).behind [.checked answer, .waited (max delay shortestWait)]
termination_by most.toNat - waits.toNat
decreasing_by
  rename_i more
  have below : waits.toNat < most.toNat := Nat.not_le.mp more
  have next := toNat_next more
  omega

end

theorem Denied.counts {n : Nat} {steps : List RequestStep}
    (denied : Denied endpoint major c start n l steps) :
    steps.countP RequestStep.isCheck = n ∧ steps.countP RequestStep.isWait = n ∧
      steps.countP RequestStep.isFeed = 0 ∧ steps.count .sent = 0 ∧ steps.count .built = 0 ∧
      .checked .allowed ∉ steps := by
  induction denied with
  | fresh => simp
  | again _ _ asks ih =>
    obtain ⟨checks, waits, unfed, unsent, unbuilt, unadmitted⟩ := ih
    simp [List.countP_append, List.count_append, checks, waits, unfed, unsent, unbuilt, unadmitted,
      List.countP_cons, RequestStep.isCheck, RequestStep.isWait, RequestStep.isFeed, asks.denies.symm]

/-- A check that admits is the last one. -/
theorem attempt_of_admitted {n : Nat} (admitted : check endpoint major c n l = (.allowed, after))
    (left : Nat) :
    attempt endpoint major c n l left =
      (send endpoint major after c.exchange).behind [.checked .allowed] := by
  rw [attempt]
  simp [admitted, delayFor]

theorem attempt_of_exhausted {n : Nat} (checked : check endpoint major c n l = (answer, after))
    (asked : delayFor after (c.checkedAt n) answer = some delay) :
    attempt endpoint major c n l 0 =
      ⟨.error (.rateLimited endpoint (some delay)), [.checked answer], after⟩ := by
  rw [attempt]
  simp [checked, asked]

theorem attempt_of_denied {n left : Nat} (checked : check endpoint major c n l = (answer, after))
    (asked : delayFor after (c.checkedAt n) answer = some delay) :
    attempt endpoint major c n l (left + 1) =
      (attempt endpoint major c (n + 1) after left).behind
        [.checked answer, .waited (max delay shortestWait)] := by
  rw [attempt]
  simp [checked, asked]

theorem ended_of_admitted {most n : Nat} {steps : List RequestStep}
    (denied : Denied endpoint major c start n l steps) (within : n ≤ most)
    (admitted : check endpoint major c n l = (.allowed, after)) (left : Nat) :
    Ended endpoint major c start most n ((attempt endpoint major c n l left).behind steps) := by
  rw [attempt_of_admitted admitted]
  cases came : c.exchange with
  | answered r now => exact .answered denied within admitted came
  | broken detail => exact .broken denied within admitted came

/-- Behind denials that leave waits, a request ends as it may. -/
theorem attempt_ended {n left : Nat} {steps : List RequestStep}
    (denied : Denied endpoint major c start n l steps) :
    ∃ k ≤ n + left, Ended endpoint major c start (n + left) k
      ((attempt endpoint major c n l left).behind steps) := by
  induction left generalizing n l steps with
  | zero =>
    rcases checked : check endpoint major c n l with ⟨answer, after⟩
    refine ⟨n, Nat.le_refl n, ?_⟩
    cases asked : delayFor after (c.checkedAt n) answer with
    | none =>
      obtain rfl := (delayFor_eq_none_iff ..).mp asked
      exact ended_of_admitted denied (Nat.le_refl n) checked 0
    | some delay =>
      rw [attempt_of_exhausted checked asked]
      exact .refused denied checked (asksFor_of_delay asked)
  | succ left ih =>
    rcases checked : check endpoint major c n l with ⟨answer, after⟩
    cases asked : delayFor after (c.checkedAt n) answer with
    | none =>
      obtain rfl := (delayFor_eq_none_iff ..).mp asked
      have within : n ≤ n + (left + 1) := by omega
      exact ⟨n, within, ended_of_admitted denied within checked _⟩
    | some delay =>
      have longer := denied.again checked (asksFor_of_delay asked)
      obtain ⟨k, within, ended⟩ := ih longer
      have budget : n + 1 + left = n + (left + 1) := by omega
      rw [attempt_of_denied checked asked]
      rw [budget] at within ended
      refine ⟨k, within, ?_⟩
      simpa only [Outcome.behind, List.append_assoc, shortestWait] using ended

/-- What a request that has ended did how often. -/
theorem Ended.counts {most k : Nat} {o : Outcome} (ended : Ended endpoint major c start most k o) :
    o.steps.countP RequestStep.isCheck = k + 1 ∧ o.steps.countP RequestStep.isWait = k ∧
      o.steps.count .sent = o.steps.count .built ∧
      o.steps.count .sent = (if .checked .allowed ∈ o.steps then 1 else 0) ∧
      o.steps.countP RequestStep.isFeed = (if o.result.isOk then 1 else 0) := by
  cases ended with
  | answered denied within admitted came =>
    obtain ⟨checks, waits, unfed, unsent, unbuilt, _⟩ := denied.counts
    simp [List.countP_append, List.count_append, checks, waits, unfed, unsent, unbuilt,
      List.countP_cons, RequestStep.isCheck, RequestStep.isWait, RequestStep.isFeed, Except.isOk,
      Except.toBool]
  | broken denied within admitted came =>
    obtain ⟨checks, waits, unfed, unsent, unbuilt, _⟩ := denied.counts
    simp [List.countP_append, List.count_append, checks, waits, unfed, unsent, unbuilt,
      List.countP_cons, RequestStep.isCheck, RequestStep.isWait, RequestStep.isFeed, Except.isOk,
      Except.toBool]
  | refused denied last asks =>
    obtain ⟨checks, waits, unfed, unsent, unbuilt, unadmitted⟩ := denied.counts
    simp [List.countP_append, List.count_append, checks, waits, unfed, unsent, unbuilt, unadmitted,
      List.countP_cons, RequestStep.isCheck, RequestStep.isWait, RequestStep.isFeed, Except.isOk,
      Except.toBool, asks.denies.symm]

/-- The counter never wraps around, so its width does not matter. -/
theorem attemptInWords_eq {most waits : UInt32} {left : Nat}
    (within : waits.toNat + left = most.toNat) (l : Limiter) :
    attemptInWords endpoint major c most waits l = attempt endpoint major c waits.toNat l left := by
  induction left generalizing waits l with
  | zero =>
    have exhausted : most ≤ waits := Nat.le_of_eq within.symm
    rcases checked : check endpoint major c waits.toNat l with ⟨answer, after⟩
    rw [attemptInWords, attempt]
    cases asked : delayFor after (c.checkedAt waits.toNat) answer <;>
      simp [checked, asked, exhausted]
  | succ left ih =>
    have below : waits.toNat < most.toNat := by omega
    have more : ¬ most ≤ waits := Nat.not_le.mpr below
    have next := toNat_next more
    have later := @ih (waits + 1) (by omega)
    rcases checked : check endpoint major c waits.toNat l with ⟨answer, after⟩
    rw [attemptInWords, attempt]
    cases asked : delayFor after (c.checkedAt waits.toNat) answer with
    | none => simp [checked, asked]
    | some delay => simp [checked, asked, more, later, next]

/-- Whatever other callers make of the limiter, a request is checked once more often than it waits, and
    it waits no more often than it may.  It is built and sent once if the last check admits it, and
    otherwise not at all; only a response is fed back, and that once.  A counter of the waits that has
    32 bits comes to the same for every limit that they hold. -/
theorem request_goes_out_once_admitted (client : Client) (endpoint : String) (major : Nat)
    (c : Course) :
    let o := client.execute endpoint major c
    let most := client.settings.maxRetries
    (∃ k ≤ most, Ended endpoint major c client.limiter most k o ∧
        o.steps.countP RequestStep.isCheck = k + 1 ∧ o.steps.countP RequestStep.isWait = k ∧
        o.steps.count .sent = o.steps.count .built ∧
        o.steps.count .sent = (if .checked .allowed ∈ o.steps then 1 else 0) ∧
        o.steps.countP RequestStep.isFeed = (if o.result.isOk then 1 else 0)) ∧
      ∀ words : UInt32, most = words.toNat →
        o = attemptInWords endpoint major c words 0 client.limiter := by
  intro o most
  constructor
  · have unasked : Denied endpoint major c client.limiter 0 client.limiter [] := .fresh
    have reached : ∃ k ≤ 0 + most, Ended endpoint major c client.limiter (0 + most) k o :=
      attempt_ended unasked
    rw [Nat.zero_add] at reached
    obtain ⟨k, within, ended⟩ := reached
    exact ⟨k, within, ended, ended.counts⟩
  · intro words same
    have counted : (0 : UInt32).toNat + most = words.toNat := by
      rw [same]
      exact Nat.zero_add _
    exact (attemptInWords_eq counted client.limiter).symm

/-- A block ends while the request waits, and no answer comes to what is sent then. -/
theorem blocked_request_goes_out_behind_block :
    let client : Client := ⟨{ token := "secret", maxRetries := 1 }, ⟨.empty, some 1500000000⟩⟩
    let c : Course := ⟨fun n => n * 1500000000, fun _ => id, fun _ => id, .broken "no answer"⟩
    let o := client.execute "GET /gateway" 0 c
    client.settings.maxRetries = (1 : UInt32).toNat ∧
      o = attemptInWords "GET /gateway" 0 c 1 0 client.limiter ∧
      o.steps = [.checked .globallyBlocked, .waited 1500000000, .checked .allowed, .built, .sent] ∧
      ∃ k ≤ 1, Ended "GET /gateway" 0 c client.limiter 1 k o ∧
        o.steps.countP RequestStep.isCheck = k + 1 := by
  intro client c o
  have limit : client.settings.maxRetries = (1 : UInt32).toNat := rfl
  obtain ⟨⟨k, within, ended, checks, _⟩, inWords⟩ :=
    request_goes_out_once_admitted client "GET /gateway" 0 c
  exact ⟨limit, inWords 1 limit, by decide, k, within, ended, checks⟩

end Client
end SessionFleet
