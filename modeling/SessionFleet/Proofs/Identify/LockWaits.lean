import SessionFleet.Proofs.Identify.OtherBuckets
/- The waits for a lock one by one.  A waiter tries at even intervals from when it came; it is in line
   until a try of its own is granted or it gives up. -/
namespace SessionFleet

section
variable (q : LockTurns)

def LockTurns.waiter? (ticket : Nat) : Option LockWaiter :=
  q.waiting.find? fun w => w.ticket = ticket

theorem LockTurns.waiter?_join (ticket shard : Nat) (now : Instant) (other : Nat) :
    (q.join ticket shard now).waiter? other =
      (q.waiter? other).or (if ticket = other then some ⟨ticket, shard, now⟩ else none) := by
  simp only [join, waiter?, List.find?_append, List.find?_singleton, decide_eq_true_eq]

theorem LockTurns.waiter?_abandon (ticket other : Nat) :
    (q.abandon ticket).waiter? other = if ticket = other then none else q.waiter? other := by
  simp only [abandon, waiter?, List.find?_filter]
  split
  · rename_i same
    simp [same]
  · rename_i differ
    congr 1
    funext w
    by_cases here : w.ticket = other
    · simp [here, Ne.symm differ]
    · simp [here]

theorem LockTurns.waiter?_answered (w : LockWaiter) (reply : StoreReply) (now : Instant) (other : Nat) :
    (q.answered w reply now).2.waiter? other =
      if w.ticket = other then
        if reply = .acquired then none else some { w with nextTry := now + retryInterval }
      else q.waiter? other := by
  have left := q.waiter?_abandon w.ticket other
  rw [waiter?, SharedLocks.answered_waiting, List.find?_append]
  rw [waiter?] at left
  rw [left]
  by_cases own : w.ticket = other
  · by_cases acquired : reply = .acquired <;> simp [own, acquired]
  · by_cases acquired : reply = .acquired <;> simp [own, acquired]

end

namespace SharedLocks

variable {l : SharedLocks} {buckets i ticket : Nat}

theorem Sound.find? {count : Nat} {q : LockTurns} (sound : Sound buckets count q) {w : LockWaiter}
    (member : w ∈ q.waiting) {p : LockWaiter → Bool} (holds : p w = true)
    (only : ∀ v, p v = true → v.ticket = w.ticket) : q.waiting.find? p = some w := by
  cases found : q.waiting.find? p with
  | none => exact absurd holds (List.find?_eq_none.mp found w member)
  | some v =>
    have same := only v (List.find?_some found)
    rw [List.inj_on_of_nodup_map sound.apart (List.mem_of_find?_eq_some found) member same]

theorem Sound.waiter? {count : Nat} {q : LockTurns} (sound : Sound buckets count q) {w : LockWaiter}
    (member : w ∈ q.waiting) : q.waiter? w.ticket = some w :=
  sound.find? member (by simp) (by simp)

theorem Sound.waiter?_count {count : Nat} {q : LockTurns} (sound : Sound buckets count q) :
    q.waiter? count = none := by
  apply List.find?_eq_none.mpr
  intro w member
  have issued := sound.issued w member
  simp [Nat.ne_of_lt issued]

def triesOf (i ticket : Nat) (ts : List LockTry) : List LockTry :=
  ts.filter fun t => t.queue = i ∧ t.ticket = ticket

/-- What an event means to one waiter. -/
inductive Touch (l : SharedLocks) (i ticket : Nat) (e : Span × LockEvent) : Prop
  | nothing (idle : triesOf i ticket (l.step e).1 = [])
      (same : ((l.step e).2.queues i).waiter? ticket = (l.queues i).waiter? ticket)
  | leaves (given : e.2 = .abandon i ticket) (idle : triesOf i ticket (l.step e).1 = [])
      (gone : ((l.step e).2.queues i).waiter? ticket = none)
  | tries (w : LockWaiter) (t : LockTry) (waited : (l.queues i).waiter? ticket = some w)
      (one : triesOf i ticket (l.step e).1 = [t]) (due : t.when_ = w.nextTry) (shard : t.shard = w.shard)
      (left : ((l.step e).2.queues i).waiter? ticket =
        if t.granted then none else some { w with nextTry := t.when_ + LockTurns.retryInterval })

theorem setQueue_waiter? (l : SharedLocks) (j : Nat) (q : LockTurns) (i ticket : Nat) :
    ((l.setQueue j q).queues i).waiter? ticket =
      if i = j then q.waiter? ticket else (l.queues i).waiter? ticket := by
  by_cases here : i = j
  · rw [if_pos here, here, setQueue_self]
  · rw [if_neg here, setQueue_other l here]

/-- A try is one of the waiter that it names, and nothing to any other. -/
theorem attempt_touch (orderly : Orderly buckets l) (j : Nat) {w : LockWaiter}
    (member : w ∈ (l.queues j).waiting) (mood : StoreMood) (i ticket : Nat) :
    let t := (l.attempt j w mood).1
    let later := ((l.attempt j w mood).2.queues i).waiter? ticket
    if j = i ∧ w.ticket = ticket then
      (l.queues i).waiter? ticket = some w ∧
        later = if t.granted then none else some { w with nextTry := t.when_ + LockTurns.retryInterval }
    else later = (l.queues i).waiter? ticket := by
  intro t later
  have came : later = if i = j then ((l.queues j).answered w t.reply l.clock).2.waiter? ticket
      else (l.queues i).waiter? ticket := setQueue_waiter? _ j _ i ticket
  rw [LockTurns.waiter?_answered] at came
  have granted : t.granted = true ↔ t.reply = .acquired := answered_granted ..
  by_cases here : j = i
  · subst here
    by_cases own : w.ticket = ticket
    · subst own
      simp only [and_self, if_true] at came ⊢
      refine ⟨(orderly j).waiter? member, ?_⟩
      simp only [granted]
      exact came
    · simpa [own] using came
  · simpa [here, Ne.symm here] using came

theorem step_touch (orderly : Orderly buckets l) (issued : ticket < l.count) (e : Span × LockEvent) :
    Touch l i ticket e := by
  obtain ⟨d, e⟩ := e
  cases e with
  | pass => exact .nothing rfl rfl
  | join j shard =>
    -- whoever joins gets a ticket that nobody has had
    refine .nothing rfl ((setQueue_waiter? _ j _ i ticket).trans ?_)
    have fresh : l.count ≠ ticket := (Nat.ne_of_lt issued).symm
    split
    · rename_i here
      rw [LockTurns.waiter?_join, here]
      simp [elapse, fresh]
    · rfl
  | abandon j k =>
    have came := setQueue_waiter? (l.elapse d) j ((l.queues j).abandon k) i ticket
    rw [LockTurns.waiter?_abandon] at came
    by_cases own : i = j ∧ k = ticket
    · obtain ⟨rfl, rfl⟩ := own
      rw [if_pos rfl, if_pos rfl] at came
      exact .leaves rfl rfl came
    · refine .nothing rfl (came.trans ?_)
      split
      · rename_i here
        have other : k ≠ ticket := fun same => own ⟨here, same⟩
        rw [if_neg other, here]
      · rfl
  | attempt j k mood =>
    rcases meet_attempt (l.elapse d) j k mood with ⟨_, idle⟩ | ⟨w, due, done⟩
    · have nobody : (l.step (d, .attempt j k mood)).1 = [] := by simp only [step, idle]
      refine .nothing (congrArg _ nobody) ?_
      simp only [step, idle]
      rfl
    · obtain ⟨member, named, now⟩ := due?_some due
      have elapsed : Orderly buckets (l.elapse d) := orderly
      have touched := attempt_touch elapsed j member mood i ticket
      have tried : (l.step (d, .attempt j k mood)).1 = [((l.elapse d).attempt j w mood).1] := by
        simp only [step, done]
      have after : ((l.step (d, .attempt j k mood)).2.queues i).waiter? ticket =
          (((l.elapse d).attempt j w mood).2.queues i).waiter? ticket := by
        simp only [step, done]
      have whose : triesOf i ticket [((l.elapse d).attempt j w mood).1] =
          if j = i ∧ w.ticket = ticket then [((l.elapse d).attempt j w mood).1] else [] := by
        simp only [triesOf, List.filter_singleton, attempt]
        simp
      by_cases own : j = i ∧ w.ticket = ticket
      · rw [if_pos own] at touched whose
        exact .tries w _ touched.1 ((congrArg _ tried).trans whose) now.symm rfl (after.trans touched.2)
      · rw [if_neg own] at touched whose
        exact .nothing ((congrArg _ tried).trans whose) (after.trans touched)

/- The course of a wait. -/

def evenly (joined : Instant) (n : Nat) : List Instant :=
  (List.range n).map fun k => joined + (k * Span.ofMillis 500 : Span)

/-- Where a wait stands after its tries: it goes on, it was granted by the last of them, or its waiter
    has left. -/
inductive Standing (ticket shard : Nat) (joined : Instant) (left : Prop) :
    List LockTry → Option LockWaiter → Prop
  | waits {ts} (denied : ∀ t ∈ ts, t.granted = false) : Standing ticket shard joined left ts
      (some ⟨ticket, shard, joined + (ts.length * Span.ofMillis 500 : Span)⟩)
  | granted {ts t} (denied : ∀ t ∈ ts, t.granted = false) (last : t.granted = true) :
      Standing ticket shard joined left (ts ++ [t]) none
  | gaveUp {ts} (denied : ∀ t ∈ ts, t.granted = false) (gone : left) :
      Standing ticket shard joined left ts none

structure Waited (i ticket shard : Nat) (joined : Instant) (later : List (Span × LockEvent))
    (ts : List LockTry) (l : SharedLocks) : Prop where
  whose : ∀ t ∈ ts, t.shard = shard
  times : ts.map LockTry.when_ = evenly joined ts.length
  stands : Standing ticket shard joined (∃ d, (d, .abandon i ticket) ∈ later) ts
    ((l.queues i).waiter? ticket)

section
variable {shard : Nat} {joined : Instant} {left now : Prop} {ts : List LockTry} {w : Option LockWaiter}

theorem Standing.first : Standing ticket shard joined left [] (some ⟨ticket, shard, joined⟩) := by
  have stands : Standing ticket shard joined left [] _ := .waits (by simp)
  simpa using stands

theorem Standing.mono (stands : Standing ticket shard joined left ts w) (more : left → now) :
    Standing ticket shard joined now ts w := by
  cases stands with
  | waits denied => exact .waits denied
  | granted denied last => exact .granted denied last
  | gaveUp denied gone => exact .gaveUp denied (more gone)

theorem Standing.leave (stands : Standing ticket shard joined left ts w) (gone : left) :
    Standing ticket shard joined left ts none := by
  cases stands with
  | waits denied => exact .gaveUp denied gone
  | granted denied last => exact .granted denied last
  | gaveUp denied gone => exact .gaveUp denied gone

theorem Standing.again {v : LockWaiter} (stands : Standing ticket shard joined left ts (some v))
    {t : LockTry} (due : t.when_ = v.nextTry) :
    t.when_ = joined + (ts.length * Span.ofMillis 500 : Span) ∧ v.shard = shard ∧
      Standing ticket shard joined left (ts ++ [t])
        (if t.granted then none else some { v with nextTry := t.when_ + LockTurns.retryInterval }) := by
  cases stands with
  | waits denied =>
    refine ⟨due, rfl, ?_⟩
    cases answer : t.granted with
    | true => exact .granted denied answer
    | false =>
      have all : ∀ u ∈ ts ++ [t], u.granted = false := by
        rw [List.forall_mem_append, List.forall_mem_singleton]
        exact ⟨denied, answer⟩
      have next : t.when_ + (LockTurns.retryInterval : Int) =
          joined + ((ts ++ [t]).length * Span.ofMillis 500 : Span) := by
        rw [due, List.length_append, List.length_singleton, Nat.succ_mul, Int.natCast_add]
        exact Int.add_assoc ..
      simp only [Bool.false_eq_true, if_false, next]
      exact .waits all

end

theorem Waited.step {shard : Nat} {joined : Instant} {later : List (Span × LockEvent)}
    {ts : List LockTry} (waited : Waited i ticket shard joined later ts l) (orderly : Orderly buckets l)
    (issued : ticket < l.count) (e : Span × LockEvent) :
    Waited i ticket shard joined (later ++ [e]) (ts ++ triesOf i ticket (l.step e).1) (l.step e).2 := by
  have more : (∃ d, (d, .abandon i ticket) ∈ later) → ∃ d, (d, .abandon i ticket) ∈ later ++ [e] := by
    rintro ⟨d, member⟩
    exact ⟨d, List.mem_append_left _ member⟩
  have stands := waited.stands.mono more
  cases step_touch (i := i) orderly issued e with
  | nothing idle same =>
    rw [idle, List.append_nil]
    rw [← same] at stands
    exact ⟨waited.whose, waited.times, stands⟩
  | leaves given idle gone =>
    rw [idle, List.append_nil]
    have left : ∃ d, (d, .abandon i ticket) ∈ later ++ [e] := ⟨e.1, by simp [← given]⟩
    have stands := stands.leave left
    rw [← gone] at stands
    exact ⟨waited.whose, waited.times, stands⟩
  | tries w t found one due whose left =>
    rw [found] at stands
    obtain ⟨when_, shard, stands⟩ := stands.again due
    rw [← left] at stands
    rw [one]
    refine ⟨?_, ?_, stands⟩
    · rw [List.forall_mem_append, List.forall_mem_singleton]
      exact ⟨waited.whose, whose.trans shard⟩
    · rw [List.map_append, waited.times, List.length_append, evenly, evenly, List.length_singleton,
        List.range_succ, List.map_append]
      simp [when_]

theorem Waited.run {shard : Nat} {joined : Instant} {since : List (Span × LockEvent)}
    {ts : List LockTry} (waited : Waited i ticket shard joined since ts l) (orderly : Orderly buckets l)
    (issued : ticket < l.count) (later : List (Span × LockEvent)) :
    Waited i ticket shard joined (since ++ later) (ts ++ triesOf i ticket (l.tries later))
      (l.after later) := by
  induction later generalizing l since ts with
  | nil => simpa [tries, triesOf, after] using waited
  | cons e rest ih =>
    have next : ticket < (l.step e).2.count := by
      rw [step_count]
      exact Nat.lt_succ_of_lt issued
    have run := ih (waited.step orderly issued e) (step_orderly orderly e) next
    rw [List.append_assoc, List.append_assoc, triesOf, triesOf, ← List.filter_append] at run
    exact run

theorem join_waited (orderly : Orderly buckets l) (d : Span) (i shard : Nat) :
    Waited i l.count shard (l.clock + d) [] [] (l.step (d, .join i shard)).2 := by
  have waits : ((l.step (d, .join i shard)).2.queues i).waiter? l.count =
      some ⟨l.count, shard, l.clock + d⟩ := by
    have came := setQueue_waiter? (l.elapse d) i
      ((l.queues i).join l.count shard (l.clock + d)) i l.count
    rw [if_pos rfl, LockTurns.waiter?_join, (orderly i).waiter?_count, if_pos rfl] at came
    exact came
  refine ⟨by simp, rfl, ?_⟩
  rw [waits]
  exact .first

theorem tries_issued (concurrency : Nat) (keys : KeyStore) (clock : Instant)
    (events : List (Span × LockEvent)) :
    ∀ t ∈ (start concurrency keys clock).tries events, t.ticket < events.length := by
  induction events using List.reverseRecOn with
  | nil => exact fun t member => nomatch member
  | append_singleton events e ih =>
    intro t member
    rw [tries_concat] at member
    rw [List.length_append, List.length_singleton]
    rcases List.mem_append.mp member with before | new
    · exact Nat.lt_succ_of_lt (ih t before)
    · have orderly := after_orderly (start_orderly concurrency keys clock) events
      have count := start_count concurrency keys clock events
      rcases step_cases ((start concurrency keys clock).after events) e with
        ⟨none, _⟩ | ⟨i, w, mood, there, one, _⟩
      · rw [none] at new
        cases new
      · rw [one] at new
        rw [List.mem_singleton.mp new, ← count]
        exact Nat.lt_succ_of_lt ((orderly i).issued w there)

theorem wait_course (concurrency : Nat) (keys : KeyStore) (clock : Instant)
    (before : List (Span × LockEvent)) (d : Span) (i shard : Nat) (later : List (Span × LockEvent)) :
    let l := start concurrency keys clock
    let events := before ++ (d, .join i shard) :: later
    Waited i before.length shard ((l.after before).clock + d) later
      (triesOf i before.length (l.tries events)) (l.after events) := by
  intro l events
  have orderly := after_orderly (start_orderly concurrency keys clock) before
  have count : (l.after before).count = before.length := start_count concurrency keys clock before
  have waited := join_waited orderly d i shard
  have issued : (l.after before).count < ((l.after before).step (d, .join i shard)).2.count := by
    rw [step_count]
    exact Nat.lt_succ_self _
  have run := waited.run (step_orderly orderly _) issued later
  have earlier : triesOf i before.length (l.tries before) = [] := by
    apply List.filter_eq_nil_iff.mpr
    intro t member
    have old := Nat.ne_of_lt (tries_issued concurrency keys clock before t member)
    simp [old]
  have tries : l.tries events = l.tries before ++ ((l.after before).step (d, .join i shard)).2.tries later :=
    tries_append ..
  have after : l.after events = ((l.after before).step (d, .join i shard)).2.after later :=
    after_append ..
  rw [count] at run
  rw [tries, after, triesOf, List.filter_append]
  rw [triesOf] at earlier
  rw [earlier]
  exact run

theorem due?_of_waiter? (orderly : Orderly buckets l) {w : LockWaiter}
    (waits : (l.queues i).waiter? ticket = some w) (now : w.nextTry = l.clock) :
    l.due? i ticket = some w := by
  have named : w.ticket = ticket := by simpa using List.find?_some waits
  apply (orderly i).find? (List.mem_of_find?_eq_some waits)
  · simp [named, now]
  · intro v both
    simp only [decide_eq_true_eq] at both
    exact both.1.trans named.symm

/-- Queues that share locks.  Only a key that was created grants a turn, and it is created when nothing
    granted within the last six seconds holds it and the store answers; each wait goes its own way. -/
theorem turns_by_lock (concurrency : Nat) (keys : KeyStore) (clock : Instant)
    (events : List (Span × LockEvent)) :
    let buckets := max concurrency 1
    let l := start concurrency keys clock
    let now := l.after events
    (∀ t ∈ l.tries events, t.key = "identify:" ++ toString (t.shard % buckets) ∧
      (t.granted = true ↔ t.reply = .acquired)) ∧
    (∀ e, ∀ t ∈ (now.step e).1, t.when_ = now.clock + e.1 ∧
      (t.granted = true ↔ t.mood = .answers ∧ free keys t.key t.when_ ∧
        ∀ g ∈ l.tries events, g.granted = true → g.key = t.key →
          g.when_ + Span.ofSeconds 6 ≤ t.when_)) ∧
    (((l.tries events).filter (·.granted)).Pairwise fun (g h : LockTry) =>
      g.shard % buckets = h.shard % buckets → g.when_ + Span.ofSeconds 6 ≤ h.when_) ∧
    (∀ bucket, l.tries (events.map fun e => (e.1, e.2.only buckets bucket)) =
      (l.tries events).filter fun t => t.shard % buckets = bucket) ∧
    (∀ (before later : List (Span × LockEvent)) (d : Span) (i shard : Nat),
      events = before ++ (d, .join i shard) :: later →
      Waited i before.length shard ((l.after before).clock + d) later
        (triesOf i before.length (l.tries events)) now) ∧
    (∀ (i ticket : Nat) (w : LockWaiter) (d : Span) (mood : StoreMood),
      (now.queues i).waiter? ticket = some w → w.nextTry = now.clock + d →
        ∃ t, (now.step (d, .attempt i ticket mood)).1 = [t] ∧ t.queue = i ∧ t.ticket = ticket ∧
          t.mood = mood) := by
  intro buckets l now
  have orderly := start_orderly concurrency keys clock
  have reached : Orderly buckets now := after_orderly orderly events
  refine ⟨?_, ?_, ?_, ?_, ?_, ?_⟩
  · exact tries_honest concurrency keys clock events
  · intro e t member
    obtain ⟨when_, honest⟩ := step_honest reached e t member
    have ledger := run_ledger concurrency keys clock events
    exact ⟨when_, honest.granted.trans (step_acquired_iff reached ledger member)⟩
  · exact grants_apart concurrency keys clock events
  · intro bucket
    have alone : Mirrors buckets bucket l l := ⟨rfl, rfl, rfl, fun i => by simp [l, start, LockTurns.create]⟩
    exact alone.tries orderly orderly events
  · intro before later d i shard split
    have course := wait_course concurrency keys clock before d i shard later
    rw [← split] at course
    exact course
  · intro i ticket w d mood waits due
    have found := due?_of_waiter? (l := now.elapse d) reached waits due
    have named := (due?_some found).2.1
    refine ⟨((now.elapse d).attempt i w mood).1, ?_, rfl, named, rfl⟩
    simp [step, meet, found]

/-- A foreign lock is denied, the store fails, and a second later the lock is free. -/
theorem expired_lock_is_granted :
    let half := Span.ofMillis 500
    let events : List (Span × LockEvent) := [(0, .join 0 4), (0, .attempt 0 0 .answers),
      (half, .attempt 0 0 .fails), (half, .attempt 0 0 .answers), (0, .join 1 6)]
    let l := start 2 [("identify:0", Span.ofSeconds 1)] 0
    (l.tries events).map (·.reply) = [.held, .failed, .acquired] ∧
      Waited 0 0 4 0 events.tail (triesOf 0 0 (l.tries events)) (l.after events) ∧
      (∃ t, ((l.after events).step (0, .attempt 1 4 .answers)).1 = [t] ∧ t.queue = 1 ∧ t.ticket = 4 ∧
        t.mood = .answers) := by
  intro half events l
  obtain ⟨_, _, _, _, course, due⟩ := turns_by_lock 2 [("identify:0", Span.ofSeconds 1)] 0 events
  refine ⟨by decide +kernel, course [] events.tail 0 0 4 rfl, ?_⟩
  exact due 1 4 ⟨4, 6, Span.ofSeconds 1⟩ 0 .answers (by decide +kernel) (by decide +kernel)

end SharedLocks
end SessionFleet
