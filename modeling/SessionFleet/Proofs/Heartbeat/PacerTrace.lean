import Mathlib.Data.List.Induction
import Mathlib.Data.List.TakeWhile
import SessionFleet.Heartbeat.Course
import SessionFleet.Proofs.Heartbeat.ScheduleRuns
/- A pacer that is started and stopped at any instants, with calls that return at once.  The calls of
   a start go by its own instant, interval and first delay, up to the next start or stop, and nothing
   calls besides. -/
namespace SessionFleet

/-- What can be asked of a pacer, and time that passes. -/
inductive PacerEvent where
  | start (interval first : Span)
  | stop
  | elapse (time : Span)
  deriving DecidableEq, Repr

namespace PacerEvent

def time : PacerEvent → Span
  | .elapse d => d
  | .start _ _ | .stop => 0

def isStart : PacerEvent → Bool
  | .start _ _ => true
  | .stop | .elapse _ => false

/-- A start or a stop. -/
def orders : PacerEvent → Bool
  | .start _ _ | .stop => true
  | .elapse _ => false

/-- What is to run from here on. -/
def interval? : PacerEvent → Option Span
  | .start interval _ => some interval
  | .stop | .elapse _ => none

/-- A schedule needs an interval. -/
def Spaced : PacerEvent → Prop
  | .start interval _ => 0 < interval
  | .stop | .elapse _ => True

instance (e : PacerEvent) : Decidable e.Spaced :=
  match e with
  | .start interval _ => inferInstanceAs (Decidable (0 < interval))
  | .stop | .elapse _ => isTrue trivial

/-- The instant after a history that starts at 0. -/
def clock : List PacerEvent → Instant
  | [] => 0
  | e :: later => e.time + clock later

def starts (history : List PacerEvent) : Nat := history.countP isStart

/-- The interval of the last start, if no stop came after it. -/
def running? (history : List PacerEvent) : Option Span :=
  (history.filter orders).getLast?.bind interval?

/-- The events before the first start or stop. -/
def undisturbed (history : List PacerEvent) : List PacerEvent := history.takeWhile fun e => !e.orders

variable {history : List PacerEvent}

theorem undisturbed_quiet (history : List PacerEvent) :
    ∀ e ∈ undisturbed history, e.orders = false := by
  intro e member
  have kept := List.mem_takeWhile_imp member
  simpa using kept

/-- A history is undisturbed, or there is a first start or stop in it. -/
theorem undisturbed_split (history : List PacerEvent) :
    history = undisturbed history ∨
      ∃ order later, history = undisturbed history ++ order :: later ∧ order.orders = true := by
  have whole := List.takeWhile_append_dropWhile (p := fun e : PacerEvent => !e.orders) (l := history)
  have stops := List.head?_dropWhile_not (fun e : PacerEvent => !e.orders) history
  cases rest : history.dropWhile (fun e => !e.orders) with
  | nil =>
    rw [rest, List.append_nil] at whole
    exact Or.inl whole.symm
  | cons order later =>
    rw [rest] at whole stops
    exact Or.inr ⟨order, later, whole.symm, by simpa using stops⟩

theorem clock_cons (e : PacerEvent) (later : List PacerEvent) :
    clock (e :: later) = e.time + clock later := rfl

theorem clock_nonneg (history : List PacerEvent) : 0 ≤ clock history := by
  induction history with
  | nil => exact Int.le_refl 0
  | cons e rest ih => exact Int.add_nonneg (Int.natCast_nonneg e.time) ih

theorem starts_cons (e : PacerEvent) (later : List PacerEvent) :
    starts (e :: later) = (if e.isStart then 1 else 0) + starts later := by
  simp [starts, List.countP_cons, Nat.add_comm]

theorem starts_of_quiet (quiet : ∀ e ∈ history, e.orders = false) : starts history = 0 := by
  apply List.countP_eq_zero.mpr
  intro e member start
  have order := quiet e member
  cases e with
  | start interval first => cases order
  | stop | elapse d => cases start

theorem running?_concat (history : List PacerEvent) (e : PacerEvent) :
    running? (history ++ [e]) = if e.orders then e.interval? else running? history := by
  cases order : e.orders <;> simp [running?, order]

end PacerEvent

namespace PacerCourse

variable {c : PacerCourse} {e : PacerEvent} {history : List PacerEvent} {interval : Span}
  {due : Instant}

def meet (c : PacerCourse) : PacerEvent → List PacedCall × PacerCourse
  | .start interval first => ([], c.startAfter interval first (.takes 0))
  | .stop => ([], c.stop)
  | .elapse d => c.elapse d

def after (c : PacerCourse) (history : List PacerEvent) : PacerCourse :=
  history.foldl (fun c e => (c.meet e).2) c

/-- Every call of a run, in order. -/
def calls (c : PacerCourse) : List PacerEvent → List PacedCall
  | [] => []
  | e :: rest => (c.meet e).1 ++ (c.meet e).2.calls rest

/-- A call of the start with this number can still come. -/
def Alive (c : PacerCourse) (n : Nat) : Prop :=
  ∃ d, ∃ call ∈ (c.elapse d).1, call.start = n

theorem after_append (c : PacerCourse) (before later : List PacerEvent) :
    c.after (before ++ later) = (c.after before).after later :=
  List.foldl_append ..

theorem calls_append (c : PacerCourse) (before later : List PacerEvent) :
    c.calls (before ++ later) = c.calls before ++ (c.after before).calls later := by
  induction before generalizing c with
  | nil => rfl
  | cons e rest ih =>
    simp only [List.cons_append, calls, ih, List.append_assoc]
    rfl

/-- Between two events: nothing runs, or a schedule that has no call due. -/
inductive Settled (c : PacerCourse) : Prop where
  | idle (nothing : c.pacer = .idle)
  | steady (interval : Span) (due : Instant) (spaced : 0 < interval)
      (schedule : c.pacer = ⟨some (Schedule.steady interval due)⟩)
      (ahead : c.clock ≤ Instant.ceilMillis due) (begun : 0 < c.starts)

theorem note_kept (c : PacerCourse) (beats : List Beat) :
    (c.note beats).2.pacer = c.pacer ∧ (c.note beats).2.clock = c.clock ∧
      (c.note beats).2.starts = c.starts := by
  induction beats generalizing c with
  | nil => exact ⟨rfl, rfl, rfl⟩
  | cons beat rest ih => cases beat with
    | begun t => exact ih _
    | ended t => exact ih _

theorem note_start (c : PacerCourse) (beats : List Beat) :
    ∀ call ∈ (c.note beats).1, call.start = c.starts - 1 := by
  induction beats generalizing c with
  | nil =>
    intro call member
    cases member
  | cons beat rest ih => cases beat with
    | ended t => exact ih _
    | begun t =>
      intro call member
      rcases List.mem_cons.mp member with first | later
      · rw [first]
      · exact ih { c with lastCall := some t } call later

theorem note_times (c : PacerCourse) (times : List Instant) :
    (c.note (times.flatMap Schedule.beatsAt)).1.map PacedCall.at_ = times := by
  induction times generalizing c with
  | nil => rfl
  | cons t rest ih =>
    simp only [List.flatMap_cons, Schedule.beatsAt, List.cons_append, List.nil_append, note,
      List.map_cons, ih]

theorem elapse_start (c : PacerCourse) (d : Span) :
    ∀ call ∈ (c.elapse d).1, call.start = c.starts - 1 :=
  note_start _ _

theorem elapse_idle (nothing : c.pacer = .idle) (d : Span) :
    c.elapse d = ([], { c with clock := c.clock + d }) := by
  simp only [elapse, runTo, Pacer.run, nothing, Pacer.idle, note]

theorem elapse_steady (spaced : 0 < interval)
    (schedule : c.pacer = ⟨some (Schedule.steady interval due)⟩)
    (ahead : c.clock ≤ Instant.ceilMillis due) (d : Span) :
    ∃ count,
      (c.elapse d).1.map PacedCall.at_ = (List.range count).map (Schedule.callTime due interval) ∧
      (c.elapse d).2.pacer = ⟨some (Schedule.steady interval (due + count * interval))⟩ ∧
      (c.elapse d).2.clock = c.clock + d ∧ (c.elapse d).2.starts = c.starts ∧
      c.clock + d < Schedule.callTime due interval count ∧
      ∀ k, k < count ↔ Schedule.callTime due interval k ≤ c.clock + d := by
  obtain ⟨count, ran, counted⟩ :=
    Schedule.run_steady ahead (Schedule.enough_steady spaced due (c.clock + d))
  have ahead_still : c.clock + d < Schedule.callTime due interval count := by
    rw [← Int.not_le, ← counted]
    exact Nat.lt_irrefl count
  refine ⟨count, ?_, ?_, ?_, ?_, ahead_still, counted⟩
  all_goals simp only [elapse, runTo, Pacer.run, schedule, ran]
  · have times := note_times
      { c with
        pacer := ⟨some (Schedule.steady interval (due + count * interval))⟩
        clock := c.clock + d } ((List.range count).map (Schedule.callTime due interval))
    rw [List.flatMap_map] at times
    exact times
  · rw [(note_kept _ _).1]
  · rw [(note_kept _ _).2.1]
  · rw [(note_kept _ _).2.2]

/-- Calls that return at once do not hold up a stop. -/
theorem stop_settled (settled : c.Settled) : c.stop = { c with pacer := .idle } := by
  have prompt : c.pacer.schedule.bind (·.busyUntil) = none := by
    cases settled with
    | idle nothing =>
      rw [nothing]
      rfl
    | steady interval due spaced schedule ahead begun =>
      rw [schedule]
      rfl
  simp [stop, prompt, Pacer.stop, Pacer.stopsAt]

theorem startAfter_settled (settled : c.Settled) (spaced : 0 < interval) (first : Span) :
    c.startAfter interval first (.takes 0) =
      { c with
        pacer := ⟨some (Schedule.steady interval (c.clock + first))⟩
        starts := c.starts + 1
        lastCall := none } := by
  simp only [startAfter, stop_settled settled, Pacer.start, Schedule.starting_steady spaced]

/-- What one event does to the clock, the count of the starts and what runs. -/
structure Follows (c : PacerCourse) (e : PacerEvent) (calls : List PacedCall) (d : PacerCourse) :
    Prop where
  settled : d.Settled
  clock : d.clock = c.clock + e.time
  starts : d.starts = c.starts + if e.isStart then 1 else 0
  interval : d.pacer.interval? = if e.orders then e.interval? else c.pacer.interval?
  latest : ∀ call ∈ calls, c.pacer.isRunning = true ∧ call.start + 1 = c.starts

theorem meet_follows (settled : c.Settled) (spaced : e.Spaced) :
    Follows c e (c.meet e).1 (c.meet e).2 := by
  cases e with
  | start interval first =>
    simp only [meet, startAfter_settled settled spaced]
    refine ⟨.steady interval (c.clock + first) spaced rfl ?_ (Nat.succ_pos _), ?_, rfl, rfl, ?_⟩
    · exact Int.le_trans (Int.le_add_of_nonneg_right (Int.natCast_nonneg first))
        (Instant.le_ceilMillis _)
    · exact (Int.add_zero c.clock).symm
    · intro call member
      cases member
  | stop =>
    simp only [meet, stop_settled settled]
    refine ⟨.idle rfl, (Int.add_zero c.clock).symm, rfl, rfl, ?_⟩
    intro call member
    cases member
  | elapse d =>
    cases settled with
    | idle nothing =>
      simp only [meet, elapse_idle nothing]
      refine ⟨.idle nothing, rfl, rfl, rfl, ?_⟩
      intro call member
      cases member
    | steady interval due spaced schedule ahead begun =>
      obtain ⟨count, _, next, clock, starts, passed, _⟩ := elapse_steady spaced schedule ahead d
      simp only [meet]
      refine ⟨.steady interval _ spaced next ?_ (by rw [starts]; exact begun), clock, starts, ?_, ?_⟩
      · rw [clock]
        exact Int.le_of_lt passed
      · rw [next]
        simp only [PacerEvent.orders, Bool.false_eq_true, ↓reduceIte, schedule]
        rfl
      · intro call member
        refine ⟨by rw [schedule]; rfl, ?_⟩
        rw [elapse_start c d call member]
        exact Nat.sub_add_cancel begun

/-- A run keeps what one event keeps. -/
theorem after_settled (settled : c.Settled) (spaced : ∀ e ∈ history, e.Spaced) :
    (c.after history).Settled ∧
      (c.after history).clock = c.clock + PacerEvent.clock history ∧
      (c.after history).starts = c.starts + PacerEvent.starts history := by
  induction history generalizing c with
  | nil => exact ⟨settled, (Int.add_zero c.clock).symm, rfl⟩
  | cons e rest ih =>
    obtain ⟨first, others⟩ := List.forall_mem_cons.mp spaced
    have step := meet_follows settled first
    obtain ⟨still, clock, starts⟩ := ih step.settled others
    refine ⟨still, clock.trans ?_, starts.trans ?_⟩
    · rw [step.clock, PacerEvent.clock_cons, Int.add_assoc]
    · rw [step.starts, PacerEvent.starts_cons, Nat.add_assoc]

theorem idle_settled : idle.Settled := .idle rfl

theorem isRunning_eq (c : PacerCourse) : c.pacer.isRunning = c.pacer.interval?.isSome := by
  simp [Pacer.isRunning, Pacer.interval?]

/-- What still runs behind an event without being new there ran before it. -/
theorem Follows.running {d : PacerCourse} {calls : List PacedCall} (step : Follows c e calls d)
    (old : e.isStart = false) (running : d.pacer.isRunning = true) :
    e.orders = false ∧ c.pacer.isRunning = true := by
  rw [isRunning_eq, step.interval] at running
  cases e with
  | start interval first => cases old
  | stop => cases running
  | elapse d => exact ⟨rfl, (isRunning_eq c).trans running⟩

/-- What runs after a history, told by its events. -/
theorem after_interval (spaced : ∀ e ∈ history, e.Spaced) :
    (idle.after history).pacer.interval? = PacerEvent.running? history := by
  induction history using List.reverseRecOn with
  | nil => rfl
  | append_singleton history e ih =>
    obtain ⟨before, last⟩ := List.forall_mem_append.mp spaced
    have step :=
      meet_follows (after_settled idle_settled before).1 (last e (List.mem_singleton_self e))
    have next : idle.after (history ++ [e]) = ((idle.after history).meet e).2 := by
      rw [after_append]
      rfl
    rw [next, step.interval, ih before, PacerEvent.running?_concat]

/-- Calls of a run are of the last start before it or of later ones, and of the former only if this
    is still running. -/
theorem calls_number (settled : c.Settled) (spaced : ∀ e ∈ history, e.Spaced) :
    ∀ call ∈ c.calls history,
      call.start < c.starts + PacerEvent.starts history ∧
        (c.starts ≤ call.start ∨ c.pacer.isRunning = true ∧ call.start + 1 = c.starts) := by
  induction history generalizing c with
  | nil =>
    intro call member
    cases member
  | cons e rest ih =>
    obtain ⟨first, others⟩ := List.forall_mem_cons.mp spaced
    have step := meet_follows settled first
    have total := PacerEvent.starts_cons e rest
    intro call member
    rcases List.mem_append.mp member with now | later
    · obtain ⟨running, number⟩ := step.latest call now
      exact ⟨by omega, Or.inr ⟨running, number⟩⟩
    · obtain ⟨bounded, number⟩ := ih step.settled others call later
      rw [step.starts] at bounded number
      refine ⟨by omega, ?_⟩
      rcases number with newer | ⟨running, number⟩
      · exact Or.inl (by omega)
      · cases new : e.isStart with
        | true =>
          rw [new] at number
          exact Or.inl (by simp only [↓reduceIte] at number; omega)
        | false =>
          rw [new] at number
          exact Or.inr ⟨(step.running new running).2, number⟩

/-- Nothing that was there before a start or a stop calls from there on. -/
theorem calls_behind_order (settled : c.Settled) (order : e.orders = true)
    (spaced : ∀ d ∈ e :: history, d.Spaced) :
    ∀ call ∈ c.calls (e :: history), c.starts ≤ call.start := by
  obtain ⟨first, others⟩ := List.forall_mem_cons.mp spaced
  have step := meet_follows settled first
  intro call member
  rcases List.mem_append.mp member with now | later
  · cases e with
    | start interval first => cases now
    | stop => cases now
    | elapse d => cases order
  · obtain ⟨_, number⟩ := calls_number step.settled others call later
    rw [step.starts] at number
    rcases number with newer | ⟨running, number⟩
    · omega
    · cases new : e.isStart with
      | true =>
        rw [new] at number
        simp only [↓reduceIte] at number
        omega
      | false =>
        have quiet := (step.running new running).1
        rw [quiet] at order
        cases order

/-- A stretch of time in which nothing is asked for. -/
theorem calls_undisturbed (spaced : 0 < interval)
    (schedule : c.pacer = ⟨some (Schedule.steady interval due)⟩)
    (ahead : c.clock ≤ Instant.ceilMillis due) (quiet : ∀ e ∈ history, e.orders = false) :
    ∃ count,
      (c.calls history).map PacedCall.at_ = (List.range count).map (Schedule.callTime due interval) ∧
      ∀ k, (Schedule.callTime due interval k < c.clock + PacerEvent.clock history → k < count) ∧
        (k < count → Schedule.callTime due interval k ≤ c.clock + PacerEvent.clock history) := by
  induction history generalizing c due with
  | nil =>
    refine ⟨0, rfl, ?_⟩
    intro k
    have later := Schedule.callTime_mono (Nat.zero_le k) due interval
    rw [Schedule.callTime_zero] at later
    refine ⟨fun before => ?_, fun none => absurd none (Nat.not_lt_zero k)⟩
    have reached : c.clock ≤ Schedule.callTime due interval k := Int.le_trans ahead later
    exact absurd before (Int.not_lt.mpr (by simpa [PacerEvent.clock] using reached))
  | cons e rest ih =>
    obtain ⟨first, others⟩ := List.forall_mem_cons.mp quiet
    cases e with
    | start interval first => cases first
    | stop => cases first
    | elapse d =>
      obtain ⟨count, called, next, clock, _, passed, counted⟩ :=
        elapse_steady spaced schedule ahead d
      have ahead_next : (c.elapse d).2.clock ≤ Instant.ceilMillis (due + count * interval) := by
        rw [clock]
        exact Int.le_of_lt passed
      obtain ⟨more, called_later, counted_later⟩ := ih next ahead_next others
      have total : c.clock + PacerEvent.clock (.elapse d :: rest) =
          (c.elapse d).2.clock + PacerEvent.clock rest := by
        rw [clock, PacerEvent.clock_cons, Int.add_assoc]
        rfl
      refine ⟨count + more, ?_, ?_⟩
      · have split : c.calls (.elapse d :: rest) = (c.elapse d).1 ++ (c.elapse d).2.calls rest := rfl
        have shifted : Schedule.callTime (due + count * interval) interval =
            Schedule.callTime due interval ∘ (count + ·) := by
          funext k
          exact Schedule.callTime_add due interval count k
        rw [split, List.map_append, called, called_later, List.range_add, List.map_append,
          List.map_map, shifted]
      · intro k
        rw [total]
        rcases Nat.lt_or_ge k count with early | late
        · have reached : Schedule.callTime due interval k ≤ (c.elapse d).2.clock := by
            rw [clock]
            exact (counted k).mp early
          have waits : 0 ≤ PacerEvent.clock rest := PacerEvent.clock_nonneg rest
          exact ⟨fun _ => Nat.lt_of_lt_of_le early (Nat.le_add_right count more),
            fun _ => Int.le_trans reached (Int.le_add_of_nonneg_right waits)⟩
        · obtain ⟨j, rfl⟩ := Nat.exists_eq_add_of_le late
          have later := counted_later j
          rw [Schedule.callTime_add] at later
          exact ⟨fun before => Nat.add_lt_add_left (later.1 before) count,
            fun counted => later.2 (Nat.lt_of_add_lt_add_left counted)⟩

/-- The last start calls until the first start or stop, and not from there on. -/
theorem calls_own {n : Nat} (settled : c.Settled) (starts : c.starts = n + 1)
    (spaced : ∀ e ∈ history, e.Spaced) :
    ((c.calls history).filter fun call => call.start = n) =
      c.calls (PacerEvent.undisturbed history) := by
  have quiet := PacerEvent.undisturbed_quiet history
  have own (spaced : ∀ e ∈ PacerEvent.undisturbed history, e.Spaced) :
      ∀ call ∈ c.calls (PacerEvent.undisturbed history), call.start = n := by
    intro call member
    have number := calls_number settled spaced call member
    rw [PacerEvent.starts_of_quiet quiet] at number
    omega
  rcases PacerEvent.undisturbed_split history with whole | ⟨order, later, split, orders⟩
  · rw [← whole] at own ⊢
    exact List.filter_eq_self.mpr (by simpa using own spaced)
  · rw [split] at spaced
    obtain ⟨spaced_quiet, spaced_rest⟩ := List.forall_mem_append.mp spaced
    obtain ⟨still, _, same⟩ := after_settled settled spaced_quiet
    have foreign : ∀ call ∈ (c.after (PacerEvent.undisturbed history)).calls (order :: later),
        call.start ≠ n := by
      intro call member
      have newer := calls_behind_order still orders spaced_rest call member
      omega
    calc (c.calls history).filter (fun call => call.start = n)
        = (c.calls (PacerEvent.undisturbed history ++ order :: later)).filter
            fun call => call.start = n := by rw [← split]
      _ = c.calls (PacerEvent.undisturbed history) := by
          rw [calls_append, List.filter_append,
            List.filter_eq_self.mpr (by simpa using own spaced_quiet),
            List.filter_eq_nil_iff.mpr (by simpa using foreign), List.append_nil]

/-- What a start brings, from there to the next start or stop. -/
theorem calls_of_start (settled : c.Settled) {first : Span} {later : List PacerEvent}
    (spaced : ∀ e ∈ PacerEvent.start interval first :: later, e.Spaced) :
    ∃ count,
      ((c.calls (.start interval first :: later)).filter fun call => call.start = c.starts).map
          PacedCall.at_ = (List.range count).map (Schedule.callTime (c.clock + first) interval) ∧
      ∀ k,
        let ended := c.clock + PacerEvent.clock (PacerEvent.undisturbed later)
        (Schedule.callTime (c.clock + first) interval k < ended → k < count) ∧
          (k < count → Schedule.callTime (c.clock + first) interval k ≤ ended) := by
  obtain ⟨interval_pos, others⟩ := List.forall_mem_cons.mp spaced
  have calls : c.calls (.start interval first :: later) =
      (c.startAfter interval first (.takes 0)).calls later := rfl
  have step : Follows c (.start interval first) [] (c.startAfter interval first (.takes 0)) :=
    meet_follows settled interval_pos
  rw [calls, calls_own step.settled step.starts others, startAfter_settled settled interval_pos]
  apply calls_undisturbed interval_pos rfl
  · exact Int.le_trans (Int.le_add_of_nonneg_right (Int.natCast_nonneg first))
      (Instant.le_ceilMillis _)
  · exact PacerEvent.undisturbed_quiet later

/-- Only a schedule that runs can still call, and it does. -/
theorem alive_iff (settled : c.Settled) (n : Nat) :
    c.Alive n ↔ c.pacer.isRunning = true ∧ n + 1 = c.starts := by
  constructor
  · intro ⟨d, call, member, number⟩
    have step := meet_follows (e := .elapse d) settled trivial
    rw [← number]
    exact step.latest call member
  · intro ⟨running, number⟩
    cases settled with
    | idle nothing =>
      rw [nothing] at running
      cases running
    | steady interval due spaced schedule ahead begun =>
      let d : Span := (Instant.ceilMillis due - c.clock).toNat
      have reached : c.clock + d = Instant.ceilMillis due := by
        have bound (x y : Int) (le : x ≤ y) : x + (y - x).toNat = y := by omega
        exact bound _ _ ahead
      obtain ⟨count, times, _, _, _, _, counted⟩ := elapse_steady spaced schedule ahead d
      have one : 0 < count :=
        (counted 0).mpr (Int.le_of_eq ((Schedule.callTime_zero _ _).trans reached.symm))
      have called : (c.elapse d).1 ≠ [] := by
        intro none
        rw [none] at times
        have empty := congrArg List.length times
        simp only [List.map_nil, List.length_nil, List.length_map, List.length_range] at empty
        omega
      obtain ⟨call, member⟩ := List.exists_mem_of_ne_nil _ called
      refine ⟨d, call, member, ?_⟩
      rw [elapse_start c d call member, ← number]
      exact Nat.add_sub_cancel n 1

theorem after_idle (spaced : ∀ e ∈ history, e.Spaced) :
    (idle.after history).Settled ∧ (idle.after history).clock = PacerEvent.clock history ∧
      (idle.after history).starts = PacerEvent.starts history := by
  obtain ⟨settled, clock, starts⟩ := after_settled idle_settled spaced
  exact ⟨settled, clock.trans (Int.zero_add _), starts.trans (Nat.zero_add _)⟩

theorem calls_idle (spaced : ∀ e ∈ history, e.Spaced) :
    ∀ call ∈ idle.calls history, call.start < PacerEvent.starts history := by
  intro call member
  have number := (calls_number idle_settled spaced call member).1
  exact number.trans_eq (Nat.zero_add _)

/-- The first delays that are drawn lie between 5 and 95 hundredths of the interval. -/
theorem firstDelay_within (interval : Span) (draw : Fin Pacer.parts) :
    interval * 5 / 100 ≤ Pacer.firstDelay interval draw ∧
      Pacer.firstDelay interval draw ≤ interval * 95 / 100 := by
  have parts_pos : 0 < Pacer.parts := Nat.lt_of_le_of_lt (Nat.zero_le _) draw.isLt
  have least : interval * 5 / 100 = interval * (5 * Pacer.parts) / (100 * Pacer.parts) := by
    rw [← Nat.mul_assoc, Nat.mul_div_mul_right _ _ parts_pos]
  have most : interval * 95 / 100 = interval * (95 * Pacer.parts) / (100 * Pacer.parts) := by
    rw [← Nat.mul_assoc, Nat.mul_div_mul_right _ _ parts_pos]
  have within := draw.isLt
  rw [least, most]
  constructor
  · apply Nat.div_le_div_right
    exact Nat.mul_le_mul_left interval (Nat.le_add_right _ _)
  · apply Nat.div_le_div_right
    apply Nat.mul_le_mul_left interval
    omega

/-- Whatever starts and stops there are and whatever the first delays, the calls of a start come at
    its own instant and first delay, and so many intervals later, each once and in order, just as
    long as no other start or stop comes before.  There are no other calls, and none behind a start
    or stop of what was there before.  Only the last start can still call, and only if no stop has
    come after it; this is what the pacer tells.  A second stop changes nothing. -/
theorem calls_keep_to_their_schedule (history : List PacerEvent)
    (spaced : ∀ e ∈ history, e.Spaced) :
    (∀ (before : List PacerEvent) (interval first : Span) (later : List PacerEvent),
      history = before ++ .start interval first :: later →
      let due (k : Nat) : Instant := PacerEvent.clock before + first + k * interval
      let rung (k : Nat) : Instant := Instant.ceilMillis (due k)
      let ended := PacerEvent.clock before + PacerEvent.clock (PacerEvent.undisturbed later)
      (∀ k, due k ≤ rung k ∧ rung k < due k + Span.millisecond) ∧
      ∃ count,
        ((idle.calls history).filter fun call => call.start = PacerEvent.starts before).map
            PacedCall.at_ = (List.range count).map rung ∧
        ∀ k, (rung k < ended → k < count) ∧ (k < count → rung k ≤ ended)) ∧
      (∀ call ∈ idle.calls history, call.start < PacerEvent.starts history) ∧
      (∀ before order later, history = before ++ order :: later → order.orders = true →
        ∀ call ∈ (idle.after before).calls (order :: later), PacerEvent.starts before ≤ call.start) ∧
      (∀ n, (idle.after history).Alive n ↔
        (PacerEvent.running? history).isSome ∧ n + 1 = PacerEvent.starts history) ∧
      (idle.after history).pacer.interval? = PacerEvent.running? history ∧
      (idle.after history).pacer.isRunning = (PacerEvent.running? history).isSome ∧
      (idle.after history).stop.stop = (idle.after history).stop ∧
      ∀ interval draw, interval * 5 / 100 ≤ Pacer.firstDelay interval draw ∧
        Pacer.firstDelay interval draw ≤ interval * 95 / 100 := by
  obtain ⟨settled, _, starts⟩ := after_idle spaced
  have interval := after_interval spaced
  have running : (idle.after history).pacer.isRunning = (PacerEvent.running? history).isSome := by
    rw [isRunning_eq, interval]
  refine ⟨?_, calls_idle spaced, ?_, ?_, interval, running, rfl, firstDelay_within⟩
  · intro before interval first later split due rung ended
    refine ⟨fun k => ⟨Instant.le_ceilMillis (due k), Instant.ceilMillis_lt (due k)⟩, ?_⟩
    rw [split] at spaced
    obtain ⟨spaced_before, spaced_later⟩ := List.forall_mem_append.mp spaced
    obtain ⟨before_settled, clock, count_before⟩ := after_idle spaced_before
    have earlier : ∀ call ∈ idle.calls before, call.start ≠ PacerEvent.starts before := by
      intro call member
      exact Nat.ne_of_lt (calls_idle spaced_before call member)
    have own := calls_of_start before_settled spaced_later
    rw [clock, count_before] at own
    rw [split, calls_append, List.filter_append,
      List.filter_eq_nil_iff.mpr (by simpa using earlier), List.nil_append]
    exact own
  · intro before order later split orders
    rw [split] at spaced
    obtain ⟨spaced_before, spaced_later⟩ := List.forall_mem_append.mp spaced
    obtain ⟨before_settled, _, count_before⟩ := after_idle spaced_before
    rw [← count_before]
    exact calls_behind_order before_settled orders spaced_later
  · intro n
    rw [alive_iff settled, running, starts]

/-- A schedule of a second whose first call is due in the middle of a millisecond; it is replaced
    after two calls, and its follower is stopped before the first. -/
theorem replaced_schedule_called_twice :
    let replaced : List PacerEvent := [.elapse 1500000000, .start 2000000000 1000000000]
    let stopped : List PacerEvent := [.elapse 700000000, .stop, .elapse 9000000000]
    let history := PacerEvent.start 1000000000 50500000 :: (replaced ++ stopped)
    (∀ e ∈ history, e.Spaced) ∧
      ((idle.calls history).filter fun call => call.start = 0).map PacedCall.at_ =
        [51000000, 1051000000] ∧
      ((idle.calls history).filter fun call => call.start = 1).map PacedCall.at_ = [] ∧
      (∀ n, ¬ (idle.after history).Alive n) ∧
      (idle.after history).pacer.isRunning = false := by
  intro replaced stopped history
  have spaced : ∀ e ∈ history, e.Spaced := by decide
  obtain ⟨calls, _, _, alive, _, running, _⟩ := calls_keep_to_their_schedule history spaced
  obtain ⟨_, first_count, first_times, first_bounds⟩ :=
    calls [] 1000000000 50500000 (replaced ++ stopped) rfl
  have two : first_count = 2 := by
    have reached := (first_bounds 1).1 (by decide)
    have missed := mt (first_bounds 2).2 (by decide)
    omega
  obtain ⟨_, second_count, second_times, second_bounds⟩ :=
    calls [.start 1000000000 50500000, .elapse 1500000000] 2000000000 1000000000 stopped rfl
  have none : second_count = 0 := by
    have missed := mt (second_bounds 0).2 (by decide)
    omega
  rw [two] at first_times
  rw [none] at second_times
  refine ⟨spaced, first_times, second_times, ?_, running⟩
  intro n still
  exact absurd ((alive n).mp still).1 (by decide)

end PacerCourse
end SessionFleet
