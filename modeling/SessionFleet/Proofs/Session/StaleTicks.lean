import SessionFleet.Proofs.Session.MissedAnswer
/- Ticks that arrive late.

   The timer and the session are not in step: a tick that has been posted stays in line while frames
   come in, sockets close and others open, and it is handed over in no particular order.  What it
   carries is the count of its schedule.  Since every greeting that starts a schedule counts one
   further, and a socket that closes stops the schedule, this is enough to tell whether the schedule
   that posted the tick still runs. -/
namespace SessionFleet
namespace SessionInput

def closes : SessionInput → Bool
  | .closed => true
  | _ => false

/-- The schedule that runs is stopped, or replaced by another one. -/
def endsSchedule (i : SessionInput) : Bool := i.closes || i.greets

end SessionInput

/-- A tick on its way: the count that it carries, and what the session has been told since the tick
    was posted. -/
structure PostedTick where
  generation : Nat
  since : List SessionInput
  deriving DecidableEq, Repr

def PostedTick.isStale (t : PostedTick) : Bool := t.since.any SessionInput.endsSchedule

inductive TickEvent where
  /-- the schedule that runs posts a tick, whenever it likes -/
  | post
  /-- time passes until an instant, and the timer posts what falls due -/
  | elapse (until_ : Instant)
  /-- the session is handed the tick at this place of the line -/
  | deliver (place : Nat)
  | opened
  | closed
  | frame (p : Packet)
  deriving DecidableEq, Repr

/-- A session and the ticks that are on their way to it. -/
structure TickLine where
  session : Session
  ticks : List PostedTick
  deriving DecidableEq, Repr

namespace TickLine

def start (shard : Shard) : TickLine := ⟨Session.start shard, []⟩

def post (c : TickLine) : TickLine :=
  if c.session.pacer.isRunning then { c with ticks := c.ticks ++ [⟨c.session.generation, []⟩] } else c

def elapse (c : TickLine) (now until_ : Instant) : TickLine :=
  let (due, session) := c.session.elapse now until_
  { session, ticks := c.ticks ++ due.map fun generation => ⟨generation, []⟩ }

def tell (reachable : Bool) (m : Moment) (c : TickLine) (i : SessionInput) : TickLine :=
  { session := (c.session.step reachable m i).session
    ticks := c.ticks.map fun t => { t with since := t.since ++ [i] } }

def deliver (reachable : Bool) (m : Moment) (c : TickLine) (place : Nat) : TickLine :=
  match c.ticks[place]? with
  | none => c
  | some t => { c with ticks := c.ticks.eraseIdx place }.tell reachable m (.tick t.generation)

def step (reachable : Bool) (m : Moment) (c : TickLine) : TickEvent → TickLine
  | .post => c.post
  | .elapse until_ => c.elapse m.now until_
  | .deliver place => c.deliver reachable m place
  | .opened => c.tell reachable m .opened
  | .closed => c.tell reachable m .closed
  | .frame p => c.tell reachable m (.frame p)

/-- Any of the steps may find the owner of the socket gone. -/
def after (c : TickLine) (history : List (Bool × Moment × TickEvent)) : TickLine :=
  history.foldl (fun c e => c.step e.1 e.2.1 e.2.2) c

end TickLine

namespace Session

variable {s : Session} {t : PostedTick} {p : Packet}

theorem calling_session (reachable : Bool) (s : Session) (e : Effect) (after : Session → Session) :
    (calling reachable s e after).session = if reachable then after s else s := by
  cases reachable <;> rfl

theorem giveUp_session (reachable : Bool) (s : Session) (why : Disruption) (code : CloseCode)
    (delay : Span) : (giveUp reachable s why code delay).session = { s with phase := .reconnecting } := by
  cases reachable <;> rfl

/-- Which schedule runs, and whether one does. -/
def schedule (s : Session) : Nat × Bool := (s.generation, s.pacer.isRunning)

theorem greeted_schedule (reachable : Bool) (m : Moment) (s : Session) (interval : Nat) :
    (greeted reachable m s interval).session.schedule =
      if interval = 0 then s.schedule else (s.generation + 1, true) := by
  unfold greeted
  split
  · rw [giveUp_session]
    rfl
  · cases s.sessionId <;> cases reachable <;> rfl

theorem refused_schedule (reachable : Bool) (m : Moment) (s : Session) (resumable : Bool) :
    (refused reachable m s resumable).session.schedule = s.schedule := by
  cases resumable <;> simp only [refused, Bool.false_eq_true, ↓reduceIte, giveUp_session] <;> rfl

theorem dispatched_schedule (reachable : Bool) (s : Session) (p : Packet) :
    (dispatched reachable s p).session.schedule = s.schedule := by
  unfold dispatched
  cases p.t with
  | none => rfl
  | some name =>
    cases read : Event.decode name p.payload with
    | error fault => simp only [read]; rfl
    | ok event => cases event <;> simp only [read] <;> rfl

/-- Only a greeting that is taken up counts a new schedule, and only a socket that closes leaves the
    session without one. -/
theorem step_schedule (reachable : Bool) (m : Moment) (s : Session) (i : SessionInput) :
    (s.step reachable m i).session.schedule =
      if i.greets then (s.generation + 1, true)
      else (s.generation, s.pacer.isRunning && !i.closes) := by
  have kept (same : (s.step reachable m i).session.schedule = s.schedule)
      (ungreeted : i.greets = false) (notClosed : i.closes = false) :
      (s.step reachable m i).session.schedule =
        if i.greets then (s.generation + 1, true)
        else (s.generation, s.pacer.isRunning && !i.closes) := by
    rw [same, ungreeted, notClosed]
    simp [schedule]
  cases i with
  | opened => exact kept rfl rfl rfl
  | closed =>
    simp [step, silent, schedule, SessionInput.greets, SessionInput.closes, Pacer.stop, Pacer.idle,
      Pacer.isRunning]
  | tick generation =>
    refine kept ?_ rfl rfl
    simp only [step, ticked]
    split
    · rfl
    · split
      · rw [giveUp_session]; rfl
      · rw [calling_session]; cases reachable <;> rfl
  | frame p =>
    cases op : p.op with
    | hello =>
      cases read : Hello.ofJson p.payload with
      | error mismatch =>
        refine kept ?_ (by simp [SessionInput.greets, read]) rfl
        simp only [step, framed, op, read]
        rfl
      | ok hello =>
        simp only [step, framed, op, read, greeted_schedule]
        by_cases usable : hello.heartbeatInterval = 0 <;>
          simp [usable, op, read, schedule, SessionInput.greets, SessionInput.closes]
    | dispatch =>
      refine kept ?_ (by simp [SessionInput.greets, op]) rfl
      simp only [step, framed, op]
      exact dispatched_schedule reachable s p
    | invalidSession =>
      refine kept ?_ (by simp [SessionInput.greets, op]) rfl
      simp only [step, framed, op]
      split <;> exact refused_schedule ..
    | heartbeat =>
      refine kept ?_ (by simp [SessionInput.greets, op]) rfl
      simp only [step, framed, op, calling_session]
      cases reachable <;> rfl
    | heartbeatAck =>
      refine kept ?_ (by simp [SessionInput.greets, op]) rfl
      simp only [step, framed, op, answered]
      split <;> rfl
    | reconnect =>
      refine kept ?_ (by simp [SessionInput.greets, op]) rfl
      simp only [step, framed, op, giveUp_session]
      rfl
    | identify | presenceUpdate | voiceStateUpdate | resume | requestGuildMembers =>
      refine kept ?_ (by simp [SessionInput.greets, op]) rfl
      simp only [step, framed, op]
      rfl

/-- What the timer posts while time passes are ticks of the schedule that runs. -/
theorem elapse_ticks {generation : Nat} {now until_ : Instant}
    (due : generation ∈ (s.elapse now until_).1) :
    generation = s.generation ∧ s.pacer.isRunning = true := by
  simp only [elapse] at due
  obtain ⟨beat, posted, carried⟩ := List.mem_filterMap.mp due
  constructor
  · cases beat <;> simp_all
  · cases running : s.pacer.schedule with
    | none => simp [Pacer.run, running] at posted
    | some schedule => simp [Pacer.isRunning, running]

theorem elapse_schedule (now until_ : Instant) : (s.elapse now until_).2.schedule = s.schedule := by
  cases running : s.pacer.schedule <;> simp [elapse, schedule, Pacer.run, Pacer.isRunning, running]

/-- A tick of a schedule that is over carries a count that has passed, or the count of a schedule that
    no longer runs; any other tick is one of the schedule that runs. -/
structure Accounts (s : Session) (t : PostedTick) : Prop where
  stale : t.isStale = true →
    t.generation < s.generation ∨ t.generation = s.generation ∧ s.pacer.isRunning = false
  fresh : t.isStale = false → t.generation = s.generation ∧ s.pacer.isRunning = true

theorem accounts_posted {generation : Nat} (current : generation = s.generation)
    (running : s.pacer.isRunning = true) : s.Accounts ⟨generation, []⟩ :=
  ⟨fun stale => by simp [PostedTick.isStale] at stale, fun _ => ⟨current, running⟩⟩

theorem accounts_of_schedule {u : Session} (same : u.schedule = s.schedule) (accounts : s.Accounts t) :
    u.Accounts t := by
  simp only [schedule, Prod.mk.injEq] at same
  obtain ⟨generation, running⟩ := same
  exact ⟨by rw [generation, running]; exact accounts.stale,
    by rw [generation, running]; exact accounts.fresh⟩

theorem step_accounts (accounts : s.Accounts t) (reachable : Bool) (m : Moment) (i : SessionInput) :
    (s.step reachable m i).session.Accounts { t with since := t.since ++ [i] } := by
  have told : PostedTick.isStale { t with since := t.since ++ [i] } =
      (t.isStale || i.endsSchedule) := by simp [PostedTick.isStale]
  have scheduled := step_schedule reachable m s i
  obtain ⟨stale, fresh⟩ := accounts
  have passed : t.generation ≤ s.generation := by
    cases ended : t.isStale with
    | true => rcases stale ended with older | ⟨current, _⟩ <;> omega
    | false => exact Nat.le_of_eq (fresh ended).1
  cases greets : i.greets with
  | true =>
    simp only [schedule, greets, ↓reduceIte, Prod.mk.injEq] at scheduled
    obtain ⟨counted, _⟩ := scheduled
    refine ⟨fun _ => Or.inl ?_, fun ended => ?_⟩
    · show t.generation < _
      omega
    · simp [told, SessionInput.endsSchedule, greets] at ended
  | false =>
    simp only [schedule, greets, Bool.false_eq_true, ↓reduceIte, Prod.mk.injEq] at scheduled
    obtain ⟨counted, runs⟩ := scheduled
    refine ⟨fun ended => ?_, fun goesOn => ?_⟩
    · rw [counted, runs]
      rw [told, SessionInput.endsSchedule, greets, Bool.or_false, Bool.or_eq_true] at ended
      rcases ended with before | closes
      · rcases stale before with older | ⟨current, stopped⟩
        · exact Or.inl older
        · exact Or.inr ⟨current, by rw [stopped]; rfl⟩
      · rcases Nat.lt_or_eq_of_le passed with older | current
        · exact Or.inl older
        · exact Or.inr ⟨current, by simp [closes]⟩
    · rw [counted, runs]
      rw [told, SessionInput.endsSchedule, greets, Bool.or_false, Bool.or_eq_false_iff] at goesOn
      obtain ⟨current, running⟩ := fresh goesOn.1
      exact ⟨current, by simp [running, goesOn.2]⟩

theorem accepts_iff (accounts : s.Accounts t) :
    s.accepts t.generation = true ↔
      ¬ (t.isStale = true ∨ s.phase = .reconnecting ∨ s.phase = .disconnected) := by
  simp only [accepts, Bool.and_eq_true, decide_eq_true_eq]
  cases ended : t.isStale with
  | true =>
    rcases accounts.stale ended with older | ⟨_, stopped⟩
    · simp [Nat.ne_of_lt older]
    · simp [stopped]
  | false =>
    obtain ⟨current, running⟩ := accounts.fresh ended
    simp [current, running]

end Session

namespace TickLine

variable {c : TickLine}

def Accounted (c : TickLine) : Prop := ∀ t ∈ c.ticks, c.session.Accounts t

theorem tell_accounted (accounted : c.Accounted) (reachable : Bool) (m : Moment) (i : SessionInput) :
    (c.tell reachable m i).Accounted := by
  intro t member
  obtain ⟨before, kept, told⟩ := List.mem_map.mp member
  rw [← told]
  exact Session.step_accounts (accounted before kept) reachable m i

theorem step_accounted (accounted : c.Accounted) (reachable : Bool) (m : Moment) (e : TickEvent) :
    (c.step reachable m e).Accounted := by
  cases e with
  | post =>
    simp only [step, post]
    split
    · rename_i running
      intro t member
      rcases List.mem_append.mp member with earlier | new
      · exact accounted t earlier
      · rw [List.mem_singleton.mp new]
        exact Session.accounts_posted rfl running
    · exact accounted
  | elapse until_ =>
    have same : (c.session.elapse m.now until_).2.schedule = c.session.schedule :=
      Session.elapse_schedule m.now until_
    intro t member
    rcases List.mem_append.mp member with earlier | new
    · exact Session.accounts_of_schedule same (accounted t earlier)
    · obtain ⟨generation, due, posted⟩ := List.mem_map.mp new
      obtain ⟨current, running⟩ := Session.elapse_ticks due
      rw [← posted]
      exact Session.accounts_of_schedule same (Session.accounts_posted current running)
  | deliver place =>
    simp only [step, deliver]
    split
    · exact accounted
    · apply tell_accounted
      intro t member
      exact accounted t (List.mem_of_mem_eraseIdx member)
  | opened | closed | frame p => exact tell_accounted accounted reachable m _

theorem after_accounted (accounted : c.Accounted) (history : List (Bool × Moment × TickEvent)) :
    (c.after history).Accounted := by
  induction history generalizing c with
  | nil => exact accounted
  | cons e rest ih => exact ih (step_accounted accounted e.1 e.2.1 e.2.2)

/-- A tick on its way does nothing when it arrives if its schedule has been stopped or replaced since
    it was posted, or if the socket is gone or given up: nobody is asked for anything, and nothing
    about the session changes.  In every other case the owner of the socket is asked for something. -/
theorem tick_is_inert_unless_schedule_runs (shard : Shard)
    (history : List (Bool × Moment × TickEvent)) :
    let c := (start shard).after history
    ∀ t ∈ c.ticks,
      (t.isStale = true ∨ c.session.phase = .reconnecting ∨ c.session.phase = .disconnected →
        ∀ reachable m, c.session.step reachable m (.tick t.generation) = ⟨c.session, [], true⟩) ∧
      (¬ (t.isStale = true ∨ c.session.phase = .reconnecting ∨ c.session.phase = .disconnected) →
        ∀ m, (c.session.step true m (.tick t.generation)).effects ≠ []) := by
  intro c t member
  have start_accounted : (start shard).Accounted := by
    intro t member
    simp [start] at member
  have accepted_iff := Session.accepts_iff (after_accounted start_accounted history t member)
  constructor
  · intro late reachable m
    have refused : c.session.accepts t.generation = false := by
      cases accepted : c.session.accepts t.generation with
      | false => rfl
      | true => exact absurd late (accepted_iff.mp accepted)
    exact Session.ticked_refused refused m
  · intro timely m
    rw [Session.ticked_accepted (accepted_iff.mpr timely)]
    split <;> simp

/-- A tick is still on its way when its socket closes and the next one is greeted.  There it does
    nothing, while the tick of the new schedule asks for a heartbeat. -/
theorem tick_of_closed_socket_is_inert :
    let hello : Packet :=
      ⟨.hello, some (.object [("heartbeat_interval", .number (.whole 45000))]), none, none⟩
    let m := Moment.steady 0
    let c := (start ⟨0, 1⟩).after
      [(true, m, .opened), (true, m, .frame hello), (true, m, .post), (true, m, .closed),
        (true, m, .opened), (true, m, .frame hello), (true, m, .post)]
    let old : PostedTick := ⟨1, [.closed, .opened, .frame hello]⟩
    let new : PostedTick := ⟨2, []⟩
    (old ∈ c.ticks ∧ new ∈ c.ticks) ∧ old.isStale = true ∧
      ¬ (new.isStale = true ∨ c.session.phase = .reconnecting ∨ c.session.phase = .disconnected) ∧
      c.session.step true m (.tick old.generation) = ⟨c.session, [], true⟩ ∧
      (c.session.step true m (.tick new.generation)).effects ≠ [] := by
  intro hello m c old new
  have line : c.ticks = [old, new] := rfl
  have oldWaits : old ∈ c.ticks := by simp [line]
  have newWaits : new ∈ c.ticks := by simp [line]
  have timely : ¬ (new.isStale = true ∨ c.session.phase = .reconnecting ∨
      c.session.phase = .disconnected) := by decide +kernel
  have late : old.isStale = true := by rfl
  have inert := tick_is_inert_unless_schedule_runs ⟨0, 1⟩
    [(true, m, .opened), (true, m, .frame hello), (true, m, .post), (true, m, .closed),
      (true, m, .opened), (true, m, .frame hello), (true, m, .post)]
  exact ⟨⟨oldWaits, newWaits⟩, late, timely, (inert old oldWaits).1 (Or.inl late) true m,
    (inert new newWaits).2 timely m⟩

end TickLine
end SessionFleet
