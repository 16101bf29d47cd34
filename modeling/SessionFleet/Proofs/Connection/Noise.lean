import SessionFleet.Proofs.Connection.ToldPhases
/- What a shard must not heed.

   Two runs of one connection are compared that differ only in messages that come in on an open
   socket: text that is no packet, binary frames, pongs, packets that only clients send, greetings that
   cannot be read, and pings. -/
namespace SessionFleet

inductive Incoming.Noise : Incoming → Prop where
  | unread {t : String} {fault : Fault} (read : Packet.ofText t = .error fault) : Noise (.text t)
  | binary : Noise .binary
  | pong : Noise .pong
  /-- a packet that only clients send, whatever it carries -/
  | outbound {t : String} {p : Packet} (read : Packet.ofText t = .ok p)
      (op : p.op.code ∈ [2, 3, 4, 6, 8]) : Noise (.text t)
  | badHello {t : String} {p : Packet} {mismatch : Mismatch} (read : Packet.ofText t = .ok p)
      (op : p.op = .hello) (payload : Hello.ofJson p.payload = .error mismatch) : Noise (.text t)

/-- What may be put in: noise, and pings that can be answered. -/
inductive Incoming.Padding (s : Circumstances) : Incoming → Prop where
  | noise {m : Incoming} (noise : m.Noise) : Padding s m
  | ping (data : List UInt8) (writable : s.writeFault = none) : Padding s (.ping data)

/-- All that comes of a message that is put in. -/
def Incoming.echo (s : Circumstances) : Incoming → List (Instant × Deed)
  | .text _ => [(s.moment.now, .received)]
  | .ping data => [(s.moment.now, .write (.pong data))]
  | .binary | .pong | .close | .broken _ | .ended => []

/-- One list put into another; each of them keeps its order. -/
inductive Interleaved {α : Type} : List α → List α → List α → Prop where
  | nil : Interleaved [] [] []
  | left {xs ys zs : List α} (x : α) (rest : Interleaved xs ys zs) : Interleaved (x :: xs) ys (x :: zs)
  | right {xs ys zs : List α} (y : α) (rest : Interleaved xs ys zs) : Interleaved xs (y :: ys) (y :: zs)

section
variable {α : Type} {xs ys zs : List α}

theorem Interleaved.append_left (rest : Interleaved xs ys zs) (front : List α) :
    Interleaved (front ++ xs) ys (front ++ zs) := by
  induction front with
  | nil => exact rest
  | cons x front ih => exact .left x ih

theorem Interleaved.append_right (rest : Interleaved xs ys zs) (front : List α) :
    Interleaved xs (front ++ ys) (front ++ zs) := by
  induction front with
  | nil => exact rest
  | cons y front ih => exact .right y ih

end

/- What is counted. -/

namespace Metrics

/-- The same, but for so many more frames received. -/
def plusFrames (k : Nat) (m : Metrics) : Metrics :=
  { m with counters := { m.counters with framesReceived := m.counters.framesReceived + k } }

theorem record_plusFrames (m : Metrics) (k shard : Nat) (now : Instant) (d : Deed) :
    (m.plusFrames k).record shard now d = (m.record shard now d).plusFrames k := by
  cases d with
  | disrupted why => cases why <;> rfl
  | received => simp [record, plusFrames, Counters.record, Nat.add_right_comm]
  | _ => rfl

def Enrolled (shard : Nat) (m : Metrics) : Prop := updateGauge shard id m.gauges = m.gauges

theorem enroll_enrolled (m : Metrics) (shard : Nat) : (m.enroll shard).Enrolled shard :=
  updateGauge_twice (fun _ => rfl) id

theorem record_enrolled (m : Metrics) (shard : Nat) (now : Instant) (d : Deed) :
    (m.record shard now d).Enrolled shard :=
  updateGauge_twice (fun g => g.record_shard now d) id

def framesIn (deeds : List (Instant × Deed)) : Nat := deeds.countP fun e => e.2 = .received

/-- What is only heard or written moves no gauge and no counter but that of the frames. -/
theorem record_echo {m : Metrics} {shard : Nat} (enrolled : m.Enrolled shard) (now : Instant)
    {d : Deed} (echo : d = .received ∨ ∃ f, d = .write f) :
    m.record shard now d = m.plusFrames (framesIn [(now, d)]) := by
  have gauges : updateGauge shard (fun g => g) m.gauges = m.gauges := enrolled
  rcases echo with received | ⟨f, written⟩
  · rw [received]
    simp [record, Counters.record, Gauge.record, plusFrames, framesIn, gauges]
  · rw [written]
    simp [record, Counters.record, Gauge.record, plusFrames, framesIn, gauges]

theorem recordLog_interleaved {shard : Nat} {base added full : List (Instant × Deed)}
    (interleaved : Interleaved base added full)
    (echoes : ∀ e ∈ added, e.2 = .received ∨ ∃ f, e.2 = .write f) {m : Metrics}
    (enrolled : m.Enrolled shard) :
    m.recordLog (full.map fun e => (shard, e)) =
      (m.recordLog (base.map fun e => (shard, e))).plusFrames (framesIn added) := by
  -- the frames counted so far are moved past everything that follows
  have later {log : DeedLog} (k : Nat) (m : Metrics) :
      (m.plusFrames k).recordLog log = (m.recordLog log).plusFrames k := by
    induction log generalizing m with
    | nil => rfl
    | cons e rest ih =>
      simp only [recordLog, List.foldl_cons] at ih ⊢
      rw [record_plusFrames, ih]
  induction interleaved generalizing m with
  | nil => rfl
  | left e _ ih => exact ih echoes (record_enrolled m shard e.1 e.2)
  | @right base added full e _ ih =>
    rw [List.forall_mem_cons] at echoes
    have heard := record_echo enrolled e.1 echoes.1
    have rest := ih echoes.2 enrolled
    calc m.recordLog ((e :: full).map fun e => (shard, e))
        = (m.record shard e.1 e.2).recordLog (full.map fun e => (shard, e)) := rfl
      _ = (m.recordLog (full.map fun e => (shard, e))).plusFrames (framesIn [e]) := by
        rw [heard, later]
      _ = (m.recordLog (base.map fun e => (shard, e))).plusFrames (framesIn (e :: added)) := by
        rw [rest]
        simp only [plusFrames, framesIn, List.countP_cons, List.countP_nil]
        rw [Nat.add_assoc, Nat.zero_add]

end Metrics

namespace Connection

variable {s : Circumstances} {c : Connection}

/-- A history, the same history with messages put in where the socket is open, and what was put in. -/
inductive Padded : Connection → List (Circumstances × Stimulus) → List (Circumstances × Stimulus) →
    List (Circumstances × Incoming) → Prop where
  | nil (c : Connection) : Padded c [] [] []
  | keep {c : Connection} {base full added} (s : Circumstances) (i : Stimulus)
      (rest : Padded (c.step s i).connection base full added) :
      Padded c ((s, i) :: base) ((s, i) :: full) added
  | insert {c : Connection} {base full added} (s : Circumstances) (m : Incoming)
      (stage : c.stage = .online) (padding : m.Padding s) (rest : Padded c base full added) :
      Padded c base ((s, .heard m) :: full) ((s, m) :: added)

/-- Packets that only clients send, and greetings that cannot be read, leave a session as it is. -/
theorem framed_noise {p : Packet}
    (unheeded : p.op.code ∈ [2, 3, 4, 6, 8] ∨
      p.op = .hello ∧ ∃ mismatch, Hello.ofJson p.payload = .error mismatch) (m : Moment)
    (held : Session) : held.step true m (.frame p) = Session.silent held := by
  simp only [Session.step]
  rcases unheeded with outbound | ⟨op, mismatch, payload⟩
  · cases op : p.op with
    | identify | presenceUpdate | voiceStateUpdate | resume | requestGuildMembers =>
      simp only [Session.framed, op]
    | dispatch | heartbeat | reconnect | invalidSession | hello | heartbeatAck =>
      simp [op, Opcode.code] at outbound
  · simp only [Session.framed, op, payload]

/-- What a session is silent on, a connection only counts. -/
theorem hear_silent {t : String} {p : Packet} (stage : c.stage = .online) (synced : c.Synced)
    (read : Packet.ofText t = .ok p)
    (silent : c.session.step true s.moment (.frame p) = Session.silent c.session) :
    c.step s (.heard (.text t)) = ⟨c, [.received]⟩ := by
  have reported : c.reported = c.session.phase := synced.reported (by simp [stage])
  rw [step_heard stage]
  simp only [hear, read, Advance.also]
  rw [converse_silent stage silent, ← reported]
  simp [news]

theorem noise_step {m : Incoming} (noise : m.Noise) (stage : c.stage = .online)
    (synced : c.Synced) :
    (c.step s (.heard m)).connection = c ∧ timed s c (.heard m) = m.echo s := by
  cases noise with
  | @unread t fault read =>
    have turn : c.step s (.heard (.text t)) = ⟨c, [.received]⟩ := by
      rw [step_heard stage]
      simp only [hear, read]
      rfl
    exact ⟨by rw [turn], by rw [timed, turn]; rfl⟩
  | binary | pong =>
    rw [timed, step_heard stage]
    exact ⟨rfl, rfl⟩
  | outbound read op =>
    have turn := hear_silent stage synced read (framed_noise (Or.inl op) s.moment c.session)
    exact ⟨by rw [turn], by rw [timed, turn]; rfl⟩
  | badHello read op payload =>
    have turn := hear_silent stage synced read
      (framed_noise (Or.inr ⟨op, _, payload⟩) s.moment c.session)
    exact ⟨by rw [turn], by rw [timed, turn]; rfl⟩

theorem padding_step {m : Incoming} (padding : m.Padding s) (stage : c.stage = .online)
    (synced : c.Synced) :
    (c.step s (.heard m)).connection = c ∧ timed s c (.heard m) = m.echo s := by
  cases padding with
  | noise noise => exact noise_step noise stage synced
  | ping data writable =>
    have turn : c.step s (.heard (.ping data)) = ⟨c, [.write (.pong data)]⟩ := by
      rw [step_heard stage]
      simp only [hear, writable]
    exact ⟨by rw [turn], by rw [timed, turn]; rfl⟩

def echoes (added : List (Circumstances × Incoming)) : List (Instant × Deed) :=
  added.flatMap fun e => e.2.echo e.1

theorem Padded.run {base full : List (Circumstances × Stimulus)}
    {added : List (Circumstances × Incoming)} (padded : Padded c base full added)
    (synced : c.Synced) :
    (c.run full).connection = (c.run base).connection ∧
      Interleaved (observed timed c base) (echoes added) (observed timed c full) := by
  -- what is put in leaves the connection as it is, so the histories go on from the same one
  induction padded with
  | nil c => exact ⟨rfl, .nil⟩
  | @keep c base full added s i _ ih =>
    obtain ⟨same, interleaved⟩ := ih ((step_reaction s c i).synced synced)
    exact ⟨same, interleaved.append_left (timed s c i)⟩
  | @insert c base full added s m stage padding _ ih =>
    obtain ⟨same, interleaved⟩ := ih synced
    obtain ⟨unmoved, heard⟩ := padding_step padding stage synced
    constructor
    · simp only [Connection.run, Advance.also]
      rw [unmoved]
      exact same
    · simp only [observed, echoes, List.flatMap_cons]
      rw [unmoved, heard]
      exact interleaved.append_right (m.echo s)

theorem echo_of_padding {m : Incoming} (s : Circumstances) {e : Instant × Deed}
    (member : e ∈ m.echo s) : e.2 = .received ∨ ∃ f, e.2 = .write f := by
  cases m with
  | text t =>
    rw [List.mem_singleton.mp member]
    exact Or.inl rfl
  | ping data =>
    rw [List.mem_singleton.mp member]
    exact Or.inr ⟨_, rfl⟩
  | binary | pong | close | broken | ended => simp [Incoming.echo] at member

/-- Messages that a shard must not heed, put in anywhere on its sockets, leave the connection as it
    would be without them, with its session, its orders and its counts.  What it does is what it would
    do without them, with one frame counted for each text and one pong written for each ping in
    between; so no gauge and no counter but that of the frames tells of them.  A ping that cannot be
    answered is the end of a socket that is broken anyway. -/
theorem noise_changes_nothing (settings : GatewaySettings) (shard : Shard)
    (history base full : List (Circumstances × Stimulus)) (added : List (Circumstances × Incoming)) :
    let c := ((start settings shard).connection.run history).connection
    (Padded c base full added →
      (c.run full).connection = (c.run base).connection ∧
      Interleaved (observed timed c base) (echoes added) (observed timed c full) ∧
      ∀ m : Metrics, let log := fun deeds => deeds.map fun e => (shard.id, e)
        (m.enroll shard.id).recordLog (log (observed timed c full)) =
          ((m.enroll shard.id).recordLog (log (observed timed c base))).plusFrames
            (Metrics.framesIn (echoes added))) ∧
    ∀ s data why, c.stage = .online → s.writeFault = some why →
      c.step s (.heard (.ping data)) = c.step s (.heard (.broken why)) := by
  intro c
  refine ⟨?_, ?_⟩
  · intro padded
    obtain ⟨same, interleaved⟩ := padded.run (run_synced settings shard history)
    refine ⟨same, interleaved, ?_⟩
    intro m log
    refine Metrics.recordLog_interleaved interleaved ?_ (Metrics.enroll_enrolled m shard.id)
    intro e member
    obtain ⟨put, _, heard⟩ := List.mem_flatMap.mp member
    exact echo_of_padding put.1 heard
  · intro s data why stage fault
    rw [step_heard stage, step_heard stage]
    simp only [hear, fault]

/-- Around the greeting of a socket come a greeting without an interval, a binary frame, a packet that
    only clients send, text that is no packet, and a ping. -/
theorem noise_around_greeting :
    let around : Circumstances := ⟨.steady 0, .ofNat 1, true, fun _ => true, none⟩
    let settings : GatewaySettings := { token := "token" }
    let heard (m : Incoming) : Circumstances × Stimulus := (around, .heard m)
    let hello := heard (.text "[10,[45000]]")
    let base := [hello, (around, .flush)]
    let full := [heard (.text "[10,[]]"), heard .binary, hello, heard (.text "[2,null,7]"),
      heard (.text "hello"), heard (.ping [7]), (around, .flush)]
    let added : List (Circumstances × Incoming) := [(around, .text "[10,[]]"), (around, .binary),
      (around, .text "[2,null,7]"), (around, .text "hello"), (around, .ping [7])]
    let c := ((start settings ⟨0, 1⟩).connection.run
      [(around, .turn), (around, .dialed .opened)]).connection
    Padded c base full added ∧ (c.run full).connection = (c.run base).connection ∧
      (c.run base).connection.session.phase = .identifying ∧
      echoes added = [(0, .received), (0, .received), (0, .received), (0, .write (.pong [7]))] ∧
      ∀ s data why, s.writeFault = some why →
        c.step s (.heard (.ping data)) = c.step s (.heard (.broken why)) := by
  intro around settings heard hello base full added c
  have before : c.stage = .online := by decide +kernel
  have behind : (c.step around hello.2).connection.stage = .online := by decide +kernel
  have bare : Packet.ofText "[10,[]]" = .ok ⟨.hello, some (.list []), none, none⟩ := by
    decide +kernel
  have foreign : Packet.ofText "[2,null,7]" = .ok ⟨.identify, none, some 7, none⟩ := by
    decide +kernel
  have garbled : Packet.ofText "hello" = .error (.text .malformed) := by decide +kernel
  have padded : Padded c base full added := by
    refine .insert _ _ before (.noise (.badHello bare rfl rfl)) ?_
    refine .insert _ _ before (.noise .binary) ?_
    refine .keep _ _ ?_
    refine .insert _ _ behind (.noise (.outbound foreign (by decide))) ?_
    refine .insert _ _ behind (.noise (.unread garbled)) ?_
    refine .insert _ _ behind (.ping [7] rfl) ?_
    exact .keep _ _ (.nil _)
  obtain ⟨unmoved, unanswered⟩ := noise_changes_nothing settings ⟨0, 1⟩
    [(around, .turn), (around, .dialed .opened)] base full added
  obtain ⟨same, _, _⟩ := unmoved padded
  exact ⟨padded, same, by decide +kernel, by decide +kernel,
    fun s data why fault => unanswered s data why before fault⟩

end Connection
end SessionFleet
