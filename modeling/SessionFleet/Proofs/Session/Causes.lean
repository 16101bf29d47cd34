import SessionFleet.Proofs.Session.Delivery
import SessionFleet.Proofs.Session.MissedAnswer
/- Why a session gives its socket up: the server asks for a new connection or refuses the session, a
   greeting is of no use, or a heartbeat was not answered.  Each of these is told once and asks for one
   reconnection, and nothing else asks for any. -/
namespace SessionFleet
namespace SessionInput

/-- A frame of some kind, whatever it carries. -/
def hasOp (op : Opcode) : SessionInput → Bool
  | .frame p => p.op = op
  | _ => false

/-- A greeting without any time between two heartbeats. -/
def misgreets : SessionInput → Bool
  | .frame p =>
    p.op = .hello &&
      match Hello.ofJson p.payload with
      | .ok h => h.heartbeatInterval = 0
      | .error _ => false
  | _ => false

end SessionInput

namespace Effect

def cause? : Effect → Option Disruption
  | .disrupted why => some why
  | _ => none

def isLatency : Effect → Bool
  | .latency _ => true
  | _ => false

end Effect

namespace Session

variable {s : Session} {m : Moment} {i : SessionInput} {p : Packet}

/-- A tick that counts finds the last heartbeat unanswered. -/
def misses (s : Session) : SessionInput → Bool
  | .tick generation => s.accepts generation && s.health.overdue
  | _ => false

def cause? (s : Session) (i : SessionInput) : Option Disruption :=
  if i.hasOp .reconnect then some .reconnectRequested
  else if i.hasOp .invalidSession then some (.invalidSession !i.forgets)
  else if i.misgreets then some .badHello
  else if s.misses i then some .ackMissed
  else none

/-- What each cause comes to: the four exclude each other. -/
theorem cause?_any (s : Session) (i : SessionInput) (counts : Disruption → Bool) :
    (s.cause? i).any counts =
      (i.hasOp .reconnect && counts .reconnectRequested ||
        i.hasOp .invalidSession && counts (.invalidSession !i.forgets) ||
        i.misgreets && counts .badHello || s.misses i && counts .ackMissed) := by
  unfold cause?
  cases i with
  | opened | closed => rfl
  | tick generation =>
    cases misses : s.misses (.tick generation) <;>
      simp [SessionInput.hasOp, SessionInput.misgreets]
  | frame p =>
    cases op : p.op with
    | hello =>
      cases misgreets : SessionInput.misgreets (.frame p) <;>
        simp [SessionInput.hasOp, misses, op]
    | _ => simp [SessionInput.hasOp, SessionInput.misgreets, misses, op]

/-- What a turn has to say of the socket: why it is given up, if it is, and a latency, if there is one. -/
structure Tidings (s : Session) (i : SessionInput) (t : Turn) : Prop where
  causes : t.effects.filterMap Effect.cause? = (s.cause? i).toList
  reconnects : t.effects.countP Effect.reconnects = (s.cause? i).toList.length
  latencies : t.effects.countP Effect.isLatency =
    if i.hasOp .heartbeatAck && t.session.health.latency.isSome then 1 else 0

theorem tidings_of_calm {t : Turn} (calm : s.cause? i = none) (unanswered : i.hasOp .heartbeatAck = false)
    (kept : t.effects.filterMap Effect.cause? = [])
    (stays : t.effects.countP Effect.reconnects = 0)
    (silent : t.effects.countP Effect.isLatency = 0) : Tidings s i t :=
  ⟨by rw [kept, calm]; rfl, by rw [stays, calm]; rfl, by rw [silent, unanswered]; rfl⟩

theorem tidings_of_givenUp {held : Session} {why : Disruption} {code : CloseCode} {delay : Span}
    (cause : s.cause? i = some why) (unanswered : i.hasOp .heartbeatAck = false) :
    Tidings s i (giveUp true held why code delay) :=
  ⟨by rw [cause]; rfl, by rw [cause]; rfl, by rw [unanswered]; rfl⟩

theorem calm_of_op (reconnect : p.op ≠ .reconnect) (refusal : p.op ≠ .invalidSession)
    (hello : p.op ≠ .hello) : s.cause? (.frame p) = none := by
  simp [cause?, SessionInput.hasOp, SessionInput.misgreets, misses, reconnect, refusal, hello]

theorem dispatched_tidings (op : p.op = .dispatch) : Tidings s (.frame p) (dispatched true s p) := by
  have calm : s.cause? (.frame p) = none := calm_of_op (by simp [op]) (by simp [op]) (by simp [op])
  have unanswered : SessionInput.hasOp .heartbeatAck (.frame p) = false := by
    simp [SessionInput.hasOp, op]
  cases named : p.t with
  | none =>
    rw [dispatched_of_unnamed named]
    exact tidings_of_calm calm unanswered rfl rfl rfl
  | some name =>
    cases read : Event.decode name p.payload with
    | error fault =>
      rw [dispatched_of_unread named read]
      exact tidings_of_calm calm unanswered rfl rfl rfl
    | ok event =>
      rw [dispatched_of_event named read]
      cases event <;> exact tidings_of_calm calm unanswered rfl rfl rfl

theorem greeted_tidings (op : p.op = .hello) (m : Moment) : Tidings s (.frame p) (framed true m s p) := by
  have unanswered : SessionInput.hasOp .heartbeatAck (.frame p) = false := by
    simp [SessionInput.hasOp, op]
  cases read : Hello.ofJson p.payload with
  | error mismatch =>
    have calm : s.cause? (.frame p) = none := by
      simp [cause?, SessionInput.hasOp, SessionInput.misgreets, misses, op, read]
    simp only [framed, op, read]
    exact tidings_of_calm calm unanswered rfl rfl rfl
  | ok hello =>
    simp only [framed, op, read]
    by_cases useless : hello.heartbeatInterval = 0
    · have cause : s.cause? (.frame p) = some .badHello := by
        simp [cause?, SessionInput.hasOp, SessionInput.misgreets, op, read, useless]
      simp only [greeted, useless, ↓reduceIte]
      exact tidings_of_givenUp cause unanswered
    · have calm : s.cause? (.frame p) = none := by
        simp [cause?, SessionInput.hasOp, SessionInput.misgreets, misses, op, read, useless]
      rw [greeted_reached useless]
      simp only [opening]
      cases s.sessionId <;> exact tidings_of_calm calm unanswered rfl rfl rfl

theorem refused_tidings (op : p.op = .invalidSession) (m : Moment) :
    Tidings s (.frame p) (framed true m s p) := by
  have unanswered : SessionInput.hasOp .heartbeatAck (.frame p) = false := by
    simp [SessionInput.hasOp, op]
  have cause : s.cause? (.frame p) = some (.invalidSession (p.payload = .bool true)) := by
    simp [cause?, SessionInput.hasOp, SessionInput.forgets, op]
  rw [refusal_resumable op]
  cases resumable : decide (p.payload = .bool true) <;> rw [resumable] at cause <;>
    exact tidings_of_givenUp cause unanswered

theorem answered_tidings (op : p.op = .heartbeatAck) (m : Moment) :
    Tidings s (.frame p) (framed true m s p) := by
  have calm : s.cause? (.frame p) = none := calm_of_op (by simp [op]) (by simp [op]) (by simp [op])
  have answers : SessionInput.hasOp .heartbeatAck (.frame p) = true := by simp [SessionInput.hasOp, op]
  simp only [framed, op, answered]
  cases latency : (s.health.ack m.now).latency <;>
    exact ⟨by rw [calm]; rfl, by rw [calm]; rfl,
      by rw [answers]; simp [silent, telling, latency, Effect.isLatency]⟩

theorem framed_tidings (m : Moment) (s : Session) (p : Packet) :
    Tidings s (.frame p) (framed true m s p) := by
  cases op : p.op with
  | dispatch =>
    have turn : framed true m s p = dispatched true s p := by simp only [framed, op]
    rw [turn]
    exact dispatched_tidings op
  | hello => exact greeted_tidings op m
  | invalidSession => exact refused_tidings op m
  | heartbeatAck => exact answered_tidings op m
  | reconnect =>
    simp only [framed, op]
    exact tidings_of_givenUp (by simp [cause?, SessionInput.hasOp, op]) (by simp [SessionInput.hasOp, op])
  | heartbeat | identify | presenceUpdate | voiceStateUpdate | resume | requestGuildMembers =>
    simp only [framed, op]
    exact tidings_of_calm (calm_of_op (by simp [op]) (by simp [op]) (by simp [op]))
      (by simp [SessionInput.hasOp, op]) rfl rfl rfl

theorem step_tidings (m : Moment) (s : Session) (i : SessionInput) : Tidings s i (s.step true m i) := by
  cases i with
  | opened | closed => exact ⟨rfl, rfl, rfl⟩
  | frame p => exact framed_tidings m s p
  | tick generation =>
    cases accepted : s.accepts generation with
    | false =>
      rw [ticked_refused accepted]
      exact tidings_of_calm (by simp [cause?, SessionInput.hasOp, SessionInput.misgreets, misses, accepted])
        rfl rfl rfl rfl
    | true =>
      rw [ticked_accepted accepted]
      cases overdue : s.health.overdue with
      | true =>
        exact tidings_of_givenUp
          (by simp [cause?, SessionInput.hasOp, SessionInput.misgreets, misses, accepted, overdue]) rfl
      | false =>
        exact tidings_of_calm
          (by simp [cause?, SessionInput.hasOp, SessionInput.misgreets, misses, overdue]) rfl rfl rfl rfl

end Session
end SessionFleet
