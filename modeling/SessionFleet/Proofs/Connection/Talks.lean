import SessionFleet.Proofs.Connection.OpenSockets
import SessionFleet.Proofs.Session.Causes
/- What a connection does on behalf of its session: what the session asks for on the inputs of an open
   socket, and nothing else.  The opening of a socket, its end and the way to the next one have no
   part in it. -/
namespace SessionFleet

/-- What is done on the way from one socket to the next. -/
def Deed.wayside : Deed → Bool
  | .wait _ | .askTurn | .dial | .retried _ | .failed | .tripped | .error _ => true
  | _ => false

/-- What heads for the next attempt, without telling of the last one. -/
def Deed.headed : Deed → Bool
  | .wait _ | .askTurn | .dial | .retried _ => true
  | _ => false

theorem Deed.wayside_of_headed {d : Deed} (headed : d.headed = true) : d.wayside = true := by
  cases d <;> first | rfl | cases headed

/-- What only a session asks for. -/
def Deed.isSpoken : Deed → Bool
  | .event _ | .latency _ | .identified | .resumed | .beat | .disrupted _ | .delivered => true
  | _ => false

def spoken (deeds : List Deed) : List Deed := deeds.filter Deed.isSpoken

theorem spoken_append (first later : List Deed) : spoken (first ++ later) = spoken first ++ spoken later :=
  List.filter_append ..

theorem spoken_cons_of_unspoken {d : Deed} (unspoken : d.isSpoken = false) (rest : List Deed) :
    spoken (d :: rest) = spoken rest := by simp [spoken, unspoken]

theorem spoken_of_wayside {deeds : List Deed} (wayside : ∀ d ∈ deeds, d.wayside = true) :
    spoken deeds = [] := by
  apply List.filter_eq_nil_iff.mpr
  intro d member
  have apart := wayside d member
  cases d <;> simp [Deed.wayside, Deed.isSpoken] at apart ⊢

/-- An input that the session of an open socket has to deal with, and what it finds. -/
structure Talk where
  circumstances : Circumstances
  session : Session
  input : SessionInput

def Deed.opensSession : Deed → Bool
  | .identified | .resumed => true
  | _ => false

def Deed.isLatency : Deed → Bool
  | .latency _ => true
  | _ => false

def Deed.isDelivered : Deed → Bool
  | .delivered => true
  | _ => false

def Deed.cause? : Deed → Option Disruption
  | .disrupted why => some why
  | _ => none

/-- Where each element leads to one that counts or to none, as many count in all. -/
theorem countP_flatMap_of_one {α β : Type} {f : α → List β} {counts : β → Bool} {leads : α → Bool}
    (one : ∀ a, (f a).countP counts = if leads a then 1 else 0) (l : List α) :
    (l.flatMap f).countP counts = l.countP leads := by
  induction l with
  | nil => rfl
  | cons a rest ih =>
    rw [List.flatMap_cons, List.countP_append, List.countP_cons, one, ih]
    omega

theorem countP_any {α β : Type} (f : α → Option β) (counts : β → Bool) (l : List α) :
    l.countP (fun a => (f a).any counts) = (l.filterMap f).countP counts := by
  rw [List.countP_filterMap]
  apply List.countP_congr
  intro a _
  cases f a <;> rfl

theorem countP_toList {β : Type} (o : Option β) (counts : β → Bool) :
    o.toList.countP counts = if o.any counts then 1 else 0 := by
  cases o with
  | none => rfl
  | some b => exact List.countP_singleton

namespace Talk

def turn (t : Talk) : Turn := t.session.step true t.circumstances.moment t.input

def deeds (t : Talk) : List Deed := t.turn.effects.flatMap (Effect.deeds t.circumstances)

/-- An answer from which a latency follows. -/
def yields (t : Talk) : Bool := t.input.hasOp .heartbeatAck && t.turn.session.health.latency.isSome

/-- An event comes, and the handler deals with it without failing. -/
def delivers (t : Talk) : Bool := t.input.event?.any t.circumstances.survives

def cause? (t : Talk) : Option Disruption := t.session.cause? t.input

theorem opensSession_count (t : Talk) :
    t.deeds.countP Deed.opensSession = if t.input.greets then 1 else 0 := by
  have one (e : Effect) : (e.deeds t.circumstances).countP Deed.opensSession =
      if e.opens then 1 else 0 := by
    cases e with
    | deliver event =>
      simp only [Effect.deeds]
      split <;> rfl
    | _ => rfl
  have opens := (Session.step_keeps t.circumstances.moment t.session t.input).opens
  rw [deeds, countP_flatMap_of_one one, List.countP_eq_length_filter, turn, opens]
  split <;> rfl

theorem latency_count (t : Talk) : t.deeds.countP Deed.isLatency = if t.yields then 1 else 0 := by
  have one (e : Effect) : (e.deeds t.circumstances).countP Deed.isLatency =
      if e.isLatency then 1 else 0 := by
    cases e with
    | deliver event =>
      simp only [Effect.deeds]
      split <;> rfl
    | _ => rfl
  rw [deeds, countP_flatMap_of_one one]
  exact (Session.step_tidings t.circumstances.moment t.session t.input).latencies

theorem delivered_count (t : Talk) : t.deeds.countP Deed.isDelivered = if t.delivers then 1 else 0 := by
  have one (e : Effect) : (e.deeds t.circumstances).countP Deed.isDelivered =
      if e.event?.any t.circumstances.survives then 1 else 0 := by
    cases e with
    | deliver event =>
      cases survives : t.circumstances.survives event <;>
        simp [Effect.deeds, Effect.event?, Deed.isDelivered, survives]
    | _ => rfl
  have brought := (Session.step_delivers t.circumstances.moment t.session t.input).events
  rw [deeds, countP_flatMap_of_one one, countP_any, turn, brought, countP_toList]
  rfl

theorem cause_count (t : Talk) (counts : Disruption → Bool) :
    t.deeds.countP (fun d => d.cause?.any counts) = if t.cause?.any counts then 1 else 0 := by
  have one (e : Effect) : (e.deeds t.circumstances).countP (fun d => d.cause?.any counts) =
      if e.cause?.any counts then 1 else 0 := by
    cases e with
    | deliver event =>
      simp only [Effect.deeds]
      split <;> rfl
    | disrupted why => exact List.countP_singleton
    | _ => rfl
  have told := (Session.step_tidings t.circumstances.moment t.session t.input).causes
  rw [deeds, countP_flatMap_of_one one, countP_any, turn, told, countP_toList]
  rfl

theorem reconnects_count (t : Talk) :
    t.turn.effects.countP Effect.reconnects = if t.cause?.isSome then 1 else 0 := by
  have asked := (Session.step_tidings t.circumstances.moment t.session t.input).reconnects
  rw [turn, asked, cause?]
  cases t.session.cause? t.input <;> rfl

end Talk

namespace Connection

variable {s : Circumstances} {c : Connection} {i : Stimulus}

def talk? (s : Circumstances) (c : Connection) (i : Stimulus) : Option Talk :=
  (c.handled i).map fun j => ⟨s, c.session, j⟩

theorem WayOn.headed {a : Advance} (way : WayOn c a) : ∀ d ∈ a.deeds, d.headed = true := by
  cases way with
  | mk lead counts _ _ _ _ heading =>
    intro d member
    rcases List.mem_append.mp member with counted | last
    · obtain ⟨n, retried⟩ := counts d counted
      rw [retried]
      rfl
    · rw [List.mem_singleton.mp last]
      cases heading <;> rfl

theorem WayOn.wayside {a : Advance} (way : WayOn c a) : ∀ d ∈ a.deeds, d.wayside = true :=
  fun d member => Deed.wayside_of_headed (way.headed d member)

theorem fail_wayside (s : Circumstances) (e : FleetError) (c : Connection) :
    ∀ d ∈ (c.fail s e).deeds, d.wayside = true := by
  have failing := fail_failing s e c
  generalize c.fail s e = a at failing ⊢
  cases failing with
  | absorbed _ why way =>
    simp only [List.forall_mem_cons]
    exact ⟨rfl, rfl, rfl, way.wayside⟩
  | counted _ _ way =>
    simp only [List.forall_mem_cons]
    exact ⟨rfl, rfl, way.wayside⟩
  | broken | refused | exhausted => simp [Deed.wayside]

theorem onward_wayside (s : Circumstances) (why : Parting) (c : Connection) :
    ∀ d ∈ (c.onward s why).deeds, d.wayside = true := by
  cases why with
  | told => simp [onward, stop]
  | lost => exact (again_way s c.restartCounts).wayside
  | reconnect d => exact (again_way s { c.restartCounts with requested := some d }).wayside
  | failed e => exact fail_wayside s e c

theorem spoken_news (c : Connection) (p : Phase) : spoken (c.news p) = [] := by
  unfold news
  split <;> rfl

theorem spoken_farewell (s : Circumstances) (code : Option CloseCode) : spoken (farewell s code) = [] := by
  apply List.filter_eq_nil_iff.mpr
  intro d member
  obtain ⟨f, write⟩ := farewell_writes s code d member
  simp [write, Deed.isSpoken]

theorem converse_speaks (s : Circumstances) (j : SessionInput) (stage : c.stage = .online) :
    spoken (c.converse s j).deeds = spoken (Talk.deeds ⟨s, c.session, j⟩) := by
  obtain ⟨outbox, crashed | survived⟩ := converse_cases s j stage
  · rw [crashed]
    rfl
  · rw [survived, spoken_append, spoken_news, List.append_nil]
    rfl

/-- Until a socket is gone and on the way from there, nothing is done on behalf of the session. -/
theorem part_unspoken (s : Circumstances) (why : Parting) (code : Option CloseCode)
    (outbox : List Order) (stage : c.stage = .online) :
    spoken (Advance.also ⟨{ c with outbox }, farewell s code⟩ fun c => c.part s why).deeds = [] := by
  have silent : spoken (Connection.converse s .closed { c with outbox }).deeds = [] :=
    converse_speaks (c := { c with outbox }) s .closed stage
  simp only [Advance.also, part_eq]
  rw [spoken_append, spoken_farewell, spoken_append, silent, spoken_cons_of_unspoken rfl,
    spoken_of_wayside (onward_wayside s why _)]
  rfl

theorem Reaction.speaks {a : Advance} (reaction : Reaction s c i a) :
    spoken a.deeds = (c.talk? s i).toList.flatMap fun t => spoken t.deeds := by
  have unheard {deeds : List Deed} (unhandled : c.handled i = none) (silent : spoken deeds = []) :
      spoken deeds = (c.talk? s i).toList.flatMap fun t => spoken t.deeds := by
    rw [silent, talk?, unhandled]
    rfl
  cases reaction with
  | ignores untold untimed =>
    refine unheard ?_ rfl
    unfold handled
    split
    · exact absurd rfl (untold ‹_› _)
    · exact absurd rfl (untimed ‹_› _)
    · rfl
  | counts stage read => exact unheard (by simp [handled, stage, read, Except.toOption]) rfl
  | @hears t p stage read =>
    simp only [Advance.also, List.singleton_append]
    rw [spoken_cons_of_unspoken rfl, converse_speaks s (.frame p) stage]
    simp [talk?, handled, stage, read, Except.toOption]
  | ticks g stage => simpa [talk?, handled, stage] using converse_speaks s (.tick g) stage
  | pongs _ stage | flushes stage | sends _ stage => exact unheard (by simp [handled, stage]) rfl
  | parts why code outbox stage ends =>
    refine unheard ?_ (part_unspoken s why code outbox stage)
    cases ends <;> simp [handled, stage]
  | enters stage =>
    refine unheard (by simp [handled, stage]) ?_
    simp only [enter, Advance.also, List.singleton_append]
    rw [spoken_cons_of_unspoken rfl]
    exact converse_speaks (c := { c with stage := .online, outbox := [] }) s .opened rfl
  | fails d e stage =>
    exact unheard (by simp [handled, stage]) (spoken_of_wayside (fail_wayside s e c))
  | retries stage =>
    exact unheard (by simp [handled, stage]) (spoken_of_wayside (pause_way s c.closeBreaker).wayside)
  | resumes stage =>
    exact unheard (by simp [handled, stage]) (spoken_of_wayside (approach_way c).wayside)
  | dials stage => exact unheard (by simp [handled, stage]) rfl
  | obeys stage =>
    refine unheard ?_ rfl
    rcases stage with stage | stage | stage <;> simp [handled, stage]

theorem step_speaks (s : Circumstances) (c : Connection) (i : Stimulus) :
    spoken (c.step s i).deeds = (c.talk? s i).toList.flatMap fun t => spoken t.deeds :=
  (step_reaction s c i).speaks

end Connection
end SessionFleet
