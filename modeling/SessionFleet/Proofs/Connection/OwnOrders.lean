import SessionFleet.Proofs.Connection.Milestones
import SessionFleet.Proofs.Connection.OwnTurn
/- The orders of a session stay on the socket that they were asked for on.  An open socket takes them up
   one by one as they were asked for; what it has not taken up when it is left is forgotten. -/
namespace SessionFleet

/-- What can be seen of the orders of a session on its sockets. -/
inductive Dealing where
  | opened
  | asked (o : Order)
  /-- on behalf of the session -/
  | wrote (f : Frame)
  | closed
  deriving DecidableEq, Repr

def Order.frame : Order → Frame
  | .send p => .packet p
  | .reconnect code _ => .close code

/-- What a socket writes as it takes up an order, and not on what it hears or on a command, it writes on
    behalf of the session. -/
def Deed.dealing (i : Stimulus) : Deed → Option Dealing
  | .opened _ => some .opened
  | .write f => if i = .flush then some (.wrote f) else none
  | .closed => some .closed
  | _ => none

def Dealing.order : Dealing → Option Order
  | .asked o => some o
  | _ => none

def Dealing.frame : Dealing → Option Frame
  | .wrote f => some f
  | _ => none

/-- Since the last socket was opened, it has not been closed.  Of the orders that the session asked for
    on it, the first were packets and are written in their order, and the others are left. -/
def OrdersLeft (left : List Order) (ledger : List Dealing) : Prop :=
  ∃ (earlier talk : List Dealing) (sent : List Packet), ledger = earlier ++ .opened :: talk ∧
    .opened ∉ talk ∧ .closed ∉ talk ∧
    talk.filterMap Dealing.order = sent.map .send ++ left ∧
    talk.filterMap Dealing.frame = sent.map .packet

theorem ordersLeft_opened (ledger : List Dealing) : OrdersLeft [] (ledger ++ [.opened]) :=
  ⟨ledger, [], [], by simp⟩

theorem OrdersLeft.ask {left : List Order} {ledger : List Dealing} (holds : OrdersLeft left ledger)
    (more : List Order) : OrdersLeft (left ++ more) (ledger ++ more.map .asked) := by
  obtain ⟨earlier, talk, sent, split, unopened, unclosed, orders, frames⟩ := holds
  have asked : (more.map Dealing.asked).filterMap Dealing.order = more := by
    simp [List.filterMap_map, Function.comp_def, Dealing.order]
  have unwritten : (more.map Dealing.asked).filterMap Dealing.frame = [] := by
    simp [List.filterMap_map, Function.comp_def, Dealing.frame]
  refine ⟨earlier, talk ++ more.map .asked, sent, by simp [split], by simp [unopened],
    by simp [unclosed], ?_, ?_⟩
  · rw [List.filterMap_append, orders, asked, List.append_assoc]
  · rw [List.filterMap_append, frames, unwritten, List.append_nil]

theorem OrdersLeft.write {p : Packet} {left : List Order} {ledger : List Dealing}
    (holds : OrdersLeft (.send p :: left) ledger) :
    OrdersLeft left (ledger ++ [.wrote (.packet p)]) := by
  obtain ⟨earlier, talk, sent, split, unopened, unclosed, orders, frames⟩ := holds
  refine ⟨earlier, talk ++ [.wrote (.packet p)], sent ++ [p], by simp [split], by simp [unopened],
    by simp [unclosed], ?_, ?_⟩
  · simp [List.filterMap_append, orders, Dealing.order]
  · simp [List.filterMap_append, frames, Dealing.frame]

namespace Connection

variable {s : Circumstances} {c : Connection} {i : Stimulus}

/-- The orders that the session asks for as it deals with a frame or a tick. -/
def asked (s : Circumstances) (c : Connection) (i : Stimulus) : List Order :=
  ((c.handled i).map (c.ordersOn s)).getD []

def dealings (s : Circumstances) (c : Connection) (i : Stimulus) : List Dealing :=
  (c.asked s i).map .asked ++ (c.step s i).deeds.filterMap (Deed.dealing i)

def ledger (c : Connection) (history : List (Circumstances × Stimulus)) : List Dealing :=
  observed dealings c history

/-- How it goes on after a delay that was asked for.  A delay of zero is no wait. -/
def afterDelay (c : Connection) (delay : Span) : Deed × Stage :=
  if delay = 0 then
    if c.session.hasSession then (.dial, .dialing) else (.askTurn, .queueing)
  else (.wait delay, .pausing)

/-- How a socket takes up the first of the orders that are left. -/
inductive TakesUp (s : Circumstances) (c : Connection) : List Order → Advance → Prop where
  | nothing : TakesUp s c [] ⟨c, []⟩
  | packet (p : Packet) (rest : List Order) (writable : s.writeFault = none) :
      TakesUp s c (.send p :: rest) ⟨{ c with outbox := rest }, [.write (.packet p), .sent]⟩
  | fault (p : Packet) (rest : List Order) (why : String) (said way : List Deed) (next : Connection)
      (unwritable : s.writeFault = some why) (quiet : ∀ d ∈ said, d.milestone = false)
      (unsocketed : Unsocketed way) (offline : next.stage ≠ .online) :
      TakesUp s c (.send p :: rest) ⟨next, said ++ .closed :: way⟩
  | reconnect (code : CloseCode) (delay : Span) (rest : List Order) (said : List Deed)
      (next : Connection) (quiet : ∀ d ∈ said, d.milestone = false)
      (stage : next.stage = (c.afterDelay delay).2) :
      TakesUp s c (.reconnect code delay :: rest)
        ⟨next, (if s.writeFault.isSome then [] else [.write (.close code)]) ++ said ++
          [.closed, .retried 0, (c.afterDelay delay).1]⟩

theorem ledger_concat (c : Connection) (history : List (Circumstances × Stimulus))
    (last : Circumstances × Stimulus) :
    c.ledger (history ++ [last]) =
      c.ledger history ++ (c.run history).connection.dealings last.1 last.2 :=
  observed_concat dealings c history last

theorem asked_of_unhandled (s : Circumstances) (unhandled : c.handled i = none) :
    c.asked s i = [] := by
  simp [asked, unhandled]

theorem dealing_of_quiet {d : Deed} (quiet : d.milestone = false) : d.dealing i = none := by
  cases d with
  | opened | write | closed => cases quiet
  | _ => rfl

theorem no_dealing {deeds : List Deed} (unsocketed : Unsocketed deeds) :
    deeds.filterMap (Deed.dealing i) = [] := by
  apply List.filterMap_eq_nil_iff.mpr
  intro d member
  cases milestone : d.milestone with
  | false => exact dealing_of_quiet milestone
  | true =>
    rcases unsocketed d member milestone with same | ⟨why, same⟩ <;> rw [same] <;> rfl

theorem no_dealing_of_quiet {deeds : List Deed} (quiet : ∀ d ∈ deeds, d.milestone = false) :
    deeds.filterMap (Deed.dealing i) = [] :=
  no_dealing (unsocketed_of_quiet quiet)

theorem no_dealing_of_writes {deeds : List Deed} (other : i ≠ .flush)
    (writes : ∀ d ∈ deeds, d.milestone = true → ∃ f, d = .write f ∧ (i = .flush ∨ i.Prompts f)) :
    deeds.filterMap (Deed.dealing i) = [] := by
  apply List.filterMap_eq_nil_iff.mpr
  intro d member
  cases milestone : d.milestone with
  | false => exact dealing_of_quiet milestone
  | true =>
    obtain ⟨f, same, _⟩ := writes d member milestone
    simp [same, Deed.dealing, other]

/- An open socket takes up its orders. -/

theorem again_requested (s : Circumstances) (d : Span) (untripped : c.tripped = false) :
    let a := { c.restartCounts with requested := some d }.again s
    a.deeds = [.retried 0, (c.afterDelay d).1] ∧ a.connection.stage = (c.afterDelay d).2 := by
  simp only [again, round, restartCounts, untripped, Advance.also]
  by_cases now : d = 0 <;> cases has : c.session.hasSession <;>
    simp [pause, delay, approach, dial, afterDelay, now, has]

theorem hangUp_requested (s : Circumstances) (code : CloseCode) (d : Span)
    (untripped : c.tripped = false) :
    ∃ said next, c.hangUp s code (.reconnect d) =
        ⟨next, (if s.writeFault.isSome then [] else [.write (.close code)]) ++ said ++
          [.closed, .retried 0, (c.afterDelay d).1]⟩ ∧
      (∀ e ∈ said, e.milestone = false) ∧ next.stage = (c.afterDelay d).2 := by
  have spoken := converse_spoken s .closed c
  have held : (c.converse s .closed).connection.afterDelay d = c.afterDelay d := by
    simp only [afterDelay, spoken.session]
    rfl
  obtain ⟨deeds, stage⟩ := again_requested s d (spoken.tripped.trans untripped)
  rw [held] at deeds stage
  refine ⟨_, _, ?_, spoken.quiet, stage⟩
  simp only [hangUp, Advance.also, part_eq, onward, deeds, List.append_assoc]

theorem flush_takesUp (s : Circumstances) (stage : c.stage = .online) (untripped : c.tripped = false) :
    TakesUp s c c.outbox (c.step s .flush) := by
  rw [step_flush stage]
  unfold flush
  cases orders : c.outbox with
  | nil => exact .nothing
  | cons o rest =>
    cases o with
    | send p =>
      simp only [writePacket]
      cases fault : s.writeFault with
      | none => exact .packet p rest fault
      | some why =>
        obtain ⟨said, way, same, quiet, departs⟩ :=
          part_departs s (.failed (.webSocket why)) { c with outbox := rest }
        simp only [same]
        exact .fault p rest why said way.deeds _ fault quiet departs.unsocketed departs.offline
    | reconnect code d =>
      obtain ⟨said, next, same, quiet, stage⟩ :=
        hangUp_requested (c := { c with outbox := rest }) s code d untripped
      simp only [same]
      exact .reconnect code d rest said next quiet stage

/- What is left of the orders, from step to step. -/

theorem Turnout.ordersLeft {a : Advance} {ledger : List Dealing} (turnout : Turnout s c i a)
    (other : i ≠ .flush) (held : c.stage = .online → OrdersLeft c.outbox ledger)
    (online : a.connection.stage = .online) :
    OrdersLeft a.connection.outbox
      (ledger ++ ((c.asked s i).map .asked ++ a.deeds.filterMap (Deed.dealing i))) := by
  cases turnout with
  | stays outbox deeds unhandled waiting writes =>
    rw [asked_of_unhandled s unhandled, no_dealing_of_writes other writes, waiting other]
    simpa using held online
  | speaks j stage handled lead quiet =>
    have spoken := converse_spoken s j c
    have asked : c.asked s i = c.ordersOn s j := by simp [Connection.asked, handled]
    simp only [Advance.also, List.filterMap_append, no_dealing_of_quiet quiet,
      no_dealing_of_quiet spoken.quiet, converse_outbox, asked, List.append_nil]
    exact (held stage).ask _
  | parts why _ _ outbox goodbye =>
    obtain ⟨said, rest, same, _, departs⟩ := part_departs s why { c with outbox }
    simp only [Advance.also, same] at online
    exact absurd online departs.offline
  | enters stage unhandled =>
    have spoken := converse_spoken s .opened { c with stage := .online, outbox := [] }
    have silent : (c.enter s).connection.outbox = [] := converse_outbox s .opened _
    have opened : (c.enter s).deeds.filterMap (Deed.dealing i) = [.opened] := by
      simp [enter, Advance.also, Deed.dealing, no_dealing_of_quiet spoken.quiet]
    rw [silent, opened, asked_of_unhandled s unhandled]
    exact ordersLeft_opened ledger
  | fails e => exact absurd online (fail_failure s e c).offline
  | waits _ _ onward => exact absurd online onward.offline
  | halts => cases online

theorem afterDelay_offline (c : Connection) (d : Span) : (c.afterDelay d).2 ≠ .online := by
  unfold afterDelay
  split
  · split <;> simp
  · simp

theorem afterDelay_dealt (c : Connection) (d : Span) :
    [Deed.closed, .retried 0, (c.afterDelay d).1].filterMap (Deed.dealing .flush) = [.closed] := by
  unfold afterDelay
  split
  · split <;> rfl
  · rfl

theorem flush_offline (s : Circumstances) (offline : c.stage ≠ .online) :
    c.step s .flush = ⟨c, []⟩ := by
  cases stage : c.stage with
  | online => exact absurd stage offline
  | _ => simp only [step, stage]

theorem asked_flush (s : Circumstances) (c : Connection) : c.asked s .flush = [] := by
  have unhandled : c.handled .flush = none := by
    unfold handled
    cases c.stage <;> rfl
  exact asked_of_unhandled s unhandled

theorem TakesUp.ordersLeft {a : Advance} {ledger : List Dealing} {orders : List Order}
    (takes : TakesUp s c orders a) (same : c.outbox = orders) (held : OrdersLeft orders ledger)
    (online : a.connection.stage = .online) :
    OrdersLeft a.connection.outbox (ledger ++ a.deeds.filterMap (Deed.dealing .flush)) := by
  cases takes with
  | nothing => simpa [same] using held
  | packet p rest => exact held.write
  | fault _ _ _ _ _ _ _ _ _ offline => exact absurd online offline
  | reconnect code d _ _ _ _ stage =>
    rw [stage] at online
    exact absurd online (c.afterDelay_offline d)

theorem step_ordersLeft {ledger : List Dealing} (closed : c.BreakerClosed)
    (held : c.stage = .online → OrdersLeft c.outbox ledger)
    (online : (c.step s i).connection.stage = .online) :
    OrdersLeft (c.step s i).connection.outbox (ledger ++ c.dealings s i) := by
  -- only a flush takes orders off the line, every other step adds to it at most
  by_cases flushes : i = .flush
  · subst flushes
    unfold dealings
    rw [asked_flush]
    by_cases stage : c.stage = .online
    · have untripped := closed.untripped (by simp [stage]) (by simp [stage])
      exact (flush_takesUp s stage untripped).ordersLeft rfl (held stage) online
    · rw [flush_offline s stage] at online
      exact absurd online stage
  · exact (step_turnout s closed i).ordersLeft flushes held online

/-- As an order is taken up, nothing is written but what it comes to. -/
theorem TakesUp.dealt {a : Advance} {orders : List Order} (takes : TakesUp s c orders a) :
    let dealt := a.deeds.filterMap (Deed.dealing .flush)
    (∀ f, .wrote f ∉ dealt) ∨ ∃ o left rest, orders = o :: left ∧ dealt = .wrote o.frame :: rest ∧
      ∀ f, .wrote f ∉ rest := by
  intro dealt
  cases takes with
  | nothing => exact Or.inl (by simp [dealt])
  | packet p rest => exact Or.inr ⟨_, rest, [], rfl, rfl, by simp⟩
  | fault p rest why said way _ _ quiet unsocketed =>
    have closes : dealt = [.closed] := by
      simp [dealt, Deed.dealing, no_dealing_of_quiet quiet, no_dealing unsocketed]
    exact Or.inl (by simp [closes])
  | reconnect code d rest said _ quiet =>
    have leaves : dealt = (if s.writeFault.isSome then [] else [.wrote (.close code)]) ++ [.closed] := by
      simp only [dealt, List.filterMap_append, no_dealing_of_quiet quiet, c.afterDelay_dealt d,
        List.append_nil]
      split <;> rfl
    cases fault : s.writeFault with
    | none => exact Or.inr ⟨_, rest, [.closed], rfl, by simp [leaves, fault, Order.frame], by simp⟩
    | some why => exact Or.inl (by simp [leaves, fault])

theorem step_writes {before later : List Dealing} {f : Frame} (closed : c.BreakerClosed)
    (split : c.dealings s i = before ++ .wrote f :: later) :
    before = [] ∧ c.stage = .online ∧ ∃ o left, c.outbox = o :: left ∧ f = o.frame := by
  have member : Dealing.wrote f ∈ c.dealings s i := by simp [split]
  have flushes : i = .flush := by
    rcases List.mem_append.mp member with asked | done
    · simp at asked
    · obtain ⟨d, _, same⟩ := List.mem_filterMap.mp done
      cases d <;> simp [Deed.dealing] at same
      exact same.1
  subst flushes
  unfold dealings at split member
  rw [asked_flush, List.map_nil, List.nil_append] at split member
  by_cases stage : c.stage = .online
  · have untripped := closed.untripped (by simp [stage]) (by simp [stage])
    rcases (flush_takesUp s stage untripped).dealt with silent | ⟨o, left, rest, orders, dealt, last⟩
    · exact absurd member (silent f)
    · rw [dealt] at split
      cases before with
      | nil =>
        obtain ⟨first, _⟩ := List.cons.inj split
        cases first
        exact ⟨rfl, stage, o, left, orders, rfl⟩
      | cons _ between =>
        obtain ⟨_, tail⟩ := List.cons.inj split
        exact absurd (by simp [tail]) (last f)
  · rw [flush_offline s stage] at member
    simp at member

theorem Turnout.prompted {a : Advance} {f : Frame} (turnout : Turnout s c i a)
    (written : .write f ∈ a.deeds) : i = .flush ∨ i.Prompts f := by
  have unwritten {deeds : List Deed} (unsocketed : Unsocketed deeds) : .write f ∉ deeds := by
    intro member
    rcases unsocketed _ member rfl with same | ⟨_, same⟩ <;> cases same
  have from_writes {deeds : List Deed} (member : .write f ∈ deeds)
      (writes : .write f ∈ deeds → ∃ g, Deed.write f = .write g ∧ (i = .flush ∨ i.Prompts g)) :
      i = .flush ∨ i.Prompts f := by
    obtain ⟨g, same, prompts⟩ := writes member
    cases same
    exact prompts
  cases turnout with
  | stays outbox deeds _ _ writes => exact from_writes written fun member => writes _ member rfl
  | speaks j stage handled lead quiet =>
    have spoken := converse_spoken s j c
    rcases List.mem_append.mp written with early | later
    · exact absurd early (unwritten (unsocketed_of_quiet quiet))
    · exact absurd later (unwritten (unsocketed_of_quiet spoken.quiet))
  | parts why _ _ outbox goodbye writes =>
    obtain ⟨said, rest, same, quiet, departs⟩ := part_departs s why { c with outbox }
    simp only [Advance.also, same, List.mem_append, List.mem_cons] at written
    rcases written with early | said | closes | way
    · exact from_writes early (writes _)
    · exact absurd said (unwritten (unsocketed_of_quiet quiet))
    · cases closes
    · exact absurd way (unwritten departs.unsocketed)
  | enters =>
    have spoken := converse_spoken s .opened { c with stage := .online, outbox := [] }
    rcases List.mem_append.mp written with opens | said
    · simp at opens
    · exact absurd said (unwritten (unsocketed_of_quiet spoken.quiet))
  | fails e => exact absurd written (unwritten (fail_failure s e c).unsocketed)
  | waits _ _ onward => exact absurd written (unwritten (unsocketed_of_quiet onward.quiet))
  | halts => simp at written

/-- Whatever the session asks for, the socket is not left at once. -/
theorem Turnout.unclosed {a : Advance} {j : SessionInput} (turnout : Turnout s c i a)
    (handled : c.handled i = some j) : .closed ∉ a.deeds := by
  cases turnout with
  | speaks j' _ _ lead quiet =>
    have spoken := converse_spoken s j' c
    intro closes
    rcases List.mem_append.mp closes with early | later
    · cases quiet _ early
    · cases spoken.quiet _ later
  | stays _ _ unhandled | parts _ _ unhandled | enters _ unhandled | fails _ _ unhandled
  | waits unhandled | halts unhandled =>
    rw [unhandled] at handled
    cases handled

theorem run_ordersLeft (settings : GatewaySettings) (shard : Shard)
    (history : List (Circumstances × Stimulus)) :
    let first := (start settings shard).connection
    let c := (first.run history).connection
    c.stage = .online → OrdersLeft c.outbox (first.ledger history) := by
  induction history using List.reverseRecOn with
  | nil =>
    intro first c online
    cases online
  | append_singleton history last ih =>
    intro first c online
    have grows := ledger_concat first history last
    have steps : c = _ := run_concat first history last
    rw [steps] at online ⊢
    rw [grows]
    exact step_ordersLeft (run_breakerClosed settings shard history) ih online

theorem run_writes (settings : GatewaySettings) (shard : Shard)
    (history : List (Circumstances × Stimulus)) (before : List Dealing) (f : Frame)
    (later : List Dealing)
    (split : (start settings shard).connection.ledger history = before ++ .wrote f :: later) :
    ∃ o left, OrdersLeft (o :: left) before ∧ f = o.frame := by
  induction history using List.reverseRecOn generalizing later with
  | nil => simp [ledger, observed] at split
  | append_singleton history last ih =>
    rw [ledger_concat] at split
    rcases split_append split with ⟨rest, front, _⟩ | ⟨rest, front, back⟩
    · exact ih rest front
    · obtain ⟨none, stage, o, left, orders, same⟩ :=
        step_writes (run_breakerClosed settings shard history) back
      have held := run_ordersLeft settings shard history stage
      rw [orders] at held
      rw [front, none, List.append_nil]
      exact ⟨o, left, held, same⟩

/-- What a socket writes on behalf of the session is the order that is first among those left, of the
    orders that the session asked for on this socket as it dealt with a frame or a tick: all that were
    asked for before it are packets that have been written in their order, and none is from an earlier
    socket.  As long as a socket is open it takes up the next of them: it writes the packet, or closes
    with the code and then waits as long as it was asked to.  Nothing else is written but what the
    socket hears or a command prompts, and what the session deals with does not by itself close it. -/
theorem orders_stay_on_their_socket (settings : GatewaySettings) (shard : Shard)
    (history : List (Circumstances × Stimulus)) :
    let first := (start settings shard).connection
    let c := (first.run history).connection
    (∀ before f later, first.ledger history = before ++ .wrote f :: later →
      ∃ o left, OrdersLeft (o :: left) before ∧ f = o.frame) ∧
    (c.stage = .online → OrdersLeft c.outbox (first.ledger history) ∧
      ∀ s, TakesUp s c c.outbox (c.step s .flush)) ∧
    ∀ s i, (∀ f, .write f ∈ (c.step s i).deeds → i = .flush ∨ i.Prompts f) ∧
      ∀ j, c.handled i = some j → .closed ∉ (c.step s i).deeds := by
  intro first c
  have closed : c.BreakerClosed := run_breakerClosed settings shard history
  refine ⟨run_writes settings shard history, ?_, ?_⟩
  · intro stage
    have untripped := closed.untripped (by simp [stage]) (by simp [stage])
    exact ⟨run_ordersLeft settings shard history stage, fun s => flush_takesUp s stage untripped⟩
  · intro s i
    have turnout := step_turnout s closed i
    exact ⟨fun f written => turnout.prompted written, fun j handled => turnout.unclosed handled⟩

/-- The server asks for a reconnection and then for a heartbeat: the heartbeat is never written. -/
theorem heartbeat_behind_reconnect_is_forgotten :
    let around : Circumstances := ⟨.steady 0, .ofNat 1, true, fun _ => true, none⟩
    let hello : Packet := ⟨.hello, some (.list [.number (.whole 45000)]), none, none⟩
    let greeting : Stimulus := .heard (.text "[10,[45000]]")
    let once := [(around, .turn), (around, .dialed .opened), (around, greeting)]
    let asking := once ++ [(around, .heard (.text "[7,null]")), (around, .heard (.text "[1,null]"))]
    let history := asking ++ [(around, .flush), (around, .flush), (around, .timeUp)] ++ once ++
      [(around, .flush)]
    let identify := Packet.identify "token" 0 ⟨0, 1⟩
    let orders : List Order :=
      [.send identify, .reconnect .resumable (Span.ofSeconds 1), .send (.heartbeat none)]
    let socket := .opened :: orders.map .asked ++ [.wrote (.packet identify)]
    let next := [.closed, .opened, .asked (.send identify)]
    let ping : Stimulus := .heard (.ping [7])
    let first := (start { token := "token" } ⟨0, 1⟩).connection
    let c := (first.run asking).connection
    first.ledger history = socket ++ .wrote (.close .resumable) :: (next ++ [.wrote (.packet identify)]) ∧
      (∃ o left, OrdersLeft (o :: left) socket ∧ .close .resumable = o.frame) ∧
      (∃ o left, OrdersLeft (o :: left) (socket ++ .wrote (.close .resumable) :: next) ∧
        .packet identify = o.frame) ∧
      c.stage = .online ∧ OrdersLeft orders (first.ledger asking) ∧
      TakesUp around c orders (c.step around .flush) ∧
      .write (.pong [7]) ∈ (c.step around ping).deeds ∧ ping.Prompts (.pong [7]) ∧
      c.handled greeting = some (.frame hello) ∧ .closed ∉ (c.step around greeting).deeds := by
  intro around hello greeting once asking history identify orders socket next ping first c
  have shape : first.ledger history = socket ++ .wrote (.close .resumable) ::
      (next ++ [.wrote (.packet identify)]) := by decide +kernel
  have online : c.stage = .online := by decide +kernel
  have waiting : c.outbox = orders := by decide +kernel
  have written : .write (.pong [7]) ∈ (c.step around ping).deeds := by decide +kernel
  have handled : c.handled greeting = some (.frame hello) := by decide +kernel
  obtain ⟨writes, _, _⟩ := orders_stay_on_their_socket { token := "token" } ⟨0, 1⟩ history
  obtain ⟨_, takesUp, rest⟩ := orders_stay_on_their_socket { token := "token" } ⟨0, 1⟩ asking
  obtain ⟨held, takes⟩ := takesUp online
  obtain ⟨prompted, _⟩ := rest around ping
  obtain ⟨_, unclosed⟩ := rest around greeting
  have taken := takes around
  rw [waiting] at held taken
  exact ⟨shape, writes socket _ _ shape, writes _ _ [] (shape.trans (by simp)), online, held, taken, written,
    (prompted _ written).resolve_left (by simp [ping]), handled, unclosed _ handled⟩

end Connection
end SessionFleet
