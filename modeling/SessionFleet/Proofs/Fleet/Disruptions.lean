import SessionFleet.Proofs.Fleet.Balance
/- What is counted of the sockets that sessions give up.  Each is counted once, by its cause; but a
   greeting that cannot be used goes under the errors and not, with the heartbeats that were not
   answered, under the failures of heartbeats. -/
namespace SessionFleet

namespace Disruption

/-- Every cause is of one of four kinds. -/
theorem count_by_kind (causes : List Disruption) :
    causes.length = causes.countP (· = .reconnectRequested) + causes.countP isRefusal +
      causes.countP (· = .ackMissed) + causes.countP (· = .badHello) := by
  induction causes with
  | nil => rfl
  | cons why rest ih =>
    cases why <;> simp [isRefusal, List.countP_cons, ih] <;> omega

end Disruption

theorem countP_or {α : Type} {first second : α → Bool}
    (apart : ∀ a, first a = true → second a = false) (l : List α) :
    l.countP (fun a => first a || second a) = l.countP first + l.countP second := by
  induction l with
  | nil => rfl
  | cons a rest ih =>
    have alone := apart a
    simp only [List.countP_cons, ih]
    cases one : first a <;> cases other : second a <;> simp_all <;> omega

namespace Counters

theorem serverReconnects_totals :
    Totals Counters.serverReconnects fun d => d.cause?.any (· = .reconnectRequested) :=
  fun c d => (record_adds c d).serverReconnects

theorem invalidSessions_totals :
    Totals Counters.invalidSessions fun d => d.cause?.any Disruption.isRefusal :=
  fun c d => (record_adds c d).invalidSessions

theorem heartbeatFailures_totals :
    Totals Counters.heartbeatFailures fun d => d.cause?.any (· = .ackMissed) :=
  fun c d => (record_adds c d).heartbeatFailures

/-- An error is a failure, of an attempt or of the handler, or a greeting that cannot be used. -/
theorem errors_totals :
    Totals Counters.errors fun d => d.isFailed || d.cause?.any (· = .badHello) :=
  fun c d => (record_adds c d).errors

end Counters

namespace Talk

def misses (t : Talk) : Bool := t.session.misses t.input

theorem cause_request (t : Talk) :
    t.cause?.any (· = .reconnectRequested) = t.input.hasOp .reconnect := by
  rw [cause?, Session.cause?_any]
  simp

theorem cause_refusal (t : Talk) :
    t.cause?.any Disruption.isRefusal = t.input.hasOp .invalidSession := by
  rw [cause?, Session.cause?_any]
  simp [Disruption.isRefusal]

theorem cause_miss (t : Talk) : t.cause?.any (· = .ackMissed) = t.misses := by
  rw [cause?, Session.cause?_any]
  simp [misses]

theorem cause_badHello (t : Talk) : t.cause?.any (· = .badHello) = t.input.misgreets := by
  rw [cause?, Session.cause?_any]
  simp

end Talk

namespace Fleet

variable {settings : GatewaySettings} {run : List FleetEvent}

/-- The causes of a run, one after the other. -/
def causes (f : Fleet) (run : List FleetEvent) : List Disruption := (f.talks run).filterMap Talk.cause?

theorem cause_speaks (counts : Disruption → Bool) (d : Deed) (caused : d.cause?.any counts = true) :
    d.isSpoken = true := by
  cases d with
  | disrupted why => rfl
  | _ => cases caused

theorem total_of_causes {reads : Counters → Nat} {counts : Disruption → Bool}
    (totals : Counters.Totals reads fun d => d.cause?.any counts) (fresh : reads {} = 0) :
    reads ((create settings).after run).metrics.counters = ((create settings).causes run).countP counts := by
  rw [total_of_talks totals fresh (cause_speaks counts) fun t => t.cause_count counts, countP_any]
  rfl

/-- Whoever asks for what it counts among the causes, and is the cause. -/
theorem causes_count {counts : Disruption → Bool} {leads : Talk → Bool}
    (same : ∀ t : Talk, t.cause?.any counts = leads t) :
    ((create settings).causes run).countP counts = ((create settings).talks run).countP leads := by
  rw [causes, ← countP_any]
  exact List.countP_congr fun t _ => by rw [same]

theorem failed_apart (d : Deed) (failed : d.isFailed = true) :
    d.cause?.any (· = .badHello) = false := by
  cases d with
  | failed => rfl
  | _ => cases failed

theorem misses_apart (t : Talk) (misses : t.misses = true) : t.input.misgreets = false := by
  obtain ⟨_, session, input⟩ := t
  cases input with
  | tick generation => rfl
  | _ => cases misses

/-- However the shards of a fleet take turns, each cause to give a socket up is counted once.  The
    requests of the server, the sessions that it refuses and the heartbeats without an answer have
    totals of their own; a greeting that cannot be used is an error among those of failed attempts
    and handlers.  So the three totals fall short of the reconnections that the sessions ask for by the
    number of such greetings, and come up to it just if there is none. -/
theorem disruptions_counted_by_cause (settings : GatewaySettings) (run : List FleetEvent) :
    let totals := ((create settings).after run).metrics.counters
    let talks := (create settings).talks run
    let asked := (talks.flatMap (·.turn.effects)).countP Effect.reconnects
    let counted := totals.serverReconnects + totals.invalidSessions + totals.heartbeatFailures
    let useless := talks.countP (·.input.misgreets)
    totals.serverReconnects = talks.countP (·.input.hasOp .reconnect) ∧
      totals.invalidSessions = talks.countP (·.input.hasOp .invalidSession) ∧
      totals.heartbeatFailures = talks.countP Talk.misses ∧
      totals.errors =
        (deedsDone ((create settings).log run)).countP (fun e => e.2.isFailed) + useless ∧
      asked = counted + useless ∧
      (counted = asked ↔ ∀ t ∈ talks, t.input.misgreets = false) ∧
      (totals.heartbeatFailures = talks.countP (fun t => t.misses || t.input.misgreets) ↔
        ∀ t ∈ talks, t.input.misgreets = false) := by
  intro totals talks asked counted useless
  have request : totals.serverReconnects = talks.countP (·.input.hasOp .reconnect) :=
    (total_of_causes Counters.serverReconnects_totals rfl).trans (causes_count Talk.cause_request)
  have refusal : totals.invalidSessions = talks.countP (·.input.hasOp .invalidSession) :=
    (total_of_causes Counters.invalidSessions_totals rfl).trans (causes_count Talk.cause_refusal)
  have miss : totals.heartbeatFailures = talks.countP Talk.misses :=
    (total_of_causes Counters.heartbeatFailures_totals rfl).trans (causes_count Talk.cause_miss)
  have badHello : ((create settings).causes run).countP (· = .badHello) = useless :=
    causes_count Talk.cause_badHello
  have told : (deedsDone ((create settings).log run)).countP
      (fun e => e.2.cause?.any (· = .badHello)) = useless := by
    rw [countP_talks (cause_speaks _), countP_flatMap_of_one fun t => t.cause_count _, countP_any]
    exact badHello
  have errors : totals.errors =
      (deedsDone ((create settings).log run)).countP (fun e => e.2.isFailed) + useless := by
    have total := total_eq settings run Counters.errors_totals rfl
    have split := countP_or (fun e : Nat × Deed => failed_apart e.2)
      (deedsDone ((create settings).log run))
    rw [split, told] at total
    exact total
  have all : asked = counted + useless := by
    have asks : asked = ((create settings).causes run).length := by
      rw [causes, List.length_filterMap_eq_countP]
      exact countP_flatMap_of_one Talk.reconnects_count talks
    have kinds := Disruption.count_by_kind ((create settings).causes run)
    rw [badHello, ← total_of_causes Counters.serverReconnects_totals rfl,
      ← total_of_causes Counters.invalidSessions_totals rfl,
      ← total_of_causes Counters.heartbeatFailures_totals rfl] at kinds
    exact asks.trans kinds
  have none : useless = 0 ↔ ∀ t ∈ talks, t.input.misgreets = false := by
    simp [useless, List.countP_eq_zero]
  refine ⟨request, refusal, miss, errors, all, ?_, ?_⟩
  · rw [← none]
    omega
  · rw [← none, countP_or misses_apart, ← miss]
    omega

/-- The only greeting of a shard names no time between two heartbeats.  The socket is given up for
    it, which counts as an error and as nothing else. -/
theorem useless_greeting_is_no_heartbeat_failure :
    let around : Circumstances := ⟨.steady 0, .ofNat 1, true, fun _ => true, none⟩
    let event (i : FleetInput) : FleetEvent := .input (fun _ => none) around i
    let run := [event (.call 0 (.start ⟨0, 0, 1, { token := "token" }⟩)), event (.stimulus 0 .turn),
      event (.stimulus 0 (.dialed .opened)), event (.stimulus 0 (.heard (.text "[10,[0]]"))),
      event (.stimulus 0 .flush)]
    let totals := ((create { token := "token" }).after run).metrics.counters
    let talks := (create { token := "token" }).talks run
    totals.heartbeatFailures = 0 ∧ totals.errors = 1 ∧
      talks.countP (fun t => t.misses || t.input.misgreets) = 1 ∧
      (talks.flatMap (·.turn.effects)).countP Effect.reconnects = 1 ∧
      totals.serverReconnects + totals.invalidSessions + totals.heartbeatFailures = 0 := by
  decide +kernel

end Fleet
end SessionFleet
