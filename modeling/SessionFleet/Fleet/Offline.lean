import SessionFleet.Fleet.Step
/- A fleet over time on a machine that reaches nobody: every attempt to connect fails at once, every
   store is away, and a server that hands out turns cannot be asked, which counts as a turn.

   Time moves in jumps.  In a jump everything that is due goes off in the order in which it is due;
   whatever it sets in motion starts at the end of the jump. -/
namespace SessionFleet

structure Offline where
  fleet : Fleet
  now : Instant
  /-- nothing if turns are granted as soon as somebody asks -/
  turns : Option LocalTurns
  /-- when the wait of which shard is over -/
  alarms : Table Nat Instant
  nextLaunch : Option Instant
  /-- what the handler answers to the errors to come; after these it agrees to go on -/
  answers : List Bool
  /-- the part of each backoff that jitter leaves -/
  fraction : Binary64
  /-- what the fleet has done -/
  acts : List FleetAct

namespace Offline

def reason : String := "no network"

def storeFault (_ : String) : Option String := some reason

def start (settings : GatewaySettings) (answers : List Bool) (fraction : Binary64) : Offline :=
  ⟨.create settings, 0, none, [], none, answers, fraction, []⟩

def circumstances (o : Offline) : Circumstances :=
  ⟨.steady o.now, o.fraction, o.answers.headD true, fun _ => true, some reason⟩

def timer (o : Offline) (d : Span) : Instant := Instant.ceilMillis (o.now + d)

/-- What a deed leads to at once, and what it leaves for later. -/
def answerDeed (o : Offline) (shard : Nat) : Deed → List FleetInput × Offline
  | .wait d => ([], { o with alarms := Table.put shard (o.timer d) o.alarms })
  | .askTurn =>
    match o.turns with
    | none => ([.stimulus shard .turn], o)
    | some q => ([], { o with turns := some (q.join shard shard o.now) })
  | .leave =>
    ([], { o with alarms := Table.remove shard o.alarms, turns := o.turns.map fun q => q.abandon shard })
  | .dial => ([.stimulus shard (.dialed (.failed (.connectionFailed 0 reason)))], o)
  | .error _ => ([], { o with answers := o.answers.drop 1 })
  | _ => ([], o)

def answerAct (o : Offline) : FleetAct → List FleetInput × Offline
  | .deed shard d => o.answerDeed shard d
  | .turns (.local q) => ([], { o with turns := some q })
  | .turns _ => ([], { o with turns := none })
  | .stagger d => ([], { o with nextLaunch := some (o.timer d) })
  | .started _ _ => ([], { o with nextLaunch := none })
  | .ended _ => ([], o)

def answerAll : List FleetAct → Offline → List FleetInput × Offline
  | [], o => ([], o)
  | a :: rest, o =>
    let (inputs, o) := o.answerAct a
    let (more, o) := answerAll rest o
    (inputs ++ more, o)

def perform (o : Offline) (i : FleetInput) : List FleetInput × Offline :=
  let (acts, fleet) := o.fleet.step storeFault o.circumstances i
  answerAll acts { o with fleet, acts := o.acts ++ acts }

/-- Goes on until nothing is left that happens at once. -/
def settle : Nat → List FleetInput → Offline → Offline
  | 0, _, o => o
  | fuel + 1, i :: rest, o =>
    let (more, o) := o.perform i
    settle fuel (rest ++ more) o
  | fuel + 1, [], o =>
    match o.fleet.crew.find? (·.hasMail) with
    | none => o
    | some m =>
      let (more, o) := o.perform (.mail m.shard)
      settle fuel more o

/-- Every attempt takes a turn, a dial and a wait, and every command is taken up once. -/
def enough (o : Offline) : Nat :=
  let work (m : Member) : Nat :=
    4 * (m.connection.settings.connection.maxConnectAttempts + 2) + m.mailbox.length
  o.fleet.crew.foldl (fun n m => n + work m) 1

def settleAll (o : Offline) (inputs : List FleetInput) : Offline :=
  settle (o.enough + inputs.length) inputs o

def act (o : Offline) (i : FleetInput) : Offline :=
  let (more, o) := o.perform i
  o.settleAll more

def call (o : Offline) (caller : Nat) (e : Errand) : Offline := o.act (.call caller e)

def command (o : Offline) (shard : Nat) (k : Command) : Except FleetError Offline :=
  (o.fleet.post shard k).map fun fleet => { o with fleet }.settleAll []

/-- What goes off by itself. -/
inductive Alarm where
  | round
  | shard (id : Nat)
  | launch
  deriving DecidableEq, Repr

/-- The alarms that are set; of those that are due together, the first goes off first. -/
def alarmsSet (o : Offline) : List (Instant × Alarm) :=
  ((o.turns.bind (·.nextRound)).map fun t => (t, .round)).toList ++
    o.alarms.map (fun a => (a.2, .shard a.1)) ++
    (o.nextLaunch.map fun t => (t, .launch)).toList

def nextDue (o : Offline) : Option Alarm :=
  ((o.alarmsSet.filter fun a => a.1 ≤ o.now).foldl (fun best a => match best with
    | none => some a
    | some b => if a.1 < b.1 then some a else best) none).map (·.2)

def ring (o : Offline) : Alarm → Offline
  | .round =>
    match o.turns with
    | none => o
    | some q =>
      let (shards, q) := q.round o.now
      { o with turns := some q }.settleAll (shards.map fun shard => .stimulus shard .turn)
  | .shard id => { o with alarms := Table.remove id o.alarms }.act (.stimulus id .timeUp)
  | .launch => { o with nextLaunch := none }.act .staggered

def ringAll : Nat → Offline → Offline
  | 0, o => o
  | fuel + 1, o =>
    match o.nextDue with
    | none => o
    | some a => ringAll fuel (o.ring a)

/-- Nothing that a jump sets in motion is due within it. -/
def advance (o : Offline) (d : Span) : Offline := ringAll o.alarmsSet.length { o with now := o.now + d }

end Offline
end SessionFleet
