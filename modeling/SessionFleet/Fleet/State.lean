import SessionFleet.Connection.Step
import SessionFleet.Fleet.Metrics
import SessionFleet.Identify.Arbiter
import SessionFleet.Rest.BotInfo
/- A fleet: the connections of a range of shards, and the callers that start and stop them.

   Starts and shutdowns take turns.  A start launches its shards one by one and may have to wait
   between them; a shutdown waits until every connection has stopped. -/
namespace SessionFleet

/-- A connection, and the commands that it has not taken up yet, oldest first. -/
structure Member where
  connection : Connection
  mailbox : List Command
  deriving DecidableEq, Repr

namespace Member

def shard (m : Member) : Nat := m.connection.session.shard.id

def hasMail (m : Member) : Bool := m.connection.listens && !m.mailbox.isEmpty

def post (k : Command) (m : Member) : Member := { m with mailbox := m.mailbox ++ [k] }

end Member

/-- What a start is asked to launch. -/
structure LaunchPlan where
  first : Nat
  last : Nat
  total : Nat
  settings : GatewaySettings
  deriving DecidableEq, Repr

/-- What a caller wants of the whole fleet. -/
inductive Errand where
  | start (plan : LaunchPlan)
  | shutdown
  deriving DecidableEq, Repr

/-- The errand that is under way. -/
inductive Underway where
  /-- shard `next` is launched when its time has come -/
  | launching (caller : Nat) (plan : LaunchPlan) (next : Nat)
  | closing (caller : Nat)
  deriving DecidableEq, Repr

structure Fleet where
  settings : GatewaySettings
  metrics : Metrics
  /-- by ascending shard; commands reach them -/
  members : List Member
  /-- those that a shutdown waits for -/
  leaving : List Member
  underway : Option Underway
  /-- the callers behind the one whose errand is under way, first come first -/
  line : List (Nat × Errand)
  deriving DecidableEq, Repr

/-- What happens to a fleet next. -/
inductive FleetInput where
  | call (caller : Nat) (e : Errand)
  /-- the time between two launches is over -/
  | staggered
  | stimulus (shard : Nat) (i : Stimulus)
  /-- a connection takes up its oldest command -/
  | mail (shard : Nat)
  deriving DecidableEq, Repr

/-- What a fleet does. -/
inductive FleetAct where
  | deed (shard : Nat) (d : Deed)
  /-- who hands out turns from now on -/
  | turns (a : Arbiter)
  /-- the next launch comes after this delay -/
  | stagger (delay : Span)
  | started (caller : Nat) (fault : Option FleetError)
  | ended (caller : Nat)
  deriving DecidableEq, Repr

namespace Fleet

def create (settings : GatewaySettings) : Fleet := ⟨settings, {}, [], [], none, []⟩

def shardIds (f : Fleet) : List Nat := f.members.map (·.shard)

def isRunning (f : Fleet) : Bool := !f.members.isEmpty

/-- Every connection that has not been seen to stop. -/
def crew (f : Fleet) : List Member := f.members ++ f.leaving

/-- Hands a command to a shard.  A connection that has stopped takes none. -/
def post (f : Fleet) (shard : Nat) (k : Command) : Except FleetError Fleet :=
  match f.members.find? fun m => m.shard = shard with
  | none => .error .shuttingDown
  | some m =>
    if m.connection.isStopped then .error (.channelSend "channel closed")
    else .ok { f with members := f.members.map fun n => if n.shard = shard then n.post k else n }

/-- What a recommendation asks to launch: at least one shard, under the address and with the
    concurrency that it names. -/
def recommended (f : Fleet) (i : BotInfo) : LaunchPlan :=
  let total := max i.shards 1
  { first := 0
    last := total - 1
    total
    settings := { f.settings with
      gatewayUrl := i.url
      identify := { f.settings.identify with
        recommendedConcurrency := max i.sessionStartLimit.maxConcurrency 1 } } }

end Fleet
end SessionFleet
