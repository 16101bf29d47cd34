import SessionFleet.Fleet.State
/- The steps of a fleet. -/
namespace SessionFleet

def LaunchPlan.delay (p : LaunchPlan) : Span := p.settings.connection.shardStartDelay

def LaunchPlan.fault? (p : LaunchPlan) : Option SettingsFault :=
  if p.total = 0 || p.last < p.first || p.total ≤ p.last then some (.badShards p.first p.last p.total)
  else none

namespace Fleet

/-- Counts what a shard has done, and shows it. -/
def note (f : Fleet) (shard : Nat) (now : Instant) (ds : List Deed) : List FleetAct × Fleet :=
  (ds.map (.deed shard), { f with metrics := f.metrics.recordAll shard now ds })

/-- Launches one shard. -/
def launch (f : Fleet) (now : Instant) (p : LaunchPlan) (shard : Nat) : List FleetAct × Fleet :=
  let a := Connection.start p.settings ⟨shard, p.total⟩
  let f : Fleet := { f with
    metrics := f.metrics.enroll shard
    members := f.members ++ [⟨a.connection, []⟩] }
  f.note shard now a.deeds

/-- Launches the shards from `next` on, until one has to wait for its time or all are there; `left`
    are those behind `next`. -/
def launchOn (f : Fleet) (now : Instant) (caller : Nat) (p : LaunchPlan) (next : Nat) :
    Nat → List FleetAct × Fleet
  | 0 =>
    let (acts, f) := f.launch now p next
    (acts ++ [.started caller none], { f with underway := none })
  | left + 1 =>
    let (acts, f) := f.launch now p next
    if p.delay = 0 then
      let (more, f) := launchOn f now caller p (next + 1) left
      (acts ++ more, f)
    else
      (acts ++ [.stagger p.delay], { f with underway := some (.launching caller p (next + 1)) })

/-- A fleet is started only if no shard runs, the range fits, and there is someone to hand out
    turns. -/
def start (f : Fleet) (storeFault : String → Option String) (now : Instant) (caller : Nat)
    (p : LaunchPlan) : List FleetAct × Fleet :=
  if f.isRunning then ([.started caller (some (.protocol "Cluster is already running"))], f)
  else
    match p.fault? with
    | some fault => ([.started caller (some (.ofSettings fault))], f)
    | none =>
      match Arbiter.create storeFault p.settings.identify with
      | .error e => ([.started caller (some e)], f)
      | .ok a =>
        let (acts, f) := f.launchOn now caller p p.first (p.last - p.first)
        (.turns a :: acts, f)

/-- A shutdown is over as soon as every connection has stopped. -/
def finishClosing (f : Fleet) : List FleetAct × Fleet :=
  match f.underway with
  | some (.closing caller) =>
    if f.leaving.all fun m => m.connection.isStopped then
      ([.ended caller], { f with leaving := [], underway := none })
    else ([], f)
  | _ => ([], f)

/-- Every member that still runs is told to stop, and none can be reached any more. -/
def shutdown (f : Fleet) (caller : Nat) : List FleetAct × Fleet :=
  let f : Fleet := { f with
    members := []
    leaving := f.members.map fun m => m.post .close
    underway := some (.closing caller) }
  f.finishClosing

def undertake (f : Fleet) (storeFault : String → Option String) (now : Instant) (caller : Nat) :
    Errand → List FleetAct × Fleet
  | .start p => f.start storeFault now caller p
  | .shutdown => f.shutdown caller

/-- Serves the callers in line until the errand of one of them has to wait. -/
def serve (storeFault : String → Option String) (now : Instant) :
    List (Nat × Errand) → Fleet → List FleetAct × Fleet
  | [], f => ([], { f with line := [] })
  | (caller, e) :: rest, f =>
    if f.underway.isSome then ([], { f with line := (caller, e) :: rest })
    else
      let (acts, f) := f.undertake storeFault now caller e
      let (more, f) := serve storeFault now rest f
      (acts ++ more, f)

/-- Lets the next callers go on after something has happened. -/
def thenServe (storeFault : String → Option String) (now : Instant) (r : List FleetAct × Fleet) :
    List FleetAct × Fleet :=
  let (more, f) := serve storeFault now r.2.line r.2
  (r.1 ++ more, f)

/-- A launch that waits for its next shard is cut short as soon as somebody calls for a shutdown. -/
def cutShort (f : Fleet) : Errand → List FleetAct × Fleet
  | .start _ => ([], f)
  | .shutdown =>
    match f.underway with
    | some (.launching caller _ _) => ([.started caller none], { f with underway := none })
    | _ => ([], f)

def replace (shard : Nat) (n : Member) (ms : List Member) : List Member :=
  ms.map fun m => if m.shard = shard then n else m

/-- A step of one shard's connection. -/
def advance (f : Fleet) (s : Circumstances) (shard : Nat) (m : Member) (i : Stimulus) :
    List FleetAct × Fleet :=
  let a := m.connection.step s i
  let n := { m with connection := a.connection }
  let f : Fleet := { f with
    members := replace shard n f.members
    leaving := replace shard n f.leaving }
  let (acts, f) := f.note shard s.moment.now a.deeds
  let (more, f) := f.finishClosing
  (acts ++ more, f)

def member? (f : Fleet) (shard : Nat) : Option Member := f.crew.find? fun m => m.shard = shard

/-- A connection takes up its oldest command, if it listens. -/
def takeMail (f : Fleet) (s : Circumstances) (shard : Nat) : List FleetAct × Fleet :=
  match f.member? shard with
  | none => ([], f)
  | some m =>
    match m.mailbox with
    | [] => ([], f)
    | k :: rest =>
      if m.connection.listens then f.advance s shard { m with mailbox := rest } (.command k) else ([], f)

def step (f : Fleet) (storeFault : String → Option String) (s : Circumstances) :
    FleetInput → List FleetAct × Fleet
  | .call caller e =>
    let f : Fleet := { f with line := f.line ++ [(caller, e)] }
    thenServe storeFault s.moment.now (f.cutShort e)
  | .staggered =>
    match f.underway with
    | some (.launching caller p next) =>
      thenServe storeFault s.moment.now (f.launchOn s.moment.now caller p next (p.last - next))
    | _ => ([], f)
  | .stimulus shard i =>
    match f.member? shard with
    | none => ([], f)
    | some m => thenServe storeFault s.moment.now (f.advance s shard m i)
  | .mail shard => thenServe storeFault s.moment.now (f.takeMail s shard)

end Fleet
end SessionFleet
