import SessionFleet.Identify.LocalTurns
import SessionFleet.Identify.LockTurns
import SessionFleet.Identify.RemoteTurns
import SessionFleet.Settings.Gateway
/- Whoever hands out the turns to identify, as the settings choose it. -/
namespace SessionFleet

inductive Arbiter where
  | local (turns : LocalTurns)
  | sharedLock (turns : LockTurns)
  | remoteQueue (turns : RemoteTurns)
  deriving DecidableEq, Repr

namespace Arbiter

/-- `storeFault` tells what is wrong with the store at an address, if anything is. -/
def create (storeFault : String → Option String) (i : IdentifySettings) : Except FleetError Arbiter :=
  match i.strategy with
  | .local => .ok (.local (.create i.effectiveConcurrency))
  | .sharedLock address =>
    match storeFault address with
    | some why => .error (.store why)
    | none => .ok (.sharedLock (.create i.effectiveConcurrency))
  | .remoteQueue address timeout =>
    match RemoteTurns.create address timeout with
    | .ok turns => .ok (.remoteQueue turns)
    | .error f => .error (.ofSettings f)

def name : Arbiter → String
  | .local _ => "local"
  | .sharedLock _ => "redis-lock"
  | .remoteQueue _ => "remote-queue"

end Arbiter
end SessionFleet
