import SessionFleet.Wire.Packet
/- The frames that a shard writes by itself, and how it closes a socket. -/
namespace SessionFleet

/-- A shard's place among all the shards that share the work. -/
structure Shard where
  id : Nat
  total : Nat
  deriving DecidableEq, Repr, Inhabited

structure Hello where
  heartbeatInterval : Nat
  deriving DecidableEq, Repr, Inhabited

namespace Hello

def ofJson : Json → Except Mismatch Hello
  | .list items =>
    match items with
    | [] => .error (.tooShort 0 "Hello" 1)
    | x :: rest => do
      let n ← x.asWhole 64
      if rest.isEmpty then .ok ⟨n⟩ else .error (.tooLong (rest.length + 1))
  | .object members => do
    let n ← Json.field members "heartbeat_interval" (Json.asWhole 64)
    let n ← Json.require "heartbeat_interval" n
    pure ⟨n⟩
  | v => v.wrong (.record "Hello")

end Hello

namespace Packet

def protocolVersion : Nat := 10

/-- Groups with more members than this are sent without the members that are away. -/
def largeThreshold : Nat := 50

def libraryName : String := "ws-gateway-shard"

def platform : String := "linux"

def outbound (op : Opcode) (d : Option Json) : Packet := ⟨op, d, none, none⟩

def event (name : String) (sequence : Nat) (d : Json) : Packet :=
  ⟨.dispatch, some d, some sequence, some name⟩

/-- Carries the last sequence number seen, `null` before the first. -/
def heartbeat (last : Option Nat) : Packet :=
  outbound .heartbeat (some (Json.ofOption Json.ofNat last))

def identify (token : String) (intents : Nat) (shard : Shard) : Packet :=
  outbound .identify (some (Json.ofMembers
    [("token", .text token),
     ("intents", .ofNat intents),
     ("properties", Json.ofMembers
       [("os", .text platform), ("browser", .text libraryName), ("device", .text libraryName)]),
     ("shard", .list [.ofNat shard.id, .ofNat shard.total]),
     ("large_threshold", .ofNat largeThreshold),
     ("compress", .bool false)]))

/-- A session without a sequence number is resumed from 0. -/
def resume (token session : String) (last : Option Nat) : Packet :=
  outbound .resume (some (Json.ofMembers
    [("token", .text token), ("session_id", .text session), ("seq", .ofNat (last.getD 0))]))

end Packet

/-- How a socket is closed.  A close with a normal code makes the server discard the session, one
    without a code keeps it. -/
inductive CloseCode where
  | normal
  | resumable
  | protocolError
  deriving DecidableEq, Repr, Inhabited

def CloseCode.number : CloseCode → Option Nat
  | .normal => some 1000
  | .resumable => none
  | .protocolError => some 1002

end SessionFleet
