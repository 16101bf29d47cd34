/- The operations of the gateway, each with its number on the wire.  Number 5 is not in use. -/
namespace SessionFleet

inductive Opcode where
  | dispatch
  | heartbeat
  | identify
  | presenceUpdate
  | voiceStateUpdate
  | resume
  | reconnect
  | requestGuildMembers
  | invalidSession
  | hello
  | heartbeatAck
  deriving DecidableEq, Repr, Inhabited

namespace Opcode

def all : List Opcode :=
  [.dispatch, .heartbeat, .identify, .presenceUpdate, .voiceStateUpdate, .resume, .reconnect,
    .requestGuildMembers, .invalidSession, .hello, .heartbeatAck]

def code : Opcode → Nat
  | .dispatch => 0
  | .heartbeat => 1
  | .identify => 2
  | .presenceUpdate => 3
  | .voiceStateUpdate => 4
  | .resume => 6
  | .reconnect => 7
  | .requestGuildMembers => 8
  | .invalidSession => 9
  | .hello => 10
  | .heartbeatAck => 11

def ofCode? (n : Nat) : Option Opcode := all.find? fun op => op.code = n

theorem code_of_ofCode? {n : Nat} {op : Opcode} (h : ofCode? n = some op) : op.code = n := by
  simpa using List.find?_some h

theorem ofCode?_code (op : Opcode) : ofCode? op.code = some op := by
  cases op <;> rfl

end Opcode
end SessionFleet
