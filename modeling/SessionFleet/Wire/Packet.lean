import SessionFleet.Wire.Opcode
import SessionFleet.Json.Shape
import SessionFleet.Json.Printer
/- One frame of the gateway: an operation, a payload, and for events a sequence number and a name.

   `Packet.ofText` reads a frame, `Packet.wire` writes one.  A payload that is absent and one that
   is `null` read the same. -/
namespace SessionFleet

structure Packet where
  op : Opcode
  d : Option Json
  s : Option Nat
  t : Option String
  deriving DecidableEq, Repr, Inhabited

namespace Packet

/-- The fields met so far in a frame written as an object. -/
structure Slots where
  op : Option Opcode
  d : Option (Option Json)
  s : Option (Option Nat)
  t : Option (Option String)

def readOpcode (r : Reading) : Except Fault Opcode := do
  let n ← r.asWhole 8
  match Opcode.ofCode? n with
  | some op => .ok op
  | none => .error (.shape (.unknownOpcode n))

/-- The frame's own bracket is one of those that may be open. -/
def readPayload (r : Reading) : Except Fault (Option Json) :=
  r.asOptional fun r => Fault.ofText (r.keep (nestingLimit - 1))

def readSequence (r : Reading) : Except Fault (Option Nat) := r.asOptional (Reading.asWhole 64)

def readName (r : Reading) : Except Fault (Option String) := r.asOptional Reading.asText

/-- A field that the frame does not know is skipped. -/
def Slots.put (slots : Slots) (name : String) (r : Reading) : Except Fault Slots :=
  if name = "op" then do
    let op ← Reading.once name slots.op (readOpcode r)
    pure { slots with op }
  else if name = "d" then do
    let d ← Reading.once name slots.d (readPayload r)
    pure { slots with d }
  else if name = "s" then do
    let s ← Reading.once name slots.s (readSequence r)
    pure { slots with s }
  else if name = "t" then do
    let t ← Reading.once name slots.t (readName r)
    pure { slots with t }
  else Reading.skipped slots r

def Slots.packet (slots : Slots) : Except Fault Packet :=
  match slots.op with
  | none => .error (.shape (.missingField "op"))
  | some op => .ok ⟨op, slots.d.getD none, slots.s.getD none, slots.t.getD none⟩

def read : Reading → Except Fault Packet
  | .object members fault => do
    let slots ← Reading.foldMembers Slots.put ⟨none, none, none, none⟩ members
    Fault.raise fault
    slots.packet
  | .list items fault => do
    let op ← Reading.fieldAt "GatewayPacket" 4 readOpcode items fault 0
    let d ← Reading.optionalAt none readPayload items fault 1
    let s ← Reading.optionalAt none readSequence items fault 2
    let t ← Reading.optionalAt none readName items fault 3
    Reading.endOfFields (items.drop 4) fault
    pure ⟨op, d, s, t⟩
  | r => r.wrong (.record "GatewayPacket")

def ofText (s : String) : Except Fault Packet := Document.decode read s

/-- The payload is always written, the sequence number and the name only if they are there. -/
def members (p : Packet) : List (String × Json) :=
  [("op", .ofNat p.op.code), ("d", p.d.getD .null)]
    ++ (p.s.map fun s => ("s", Json.ofNat s)).toList
    ++ (p.t.map fun t => ("t", Json.text t)).toList

def wire (p : Packet) : String := (Json.object p.members).print

/-- The payload as a value, `null` if there is none. -/
def payload (p : Packet) : Json := p.d.getD .null

end Packet
end SessionFleet
