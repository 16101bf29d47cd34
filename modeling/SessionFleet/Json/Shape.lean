import SessionFleet.Json.Kept
import SessionFleet.Text.Described
/- Values of an expected shape, taken from a JSON value or straight from a reading, and what is
   wrong when the shape is another one.

   A record may be given as an object or as the list of its fields in their order.  From a
   reading the fields are met in the order of the text, from a value in the order of their names. -/
namespace SessionFleet

inductive Found where
  | null
  | bool (b : Bool)
  | whole (n : Int)
  | double (x : Binary64)
  | text (s : String)
  | sequence
  | map
  deriving DecidableEq, Repr

inductive Expected where
  | whole (bits : Nat)
  | text
  | bool
  | record (name : String)
  deriving DecidableEq, Repr

inductive Mismatch where
  | missingField (name : String)
  | duplicateField (name : String)
  | wrongType (found : Found) (expected : Expected)
  | outOfRange (n : Int) (expected : Expected)
  | tooShort (length : Nat) (record : String) (fields : Nat)
  | tooLong (length : Nat)
  | unknownOpcode (n : Nat)
  deriving DecidableEq, Repr

/-- A text is not JSON, or it is JSON of the wrong shape. -/
inductive Fault where
  | text (f : TextFault)
  | shape (m : Mismatch)
  deriving DecidableEq, Repr

def Found.describe : Found → String
  | .null => "null"
  | .bool b => "boolean `" ++ toString b ++ "`"
  | .whole n => "integer `" ++ toString n ++ "`"
  | .double x => "floating point `" ++ NumberLayout.json.text x ++ "`"
  | .text s => "string " ++ describeText s
  | .sequence => "sequence"
  | .map => "map"

def Expected.describe : Expected → String
  | .whole bits => "u" ++ toString bits
  | .text => "a string"
  | .bool => "a boolean"
  | .record name => "struct " ++ name

def Mismatch.message : Mismatch → String
  | .missingField name => "missing field `" ++ name ++ "`"
  | .duplicateField name => "duplicate field `" ++ name ++ "`"
  | .wrongType f e => "invalid type: " ++ f.describe ++ ", expected " ++ e.describe
  | .outOfRange n e => "invalid value: integer `" ++ toString n ++ "`, expected " ++ e.describe
  | .tooShort n record fields =>
    "invalid length " ++ toString n ++ ", expected struct " ++ record ++ " with " ++ toString fields ++
      (if fields = 1 then " element" else " elements")
  | .tooLong n => "invalid length " ++ toString n ++ ", expected fewer elements in array"
  | .unknownOpcode n => "unknown gateway opcode " ++ toString n

namespace Json

def found : Json → Found
  | .null => .null
  | .bool b => .bool b
  | .number (.whole n) => .whole n
  | .number (.double x) => .double x
  | .text s => .text s
  | .list _ => .sequence
  | .object _ => .map

def wrong {α : Type} (expected : Expected) (v : Json) : Except Mismatch α :=
  .error (.wrongType v.found expected)

def asWhole (bits : Nat) : Json → Except Mismatch Nat
  | .number (.whole n) =>
    if 0 ≤ n && n < Nat.pow 2 bits then .ok n.toNat else .error (.outOfRange n (.whole bits))
  | v => wrong (.whole bits) v

def asText : Json → Except Mismatch String
  | .text s => .ok s
  | v => wrong .text v

def asBool : Json → Except Mismatch Bool
  | .bool b => .ok b
  | v => wrong .bool v

/-- Nothing for `null`. -/
def asOptional {α : Type} (read : Json → Except Mismatch α) : Json → Except Mismatch (Option α)
  | .null => .ok none
  | v => (read v).map some

/-- The member of this name, read if it is there. -/
def field {α : Type} (members : List (String × Json)) (name : String)
    (read : Json → Except Mismatch α) : Except Mismatch (Option α) :=
  match members.lookup name with
  | none => .ok none
  | some v => (read v).map some

def require {α : Type} (name : String) : Option α → Except Mismatch α
  | some a => .ok a
  | none => .error (.missingField name)

end Json

namespace Fault

def ofText {α : Type} : Except TextFault α → Except Fault α
  | .ok a => .ok a
  | .error f => .error (.text f)

def ofShape {α : Type} : Except Mismatch α → Except Fault α
  | .ok a => .ok a
  | .error m => .error (.shape m)

def raise (fault : Option TextFault) : Except Fault Unit :=
  match fault with
  | none => .ok ()
  | some f => .error (.text f)

end Fault

namespace Reading

/-- What stands here, for a message; a string or a number is read first. -/
def found : Reading → Except Fault Found
  | .null => .ok .null
  | .bool b => .ok (.bool b)
  | .numeral n => Fault.ofText (n.number.map fun
    | .whole i => .whole i
    | .double x => .double x)
  | .quoted q => Fault.ofText (q.text.map .text)
  | .list _ _ => .ok .sequence
  | .object _ _ => .ok .map
  | .broken f => .error (.text f)
  | .cutNumeral => .error (.text .cutShort)

def wrong {α : Type} (expected : Expected) (r : Reading) : Except Fault α := do
  let found ← r.found
  .error (.shape (.wrongType found expected))

def asWhole (bits : Nat) (r : Reading) : Except Fault Nat := do
  match ← r.found with
  | .whole n =>
    if 0 ≤ n && n < Nat.pow 2 bits then .ok n.toNat else .error (.shape (.outOfRange n (.whole bits)))
  | f => .error (.shape (.wrongType f (.whole bits)))

def asText (r : Reading) : Except Fault String := do
  match ← r.found with
  | .text s => .ok s
  | f => .error (.shape (.wrongType f .text))

def asOptional {α : Type} (read : Reading → Except Fault α) : Reading → Except Fault (Option α)
  | .null => .ok none
  | r => (read r).map some

/-- The members in the order of the text, each put into the record built so far. -/
def foldMembers {σ : Type} (put : σ → String → Reading → Except Fault σ) :
    σ → List (QuotedText × Reading) → Except Fault σ
  | s, [] => .ok s
  | s, (name, x) :: rest => do
    let name ← Fault.ofText name.text
    let s ← put s name x
    foldMembers put s rest

/-- A field that may occur once. -/
def once {α : Type} (name : String) (slot : Option α) (read : Except Fault α) :
    Except Fault (Option α) :=
  if slot.isSome then .error (.shape (.duplicateField name)) else read.map some

def skipped {σ : Type} (s : σ) (x : Reading) : Except Fault σ :=
  match x.skim with
  | none => .ok s
  | some f => .error (.text f)

/-- After its last field a list has to end. -/
def endOfFields (rest : List Reading) (fault : Option TextFault) : Except Fault Unit :=
  if rest.isEmpty then Fault.raise fault else .error (.text .malformed)

/-- The required field at this place of a list. -/
def fieldAt {α : Type} (record : String) (fields : Nat) (read : Reading → Except Fault α)
    (items : List Reading) (fault : Option TextFault) (i : Nat) : Except Fault α :=
  match items[i]? with
  | some x => read x
  | none => do
    Fault.raise fault
    .error (.shape (.tooShort i record fields))

/-- The field at this place of a list, if the list goes that far. -/
def optionalAt {α : Type} (absent : α) (read : Reading → Except Fault α)
    (items : List Reading) (fault : Option TextFault) (i : Nat) : Except Fault α :=
  match items[i]? with
  | some x => read x
  | none => do
    Fault.raise fault
    .ok absent

end Reading

/-- A text read as one value of a shape. -/
def Document.decode {α : Type} (read : Reading → Except Fault α) (s : String) : Except Fault α := do
  let doc := Document.ofText s
  let a ← read doc.root
  if doc.complete then .ok a else .error (.text .malformed)

end SessionFleet
