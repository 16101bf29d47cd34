import SessionFleet.Json.Reading
import SessionFleet.Json.Value
/- The value kept from a reading, and the check of a reading that is skipped.

   A number keeps at most the leading digits that fit 64 bits.  The digits left out before the
   point, the digits taken after it and the written exponent add up to one power of ten, which is
   applied by one product or quotient of doubles per table step of `1e308`. -/
namespace SessionFleet

namespace Numeral

/-- Takes digits while the significand stays below `2 ^ 64`. -/
def absorb : Nat → List Char → Nat × List Char
  | sig, [] => (sig, [])
  | sig, c :: cs =>
    if sig * 10 + digitValue c < Nat.pow 2 64 then absorb (sig * 10 + digitValue c) cs else (sig, c :: cs)

def tenTo (n : Nat) : Binary64 := Binary64.ofNat (Nat.pow 10 n)

def isInfinite : Binary64 → Bool
  | .infinite _ => true
  | _ => false

/-- A significand times a power of ten.  Four table steps take every significand to zero. -/
def applyExponent : Nat → Binary64 → Int → Except TextFault Binary64
  | 0, x, _ => .ok x
  | fuel + 1, x, e =>
    if e.natAbs ≤ 308 then
      if 0 ≤ e then
        let y := x.mul (tenTo e.toNat)
        if isInfinite y then .error .malformed else .ok y
      else .ok (x.div (tenTo e.natAbs))
    else if x = Binary64.zero false then .ok x
    else if 0 ≤ e then .error .malformed
    else applyExponent fuel (x.div (tenTo 308)) (e + 308)

def signed (negative : Bool) (x : Binary64) : Binary64 := if negative then x.neg else x

def double (negative : Bool) (sig : Nat) (e : Int) : Except TextFault JsonNumber :=
  (applyExponent 4 (Binary64.ofNat sig) e).map fun x => .double (signed negative x)

/-- A number without fraction and exponent is whole if 64 bits hold it, signed for a negative
    one; a negative zero is a double. -/
def whole? (negative : Bool) (sig : Nat) : Option Int :=
  if !negative then some sig
  else if 0 < sig && sig ≤ Nat.pow 2 63 then some (-sig) else none

def number (n : Numeral) : Except TextFault JsonNumber :=
  let (sig, left) := absorb 0 n.whole
  if n.fraction.isEmpty && n.exponent.isNone && left.isEmpty then
    match whole? n.negative sig with
    | some i => .ok (.whole i)
    | none => .ok (.double (signed n.negative (Binary64.ofNat sig)))
  else
    let (sig, ignored) := absorb sig n.fraction
    let e : Int := (left.length : Int) - (n.fraction.length - ignored.length : Nat)
    match n.exponent with
    | none => double n.negative sig e
    | some (minus, ds) =>
      let written := digitsValue ds
      if Nat.pow 2 31 ≤ written then
        if sig ≠ 0 && !minus then .error .malformed
        else .ok (.double (signed n.negative (Binary64.zero false)))
      else double n.negative sig (if minus then e - written else e + written)

end Numeral

namespace Reading

mutual

/-- The value of a reading.  `room` is the number of brackets that may still be open at once. -/
def keep (room : Nat) : Reading → Except TextFault Json
  | .null => .ok .null
  | .bool b => .ok (.bool b)
  | .numeral n => n.number.map .number
  | .quoted q => q.text.map .text
  | .broken f => .error f
  | .cutNumeral => .error .cutShort
  | .list items fault =>
    if room = 0 then .error .malformed
    else do
      let items ← keepItems (room - 1) items
      match fault with
      | some f => .error f
      | none => .ok (.list items)
  | .object members fault =>
    if room = 0 then .error .malformed
    else do
      let members ← keepMembers (room - 1) members
      match fault with
      | some f => .error f
      | none => .ok (Json.ofMembers members)

def keepItems (room : Nat) : List Reading → Except TextFault (List Json)
  | [] => .ok []
  | x :: rest => do
    let x ← keep room x
    let rest ← keepItems room rest
    pure (x :: rest)

def keepMembers (room : Nat) : List (QuotedText × Reading) → Except TextFault (List (String × Json))
  | [] => .ok []
  | (name, x) :: rest => do
    let name ← name.text
    let x ← keep room x
    let rest ← keepMembers room rest
    pure ((name, x) :: rest)

end

mutual

/-- The first fault of a value that is skipped.  Nothing is decoded, so units may stand alone,
    numbers may be out of range, and brackets may nest without limit. -/
def skim : Reading → Option TextFault
  | .null | .bool _ | .numeral _ => none
  | .quoted q => q.fault
  | .broken f => some f
  | .cutNumeral => some .malformed
  | .list items fault => (skimItems items).or fault
  | .object members fault => (skimMembers members).or fault

def skimItems : List Reading → Option TextFault
  | [] => none
  | x :: rest => (skim x).or (skimItems rest)

def skimMembers : List (QuotedText × Reading) → Option TextFault
  | [] => none
  | (name, x) :: rest => (name.fault.or (skim x)).or (skimMembers rest)

end

end Reading

/-- How many brackets may be open at once in a value that is kept. -/
def nestingLimit : Nat := 127

/-- The value of a text that holds one value and nothing else. -/
def Json.ofText (s : String) : Except TextFault Json := do
  let doc := Document.ofText s
  let v ← doc.root.keep nestingLimit
  if doc.complete then .ok v else .error .malformed

end SessionFleet
