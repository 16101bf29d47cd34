import SessionFleet.Number.Reading
/- What a left-to-right reading of a JSON text finds.  Reading never fails: a fault stays in the
   tree at the place where it was met, so that whoever walks the tree in the order of the text
   meets the errors of shape and the errors of spelling in that order too.

   `Document.ofText` is the reader. -/
namespace SessionFleet

/-- The text ends too early, or it is not JSON. -/
inductive TextFault where
  | cutShort
  | malformed
  deriving DecidableEq, Repr, Inhabited

/-- A character of a string, or a UTF-16 unit written with `\u`. -/
inductive StringPiece where
  | plain (c : Char)
  | unit (n : Nat)
  deriving DecidableEq, Repr

/-- A string up to its closing quote, or up to the fault that ends it. -/
structure QuotedText where
  pieces : List StringPiece
  fault : Option TextFault
  deriving DecidableEq, Repr

structure Numeral where
  negative : Bool
  whole : List Char
  fraction : List Char
  /-- the sign (true for minus) and the digits -/
  exponent : Option (Bool × List Char)
  deriving DecidableEq, Repr

inductive Reading where
  | null
  | bool (b : Bool)
  | numeral (n : Numeral)
  | quoted (q : QuotedText)
  | list (items : List Reading) (fault : Option TextFault)
  | object (members : List (QuotedText × Reading)) (fault : Option TextFault)
  | broken (fault : TextFault)
  /-- a number that the text breaks off -/
  | cutNumeral
  deriving Repr, Inhabited

def isBlank (c : Char) : Bool := c = ' ' || c = '\n' || c = '\t' || c = '\r'

def skipBlank (cs : List Char) : List Char := cs.dropWhile isBlank

/-- The value of four hexadecimal digits. -/
def hexUnit (a b c d : Char) : Option Nat := do
  let a ← hexValue a
  let b ← hexValue b
  let c ← hexValue c
  let d ← hexValue d
  pure (((a * 16 + b) * 16 + c) * 16 + d)

def simpleEscape (c : Char) : Option Char :=
  if c = '"' || c = '\\' || c = '/' then some c
  else if c = 'b' then some '\x08'
  else if c = 'f' then some '\x0c'
  else if c = 'n' then some '\n'
  else if c = 'r' then some '\r'
  else if c = 't' then some '\t'
  else none

def utf8Length (cs : List Char) : Nat := cs.foldl (fun n c => n + c.utf8Size) 0

namespace QuotedText

def stop (f : TextFault) : QuotedText × List Char := (⟨[], some f⟩, [])

def push (p : StringPiece) (read : QuotedText × List Char) : QuotedText × List Char :=
  (⟨p :: read.1.pieces, read.1.fault⟩, read.2)

/-- Reads on after the opening quote. -/
def read : List Char → QuotedText × List Char
  | [] => stop .cutShort
  | c :: rest =>
    if c = '"' then (⟨[], none⟩, rest)
    else if c = '\\' then
      match rest with
      | [] => stop .cutShort
      | e :: rest =>
        if e = 'u' then
          match rest with
          | a :: b :: c :: d :: rest =>
            match hexUnit a b c d with
            | some n => push (.unit n) (read rest)
            | none => stop .malformed
          | short => if utf8Length short < 4 then stop .cutShort else stop .malformed
        else
          match simpleEscape e with
          | some c => push (.plain c) (read rest)
          | none => stop .malformed
    else if c.toNat < 32 then stop .malformed
    else push (.plain c) (read rest)

def isLeading (n : Nat) : Bool := 0xD800 ≤ n && n ≤ 0xDBFF

def isTrailing (n : Nat) : Bool := 0xDC00 ≤ n && n ≤ 0xDFFF

def joinUnits (lead trail : Nat) : Char :=
  Char.ofNat (0x10000 + (lead - 0xD800) * 0x400 + (trail - 0xDC00))

/-- The characters of a string that is kept: a leading unit has to be followed at once by a
    trailing one, and no trailing unit stands alone. -/
def decode (fault : Option TextFault) : List StringPiece → Except TextFault (List Char)
  | [] => match fault with
    | none => .ok []
    | some f => .error f
  | .plain c :: rest => (decode fault rest).map (c :: ·)
  | .unit n :: rest =>
    if isTrailing n then .error .malformed
    else if isLeading n then
      match rest with
      | [] => .error (fault.getD .malformed)
      | .plain _ :: _ => .error .malformed
      | .unit m :: rest =>
        if isTrailing m then (decode fault rest).map (joinUnits n m :: ·) else .error .malformed
    else (decode fault rest).map (Char.ofNat n :: ·)

def text (q : QuotedText) : Except TextFault String := (decode q.fault q.pieces).map String.ofList

end QuotedText

namespace Numeral

def finish (negative : Bool) (whole fraction : List Char) : List Char → Reading × List Char
  | [] => (.numeral ⟨negative, whole, fraction, none⟩, [])
  | c :: rest =>
    if c = 'e' || c = 'E' then
      let (minus, rest) := match rest with
        | '+' :: r => (false, r)
        | '-' :: r => (true, r)
        | r => (false, r)
      let ds := rest.takeWhile isDigit
      if ds.isEmpty then (if rest.isEmpty then .cutNumeral else .broken .malformed, [])
      else (.numeral ⟨negative, whole, fraction, some (minus, ds)⟩, rest.dropWhile isDigit)
    else (.numeral ⟨negative, whole, fraction, none⟩, c :: rest)

def afterWhole (negative : Bool) (whole : List Char) : List Char → Reading × List Char
  | '.' :: rest =>
    let ds := rest.takeWhile isDigit
    if ds.isEmpty then (if rest.isEmpty then .cutNumeral else .broken .malformed, [])
    else finish negative whole ds (rest.dropWhile isDigit)
  | rest => finish negative whole [] rest

/-- A number after its sign: no digit follows a leading zero. -/
def unsigned (negative : Bool) : List Char → Reading × List Char
  | [] => (.cutNumeral, [])
  | c :: rest =>
    if c = '0' then
      if (rest.head?.map isDigit).getD false then (.broken .malformed, [])
      else afterWhole negative ['0'] rest
    else if isDigit c then
      afterWhole negative (c :: rest.takeWhile isDigit) (rest.dropWhile isDigit)
    else (.broken .malformed, [])

end Numeral

namespace Reading

/-- The rest of a keyword, letter by letter. -/
def keyword (found : Reading) : List Char → List Char → Reading × List Char
  | [], cs => (found, cs)
  | _ :: _, [] => (.broken .cutShort, [])
  | e :: es, c :: cs => if e = c then keyword found es cs else (.broken .malformed, [])

mutual

def value : Nat → List Char → Reading × List Char
  | 0, _ => (.broken .cutShort, [])
  | fuel + 1, cs =>
    match skipBlank cs with
    | [] => (.broken .cutShort, [])
    | c :: rest =>
      if c = '"' then
        let (q, rest) := QuotedText.read rest
        (.quoted q, rest)
      else if c = '[' then
        let (items, fault, rest) := items fuel true rest
        (.list items fault, rest)
      else if c = '\x7b' then
        let (members, fault, rest) := members fuel true rest
        (.object members fault, rest)
      else if c = 'n' then keyword .null ['u', 'l', 'l'] rest
      else if c = 't' then keyword (.bool true) ['r', 'u', 'e'] rest
      else if c = 'f' then keyword (.bool false) ['a', 'l', 's', 'e'] rest
      else if c = '-' then Numeral.unsigned true rest
      else if isDigit c then Numeral.unsigned false (c :: rest)
      else (.broken .malformed, [])

/-- The items up to the closing bracket; before every item but the first stands a comma. -/
def items : Nat → Bool → List Char → List Reading × Option TextFault × List Char
  | 0, _, _ => ([], some .cutShort, [])
  | fuel + 1, first, cs =>
    match skipBlank cs with
    | [] => ([], some .cutShort, [])
    | c :: rest =>
      if c = ']' then ([], none, rest)
      else if first || c = ',' then
        let (x, rest) := value fuel (if first then c :: rest else rest)
        let (xs, fault, rest) := items fuel false rest
        (x :: xs, fault, rest)
      else ([], some .malformed, [])

/-- The members up to the closing brace. -/
def members : Nat → Bool → List Char → List (QuotedText × Reading) × Option TextFault × List Char
  | 0, _, _ => ([], some .cutShort, [])
  | fuel + 1, first, cs =>
    match skipBlank cs with
    | [] => ([], some .cutShort, [])
    | c :: rest =>
      if c = '\x7d' then ([], none, rest)
      else if first || c = ',' then
        match skipBlank (if first then c :: rest else rest) with
        | [] => ([], some .cutShort, [])
        | k :: rest =>
          if k = '"' then
            let (name, rest) := QuotedText.read rest
            let (x, rest) := member fuel rest
            let (ms, fault, rest) := members fuel false rest
            ((name, x) :: ms, fault, rest)
          else ([], some .malformed, [])
      else ([], some .malformed, [])

/-- A member's value after its colon. -/
def member : Nat → List Char → Reading × List Char
  | 0, _ => (.broken .cutShort, [])
  | fuel + 1, cs =>
    match skipBlank cs with
    | [] => (.broken .cutShort, [])
    | c :: rest => if c = ':' then value fuel rest else (.broken .malformed, [])

end

end Reading

/-- A text read as one value, and whether nothing but blanks follows it. -/
structure Document where
  root : Reading
  complete : Bool

/-- Every step that recurses has taken a character since the step but one before it. -/
def Document.ofText (s : String) : Document :=
  let cs := s.toList
  let (root, rest) := Reading.value (2 * cs.length + 2) cs
  ⟨root, (skipBlank rest).isEmpty⟩

end SessionFleet
