import SessionFleet.Number.Shortest
/- Numbers read from text: whole numbers with an optional plus sign, and doubles written with a
   fraction, an exponent, or as the names of infinity and of no number. -/
namespace SessionFleet

def isDigit (c : Char) : Bool := '0' ≤ c && c ≤ '9'

def digitValue (c : Char) : Nat := c.toNat - '0'.toNat

def hexValue (c : Char) : Option Nat :=
  if isDigit c then some (digitValue c)
  else if 'a' ≤ c && c ≤ 'f' then some (c.toNat - 'a'.toNat + 10)
  else if 'A' ≤ c && c ≤ 'F' then some (c.toNat - 'A'.toNat + 10)
  else none

/-- The value of a row of decimal digits, continuing from `start`. -/
def digitsFrom (start : Nat) (cs : List Char) : Nat :=
  cs.foldl (fun n c => 10 * n + digitValue c) start

def digitsValue (cs : List Char) : Nat := digitsFrom 0 cs

/-- At least one decimal digit after an optional plus sign, denoting a number below `2 ^ bits`. -/
def readWhole (bits : Nat) (cs : List Char) : Option Nat :=
  let ds := if cs.head? = some '+' then cs.drop 1 else cs
  if ds.isEmpty || !ds.all isDigit then none
  else if digitsValue ds < Nat.pow 2 bits then some (digitsValue ds) else none

/-- The double nearest to `digits * 10 ^ exponent`, also for exponents far out of range. -/
def Binary64.ofDecimal (negative : Bool) (digits : Nat) (exponent : Int) : Binary64 :=
  if digits = 0 then zero negative
  else
    let lead := exponent + (Nat.log2 digits : Int) * 30103 / 100000
    if 400 < lead then .infinite negative
    else if lead < -400 then zero negative
    else
      let (n, d) := Decimal.ratio ⟨digits, exponent⟩
      ofRatio negative n d

/-- An exponent mark, a sign if any, and at least one digit up to the end of the text. -/
def readExponent : List Char → Option Int
  | [] => some 0
  | c :: rest =>
    if c ≠ 'e' && c ≠ 'E' then none
    else
      let (negative, ds) := match rest with
        | '-' :: ds => (true, ds)
        | '+' :: ds => (false, ds)
        | ds => (false, ds)
      if ds.isEmpty || !ds.all isDigit then none
      else some (if negative then -(digitsValue ds : Int) else digitsValue ds)

/-- Digits with at most one point among them, at least one digit, and an exponent if any. -/
def readMagnitude (negative : Bool) (cs : List Char) : Option Binary64 :=
  let whole := cs.takeWhile isDigit
  let rest := cs.dropWhile isDigit
  let (fraction, rest) := match rest with
    | '.' :: r => (r.takeWhile isDigit, r.dropWhile isDigit)
    | r => ([], r)
  if whole.isEmpty && fraction.isEmpty then none
  else (readExponent rest).map fun e =>
    Binary64.ofDecimal negative (digitsFrom (digitsValue whole) fraction) (e - fraction.length)

def lowerAscii (cs : List Char) : List Char := cs.map Char.toLower

def Binary64.read (cs : List Char) : Option Binary64 :=
  let (negative, body) := match cs with
    | '-' :: r => (true, r)
    | '+' :: r => (false, r)
    | r => (false, r)
  let name := String.ofList (lowerAscii body)
  if name = "inf" || name = "infinity" then some (.infinite negative)
  else if name = "nan" then some .nan
  else readMagnitude negative body

end SessionFleet
