import SessionFleet.Number.Reading
/- Numeric host addresses.  An IPv4 address has one to four numbers, decimal, octal or hexadecimal,
   of which the last fills all the bytes that are left.  An IPv6 address has eight pieces, with at
   most one gap that stands for zeros. -/
namespace SessionFleet

namespace Address

def allOctal (cs : List Char) : Bool := cs.all fun c => '0' ≤ c && c ≤ '7'

/-- Digits in a base, each below it. -/
def inBase (base : Nat) (cs : List Char) : Nat :=
  cs.foldl (fun n c => base * n + (hexValue c).getD 0) 0

/-- A number with an optional mark of its base.  A mark alone is zero. -/
def readNumber : List Char → Option Nat
  | [] => none
  | '0' :: 'x' :: ds | '0' :: 'X' :: ds =>
    if ds.all fun c => (hexValue c).isSome then some (inBase 16 ds) else none
  | '0' :: d :: ds => if allOctal (d :: ds) then some (inBase 8 (d :: ds)) else none
  | ds => if ds.all isDigit then some (digitsValue ds) else none

def dotted (cs : List Char) : List (List Char) := cs.splitOn '.'

/-- The parts of a dotted name, without the empty one after a dot at the end. -/
def parts (cs : List Char) : List (List Char) :=
  let ps := dotted cs
  if ps.getLast? = some [] then ps.dropLast else ps

/-- A name whose last part is a number denotes an IPv4 address or nothing. -/
def endsInNumber (cs : List Char) : Bool :=
  match (parts cs).getLast? with
  | none => false
  | some [] => false
  | some p => p.all isDigit || (readNumber p).isSome

/-- The value of the numbers before the last one, which take one byte each. -/
def leadingBytes (ns : List Nat) : Nat := ns.foldl (fun v n => 256 * v + n) 0

def readV4 (cs : List Char) : Option Nat := do
  let ps := parts cs
  if 4 < ps.length then none
  else
    let ns ← ps.mapM readNumber
    let last ← ns.getLast?
    let lead := ns.dropLast
    if lead.all (· < 256) && last < Nat.pow 256 (4 - lead.length) then
      some (leadingBytes lead * Nat.pow 256 (4 - lead.length) + last)
    else none

def v4Text (n : Nat) : String :=
  ".".intercalate ([n / Nat.pow 256 3, n / Nat.pow 256 2 % 256, n / 256 % 256, n % 256].map toString)

/-- A byte in decimal digits without leading zeros. -/
def readByte (ds : List Char) : Option Nat :=
  if ds.isEmpty || !ds.all isDigit || (1 < ds.length && ds.head? = some '0') then none
  else if digitsValue ds < 256 then some (digitsValue ds) else none

/-- The last two pieces written as an IPv4 address. -/
def readQuad (cs : List Char) : Option (List Nat) := do
  match ← (dotted cs).mapM readByte with
  | [a, b, c, d] => some [256 * a + b, 256 * c + d]
  | _ => none

/-- The pieces in order, and where the gap is.  A gap takes the place of one piece at least. -/
def readPieces : Nat → List Nat → Option Nat → List Char → Option (List Nat × Option Nat)
  | 0, _, _, _ => none
  | _ + 1, pieces, gap, [] => some (pieces, gap)
  | fuel + 1, pieces, gap, c :: cs =>
    let used := pieces.length + gap.toList.length
    if 8 ≤ used then none
    else if c = ':' then
      if gap.isSome then none else readPieces fuel pieces (some pieces.length) cs
    else
      let ds := ((c :: cs).take 4).takeWhile fun c => (hexValue c).isSome
      match (c :: cs).drop ds.length with
      | [] => some (pieces ++ [inBase 16 ds], gap)
      | '.' :: _ =>
        if ds.isEmpty || 6 < used then none
        else (readQuad (c :: cs)).map fun quad => (pieces ++ quad, gap)
      | ':' :: [] => none
      | ':' :: more => readPieces fuel (pieces ++ [inBase 16 ds]) gap more
      | _ => none

def fillGap : List Nat × Option Nat → Option (List Nat)
  | (pieces, none) => if pieces.length = 8 then some pieces else none
  | (pieces, some at_) =>
    some (pieces.take at_ ++ List.replicate (8 - pieces.length) 0 ++ pieces.drop at_)

def readV6 (cs : List Char) : Option (List Nat) :=
  match cs with
  | ':' :: ':' :: rest => (readPieces (cs.length + 1) [] (some 0) rest).bind fillGap
  | ':' :: _ | [] | [_] => none
  | _ => (readPieces (cs.length + 1) [] none cs).bind fillGap

/-- The length of the run of zeros that starts here. -/
def zeroRun (pieces : List Nat) : Nat := (pieces.takeWhile (· = 0)).length

/-- The first of the longest runs of at least two zeros: where it starts and its length. -/
def longestRun (pieces : List Nat) : Option (Nat × Nat) :=
  (List.range pieces.length).foldl (fun best i =>
    let n := zeroRun (pieces.drop i)
    if 2 ≤ n && (best.map (·.2)).getD 0 < n then some (i, n) else best) none

def pieceText (n : Nat) : String := String.ofList (Nat.toDigits 16 n)

def joined (pieces : List Nat) : String := ":".intercalate (pieces.map pieceText)

def v6Text (pieces : List Nat) : String :=
  match longestRun pieces with
  | none => joined pieces
  | some (i, n) => joined (pieces.take i) ++ "::" ++ joined (pieces.drop (i + n))

end Address
end SessionFleet
