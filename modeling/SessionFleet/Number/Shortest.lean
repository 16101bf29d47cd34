import SessionFleet.Number.Binary64
/- Decimal text of a double: the fewest digits that round back to it, and of two such texts
   the nearer one.  How the digits are laid out is a separate record. -/
namespace SessionFleet

/-- `digits * 10 ^ exponent`. -/
structure Decimal where
  digits : Nat
  exponent : Int
  deriving DecidableEq, Repr, Inhabited

namespace Decimal

def ratio (d : Decimal) : Nat × Nat :=
  (d.digits * Nat.pow 10 d.exponent.toNat, Nat.pow 10 (-d.exponent).toNat)

/-- The double nearest to a decimal. -/
def nearest (d : Decimal) : Binary64 :=
  let (n, k) := d.ratio
  Binary64.ofRatio false n k

/-- The exponent of the leading decimal digit of `num / den`. -/
def leadingExponent (num den : Nat) : Int :=
  let guess : Int := ((Nat.log2 num : Int) - Nat.log2 den) * 30103 / 100000
  let below (e : Int) : Bool := num * Nat.pow 10 (-e).toNat < den * Nat.pow 10 e.toNat
  if below guess then guess - 1
  else if below (guess + 1) then guess else guess + 1

def dropZeros : Nat → Decimal → Decimal
  | 0, d => d
  | fuel + 1, d =>
    if d.digits % 10 = 0 && d.digits ≠ 0 then dropZeros fuel ⟨d.digits / 10, d.exponent + 1⟩ else d

/-- The two neighbours of `num / den` among the decimals with `count` digits, those that round
    back to `goal` only, the nearer one first and of two equally near the even one. -/
def candidates (num den : Nat) (goal : Binary64) (count : Nat) : List Decimal :=
  let grid := leadingExponent num den - count + 1
  let n := num * Nat.pow 10 (-grid).toNat
  let d := den * Nat.pow 10 grid.toNat
  let low := n / d
  let lowFirst := 2 * (n % d) < d || (2 * (n % d) = d && low % 2 = 0)
  let both : List Decimal := if lowFirst then [⟨low, grid⟩, ⟨low + 1, grid⟩] else [⟨low + 1, grid⟩, ⟨low, grid⟩]
  both.filter fun c => c.nearest = goal

/-- Seventeen digits always suffice; the exact value stands behind them. -/
def shortest (m : Nat) (q : Int) : Decimal :=
  let (num, den) := Binary64.ratio m q
  let found := (List.range 17).findSome? fun k =>
    (candidates num den (.finite false m q) (k + 1)).head?
  let exact : Decimal := ⟨m * Nat.pow 2 q.toNat * Nat.pow 5 (-q).toNat, min q 0⟩
  dropZeros 400 (found.getD exact)

end Decimal

/-- Where positional notation ends and how an exponent is written. -/
structure NumberLayout where
  /-- the leading digit's exponents written positionally -/
  plainFrom : Int
  plainTo : Int
  /-- a sign before an exponent that is not negative -/
  plus : Bool
  nanText : String
  infiniteText : String

namespace NumberLayout

def exponentText (layout : NumberLayout) (e : Int) : String :=
  if e < 0 then "e-" ++ toString e.natAbs
  else (if layout.plus then "e+" else "e") ++ toString e.natAbs

def magnitude (layout : NumberLayout) (d : Decimal) : String :=
  let ds := Nat.toDigits 10 d.digits
  let lead : Int := d.exponent + ds.length - 1
  let zeros (n : Nat) : List Char := List.replicate n '0'
  if d.digits = 0 then "0.0"
  else if layout.plainFrom ≤ lead && lead ≤ layout.plainTo then
    if lead < 0 then String.ofList ("0.".toList ++ zeros (-lead - 1).toNat ++ ds)
    else
      let whole := (lead + 1).toNat
      if ds.length ≤ whole then String.ofList (ds ++ zeros (whole - ds.length) ++ ".0".toList)
      else String.ofList (ds.take whole ++ ['.'] ++ ds.drop whole)
  else
    let head := ds.take 1
    let tail := ds.drop 1
    String.ofList (head ++ (if tail.isEmpty then [] else '.' :: tail)) ++ layout.exponentText lead

def text (layout : NumberLayout) : Binary64 → String
  | .nan => layout.nanText
  | .infinite s => (if s then "-" else "") ++ layout.infiniteText
  | .finite s m q =>
    (if s then "-" else "") ++
      layout.magnitude (if m = 0 then ⟨0, 0⟩ else Decimal.shortest m q)

/-- Numbers in serialized JSON: positional from `1e-5` up to `1e15`, a signed exponent beyond. -/
def json : NumberLayout := ⟨-5, 15, true, "null", "null"⟩

/-- Numbers in descriptions of settings: positional from `1e-4` up to `1e15`, no plus sign beyond. -/
def settings : NumberLayout := ⟨-4, 15, false, "NaN", "inf"⟩

end NumberLayout
end SessionFleet
