/- Double-precision numbers as exact data: a sign, a whole significand and a power of two.
   Every operation computes the exact rational result and rounds it once, to the nearest
   double, a tie going to the even significand. -/
namespace SessionFleet

/-- `finite negative m q` is the number `m * 2 ^ q` with its sign.  Values built by
    `Binary64.ofRatio` are normal: `m < 2 ^ 53`, and `2 ^ 52 ≤ m` unless `q = -1074`. -/
inductive Binary64 where
  | nan
  | infinite (negative : Bool)
  | finite (negative : Bool) (m : Nat) (q : Int)
  deriving DecidableEq, Repr, Inhabited

namespace Binary64

/-- The quotient rounded to the nearest whole number, a tie going to the even one. -/
def nearestEven (num den : Nat) : Nat :=
  let whole := num / den
  let twice := 2 * (num % den)
  if twice < den then whole
  else if den < twice then whole + 1
  else whole + whole % 2

/-- `num / den` measured in units of `2 ^ q`, as a pair of naturals. -/
def scaled (num den : Nat) (q : Int) : Nat × Nat :=
  (num * Nat.pow 2 (-q).toNat, den * Nat.pow 2 q.toNat)

def zero (negative : Bool) : Binary64 := .finite negative 0 (-1074)

/-- The power of two whose multiples carry 53 significant bits of `num / den`. -/
def unitExponent (num den : Nat) : Int :=
  let guess : Int := (Nat.log2 num : Int) - Nat.log2 den - 52
  let (n, d) := scaled num den guess
  let exact := if n < d * Nat.pow 2 52 then guess - 1 else guess
  max exact (-1074)

/-- The double nearest to `num / den`; beyond the largest one it is infinite. -/
def ofRatio (negative : Bool) (num den : Nat) : Binary64 :=
  if num = 0 then zero negative
  else
    let q := unitExponent num den
    let (n, d) := scaled num den q
    let m := nearestEven n d
    let (m, q) := if m = Nat.pow 2 53 then (Nat.pow 2 52, q + 1) else (m, q)
    if 971 < q then .infinite negative else .finite negative m q

def ofNat (n : Nat) : Binary64 := ofRatio false n 1

def neg : Binary64 → Binary64
  | .nan => .nan
  | .infinite s => .infinite (!s)
  | .finite s m q => .finite (!s) m q

/-- The exact value of a magnitude as a quotient of naturals. -/
def ratio (m : Nat) (q : Int) : Nat × Nat := (m * Nat.pow 2 q.toNat, Nat.pow 2 (-q).toNat)

def mul : Binary64 → Binary64 → Binary64
  | .finite s m q, .finite s' m' q' =>
    let (n, d) := ratio (m * m') (q + q')
    ofRatio (s != s') n d
  | .nan, _ => .nan
  | _, .nan => .nan
  | .infinite s, .infinite s' => .infinite (s != s')
  | .infinite s, .finite s' m _ => if m = 0 then .nan else .infinite (s != s')
  | .finite s m _, .infinite s' => if m = 0 then .nan else .infinite (s != s')

def div : Binary64 → Binary64 → Binary64
  | .finite s m q, .finite s' m' q' =>
    if m' = 0 then if m = 0 then .nan else .infinite (s != s')
    else
      let (n, d) := ratio m (q - q')
      ofRatio (s != s') n (d * m')
  | .nan, _ => .nan
  | _, .nan => .nan
  | .infinite _, .infinite _ => .nan
  | .infinite s, .finite s' _ _ => .infinite (s != s')
  | .finite s _ _, .infinite s' => zero (s != s')

/-- A power by repeated squaring, one rounding per product: the exponent's bits are taken
    from the lowest up, and a bit that is set multiplies the square in. -/
def powLoop : Nat → Binary64 → Nat → Binary64 → Binary64
  | 0, _, _, r => r
  | fuel + 1, a, b, r =>
    let r := if b % 2 = 1 then r.mul a else r
    if b / 2 = 0 then r else powLoop fuel (a.mul a) (b / 2) r

/-- The power with a whole exponent; a negative exponent inverts at the end. -/
def powInt (a : Binary64) (n : Int) : Binary64 :=
  let r := powLoop (Nat.log2 n.natAbs + 1) a n.natAbs (ofNat 1)
  if n < 0 then (ofNat 1).div r else r

/-- Comparison of the exact values of two magnitudes. -/
def magnitudeLe (m : Nat) (q : Int) (m' : Nat) (q' : Int) : Bool :=
  let (n, d) := ratio m q
  let (n', d') := ratio m' q'
  n * d' ≤ n' * d

/-- `≤` of the numbers; nothing is comparable with `nan`, and both zeros are equal. -/
def le : Binary64 → Binary64 → Bool
  | .nan, _ => false
  | _, .nan => false
  | .infinite s, .infinite s' => s || !s'
  | .infinite s, .finite _ _ _ => s
  | .finite _ _ _, .infinite s' => !s'
  | .finite s m q, .finite s' m' q' =>
    match s, s' with
    | false, false => magnitudeLe m q m' q'
    | true, true => magnitudeLe m' q' m q
    | true, false => true
    | false, true => m = 0 && m' = 0

/-- The smaller of two numbers; `nan` gives way to a number. -/
def min (a b : Binary64) : Binary64 :=
  match a, b with
  | .nan, b => b
  | a, .nan => a
  | a, b => if a.le b then a else b

/-- The whole part toward zero, kept within `0 ≤ n < 2 ^ bits`. -/
def toNatWithin (bits : Nat) : Binary64 → Nat
  | .nan => 0
  | .infinite true => 0
  | .infinite false => Nat.pow 2 bits - 1
  | .finite true _ _ => 0
  | .finite false m q =>
    let (n, d) := ratio m q
    Nat.min (n / d) (Nat.pow 2 bits - 1)

/-- The number that 64 signed bits cannot hold. -/
def tooLarge : Nat := Nat.pow 2 63

/-- The nearest whole number, a half going away from zero, kept within 64 signed bits. -/
def roundToInt64 : Binary64 → Int
  | .nan => 0
  | .infinite true => -tooLarge
  | .infinite false => tooLarge - 1
  | .finite s m q =>
    let (n, d) := ratio m q
    let whole : Int := (2 * n + d) / (2 * d)
    if s then max (-whole) (-tooLarge) else Min.min whole (tooLarge - 1)

end Binary64
end SessionFleet
