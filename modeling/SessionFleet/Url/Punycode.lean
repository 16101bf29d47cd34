import SessionFleet.Number.Reading
/- Labels in the characters of ASCII: the characters that are in ASCII already, a hyphen, and the
   others in ascending order as distances, each a number in digits of varying weight. -/
namespace SessionFleet.Punycode

def isAscii (c : Char) : Bool := c.toNat < 0x80

def digit (d : Nat) : Char :=
  if d < 26 then Char.ofNat ('a'.toNat + d) else Char.ofNat ('0'.toNat + d - 26)

def digitOf (c : Char) : Option Nat :=
  if isDigit c then some (digitValue c + 26)
  else if 'a' ≤ c && c ≤ 'z' then some (c.toNat - 'a'.toNat)
  else if 'A' ≤ c && c ≤ 'Z' then some (c.toNat - 'A'.toNat)
  else none

/-- The least digit that another digit follows, by position and bias. -/
def threshold (k bias : Nat) : Nat :=
  if k ≤ bias then 1 else if bias + 26 ≤ k then 26 else k - bias

def shrink : Nat → Nat → Nat → Nat × Nat
  | 0, delta, k => (delta, k)
  | fuel + 1, delta, k => if 455 < delta then shrink fuel (delta / 35) (k + 36) else (delta, k)

def adapt (delta points : Nat) (first : Bool) : Nat :=
  let d := if first then delta / 700 else delta / 2
  let (d, k) := shrink 64 (d + d / points) 0
  k + 36 * d / (d + 38)

/-- A number in digits of varying weight, the least significant first. -/
def encodeDelta : Nat → Nat → Nat → Nat → List Char
  | 0, _, _, _ => []
  | fuel + 1, bias, k, q =>
    let t := threshold k bias
    if q < t then [digit q]
    else digit (t + (q - t) % (36 - t)) :: encodeDelta fuel bias (k + 36) ((q - t) / (36 - t))

structure Progress where
  out : List Char
  delta : Nat
  bias : Nat
  /-- how many characters are written -/
  done : Nat

/-- Goes through the text for the code point `m`, counting the smaller ones. -/
def pass (basic m : Nat) (p : Progress) (c : Char) : Progress :=
  if c.toNat < m then { p with delta := p.delta + 1 }
  else if c.toNat = m then
    let out := p.out ++ encodeDelta 64 p.bias 36 p.delta
    ⟨out, 0, adapt p.delta (p.done + 1) (p.done = basic), p.done + 1⟩
  else p

def passes (cs : List Char) (basic : Nat) : List Nat → Nat → Progress → Progress
  | [], _, p => p
  | m :: rest, n, p =>
    let p := cs.foldl (pass basic m) { p with delta := p.delta + (m - n) * (p.done + 1) }
    passes cs basic rest (m + 1) { p with delta := p.delta + 1 }

def encode (cs : List Char) : List Char :=
  let basic := cs.filter isAscii
  let points := ((cs.filter (!isAscii ·)).map Char.toNat).mergeSort.eraseReps
  let start : Progress := ⟨basic ++ (if basic.isEmpty then [] else ['-']), 0, 72, basic.length⟩
  (passes cs basic.length points 128 start).out

/-- Distances and weights stay below this. -/
def limit : Nat := Nat.pow 2 32

/-- The next number and the digits after it. -/
def decodeDelta (bias : Nat) : Nat → Nat → Nat → List Char → Option (Nat × List Char)
  | _, _, _, [] => none
  | k, weight, i, c :: cs =>
    match digitOf c with
    | none => none
    | some d =>
      let t := threshold k bias
      if limit ≤ i + d * weight then none
      else if d < t then some (i + d * weight, cs)
      else if limit ≤ weight * (36 - t) then none
      else decodeDelta bias (k + 36) (weight * (36 - t)) (i + d * weight) cs

def decodeFrom : Nat → List Char → Nat → Nat → Nat → Bool → List Char → Option (List Char)
  | 0, _, _, _, _, _, _ => none
  | _ + 1, out, _, _, _, _, [] => some out
  | fuel + 1, out, n, i, bias, first, cs =>
    match decodeDelta bias 36 1 i cs with
    | none => none
    | some (j, rest) =>
      let count := out.length + 1
      let n := n + j / count
      if n < 0x110000 && !(0xD800 ≤ n && n ≤ 0xDFFF) then
        decodeFrom fuel (out.take (j % count) ++ Char.ofNat n :: out.drop (j % count)) n (j % count + 1)
          (adapt (j - i) count first) false rest
      else none

/-- What follows the last hyphen is the encoded part.  A hyphen with nothing before it separates
    nothing. -/
def decode (cs : List Char) : Option (List Char) :=
  let tail := (cs.reverse.takeWhile (· ≠ '-')).reverse
  let basic := (cs.take (cs.length - tail.length)).dropLast
  decodeFrom (cs.length + 1) basic 128 0 72 true (if basic.isEmpty then cs else tail)

end SessionFleet.Punycode
