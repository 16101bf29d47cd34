/- Lengths of time, in nanoseconds, and their text. -/
namespace SessionFleet

abbrev Span := Nat

namespace Span

def microsecond : Span := 1000

def millisecond : Span := 1000000

def second : Span := 1000000000

def ofMillis (n : Nat) : Span := n * millisecond

def ofSeconds (n : Nat) : Span := n * second

def millis (s : Span) : Nat := s / millisecond

/-- The last `width` digits of a fraction, without the zeros at its end. -/
def fractionDigits (width n : Nat) : List Char :=
  let ds := Nat.toDigits 10 n
  let padded := List.replicate (width - ds.length) '0' ++ ds
  (padded.reverse.dropWhile (· = '0')).reverse

/-- A number of units of `10 ^ places` parts each, followed by the unit's name. -/
def inUnits (places : Nat) (name : String) (n : Nat) : String :=
  let fraction := fractionDigits places (n % Nat.pow 10 places)
  toString (n / Nat.pow 10 places) ++
    (if fraction.isEmpty then "" else "." ++ String.ofList fraction) ++ name

/-- In the largest unit of which there is at least one. -/
def text (s : Span) : String :=
  if second ≤ s then inUnits 9 "s" s
  else if millisecond ≤ s then inUnits 6 "ms" s
  else if microsecond ≤ s then inUnits 3 "µs" s
  else inUnits 0 "ns" s

end Span
end SessionFleet
