import SessionFleet.Time.Span
/- Instants, in nanoseconds since the start of 1970, and the calendar behind them.  Only instants of
   the years `-262143` to `262142` are representable. -/
namespace SessionFleet

abbrev Instant := Int

namespace Calendar

def isLeap (year : Int) : Bool := year % 4 = 0 && (year % 100 ≠ 0 || year % 400 = 0)

def daysInMonth (year : Int) (month : Nat) : Nat :=
  if month = 2 then if isLeap year then 29 else 28
  else if [4, 6, 9, 11].contains month then 30
  else 31

/-- Days before the first of January of a year, counted from the start of year 1. -/
def daysBeforeYear (year : Int) : Int :=
  let y := year - 1
  365 * y + y / 4 - y / 100 + y / 400

def daysBeforeMonth (year : Int) (month : Nat) : Nat :=
  (List.range (month - 1)).foldl (fun n m => n + daysInMonth year (m + 1)) 0

/-- Days since the first of January 1970. -/
def dayNumber (year : Int) (month day : Nat) : Int :=
  daysBeforeYear year - daysBeforeYear 1970 + daysBeforeMonth year month + day - 1

/-- The day of the week, Monday being 0. -/
def weekday (dayNumber : Int) : Nat := ((dayNumber + 3) % 7).toNat

def isDate (year : Int) (month day : Nat) : Bool :=
  1 ≤ month && month ≤ 12 && 1 ≤ day && day ≤ daysInMonth year month

def firstYear : Int := -262143

def lastYear : Int := 262142

def firstSecond : Int := dayNumber firstYear 1 1 * 86400

def lastSecond : Int := (dayNumber (lastYear + 1) 1 1) * 86400 - 1

end Calendar

namespace Instant

def first : Instant := -8334601228800 * 1000000000

/-- The last nanosecond of the last representable year. -/
def last : Instant := 8210266876800 * 1000000000 - 1

theorem first_eq : first = Calendar.firstSecond * 1000000000 := by decide +kernel

theorem last_eq : last = (Calendar.lastSecond + 1) * 1000000000 - 1 := by decide +kernel

def representable (t : Instant) : Bool := first ≤ t && t ≤ last

/-- The longest span that can be added to an instant, `2 ^ 63 - 1` milliseconds. -/
def longestSpan : Span := Span.ofMillis (Nat.pow 2 63 - 1)

/-- Later by a span, if span and result are representable. -/
def later? (t : Instant) (d : Span) : Option Instant :=
  if d ≤ longestSpan && representable (t + d) then some (t + d) else none

/-- No two representable instants lie further apart than the longest span. -/
theorem later?_of_representable {t : Instant} {d : Span} (here : representable t = true)
    (there : representable (t + d) = true) : later? t d = some (t + d) := by
  have gap (x : Int) (n : Nat) (low : -8334601228800 * 1000000000 ≤ x)
      (high : x + n ≤ 8210266876800 * 1000000000 - 1) : n ≤ 9223372036854775807 * 1000000 := by
    omega
  have start := here
  have stop := there
  simp only [representable, Bool.and_eq_true, decide_eq_true_eq] at start stop
  have short : d ≤ longestSpan := gap t d start.1 stop.2
  simp [later?, short, there]

def ofMillis? (ms : Int) : Option Instant :=
  let t : Instant := ms * 1000000
  if representable t then some t else none

/-- The first whole millisecond that is not earlier: a timer fires no sooner. -/
def ceilMillis (t : Instant) : Instant := -(-t / 1000000) * 1000000

/-- How much later than `s` the instant `t` is, nothing if it is earlier. -/
def since? (t s : Instant) : Option Span := if s ≤ t then some (t - s).toNat else none

end Instant
end SessionFleet
