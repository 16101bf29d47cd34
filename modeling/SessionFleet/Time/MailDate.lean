import SessionFleet.Time.Calendar
import SessionFleet.Number.Reading
/- Dates as mail headers write them: an optional day of the week, day, month, year, time and zone,
   then comments in brackets. -/
namespace SessionFleet

/-- A second since the start of 1970 and nanoseconds in it.  A leap second is written as the second
    before it with a thousand million nanoseconds. -/
structure Stamp where
  second : Int
  nano : Nat
  deriving DecidableEq, Repr, Inhabited

namespace MailDate

def isSpace (c : Char) : Bool := c = ' ' || c = '\t'

def blanks (cs : List Char) : List Char := cs.dropWhile isSpace

def someBlanks (cs : List Char) : Option (List Char) :=
  if (cs.head?.map isSpace).getD false then some (blanks cs) else none

/-- Decimal digits, at least and at most so many. -/
def digits (least most : Nat) (cs : List Char) : Option (Nat × List Char) :=
  let ds := (cs.take most).takeWhile isDigit
  if ds.length < least then none else some (digitsValue ds, cs.drop ds.length)

def literal (c : Char) : List Char → Option (List Char)
  | [] => none
  | d :: cs => if c = d then some cs else none

/-- The place of a three-letter name among others, in letters of any size. -/
def namedAmong (names : List String) (cs : List Char) : Option (Nat × List Char) :=
  let name := String.ofList (lowerAscii (cs.take 3))
  (names.findIdx? (· = name)).map fun i => (i, cs.drop 3)

def weekdays : List String := ["mon", "tue", "wed", "thu", "fri", "sat", "sun"]

def months : List String :=
  ["jan", "feb", "mar", "apr", "may", "jun", "jul", "aug", "sep", "oct", "nov", "dec"]

/-- A day of the week has to be followed by a comma. -/
def readWeekday (cs : List Char) : Option (Option Nat × List Char) :=
  match namedAmong weekdays cs with
  | none => some (none, cs)
  | some (day, rest) => (literal ',' rest).map fun rest => (some day, rest)

/-- Years of two digits lie between 1950 and 2049, years of three count from 1900. -/
def fullYear (count year : Nat) : Nat :=
  if count = 2 then if year < 50 then year + 2000 else year + 1900
  else if count = 3 then year + 1900
  else year

def readYear (cs : List Char) : Option (Nat × List Char) :=
  (digits 2 cs.length cs).map fun (year, rest) => (fullYear (cs.length - rest.length) year, rest)

/-- Hours east of the prime meridian, by name. -/
def namedZone (name : String) : Option Int :=
  if ["gmt", "ut", "z"].contains name then some 0
  else if name = "edt" then some (-4)
  else if name = "est" || name = "cdt" then some (-5)
  else if name = "cst" || name = "mdt" then some (-6)
  else if name = "mst" || name = "pdt" then some (-7)
  else if name = "pst" then some (-8)
  else if name.length = 1 && name ≠ "j" then some 0
  else none

/-- Hours and minutes after a sign. -/
def readOffset (cs : List Char) : Option (Int × List Char) := do
  let (hours, rest) ← digits 2 2 cs
  let (minutes, rest) ← digits 2 2 rest
  if minutes < 60 then some (hours * 3600 + minutes * 60, rest) else none

/-- The zone's seconds east of the prime meridian. -/
def readZone (cs : List Char) : Option (Int × List Char) :=
  let name := cs.takeWhile Char.isAlpha
  if name.isEmpty then
    match cs with
    | '+' :: rest => readOffset rest
    | '-' :: rest => (readOffset rest).map fun (s, rest) => (-s, rest)
    | _ => none
  else (namedZone (String.ofList (lowerAscii name))).map fun h => (h * 3600, cs.drop name.length)

/-- Skips comments, which may hold others.  `depth` is the number of brackets that are open. -/
def skipComments : Nat → List Char → Option (List Char)
  | 0, [] => some []
  | 0, c :: rest => if isSpace c then skipComments 0 rest else if c = '(' then skipComments 1 rest else none
  | _ + 1, [] => none
  | depth + 1, [c] => if c = ')' && depth = 0 then some [] else none
  | depth + 1, c :: d :: rest =>
    if c = '\\' then skipComments (depth + 1) rest
    else if c = '(' then skipComments (depth + 2) (d :: rest)
    else if c = ')' then skipComments depth (d :: rest)
    else skipComments (depth + 1) (d :: rest)

/-- Seconds may be left out. -/
def readSeconds (cs : List Char) : Option (Nat × List Char) :=
  match literal ':' (blanks cs) with
  | none => some (0, cs)
  | some rest => digits 2 2 rest

/-- The sixtieth second is the leap second after the fifty-ninth. -/
def stamp (year month day hour minute second : Nat) (zone : Int) : Option Stamp :=
  if Calendar.isDate year month day && (year : Int) ≤ Calendar.lastYear && hour < 24 && minute < 60 &&
      second ≤ 60 && zone.natAbs < 86400 then
    let s : Int := Calendar.dayNumber year month day * 86400 + hour * 3600 + minute * 60 + min second 59 - zone
    if Calendar.firstSecond ≤ s && s ≤ Calendar.lastSecond then
      some ⟨s, if second = 60 then 1000000000 else 0⟩
    else none
  else none

def read (cs : List Char) : Option Stamp := do
  let (named, rest) ← readWeekday (blanks cs)
  let (day, rest) ← digits 1 2 (blanks rest)
  let (month, rest) ← namedAmong months (← someBlanks rest)
  let (year, rest) ← readYear (← someBlanks rest)
  let (hour, rest) ← digits 2 2 (← someBlanks rest)
  let rest ← literal ':' (blanks rest)
  let (minute, rest) ← digits 2 2 (blanks rest)
  let (second, rest) ← readSeconds rest
  let (zone, rest) ← readZone (← someBlanks rest)
  let _ ← skipComments 0 rest
  let weekdayAgrees := match named with
    | none => true
    | some d => d = Calendar.weekday (Calendar.dayNumber year (month + 1) day)
  if weekdayAgrees then stamp year (month + 1) day hour minute second zone else none

end MailDate
end SessionFleet
