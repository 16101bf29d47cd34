import SessionFleet.Number.Reading
import SessionFleet.Text.Marks
/- The direction of writing in a label.  It may not depend on what stands around the label. -/
namespace SessionFleet

/-- How a character takes part in the direction of a text.  A mark goes with what is before it. -/
inductive Direction where
  | leftToRight
  | rightToLeft
  | arabicNumber
  | number
  | neutral
  | mark
  deriving DecidableEq, Repr

namespace Direction

/-- Signs and symbols beyond ASCII, as far as a label may hold them. -/
def neutralRanges : List String := [
  "a1-d7 f7 2b9-2ba 2c2-2cf 2d2-2ed 2ef-2ff 375 3f6 58a-58f 606-607 609-60a 60c 60e-60f 66a 6de",
  "6e9 7f6-7f9 9f2-9f3 9fb af1 bf3-bfa c78-c7e e3f f3a-f3d 1390-1399 1400 169b-169c 17db 17f0-180a",
  "1940-1945 19de-19ff 200c-20c1 2104-214d 218a-2335 237b-2394 2396-26ab 26ad-27ff 2900-2bff",
  "2ce5-2cea 2cf9-2cff 2e00-3004 3008-3020 3030 3037 303d-303f 30a0 30fb 31c0-31e5 4dc0-4dff",
  "a490-a4c6 a60d-a60f a673 a67e-a67f a700-a721 a788 a828-a82b a838-a839 a874-a877 ab6a-ab6b",
  "fbc3-fdff fe45-fe46 10101 10140-1018c 10190-101a0 1091f 10b39-10b3f 10d6e 10ed0-10ed8",
  "11052-11065 11660-1166c 11fd5-11ff1 16fe2 1cc00-1cef0 1d1e9-1d241 1d245 1d300-1d356 1e2ff",
  "1eef0-1f12f 1f16d-1f16f 1f1ad 1f260-1fbfa"]

def neutralTable : PointTable Unit := .ofRanges neutralRanges

/-- Blocks of scripts that are written from right to left. -/
def rightToLeftBlocks : PointTable Unit := 
  .ofRanges ["590-8ff fb1d-fdff fe70-feff 10800-10fff 1e800-1efff"]

def arabicNumbers : PointTable Unit := .ofRanges ["660-669 66b-66c 10d30-10d39 10e60-10e7e"]

def numbers : PointTable Unit := .ofRanges ["6f0-6f9 102e1-102fb"]

/-- Nonspacing marks that count as letters. -/
def letterMarks : PointTable Unit := .ofRanges ["cbf cc6 11a07-11a08 11c3f"]

def of (c : Char) : Direction :=
  let n := c.toNat
  if n < 0x80 then if c.isAlpha then .leftToRight else if isDigit c then .number else .neutral
  else if arabicNumbers.contains n then .arabicNumber
  else if numbers.contains n then .number
  else if neutralTable.contains n then .neutral
  else if Marks.isNonspacing n && !letterMarks.contains n then .mark
  else if rightToLeftBlocks.contains n then .rightToLeft
  else .leftToRight

/-- Nothing before the code point `590` is written from right to left. -/
def isReversing (c : Char) : Bool :=
  0x590 ≤ c.toNat && (of c = .rightToLeft || of c = .arabicNumber)

/-- The body of a label after its first character, given from its end, where marks do not count. -/
def bodyFits (first : Direction) : List Direction → Bool
  | [] => first = .leftToRight || first = .rightToLeft
  | last :: middle => match first with
    | .leftToRight =>
      (last = .leftToRight || last = .number) &&
        middle.all fun d => d ≠ .rightToLeft && d ≠ .arabicNumber
    | .rightToLeft =>
      (last = .rightToLeft || last = .number || last = .arabicNumber) &&
        middle.all (· ≠ .leftToRight) &&
        !((last :: middle).contains .number && (last :: middle).contains .arabicNumber)
    | _ => false

/-- A label starts with a letter and keeps to its direction; in one that runs from right to left
    only one kind of number may stand. -/
def fits (cs : List Char) : Bool :=
  match cs.map of with
  | [] => true
  | first :: rest => bodyFits first (rest.reverse.dropWhile (· = .mark))

end Direction
end SessionFleet
