import SessionFleet.Text.Marks
import SessionFleet.Text.Unassigned
/- Code points that a description of a text does not show as they are: controls, formats, separators
   other than the blank, fillers, what extends the character before it, and code points that denote
   no character. -/
namespace SessionFleet.Hidden

/-- Formats, separators and fillers from the code point `300` on. -/
def ranges : List String := [
  "600-605 61c 6dd 70f 890-891 8e2 115f-1160 1680 180e 2000-200b 200d-200f 2028-202f 205f-2064",
  "2066-206f 3000 3164 feff ffa0 fff9-fffb 110bd 110cd 13430-1343f 1bca0-1bca3 1d173-1d17a e0001"]

def table : PointTable Unit := .ofRanges ranges

/-- Before the code point `300` these are the controls, the blank that does not break, and the soft
    hyphen. -/
def contains (n : Nat) : Bool :=
  if n < 0x300 then n < 0x20 || (0x7f ≤ n && n ≤ 0xa0) || n = 0xad
  else table.contains n || Marks.isExtending n || Unassigned.contains n

end SessionFleet.Hidden
