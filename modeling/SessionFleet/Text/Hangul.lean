/- Syllables of Hangul: a leading consonant, a vowel, and a trailing consonant if any.  Their code
   points are in the order of their parts. -/
namespace SessionFleet.Hangul

def lead : Nat := 0x1100
def vowel : Nat := 0x1161
/-- one less than the first trailing consonant -/
def trail : Nat := 0x11a7
def syllable : Nat := 0xac00

def leads : Nat := 19
def vowels : Nat := 21
def trails : Nat := 28

def isWithin (n first count : Nat) : Bool := first ≤ n && n < first + count

/-- The parts of a syllable; nothing if the character is none. -/
def parts? (c : Char) : Option (List Char) :=
  let s := c.toNat - syllable
  if isWithin c.toNat syllable (leads * vowels * trails) then
    let pair := [Char.ofNat (lead + s / (vowels * trails)), Char.ofNat (vowel + s / trails % vowels)]
    some (if s % trails = 0 then pair else pair ++ [Char.ofNat (trail + s % trails)])
  else none

def isOpen (c : Char) : Bool :=
  isWithin c.toNat syllable (leads * vowels * trails) && (c.toNat - syllable) % trails = 0

def compose? (a b : Char) : Option Char :=
  if isWithin a.toNat lead leads && isWithin b.toNat vowel vowels then
    some (Char.ofNat (syllable + ((a.toNat - lead) * vowels + (b.toNat - vowel)) * trails))
  else if isOpen a && isWithin b.toNat (trail + 1) (trails - 1) then
    some (Char.ofNat (a.toNat + (b.toNat - trail)))
  else none

end SessionFleet.Hangul
