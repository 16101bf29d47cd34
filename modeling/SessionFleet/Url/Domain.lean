import SessionFleet.Text.Canonical
import SessionFleet.Url.Direction
import SessionFleet.Url.Folding
import SessionFleet.Url.Joining
import SessionFleet.Url.Punycode
/- Host names.  A name is folded and brought to its canonical form; a label with characters beyond
   ASCII is written in its ASCII form after `xn--`, and a label that is given in that form has to
   stand for one that folding leaves as it is. -/
namespace SessionFleet

/-- A label as it is written, in ASCII, and the characters that it stands for. -/
structure Label where
  written : List Char
  shown : List Char
  deriving DecidableEq, Repr

namespace Domain

/-- Characters that no name has, besides controls and the blank. -/
def forbidden : List Char := ['%', '#', '/', ':', '<', '>', '?', '@', '[', '\\', ']', '^', '|']

def isForbidden (c : Char) : Bool := c.toNat ≤ 0x20 || c.toNat = 0x7f || forbidden.contains c

def encodedMark : List Char := ['x', 'n', '-', '-']

/-- The most characters of a label beyond ASCII. -/
def longestShown : Nat := 1000

/-- The most characters of a label behind its mark. -/
def longestCode : Nat := 2000

def isAscii (cs : List Char) : Bool := cs.all Punycode.isAscii

/-- No label starts with a mark, and joiners stand only where they show. -/
def isFit (cs : List Char) : Bool :=
  !cs.head?.any (fun c => Marks.isMark c.toNat) && Joining.fits [] cs &&
    (isAscii cs || cs.length ≤ longestShown)

def isSettled (cs : List Char) : Bool :=
  cs.all (fun c => Folding.char c = some [c] && !isForbidden c && c ≠ '.') && Canonical.form cs = cs

/-- What the code behind the mark of a label stands for. -/
def decode (code : List Char) : Option (List Char) :=
  if !isAscii code || code.isEmpty || code.getLast? = some '-' || longestCode < code.length then none
  else match Punycode.decode code with
    | none => none
    | some cs => if isSettled cs then some cs else none

def label (cs : List Char) : Option Label :=
  let shown := if encodedMark.isPrefixOf cs then decode (cs.drop encodedMark.length) else some cs
  let written := if isAscii cs then cs else encodedMark ++ Punycode.encode cs
  match shown with
  | none => none
  | some shown => if isFit shown then some ⟨written, shown⟩ else none

/-- The labels of a name that is folded already. -/
def labels (cs : List Char) : Option (List Label) :=
  if cs.any isForbidden then none else (cs.splitOn '.').mapM label

/-- As soon as one label has a character that runs from right to left, every label has to keep to its
    direction. -/
def agrees (ls : List Label) : Bool :=
  !(ls.any fun l => l.shown.any Direction.isReversing) || ls.all fun l => Direction.fits l.shown

/-- The canonical form of a folded name; there is nothing to do for small letters of Latin. -/
def canonical (cs : List Char) : List Char :=
  if cs.all (·.toNat < 0x300) then cs else Canonical.form cs

/-- The ASCII form of a name; nothing if it has none. -/
def ascii (bytes : List UInt8) : Option (List Char) := do
  let name ← String.fromUTF8? ⟨bytes.toArray⟩
  let folded ← Folding.text name.toList
  let ls ← labels (canonical folded)
  if agrees ls then some ((ls.map (·.written)).intersperse ['.']).flatten else none

end Domain
end SessionFleet
