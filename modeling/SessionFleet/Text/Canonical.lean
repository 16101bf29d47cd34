import SessionFleet.Text.CombiningClass
import SessionFleet.Text.Composite
import SessionFleet.Text.Hangul
/- The canonical form of a text: marks in the order of their classes, then every character together
   with the marks that it can take in. -/
namespace SessionFleet

namespace Canonical

/-- How often the base of a composite can be a composite itself. -/
def depth : Nat := 3

def parts : Nat → Char → List Char
  | 0, c => [c]
  | deep + 1, c =>
    match Hangul.parts? c with
    | some cs => cs
    | none => match Composite.ofWhole? c with
      | some e => parts deep e.base ++ [e.mark]
      | none => [c]

def decomposed (cs : List Char) : List Char := cs.flatMap (parts depth)

/-- Puts a character behind a text whose last character comes first, but before the marks of greater
    classes. -/
def insert (c : Char) : List Char → List Char
  | [] => [c]
  | d :: rest =>
    if CombiningClass.of c ≠ 0 && CombiningClass.of c < CombiningClass.of d then d :: insert c rest
    else c :: d :: rest

def ordered (cs : List Char) : List Char := (cs.foldl (fun before c => insert c before) []).reverse

def compose? (a b : Char) : Option Char := 
  (Hangul.compose? a b).or ((Composite.ofParts? a b).map (·.whole))

/-- Whether no mark of its class or a greater one stands between a character and the one that could
    take it in; `marks` are those between them, the last one first. -/
def isFree (marks : List Char) (c : Char) : Bool :=
  marks.head?.all fun m => CombiningClass.of m < CombiningClass.of c

/-- `base` takes in what it can; `marks` are those behind it that it could not take in. -/
def composeFrom (base : Char) (marks : List Char) : List Char → List Char
  | [] => base :: marks.reverse
  | c :: cs =>
    match (if isFree marks c then compose? base c else none) with
    | some whole => composeFrom whole marks cs
    | none =>
      if CombiningClass.of c = 0 then base :: (marks.reverse ++ composeFrom c [] cs)
      else composeFrom base (c :: marks) cs

/-- Marks at the start have nothing that could take them in. -/
def composed : List Char → List Char
  | [] => []
  | c :: cs => if CombiningClass.of c = 0 then composeFrom c [] cs else c :: composed cs

def form (cs : List Char) : List Char := composed (ordered (decomposed cs))

end Canonical
end SessionFleet
