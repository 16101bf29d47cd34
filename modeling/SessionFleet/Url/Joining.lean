import SessionFleet.Text.CombiningClass
import SessionFleet.Text.Marks
/- Joiners without width in a label: where they may stand. -/
namespace SessionFleet.Joining

/-- Letters that join the one behind them. -/
def forwardRanges : List String := [
  "620 626 628 62a-62e 633-63f 641-647 649-64a 66e-66f 678-687 69a-6bf 6c1-6c2 6cc 6ce 6d0-6d1",
  "6fa-6fc 6ff 712-714 71a-71d 71f-727 729 72b 72d-72e 74e-758 75c-76a 76d-770 772 775-777 77a-77f",
  "7ca-7ea 841-845 848 84a-853 855 860 862-865 868 886 889-88d 88f 8a0-8a9 8af-8b0 8b3-8b8 8ba-8c8",
  "1807 1820-1878 1887-18a8 18aa a840-a872 10ac0-10ac4 10acd 10ad3-10adc 10ade-10ae0 10aeb-10aee",
  "10b80 10b82 10b86-10b88 10b8a-10b8b 10b8d 10b90 10bad-10bae 10d00-10d21 10d23 10ec3-10ec4",
  "10ec6-10ec7 10f30-10f32 10f34-10f44 10f51-10f53 10f70-10f73 10f76-10f81 10fb0 10fb2-10fb3 10fb8",
  "10fbb-10fbc 10fbe-10fbf 10fc1 10fc4 10fca-10fcb 1e900-1e943"]

/-- Letters that join the one before them. -/
def backwardRanges : List String := [
  "620 622-63f 641-64a 66e-66f 671-673 675-6d3 6d5 6ee-6ef 6fa-6fc 6ff 710 712-72f 74d-77f 7ca-7ea",
  "840-858 860 862-865 867-86a 870-882 886 889-88f 8a0-8ac 8ae-8c8 1807 1820-1878 1887-18a8 18aa",
  "a840-a871 10ac0-10ac5 10ac7 10ac9-10aca 10ace-10ad6 10ad8-10ae1 10ae4 10aeb-10aef 10b80-10b91",
  "10ba9-10bae 10d01-10d23 10ec2-10ec4 10ec6-10ec7 10f30-10f44 10f51-10f54 10f70-10f81 10fb0",
  "10fb2-10fb6 10fb8-10fbf 10fc1-10fc4 10fc9-10fca 1e900-1e943"]

def forward : PointTable Unit := .ofRanges forwardRanges

def backward : PointTable Unit := .ofRanges backwardRanges

def nonjoiner : Char := Char.ofNat 0x200c

def joiner : Char := Char.ofNat 0x200d

/-- What letters join across: nonspacing marks, and one letter that is written like a mark. -/
def isTransparent (n : Nat) : Bool := Marks.isNonspacing n || n = 0x1e94b

/-- Whether the next letter that is not transparent is in the table. -/
def reaches (t : PointTable Unit) (cs : List Char) : Bool :=
  (cs.dropWhile fun c => isTransparent c.toNat).head?.any fun c => t.contains c.toNat

/-- After a virama both may stand; the nonjoiner also between letters that would join. -/
def allowed (before : List Char) (c : Char) (after : List Char) : Bool :=
  before.head?.any (fun b => CombiningClass.of b = CombiningClass.virama) ||
    (c = nonjoiner && reaches forward before && reaches backward after)

/-- `before` is what stands before the text, the last character first. -/
def fits (before : List Char) : List Char → Bool
  | [] => true
  | c :: rest =>
    ((c ≠ nonjoiner && c ≠ joiner) || allowed before c rest) && fits (c :: before) rest

end SessionFleet.Joining
