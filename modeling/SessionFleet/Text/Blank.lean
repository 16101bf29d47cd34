/- Characters that leave a blank, in every script. -/
namespace SessionFleet

def isBlankPoint (n : Nat) : Bool :=
  (9 ≤ n && n ≤ 13) || n = 0x20 || n = 0x85 || n = 0xa0 || n = 0x1680 || (0x2000 ≤ n && n ≤ 0x200a) ||
    n = 0x2028 || n = 0x2029 || n = 0x202f || n = 0x205f || n = 0x3000

/-- A text without a character that shows. -/
def isBlankText (s : String) : Bool := s.toList.all fun c => isBlankPoint c.toNat

theorem isBlankPoint_of_isWhitespace {c : Char} (h : c.isWhitespace) : isBlankPoint c.toNat := by
  simp only [Char.isWhitespace, Bool.or_eq_true, decide_eq_true_eq] at h
  rcases h with ((h | h) | h) | h <;> subst h <;> decide

end SessionFleet
