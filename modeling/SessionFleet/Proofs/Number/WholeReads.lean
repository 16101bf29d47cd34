import Mathlib.Data.List.Induction
import Mathlib.Data.Nat.Digits.Defs
import Mathlib.Data.Set.List
import SessionFleet.Number.Reading
/- How a whole number is written, and that just this is read as its value.  The grammar and the value
   are stated apart from the reader. -/
namespace SessionFleet

namespace WholeText

variable {c : Char} {cs : List Char}

def digitChar (d : Fin 10) : Char := Char.ofNat ('0'.toNat + d.val)

/-- The number that a row of digits denotes, the first digit counting most. -/
def valueOf (ds : List (Fin 10)) : Nat := Nat.ofDigits 10 (ds.reverse.map Fin.val)

theorem digitChar_spec (d : Fin 10) :
    isDigit (digitChar d) = true ∧ digitValue (digitChar d) = d.val ∧ digitChar d ≠ '+' := by
  revert d
  decide

theorem isDigit_iff : isDigit c = true ↔ c ∈ Set.range digitChar := by
  constructor
  · intro digit
    have bounds : '0'.toNat ≤ c.toNat ∧ c.toNat ≤ '9'.toNat := Char.isDigit_iff_toNat.mp digit
    have below : c.toNat - '0'.toNat < 10 := by
      have last : '9'.toNat = '0'.toNat + 9 := rfl
      omega
    refine ⟨⟨c.toNat - '0'.toNat, below⟩, ?_⟩
    rw [digitChar, Nat.add_sub_cancel' bounds.1, Char.ofNat_toNat]
  · rintro ⟨d, rfl⟩
    exact (digitChar_spec d).1

theorem digits_iff :
    (∀ c ∈ cs, isDigit c = true) ↔ ∃ ds : List (Fin 10), ds.map digitChar = cs := by
  have written := Set.ext_iff.mp (Set.range_list_map digitChar) cs
  simp only [isDigit_iff]
  exact written.symm

theorem valueOf_append (ds : List (Fin 10)) (d : Fin 10) :
    valueOf (ds ++ [d]) = 10 * valueOf ds + d.val := by
  simp only [valueOf, List.reverse_append, List.reverse_singleton, List.singleton_append,
    List.map_cons, Nat.ofDigits_cons]
  omega

theorem digitsValue_digits (ds : List (Fin 10)) : digitsValue (ds.map digitChar) = valueOf ds := by
  induction ds using List.reverseRecOn with
  | nil => rfl
  | append_singleton ds d ih =>
    rw [valueOf_append, ← ih]
    simp [digitsValue, digitsFrom, List.foldl_append, (digitChar_spec d).2.1]

end WholeText

open WholeText

/-- A whole number as it is written: at least one digit, leading zeros counting for nothing, after a
    plus sign or none. -/
inductive WholeText : List Char → Nat → Prop where
  | plain {ds : List (Fin 10)} (any : ds ≠ []) : WholeText (ds.map digitChar) (valueOf ds)
  | plus {ds : List (Fin 10)} (any : ds ≠ []) : WholeText ('+' :: ds.map digitChar) (valueOf ds)

namespace WholeText

variable {ds : List (Fin 10)} {cs : List Char} {n : Nat}

/-- What stands after the sign. -/
def body (cs : List Char) : List Char := if cs.head? = some '+' then cs.drop 1 else cs

theorem body_digits (any : ds ≠ []) : body (ds.map digitChar) = ds.map digitChar := by
  obtain ⟨d, rest, rfl⟩ := List.exists_cons_of_ne_nil any
  simp [body, (digitChar_spec d).2.2]

theorem body_plus (cs : List Char) : body ('+' :: cs) = cs := rfl

theorem iff_body : WholeText cs n ↔ body cs ≠ [] ∧ (∀ c ∈ body cs, isDigit c = true) ∧
    digitsValue (body cs) = n := by
  constructor
  · intro text
    cases text with
    | plain any =>
      rw [body_digits any]
      exact ⟨by simpa using any, digits_iff.mpr ⟨_, rfl⟩, digitsValue_digits _⟩
    | plus any =>
      rw [body_plus]
      exact ⟨by simpa using any, digits_iff.mpr ⟨_, rfl⟩, digitsValue_digits _⟩
  · rintro ⟨any, digits, rfl⟩
    obtain ⟨ds, written⟩ := digits_iff.mp digits
    have filled : ds ≠ [] := by
      rintro rfl
      exact any written.symm
    rw [← written, digitsValue_digits]
    by_cases signed : cs.head? = some '+'
    · obtain ⟨rest, rfl⟩ := List.head?_eq_some_iff.mp signed
      rw [body_plus] at written
      exact written ▸ plus filled
    · rw [body, if_neg signed] at written
      exact written ▸ plain filled

/-- Nothing that is not a digit or a plus sign stands in a whole number. -/
theorem chars (text : WholeText cs n) :
    cs ≠ [] ∧ ∀ c ∈ cs, c = '+' ∨ isDigit c = true := by
  cases text with
  | plain any => exact ⟨by simpa using any, fun c member => Or.inr (digits_iff.mpr ⟨_, rfl⟩ c member)⟩
  | plus any =>
    refine ⟨List.cons_ne_nil _ _, fun c member => ?_⟩
    exact (List.mem_cons.mp member).imp_right fun later => digits_iff.mpr ⟨_, rfl⟩ c later

end WholeText

/-- Just the whole numbers below `2 ^ bits` are read, each as its value. -/
theorem readWhole_iff {bits : Nat} {cs : List Char} {n : Nat} :
    readWhole bits cs = some n ↔ WholeText cs n ∧ n < 2 ^ bits := by
  rw [WholeText.iff_body]
  change (if (body cs).isEmpty || !(body cs).all isDigit then none
    else if digitsValue (body cs) < 2 ^ bits then some (digitsValue (body cs)) else none) = some n ↔ _
  by_cases well : body cs ≠ [] ∧ ∀ c ∈ body cs, isDigit c = true
  · have read : ((body cs).isEmpty || !(body cs).all isDigit) = false := by simpa using well
    simp only [read, Bool.false_eq_true, if_false, Option.ite_none_right_eq_some, Option.some.injEq]
    constructor
    · rintro ⟨small, rfl⟩
      exact ⟨⟨well.1, well.2, rfl⟩, small⟩
    · rintro ⟨⟨-, -, rfl⟩, small⟩
      exact ⟨small, rfl⟩
  · have unread : ((body cs).isEmpty || !(body cs).all isDigit) = true := by
      simpa [or_iff_not_imp_left] using well
    simp only [unread, if_true, reduceCtorEq, false_iff]
    exact fun ⟨⟨any, digits, _⟩, _⟩ => well ⟨any, digits⟩

end SessionFleet
