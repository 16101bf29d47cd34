import SessionFleet.Proofs.Json.ShapeReads
/- What a reading says as a value, told apart from how much room there is for its brackets. -/
namespace SessionFleet

namespace Numeral

theorem absorb_of_small {start : Nat} {ds : List Char} (small : digitsFrom start ds < 2 ^ 64) :
    absorb start ds = (digitsFrom start ds, []) := by
  induction ds generalizing start with
  | nil => rfl
  | cons d ds ih =>
    -- digits never make a number smaller, so the limit is not met on the way
    have grows : ∀ (cs : List Char) (n : Nat), n ≤ digitsFrom n cs := by
      intro cs
      induction cs with
      | nil => exact fun n => Nat.le_refl n
      | cons c cs ih =>
        intro n
        have later := ih (10 * n + digitValue c)
        simp only [digitsFrom, List.foldl_cons] at later ⊢
        omega
    have later := grows ds (10 * start + digitValue d)
    have same : start * 10 + digitValue d = 10 * start + digitValue d := by omega
    have here : start * 10 + digitValue d < Nat.pow 2 64 := by
      simp only [digitsFrom, List.foldl_cons] at small later
      have : Nat.pow 2 64 = 2 ^ 64 := rfl
      omega
    rw [absorb, if_pos here, same]
    exact ih small

theorem digitsFrom_of_absorb {start n : Nat} {ds : List Char} (taken : absorb start ds = (n, [])) :
    digitsFrom start ds = n := by
  induction ds generalizing start with
  | nil => exact congrArg Prod.fst taken
  | cons d ds ih =>
    rw [absorb] at taken
    split at taken
    · have same : start * 10 + digitValue d = 10 * start + digitValue d := by omega
      rw [same] at taken
      exact ih taken
    · cases taken

/-- A whole number has no fraction and no exponent, and 64 bits hold its digits. -/
theorem digits_of_whole {n : Numeral} {i : Int} (read : n.number = .ok (.whole i)) :
    n.fraction = [] ∧ n.exponent = none ∧ ∃ sig, absorb 0 n.whole = (sig, []) ∧
      whole? n.negative sig = some i := by
  unfold number at read
  split at read
  rename_i sig left absorbed
  split at read
  · rename_i bare
    simp only [Bool.and_eq_true, List.isEmpty_iff, Option.isNone_iff_eq_none] at bare
    obtain ⟨⟨noFraction, noExponent⟩, rfl⟩ := bare
    split at read
    · rename_i found
      cases read
      exact ⟨noFraction, noExponent, sig, absorbed, found⟩
    · cases read
  split at read
  split at read
  · obtain ⟨x, ⟨⟩⟩ := double_isDouble read
  simp only at read
  split at read
  · split at read <;> cases read
  · obtain ⟨x, ⟨⟩⟩ := double_isDouble read

end Numeral

namespace Reading

open Json

/-- The reading can be kept where this many brackets may be open: its numbers are in range and no
    unit of its texts lacks its other half. -/
inductive Fits : Nat → Reading → Prop where
  | null {room : Nat} : Fits room .null
  | bool {room : Nat} (b : Bool) : Fits room (.bool b)
  | numeral {room : Nat} {n : Numeral} {k : JsonNumber} (inRange : n.number = .ok k) :
      Fits room (.numeral n)
  | quoted {room : Nat} {q : QuotedText} {s : String} (paired : q.text = .ok s) :
      Fits room (.quoted q)
  | list {room : Nat} {items : List Reading} (inner : ∀ x ∈ items, Fits room x) :
      Fits (room + 1) (.list items none)
  | object {room : Nat} {members : List (QuotedText × Reading)}
      (names : ∀ m ∈ members, ∃ name, m.1.text = .ok name) (inner : ∀ m ∈ members, Fits room m.2) :
      Fits (room + 1) (.object members none)

/-- The value that is kept from the reading where there is room for it. -/
def Denotes (r : Reading) (v : Json) : Prop := ∃ room, r.keep room = .ok v

theorem keepItems_of_each {room : Nat} {items : List Reading}
    (each : ∀ x ∈ items, ∃ v, keep room x = .ok v) : ∃ vs, keepItems room items = .ok vs := by
  induction items with
  | nil => exact ⟨[], rfl⟩
  | cons x rest ih =>
    obtain ⟨here, later⟩ := List.forall_mem_cons.mp each
    obtain ⟨v, head⟩ := here
    obtain ⟨vs, tail⟩ := ih later
    exact ⟨v :: vs, by rw [keepItems, head, tail]; rfl⟩

theorem keepMembers_of_each {room : Nat} {members : List (QuotedText × Reading)}
    (names : ∀ m ∈ members, ∃ name, m.1.text = .ok name)
    (each : ∀ m ∈ members, ∃ v, keep room m.2 = .ok v) :
    ∃ ms, keepMembers room members = .ok ms := by
  induction members with
  | nil => exact ⟨[], rfl⟩
  | cons m rest ih =>
    obtain ⟨⟨name, named⟩, otherNames⟩ := List.forall_mem_cons.mp names
    obtain ⟨⟨v, head⟩, later⟩ := List.forall_mem_cons.mp each
    obtain ⟨ms, tail⟩ := ih otherNames later
    exact ⟨(name, v) :: ms, by rw [keepMembers, named, head, tail]; rfl⟩

theorem keep_of_fits {room : Nat} {r : Reading} (fits : r.Fits room) :
    ∃ v, r.keep room = .ok v := by
  induction fits with
  | null => exact ⟨.null, rfl⟩
  | bool b => exact ⟨.bool b, rfl⟩
  | numeral inRange => exact ⟨_, by rw [keep, inRange]; rfl⟩
  | quoted paired => exact ⟨_, by rw [keep, paired]; rfl⟩
  | list _ each =>
    obtain ⟨vs, kept⟩ := keepItems_of_each each
    exact ⟨.list vs, by rw [keep, if_neg (Nat.succ_ne_zero _), Nat.add_sub_cancel, kept]; rfl⟩
  | object names _ each =>
    obtain ⟨ms, kept⟩ := keepMembers_of_each names each
    exact ⟨ofMembers ms, by rw [keep, if_neg (Nat.succ_ne_zero _), Nat.add_sub_cancel, kept]; rfl⟩

mutual

/-- What is kept fits, and where there is more room the same is kept. -/
theorem fits_of_keep : ∀ {r : Reading} {room : Nat} {v : Json}, r.keep room = .ok v →
    r.Fits room ∧ ∀ more, room ≤ more → r.keep more = .ok v
  | .null, _, _, kept => ⟨.null, fun _ _ => kept⟩
  | .bool b, _, _, kept => ⟨.bool b, fun _ _ => kept⟩
  | .numeral n, room, v, kept => by
    rw [keep] at kept
    obtain ⟨k, inRange, _⟩ := ok_of_map kept
    exact ⟨.numeral inRange, fun more _ => by rw [keep]; exact kept⟩
  | .quoted q, room, v, kept => by
    rw [keep] at kept
    obtain ⟨s, paired, _⟩ := ok_of_map kept
    exact ⟨.quoted paired, fun more _ => by rw [keep]; exact kept⟩
  | .list items fault, room, v, kept => by
    rw [keep] at kept
    split at kept
    · cases kept
    rename_i roomy
    obtain ⟨room, rfl⟩ := Nat.exists_eq_succ_of_ne_zero roomy
    obtain ⟨vs, inner, closed⟩ := ok_of_bind kept
    obtain ⟨fits, same⟩ := fits_of_keepItems inner
    cases fault with
    | some f => cases closed
    | none =>
      refine ⟨.list fits, fun more le => ?_⟩
      rw [keep, if_neg (by omega), same (more - 1) (by omega)]
      exact closed
  | .object members fault, room, v, kept => by
    rw [keep] at kept
    split at kept
    · cases kept
    rename_i roomy
    obtain ⟨room, rfl⟩ := Nat.exists_eq_succ_of_ne_zero roomy
    obtain ⟨ms, inner, closed⟩ := ok_of_bind kept
    obtain ⟨names, fits, same⟩ := fits_of_keepMembers inner
    cases fault with
    | some f => cases closed
    | none =>
      refine ⟨.object names fits, fun more le => ?_⟩
      rw [keep, if_neg (by omega), same (more - 1) (by omega)]
      exact closed
  | .broken f, _, _, kept => by cases kept
  | .cutNumeral, _, _, kept => by cases kept

theorem fits_of_keepItems : ∀ {items : List Reading} {room : Nat} {vs : List Json},
    keepItems room items = .ok vs →
      (∀ x ∈ items, x.Fits room) ∧ ∀ more, room ≤ more → keepItems more items = .ok vs
  | [], _, _, kept => ⟨by simp, fun _ _ => kept⟩
  | x :: rest, room, vs, kept => by
    rw [keepItems] at kept
    obtain ⟨v, head, kept⟩ := ok_of_bind kept
    obtain ⟨vs, tail, closed⟩ := ok_of_bind kept
    obtain ⟨here, sameHead⟩ := fits_of_keep head
    obtain ⟨later, sameTail⟩ := fits_of_keepItems tail
    refine ⟨List.forall_mem_cons.mpr ⟨here, later⟩, fun more le => ?_⟩
    rw [keepItems, sameHead more le, sameTail more le]
    exact closed

theorem fits_of_keepMembers : ∀ {members : List (QuotedText × Reading)} {room : Nat}
    {ms : List (String × Json)}, keepMembers room members = .ok ms →
      (∀ m ∈ members, ∃ name, m.1.text = .ok name) ∧ (∀ m ∈ members, m.2.Fits room) ∧
        ∀ more, room ≤ more → keepMembers more members = .ok ms
  | [], _, _, kept => ⟨by simp, by simp, fun _ _ => kept⟩
  | (q, x) :: rest, room, ms, kept => by
    rw [keepMembers] at kept
    obtain ⟨name, named, kept⟩ := ok_of_bind kept
    obtain ⟨v, head, kept⟩ := ok_of_bind kept
    obtain ⟨ms, tail, closed⟩ := ok_of_bind kept
    obtain ⟨here, sameHead⟩ := fits_of_keep head
    obtain ⟨otherNames, later, sameTail⟩ := fits_of_keepMembers tail
    refine ⟨List.forall_mem_cons.mpr ⟨⟨name, named⟩, otherNames⟩,
      List.forall_mem_cons.mpr ⟨here, later⟩, fun more le => ?_⟩
    rw [keepMembers, named, sameHead more le, sameTail more le]
    exact closed

end

theorem Denotes.unique {r : Reading} {v w : Json} (first : r.Denotes v) (second : r.Denotes w) :
    v = w := by
  obtain ⟨n, here⟩ := first
  obtain ⟨m, there⟩ := second
  have one := (fits_of_keep here).2 (max n m) (le_max_left n m)
  have two := (fits_of_keep there).2 (max n m) (le_max_right n m)
  exact Except.ok.inj (one.symm.trans two)

theorem keep_iff {r : Reading} {room : Nat} {v : Json} :
    r.keep room = .ok v ↔ r.Denotes v ∧ r.Fits room := by
  constructor
  · intro kept
    exact ⟨⟨room, kept⟩, (fits_of_keep kept).1⟩
  · rintro ⟨denotes, fits⟩
    obtain ⟨w, kept⟩ := keep_of_fits fits
    rwa [denotes.unique ⟨room, kept⟩]

theorem denotes_null_iff {r : Reading} : r.Denotes .null ↔ r = .null := by
  constructor
  · rintro ⟨room, kept⟩
    exact null_of_found (found_of_keep kept)
  · rintro rfl
    exact ⟨0, rfl⟩

theorem Denotes.found {r : Reading} {v : Json} (denotes : r.Denotes v) : r.found = .ok v.found := by
  obtain ⟨room, kept⟩ := denotes
  exact found_of_keep kept

theorem denotes_of_found_whole {r : Reading} {i : Int} (standing : r.found = .ok (.whole i)) :
    r.Denotes (.number (.whole i)) := by
  cases r with
  | numeral n =>
    rw [Reading.found, Fault.ofText_iff] at standing
    obtain ⟨k, read, same⟩ := ok_of_map standing
    cases k <;> cases same
    exact ⟨0, by rw [keep, read]; rfl⟩
  | quoted q =>
    rw [Reading.found, Fault.ofText_iff] at standing
    obtain ⟨_, _, ⟨⟩⟩ := ok_of_map standing
  | _ => cases standing

theorem denotes_text {q : QuotedText} {s : String} (paired : q.text = .ok s) :
    (Reading.quoted q).Denotes (.text s) := ⟨0, by rw [keep, paired]; rfl⟩

/-- Only a quoted text says a text. -/
theorem quoted_of_found {r : Reading} {s : String} (standing : r.found = .ok (.text s)) :
    ∃ q, r = .quoted q ∧ q.text = .ok s := by
  cases r with
  | numeral n =>
    rw [Reading.found, Fault.ofText_iff] at standing
    obtain ⟨k, _, same⟩ := ok_of_map standing
    cases k <;> cases same
  | quoted q =>
    rw [Reading.found, Fault.ofText_iff] at standing
    obtain ⟨t, paired, ⟨⟩⟩ := ok_of_map standing
    exact ⟨q, rfl, paired⟩
  | _ => cases standing

theorem asWhole_iff {r : Reading} {bits n : Nat} :
    r.asWhole bits = .ok n ↔ r.Denotes (Json.ofNat n) ∧ n < 2 ^ bits := by
  constructor
  · intro read
    refine ⟨?_, asWhole_lt read⟩
    obtain ⟨standing, found, checked⟩ := ok_of_bind read
    cases standing with
    | whole i =>
      simp only at checked
      split at checked
      · rename_i inside
        simp only [Bool.and_eq_true, decide_eq_true_eq] at inside
        obtain rfl : i.toNat = n := Except.ok.inj checked
        rw [Json.ofNat, Int.toNat_of_nonneg inside.1]
        exact denotes_of_found_whole found
      · cases checked
    | _ => cases checked
  · rintro ⟨denotes, small⟩
    exact asWhole_of_found denotes.found small

theorem asText_iff {r : Reading} {s : String} : r.asText = .ok s ↔ r.Denotes (.text s) := by
  constructor
  · intro read
    obtain ⟨standing, found, checked⟩ := ok_of_bind read
    cases standing <;> cases checked
    obtain ⟨q, rfl, paired⟩ := quoted_of_found found
    exact denotes_text paired
  · intro denotes
    rw [asText, denotes.found]
    rfl

/-- Nothing is said by `null`, and a value by what is read from it. -/
theorem asOptional_iff {α : Type} {r : Reading} {read : Reading → Except Fault α} {value : α → Json}
    {o : Option α} (means : ∀ a, read r = .ok a ↔ r.Denotes (value a))
    (present : ∀ a, value a ≠ .null) :
    r.asOptional read = .ok o ↔ r.Denotes (Json.ofOption value o) := by
  by_cases null : r = .null
  · subst null
    cases o with
    | none => exact ⟨fun _ => denotes_null_iff.mpr rfl, fun _ => rfl⟩
    | some a =>
      constructor
      · intro read
        cases read
      · intro denotes
        exact absurd (denotes.unique (denotes_null_iff.mpr rfl)) (present a)
  · rw [asOptional_of_notNull null]
    cases o with
    | none =>
      constructor
      · intro read
        obtain ⟨_, _, ⟨⟩⟩ := ok_of_map read
      · intro denotes
        exact absurd (denotes_null_iff.mp denotes) null
    | some a =>
      rw [Json.ofOption, ← means a]
      cases read r <;> simp [Except.map]

theorem paired_of_denotes {q : QuotedText} {v : Json} (denotes : (Reading.quoted q).Denotes v) :
    ∃ s, q.text = .ok s := by
  obtain ⟨room, kept⟩ := denotes
  rw [keep] at kept
  obtain ⟨s, paired, _⟩ := ok_of_map kept
  exact ⟨s, paired⟩

/-- A whole number written with digits only. -/
def IsPlain (r : Reading) (n : Nat) : Prop :=
  ∃ ds, r = .numeral ⟨false, ds, [], none⟩ ∧ digitsValue ds = n

theorem denotes_ofNat_iff {r : Reading} {n : Nat} :
    r.Denotes (Json.ofNat n) ↔ r.IsPlain n ∧ n < 2 ^ 64 := by
  constructor
  · intro denotes
    obtain ⟨room, kept⟩ := denotes
    cases r with
    | numeral m =>
      obtain ⟨negative, whole, fraction, exponent⟩ := m
      rw [keep] at kept
      obtain ⟨k, read, same⟩ := ok_of_map kept
      obtain rfl : k = .whole n := Json.number.inj same
      obtain ⟨rfl, rfl, sig, absorbed, written⟩ := Numeral.digits_of_whole read
      have small : sig < 2 ^ 64 := by
        simpa [absorbed] using Numeral.absorb_lt (show 0 < 2 ^ 64 by decide) whole
      have digits : digitsValue whole = sig := Numeral.digitsFrom_of_absorb absorbed
      cases negative with
      | false =>
        have same : (sig : Int) = n := by simpa [Numeral.whole?] using written
        obtain rfl : sig = n := Int.ofNat.inj same
        exact ⟨⟨whole, rfl, digits⟩, small⟩
      | true =>
        -- a sign makes the number negative, and zero a double
        simp only [Numeral.whole?, Bool.not_true, Bool.false_eq_true, ↓reduceIte, Bool.and_eq_true,
          decide_eq_true_eq, Option.ite_none_right_eq_some, Option.some.injEq] at written
        omega
    | quoted q =>
      rw [keep] at kept
      obtain ⟨_, _, ⟨⟩⟩ := ok_of_map kept
    | list items fault => cases found_of_keep kept
    | object members fault => cases found_of_keep kept
    | _ => cases kept
  · rintro ⟨⟨ds, rfl, rfl⟩, small⟩
    have read : Numeral.number ⟨false, ds, [], none⟩ = .ok (.whole (digitsValue ds)) := by
      simp [Numeral.number, Numeral.absorb_of_small small, Numeral.whole?, digitsValue]
    exact ⟨0, by rw [keep, read]; rfl⟩

end Reading
end SessionFleet
