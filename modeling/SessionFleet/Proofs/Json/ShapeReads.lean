import SessionFleet.Json.Shape
import SessionFleet.Proofs.Json.ReadBack
/- The readers of a shape, on a reading that spells a value and on any reading.

   A value is portable if its text is sure to be read back where this many brackets may be open. -/
namespace SessionFleet

theorem Fault.ofText_iff {α : Type} {x : Except TextFault α} {a : α} :
    Fault.ofText x = .ok a ↔ x = .ok a := by
  cases x <;> simp [Fault.ofText]

namespace Json

/-- A value without doubles that a reader with this much room can yield. -/
structure Portable (room : Nat) (v : Json) : Prop where
  stored : v.Stored
  integral : v.Integral
  shallow : v.depth ≤ room

variable {room : Nat}

@[simp] theorem portable_null : Json.null.Portable room :=
  ⟨.null, .null, Nat.zero_le _⟩

@[simp] theorem portable_text (s : String) : (Json.text s).Portable room :=
  ⟨.text s, .text s, Nat.zero_le _⟩

@[simp] theorem portable_bool (b : Bool) : (Json.bool b).Portable room :=
  ⟨.bool b, .bool b, Nat.zero_le _⟩

theorem portable_ofNat {n : Nat} (small : n < 2 ^ 64) : (ofNat n).Portable room := by
  refine ⟨.whole ⟨?_, ?_⟩, .whole _, Nat.zero_le _⟩ <;> omega

theorem portable_list {items : List Json} (inner : ∀ x ∈ items, x.Portable room) :
    (Json.list items).Portable (room + 1) :=
  ⟨.list fun x member => (inner x member).stored, .list fun x member => (inner x member).integral,
    Nat.succ_le_succ (itemDepth_le.mpr fun x member => (inner x member).shallow)⟩

theorem portable_ofMembers {members : List (String × Json)}
    (inner : ∀ m ∈ members, m.2.Portable room) : (ofMembers members).Portable (room + 1) := by
  obtain ⟨row, built, ascending, each⟩ := ofMembers_keeps inner
  rw [built]
  exact ⟨.object ascending fun m member => (each m member).stored,
    .object fun m member => (each m member).integral,
    Nat.succ_le_succ (memberDepth_le.mpr fun m member => (each m member).shallow)⟩

theorem Portable.mono {v : Json} {more : Nat} (portable : v.Portable room) (le : room ≤ more) :
    v.Portable more :=
  ⟨portable.stored, portable.integral, portable.shallow.trans le⟩

end Json

namespace Reading

open Json

/-- What stands in a text agrees with the value that is kept from it. -/
theorem found_of_keep {r : Reading} {room : Nat} {v : Json} (kept : r.keep room = .ok v) :
    r.found = .ok v.found := by
  cases r with
  | null => cases kept; rfl
  | bool b => cases kept; rfl
  | numeral n =>
    rw [keep] at kept
    obtain ⟨k, read, rfl⟩ := ok_of_map kept
    rw [found, read]
    cases k <;> rfl
  | quoted q =>
    rw [keep] at kept
    obtain ⟨s, read, rfl⟩ := ok_of_map kept
    rw [found, read]
    rfl
  | list items fault =>
    rw [keep] at kept
    split at kept
    · cases kept
    obtain ⟨vs, _, closed⟩ := ok_of_bind kept
    cases fault <;> cases closed
    rfl
  | object members fault =>
    rw [keep] at kept
    split at kept
    · cases kept
    obtain ⟨ms, _, closed⟩ := ok_of_bind kept
    cases fault <;> cases closed
    rfl
  | broken f => cases kept
  | cutNumeral => cases kept

theorem null_of_found {r : Reading} (standing : r.found = .ok .null) : r = .null := by
  cases r with
  | null => rfl
  | bool b => cases standing
  | numeral n =>
    cases read : n.number with
    | error f => rw [found, read] at standing; cases standing
    | ok k => cases k <;> (rw [found, read] at standing; cases standing)
  | quoted q =>
    cases read : q.text with
    | error f => rw [found, read] at standing; cases standing
    | ok s => rw [found, read] at standing; cases standing
  | list items fault => cases standing
  | object members fault => cases standing
  | broken f => cases standing
  | cutNumeral => cases standing

theorem Spells.found {r : Reading} {v : Json} (spelled : r.Spells v) : r.found = .ok v.found :=
  found_of_keep (spelled v.depth le_rfl)

theorem asWhole_of_found {r : Reading} {n bits : Nat} (standing : r.found = .ok (.whole n))
    (small : n < 2 ^ bits) : r.asWhole bits = .ok n := by
  have within : (n : Int) < (Nat.pow 2 bits : Nat) := Int.ofNat_lt.mpr small
  have inside : (decide (0 ≤ (n : Int)) && decide ((n : Int) < (Nat.pow 2 bits : Nat))) = true := by
    simp only [Int.natCast_nonneg, within, decide_true, Bool.and_self]
  rw [asWhole, standing]
  exact if_pos inside

theorem asWhole_of_spells {r : Reading} {n bits : Nat} (spelled : r.Spells (Json.ofNat n))
    (small : n < 2 ^ bits) : r.asWhole bits = .ok n := asWhole_of_found spelled.found small

theorem asText_of_spells {r : Reading} {s : String} (spelled : r.Spells (Json.text s)) :
    r.asText = .ok s := by
  rw [asText, spelled.found]
  rfl

theorem asOptional_of_null {α : Type} {r : Reading} (spelled : r.Spells .null)
    (read : Reading → Except Fault α) : r.asOptional read = .ok none := by
  rw [null_of_found spelled.found]
  rfl

theorem asOptional_of_notNull {α : Type} {r : Reading} (notNull : r ≠ .null)
    (read : Reading → Except Fault α) : r.asOptional read = (read r).map some := by
  cases r <;> first | rfl | exact absurd rfl notNull

theorem asOptional_of_some {α : Type} {r : Reading} {v : Json} (spelled : r.Spells v)
    (present : v ≠ .null) (read : Reading → Except Fault α) :
    r.asOptional read = (read r).map some := by
  have notNull : r ≠ .null := by
    intro same
    have kept := spelled v.depth le_rfl
    rw [same] at kept
    exact present (Except.ok.inj kept).symm
  exact asOptional_of_notNull notNull read

theorem asOptional_present {α : Type} {r : Reading} {read : Reading → Except Fault α} {a : α}
    (found : r.asOptional read = .ok (some a)) : r ≠ .null ∧ read r = .ok a := by
  have notNull : r ≠ .null := by
    intro same
    subst same
    cases found
  rw [asOptional_of_notNull notNull] at found
  obtain ⟨b, taken, same⟩ := ok_of_map found
  exact ⟨notNull, by rw [taken, Option.some.inj same]⟩

theorem asWhole_lt {r : Reading} {bits n : Nat} (read : r.asWhole bits = .ok n) : n < 2 ^ bits := by
  obtain ⟨standing, _, checked⟩ := ok_of_bind read
  cases standing with
  | whole i =>
    simp only at checked
    split at checked
    · rename_i inside
      simp only [Bool.and_eq_true, decide_eq_true_eq] at inside
      obtain rfl : i.toNat = n := Except.ok.inj checked
      have below : i < (2 ^ bits : Nat) := inside.2
      omega
    · cases checked
  | _ => cases checked

end Reading
end SessionFleet
