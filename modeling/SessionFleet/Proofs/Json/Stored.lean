import Mathlib.Algebra.Group.Int.Defs
import Mathlib.Data.String.Basic
import SessionFleet.Json.Kept
/- What is known of every value that a reading yields: the names of each object ascend, a whole
   number fits 64 bits, and the brackets open at once are no more than there was room for. -/
namespace SessionFleet

theorem ok_of_bind {ε α β : Type} {x : Except ε α} {f : α → Except ε β} {b : β}
    (succeeds : (x >>= f) = .ok b) : ∃ a, x = .ok a ∧ f a = .ok b := by
  cases x with
  | error e => cases succeeds
  | ok a => exact ⟨a, rfl, succeeds⟩

theorem ok_of_map {ε α β : Type} {x : Except ε α} {f : α → β} {b : β}
    (succeeds : x.map f = .ok b) : ∃ a, x = .ok a ∧ f a = b := by
  cases x with
  | error e => cases succeeds
  | ok a => exact ⟨a, rfl, Except.ok.inj succeeds⟩

theorem bind_ok_iff {ε α β : Type} {x : Except ε α} {f : α → Except ε β} {b : β} :
    (x >>= f) = .ok b ↔ ∃ a, x = .ok a ∧ f a = .ok b := by
  constructor
  · exact ok_of_bind
  · rintro ⟨a, rfl, later⟩
    exact later

theorem map_ok_iff {ε α β : Type} {x : Except ε α} {f : α → β} {b : β} :
    x.map f = .ok b ↔ ∃ a, x = .ok a ∧ f a = b := by
  constructor
  · exact ok_of_map
  · rintro ⟨a, rfl, rfl⟩
    rfl

namespace Json

/-- Whole numbers that 64 bits hold, with a sign or without. -/
def FitsWord (n : Int) : Prop := -2 ^ 63 ≤ n ∧ n < 2 ^ 64

def Ascending (members : List (String × Json)) : Prop := members.Pairwise fun a b => a.1 < b.1

inductive Stored : Json → Prop where
  | null : Stored .null
  | bool (b : Bool) : Stored (.bool b)
  | whole {n : Int} (fits : FitsWord n) : Stored (.number (.whole n))
  | double (x : Binary64) : Stored (.number (.double x))
  | text (s : String) : Stored (.text s)
  | list {items : List Json} (inner : ∀ x ∈ items, Stored x) : Stored (.list items)
  | object {members : List (String × Json)} (ascending : Ascending members)
      (inner : ∀ m ∈ members, Stored m.2) : Stored (.object members)

/-- No number in the value is a double. -/
inductive Integral : Json → Prop where
  | null : Integral .null
  | bool (b : Bool) : Integral (.bool b)
  | whole (n : Int) : Integral (.number (.whole n))
  | text (s : String) : Integral (.text s)
  | list {items : List Json} (inner : ∀ x ∈ items, Integral x) : Integral (.list items)
  | object {members : List (String × Json)} (inner : ∀ m ∈ members, Integral m.2) :
      Integral (.object members)

mutual

/-- The most brackets that are open at once in the value's text. -/
def depth : Json → Nat
  | .null | .bool _ | .number _ | .text _ => 0
  | .list items => itemDepth items + 1
  | .object members => memberDepth members + 1

def itemDepth : List Json → Nat
  | [] => 0
  | x :: rest => max (depth x) (itemDepth rest)

def memberDepth : List (String × Json) → Nat
  | [] => 0
  | (_, x) :: rest => max (depth x) (memberDepth rest)

end

theorem insertMember_mem {name : String} {value : Json} {m : String × Json} :
    ∀ {members : List (String × Json)}, m ∈ insertMember name value members →
      m = (name, value) ∨ m ∈ members := by
  intro members
  induction members with
  | nil => simp [insertMember]
  | cons first rest ih =>
    intro member
    simp only [insertMember] at member
    split at member
    · simpa using member
    split at member
    · rcases List.mem_cons.mp member with same | later
      · exact .inl same
      · exact .inr (List.mem_cons_of_mem _ later)
    · rcases List.mem_cons.mp member with same | later
      · exact .inr (same ▸ List.mem_cons_self)
      · exact (ih later).imp_right (List.mem_cons_of_mem _)

theorem insertMember_ascending {name : String} {value : Json} {members : List (String × Json)}
    (ascending : Ascending members) : Ascending (insertMember name value members) := by
  induction members with
  | nil => simp [insertMember, Ascending]
  | cons first rest ih =>
    obtain ⟨above, tail⟩ := List.pairwise_cons.mp ascending
    simp only [insertMember]
    split
    · rename_i below
      refine List.pairwise_cons.mpr ⟨?_, ascending⟩
      intro m member
      rcases List.mem_cons.mp member with same | later
      · exact same ▸ below
      · exact below.trans (above m later)
    split
    · rename_i same
      subst same
      exact List.pairwise_cons.mpr ⟨above, tail⟩
    · rename_i notBelow different
      refine List.pairwise_cons.mpr ⟨?_, ih tail⟩
      intro m member
      rcases insertMember_mem member with new | old
      · subst new
        exact lt_of_le_of_ne (not_lt.mp notBelow) (Ne.symm different)
      · exact above m old

/-- A name above all the others goes to the end. -/
theorem insertMember_last {name : String} {value : Json} {members : List (String × Json)}
    (above : ∀ m ∈ members, m.1 < name) :
    insertMember name value members = members ++ [(name, value)] := by
  induction members with
  | nil => rfl
  | cons first rest ih =>
    obtain ⟨below, later⟩ := List.forall_mem_cons.mp above
    simp only [insertMember, if_neg (not_lt.mpr below.le), if_neg (ne_of_gt below), ih later,
      List.cons_append]

theorem itemDepth_le {items : List Json} {room : Nat} :
    itemDepth items ≤ room ↔ ∀ x ∈ items, depth x ≤ room := by
  induction items with
  | nil => simp [itemDepth]
  | cons x rest ih => simp [itemDepth, ih]

theorem memberDepth_le {members : List (String × Json)} {room : Nat} :
    memberDepth members ≤ room ↔ ∀ m ∈ members, depth m.2 ≤ room := by
  induction members with
  | nil => simp [memberDepth]
  | cons m rest ih => simp [memberDepth, ih]

/-- Putting members into an ascending row one by one keeps the row ascending, and brings in no
    value that was not among them. -/
theorem insertAll_keeps {P : Json → Prop} {members row : List (String × Json)}
    (ascending : Ascending row) (inside : ∀ m ∈ row, P m.2) (added : ∀ m ∈ members, P m.2) :
    Ascending (members.foldl (fun ms m => insertMember m.1 m.2 ms) row) ∧
      ∀ m ∈ members.foldl (fun ms m => insertMember m.1 m.2 ms) row, P m.2 := by
  induction members generalizing row with
  | nil => exact ⟨ascending, inside⟩
  | cons first rest ih =>
    obtain ⟨new, later⟩ := List.forall_mem_cons.mp added
    refine ih (insertMember_ascending ascending) ?_ later
    intro m member
    rcases insertMember_mem member with same | old
    · exact same ▸ new
    · exact inside m old

theorem insertAll_of_ascending {members row : List (String × Json)}
    (ascending : Ascending (row ++ members)) :
    members.foldl (fun ms m => insertMember m.1 m.2 ms) row = row ++ members := by
  induction members generalizing row with
  | nil => simp
  | cons first rest ih =>
    have above : ∀ m ∈ row, m.1 < first.1 := fun m member =>
      (List.pairwise_append.mp ascending).2.2 m member first List.mem_cons_self
    rw [List.foldl_cons, insertMember_last above]
    have regrouped : row ++ [(first.1, first.2)] ++ rest = row ++ first :: rest := by simp
    rw [ih (by rwa [regrouped]), regrouped]

/-- Members that ascend are an object as they stand. -/
theorem ofMembers_of_ascending {members : List (String × Json)} (ascending : Ascending members) :
    ofMembers members = .object members := by
  have inserted : members.foldl (fun ms m => insertMember m.1 m.2 ms) [] = [] ++ members :=
    insertAll_of_ascending ascending
  rw [ofMembers, inserted, List.nil_append]

theorem ofMembers_keeps {P : Json → Prop} {members : List (String × Json)}
    (added : ∀ m ∈ members, P m.2) :
    ∃ row, ofMembers members = .object row ∧ Ascending row ∧ ∀ m ∈ row, P m.2 := by
  have empty : ∀ m ∈ ([] : List (String × Json)), P m.2 := by simp
  exact ⟨_, rfl, insertAll_keeps .nil empty added⟩

end Json

namespace Numeral

theorem absorb_lt {start : Nat} (small : start < 2 ^ 64) (ds : List Char) :
    (absorb start ds).1 < 2 ^ 64 := by
  induction ds generalizing start with
  | nil => exact small
  | cons d rest ih =>
    simp only [absorb]
    split
    · rename_i fits
      exact ih fits
    · exact small

theorem whole?_fits {negative : Bool} {sig : Nat} {n : Int} (small : sig < 2 ^ 64)
    (found : whole? negative sig = some n) : Json.FitsWord n := by
  unfold Json.FitsWord
  cases negative with
  | false =>
    obtain rfl : (sig : Int) = n := by simpa [whole?] using found
    omega
  | true =>
    simp only [whole?, Bool.not_true, Bool.false_eq_true, ↓reduceIte, Bool.and_eq_true,
      decide_eq_true_eq, Option.ite_none_right_eq_some, Option.some.injEq] at found
    obtain ⟨⟨positive, bounded⟩, rfl⟩ := found
    have bounded : sig ≤ 2 ^ 63 := bounded
    omega

theorem double_isDouble {negative : Bool} {sig : Nat} {e : Int} {k : JsonNumber}
    (read : double negative sig e = .ok k) : ∃ x, k = .double x := by
  obtain ⟨x, _, rfl⟩ := ok_of_map read
  exact ⟨_, rfl⟩

theorem number_stored {n : Numeral} {k : JsonNumber} (read : n.number = .ok k) :
    (Json.number k).Stored := by
  have small := absorb_lt (show 0 < 2 ^ 64 by decide) n.whole
  unfold number at read
  split at read
  rename_i sig left absorbed
  rw [absorbed] at small
  split at read
  · split at read
    · rename_i i found
      cases read
      exact .whole (whole?_fits small found)
    · cases read
      exact .double _
  split at read
  split at read
  · obtain ⟨x, rfl⟩ := double_isDouble read
    exact .double x
  simp only at read
  split at read
  · split at read
    · cases read
    · cases read
      exact .double _
  · obtain ⟨x, rfl⟩ := double_isDouble read
    exact .double x

end Numeral

namespace Reading

open Json

mutual

theorem keep_stored : ∀ {r : Reading} {room : Nat} {v : Json}, r.keep room = .ok v →
    v.Stored ∧ v.depth ≤ room
  | .null, room, v, kept => by
    cases kept
    exact ⟨.null, Nat.zero_le _⟩
  | .bool b, room, v, kept => by
    cases kept
    exact ⟨.bool b, Nat.zero_le _⟩
  | .numeral n, room, v, kept => by
    rw [keep] at kept
    obtain ⟨k, read, rfl⟩ := ok_of_map kept
    exact ⟨Numeral.number_stored read, Nat.zero_le _⟩
  | .quoted q, room, v, kept => by
    rw [keep] at kept
    obtain ⟨s, _, rfl⟩ := ok_of_map kept
    exact ⟨.text s, Nat.zero_le _⟩
  | .list items fault, room, v, kept => by
    rw [keep] at kept
    split at kept
    · cases kept
    obtain ⟨vs, inner, closed⟩ := ok_of_bind kept
    cases fault with
    | some f => cases closed
    | none =>
      cases closed
      have each := keepItems_stored inner
      have shallow := itemDepth_le.mpr fun x member => (each x member).2
      refine ⟨.list fun x member => (each x member).1, ?_⟩
      simp only [depth]
      omega
  | .object members fault, room, v, kept => by
    rw [keep] at kept
    split at kept
    · cases kept
    obtain ⟨ms, inner, closed⟩ := ok_of_bind kept
    cases fault with
    | some f => cases closed
    | none =>
      obtain ⟨row, built, ascending, each⟩ :=
        ofMembers_keeps (P := fun x => x.Stored ∧ x.depth ≤ room - 1) (keepMembers_stored inner)
      obtain rfl : ofMembers ms = v := Except.ok.inj closed
      rw [built]
      have shallow := memberDepth_le.mpr fun m member => (each m member).2
      refine ⟨.object ascending fun m member => (each m member).1, ?_⟩
      simp only [depth]
      omega
  | .broken f, room, v, kept => by cases kept
  | .cutNumeral, room, v, kept => by cases kept

theorem keepItems_stored : ∀ {items : List Reading} {room : Nat} {vs : List Json},
    keepItems room items = .ok vs → ∀ v ∈ vs, v.Stored ∧ v.depth ≤ room
  | [], room, vs, kept => by
    cases kept
    simp
  | x :: rest, room, vs, kept => by
    rw [keepItems] at kept
    obtain ⟨v, head, kept⟩ := ok_of_bind kept
    obtain ⟨rest', tail, kept⟩ := ok_of_bind kept
    cases kept
    exact List.forall_mem_cons.mpr ⟨keep_stored head, keepItems_stored tail⟩

theorem keepMembers_stored : ∀ {members : List (QuotedText × Reading)} {room : Nat}
    {ms : List (String × Json)}, keepMembers room members = .ok ms →
      ∀ m ∈ ms, m.2.Stored ∧ m.2.depth ≤ room
  | [], room, ms, kept => by
    cases kept
    simp
  | (q, x) :: rest, room, ms, kept => by
    rw [keepMembers] at kept
    obtain ⟨name, _, kept⟩ := ok_of_bind kept
    obtain ⟨v, head, kept⟩ := ok_of_bind kept
    obtain ⟨rest', tail, kept⟩ := ok_of_bind kept
    cases kept
    exact List.forall_mem_cons.mpr ⟨keep_stored head, keepMembers_stored tail⟩

end

end Reading
end SessionFleet
