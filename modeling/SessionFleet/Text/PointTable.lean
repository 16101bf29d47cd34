import SessionFleet.Number.Reading
/- Tables over code points.  They are written as lines of entries with blanks between them; an entry
   is a range of code points in hexadecimal digits, with what holds for it. -/
namespace SessionFleet

/-- What holds for the code points from `first` to `last`. -/
structure PointRange (α : Type) where
  first : Nat
  last : Nat
  value : α

/-- The ranges ascend and do not overlap. -/
structure PointTable (α : Type) where
  ranges : Array (PointRange α)

namespace PointTable

variable {α : Type}

/-- Halves the part of the table that can still hold the code point. -/
def search (t : PointTable α) (n : Nat) : Nat → Nat → Nat → Option (PointRange α)
  | 0, _, _ => none
  | fuel + 1, lo, hi =>
    if hi ≤ lo then none
    else
      match t.ranges[(lo + hi) / 2]? with
      | none => none
      | some r =>
        if n < r.first then t.search n fuel lo ((lo + hi) / 2)
        else if r.last < n then t.search n fuel ((lo + hi) / 2 + 1) hi
        else some r

/-- The range that the code point is in. -/
def find? (t : PointTable α) (n : Nat) : Option (PointRange α) :=
  t.search n (Nat.log2 t.ranges.size + 2) 0 t.ranges.size

def get? (t : PointTable α) (n : Nat) : Option α := (t.find? n).map (·.value)

def contains (t : PointTable α) (n : Nat) : Bool := (t.find? n).isSome

/- Reading -/

def entries (lines : List String) : List (List Char) := lines.flatMap fun l => l.toList.splitOn ' '

def readPoint (cs : List Char) : Nat := cs.foldl (fun n c => 16 * n + (hexValue c).getD 0) 0

def readChar (cs : List Char) : Char := Char.ofNat (readPoint cs)

/-- What stands before the first `c`, and what stands after it. -/
def splitAt (c : Char) (cs : List Char) : List Char × List Char :=
  (cs.takeWhile (· ≠ c), (cs.dropWhile (· ≠ c)).drop 1)

/-- `ad` or `600-605` -/
def readRange (value : α) (cs : List Char) : PointRange α :=
  let (first, last) := splitAt '-' cs
  ⟨readPoint first, readPoint (if last.isEmpty then first else last), value⟩

def ofEntries (read : List Char → PointRange α) (lines : List String) : PointTable α :=
  ⟨((entries lines).map read).toArray⟩

def ofRanges (lines : List String) : PointTable Unit := ofEntries (readRange ()) lines

/-- A code point that is found lies in a range of the table. -/
theorem mem_of_search {t : PointTable α} {n fuel lo hi : Nat} {r : PointRange α}
    (h : t.search n fuel lo hi = some r) : r ∈ t.ranges ∧ r.first ≤ n ∧ n ≤ r.last := by
  induction fuel generalizing lo hi with
  | zero => simp [search] at h
  | succ fuel ih =>
    unfold search at h
    split at h
    · simp at h
    · split at h
      · simp at h
      · next s hs =>
        split at h
        · exact ih h
        · split at h
          · exact ih h
          · obtain rfl := Option.some.inj h
            exact ⟨Array.mem_of_getElem? hs, by omega, by omega⟩

theorem mem_of_find? {t : PointTable α} {n : Nat} {r : PointRange α} (h : t.find? n = some r) :
    r ∈ t.ranges ∧ r.first ≤ n ∧ n ≤ r.last := mem_of_search h

end PointTable
end SessionFleet
