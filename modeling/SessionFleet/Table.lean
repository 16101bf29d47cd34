/- Tables: at most one value per key, in the order in which the keys first came. -/
namespace SessionFleet

abbrev Table (α β : Type) := List (α × β)

namespace Table

variable {α β : Type} [DecidableEq α]

def get? (k : α) : Table α β → Option β
  | [] => none
  | (n, v) :: rest => if n = k then some v else get? k rest

/-- A key that is there already keeps its place. -/
def put (k : α) (v : β) : Table α β → Table α β
  | [] => [(k, v)]
  | (n, w) :: rest => if n = k then (n, v) :: rest else (n, w) :: put k v rest

def remove (k : α) (t : Table α β) : Table α β := t.filter fun e => e.1 ≠ k

theorem get?_put_self (k : α) (v : β) (t : Table α β) : get? k (put k v t) = some v := by
  induction t with
  | nil => simp [put, get?]
  | cons e rest ih => by_cases h : e.1 = k <;> simp [put, get?, h, ih]

theorem get?_put_of_ne {k n : α} (h : n ≠ k) (v : β) (t : Table α β) :
    get? k (put n v t) = get? k t := by
  induction t with
  | nil => simp [put, get?, h]
  | cons e rest ih =>
    by_cases hn : e.1 = n
    · simp [put, get?, hn, h]
    · simp [put, get?, hn, ih]

theorem put_put (k : α) (v w : β) (t : Table α β) : put k w (put k v t) = put k w t := by
  induction t with
  | nil => simp [put]
  | cons e rest ih => by_cases h : e.1 = k <;> simp [put, h, ih]

theorem mem_put {k : α} {v : β} {t : Table α β} {e : α × β} (member : e ∈ put k v t) :
    e = (k, v) ∨ e ∈ t := by
  induction t with
  | nil => simpa [put] using member
  | cons first rest ih =>
    obtain ⟨n, w⟩ := first
    unfold put at member
    split at member
    · rename_i same
      rcases List.mem_cons.mp member with head | tail
      · exact Or.inl (by rw [head, same])
      · exact Or.inr (List.mem_cons_of_mem _ tail)
    · rcases List.mem_cons.mp member with head | tail
      · exact Or.inr (by simp [head])
      · exact (ih tail).imp id (List.mem_cons_of_mem _)

theorem mem_of_get? {k : α} {v : β} {t : Table α β} (found : get? k t = some v) : (k, v) ∈ t := by
  induction t with
  | nil => simp [get?] at found
  | cons first rest ih =>
    obtain ⟨n, w⟩ := first
    unfold get? at found
    split at found
    · rename_i same
      simp only [Option.some.injEq] at found
      simp [same, found]
    · exact List.mem_cons_of_mem _ (ih found)

theorem not_mem_of_get?_none {k : α} {t : Table α β} (absent : get? k t = none) (v : β) :
    (k, v) ∉ t := by
  induction t with
  | nil => simp
  | cons first rest ih =>
    obtain ⟨n, w⟩ := first
    unfold get? at absent
    split at absent
    · cases absent
    · rename_i other
      simp only [List.mem_cons, Prod.mk.injEq, not_or]
      exact ⟨fun same => other same.1.symm, ih absent⟩

/-- No key stands twice. -/
def Distinct (t : Table α β) : Prop := (t.map Prod.fst).Nodup

theorem put_distinct {t : Table α β} (distinct : t.Distinct) (k : α) (v : β) :
    Distinct (put k v t) := by
  induction t with
  | nil => simp [put, Distinct]
  | cons first rest ih =>
    obtain ⟨n, w⟩ := first
    simp only [Distinct, List.map_cons, List.nodup_cons] at distinct
    obtain ⟨fresh, others⟩ := distinct
    unfold put
    split
    · exact List.nodup_cons.mpr ⟨fresh, others⟩
    · rename_i other
      refine List.nodup_cons.mpr ⟨?_, ih others⟩
      intro again
      obtain ⟨e, member, same⟩ := List.mem_map.mp again
      rcases mem_put member with new | old
      · rw [new] at same
        exact other same.symm
      · exact fresh (List.mem_map.mpr ⟨e, old, same⟩)

omit [DecidableEq α] in
theorem filter_distinct {t : Table α β} (distinct : t.Distinct) (keep : α × β → Bool) :
    Distinct (t.filter keep) :=
  List.Nodup.sublist (List.filter_sublist.map Prod.fst) distinct

theorem get?_filter {t : Table α β} (distinct : t.Distinct) (keep : α × β → Bool) (k : α) :
    get? k (t.filter keep) = (get? k t).filter fun v => keep (k, v) := by
  induction t with
  | nil => rfl
  | cons first rest ih =>
    obtain ⟨n, w⟩ := first
    simp only [Distinct, List.map_cons, List.nodup_cons] at distinct
    obtain ⟨fresh, others⟩ := distinct
    have later := ih others
    by_cases same : n = k
    · rw [same] at fresh
      have absent : get? k rest = none := by
        cases found : get? k rest with
        | none => rfl
        | some v => exact absurd (List.mem_map.mpr ⟨_, mem_of_get? found, rfl⟩) fresh
      rw [absent] at later
      cases kept : keep (k, w) with
      | true => simp [get?, same, kept, Option.filter]
      | false => simpa [get?, same, kept, Option.filter] using later
    · cases kept : keep (n, w) <;> simp [get?, same, kept, later]

end Table
end SessionFleet
