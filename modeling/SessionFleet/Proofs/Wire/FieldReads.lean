import SessionFleet.Proofs.Json.ShapeReads
import SessionFleet.Wire.Packet
/- A frame is read field by field, whatever stands around a field.

   What is read of an object is what each of the four fields yields by itself, and a list yields
   the same with its items for the fields. -/
namespace SessionFleet

namespace Reading

/-- The readings that stand under a name, in the order of the text. -/
def valuesOf (name : String) (members : List (QuotedText × Reading)) : List Reading :=
  (members.filter fun m => m.1.text = .ok name).map (·.2)

theorem valuesOf_same {name : String} {m : QuotedText × Reading} (named : m.1.text = .ok name)
    (rest : List (QuotedText × Reading)) :
    valuesOf name (m :: rest) = m.2 :: valuesOf name rest := by
  simp [valuesOf, named]

theorem valuesOf_other {name : String} {m : QuotedText × Reading} (other : m.1.text ≠ .ok name)
    (rest : List (QuotedText × Reading)) : valuesOf name (m :: rest) = valuesOf name rest := by
  simp [valuesOf, other]

/-- What a place holds when the readings that belong to it are through, each taken at most
    once. -/
inductive Filled {α : Type} (read : Reading → Except Fault α) :
    List Reading → Option α → Option α → Prop where
  | kept (slot : Option α) : Filled read [] slot slot
  | taken {r : Reading} {a : α} (value : read r = .ok a) : Filled read [r] none (some a)

theorem once_iff {α : Type} {name : String} {slot next : Option α} {read : Except Fault α} :
    once name slot read = .ok next ↔ slot = none ∧ ∃ a, read = .ok a ∧ some a = next := by
  cases slot with
  | none => simp [once, map_ok_iff]
  | some a => simp [once]

theorem filled_nil {α : Type} {read : Reading → Except Fault α} {slot last : Option α} :
    Filled read [] slot last ↔ slot = last := by
  constructor
  · rintro ⟨⟩
    rfl
  · rintro rfl
    exact .kept slot

theorem filled_cons {α : Type} {read : Reading → Except Fault α} (name : String) {r : Reading}
    {rs : List Reading} {slot last : Option α} :
    Filled read (r :: rs) slot last ↔
      ∃ next, once name slot (read r) = .ok next ∧ Filled read rs next last := by
  constructor
  · intro filled
    obtain _ | ⟨value⟩ := filled
    exact ⟨_, once_iff.mpr ⟨rfl, _, value, rfl⟩, .kept _⟩
  · rintro ⟨next, first, later⟩
    obtain ⟨rfl, a, value, rfl⟩ := once_iff.mp first
    obtain _ | _ := later
    exact .taken value

theorem filled_some_iff {α : Type} {read : Reading → Except Fault α} {rs : List Reading} {a : α} :
    Filled read rs none (some a) ↔ ∃ r, rs = [r] ∧ read r = .ok a := by
  constructor
  · intro filled
    obtain _ | ⟨value⟩ := filled
    exact ⟨_, rfl, value⟩
  · rintro ⟨r, rfl, value⟩
    exact .taken value

/-- A field that is absent yields nothing. -/
def Yields {α : Type} (read : Reading → Except Fault (Option α)) (rs : List Reading)
    (o : Option α) : Prop := rs = [] ∧ o = none ∨ ∃ r, rs = [r] ∧ read r = .ok o

theorem yields_iff_filled {α : Type} {read : Reading → Except Fault (Option α)}
    {rs : List Reading} {o : Option α} :
    Yields read rs o ↔ ∃ slot, Filled read rs none slot ∧ slot.getD none = o := by
  constructor
  · rintro (⟨rfl, rfl⟩ | ⟨r, rfl, value⟩)
    · exact ⟨none, .kept none, rfl⟩
    · exact ⟨some o, .taken value, rfl⟩
  · rintro ⟨slot, filled, rfl⟩
    obtain _ | ⟨value⟩ := filled
    · exact .inl ⟨rfl, rfl⟩
    · exact .inr ⟨_, rfl, value⟩

theorem optionalAt_iff {α : Type} {read : Reading → Except Fault (Option α)} {items : List Reading}
    {i : Nat} {o : Option α} :
    optionalAt none read items none i = .ok o ↔ Yields read items[i]?.toList o := by
  unfold optionalAt
  cases items[i]? with
  | none => simp [Yields, Fault.raise, bind, Except.bind, eq_comm]
  | some r => simp [Yields]

theorem fieldAt_iff {α : Type} {record : String} {fields : Nat} {read : Reading → Except Fault α}
    {items : List Reading} {i : Nat} {a : α} :
    fieldAt record fields read items none i = .ok a ↔
      ∃ r, items[i]?.toList = [r] ∧ read r = .ok a := by
  unfold fieldAt
  cases items[i]? with
  | none => simp [Fault.raise, bind, Except.bind]
  | some r => simp

theorem skipped_of_skim {σ : Type} {r : Reading} (sound : r.skim = none) (s : σ) :
    skipped s r = .ok s := by
  simp only [skipped, sound]

end Reading

namespace Packet

open Reading (valuesOf Filled Yields once filled_cons filled_nil filled_some_iff yields_iff_filled
  valuesOf_same skipped_of_skim)

/-- What the readings of the four fields yield. -/
structure Taken (ops ds ss ts : List Reading) (p : Packet) : Prop where
  op : ∃ r, ops = [r] ∧ readOpcode r = .ok p.op
  d : Yields readPayload ds p.d
  s : Yields readSequence ss p.s
  t : Yields readName ts p.t

/-- The four places before and after the members of an object. -/
@[mk_iff]
structure Gathers (members : List (QuotedText × Reading)) (slots last : Slots) : Prop where
  op : Filled readOpcode (valuesOf "op" members) slots.op last.op
  d : Filled readPayload (valuesOf "d" members) slots.d last.d
  s : Filled readSequence (valuesOf "s" members) slots.s last.s
  t : Filled readName (valuesOf "t" members) slots.t last.t

theorem gathers_nil {slots last : Slots} : Gathers [] slots last ↔ slots = last := by
  constructor
  · rintro ⟨op, d, s, t⟩
    cases slots
    cases last
    simp only [Slots.mk.injEq]
    exact ⟨filled_nil.mp op, filled_nil.mp d, filled_nil.mp s, filled_nil.mp t⟩
  · rintro rfl
    exact ⟨.kept _, .kept _, .kept _, .kept _⟩

/-- One member goes to the place of its name, or nowhere. -/
theorem gathers_cons {m : QuotedText × Reading} {name : String} (named : m.1.text = .ok name)
    (sound : m.2.skim = none) {rest : List (QuotedText × Reading)} {slots last : Slots} :
    Gathers (m :: rest) slots last ↔
      ∃ next, slots.put name m.2 = .ok next ∧ Gathers rest next last := by
  have other : ∀ field, name ≠ field → valuesOf field (m :: rest) = valuesOf field rest := by
    intro field different
    refine Reading.valuesOf_other ?_ rest
    rw [named]
    exact fun same => different (Except.ok.inj same)
  by_cases op : name = "op"
  · subst op
    have put : ∀ next, slots.put "op" m.2 = .ok next ↔
        ∃ o, once "op" slots.op (readOpcode m.2) = .ok o ∧ { slots with op := o } = next := by
      simp [Slots.put, bind_ok_iff, pure, Except.pure]
    simp only [gathers_iff, put, valuesOf_same named, filled_cons "op", other "d" (by decide),
      other "s" (by decide), other "t" (by decide)]
    constructor
    · rintro ⟨⟨o, first, op⟩, d, s, t⟩
      exact ⟨_, ⟨o, first, rfl⟩, op, d, s, t⟩
    · rintro ⟨_, ⟨o, first, rfl⟩, op, d, s, t⟩
      exact ⟨⟨o, first, op⟩, d, s, t⟩
  by_cases d : name = "d"
  · subst d
    have put : ∀ next, slots.put "d" m.2 = .ok next ↔
        ∃ o, once "d" slots.d (readPayload m.2) = .ok o ∧ { slots with d := o } = next := by
      simp [Slots.put, bind_ok_iff, pure, Except.pure]
    simp only [gathers_iff, put, valuesOf_same named, filled_cons "d", other "op" (by decide),
      other "s" (by decide), other "t" (by decide)]
    constructor
    · rintro ⟨op, ⟨o, first, d⟩, s, t⟩
      exact ⟨_, ⟨o, first, rfl⟩, op, d, s, t⟩
    · rintro ⟨_, ⟨o, first, rfl⟩, op, d, s, t⟩
      exact ⟨op, ⟨o, first, d⟩, s, t⟩
  by_cases s : name = "s"
  · subst s
    have put : ∀ next, slots.put "s" m.2 = .ok next ↔
        ∃ o, once "s" slots.s (readSequence m.2) = .ok o ∧ { slots with s := o } = next := by
      simp [Slots.put, bind_ok_iff, pure, Except.pure]
    simp only [gathers_iff, put, valuesOf_same named, filled_cons "s", other "op" (by decide),
      other "d" (by decide), other "t" (by decide)]
    constructor
    · rintro ⟨op, d, ⟨o, first, s⟩, t⟩
      exact ⟨_, ⟨o, first, rfl⟩, op, d, s, t⟩
    · rintro ⟨_, ⟨o, first, rfl⟩, op, d, s, t⟩
      exact ⟨op, d, ⟨o, first, s⟩, t⟩
  by_cases t : name = "t"
  · subst t
    have put : ∀ next, slots.put "t" m.2 = .ok next ↔
        ∃ o, once "t" slots.t (readName m.2) = .ok o ∧ { slots with t := o } = next := by
      simp [Slots.put, bind_ok_iff, pure, Except.pure]
    simp only [gathers_iff, put, valuesOf_same named, filled_cons "t", other "op" (by decide),
      other "d" (by decide), other "s" (by decide)]
    constructor
    · rintro ⟨op, d, s, ⟨o, first, t⟩⟩
      exact ⟨_, ⟨o, first, rfl⟩, op, d, s, t⟩
    · rintro ⟨_, ⟨o, first, rfl⟩, op, d, s, t⟩
      exact ⟨op, d, s, ⟨o, first, t⟩⟩
  have put : slots.put name m.2 = .ok slots := by
    simp [Slots.put, op, d, s, t, skipped_of_skim sound]
  simp [gathers_iff, put, other "op" op, other "d" d, other "s" s, other "t" t]

theorem fold_iff {members : List (QuotedText × Reading)} (sound : ∀ m ∈ members, m.2.skim = none)
    {slots last : Slots} : Reading.foldMembers Slots.put slots members = .ok last ↔
      (∀ m ∈ members, ∃ name, m.1.text = .ok name) ∧ Gathers members slots last := by
  induction members generalizing slots with
  | nil => simp [Reading.foldMembers, gathers_nil]
  | cons m rest ih =>
    obtain ⟨here, later⟩ := List.forall_mem_cons.mp sound
    simp only [Reading.foldMembers, bind_ok_iff, Fault.ofText_iff, ih later, List.forall_mem_cons]
    constructor
    · rintro ⟨name, named, next, stored, names, gathers⟩
      exact ⟨⟨⟨name, named⟩, names⟩, (gathers_cons named here).mpr ⟨next, stored, gathers⟩⟩
    · rintro ⟨⟨⟨name, named⟩, names⟩, gathers⟩
      obtain ⟨next, stored, gathers⟩ := (gathers_cons named here).mp gathers
      exact ⟨name, named, next, stored, names, gathers⟩

theorem packet_iff {slots : Slots} {p : Packet} : slots.packet = .ok p ↔ slots.op = some p.op ∧
    slots.d.getD none = p.d ∧ slots.s.getD none = p.s ∧ slots.t.getD none = p.t := by
  obtain ⟨op, d, s, t⟩ := slots
  obtain ⟨op', d', s', t'⟩ := p
  cases op <;> simp [Slots.packet]

theorem endOfFields_iff {items : List Reading} {u : Unit} :
    Reading.endOfFields (items.drop 4) none = .ok u ↔ items.length ≤ 4 := by
  simp [Reading.endOfFields, Fault.raise]

/-- An object is read as what its four fields yield, in whatever order they stand. -/
theorem read_object_iff {members : List (QuotedText × Reading)}
    (sound : ∀ m ∈ members, m.2.skim = none) {p : Packet} :
    read (.object members none) = .ok p ↔
      (∀ m ∈ members, ∃ name, m.1.text = .ok name) ∧
        Taken (valuesOf "op" members) (valuesOf "d" members) (valuesOf "s" members)
          (valuesOf "t" members) p := by
  simp only [read, bind_ok_iff, fold_iff sound]
  constructor
  · rintro ⟨last, ⟨names, gathers⟩, _, _, built⟩
    obtain ⟨op, d, s, t⟩ := packet_iff.mp built
    exact ⟨names, filled_some_iff.mp (op ▸ gathers.op), yields_iff_filled.mpr ⟨_, gathers.d, d⟩,
      yields_iff_filled.mpr ⟨_, gathers.s, s⟩, yields_iff_filled.mpr ⟨_, gathers.t, t⟩⟩
  · rintro ⟨names, op, d, s, t⟩
    obtain ⟨dPlace, dFilled, d⟩ := yields_iff_filled.mp d
    obtain ⟨sPlace, sFilled, s⟩ := yields_iff_filled.mp s
    obtain ⟨tPlace, tFilled, t⟩ := yields_iff_filled.mp t
    exact ⟨⟨some p.op, dPlace, sPlace, tPlace⟩,
      ⟨names, filled_some_iff.mpr op, dFilled, sFilled, tFilled⟩, (), rfl,
      packet_iff.mpr ⟨rfl, d, s, t⟩⟩

/-- A list is read as its items, each for the field of its place. -/
theorem read_list_iff {items : List Reading} {p : Packet} :
    read (.list items none) = .ok p ↔ items.length ≤ 4 ∧
      Taken items[0]?.toList items[1]?.toList items[2]?.toList items[3]?.toList p := by
  simp only [read, bind_ok_iff, Reading.fieldAt_iff, Reading.optionalAt_iff]
  constructor
  · rintro ⟨op, opRead, d, dRead, s, sRead, t, tRead, _, ended, ⟨⟩⟩
    exact ⟨endOfFields_iff.mp ended, opRead, dRead, sRead, tRead⟩
  · rintro ⟨short, op, d, s, t⟩
    exact ⟨p.op, op, p.d, d, p.s, s, p.t, t, (), endOfFields_iff.mpr short, rfl⟩

/-- The fields in the order in which a list gives them. -/
def fields : List String := ["op", "d", "s", "t"]

/-- The members are the items, each under the name of its place, in any order. -/
def Spreads (items : List Reading) (members : List (QuotedText × Reading)) : Prop :=
  (members.map fun m => (m.1.text, m.2)).Perm ((fields.map .ok).zip items)

theorem Spreads.values {items : List Reading} {members : List (QuotedText × Reading)}
    (spreads : Spreads items members) (name : String) :
    (valuesOf name members).Perm
      ((((fields.map .ok).zip items).filter fun f => f.1 = (.ok name : Except TextFault String)).map
        (·.2)) := by
  have moved :=
    (spreads.filter fun f => decide (f.1 = (.ok name : Except TextFault String))).map (·.2)
  simpa [valuesOf, List.filter_map, Function.comp_def] using moved

theorem Spreads.places {items : List Reading} {members : List (QuotedText × Reading)}
    (spreads : Spreads items members) (short : items.length ≤ 4) :
    valuesOf "op" members = items[0]?.toList ∧ valuesOf "d" members = items[1]?.toList ∧
      valuesOf "s" members = items[2]?.toList ∧ valuesOf "t" members = items[3]?.toList := by
  have op := spreads.values "op"
  have d := spreads.values "d"
  have s := spreads.values "s"
  have t := spreads.values "t"
  match items, short with
  | [], _ | [_], _ | [_, _], _ | [_, _, _], _ | [_, _, _, _], _ =>
    exact ⟨by simpa [fields] using op, by simpa [fields] using d, by simpa [fields] using s,
      by simpa [fields] using t⟩

theorem Spreads.named {items : List Reading} {members : List (QuotedText × Reading)}
    (spreads : Spreads items members) : ∀ m ∈ members, ∃ name, m.1.text = .ok name := by
  intro m member
  have moved := spreads.subset (List.mem_map_of_mem member)
  obtain ⟨name, _, same⟩ := List.mem_map.mp (List.of_mem_zip moved).1
  exact ⟨name, same.symm⟩

theorem read_list_eq {items : List Reading} {members : List (QuotedText × Reading)}
    (spreads : Spreads items members) (short : items.length ≤ 4)
    (sound : ∀ m ∈ members, m.2.skim = none) (p : Packet) :
    read (.list items none) = .ok p ↔ read (.object members none) = .ok p := by
  obtain ⟨op, d, s, t⟩ := spreads.places short
  rw [read_list_iff, read_object_iff sound, op, d, s, t]
  exact ⟨fun list => ⟨spreads.named, list.2⟩, fun object => ⟨short, object.2⟩⟩

end Packet
end SessionFleet
