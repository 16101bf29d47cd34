import SessionFleet.Proofs.Json.Denotes
import SessionFleet.Proofs.Json.GrammarReads
import SessionFleet.Proofs.Wire.FieldReads
/- Which texts are frames, and what a frame holds.

   A frame is told by the values of its four fields: blanks, the order of the fields, fields of
   other names and the choice between an object and a list change nothing. -/
namespace SessionFleet

namespace Packet

open Reading (valuesOf Yields)

/-- The value of a field that stands once; a field that is absent is `null`. -/
def FieldIs (members : List (QuotedText × Reading)) (name : String) (v : Json) : Prop :=
  valuesOf name members = [] ∧ v = .null ∨ ∃ r, valuesOf name members = [r] ∧ r.Denotes v

/-- What is taken from a text can be taken: names and texts hold no half of a pair, and the
    payload fits the reader's limit of brackets, of which the frame's own is one. -/
structure Retained (members : List (QuotedText × Reading)) : Prop where
  names : ∀ m ∈ members, ∃ name, m.1.text = .ok name
  payload : ∀ r ∈ valuesOf "d" members, r.Fits (nestingLimit - 1)
  event : ∀ q, .quoted q ∈ valuesOf "t" members → ∃ t, q.text = .ok t

/-- The fields of a frame, by how they are written. -/
structure Acceptable (members : List (QuotedText × Reading)) : Prop where
  once : ∀ name ∈ fields, (valuesOf name members).length ≤ 1
  op : ∃ r ∈ valuesOf "op" members, ∃ n ∈ [0, 1, 2, 3, 4, 6, 7, 8, 9, 10, 11], r.IsPlain n
  s : ∀ r ∈ valuesOf "s" members, r = .null ∨ ∃ n < 2 ^ 64, r.IsPlain n
  t : ∀ r ∈ valuesOf "t" members, r = .null ∨ ∃ q, r = .quoted q

/-- The fields have the values that the frame holds.  A payload is never kept as `null`. -/
@[mk_iff]
structure Carries (members : List (QuotedText × Reading)) (p : Packet) : Prop where
  op : FieldIs members "op" (.ofNat p.op.code)
  d : FieldIs members "d" p.payload
  present : p.d ≠ some .null
  s : FieldIs members "s" (.ofOption .ofNat p.s)
  t : FieldIs members "t" (.ofOption .text p.t)

section Readers

variable {members : List (QuotedText × Reading)} {name : String}

theorem FieldIs.once {v : Json} (field : FieldIs members name v) :
    (valuesOf name members).length ≤ 1 := by
  obtain ⟨absent, _⟩ | ⟨r, alone, _⟩ := field
  · simp [absent]
  · simp [alone]

theorem FieldIs.denotes {v : Json} (field : FieldIs members name v) :
    ∀ r ∈ valuesOf name members, r.Denotes v := by
  intro r member
  obtain ⟨absent, _⟩ | ⟨other, alone, denotes⟩ := field
  · simp [absent] at member
  · rw [alone, List.mem_singleton] at member
    rwa [member]

/-- A field that yields a value of its own kind has that value. -/
theorem field_iff {α : Type} {read : Reading → Except Fault (Option α)} {value : α → Json}
    (means : ∀ r o, read r = .ok o ↔ r.Denotes (.ofOption value o)) (present : ∀ a, value a ≠ .null)
    {o : Option α} :
    Yields read (valuesOf name members) o ↔ FieldIs members name (.ofOption value o) := by
  have absent : o = none ↔ Json.ofOption value o = .null := by
    cases o with
    | none => simp [Json.ofOption]
    | some a => simp [Json.ofOption, present]
  simp only [Yields, FieldIs, means, absent]

theorem code_lt (op : Opcode) : op.code < 2 ^ 8 := by
  cases op <;> decide

theorem readOpcode_iff {r : Reading} {op : Opcode} :
    readOpcode r = .ok op ↔ r.Denotes (.ofNat op.code) := by
  constructor
  · intro read
    obtain ⟨n, whole, known⟩ := ok_of_bind read
    split at known
    · rename_i other found
      obtain rfl : other = op := Except.ok.inj known
      rw [Opcode.code_of_ofCode? found]
      exact (Reading.asWhole_iff.mp whole).1
    · cases known
  · intro denotes
    rw [readOpcode, Reading.asWhole_iff.mpr ⟨denotes, code_lt op⟩]
    simp only [bind, Except.bind, Opcode.ofCode?_code]

theorem denotes_ofNat_lt {r : Reading} {n : Nat} (denotes : r.Denotes (.ofNat n)) : n < 2 ^ 64 :=
  (Reading.denotes_ofNat_iff.mp denotes).2

theorem readSequence_iff {r : Reading} {s : Option Nat} :
    readSequence r = .ok s ↔ r.Denotes (.ofOption .ofNat s) := by
  refine Reading.asOptional_iff (fun n => ?_) (fun n => by simp [Json.ofNat])
  rw [Reading.asWhole_iff]
  exact and_iff_left_of_imp denotes_ofNat_lt

theorem readName_iff {r : Reading} {t : Option String} :
    readName r = .ok t ↔ r.Denotes (.ofOption .text t) :=
  Reading.asOptional_iff (fun _ => Reading.asText_iff) (fun t => by simp)

theorem readPayload_iff {r : Reading} {d : Option Json} :
    readPayload r = .ok d ↔
      r.Denotes (d.getD .null) ∧ d ≠ some .null ∧ r.Fits (nestingLimit - 1) := by
  by_cases null : r = .null
  · subst null
    constructor
    · rintro ⟨⟩
      exact ⟨Reading.denotes_null_iff.mpr rfl, by simp, .null⟩
    · rintro ⟨denotes, present, _⟩
      have nothing : d.getD .null = .null :=
        denotes.unique (Reading.denotes_null_iff.mpr rfl)
      cases d with
      | none => rfl
      | some v => exact absurd (congrArg some nothing) present
  · rw [readPayload, Reading.asOptional_of_notNull null, map_ok_iff]
    simp only [Fault.ofText_iff, Reading.keep_iff]
    constructor
    · rintro ⟨v, ⟨denotes, fits⟩, rfl⟩
      refine ⟨denotes, ?_, fits⟩
      intro same
      rw [Option.some.inj same] at denotes
      exact null (Reading.denotes_null_iff.mp denotes)
    · rintro ⟨denotes, _, fits⟩
      cases d with
      | none => exact absurd (Reading.denotes_null_iff.mp denotes) null
      | some v => exact ⟨v, ⟨denotes, fits⟩, rfl⟩

theorem sequence_iff {s : Option Nat} : Yields readSequence (valuesOf name members) s ↔
    FieldIs members name (.ofOption .ofNat s) :=
  field_iff (fun _ _ => readSequence_iff) fun n => by simp [Json.ofNat]

theorem event_iff {t : Option String} : Yields readName (valuesOf name members) t ↔
    FieldIs members name (.ofOption .text t) :=
  field_iff (fun _ _ => readName_iff) fun t => by simp

theorem payload_iff {d : Option Json} :
    Yields readPayload (valuesOf "d" members) d ↔ FieldIs members "d" (d.getD .null) ∧
      d ≠ some .null ∧ ∀ r ∈ valuesOf "d" members, r.Fits (nestingLimit - 1) := by
  constructor
  · rintro (⟨absent, rfl⟩ | ⟨r, alone, read⟩)
    · exact ⟨.inl ⟨absent, rfl⟩, by simp, by simp [absent]⟩
    · obtain ⟨denotes, present, fits⟩ := readPayload_iff.mp read
      exact ⟨.inr ⟨r, alone, denotes⟩, present, by simpa [alone] using fits⟩
  · rintro ⟨⟨absent, nothing⟩ | ⟨r, alone, denotes⟩, present, fits⟩
    · refine .inl ⟨absent, ?_⟩
      cases d with
      | none => rfl
      | some v => exact absurd (congrArg some nothing) present
    · have here : r.Fits (nestingLimit - 1) := by simpa [alone] using fits
      exact .inr ⟨r, alone, readPayload_iff.mpr ⟨denotes, present, here⟩⟩

theorem operation_iff {op : Opcode} :
    (∃ r, valuesOf "op" members = [r] ∧ readOpcode r = .ok op) ↔
      FieldIs members "op" (.ofNat op.code) := by
  simp only [readOpcode_iff, FieldIs]
  constructor
  · exact .inr
  · rintro (⟨_, ⟨⟩⟩ | there)
    exact there

/-- An object is the frame whose fields have the object's values. -/
theorem read_object_iff_carries {members : List (QuotedText × Reading)}
    (sound : ∀ m ∈ members, m.2.skim = none) {p : Packet} :
    read (.object members none) = .ok p ↔ Retained members ∧ Carries members p := by
  rw [read_object_iff sound]
  constructor
  · rintro ⟨names, op, d, s, t⟩
    obtain ⟨payload, present, fits⟩ := payload_iff.mp d
    have event := event_iff.mp t
    refine ⟨⟨names, fits, fun q member => ?_⟩, operation_iff.mp op, payload, present,
      sequence_iff.mp s, event⟩
    exact Reading.paired_of_denotes (event.denotes _ member)
  · rintro ⟨retained, carries⟩
    exact ⟨retained.names, operation_iff.mpr carries.op,
      payload_iff.mpr ⟨carries.d, carries.present, retained.payload⟩,
      sequence_iff.mpr carries.s, event_iff.mpr carries.t⟩

theorem code_mem_iff {n : Nat} :
    n ∈ [0, 1, 2, 3, 4, 6, 7, 8, 9, 10, 11] ↔ ∃ op : Opcode, op.code = n := by
  constructor
  · intro member
    have known : ∀ n ∈ [0, 1, 2, 3, 4, 6, 7, 8, 9, 10, 11], ∃ op ∈ Opcode.all, op.code = n := by
      decide
    obtain ⟨op, _, same⟩ := known n member
    exact ⟨op, same⟩
  · rintro ⟨op, rfl⟩
    cases op <;> decide

theorem acceptable_of_carries {p : Packet} (carries : Carries members p) : Acceptable members where
  once := by
    intro name member
    simp only [fields, List.mem_cons, List.not_mem_nil, or_false] at member
    rcases member with same | same | same | same <;> subst same
    · exact carries.op.once
    · exact carries.d.once
    · exact carries.s.once
    · exact carries.t.once
  op := by
    obtain ⟨_, ⟨⟩⟩ | ⟨r, alone, denotes⟩ := carries.op
    obtain ⟨plain, _⟩ := Reading.denotes_ofNat_iff.mp denotes
    exact ⟨r, by simp [alone], p.op.code, code_mem_iff.mpr ⟨p.op, rfl⟩, plain⟩
  s := by
    intro r member
    have denotes := carries.s.denotes r member
    cases present : p.s with
    | none =>
      rw [present] at denotes
      exact .inl (Reading.denotes_null_iff.mp denotes)
    | some n =>
      rw [present] at denotes
      obtain ⟨plain, small⟩ := Reading.denotes_ofNat_iff.mp denotes
      exact .inr ⟨n, small, plain⟩
  t := by
    intro r member
    have denotes := carries.t.denotes r member
    cases present : p.t with
    | none =>
      rw [present] at denotes
      exact .inl (Reading.denotes_null_iff.mp denotes)
    | some t =>
      rw [present] at denotes
      obtain ⟨q, same, _⟩ := Reading.quoted_of_found denotes.found
      exact .inr ⟨q, same⟩

/-- A field that stands at most once has a value if whatever stands there has one. -/
theorem field_of_once {P : Json → Prop} (once : (valuesOf name members).length ≤ 1)
    (absent : P .null) (each : ∀ r ∈ valuesOf name members, ∃ v, r.Denotes v ∧ P v) :
    ∃ v, FieldIs members name v ∧ P v := by
  match held : valuesOf name members, once with
  | [], _ => exact ⟨.null, .inl ⟨held, rfl⟩, absent⟩
  | [r], _ =>
    obtain ⟨v, denotes, holds⟩ := each r (by simp [held])
    exact ⟨v, .inr ⟨r, held, denotes⟩, holds⟩

theorem carries_of_acceptable (retained : Retained members) (acceptable : Acceptable members) :
    ∃ p, Carries members p := by
  obtain ⟨opOnce, dOnce, sOnce, tOnce⟩ : (valuesOf "op" members).length ≤ 1 ∧
      (valuesOf "d" members).length ≤ 1 ∧ (valuesOf "s" members).length ≤ 1 ∧
      (valuesOf "t" members).length ≤ 1 := by
    simpa [fields] using acceptable.once
  obtain ⟨r, there, n, known, plain⟩ := acceptable.op
  obtain ⟨op, rfl⟩ := code_mem_iff.mp known
  have operation : FieldIs members "op" (.ofNat op.code) := by
    obtain ⟨other, alone⟩ := List.length_eq_one_iff.mp
      (Nat.le_antisymm opOnce (List.length_pos_of_mem there))
    obtain rfl : r = other := by simpa [alone] using there
    have small : op.code < 2 ^ 64 := (code_lt op).trans (by decide)
    exact .inr ⟨r, alone, Reading.denotes_ofNat_iff.mpr ⟨plain, small⟩⟩
  have payload : ∃ d, FieldIs members "d" d ∧ ∃ kept : Option Json, kept.getD .null = d ∧
      kept ≠ some .null := by
    refine field_of_once dOnce ⟨none, rfl, by simp⟩ fun r member => ?_
    obtain ⟨d, kept⟩ := Reading.keep_of_fits (retained.payload r member)
    by_cases null : d = .null
    · exact ⟨d, ⟨_, kept⟩, none, null.symm, by simp⟩
    · exact ⟨d, ⟨_, kept⟩, some d, rfl, by simpa using null⟩
  have sequence : ∃ v, FieldIs members "s" v ∧ ∃ s, Json.ofOption .ofNat s = v := by
    refine field_of_once sOnce ⟨none, rfl⟩ fun r member => ?_
    rcases acceptable.s r member with rfl | ⟨n, small, plain⟩
    · exact ⟨.null, Reading.denotes_null_iff.mpr rfl, none, rfl⟩
    · exact ⟨.ofNat n, Reading.denotes_ofNat_iff.mpr ⟨plain, small⟩, some n, rfl⟩
  have event : ∃ v, FieldIs members "t" v ∧ ∃ t, Json.ofOption .text t = v := by
    refine field_of_once tOnce ⟨none, rfl⟩ fun r member => ?_
    rcases acceptable.t r member with rfl | ⟨q, rfl⟩
    · exact ⟨.null, Reading.denotes_null_iff.mpr rfl, none, rfl⟩
    · obtain ⟨t, paired⟩ := retained.event q member
      exact ⟨.text t, Reading.denotes_text paired, some t, rfl⟩
  obtain ⟨_, dIs, d, rfl, present⟩ := payload
  obtain ⟨_, sIs, s, rfl⟩ := sequence
  obtain ⟨_, tIs, t, rfl⟩ := event
  exact ⟨⟨op, d, s, t⟩, operation, dIs, present, sIs, tIs⟩

end Readers

theorem ofText_iff {r : Reading} {text : String} (document : Grammar.Document r text)
    {p : Packet} : ofText text = .ok p ↔ read r = .ok p := by
  rw [ofText, Document.decode, Document.ofText_of_text document, bind_ok_iff]
  simp

theorem sound_of_document {members : List (QuotedText × Reading)} {text : String}
    (document : Grammar.Document (.object members none) text) :
    ∀ m ∈ members, m.2.skim = none := by
  obtain ⟨_, value, _, _⟩ := document
  have sound := Reading.value_skim value
  rw [Reading.skim, Option.or_none] at sound
  exact Reading.skim_of_members sound

theorem object_iff {members : List (QuotedText × Reading)} {text : String}
    (document : Grammar.Document (.object members none) text) {p : Packet} :
    ofText text = .ok p ↔ Retained members ∧ Carries members p := by
  rw [ofText_iff document, read_object_iff_carries (sound_of_document document)]

theorem carries_congr {ms ms' : List (QuotedText × Reading)} {p : Packet}
    (same : ∀ name ∈ fields, ∀ v, FieldIs ms name v ↔ FieldIs ms' name v) :
    Carries ms p ↔ Carries ms' p := by
  have op := same "op" (by decide)
  have d := same "d" (by decide)
  have s := same "s" (by decide)
  have t := same "t" (by decide)
  simp only [carries_iff, op, d, s, t]

/-- An object is a frame if and only if its four fields are those of one, and which frame it is
    depends on nothing but their values.  A list of up to four items is the frame of the object that
    has these items for its fields. -/
theorem frame_told_by_its_fields :
    (∀ members text, Grammar.Document (.object members none) text →
      ((∃ p, ofText text = .ok p) ↔ Retained members ∧ Acceptable members) ∧
        ∀ p, ofText text = .ok p → Carries members p) ∧
    (∀ members text members' text', Grammar.Document (.object members none) text →
      Grammar.Document (.object members' none) text' → Retained members → Retained members' →
        (∀ name ∈ fields, ∀ v, FieldIs members name v ↔ FieldIs members' name v) →
          ∀ p, ofText text = .ok p ↔ ofText text' = .ok p) ∧
    (∀ items text, Grammar.Document (.list items none) text →
      (4 < items.length → ∀ p, ofText text ≠ .ok p) ∧
      ∀ members text', Grammar.Document (.object members none) text' → items.length ≤ 4 →
        Spreads items members → ∀ p, ofText text = .ok p ↔ ofText text' = .ok p) := by
  refine ⟨?_, ?_, ?_⟩
  · intro members text document
    refine ⟨?_, fun p read => ((object_iff document).mp read).2⟩
    constructor
    · rintro ⟨p, read⟩
      obtain ⟨retained, carries⟩ := (object_iff document).mp read
      exact ⟨retained, acceptable_of_carries carries⟩
    · rintro ⟨retained, acceptable⟩
      obtain ⟨p, carries⟩ := carries_of_acceptable retained acceptable
      exact ⟨p, (object_iff document).mpr ⟨retained, carries⟩⟩
  · intro members text members' text' document document' retained retained' same p
    rw [object_iff document, object_iff document', carries_congr same]
    exact ⟨fun read => ⟨retained', read.2⟩, fun read => ⟨retained, read.2⟩⟩
  · intro items text document
    constructor
    · intro long p read
      have short := (read_list_iff.mp ((ofText_iff document).mp read)).1
      omega
    · intro members text' document' short spreads p
      rw [ofText_iff document, ofText_iff document']
      exact read_list_eq spreads short (sound_of_document document') p

/-- A heartbeat with nothing but its operation. -/
def bareHeartbeat : List (QuotedText × Reading) :=
  [(⟨[.plain 'o', .plain 'p'], none⟩, .numeral ⟨false, ['1'], [], none⟩)]

/-- The same behind a field of another name, with an escape in the name of its own. -/
def spacedHeartbeat : List (QuotedText × Reading) :=
  [(⟨[.plain 'x'], none⟩, .list [] none),
    (⟨[.unit 0x6f, .plain 'p'], none⟩, .numeral ⟨false, ['1'], [], none⟩)]

theorem digit_text : Grammar.Value (.numeral ⟨false, ['1'], [], none⟩) ['1'] :=
  .positive (.mk (.more rfl (by decide) (by simp [Grammar.Digits])) .none .none)

theorem letter_text : ∀ c ∈ ['x', 'o', 'p'], Grammar.Piece (.plain c) [c] := by
  intro c member
  simp only [List.mem_cons, List.not_mem_nil, or_false] at member
  rcases member with same | same | same <;> subst same <;>
    exact .plain (by decide) (by decide) (by decide)

theorem bareHeartbeat_text : Grammar.Document (.object bareHeartbeat none) "\x7b\"op\":1\x7d" := by
  have nothing : Grammar.Blanks [] := by decide
  have name := Grammar.Quoted.mk (.cons (letter_text 'o' (by decide))
    (.cons (letter_text 'p' (by decide)) .nil))
  have op := Grammar.Member.mk nothing name nothing nothing digit_text nothing
  exact .mk nothing (.object (.last op)) nothing (by decide)

theorem spacedHeartbeat_text :
    Grammar.Document (.object spacedHeartbeat none) "\x7b \"x\" : [ ] ,\"\\u006fp\":1\x7d" := by
  have nothing : Grammar.Blanks [] := by decide
  have blank : Grammar.Blanks [' '] := by decide
  have unit : Grammar.Piece (.unit 0x6f) ['\\', 'u', '0', '0', '6', 'f'] := .unit rfl
  have other := Grammar.Quoted.mk (.cons (letter_text 'x' (by decide)) .nil)
  have name := Grammar.Quoted.mk (.cons unit (.cons (letter_text 'p' (by decide)) .nil))
  have x := Grammar.Member.mk blank other blank blank (.emptyList blank) blank
  have op := Grammar.Member.mk nothing name nothing nothing digit_text nothing
  exact .mk nothing (.object (.more x (.last op))) nothing (by decide)

theorem heartbeat_values : ∀ ms ∈ [bareHeartbeat, spacedHeartbeat],
    valuesOf "op" ms = [.numeral ⟨false, ['1'], [], none⟩] ∧ valuesOf "d" ms = [] ∧
      valuesOf "s" ms = [] ∧ valuesOf "t" ms = [] := by
  intro ms member
  simp only [List.mem_cons, List.not_mem_nil, or_false] at member
  rcases member with same | same <;> subst same <;> exact ⟨rfl, rfl, rfl, rfl⟩

theorem heartbeat_retained : ∀ ms ∈ [bareHeartbeat, spacedHeartbeat], Retained ms := by
  intro ms member
  obtain ⟨_, d, _, t⟩ := heartbeat_values ms member
  refine ⟨?_, by simp [d], by simp [t]⟩
  have x : QuotedText.text ⟨[.plain 'x'], none⟩ = .ok "x" := rfl
  have plain : QuotedText.text ⟨[.plain 'o', .plain 'p'], none⟩ = .ok "op" := rfl
  have escaped : QuotedText.text ⟨[.unit 0x6f, .plain 'p'], none⟩ = .ok "op" := rfl
  simp only [List.mem_cons, List.not_mem_nil, or_false] at member
  rcases member with same | same <;> subst same
  · simp [bareHeartbeat, plain]
  · simp [spacedHeartbeat, x, escaped]

theorem spaced_frame_is_listed_frame :
    (∃ p, ofText "\x7b \"x\" : [ ] ,\"\\u006fp\":1\x7d" = .ok p) ∧
      ∀ p, ofText "\x7b \"x\" : [ ] ,\"\\u006fp\":1\x7d" = .ok p ↔ ofText "[1]" = .ok p := by
  obtain ⟨op, d, s, t⟩ := heartbeat_values spacedHeartbeat (by simp)
  obtain ⟨op', d', s', t'⟩ := heartbeat_values bareHeartbeat (by simp)
  have spaced : Retained spacedHeartbeat := heartbeat_retained _ (by simp)
  have bare : Retained bareHeartbeat := heartbeat_retained _ (by simp)
  have same : ∀ name ∈ fields, ∀ v,
      FieldIs spacedHeartbeat name v ↔ FieldIs bareHeartbeat name v := by
    simp [fields, FieldIs, op, d, s, t, op', d', s', t']
  have acceptable : Acceptable spacedHeartbeat := by
    refine ⟨by simp [fields, op, d, s, t], ?_, by simp [s], by simp [t]⟩
    exact ⟨_, by rw [op]; exact List.mem_singleton_self _, 1, by decide, ['1'], rfl, rfl⟩
  have nothing : Grammar.Blanks [] := by decide
  have list : Grammar.Document (.list [.numeral ⟨false, ['1'], [], none⟩] none) "[1]" :=
    .mk nothing (.list (.last nothing digit_text nothing)) nothing (by decide)
  obtain ⟨accepted, told, listed⟩ := frame_told_by_its_fields
  refine ⟨(accepted _ _ spacedHeartbeat_text).1.mpr ⟨spaced, acceptable⟩, fun p => ?_⟩
  calc ofText "\x7b \"x\" : [ ] ,\"\\u006fp\":1\x7d" = .ok p
      ↔ ofText "\x7b\"op\":1\x7d" = .ok p :=
        told _ _ _ _ spacedHeartbeat_text bareHeartbeat_text spaced bare same p
    _ ↔ ofText "[1]" = .ok p :=
        ((listed _ _ list).2 _ _ bareHeartbeat_text (by decide) (.refl _) p).symm

end Packet
end SessionFleet
