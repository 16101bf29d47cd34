import Mathlib.Data.List.DropRight
import SessionFleet.Proofs.Number.WholeReads
import SessionFleet.RateLimit.Headers
/- Each of the seven things that the headers of a response say is said by one header alone: the first
   that stands under its name, in letters of any size. -/
namespace SessionFleet

/-- What the headers of a response tell. -/
inductive LimitField where
  | global
  | limit
  | remaining
  | reset
  | resetAfter
  | bucket
  | serverDate
  deriving DecidableEq, Repr

namespace LimitHeaders

/-- Names differ at most in the size of their letters. -/
def Alike (name other : String) : Prop := name.toLower = other.toLower

theorem toList_toLower (s : String) : s.toLower.toList = s.toList.map Char.toLower :=
  String.toList_map

theorem alike_iff {name other : String} :
    Alike name other ↔ name.toList.map Char.toLower = other.toList.map Char.toLower := by
  simp only [Alike, ← String.toList_inj, toList_toLower]

instance (name other : String) : Decidable (Alike name other) :=
  decidable_of_iff (name.toList.map Char.toLower = other.toList.map Char.toLower) alike_iff.symm

/-- The headers that stand under a name, in their order. -/
def under (name : String) (headers : RawHeaders) : RawHeaders :=
  headers.filter fun h => Alike h.1 name

/-- Any number of spaces and tabs. -/
def Blank (bytes : List UInt8) : Prop := ∀ b ∈ bytes, b = 9 ∨ b = 0x20

/-- The character that a byte stands for. -/
def byteChar (b : UInt8) : Char := Char.ofNat b.toNat

/-- A value that is a whole number, blanks around it left out. -/
def SpellsWhole (value : List UInt8) (n : Nat) : Prop :=
  ∃ before core after, value = before ++ core ++ after ∧ Blank before ∧ Blank after ∧
    WholeText (core.map byteChar) n

end LimitHeaders

namespace LimitField

open LimitHeaders

/-- The name of the header that tells it. -/
def header : LimitField → String
  | .global => "x-ratelimit-global"
  | .limit => "x-ratelimit-limit"
  | .remaining => "x-ratelimit-remaining"
  | .reset => "x-ratelimit-reset"
  | .resetAfter => "x-ratelimit-reset-after"
  | .bucket => "x-ratelimit-bucket"
  | .serverDate => "date"

/-- The value that counts: of several under its name, the first. -/
def first (field : LimitField) (headers : RawHeaders) : Option (List UInt8) :=
  (under field.header headers).head?.map (·.2)

/-- Two responses tell the same of it. -/
def Same (a b : LimitHeaders) : LimitField → Prop
  | .global => a.global = b.global
  | .limit => a.limit = b.limit
  | .remaining => a.remaining = b.remaining
  | .reset => a.reset = b.reset
  | .resetAfter => a.resetAfter = b.resetAfter
  | .bucket => a.bucket = b.bucket
  | .serverDate => a.serverDate = b.serverDate

variable {field : LimitField} {headers others before extra after : RawHeaders}

theorem header_lower (field : LimitField) : field.header.toLower = field.header := by
  cases field <;> decide +kernel

theorem firstValue_header (field : LimitField) (headers : RawHeaders) :
    firstValue headers field.header = field.first headers := by
  simp only [firstValue, first, under, Alike, header_lower, List.head?_filter]

theorem same_of_first (same : field.first headers = field.first others) :
    field.Same (parse headers) (parse others) := by
  rw [← firstValue_header, ← firstValue_header] at same
  cases field <;> simp only [header] at same <;> simp only [Same, parse, text, same]

theorem eq_of_same {a b : LimitHeaders} (same : ∀ field : LimitField, field.Same a b) : a = b := by
  cases a
  cases b
  rw [LimitHeaders.mk.injEq]
  exact ⟨same .global, same .limit, same .remaining, same .reset, same .resetAfter, same .bucket,
    same .serverDate⟩

theorem parse_eq (same : ∀ field : LimitField, field.first headers = field.first others) :
    parse headers = parse others := eq_of_same fun field => same_of_first (same field)

theorem first_append (field : LimitField) (before after : RawHeaders) :
    field.first (before ++ after) = (field.first before).or (field.first after) := by
  simp only [first, under, List.filter_append, List.head?_append, Option.map_or]

theorem first_eq_none : field.first headers = none ↔ ∀ h ∈ headers, ¬ Alike h.1 field.header := by
  simp [first, under]

theorem first_insert (unheeded : field.first before = none → field.first extra = none) :
    field.first (before ++ extra ++ after) = field.first (before ++ after) := by
  rw [first_append, first_append, first_append]
  cases earlier : field.first before with
  | none => rw [unheeded earlier, Option.none_or]
  | some value => rfl

end LimitField

namespace LimitHeaders

section Values

variable {before core after : List Char} {value : List UInt8} {n : Nat}

theorem byteChar_toNat (b : UInt8) : (byteChar b).toNat = b.toNat := by
  have bound := b.toNat_lt
  have valid : b.toNat.isValidChar := Or.inl (by omega)
  rw [byteChar, Char.ofNat, dif_pos valid]
  rfl

theorem isSpace_iff (b : UInt8) : MailDate.isSpace (byteChar b) = true ↔ b = 9 ∨ b = 0x20 := by
  simp only [MailDate.isSpace, Bool.or_eq_true, decide_eq_true_eq, ← Char.toNat_inj, byteChar_toNat,
    ← UInt8.toNat_inj]
  exact or_comm

theorem isTextByte_iff (b : UInt8) :
    isTextByte b = true ↔ b.toNat = 9 ∨ 32 ≤ b.toNat ∧ b.toNat < 127 := by
  simp [isTextByte, UInt8.le_iff_toNat_le, UInt8.lt_iff_toNat_lt, ← UInt8.toNat_inj]

theorem dropWhile_blanks (blank : ∀ c ∈ before, MailDate.isSpace c = true) (any : core ≠ [])
    (shown : ∀ c ∈ core, MailDate.isSpace c = false) :
    (before ++ (core ++ after)).dropWhile MailDate.isSpace = core ++ after := by
  obtain ⟨c, rest, rfl⟩ := List.exists_cons_of_ne_nil any
  have stop : ¬ MailDate.isSpace c = true := by simp [shown c List.mem_cons_self]
  rw [List.dropWhile_append_of_pos blank, List.cons_append, List.dropWhile_cons_of_neg stop]

theorem trim_padded (blankBefore : ∀ c ∈ before, MailDate.isSpace c = true)
    (blankAfter : ∀ c ∈ after, MailDate.isSpace c = true) (any : core ≠ [])
    (shown : ∀ c ∈ core, MailDate.isSpace c = false) : trim (before ++ core ++ after) = core := by
  -- the blanks behind the text are in front of it once it is turned round
  have behind : (after.reverse ++ (core.reverse ++ [])).dropWhile MailDate.isSpace =
      core.reverse ++ [] :=
    dropWhile_blanks (by simpa using blankAfter) (by simpa using any) (by simpa using shown)
  rw [trim, List.append_assoc, dropWhile_blanks blankBefore any shown, List.reverse_append]
  rw [List.append_nil] at behind
  rw [behind, List.reverse_reverse]

theorem trim_splits (cs : List Char) : ∃ before after, cs = before ++ trim cs ++ after ∧
    (∀ c ∈ before, MailDate.isSpace c = true) ∧ ∀ c ∈ after, MailDate.isSpace c = true := by
  refine ⟨cs.takeWhile MailDate.isSpace, (cs.dropWhile MailDate.isSpace).rtakeWhile MailDate.isSpace,
    ?_, fun c => List.mem_takeWhile_imp, fun c => List.mem_rtakeWhile_imp⟩
  change cs = _ ++ (cs.dropWhile MailDate.isSpace).rdropWhile MailDate.isSpace ++ _
  rw [List.append_assoc, List.rdropWhile_append_rtakeWhile, List.takeWhile_append_dropWhile]

theorem blank_iff {bytes : List UInt8} :
    Blank bytes ↔ ∀ c ∈ bytes.map byteChar, MailDate.isSpace c = true := by
  simp only [Blank, List.forall_mem_map, isSpace_iff]

theorem Blank.text {bytes : List UInt8} (blank : Blank bytes) : bytes.all isTextByte = true := by
  refine List.all_eq_true.mpr fun b member => ?_
  obtain rfl | rfl := blank b member <;> rfl

/-- What stands in a whole number is text, and no blank. -/
theorem wholeText_bytes {core : List UInt8} (whole : WholeText (core.map byteChar) n) :
    core.all isTextByte = true ∧ ∀ c ∈ core.map byteChar, MailDate.isSpace c = false := by
  have each : ∀ b ∈ core, isTextByte b = true ∧ MailDate.isSpace (byteChar b) = false := by
    intro b member
    have code : b.toNat = 43 ∨ 48 ≤ b.toNat ∧ b.toNat ≤ 57 := by
      obtain plus | digit := whole.chars.2 _ (List.mem_map_of_mem member)
      · rw [← byteChar_toNat b, plus]
        exact Or.inl rfl
      · have bounds := Char.isDigit_iff_toNat.mp digit
        rw [byteChar_toNat] at bounds
        exact Or.inr bounds
    constructor
    · rw [isTextByte_iff]
      omega
    · rw [Bool.eq_false_iff, ne_eq, isSpace_iff, ← UInt8.toNat_inj, ← UInt8.toNat_inj]
      change ¬ (b.toNat = 9 ∨ b.toNat = 32)
      omega
  exact ⟨List.all_eq_true.mpr fun b member => (each b member).1,
    List.forall_mem_map.mpr fun b member => (each b member).2⟩

theorem spellsWhole_iff :
    SpellsWhole value n ↔ ∃ cs, valueText value = some cs ∧ WholeText cs n := by
  constructor
  · rintro ⟨before, core, after, rfl, blankBefore, blankAfter, whole⟩
    obtain ⟨text, shown⟩ := wholeText_bytes whole
    have all : (before ++ core ++ after).all isTextByte = true := by
      rw [List.all_append, List.all_append, text, blankBefore.text, blankAfter.text]
      rfl
    refine ⟨core.map byteChar, ?_, whole⟩
    change (if (before ++ core ++ after).all isTextByte then
      some (trim ((before ++ core ++ after).map byteChar)) else none) = _
    rw [if_pos all, List.map_append, List.map_append,
      trim_padded (blank_iff.mp blankBefore) (blank_iff.mp blankAfter) whole.chars.1 shown]
  · rintro ⟨cs, read, whole⟩
    obtain ⟨-, trimmed⟩ := Option.ite_none_right_eq_some.mp read
    obtain ⟨front, back, split, blankFront, blankBack⟩ := trim_splits (value.map byteChar)
    rw [show trim (value.map byteChar) = cs from Option.some.inj trimmed] at split
    obtain ⟨initial, after, rfl, initialChars, rfl⟩ := List.map_eq_append_iff.mp split
    obtain ⟨before, core, rfl, rfl, rfl⟩ := List.map_eq_append_iff.mp initialChars
    exact ⟨before, core, after, rfl, blank_iff.mpr blankFront, blank_iff.mpr blankBack, whole⟩

/-- A header whose value is to be a whole number below `2 ^ bits`. -/
theorem whole_iff {bits : Nat} (headers : RawHeaders) (field : LimitField) :
    (text headers field.header).bind (readWhole bits) = some n ↔
      ∃ value, field.first headers = some value ∧ SpellsWhole value n ∧ n < 2 ^ bits := by
  simp only [text, field.firstValue_header, Option.bind_eq_some_iff, readWhole_iff, spellsWhole_iff]
  constructor
  · rintro ⟨cs, ⟨value, found, read⟩, whole, small⟩
    exact ⟨value, found, ⟨cs, read, whole⟩, small⟩
  · rintro ⟨value, found, ⟨cs, read, whole⟩, small⟩
    exact ⟨cs, ⟨value, found, read⟩, whole, small⟩

end Values

/-- The second list is the first with headers added that tell nothing: a header is added that is none
    of those that are read, or one whose name stands before it already. -/
inductive Enlarged : (seen headers others : RawHeaders) → Prop where
  | nil (seen : RawHeaders) : Enlarged seen [] []
  | kept {seen headers others : RawHeaders} (h : String × List UInt8)
      (rest : Enlarged (seen ++ [h]) headers others) : Enlarged seen (h :: headers) (h :: others)
  | unrelated {seen headers others : RawHeaders} {h : String × List UInt8}
      (unrelated : ∀ field : LimitField, ¬ Alike h.1 field.header)
      (rest : Enlarged seen headers others) : Enlarged seen headers (h :: others)
  | repeated {seen headers others : RawHeaders} {g h : String × List UInt8} (earlier : g ∈ seen)
      (alike : Alike g.1 h.1) (rest : Enlarged seen headers others) :
      Enlarged seen headers (h :: others)

section Edits

variable {seen headers others : RawHeaders} {g h : String × List UInt8} {field : LimitField}

theorem unheeded_of_unrelated (unrelated : ¬ Alike h.1 field.header) : field.first [h] = none :=
  LimitField.first_eq_none.mpr (by simpa using unrelated)

theorem unheeded_of_repeated (earlier : g ∈ seen) (alike : Alike g.1 h.1)
    (absent : field.first seen = none) : field.first [h] = none := by
  refine unheeded_of_unrelated fun own => ?_
  exact LimitField.first_eq_none.mp absent g earlier (alike.trans own)

theorem Enlarged.first_eq (enlarged : Enlarged seen headers others) (field : LimitField) :
    field.first (seen ++ others) = field.first (seen ++ headers) := by
  -- on how the headers were added: a kept one moves to those seen, an added one is never the first
  induction enlarged with
  | nil seen => rfl
  | kept h rest ih => simpa only [List.append_assoc, List.singleton_append] using ih
  | @unrelated seen headers others h unrelated rest ih =>
    rw [← ih, List.append_cons]
    exact LimitField.first_insert fun _ => unheeded_of_unrelated (unrelated field)
  | @repeated seen headers others g h earlier alike rest ih =>
    rw [← ih, List.append_cons]
    exact LimitField.first_insert (unheeded_of_repeated earlier alike)

end Edits

/-- What the headers of a response tell, and what makes no difference to it. -/
structure ReadApart (headers : RawHeaders) : Prop where
  own (others : RawHeaders) (field : LimitField) (same : field.first others = field.first headers) :
    field.Same (parse others) (parse headers)
  reordered (others : RawHeaders) (kept : ∀ name, under name others = under name headers) :
    parse others = parse headers
  enlarged (others : RawHeaders) (enlarged : Enlarged [] headers others) :
    parse others = parse headers
  corrupted (before after : RawHeaders) (h g : String × List UInt8) (field : LimitField)
    (parts : headers = before ++ h :: after) (other : ¬ Alike h.1 field.header)
    (still : ¬ Alike g.1 field.header) :
    field.Same (parse (before ++ g :: after)) (parse headers)
  limit (n : Nat) : (parse headers).limit = some n ↔
    ∃ value, LimitField.limit.first headers = some value ∧ SpellsWhole value n ∧ n < 2 ^ 32
  remaining (n : Nat) : (parse headers).remaining = some n ↔
    ∃ value, LimitField.remaining.first headers = some value ∧ SpellsWhole value n ∧ n < 2 ^ 32

theorem complete_iff (h : LimitHeaders) : h.complete = true ↔ h.limit ≠ none ∧ h.remaining ≠ none ∧
    h.reset ≠ none ∧ h.resetAfter ≠ none ∧ h.bucket ≠ none := by
  simp only [complete, Bool.and_eq_true, Option.isSome_iff_ne_none, and_assoc]

/-- Every field is read apart from the others, and whether there is enough for a bucket is a matter of
    five of them. -/
theorem fields_are_read_apart :
    (∀ headers, ReadApart headers) ∧
    ∀ h : LimitHeaders,
      (h.complete = true ↔ h.limit ≠ none ∧ h.remaining ≠ none ∧ h.reset ≠ none ∧
        h.resetAfter ≠ none ∧ h.bucket ≠ none) ∧
      ∀ flag date, { h with global := flag, serverDate := date }.complete = h.complete := by
  refine ⟨fun headers => ?_, fun h => ⟨complete_iff h, fun flag date => rfl⟩⟩
  refine ⟨fun others field same => LimitField.same_of_first same, fun others kept => ?_,
    fun others enlarged => ?_, fun before after h g field parts other still => ?_,
    fun n => whole_iff headers .limit, fun n => whole_iff headers .remaining⟩
  · exact LimitField.parse_eq fun field => by rw [LimitField.first, kept, LimitField.first]
  · exact LimitField.parse_eq fun field => enlarged.first_eq field
  · subst parts
    apply LimitField.same_of_first
    rw [List.append_cons, List.append_cons before h]
    rw [LimitField.first_insert fun _ => unheeded_of_unrelated still,
      LimitField.first_insert fun _ => unheeded_of_unrelated other]

/-- A limit of `007` and a plus sign with blanks around it, and a header that is not read. -/
def mixedHeaders : RawHeaders :=
  [("X-RateLimit-Limit", [0x20, 0x2b, 0x30, 0x30, 0x37, 0x09]), ("Server", [0xff])]

theorem mixed_headers_read_apart :
    (parse mixedHeaders).limit = some 7 ∧
      LimitField.limit.Same
        (parse [("date", []), ("x-ratelimit-LIMIT", [0x20, 0x2b, 0x30, 0x30, 0x37, 0x09])])
        (parse mixedHeaders) ∧
      parse mixedHeaders.reverse = parse mixedHeaders ∧
      parse (("Via", []) :: mixedHeaders ++ [("x-ratelimit-limit", [0x39])]) = parse mixedHeaders ∧
      LimitField.limit.Same
        (parse [("X-RateLimit-Limit", [0x20, 0x2b, 0x30, 0x30, 0x37, 0x09]), ("date", [0x80])])
        (parse mixedHeaders) := by
  have apart := fields_are_read_apart.1 mixedHeaders
  refine ⟨(apart.limit 7).mpr ⟨[0x20, 0x2b, 0x30, 0x30, 0x37, 0x09], by decide +kernel, ?_, by decide⟩,
    apart.own _ .limit (by decide +kernel), apart.reordered _ fun name => ?_, apart.enlarged _ ?_,
    apart.corrupted [_] [] _ _ .limit rfl (by decide +kernel) (by decide +kernel)⟩
  · exact ⟨[0x20], [0x2b, 0x30, 0x30, 0x37], [0x09], rfl, by simp [Blank], by simp [Blank],
      @WholeText.plus [0, 0, 7] (by decide)⟩
  · have other : ¬ Alike "X-RateLimit-Limit" "Server" := by decide +kernel
    by_cases own : Alike "X-RateLimit-Limit" name
    · have absent : ¬ Alike "Server" name := fun server => other (own.trans server.symm)
      simp [mixedHeaders, under, own, absent]
    · simp [mixedHeaders, under, own, List.filter]
  · refine .unrelated (fun field => by cases field <;> decide +kernel) (.kept _ (.kept _ ?_))
    exact .repeated List.mem_cons_self (by decide +kernel) (.nil _)

end LimitHeaders
end SessionFleet
