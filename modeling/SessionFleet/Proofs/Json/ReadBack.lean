import Mathlib.Data.List.Forall2
import Mathlib.Order.Lattice
import SessionFleet.Json.Printer
import SessionFleet.Proofs.Json.Stored
/- A printed value is read back as it was.

   What is read is told by what is kept of it: a reading spells a value if the value is kept from
   it wherever there is room.  A whole number ends where the text goes on with something that no
   number holds, so every statement is about a text with more behind it. -/
namespace SessionFleet

namespace QuotedText

theorem read_close (rest : List Char) : read ('"' :: rest) = (⟨[], none⟩, rest) := by
  rw [read.eq_def]
  rfl

theorem read_simple {e c : Char} (short : e ≠ 'u') (meant : simpleEscape e = some c)
    (rest : List Char) : read ('\\' :: e :: rest) = push (.plain c) (read rest) := by
  rw [read.eq_def]
  simp [short, meant]

theorem read_unit {a b c d : Char} {n : Nat} (value : hexUnit a b c d = some n)
    (rest : List Char) :
    read ('\\' :: 'u' :: a :: b :: c :: d :: rest) = push (.unit n) (read rest) := by
  rw [read.eq_def]
  simp [value]

theorem read_plain {c : Char} (noQuote : c ≠ '"') (noSlash : c ≠ '\\') (shown : ¬ c.toNat < 32)
    (rest : List Char) : read (c :: rest) = push (.plain c) (read rest) := by
  rw [read.eq_def]
  simp [noQuote, noSlash, shown]

theorem decode_plain (fault : Option TextFault) (c : Char) (pieces : List StringPiece) :
    decode fault (.plain c :: pieces) = (decode fault pieces).map (c :: ·) := by
  rw [decode.eq_def]

/-- A unit below the surrogates is a character by itself. -/
theorem decode_unit {c : Char} (low : c.toNat < 32) (fault : Option TextFault)
    (pieces : List StringPiece) :
    decode fault (.unit c.toNat :: pieces) = (decode fault pieces).map (c :: ·) := by
  have noTrail : isTrailing c.toNat = false := by
    simp only [isTrailing, Bool.and_eq_false_iff, decide_eq_false_iff_not]
    omega
  have noLead : isLeading c.toNat = false := by
    simp only [isLeading, Bool.and_eq_false_iff, decide_eq_false_iff_not]
    omega
  rw [decode.eq_def]
  simp [noTrail, noLead, Char.ofNat_toNat]

theorem hexUnit_of_control :
    ∀ n < 32, hexUnit '0' '0' (hexDigit (n / 16)) (hexDigit n) = some n := by
  decide

/-- A character is printed by a short escape, by its number, or as it is. -/
theorem escape_cases (c : Char) :
    (∃ e, Json.escapeChar c = ['\\', e] ∧ e ≠ 'u' ∧ simpleEscape e = some c) ∨
      (c.toNat < 32 ∧ Json.escapeChar c =
        ['\\', 'u', '0', '0', hexDigit (c.toNat / 16), hexDigit c.toNat]) ∨
      (c ≠ '"' ∧ c ≠ '\\' ∧ ¬ c.toNat < 32 ∧ Json.escapeChar c = [c]) := by
  by_cases quote : c = '"'
  · exact .inl ⟨'"', by rw [quote]; rfl, by decide, by rw [quote]; rfl⟩
  by_cases slash : c = '\\'
  · exact .inl ⟨'\\', by rw [slash]; rfl, by decide, by rw [slash]; rfl⟩
  by_cases newline : c = '\n'
  · exact .inl ⟨'n', by rw [newline]; rfl, by decide, by rw [newline]; rfl⟩
  by_cases back : c = '\r'
  · exact .inl ⟨'r', by rw [back]; rfl, by decide, by rw [back]; rfl⟩
  by_cases tab : c = '\t'
  · exact .inl ⟨'t', by rw [tab]; rfl, by decide, by rw [tab]; rfl⟩
  by_cases erase : c = '\x08'
  · exact .inl ⟨'b', by rw [erase]; rfl, by decide, by rw [erase]; rfl⟩
  by_cases feed : c = '\x0c'
  · exact .inl ⟨'f', by rw [feed]; rfl, by decide, by rw [feed]; rfl⟩
  have long : Json.escapeChar c = if c.toNat < 32
      then ['\\', 'u', '0', '0', hexDigit (c.toNat / 16), hexDigit c.toNat] else [c] := by
    simp [Json.escapeChar, quote, slash, newline, back, tab, erase, feed]
  by_cases low : c.toNat < 32
  · exact .inr (.inl ⟨low, long.trans (if_pos low)⟩)
  · exact .inr (.inr ⟨quote, slash, low, long.trans (if_neg low)⟩)

/-- One character is read back from its escape as one piece. -/
theorem read_escape (c : Char) (rest : List Char) :
    ∃ piece, read (Json.escapeChar c ++ rest) = push piece (read rest) ∧
      ∀ fault pieces, decode fault (piece :: pieces) = (decode fault pieces).map (c :: ·) := by
  rcases escape_cases c with ⟨e, escape, short, meant⟩ | ⟨low, escape⟩ |
    ⟨noQuote, noSlash, shown, escape⟩
  · exact ⟨.plain c, by rw [escape]; exact read_simple short meant rest,
      fun fault pieces => decode_plain fault c pieces⟩
  · exact ⟨.unit c.toNat, by rw [escape]; exact read_unit (hexUnit_of_control _ low) rest,
      decode_unit low⟩
  · exact ⟨.plain c, by rw [escape]; exact read_plain noQuote noSlash shown rest,
      fun fault pieces => decode_plain fault c pieces⟩

theorem read_escapes (cs rest : List Char) :
    ∃ pieces, read (cs.flatMap Json.escapeChar ++ '"' :: rest) = (⟨pieces, none⟩, rest) ∧
      decode none pieces = .ok cs := by
  induction cs with
  | nil => exact ⟨[], read_close rest, rfl⟩
  | cons c cs ih =>
    obtain ⟨pieces, later, decoded⟩ := ih
    obtain ⟨piece, first, one⟩ := read_escape c (cs.flatMap Json.escapeChar ++ '"' :: rest)
    refine ⟨piece :: pieces, ?_, ?_⟩
    · rw [List.flatMap_cons, List.append_assoc, first, later, push]
    · rw [one, decoded]
      rfl

theorem read_quote (s : String) (rest : List Char) :
    ∃ q, read (s.toList.flatMap Json.escapeChar ++ '"' :: rest) = (q, rest) ∧ q.text = .ok s := by
  obtain ⟨pieces, found, decoded⟩ := read_escapes s.toList rest
  refine ⟨⟨pieces, none⟩, found, ?_⟩
  rw [text, decoded]
  simp [Except.map]

end QuotedText

namespace Numeral

/-- A text that no number goes on with. -/
def Ends (rest : List Char) : Prop := ∀ c ∈ rest.head?, c = ',' ∨ c = ']' ∨ c = '\x7d'

theorem Ends.noDigit {rest : List Char} (ends : Ends rest) :
    (rest.head?.map isDigit).getD false = false ∧ rest.takeWhile isDigit = [] ∧
      rest.dropWhile isDigit = rest := by
  cases rest with
  | nil => exact ⟨rfl, rfl, rfl⟩
  | cons c rest =>
    have stop : isDigit c = false := by
      rcases ends c rfl with same | same | same <;> subst same <;> rfl
    exact ⟨by simp [stop], by simp [stop], by simp [stop]⟩

theorem Ends.finish {rest : List Char} (ends : Ends rest) (negative : Bool) (whole : List Char) :
    afterWhole negative whole rest = (.numeral ⟨negative, whole, [], none⟩, rest) := by
  cases rest with
  | nil => rfl
  | cons c rest => rcases ends c rfl with same | same | same <;> subst same <;> rfl

theorem digitValue_digitChar {d : Nat} (small : d < 10) : digitValue d.digitChar = d := by
  have code := Nat.toNat_digitChar_of_lt_ten small
  have zero : '0'.toNat = 48 := rfl
  unfold digitValue
  omega

/-- Only zero itself begins with a zero. -/
theorem head_of_digits (n : Nat) : ∃ c ds, Nat.toDigits 10 n = c :: ds ∧ (c = '0' → n = 0) := by
  induction n using Nat.strongRecOn with
  | ind n ih =>
    by_cases small : n < 10
    · refine ⟨_, _, Nat.toDigits_of_lt_base small, fun zero => ?_⟩
      rw [← digitValue_digitChar small, zero]
      rfl
    · obtain ⟨c, ds, front, zero⟩ := ih (n / 10) (by omega)
      have digits : Nat.toDigits 10 n = c :: (ds ++ [(n % 10).digitChar]) := by
        rw [Nat.toDigits_of_base_le (by decide) (by omega), front, List.cons_append]
      refine ⟨c, _, digits, fun same => ?_⟩
      have := zero same
      omega

theorem digits_cons (n : Nat) : ∃ c ds, Nat.toDigits 10 n = c :: ds ∧ isDigit c = true ∧
    (∀ d ∈ ds, isDigit d = true) ∧ (c = '0' → n = 0) := by
  obtain ⟨c, ds, digits, zero⟩ := head_of_digits n
  have each : ∀ d ∈ c :: ds, isDigit d = true := by
    rw [← digits]
    exact fun d member => Nat.isDigit_of_mem_toDigits (by decide) (by decide) member
  obtain ⟨first, later⟩ := List.forall_mem_cons.mp each
  exact ⟨c, ds, digits, first, later, zero⟩

theorem absorb_append {start value : Nat} {front : List Char}
    (fits : absorb start front = (value, [])) (rest : List Char) :
    absorb start (front ++ rest) = absorb value rest := by
  induction front generalizing start with
  | nil =>
    obtain rfl : start = value := congrArg Prod.fst fits
    rfl
  | cons d front ih =>
    simp only [absorb] at fits
    split at fits
    · rename_i small
      rw [List.cons_append, absorb, if_pos small]
      exact ih fits
    · cases fits

theorem absorb_digits {n : Nat} (small : n < 2 ^ 64) : absorb 0 (Nat.toDigits 10 n) = (n, []) := by
  induction n using Nat.strongRecOn with
  | ind n ih =>
    have fits : n < Nat.pow 2 64 := small
    by_cases single : n < 10
    · have whole : 0 * 10 + digitValue n.digitChar = n := by
        rw [digitValue_digitChar single]
        omega
      rw [Nat.toDigits_of_lt_base single, absorb, whole, if_pos fits, absorb]
    · have front := ih (n / 10) (by omega) (by omega)
      have whole : n / 10 * 10 + digitValue (n % 10).digitChar = n := by
        rw [digitValue_digitChar (by omega)]
        omega
      rw [Nat.toDigits_of_base_le (by decide) (by omega), absorb_append front, absorb, whole,
        if_pos fits, absorb]

theorem read_digits (negative : Bool) (n : Nat) {rest : List Char} (ends : Ends rest) :
    unsigned negative (Nat.toDigits 10 n ++ rest) =
      (.numeral ⟨negative, Nat.toDigits 10 n, [], none⟩, rest) := by
  obtain ⟨c, ds, digits, first, each, zero⟩ := digits_cons n
  obtain ⟨stop, noMore, left⟩ := ends.noDigit
  rw [digits, List.cons_append, unsigned]
  by_cases same : c = '0'
  · have alone : ds = [] := by
      rw [zero same, same] at digits
      exact (List.cons.inj digits).2.symm
    rw [if_pos same, alone, List.nil_append, stop, if_neg Bool.false_ne_true, same, ends.finish]
  · rw [if_neg same, if_pos first, List.takeWhile_append_of_pos each,
      List.dropWhile_append_of_pos each, noMore, left, List.append_nil, ends.finish]

theorem number_of_digits {n : Nat} (small : n < 2 ^ 64) :
    number ⟨false, Nat.toDigits 10 n, [], none⟩ = .ok (.whole n) := by
  simp [number, absorb_digits small, whole?]

theorem number_of_negative {n : Nat} (positive : 0 < n) (small : n ≤ 2 ^ 63) :
    number ⟨true, Nat.toDigits 10 n, [], none⟩ = .ok (.whole (-n)) := by
  have bounded : n ≤ Nat.pow 2 63 := small
  simp [number, absorb_digits (show n < 2 ^ 64 by omega), whole?, positive, bounded]

end Numeral

namespace Json

/-- The text of a row of values; a comma stands before each but a first one. -/
def itemRow : Bool → List Json → List Char
  | _, [] => []
  | first, x :: rest => (if first then [] else [',']) ++ (chars x ++ itemRow false rest)

def memberRow : Bool → List (String × Json) → List Char
  | _, [] => []
  | first, (n, x) :: rest =>
    (if first then [] else [',']) ++ (quote n ++ ':' :: (chars x ++ memberRow false rest))

theorem itemChars_eq (items : List Json) : itemChars items = itemRow true items := by
  induction items with
  | nil => rfl
  | cons x rest ih =>
    cases rest with
    | nil => simp [itemChars, itemRow]
    | cons y rest => simp [itemChars, itemRow, ih]

theorem memberChars_eq (members : List (String × Json)) :
    memberChars members = memberRow true members := by
  induction members with
  | nil => rfl
  | cons m rest ih =>
    cases rest with
    | nil => simp [memberChars, memberRow]
    | cons n rest => simp [memberChars, memberRow, ih]

theorem digit_shown {c : Char} (digit : isDigit c = true) : isBlank c = false ∧ c ≠ ']' := by
  constructor
  · by_contra blank
    simp only [isBlank, Bool.not_eq_false, Bool.or_eq_true, decide_eq_true_eq] at blank
    rcases blank with ((same | same) | same) | same <;> subst same <;> cases digit
  · intro same
    subst same
    cases digit

/-- No value begins with a blank or with a closing bracket. -/
theorem chars_head {v : Json} (integral : v.Integral) :
    ∃ c cs, chars v = c :: cs ∧ isBlank c = false ∧ c ≠ ']' := by
  cases integral with
  | null => exact ⟨_, _, rfl, rfl, by decide⟩
  | bool b => cases b <;> exact ⟨_, _, rfl, rfl, by decide⟩
  | whole n =>
    cases n with
    | ofNat n =>
      obtain ⟨c, ds, digits, digit, _⟩ := Numeral.digits_cons n
      exact ⟨c, ds, digits, digit_shown digit⟩
    | negSucc n => exact ⟨_, _, rfl, rfl, by decide⟩
  | text s => exact ⟨_, _, rfl, rfl, by decide⟩
  | list inner => exact ⟨_, _, rfl, rfl, by decide⟩
  | object inner => exact ⟨_, _, rfl, rfl, by decide⟩

end Json

namespace Reading

open Json

/-- The value is kept from the reading wherever there is room for it. -/
def Spells (r : Reading) (v : Json) : Prop := ∀ room, v.depth ≤ room → r.keep room = .ok v

/-- The same of a member and its name. -/
def SpellsMember (r : QuotedText × Reading) (m : String × Json) : Prop :=
  r.1.text = .ok m.1 ∧ r.2.Spells m.2

theorem keepItems_of_spells {rs : List Reading} {vs : List Json} {room : Nat}
    (spelled : List.Forall₂ Spells rs vs) (shallow : itemDepth vs ≤ room) :
    keepItems room rs = .ok vs := by
  induction spelled with
  | nil => rfl
  | cons head _ ih =>
    obtain ⟨here, later⟩ := max_le_iff.mp shallow
    rw [keepItems, head room here, ih later]
    rfl

theorem keepMembers_of_spells {rs : List (QuotedText × Reading)} {ms : List (String × Json)}
    {room : Nat} (spelled : List.Forall₂ SpellsMember rs ms) (shallow : memberDepth ms ≤ room) :
    keepMembers room rs = .ok ms := by
  induction spelled with
  | nil => rfl
  | cons head _ ih =>
    obtain ⟨here, later⟩ := max_le_iff.mp shallow
    rw [keepMembers, head.1, head.2 room here, ih later]
    rfl

theorem spells_list {rs : List Reading} {vs : List Json} (spelled : List.Forall₂ Spells rs vs) :
    (Reading.list rs none).Spells (.list vs) := by
  intro room shallow
  have shallow : itemDepth vs + 1 ≤ room := shallow
  rw [keep, if_neg (by omega), keepItems_of_spells spelled (by omega)]
  rfl

theorem spells_object {rs : List (QuotedText × Reading)} {ms : List (String × Json)}
    (spelled : List.Forall₂ SpellsMember rs ms) (ascending : Ascending ms) :
    (Reading.object rs none).Spells (.object ms) := by
  intro room shallow
  have shallow : memberDepth ms + 1 ≤ room := shallow
  rw [keep, if_neg (by omega), keepMembers_of_spells spelled (by omega)]
  exact congrArg Except.ok (ofMembers_of_ascending ascending)

theorem spells_text {q : QuotedText} {s : String} (decoded : q.text = .ok s) :
    (Reading.quoted q).Spells (.text s) := by
  intro room _
  rw [keep, decoded]
  rfl

theorem spells_number {n : Numeral} {k : JsonNumber} (read : n.number = .ok k) :
    (Reading.numeral n).Spells (.number k) := by
  intro room _
  rw [keep, read]
  rfl

theorem skipBlank_of_shown {c : Char} (shown : isBlank c = false) (cs : List Char) :
    skipBlank (c :: cs) = c :: cs := by
  simp [skipBlank, shown]

theorem value_of_digit {c : Char} (digit : isDigit c = true) (fuel : Nat) (cs : List Char) :
    value (fuel + 1) (c :: cs) = Numeral.unsigned false (c :: cs) := by
  have other : ∀ d : Char, isDigit d = false → c ≠ d := by
    intro d notDigit same
    rw [← same, digit] at notDigit
    cases notDigit
  rw [value, skipBlank_of_shown (digit_shown digit).1]
  simp [other '"' rfl, other '[' rfl, other '\x7b' rfl, other 'n' rfl, other 't' rfl, other 'f' rfl,
    other '-' rfl, digit]

/-- A whole number is read back from its digits. -/
theorem value_of_whole {n : Int} (fits : FitsWord n) (fuel : Nat) {rest : List Char}
    (ends : Numeral.Ends rest) :
    ∃ r, value (fuel + 1) (wholeChars n ++ rest) = (r, rest) ∧ r.Spells (.number (.whole n)) := by
  obtain ⟨lower, upper⟩ := fits
  cases n with
  | ofNat n =>
    obtain ⟨c, ds, digits, digit, _⟩ := Numeral.digits_cons n
    have small : n < 2 ^ 64 := by
      have : (n : Int) < 2 ^ 64 := upper
      omega
    refine ⟨_, ?_, spells_number (Numeral.number_of_digits small)⟩
    rw [wholeChars, ← Numeral.read_digits false n ends, digits, List.cons_append,
      value_of_digit digit]
  | negSucc n =>
    have small : n + 1 ≤ 2 ^ 63 := by
      have : -2 ^ 63 ≤ Int.negSucc n := lower
      omega
    refine ⟨_, ?_, spells_number (Numeral.number_of_negative n.succ_pos small)⟩
    exact Numeral.read_digits true (n + 1) ends

theorem items_end (fuel : Nat) (first : Bool) (rest : List Char) :
    items (fuel + 1) first (']' :: rest) = ([], none, rest) := by
  rw [items]
  rfl

theorem members_end (fuel : Nat) (first : Bool) (rest : List Char) :
    members (fuel + 1) first ('\x7d' :: rest) = ([], none, rest) := by
  rw [members]
  rfl

theorem items_next {fuel : Nat} {c : Char} {cs after left : List Char} {x : Reading}
    {xs : List Reading} (first : Bool) (shown : isBlank c = false) (inside : c ≠ ']')
    (head : value fuel (c :: cs) = (x, after)) (tail : items fuel false after = (xs, none, left)) :
    items (fuel + 1) first ((if first then [] else [',']) ++ c :: cs) = (x :: xs, none, left) := by
  cases first with
  | true =>
    simp only [↓reduceIte, List.nil_append]
    rw [items, skipBlank_of_shown shown]
    simp [inside, head, tail]
  | false =>
    simp only [Bool.false_eq_true, ↓reduceIte, List.cons_append, List.nil_append]
    rw [items, skipBlank_of_shown (by decide)]
    simp [head, tail]

theorem members_next {fuel : Nat} {text cs after left : List Char} {q : QuotedText} {x : Reading}
    {ms : List (QuotedText × Reading)} (first : Bool) (name : QuotedText.read text = (q, ':' :: cs))
    (head : value fuel cs = (x, after))
    (tail : members (fuel + 1) false after = (ms, none, left)) :
    members (fuel + 2) first ((if first then [] else [',']) ++ '"' :: text) =
      ((q, x) :: ms, none, left) := by
  have value : member (fuel + 1) (':' :: cs) = (x, after) := by
    rw [member, skipBlank_of_shown (by decide)]
    exact head
  cases first with
  | true =>
    simp only [↓reduceIte, List.nil_append]
    rw [members, skipBlank_of_shown (by decide)]
    simp [skipBlank_of_shown, isBlank, name, value, tail]
  | false =>
    simp only [Bool.false_eq_true, ↓reduceIte, List.cons_append, List.nil_append]
    rw [members, skipBlank_of_shown (by decide)]
    simp [skipBlank_of_shown, isBlank, name, value, tail]

theorem ends_of_itemRow (vs : List Json) (rest : List Char) :
    Numeral.Ends (itemRow false vs ++ ']' :: rest) := by
  cases vs <;> simp [itemRow, Numeral.Ends]

theorem ends_of_memberRow (ms : List (String × Json)) (rest : List Char) :
    Numeral.Ends (memberRow false ms ++ '\x7d' :: rest) := by
  cases ms <;> simp [memberRow, Numeral.Ends]

theorem value_of_object {fuel : Nat} {text left : List Char} {rs : List (QuotedText × Reading)}
    (read : members fuel true text = (rs, none, left)) :
    value (fuel + 1) ('\x7b' :: text) = (.object rs none, left) := by
  rw [value, skipBlank_of_shown (by decide)]
  simp [read]

mutual

/-- The value is read back from its text.  A bracket costs two steps and brings two characters, so
    twice the length is fuel enough. -/
theorem value_of_chars : ∀ {v : Json} (fuel : Nat) {rest : List Char}, v.Stored → v.Integral →
    Numeral.Ends rest → 2 * (chars v).length ≤ fuel + 1 →
      ∃ r, value (fuel + 1) (chars v ++ rest) = (r, rest) ∧ r.Spells v
  | .null, fuel, rest, _, _, _, _ => ⟨.null, rfl, fun _ _ => rfl⟩
  | .bool true, fuel, rest, _, _, _, _ => ⟨.bool true, rfl, fun _ _ => rfl⟩
  | .bool false, fuel, rest, _, _, _, _ => ⟨.bool false, rfl, fun _ _ => rfl⟩
  | .number (.whole n), fuel, rest, stored, _, ends, _ => by
    cases stored with
    | whole fits => exact value_of_whole fits fuel ends
  | .number (.double x), fuel, rest, _, integral, _, _ => by
    cases integral
  | .text s, fuel, rest, _, _, _, _ => by
    obtain ⟨q, read, decoded⟩ := QuotedText.read_quote s rest
    refine ⟨.quoted q, ?_, spells_text decoded⟩
    rw [chars, quote, List.cons_append, List.append_assoc, value, skipBlank_of_shown (by decide)]
    simp [read]
  | .list vs, fuel, rest, stored, integral, _, enough => by
    cases stored with
    | list storedItems =>
      cases integral with
      | list integralItems =>
        rw [chars, itemChars_eq] at enough ⊢
        simp only [List.length_cons, List.length_append, List.length_nil] at enough
        obtain ⟨fuel, rfl⟩ : ∃ f, fuel = f + 1 := ⟨fuel - 1, by omega⟩
        obtain ⟨rs, read, spelled⟩ :=
          items_of_row fuel rest true storedItems integralItems (by omega)
        refine ⟨.list rs none, ?_, spells_list spelled⟩
        rw [List.cons_append, List.append_assoc, value, skipBlank_of_shown (by decide)]
        simp [read]
  | .object ms, fuel, rest, stored, integral, _, enough => by
    cases stored with
    | object ascending storedMembers =>
      cases integral with
      | object integralMembers =>
        rw [chars, memberChars_eq] at enough ⊢
        simp only [List.length_cons, List.length_append, List.length_nil] at enough
        obtain ⟨fuel, rfl⟩ : ∃ f, fuel = f + 1 := ⟨fuel - 1, by omega⟩
        obtain ⟨rs, read, spelled⟩ :=
          members_of_row fuel rest true storedMembers integralMembers (by omega)
        refine ⟨.object rs none, ?_, spells_object spelled ascending⟩
        rw [List.cons_append, List.append_assoc]
        exact value_of_object read

theorem items_of_row : ∀ {vs : List Json} (fuel : Nat) (rest : List Char) (first : Bool),
    (∀ v ∈ vs, v.Stored) → (∀ v ∈ vs, v.Integral) → 2 * (itemRow first vs).length ≤ fuel →
      ∃ rs, items (fuel + 1) first (itemRow first vs ++ ']' :: rest) = (rs, none, rest) ∧
        List.Forall₂ Spells rs vs
  | [], fuel, rest, first, _, _, _ => ⟨[], items_end fuel first rest, .nil⟩
  | v :: vs, fuel, rest, first, stored, integral, enough => by
    obtain ⟨storedHead, storedTail⟩ := List.forall_mem_cons.mp stored
    obtain ⟨integralHead, integralTail⟩ := List.forall_mem_cons.mp integral
    -- the first character tells the item from the bracket that closes the list
    obtain ⟨c, cs, head, shown, inside⟩ := chars_head integralHead
    have length : (chars v).length = cs.length + 1 := by rw [head]; rfl
    simp only [itemRow, List.length_append] at enough
    obtain ⟨fuel, rfl⟩ : ∃ f, fuel = f + 1 := ⟨fuel - 1, by omega⟩
    obtain ⟨r, readHead, spelledHead⟩ :=
      value_of_chars fuel storedHead integralHead (ends_of_itemRow vs rest) (by omega)
    obtain ⟨rs, readTail, spelledTail⟩ :=
      items_of_row fuel rest false storedTail integralTail (by omega)
    refine ⟨r :: rs, ?_, .cons spelledHead spelledTail⟩
    rw [head, List.cons_append] at readHead
    rw [itemRow, head, List.append_assoc, List.append_assoc, List.cons_append]
    exact items_next first shown inside readHead readTail

theorem members_of_row : ∀ {ms : List (String × Json)} (fuel : Nat) (rest : List Char)
    (first : Bool), (∀ m ∈ ms, m.2.Stored) → (∀ m ∈ ms, m.2.Integral) →
      2 * (memberRow first ms).length ≤ fuel →
        ∃ rs, members (fuel + 1) first (memberRow first ms ++ '\x7d' :: rest) = (rs, none, rest) ∧
          List.Forall₂ SpellsMember rs ms
  | [], fuel, rest, first, _, _, _ => ⟨[], members_end fuel first rest, .nil⟩
  | (n, v) :: ms, fuel, rest, first, stored, integral, enough => by
    obtain ⟨(storedHead : v.Stored), storedTail⟩ := List.forall_mem_cons.mp stored
    obtain ⟨(integralHead : v.Integral), integralTail⟩ := List.forall_mem_cons.mp integral
    simp only [memberRow, quote, List.length_append, List.length_cons, List.length_nil] at enough
    obtain ⟨fuel, rfl⟩ : ∃ f, fuel = f + 2 := ⟨fuel - 2, by omega⟩
    obtain ⟨r, readHead, spelledHead⟩ :=
      value_of_chars fuel storedHead integralHead (ends_of_memberRow ms rest) (by omega)
    obtain ⟨rs, readTail, spelledTail⟩ :=
      members_of_row (fuel + 1) rest false storedTail integralTail (by omega)
    obtain ⟨q, name, decoded⟩ := QuotedText.read_quote n
      (':' :: (chars v ++ (memberRow false ms ++ '\x7d' :: rest)))
    refine ⟨(q, r) :: rs, ?_, .cons ⟨decoded, spelledHead⟩ spelledTail⟩
    have read := members_next first name readHead readTail
    simpa [memberRow, quote] using read

end

end Reading

namespace Json

theorem ofText_print {v : Json} (stored : v.Stored) (integral : v.Integral)
    (shallow : v.depth ≤ nestingLimit) : ofText v.print = .ok v := by
  have ends : Numeral.Ends [] := by simp [Numeral.Ends]
  obtain ⟨r, read, spelled⟩ :=
    Reading.value_of_chars (2 * v.chars.length + 1) stored integral ends (by omega)
  have document : Document.ofText v.print = ⟨r, true⟩ := by
    rw [List.append_nil] at read
    simp only [Document.ofText, print, String.toList_ofList, read]
    rfl
  simp only [ofText, document, spelled nestingLimit shallow]
  rfl

/-- An object whose members are read back, in whatever order their names are. -/
theorem document_of_object {ms : List (String × Json)} (stored : ∀ m ∈ ms, m.2.Stored)
    (integral : ∀ m ∈ ms, m.2.Integral) :
    ∃ rs, Document.ofText (Json.object ms).print = ⟨.object rs none, true⟩ ∧
      List.Forall₂ Reading.SpellsMember rs ms := by
  have size : (chars (.object ms)).length = (memberRow true ms).length + 2 := by
    rw [chars, memberChars_eq]
    simp
  obtain ⟨rs, read, spelled⟩ := Reading.members_of_row (2 * (chars (.object ms)).length) [] true
    stored integral (by omega)
  have document := Reading.value_of_object read
  rw [← memberChars_eq] at document
  refine ⟨rs, ?_, spelled⟩
  simp only [Document.ofText, print, String.toList_ofList]
  rw [chars] at document ⊢
  rw [document]
  rfl

end Json
end SessionFleet
