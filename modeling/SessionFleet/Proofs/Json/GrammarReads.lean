import Mathlib.Data.List.TakeWhile
import SessionFleet.Proofs.Json.Grammar
/- Every text of the grammar is read as what it says.

   A number ends where the text goes on with a blank, a comma or a bracket, so every statement about a
   value is about a text with more behind it. -/
namespace SessionFleet

open Grammar (Blanks Digits)

namespace QuotedText

theorem simpleEscape_of_escapes {e c : Char} (meant : (e, c) ∈ Grammar.escapes) :
    e ≠ 'u' ∧ simpleEscape e = some c := by
  have every : ∀ m ∈ Grammar.escapes, m.1 ≠ 'u' ∧ simpleEscape m.1 = some m.2 := by decide
  exact every (e, c) meant

theorem read_piece {p : StringPiece} {cs : List Char} (piece : Grammar.Piece p cs)
    (rest : List Char) : read (cs ++ rest) = push p (read rest) := by
  cases piece with
  | plain noQuote noSlash shown => exact read_plain noQuote noSlash (Nat.not_lt.mpr shown) rest
  | escape meant =>
    obtain ⟨short, simple⟩ := simpleEscape_of_escapes meant
    exact read_simple short simple rest
  | unit value => exact read_unit value rest

theorem read_pieces {ps : List StringPiece} {cs : List Char} (pieces : Grammar.Pieces ps cs)
    (rest : List Char) : read (cs ++ '"' :: rest) = (⟨ps, none⟩, rest) := by
  induction pieces with
  | nil => exact read_close rest
  | cons first _ ih => rw [List.append_assoc, read_piece first, ih, push]

/-- A quoted text opens with its quote and is read up to the closing one. -/
theorem read_quoted {q : QuotedText} {cs : List Char} (text : Grammar.Quoted q cs) :
    ∃ inner, cs = '"' :: inner ∧ ∀ rest, read (inner ++ rest) = (q, rest) := by
  obtain ⟨pieces⟩ := text
  refine ⟨_, rfl, fun rest => ?_⟩
  rw [List.append_assoc]
  exact read_pieces pieces rest

end QuotedText

namespace Numeral

/-- A text that no number goes on with, and that may follow a value. -/
def Stops (rest : List Char) : Prop :=
  ∀ c ∈ rest.head?, isBlank c = true ∨ c = ',' ∨ c = ']' ∨ c = '\x7d'

theorem Stops.char {c : Char} {rest : List Char} (stops : Stops (c :: rest)) :
    isDigit c = false ∧ c ≠ '.' ∧ c ≠ 'e' ∧ c ≠ 'E' := by
  have closes : isBlank c = true ∨ c = ',' ∨ c = ']' ∨ c = '\x7d' := stops c rfl
  simp only [isBlank, Bool.or_eq_true, decide_eq_true_eq] at closes
  rcases closes with (((same | same) | same) | same) | same | same | same <;> subst same <;> decide

/-- Where digits end. -/
theorem digits_split {ds rest : List Char} (digits : Digits ds)
    (stops : (rest.head?.map isDigit).getD false = false) :
    (ds ++ rest).takeWhile isDigit = ds ∧ (ds ++ rest).dropWhile isDigit = rest := by
  rw [List.takeWhile_append_of_pos digits, List.dropWhile_append_of_pos digits]
  cases rest with
  | nil => simp
  | cons c rest =>
    have other : isDigit c = false := stops
    simp [other]

theorem Stops.noDigit {rest : List Char} (stops : Stops rest) :
    (rest.head?.map isDigit).getD false = false := by
  cases rest with
  | nil => rfl
  | cons c rest => exact stops.char.1

theorem finish_of_stops {rest : List Char} (stops : Stops rest) (negative : Bool)
    (whole fraction : List Char) :
    finish negative whole fraction rest = (.numeral ⟨negative, whole, fraction, none⟩, rest) := by
  cases rest with
  | nil => rfl
  | cons c rest =>
    obtain ⟨_, _, small, large⟩ := stops.char
    simp [finish, small, large]

theorem finish_of_exponent {exponent : Option (Bool × List Char)} {es rest : List Char}
    (written : Grammar.Exponent exponent es) (stops : Stops rest) (negative : Bool)
    (whole fraction : List Char) :
    finish negative whole fraction (es ++ rest) =
      (.numeral ⟨negative, whole, fraction, exponent⟩, rest) := by
  cases written with
  | none => exact finish_of_stops stops negative whole fraction
  | @some mark minus sign ds marked signed present digits =>
    have begins : (mark = 'e' || mark = 'E') = true := by simpa using marked
    obtain ⟨taken, left⟩ := digits_split digits stops.noDigit
    cases signed with
    | plus | minus => simp [finish, begins, taken, left, present]
    | none =>
      -- a digit is no sign
      obtain ⟨d, more, rfl⟩ := List.exists_cons_of_ne_nil present
      have digit : isDigit d = true := digits d List.mem_cons_self
      have noPlus : d ≠ '+' := by
        intro same
        subst same
        cases digit
      have noMinus : d ≠ '-' := by
        intro same
        subst same
        cases digit
      rw [List.cons_append] at taken left
      simp [finish, begins, noPlus, noMinus, taken, left]

/-- What may follow the whole part of a number is no digit. -/
theorem exponent_noDigit {exponent : Option (Bool × List Char)} {es rest : List Char}
    (written : Grammar.Exponent exponent es) (stops : Stops rest) :
    ((es ++ rest).head?.map isDigit).getD false = false := by
  cases written with
  | none => exact stops.noDigit
  | some marked =>
    rcases marked with same | same <;> subst same <;> rfl

theorem fraction_noDigit {fraction ds es rest : List Char} {exponent : Option (Bool × List Char)}
    (middle : Grammar.Fraction fraction ds) (back : Grammar.Exponent exponent es)
    (stops : Stops rest) : ((ds ++ (es ++ rest)).head?.map isDigit).getD false = false := by
  cases middle with
  | none =>
    rw [List.nil_append]
    exact exponent_noDigit back stops
  | some => rfl

/-- Without a point the number goes on with its exponent. -/
theorem afterWhole_of_exponent {exponent : Option (Bool × List Char)} {es rest : List Char}
    (written : Grammar.Exponent exponent es) (stops : Stops rest) (negative : Bool)
    (whole : List Char) :
    afterWhole negative whole (es ++ rest) = finish negative whole [] (es ++ rest) := by
  cases written with
  | none =>
    cases rest with
    | nil => rfl
    | cons c rest =>
      obtain ⟨_, noPoint, _⟩ := stops.char
      rw [List.nil_append, afterWhole]
      simpa using noPoint
  | some marked =>
    rcases marked with same | same <;> subst same <;> rfl

theorem afterWhole_of_fraction {fraction ds es rest : List Char}
    {exponent : Option (Bool × List Char)} (middle : Grammar.Fraction fraction ds)
    (back : Grammar.Exponent exponent es) (stops : Stops rest) (negative : Bool)
    (whole : List Char) :
    afterWhole negative whole (ds ++ (es ++ rest)) =
      (.numeral ⟨negative, whole, fraction, exponent⟩, rest) := by
  have ending := finish_of_exponent back stops negative whole
  cases middle with
  | none => exact (afterWhole_of_exponent back stops negative whole).trans (ending [])
  | some present digits =>
    obtain ⟨taken, left⟩ := digits_split digits (exponent_noDigit back stops)
    simp [afterWhole, taken, left, present, ending]

theorem unsigned_of_text {negative : Bool} {n : Numeral} {cs rest : List Char}
    (text : Grammar.Unsigned negative n cs) (stops : Stops rest) :
    unsigned negative (cs ++ rest) = (.numeral n, rest) := by
  cases text with
  | @mk whole fraction ds es exponent front middle back =>
    have ending := afterWhole_of_fraction middle back stops negative
    have noDigit := fraction_noDigit middle back stops
    rw [List.append_assoc, List.append_assoc]
    cases front with
    | zero =>
      rw [List.cons_append, List.nil_append, unsigned, if_pos rfl, noDigit, if_neg Bool.false_ne_true]
      exact ending ['0']
    | @more d more first notZero digits =>
      obtain ⟨taken, left⟩ := digits_split digits noDigit
      rw [List.cons_append, unsigned, if_neg notZero, if_pos first, taken, left]
      exact ending (d :: more)

theorem unsigned_head {negative : Bool} {n : Numeral} {cs : List Char}
    (text : Grammar.Unsigned negative n cs) : ∃ c ds, cs = c :: ds ∧ isDigit c = true := by
  obtain ⟨front, _, _⟩ := text
  cases front with
  | zero => exact ⟨_, _, rfl, rfl⟩
  | more first => exact ⟨_, _, rfl, first⟩

end Numeral

namespace Reading

open Grammar (Value ItemRow MemberRow Member)

/-- No value begins with a blank or with a closing bracket. -/
theorem value_head {r : Reading} {cs : List Char} (text : Value r cs) :
    ∃ c ds, cs = c :: ds ∧ isBlank c = false ∧ c ≠ ']' := by
  cases text with
  | positive digits =>
    obtain ⟨c, ds, same, digit⟩ := Numeral.unsigned_head digits
    exact ⟨c, ds, same, Json.digit_shown digit⟩
  | quoted text =>
    obtain ⟨_⟩ := text
    exact ⟨_, _, rfl, rfl, by decide⟩
  | _ => exact ⟨_, _, rfl, rfl, by decide⟩

theorem member_nonempty {m : QuotedText × Reading} {cs : List Char} (text : Member m cs) :
    0 < cs.length := by
  obtain ⟨⟩ := text
  simp only [List.length_append, List.length_cons]
  omega

theorem skipBlank_append {bs : List Char} (blanks : Blanks bs) (cs : List Char) :
    skipBlank (bs ++ cs) = skipBlank cs := List.dropWhile_append_of_pos blanks

/-- Blanks in front of a value are passed over, and so are those in front of what stands
    between values. -/
theorem value_blanks {bs : List Char} (blanks : Blanks bs) (fuel : Nat) (cs : List Char) :
    value fuel (bs ++ cs) = value fuel cs := by
  cases fuel with
  | zero => rw [value, value]
  | succ fuel => rw [value, value, skipBlank_append blanks]

theorem items_blanks {bs : List Char} (blanks : Blanks bs) (fuel : Nat) (first : Bool)
    (cs : List Char) : items fuel first (bs ++ cs) = items fuel first cs := by
  cases fuel with
  | zero => rw [items, items]
  | succ fuel => rw [items, items, skipBlank_append blanks]

theorem members_blanks {bs : List Char} (blanks : Blanks bs) (fuel : Nat) (first : Bool)
    (cs : List Char) : members fuel first (bs ++ cs) = members fuel first cs := by
  cases fuel with
  | zero => rw [members, members]
  | succ fuel => rw [members, members, skipBlank_append blanks]

theorem member_blanks {bs : List Char} (blanks : Blanks bs) (fuel : Nat) (cs : List Char) :
    member fuel (bs ++ cs) = member fuel cs := by
  cases fuel with
  | zero => rw [member, member]
  | succ fuel => rw [member, member, skipBlank_append blanks]

theorem stops_of_blanks {after tail : List Char} (trail : Blanks after)
    (stops : Numeral.Stops tail) : Numeral.Stops (after ++ tail) := by
  cases after with
  | nil => exact stops
  | cons c after =>
    intro d front
    obtain rfl : c = d := by simpa using front
    exact .inl (trail c List.mem_cons_self)

theorem stops_of_close {c : Char} (closes : c = ',' ∨ c = ']' ∨ c = '\x7d') (rest : List Char) :
    Numeral.Stops (c :: rest) := by
  intro d front
  obtain rfl : c = d := by simpa using front
  exact .inr closes

/-- One item, with blanks before it, and the items behind it. -/
theorem items_step {fuel : Nat} {before cs after left : List Char} {x : Reading}
    {xs : List Reading} (first : Bool) (lead : Blanks before)
    (head : ∃ c ds, cs = c :: ds ∧ isBlank c = false ∧ c ≠ ']')
    (item : value fuel cs = (x, after)) (tail : items fuel false after = (xs, none, left)) :
    items (fuel + 1) first ((if first then [] else [',']) ++ (before ++ cs)) =
      (x :: xs, none, left) := by
  cases first with
  | true =>
    obtain ⟨c, ds, rfl, shown, inside⟩ := head
    rw [if_pos rfl, List.nil_append, items_blanks lead]
    exact items_next true shown inside item tail
  | false =>
    rw [← value_blanks lead] at item
    simp only [Bool.false_eq_true, ↓reduceIte, List.cons_append, List.nil_append]
    rw [items, skipBlank_of_shown (by decide)]
    simp [item, tail]

/-- One member, from its name on, and the members behind it. -/
theorem members_step {fuel : Nat} {before text after left rest : List Char} {q : QuotedText}
    {x : Reading} {ms : List (QuotedText × Reading)} (first : Bool) (lead : Blanks before)
    (name : QuotedText.read text = (q, rest)) (inner : member fuel rest = (x, after))
    (tail : members fuel false after = (ms, none, left)) :
    members (fuel + 1) first ((if first then [] else [',']) ++ (before ++ '"' :: text)) =
      ((q, x) :: ms, none, left) := by
  have shown : skipBlank (before ++ '"' :: text) = '"' :: text := by
    rw [skipBlank_append lead, skipBlank_of_shown (by decide)]
  cases first with
  | true =>
    rw [if_pos rfl, List.nil_append, members, shown]
    simp [skipBlank_of_shown, isBlank, name, inner, tail]
  | false =>
    simp only [Bool.false_eq_true, ↓reduceIte, List.cons_append, List.nil_append]
    rw [members, skipBlank_of_shown (by decide)]
    simp [shown, name, inner, tail]

theorem value_of_list {fuel : Nat} {text left : List Char} {rs : List Reading}
    (read : items fuel true text = (rs, none, left)) :
    value (fuel + 1) ('[' :: text) = (.list rs none, left) := by
  rw [value, skipBlank_of_shown (by decide)]
  simp [read]

mutual

/-- A value is read from its text whatever may follow it.  A bracket costs two steps and brings two
    characters, so twice the length is fuel enough. -/
theorem value_of_text : ∀ {r : Reading} {cs : List Char}, Value r cs → ∀ {fuel : Nat}
    {rest : List Char}, Numeral.Stops rest → 2 * cs.length ≤ fuel → value fuel (cs ++ rest) = (r, rest)
  | _, _, .null, fuel + 1, rest, _, _ => rfl
  | _, _, .true, fuel + 1, rest, _, _ => rfl
  | _, _, .false, fuel + 1, rest, _, _ => rfl
  | _, _, .positive digits, fuel, rest, stops, enough => by
    obtain ⟨c, ds, same, digit⟩ := Numeral.unsigned_head digits
    have length : 0 < fuel := by
      rw [same] at enough
      simp only [List.length_cons] at enough
      omega
    obtain ⟨fuel, rfl⟩ := Nat.exists_eq_add_one.mpr length
    rw [← Numeral.unsigned_of_text digits stops, same, List.cons_append, value_of_digit digit]
  | _, _, .negative digits, fuel + 1, rest, stops, _ => Numeral.unsigned_of_text digits stops
  | _, _, .quoted text, fuel, rest, _, enough => by
    obtain ⟨inner, rfl, read⟩ := QuotedText.read_quoted text
    obtain ⟨fuel, rfl⟩ : ∃ f, fuel = f + 1 := ⟨fuel - 1, by simp at enough; omega⟩
    rw [List.cons_append, value, skipBlank_of_shown (by decide)]
    simp [read]
  | _, _, .emptyList blanks, fuel, rest, _, enough => by
    simp only [List.length_cons, List.length_append, List.length_nil] at enough
    obtain ⟨fuel, rfl⟩ : ∃ f, fuel = f + 2 := ⟨fuel - 2, by omega⟩
    have read := (items_blanks blanks (fuel + 1) true (']' :: rest)).trans (items_end fuel true rest)
    simpa using value_of_list read
  | .list xs _, _, @Value.list _ cs row, fuel, rest, _, enough => by
    simp only [List.length_cons, List.length_append, List.length_nil] at enough
    obtain ⟨fuel, rfl⟩ : ∃ f, fuel = f + 1 := ⟨fuel - 1, by omega⟩
    have read : items fuel true (cs ++ ']' :: rest) = (xs, none, rest) :=
      items_of_text row true rest (by omega)
    simpa using value_of_list read
  | _, _, .emptyObject blanks, fuel, rest, _, enough => by
    simp only [List.length_cons, List.length_append, List.length_nil] at enough
    obtain ⟨fuel, rfl⟩ : ∃ f, fuel = f + 2 := ⟨fuel - 2, by omega⟩
    have read :=
      (members_blanks blanks (fuel + 1) true ('\x7d' :: rest)).trans (members_end fuel true rest)
    simpa using value_of_object read
  | .object ms _, _, @Value.object _ cs row, fuel, rest, _, enough => by
    simp only [List.length_cons, List.length_append, List.length_nil] at enough
    obtain ⟨fuel, rfl⟩ : ∃ f, fuel = f + 1 := ⟨fuel - 1, by omega⟩
    have read : members fuel true (cs ++ '\x7d' :: rest) = (ms, none, rest) :=
      members_of_text row true rest (by omega)
    simpa using value_of_object read

theorem items_of_text : ∀ {xs : List Reading} {cs : List Char}, ItemRow xs cs → ∀ {fuel : Nat}
    (first : Bool) (rest : List Char), 2 * cs.length < fuel →
      items fuel first ((if first then [] else [',']) ++ (cs ++ ']' :: rest)) = (xs, none, rest)
  | _, _, @ItemRow.last x before cs after lead item trail, fuel, first, rest, enough => by
    simp only [List.length_append] at enough
    obtain ⟨c, ds, begins, shown, inside⟩ := value_head item
    have size : 0 < cs.length := by simp [begins]
    obtain ⟨fuel, rfl⟩ : ∃ f, fuel = f + 2 := ⟨fuel - 2, by omega⟩
    have here : value (fuel + 1) (cs ++ (after ++ ']' :: rest)) = (x, after ++ ']' :: rest) :=
      value_of_text item (stops_of_blanks trail (stops_of_close (by decide) rest)) (by omega)
    have later := (items_blanks trail (fuel + 1) false (']' :: rest)).trans
      (items_end fuel false rest)
    have read := items_step first lead ⟨c, _, by rw [begins, List.cons_append], shown, inside⟩
      here later
    simpa using read
  | _, _, @ItemRow.more x xs before cs after ds lead item trail row, fuel, first, rest, enough => by
    simp only [List.length_append, List.length_cons] at enough
    obtain ⟨c, es, begins, shown, inside⟩ := value_head item
    obtain ⟨fuel, rfl⟩ : ∃ f, fuel = f + 1 := ⟨fuel - 1, by omega⟩
    have here : value fuel (cs ++ (after ++ ',' :: (ds ++ ']' :: rest))) =
        (x, after ++ ',' :: (ds ++ ']' :: rest)) :=
      value_of_text item (stops_of_blanks trail (stops_of_close (by decide) _)) (by omega)
    have later := (items_blanks trail fuel false (',' :: (ds ++ ']' :: rest))).trans
      (items_of_text row false rest (by omega))
    have read := items_step first lead ⟨c, _, by rw [begins, List.cons_append], shown, inside⟩
      here later
    simpa using read

theorem members_of_text : ∀ {ms : List (QuotedText × Reading)} {cs : List Char}, MemberRow ms cs →
    ∀ {fuel : Nat} (first : Bool) (rest : List Char), 2 * cs.length < fuel →
      members fuel first ((if first then [] else [',']) ++ (cs ++ '\x7d' :: rest)) = (ms, none, rest)
  | _, _, @MemberRow.last m cs named, fuel, first, rest, enough => by
    have size := member_nonempty named
    obtain ⟨fuel, rfl⟩ : ∃ f, fuel = f + 2 := ⟨fuel - 2, by omega⟩
    exact member_of_text named first (stops_of_close (by decide) rest) (by omega)
      (members_end fuel false rest)
  | _, _, @MemberRow.more m ms cs ds named row, fuel, first, rest, enough => by
    simp only [List.length_append, List.length_cons] at enough
    obtain ⟨fuel, rfl⟩ : ∃ f, fuel = f + 1 := ⟨fuel - 1, by omega⟩
    rw [List.append_assoc, List.cons_append]
    exact member_of_text named first (stops_of_close (by decide) _) (by omega)
      (members_of_text row false rest (by omega))

/-- A member is read from its text if the members behind it are. -/
theorem member_of_text : ∀ {m : QuotedText × Reading} {cs : List Char}, Member m cs →
    ∀ {fuel : Nat} {ms : List (QuotedText × Reading)} {tail left : List Char} (first : Bool),
      Numeral.Stops tail → 2 * cs.length < fuel + 1 → members fuel false tail = (ms, none, left) →
        members (fuel + 1) first ((if first then [] else [',']) ++ (cs ++ tail)) =
          (m :: ms, none, left)
  | _, _, @Member.mk q x before name between cs lead after front named gap inner item trail,
      fuel, ms, tail, left, first, stops, enough, later => by
    simp only [List.length_append, List.length_cons] at enough
    obtain ⟨text, rfl, read⟩ := QuotedText.read_quoted named
    obtain ⟨fuel, rfl⟩ : ∃ f, fuel = f + 1 := ⟨fuel - 1, by omega⟩
    have here : value fuel (cs ++ (after ++ tail)) = (x, after ++ tail) :=
      value_of_text item (stops_of_blanks trail stops) (by omega)
    have value : member (fuel + 1) (between ++ ':' :: (lead ++ (cs ++ (after ++ tail)))) =
        (x, after ++ tail) := by
      rw [member_blanks gap, member, skipBlank_of_shown (by decide)]
      exact (value_blanks inner fuel _).trans here
    rw [← members_blanks trail] at later
    have step := members_step first front (read _) value later
    simpa using step

end

theorem quoted_faultless {q : QuotedText} {cs : List Char} (text : Grammar.Quoted q cs) :
    q.fault = none := by
  obtain ⟨_⟩ := text
  rfl

mutual

/-- Whoever skips a value of the grammar finds nothing wrong with it. -/
theorem value_skim : ∀ {r : Reading} {cs : List Char}, Value r cs → r.skim = none
  | _, _, .null | _, _, .true | _, _, .false => rfl
  | _, _, .positive _ | _, _, .negative _ => rfl
  | _, _, .quoted text => quoted_faultless text
  | _, _, .emptyList _ | _, _, .emptyObject _ => rfl
  | _, _, .list row => by rw [skim, items_skim row, Option.none_or]
  | _, _, .object row => by rw [skim, members_skim row, Option.none_or]

theorem items_skim : ∀ {xs : List Reading} {cs : List Char}, ItemRow xs cs → skimItems xs = none
  | _, _, .last _ item _ => by rw [skimItems, value_skim item, skimItems, Option.none_or]
  | _, _, .more _ item _ row => by rw [skimItems, value_skim item, items_skim row, Option.none_or]

theorem members_skim : ∀ {ms : List (QuotedText × Reading)} {cs : List Char}, MemberRow ms cs →
    skimMembers ms = none
  | _, _, .last (.mk _ named _ _ value _) => by
    rw [skimMembers, quoted_faultless named, value_skim value, skimMembers, Option.none_or,
      Option.none_or]
  | _, _, .more (.mk _ named _ _ value _) row => by
    rw [skimMembers, quoted_faultless named, value_skim value, members_skim row, Option.none_or,
      Option.none_or]

end

theorem skim_of_members {ms : List (QuotedText × Reading)} (sound : skimMembers ms = none) :
    ∀ m ∈ ms, m.2.skim = none := by
  induction ms with
  | nil => simp
  | cons m rest ih =>
    rw [skimMembers, Option.or_eq_none_iff, Option.or_eq_none_iff] at sound
    exact List.forall_mem_cons.mpr ⟨sound.1.2, ih sound.2⟩

end Reading

/-- What a text of the grammar says is what is read from it. -/
theorem Document.ofText_of_text {r : Reading} {s : String} (text : Grammar.Document r s) :
    Document.ofText s = ⟨r, true⟩ := by
  cases text with
  | @mk before cs after _ front value trail same =>
    have stops : Numeral.Stops after := by
      have ends : Numeral.Stops [] := by simp [Numeral.Stops]
      simpa using Reading.stops_of_blanks trail ends
    have read : Reading.value (2 * s.toList.length + 2) s.toList = (r, after) := by
      rw [same, Reading.value_blanks front]
      refine Reading.value_of_text value stops ?_
      simp only [List.length_append]
      omega
    have nothing : skipBlank after = [] := List.dropWhile_eq_nil_iff.mpr trail
    simp only [Document.ofText, read, nothing, List.isEmpty_nil]

end SessionFleet
