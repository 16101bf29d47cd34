import SessionFleet.Proofs.Json.GrammarReads
/- Nothing but the texts of the grammar is read without a fault.

   A reader that finds no fault has taken a text of the grammar and left the rest, so again every
   statement is about a text with more behind it. -/
namespace SessionFleet

open Grammar (Blanks Digits)

namespace QuotedText

theorem escapes_of_simpleEscape {e c : Char} (meant : simpleEscape e = some c) :
    (e, c) ∈ Grammar.escapes := by
  have known : e ∈ ['"', '\\', '/', 'b', 'f', 'n', 'r', 't'] := by
    by_contra unknown
    simp only [List.mem_cons, List.not_mem_nil, or_false, not_or] at unknown
    simp [simpleEscape, unknown] at meant
  simp only [List.mem_cons, List.not_mem_nil, or_false] at known
  rcases known with same | same | same | same | same | same | same | same <;> subst same <;>
    cases meant <;> decide

theorem pieces_push {p : StringPiece} {cs rest : List Char} {found : QuotedText × List Char}
    (piece : Grammar.Piece p cs)
    (later : ∃ inner, Grammar.Pieces found.1.pieces inner ∧ rest = inner ++ '"' :: found.2) :
    ∃ inner, Grammar.Pieces (push p found).1.pieces inner ∧
      cs ++ rest = inner ++ '"' :: (push p found).2 := by
  obtain ⟨inner, pieces, rfl⟩ := later
  exact ⟨cs ++ inner, .cons piece pieces, (List.append_assoc ..).symm⟩

theorem pieces_of_read (cs : List Char) : (read cs).1.fault = none →
    ∃ inner, Grammar.Pieces (read cs).1.pieces inner ∧ cs = inner ++ '"' :: (read cs).2 := by
  fun_induction read cs with
  | case2 rest => exact fun _ => ⟨[], .nil, rfl⟩
  | case4 a b c d rest n value _ ih => exact fun sound => pieces_push (.unit value) (ih sound)
  | case8 e rest _ c meant _ ih =>
    exact fun sound => pieces_push (.escape (escapes_of_simpleEscape meant)) (ih sound)
  | case11 c rest noQuote noSlash shown ih =>
    exact fun sound => pieces_push (.plain noQuote noSlash (Nat.not_lt.mp shown)) (ih sound)
  | _ => exact fun sound => nomatch sound

theorem quoted_of_read {cs rest : List Char} {q : QuotedText} (found : read cs = (q, rest))
    (sound : q.fault = none) : ∃ inner, Grammar.Quoted q ('"' :: inner) ∧ cs = inner ++ rest := by
  have taken := pieces_of_read cs
  rw [found] at taken
  obtain ⟨inner, pieces, split⟩ := taken sound
  obtain ⟨ps, fault⟩ := q
  obtain rfl : fault = none := sound
  exact ⟨inner ++ ['"'], .mk pieces, by rw [split, List.append_assoc]; rfl⟩

end QuotedText

namespace Numeral

theorem digits_takeWhile (cs : List Char) : Digits (cs.takeWhile isDigit) :=
  fun _ member => List.mem_takeWhile_imp member

/-- A number without its digits is no number. -/
theorem missing_digits {p : Prop} [Decidable p] :
    (if p then Reading.cutNumeral else .broken .malformed).skim ≠ none := by
  split <;> exact nofun

theorem sign_of_match {rest left : List Char} {minus : Bool}
    (taken : (match rest with
      | '+' :: r => (false, r)
      | '-' :: r => (true, r)
      | r => (false, r)) = (minus, left)) :
    ∃ sign, Grammar.Sign minus sign ∧ rest = sign ++ left := by
  split at taken <;> cases taken
  · exact ⟨['+'], .plus, rfl⟩
  · exact ⟨['-'], .minus, rfl⟩
  · exact ⟨[], .none, rfl⟩

theorem exponent_of_finish {negative : Bool} {whole fraction cs rest : List Char} {r : Reading}
    (read : finish negative whole fraction cs = (r, rest)) (sound : r.skim = none) :
    ∃ exponent es, r = .numeral ⟨negative, whole, fraction, exponent⟩ ∧
      Grammar.Exponent exponent es ∧ cs = es ++ rest := by
  revert read
  fun_cases finish negative whole fraction cs with
  | case1 | case4 =>
    rintro ⟨⟩
    exact ⟨none, [], rfl, .none, rfl⟩
  | case2 =>
    rintro ⟨⟩
    exact absurd sound missing_digits
  | case3 mark tail marked minus left taken ds present =>
    rintro ⟨⟩
    have written : mark = 'e' ∨ mark = 'E' := by simpa using marked
    obtain ⟨sign, signed, rfl⟩ := sign_of_match taken
    refine ⟨_, mark :: (sign ++ ds), rfl,
      .some written signed (by simpa using present) (digits_takeWhile left), ?_⟩
    rw [List.cons_append, List.append_assoc, List.takeWhile_append_dropWhile]

theorem fraction_of_afterWhole {negative : Bool} {whole cs rest : List Char} {r : Reading}
    (read : afterWhole negative whole cs = (r, rest)) (sound : r.skim = none) :
    ∃ fraction exponent ds es, r = .numeral ⟨negative, whole, fraction, exponent⟩ ∧
      Grammar.Fraction fraction ds ∧ Grammar.Exponent exponent es ∧ cs = ds ++ (es ++ rest) := by
  revert read
  fun_cases afterWhole negative whole cs with
  | case1 =>
    rintro ⟨⟩
    exact absurd sound missing_digits
  | case2 tail ds present =>
    intro read
    obtain ⟨exponent, es, found, written, split⟩ := exponent_of_finish read sound
    refine ⟨ds, exponent, '.' :: ds, es, found,
      .some (by simpa using present) (digits_takeWhile tail), written, ?_⟩
    rw [← split, List.cons_append, List.takeWhile_append_dropWhile]
  | case3 =>
    intro read
    obtain ⟨exponent, es, found, written, split⟩ := exponent_of_finish read sound
    exact ⟨[], exponent, [], es, found, .none, written, split⟩

theorem text_of_unsigned {negative : Bool} {cs rest : List Char} {r : Reading}
    (read : unsigned negative cs = (r, rest)) (sound : r.skim = none) :
    ∃ n text, r = .numeral n ∧ Grammar.Unsigned negative n text ∧ cs = text ++ rest := by
  revert read
  fun_cases unsigned negative cs with
  | case1 | case2 | case5 =>
    rintro ⟨⟩
    cases sound
  | case3 tail =>
    intro read
    obtain ⟨fraction, exponent, ds, es, found, middle, back, split⟩ :=
      fraction_of_afterWhole read sound
    exact ⟨_, ['0'] ++ (ds ++ es), found, .mk .zero middle back, by simp [split]⟩
  | case4 d tail notZero first =>
    intro read
    obtain ⟨fraction, exponent, ds, es, found, middle, back, split⟩ :=
      fraction_of_afterWhole read sound
    refine ⟨_, (d :: tail.takeWhile isDigit) ++ (ds ++ es), found,
      .mk (.more first notZero (digits_takeWhile tail)) middle back, ?_⟩
    rw [List.append_assoc, List.append_assoc, ← split, List.cons_append,
      List.takeWhile_append_dropWhile]

end Numeral

namespace Reading

open Grammar (Value ItemRow MemberRow Member)

theorem blanks_takeWhile (cs : List Char) : Blanks (cs.takeWhile isBlank) :=
  fun _ member => List.mem_takeWhile_imp member

/-- Blanks, and what stands behind them. -/
theorem blanks_of_skip {cs rest : List Char} (skipped : skipBlank cs = rest) :
    ∃ before, Blanks before ∧ cs = before ++ rest :=
  ⟨cs.takeWhile isBlank, blanks_takeWhile cs, by
    rw [← skipped, skipBlank, List.takeWhile_append_dropWhile]⟩

theorem word_of_keyword {found r : Reading} {word cs rest : List Char}
    (read : keyword found word cs = (r, rest)) (sound : r.skim = none) :
    r = found ∧ cs = word ++ rest := by
  induction word generalizing cs with
  | nil =>
    cases read
    exact ⟨rfl, rfl⟩
  | cons e es ih =>
    cases cs with
    | nil =>
      cases read
      cases sound
    | cons c cs =>
      rw [keyword] at read
      split at read
      · rename_i same
        obtain ⟨kept, split⟩ := ih read
        exact ⟨kept, by rw [same, split, List.cons_append]⟩
      · cases read
        cases sound

/-- A row up to its closing bracket; before one that goes on stands a comma. -/
def Closes {α : Type} (Row : List α → List Char → Prop) (close : Char) (first : Bool) (xs : List α)
    (cs rest : List Char) : Prop :=
  ∃ before, Blanks before ∧ (xs = [] ∧ cs = before ++ close :: rest ∨
    ∃ row, Row xs row ∧ cs = (if first then row else before ++ ',' :: row) ++ close :: rest)

/-- What is found without a fault has been taken from a text of the grammar. -/
structure Sound (fuel : Nat) : Prop where
  value : ∀ {cs rest : List Char} {r : Reading}, value fuel cs = (r, rest) → r.skim = none →
    ∃ before text, Blanks before ∧ Value r text ∧ cs = before ++ (text ++ rest)
  items : ∀ {first : Bool} {cs rest : List Char} {xs : List Reading},
    items fuel first cs = (xs, none, rest) → skimItems xs = none →
      Closes ItemRow ']' first xs cs rest
  members : ∀ {first : Bool} {cs rest : List Char} {ms : List (QuotedText × Reading)},
    members fuel first cs = (ms, none, rest) → skimMembers ms = none →
      Closes MemberRow '\x7d' first ms cs rest
  member : ∀ {cs rest : List Char} {r : Reading}, member fuel cs = (r, rest) → r.skim = none →
    ∃ between lead text, Blanks between ∧ Blanks lead ∧ Value r text ∧
      cs = between ++ ':' :: (lead ++ (text ++ rest))

variable {fuel : Nat}

theorem blanks_append {first later : List Char} (front : Blanks first) (back : Blanks later) :
    Blanks (first ++ later) := by
  intro c member
  rcases List.mem_append.mp member with here | there
  · exact front c here
  · exact back c there

/-- A row goes on from its first character, or from the comma. -/
theorem closes_of_row {α : Type} {Row : List α → List Char → Prop} {close c : Char} {xs : List α}
    {before more rest : List Char} {first : Bool} (blanks : Blanks before)
    (comma : (first || decide (c = ',')) = true)
    (row : ∀ lead, Blanks lead → ∃ row, Row xs row ∧
      lead ++ (if first then c :: more else more) = row ++ close :: rest) :
    Closes Row close first xs (before ++ c :: more) rest := by
  cases first with
  | true =>
    obtain ⟨row, text, split⟩ := row before blanks
    exact ⟨before, blanks, .inr ⟨row, text, split⟩⟩
  | false =>
    obtain rfl : c = ',' := by simpa using comma
    obtain ⟨row, text, split⟩ := row [] nofun
    have split : more = row ++ close :: rest := split
    exact ⟨before, blanks, .inr ⟨row, text, by simp [split]⟩⟩

theorem item_row {x : Reading} {xs : List Reading} {before text mid rest : List Char}
    (lead : Blanks before) (item : Value x text) (tail : Closes ItemRow ']' false xs mid rest) :
    ∃ row, ItemRow (x :: xs) row ∧ before ++ (text ++ mid) = row ++ ']' :: rest := by
  obtain ⟨after, trail, ⟨rfl, rfl⟩ | ⟨row, later, rfl⟩⟩ := tail
  · exact ⟨_, .last lead item trail, by simp⟩
  · exact ⟨_, .more lead item trail later, by simp⟩

theorem member_row {m : QuotedText × Reading} {ms : List (QuotedText × Reading)}
    {before name between lead text mid rest : List Char} (front : Blanks before)
    (named : Grammar.Quoted m.1 name) (gap : Blanks between) (inner : Blanks lead)
    (item : Value m.2 text) (tail : Closes MemberRow '\x7d' false ms mid rest) :
    ∃ row, MemberRow (m :: ms) row ∧
      before ++ (name ++ (between ++ ':' :: (lead ++ (text ++ mid)))) = row ++ '\x7d' :: rest := by
  obtain ⟨after, trail, ⟨rfl, rfl⟩ | ⟨row, later, rfl⟩⟩ := tail
  · exact ⟨_, .last (.mk front named gap inner item trail), by simp⟩
  · exact ⟨_, .more (.mk front named gap inner item trail) later, by simp⟩

theorem items_sound (below : ∀ m < fuel, Sound m) {first : Bool} {cs rest : List Char}
    {xs : List Reading} (read : items fuel first cs = (xs, none, rest))
    (sound : skimItems xs = none) : Closes ItemRow ']' first xs cs rest := by
  revert read
  fun_cases items fuel first cs with
  | case3 fuel _ _ tail skipped =>
    rintro ⟨⟩
    obtain ⟨before, blanks, rfl⟩ := blanks_of_skip skipped
    exact ⟨before, blanks, .inl ⟨rfl, rfl⟩⟩
  | case4 fuel _ _ c more skipped other comma x mid head xs fault left tail =>
    rintro ⟨⟩
    obtain ⟨before, blanks, rfl⟩ := blanks_of_skip skipped
    obtain ⟨here, later⟩ := Option.or_eq_none_iff.mp sound
    have inner := below fuel (Nat.lt_succ_self fuel)
    obtain ⟨gap, text, lead, item, split⟩ := inner.value head here
    refine closes_of_row blanks comma fun front clear => ?_
    rw [split, ← List.append_assoc]
    exact item_row (blanks_append clear lead) item (inner.items tail later)
  | _ => exact nofun

theorem members_sound (below : ∀ m < fuel, Sound m) {first : Bool} {cs rest : List Char}
    {ms : List (QuotedText × Reading)} (read : members fuel first cs = (ms, none, rest))
    (sound : skimMembers ms = none) : Closes MemberRow '\x7d' first ms cs rest := by
  revert read
  fun_cases members fuel first cs with
  | case3 fuel _ _ tail skipped =>
    rintro ⟨⟩
    obtain ⟨before, blanks, rfl⟩ := blanks_of_skip skipped
    exact ⟨before, blanks, .inl ⟨rfl, rfl⟩⟩
  | case5 fuel _ _ c more skipped other comma text q behind name x mid value ms fault left tail
      opened =>
    rintro ⟨⟩
    obtain ⟨before, blanks, rfl⟩ := blanks_of_skip skipped
    obtain ⟨gap, lead, split⟩ := blanks_of_skip opened
    obtain ⟨here, later⟩ := Option.or_eq_none_iff.mp sound
    obtain ⟨whole, item⟩ := Option.or_eq_none_iff.mp here
    obtain ⟨inner, named, rfl⟩ := QuotedText.quoted_of_read name whole
    have under := below fuel (Nat.lt_succ_self fuel)
    obtain ⟨between, ahead, inside, clear, clear', itemText, rfl⟩ := under.member value item
    refine closes_of_row blanks comma fun front free => ?_
    obtain ⟨row, written, together⟩ := member_row (m := (q, x)) (blanks_append free lead) named clear
      clear' itemText (under.members tail later)
    exact ⟨row, written, by rw [split, ← together]; simp⟩
  | _ => exact nofun

theorem member_sound (below : ∀ m < fuel, Sound m) {cs rest : List Char} {r : Reading}
    (read : member fuel cs = (r, rest)) (sound : r.skim = none) :
    ∃ between lead text, Blanks between ∧ Blanks lead ∧ Value r text ∧
      cs = between ++ ':' :: (lead ++ (text ++ rest)) := by
  revert read
  fun_cases member fuel cs with
  | case3 fuel _ tail skipped =>
    intro read
    obtain ⟨between, gap, rfl⟩ := blanks_of_skip skipped
    obtain ⟨lead, text, inner, item, rfl⟩ :=
      (below fuel (Nat.lt_succ_self fuel)).value read sound
    exact ⟨between, lead, text, gap, inner, item, rfl⟩
  | _ =>
    rintro ⟨⟩
    cases sound

theorem list_text {xs : List Reading} {tail rest : List Char}
    (closes : Closes ItemRow ']' true xs tail rest) :
    ∃ text, Value (.list xs none) text ∧ '[' :: tail = text ++ rest := by
  obtain ⟨before, blanks, ⟨rfl, rfl⟩ | ⟨row, items, rfl⟩⟩ := closes
  · exact ⟨_, .emptyList blanks, by simp⟩
  · exact ⟨_, .list items, by simp⟩

theorem object_text {ms : List (QuotedText × Reading)} {tail rest : List Char}
    (closes : Closes MemberRow '\x7d' true ms tail rest) :
    ∃ text, Value (.object ms none) text ∧ '\x7b' :: tail = text ++ rest := by
  obtain ⟨before, blanks, ⟨rfl, rfl⟩ | ⟨row, members, rfl⟩⟩ := closes
  · exact ⟨_, .emptyObject blanks, by simp⟩
  · exact ⟨_, .object members, by simp⟩

theorem keyword_text {found r : Reading} {c : Char} {word tail rest : List Char}
    (written : Value found (c :: word)) (read : keyword found word tail = (r, rest))
    (sound : r.skim = none) : ∃ text, Value r text ∧ c :: tail = text ++ rest := by
  obtain ⟨rfl, rfl⟩ := word_of_keyword read sound
  exact ⟨c :: word, written, rfl⟩

theorem value_sound (below : ∀ m < fuel, Sound m) {cs rest : List Char} {r : Reading}
    (read : value fuel cs = (r, rest)) (sound : r.skim = none) :
    ∃ before text, Blanks before ∧ Value r text ∧ cs = before ++ (text ++ rest) := by
  -- blanks first, and then one value that begins with its own character
  have behind : ∀ {c tail}, skipBlank cs = c :: tail →
      (∃ text, Value r text ∧ c :: tail = text ++ rest) →
        ∃ before text, Blanks before ∧ Value r text ∧ cs = before ++ (text ++ rest) := by
    intro c tail skipped taken
    obtain ⟨before, blanks, rfl⟩ := blanks_of_skip skipped
    obtain ⟨text, value, split⟩ := taken
    exact ⟨before, text, blanks, value, by rw [split]⟩
  revert read
  fun_cases value fuel cs with
  | case1 | case2 | case11 =>
    rintro ⟨⟩
    cases sound
  | case3 fuel _ tail q left name skipped =>
    rintro ⟨⟩
    obtain ⟨inner, named, rfl⟩ := QuotedText.quoted_of_read name sound
    exact behind skipped ⟨_, .quoted named, rfl⟩
  | case4 fuel _ tail xs fault left row =>
    rename_i skipped
    rintro ⟨⟩
    obtain ⟨whole, rfl⟩ := Option.or_eq_none_iff.mp sound
    exact behind skipped (list_text ((below fuel (Nat.lt_succ_self fuel)).items row whole))
  | case5 fuel _ tail ms fault left row =>
    rename_i skipped
    rintro ⟨⟩
    obtain ⟨whole, rfl⟩ := Option.or_eq_none_iff.mp sound
    exact behind skipped (object_text ((below fuel (Nat.lt_succ_self fuel)).members row whole))
  | case6 =>
    rename_i skipped
    exact fun read => behind skipped (keyword_text .null read sound)
  | case7 =>
    rename_i skipped
    exact fun read => behind skipped (keyword_text .true read sound)
  | case8 =>
    rename_i skipped
    exact fun read => behind skipped (keyword_text .false read sound)
  | case9 =>
    rename_i skipped
    intro read
    obtain ⟨n, text, rfl, written, rfl⟩ := Numeral.text_of_unsigned read sound
    exact behind skipped ⟨_, .negative written, rfl⟩
  | case10 =>
    rename_i skipped
    intro read
    obtain ⟨n, text, rfl, written, split⟩ := Numeral.text_of_unsigned read sound
    exact behind skipped ⟨text, .positive written, split⟩

theorem all_sound (fuel : Nat) : Sound fuel := by
  induction fuel using Nat.strongRecOn with
  | ind fuel below =>
    exact ⟨value_sound below, items_sound below, members_sound below, member_sound below⟩

end Reading

/-- A text is read to its end without a fault just if the grammar has it. -/
theorem Document.ofText_iff {r : Reading} {s : String} :
    Document.ofText s = ⟨r, true⟩ ∧ r.skim = none ↔ Grammar.Document r s := by
  constructor
  · rintro ⟨read, sound⟩
    rcases found : Reading.value (2 * s.toList.length + 2) s.toList with ⟨root, rest⟩
    simp only [Document.ofText, found, Document.mk.injEq, List.isEmpty_iff] at read
    obtain ⟨rfl, nothing⟩ := read
    obtain ⟨before, text, front, value, split⟩ := (Reading.all_sound _).value found sound
    have trail : Blanks rest := List.dropWhile_eq_nil_iff.mp nothing
    exact .mk front value trail split
  · intro text
    refine ⟨ofText_of_text text, ?_⟩
    obtain ⟨_, value, _, _⟩ := text
    exact Reading.value_skim value

end SessionFleet
