import SessionFleet.Proofs.Json.ReadBack
/- The grammar of JSON texts, with blanks wherever they may stand.

   What a text says is told by a reading without faults: which names and values stand there, how a
   number is written and which pieces a string has.  Blanks, and the ways to write one piece, are
   not told. -/
namespace SessionFleet
namespace Grammar

def Blanks (cs : List Char) : Prop := ∀ c ∈ cs, isBlank c = true

instance (cs : List Char) : Decidable (Blanks cs) :=
  decidable_of_iff (cs.all isBlank = true) List.all_eq_true

/-- The letters that stand for a character behind a backslash. -/
def escapes : List (Char × Char) :=
  [('"', '"'), ('\\', '\\'), ('/', '/'), ('b', '\x08'), ('f', '\x0c'), ('n', '\n'), ('r', '\r'),
    ('t', '\t')]

inductive Piece : StringPiece → List Char → Prop where
  | plain {c : Char} (noQuote : c ≠ '"') (noSlash : c ≠ '\\') (shown : 32 ≤ c.toNat) :
      Piece (.plain c) [c]
  | escape {e c : Char} (meant : (e, c) ∈ escapes) : Piece (.plain c) ['\\', e]
  | unit {a b c d : Char} {n : Nat} (value : hexUnit a b c d = some n) :
      Piece (.unit n) ['\\', 'u', a, b, c, d]

inductive Pieces : List StringPiece → List Char → Prop where
  | nil : Pieces [] []
  | cons {p : StringPiece} {ps : List StringPiece} {cs ds : List Char} (first : Piece p cs)
      (rest : Pieces ps ds) : Pieces (p :: ps) (cs ++ ds)

inductive Quoted : QuotedText → List Char → Prop where
  | mk {ps : List StringPiece} {cs : List Char} (inside : Pieces ps cs) :
      Quoted ⟨ps, none⟩ ('"' :: (cs ++ ['"']))

def Digits (ds : List Char) : Prop := ∀ d ∈ ds, isDigit d = true

/-- No digit follows a leading zero. -/
inductive Whole : List Char → Prop where
  | zero : Whole ['0']
  | more {d : Char} {ds : List Char} (first : isDigit d = true) (notZero : d ≠ '0')
      (rest : Digits ds) : Whole (d :: ds)

inductive Fraction : List Char → List Char → Prop where
  | none : Fraction [] []
  | some {ds : List Char} (present : ds ≠ []) (digits : Digits ds) : Fraction ds ('.' :: ds)

inductive Sign : Bool → List Char → Prop where
  | none : Sign false []
  | plus : Sign false ['+']
  | minus : Sign true ['-']

inductive Exponent : Option (Bool × List Char) → List Char → Prop where
  | none : Exponent none []
  | some {mark : Char} {minus : Bool} {sign ds : List Char} (marked : mark = 'e' ∨ mark = 'E')
      (signed : Sign minus sign) (present : ds ≠ []) (digits : Digits ds) :
      Exponent (some (minus, ds)) (mark :: (sign ++ ds))

/-- A number behind its sign. -/
inductive Unsigned (negative : Bool) : Numeral → List Char → Prop where
  | mk {whole fraction ds es : List Char} {exponent : Option (Bool × List Char)}
      (front : Whole whole) (middle : Fraction fraction ds) (back : Exponent exponent es) :
      Unsigned negative ⟨negative, whole, fraction, exponent⟩ (whole ++ (ds ++ es))

mutual

inductive Value : Reading → List Char → Prop where
  | null : Value .null ['n', 'u', 'l', 'l']
  | true : Value (.bool true) ['t', 'r', 'u', 'e']
  | false : Value (.bool false) ['f', 'a', 'l', 's', 'e']
  | positive {n : Numeral} {cs : List Char} (digits : Unsigned false n cs) : Value (.numeral n) cs
  | negative {n : Numeral} {cs : List Char} (digits : Unsigned true n cs) :
      Value (.numeral n) ('-' :: cs)
  | quoted {q : QuotedText} {cs : List Char} (text : Quoted q cs) : Value (.quoted q) cs
  | emptyList {cs : List Char} (blanks : Blanks cs) : Value (.list [] none) ('[' :: (cs ++ [']']))
  | list {items : List Reading} {cs : List Char} (row : ItemRow items cs) :
      Value (.list items none) ('[' :: (cs ++ [']']))
  | emptyObject {cs : List Char} (blanks : Blanks cs) :
      Value (.object [] none) ('\x7b' :: (cs ++ ['\x7d']))
  | object {members : List (QuotedText × Reading)} {cs : List Char} (row : MemberRow members cs) :
      Value (.object members none) ('\x7b' :: (cs ++ ['\x7d']))

/-- One item or several, with commas between them. -/
inductive ItemRow : List Reading → List Char → Prop where
  | last {x : Reading} {before cs after : List Char} (lead : Blanks before) (item : Value x cs)
      (trail : Blanks after) : ItemRow [x] (before ++ (cs ++ after))
  | more {x : Reading} {xs : List Reading} {before cs after ds : List Char} (lead : Blanks before)
      (item : Value x cs) (trail : Blanks after) (rest : ItemRow xs ds) :
      ItemRow (x :: xs) (before ++ (cs ++ (after ++ ',' :: ds)))

inductive MemberRow : List (QuotedText × Reading) → List Char → Prop where
  | last {m : QuotedText × Reading} {cs : List Char} (member : Member m cs) : MemberRow [m] cs
  | more {m : QuotedText × Reading} {ms : List (QuotedText × Reading)} {cs ds : List Char}
      (member : Member m cs) (rest : MemberRow ms ds) : MemberRow (m :: ms) (cs ++ ',' :: ds)

inductive Member : QuotedText × Reading → List Char → Prop where
  | mk {q : QuotedText} {x : Reading} {before name between cs lead after : List Char}
      (front : Blanks before) (named : Quoted q name) (gap : Blanks between) (inner : Blanks lead)
      (value : Value x cs) (trail : Blanks after) :
      Member (q, x) (before ++ (name ++ (between ++ ':' :: (lead ++ (cs ++ after)))))

end

/-- A text that holds one value and nothing else. -/
inductive Document : Reading → String → Prop where
  | mk {r : Reading} {before cs after : List Char} {s : String} (front : Blanks before)
      (value : Value r cs) (trail : Blanks after) (text : s.toList = before ++ (cs ++ after)) :
      Document r s

end Grammar
end SessionFleet
