import SessionFleet.Text.Hidden
/- Text as it appears in a description: between quotes, with escapes for the quote, the backslash
   and every character that would not show.  Records show their fields by name. -/
namespace SessionFleet

def describeChar (c : Char) : List Char :=
  if c = '"' then ['\\', '"']
  else if c = '\\' then ['\\', '\\']
  else if c = '\n' then ['\\', 'n']
  else if c = '\r' then ['\\', 'r']
  else if c = '\t' then ['\\', 't']
  else if c = '\x00' then ['\\', '0']
  else if Hidden.contains c.toNat then
    ['\\', 'u', '\x7b'] ++ Nat.toDigits 16 c.toNat ++ ['\x7d']
  else [c]

def describeText (s : String) : String :=
  String.ofList ('"' :: (s.toList.flatMap describeChar ++ ['"']))

def describeOption {α : Type} (describe : α → String) : Option α → String
  | none => "None"
  | some a => "Some(" ++ describe a ++ ")"

/-- A name, then its fields between braces. -/
def describeRecord (name : String) (fields : List (String × String)) : String :=
  name ++ " \x7b " ++ ", ".intercalate (fields.map fun f => f.1 ++ ": " ++ f.2) ++ " \x7d"

end SessionFleet
