import SessionFleet.Json.Value
import SessionFleet.Number.Shortest
/- Compact JSON text: no blanks, the members in the order of the value, and an escape for the
   quote, the backslash and the control characters below the blank only. -/
namespace SessionFleet

def hexDigit (n : Nat) : Char := Nat.digitChar (n % 16)

namespace Json

def escapeChar (c : Char) : List Char :=
  if c = '"' then ['\\', '"']
  else if c = '\\' then ['\\', '\\']
  else if c = '\n' then ['\\', 'n']
  else if c = '\r' then ['\\', 'r']
  else if c = '\t' then ['\\', 't']
  else if c = '\x08' then ['\\', 'b']
  else if c = '\x0c' then ['\\', 'f']
  else if c.toNat < 32 then ['\\', 'u', '0', '0', hexDigit (c.toNat / 16), hexDigit c.toNat]
  else [c]

def quote (s : String) : List Char := '"' :: (s.toList.flatMap escapeChar ++ ['"'])

def wholeChars : Int → List Char
  | .ofNat n => Nat.toDigits 10 n
  | .negSucc n => '-' :: Nat.toDigits 10 (n + 1)

def numberChars : JsonNumber → List Char
  | .whole n => wholeChars n
  | .double x => (NumberLayout.json.text x).toList

mutual

def chars : Json → List Char
  | .null => ['n', 'u', 'l', 'l']
  | .bool b => if b then ['t', 'r', 'u', 'e'] else ['f', 'a', 'l', 's', 'e']
  | .number n => numberChars n
  | .text s => quote s
  | .list items => '[' :: (itemChars items ++ [']'])
  | .object members => '\x7b' :: (memberChars members ++ ['\x7d'])

def itemChars : List Json → List Char
  | [] => []
  | [x] => chars x
  | x :: y :: rest => chars x ++ ',' :: itemChars (y :: rest)

def memberChars : List (String × Json) → List Char
  | [] => []
  | [(n, x)] => quote n ++ ':' :: chars x
  | (n, x) :: m :: rest => quote n ++ ':' :: (chars x ++ ',' :: memberChars (m :: rest))

end

def print (v : Json) : String := String.ofList (chars v)

end Json
end SessionFleet
