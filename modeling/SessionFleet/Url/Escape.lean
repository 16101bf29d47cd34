import SessionFleet.Number.Reading
/- Percent escapes.  A character that may not stand for itself is written as its UTF-8 bytes, each
   a percent sign and two hexadecimal digits. -/
namespace SessionFleet

namespace Escape

def upperHexDigit (n : Nat) : Char := (Nat.digitChar (n % 16)).toUpper

def byte (b : UInt8) : List Char := ['%', upperHexDigit (b.toNat / 16), upperHexDigit b.toNat]

/-- Controls and everything beyond ASCII are always escaped, and what else is asked for. -/
def char (more : List Char) (c : Char) : List Char :=
  if c.toNat < 0x20 || 0x7e < c.toNat || more.contains c then (String.utf8EncodeChar c).flatMap byte
  else [c]

def chars (more : List Char) (cs : List Char) : List Char := cs.flatMap (char more)

def fragment : List Char := [' ', '"', '<', '>', '`']

def query : List Char := [' ', '"', '#', '<', '>']

/-- In schemes with a known server address the quote is escaped too. -/
def serverQuery : List Char := query ++ ['\'']

def path : List Char := fragment ++ ['#', '?', '\x7b', '\x7d']

def credentials : List Char := path ++ ['/', ':', ';', '=', '@', '[', '\\', ']', '^', '|']

/-- The bytes of a text in which escapes stand for their bytes; a percent sign that starts no
    escape stands for itself. -/
def decoded : List Char → List UInt8
  | [] => []
  | '%' :: a :: b :: rest =>
    match hexValue a, hexValue b with
    | some x, some y => UInt8.ofNat (16 * x + y) :: decoded rest
    | _, _ => 0x25 :: decoded (a :: b :: rest)
  | c :: rest => String.utf8EncodeChar c ++ decoded rest

end Escape
end SessionFleet
