import SessionFleet.Time.MailDate
/- What the headers of one response say about rate limits.  Values that are missing or that cannot
   be read leave their field unset; no field depends on another's header. -/
namespace SessionFleet

/-- Headers as they came: names in letters of any size, values as bytes. -/
abbrev RawHeaders := List (String × List UInt8)

structure LimitHeaders where
  global : Bool
  limit : Option Nat
  remaining : Option Nat
  /-- when the limit resets -/
  reset : Option Instant
  /-- how long it takes to reset -/
  resetAfter : Option Span
  bucket : Option String
  serverDate : Option Stamp
  deriving DecidableEq, Repr, Inhabited

namespace LimitHeaders

def empty : LimitHeaders := ⟨false, none, none, none, none, none, none⟩

/-- Printable ASCII and tabs. -/
def isTextByte (b : UInt8) : Bool := b = 9 || (0x20 ≤ b && b < 0x7f)

def trim (cs : List Char) : List Char :=
  ((cs.dropWhile MailDate.isSpace).reverse.dropWhile MailDate.isSpace).reverse

/-- The first value whose name matches. -/
def firstValue (headers : RawHeaders) (name : String) : Option (List UInt8) :=
  (headers.find? fun h => h.1.toLower = name).map (·.2)

/-- A value as text without blanks at its ends; a byte that is not text makes it absent. -/
def valueText (bytes : List UInt8) : Option (List Char) :=
  if bytes.all isTextByte then some (trim (bytes.map fun b => Char.ofNat b.toNat)) else none

def text (headers : RawHeaders) (name : String) : Option (List Char) :=
  (firstValue headers name).bind valueText

/-- A number of seconds as an instant, rounded to the nearest millisecond. -/
def instantOf (seconds : Binary64) : Option Instant :=
  Instant.ofMillis? (seconds.mul (Binary64.ofNat 1000)).roundToInt64

/-- A number of seconds that is not negative and below `2 ^ 64`, rounded to the nearest
    nanosecond, a tie going to the even one. -/
def spanOf : Binary64 → Option Span
  | .finite negative m q =>
    let (n, d) := Binary64.ratio m q
    let s := Binary64.nearestEven (n * Span.second) d
    if (negative && m ≠ 0) || Nat.pow 2 64 * Span.second ≤ s then none else some s
  | _ => none

def parse (headers : RawHeaders) : LimitHeaders where
  global := (text headers "x-ratelimit-global").any fun cs => lowerAscii cs = ['t', 'r', 'u', 'e']
  limit := (text headers "x-ratelimit-limit").bind (readWhole 32)
  remaining := (text headers "x-ratelimit-remaining").bind (readWhole 32)
  reset := ((text headers "x-ratelimit-reset").bind Binary64.read).bind instantOf
  resetAfter := ((text headers "x-ratelimit-reset-after").bind Binary64.read).bind spanOf
  bucket := (text headers "x-ratelimit-bucket").map String.ofList
  serverDate := (text headers "date").bind MailDate.read

/-- Everything is there that a bucket needs. -/
def complete (h : LimitHeaders) : Bool :=
  h.limit.isSome && h.remaining.isSome && h.reset.isSome && h.resetAfter.isSome && h.bucket.isSome

end LimitHeaders
end SessionFleet
