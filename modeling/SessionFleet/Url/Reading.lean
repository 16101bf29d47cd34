import SessionFleet.Url.Basic
import SessionFleet.Url.Escape
/- The reader of addresses: `Url.ofText`.  Blanks and controls at the ends do not count.  Tabs and line
   breaks do not either, except that one behind a drive ends its segment. -/
namespace SessionFleet

namespace Url

def isNoise (c : Char) : Bool := c = '\t' || c = '\n' || c = '\r'

def isEdge (c : Char) : Bool := c.toNat ≤ 0x20

def trimmed (s : String) : List Char :=
  ((s.toList.dropWhile isEdge).reverse.dropWhile isEdge).reverse

def cleaned (cs : List Char) : List Char := cs.filter (!isNoise ·)

/-- What is left after so many characters that count. -/
def dropCounted : Nat → List Char → List Char
  | 0, cs => cs
  | _ + 1, [] => []
  | n + 1, c :: cs => if isNoise c then dropCounted (n + 1) cs else dropCounted n cs

def isSchemeChar (c : Char) : Bool := c.isAlphanum || c = '+' || c = '-' || c = '.'

/-- A letter, then letters, digits, plus, minus and dots up to a colon. -/
def readScheme (cs : List Char) : Option (String × List Char) :=
  let name := cs.takeWhile isSchemeChar
  match name, cs.dropWhile isSchemeChar with
  | c :: _, ':' :: rest => if c.isAlpha then some (String.ofList (lowerAscii name), rest) else none
  | _, _ => none

/-- How the three families of schemes differ. -/
inductive Family where
  | server
  | file
  | other
  deriving DecidableEq

def family (scheme : String) : Family :=
  if scheme = "file" then .file else if isServerScheme scheme then .server else .other

def isSlash (f : Family) (c : Char) : Bool := c = '/' || (c = '\\' && f ≠ .other)

def endsPath (c : Char) : Bool := c = '?' || c = '#'

def endsAuthority (f : Family) (c : Char) : Bool := isSlash f c || endsPath c

def escaped (more cs : List Char) : String := String.ofList (Escape.chars more cs)

/- Path, query and fragment -/

def isDot (s : String) : Bool := s.toLower = "." || s.toLower = "%2e"

def isTwoDots (s : String) : Bool := ["..", ".%2e", "%2e.", "%2e%2e"].contains s.toLower

def splitSegments (f : Family) (cs : List Char) : List (List Char) := cs.splitOnP (isSlash f)

def isDriveMark (c : Char) : Bool := c = ':' || c = '|'

/-- A letter and its mark. -/
def isDrive (cs : List Char) : Bool :=
  match cs with
  | [a, b] => a.isAlpha && isDriveMark b
  | _ => false

/-- A drive stands for itself up to a backslash. -/
def startsWithDrive (s : String) : Bool :=
  match s.toList with
  | a :: b :: rest => isDrive [a, b] && (rest.isEmpty || rest.head? = some '\\')
  | _ => false

/-- A drive has no parent. -/
def parent (path : List String) : List String :=
  if path.getLast?.any startsWithDrive then path else path.dropLast

def segment (cs : List Char) : String := escaped Escape.path (cleaned cs)

/-- A drive with a colon that noise parts from what follows it. -/
def splitDrive (cs : List Char) : Option (List Char × List Char) :=
  let rest := dropCounted 2 cs
  match cleaned cs with
  | a :: ':' :: _ :: _ =>
    if a.isAlpha && rest.head?.any isNoise then some ([a, ':'], rest) else none
  | _ => none

/-- The segments that one segment adds to a path.  What is parted from a drive is taken as it is. -/
def enter (f : Family) (path : List String) (cs : List Char) : List String :=
  let s := segment cs
  match (if f = .file && path.isEmpty then splitDrive cs else none) with
  | some (drive, more) => [segment drive, segment more]
  | none => if isTwoDots s then parent path else if isDot s then path else path ++ [s]

/-- Dots stand for the place reached so far and for its parent; at the end they leave it open. -/
def walk (f : Family) : List String → List (List Char) → List String
  | path, [] => path
  | path, [cs] =>
    let s := segment cs
    enter f path cs ++ (if isTwoDots s || isDot s then [""] else [])
  | path, cs :: rest => walk f (enter f path cs) rest

def readSegments (f : Family) (cs : List Char) : List String :=
  walk f [] (splitSegments f (cs.takeWhile (!endsPath ·)))

/-- The query and the fragment of a text that starts at the end of its path. -/
def readTail (f : Family) (cs : List Char) : Option String × Option String :=
  let fragment (cs : List Char) : Option String := match cs with
    | '#' :: rest => some (escaped Escape.fragment rest)
    | _ => none
  match cs with
  | '?' :: rest =>
    let set := if f = .other then Escape.query else Escape.serverQuery
    (some (escaped set (rest.takeWhile (· ≠ '#'))), fragment (rest.dropWhile (· ≠ '#')))
  | rest => (none, fragment rest)

def tail (f : Family) (cs : List Char) : Option String × Option String :=
  readTail f (cs.dropWhile (!endsPath ·))

/- The server -/

def hostFault {α : Type} (fault : UrlFault) : Option α → Except UrlFault α
  | some a => .ok a
  | none => .error fault

def readBracketed (cs : List Char) : Except UrlFault Host :=
  if cs.getLast? = some ']' then
    (hostFault .badIPv6 (Address.readV6 cs.dropLast)).map .v6
  else .error .badIPv6

def readHost (f : Family) (cs : List Char) : Except UrlFault Host :=
  match cs with
  | '[' :: rest => readBracketed rest
  | _ =>
    if f = .other then
      if cs.any fun c => c ≠ '%' && c.toNat < 0x7f && (c = '\x00' || c = ' ' || Domain.forbidden.contains c) then
        .error .badHostCharacter
      else .ok (.name (escaped [] cs))
    else do
      let name ← hostFault .badName (Domain.ascii (Escape.decoded cs))
      if name.isEmpty then .error .emptyHost
      else if Address.endsInNumber name then (hostFault .badIPv4 (Address.readV4 name)).map .v4
      else .ok (.name (String.ofList name))

/-- A colon inside square brackets belongs to the host. -/
def splitHost (f : Family) : Bool → List Char → List Char × List Char
  | _, [] => ([], [])
  | inside, c :: cs =>
    if endsAuthority f c || (c = ':' && !inside) then ([], c :: cs)
    else
      let (host, rest) := splitHost f (if c = '[' then true else if c = ']' then false else inside) cs
      (c :: host, rest)

def readPort (scheme : String) (cs : List Char) : Except UrlFault (Option Nat × List Char) :=
  let ds := cs.takeWhile isDigit
  let rest := cs.dropWhile isDigit
  let bounded := rest.isEmpty || (rest.head?.map fun c => c = '/' || c = '\\' || endsPath c) = some true
  if 65535 < digitsValue ds || !bounded then .error .badPort
  else
    let port := if ds.isEmpty then none else some (digitsValue ds)
    .ok (if port = defaultPort scheme then none else port, rest)

/-- What stands before the last at-sign, and the text after that sign. -/
def splitCredentials (f : Family) (cs : List Char) : Option (List Char) × List Char :=
  let before := cs.takeWhile (!endsAuthority f ·)
  if before.contains '@' then
    let host := (before.reverse.takeWhile (· ≠ '@')).reverse
    let given := before.take (before.length - host.length - 1)
    (some given, cs.drop (given.length + 1))
  else (none, cs)

def readCredentials (cs : List Char) : String × String :=
  (escaped Escape.credentials (cs.takeWhile (· ≠ ':')),
    escaped Escape.credentials ((cs.dropWhile (· ≠ ':')).drop 1))

/-- The path after a server: there is always one if the scheme is a server's. -/
def pathAfterHost (f : Family) (cs : List Char) : UrlPath :=
  match cs with
  | [] => .segments (if f = .other then [] else [""])
  | c :: rest =>
    if f = .other && endsPath c then .segments []
    else .segments (readSegments f (if isSlash f c then rest else c :: rest))

/-- Reads on after the two slashes. -/
def readServer (scheme : String) (cs : List Char) : Except UrlFault Url := do
  let f := family scheme
  let (given, rest) := splitCredentials f cs
  let (user, password) := readCredentials (given.getD [])
  let (name, rest) := splitHost f false rest
  if name.isEmpty && (f ≠ .other || rest.head? = some ':' || user ≠ "" || password ≠ "" ||
      (given = some [] && !rest.isEmpty)) then .error .emptyHost
  else
    let host ← readHost f name
    let (port, rest) ← match rest with
      | ':' :: rest => readPort scheme rest
      | rest => .ok (none, rest)
    let (query, fragment) := tail f rest
    .ok ⟨scheme, user, password, some host, port, pathAfterHost f rest, query, fragment⟩

def dropEmptyLead : List String → List String
  | "" :: s :: rest => dropEmptyLead (s :: rest)
  | path => path

/-- The host of a file's address and the text after it; the local host is left out. -/
def readFileHost (cs : List Char) : Except UrlFault (Host × List Char) :=
  match cs with
  | a :: b :: rest =>
    if isSlash .file a && isSlash .file b then
      let name := rest.takeWhile (!endsAuthority .file ·)
      if name.isEmpty || isDrive name then .ok (.name "", rest)
      else do
        let host ← readHost .file name
        .ok (if host = .name "localhost" then .name "" else host, rest.drop name.length)
    else .ok (.name "", cs)
  | cs => .ok (.name "", cs)

/-- `noisy` is the text with the characters that do not count. -/
def readFile (noisy : List Char) : Except UrlFault Url := do
  let cs := cleaned noisy
  let (host, rest) ← readFileHost cs
  let slash := rest.head?.any (isSlash .file)
  let path := readSegments .file (dropCounted (cs.length - rest.length + slash.toNat) noisy)
  let (query, fragment) := tail .file rest
  .ok ⟨"file", "", "", some host, none, .segments (dropEmptyLead path), query, fragment⟩

def readOther (scheme : String) (cs : List Char) : Url :=
  let (query, fragment) := tail .other cs
  let path := match cs with
    | '/' :: rest => .segments (readSegments .other rest)
    | cs => .whole (escaped [] (cs.takeWhile (!endsPath ·)))
  ⟨scheme, "", "", none, none, path, query, fragment⟩

def ofText (s : String) : Except UrlFault Url :=
  match readScheme (cleaned (trimmed s)) with
  | none => .error .noScheme
  | some (scheme, rest) =>
    match family scheme with
    | .file => readFile (((trimmed s).dropWhile (· ≠ ':')).drop 1)
    | .server => readServer scheme (rest.dropWhile (isSlash .server))
    | .other =>
      match rest with
      | '/' :: '/' :: rest => readServer scheme rest
      | rest => .ok (readOther scheme rest)

end Url
end SessionFleet
