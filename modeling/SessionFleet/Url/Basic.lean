import SessionFleet.Url.Address
import SessionFleet.Url.Domain
/- Addresses of servers and of what they hold, in parts that are escaped already. -/
namespace SessionFleet

inductive UrlFault where
  | noScheme
  | emptyHost
  | badPort
  | badIPv4
  | badIPv6
  | badName
  | badHostCharacter
  deriving DecidableEq, Repr

def UrlFault.message : UrlFault → String
  | .noScheme => "relative URL without a base"
  | .emptyHost => "empty host"
  | .badPort => "invalid port number"
  | .badIPv4 => "invalid IPv4 address"
  | .badIPv6 => "invalid IPv6 address"
  | .badName => "invalid international domain name"
  | .badHostCharacter => "invalid domain character"

/-- A name may be empty, as in the address of a local file. -/
inductive Host where
  | name (s : String)
  | v4 (n : Nat)
  | v6 (pieces : List Nat)
  deriving DecidableEq, Repr

def Host.text : Host → String
  | .name s => s
  | .v4 n => Address.v4Text n
  | .v6 pieces => "[" ++ Address.v6Text pieces ++ "]"

inductive UrlPath where
  /-- without structure, as in the address of a mailbox -/
  | whole (s : String)
  | segments (ss : List String)
  deriving DecidableEq, Repr

def UrlPath.text : UrlPath → String
  | .whole s => s
  | .segments ss => String.join (ss.map ("/" ++ ·))

structure Url where
  scheme : String
  user : String
  password : String
  /-- absent if the address names no server at all -/
  host : Option Host
  port : Option Nat
  path : UrlPath
  query : Option String
  fragment : Option String
  deriving DecidableEq, Repr

namespace Url

/-- The port that an address of this scheme need not write. -/
def defaultPort (scheme : String) : Option Nat :=
  match scheme with
  | "http" | "ws" => some 80
  | "https" | "wss" => some 443
  | "ftp" => some 21
  | _ => none

/-- Schemes whose addresses always name a server or a file. -/
def isServerScheme (scheme : String) : Bool := (defaultPort scheme).isSome

def credentials (u : Url) : String :=
  if u.user = "" && u.password = "" then ""
  else u.user ++ (if u.password = "" then "" else ":" ++ u.password) ++ "@"

/-- A path that starts with two slashes does not look like a server's name. -/
def authority (u : Url) : String :=
  match u.host with
  | some h => "//" ++ u.credentials ++ h.text ++ ((u.port.map fun p => ":" ++ toString p).getD "")
  | none =>
    match u.path with
    | .segments ("" :: _ :: _) => "/."
    | _ => ""

def text (u : Url) : String :=
  u.scheme ++ ":" ++ u.authority ++ u.path.text ++ ((u.query.map ("?" ++ ·)).getD "") ++
    ((u.fragment.map ("#" ++ ·)).getD "")

/-- The server's name or address, if there is one. -/
def hostText (u : Url) : Option String :=
  match u.host with
  | none | some (.name "") => none
  | some h => some h.text

def withQuery (u : Url) (q : String) : Url := { u with query := some q }

end Url
end SessionFleet
