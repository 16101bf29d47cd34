import SessionFleet.Settings.Gateway
/- The settings of the request client, and the addresses that follow from them. -/
namespace SessionFleet

structure RestSettings where
  token : String
  baseUrl : String := "https://discord.com/api/v10"
  userAgent : String := "ws-gateway-shard/0.1.0"
  requestTimeout : Span := Span.ofSeconds 10
  maxRetries : Nat := 3
  pruneInterval : Span := Span.ofSeconds 60
  deriving DecidableEq, Repr

namespace RestSettings

/-- What marks the token of a bot. -/
def tokenMark : String := "Bot "

def authorization (s : RestSettings) : String :=
  if s.token.startsWith tokenMark then s.token else tokenMark ++ s.token

def faults (s : RestSettings) : List SettingsFault :=
  faultIf (isBlankText s.token) .missingToken ++ urlFaults "base_url" s.baseUrl ++
    faultIf (s.pruneInterval = 0) .zeroPruneInterval

def validated (s : RestSettings) : Except SettingsFault RestSettings :=
  match s.faults with
  | [] => .ok s
  | f :: _ => .error f

/-- The token is never shown. -/
def describe (s : RestSettings) : String :=
  describeRecord "RestConfig"
    [("token", describeText "***"), ("base_url", describeText s.baseUrl),
     ("user_agent", describeText s.userAgent), ("request_timeout", s.requestTimeout.text),
     ("max_retries", toString s.maxRetries), ("bucket_prune_interval", s.pruneInterval.text)]

def isSlashChar (c : Char) : Bool := c = '/'

/-- One slash stands between the base and the path, however many they bring. -/
def url (s : RestSettings) (path : String) : String :=
  String.ofList ((s.baseUrl.toList.reverse.dropWhile isSlashChar).reverse ++
    '/' :: path.toList.dropWhile isSlashChar)

/-- No controls but the tab. -/
def isHeaderText (s : String) : Bool :=
  s.toList.all fun c => c = '\t' || (0x20 ≤ c.toNat && c.toNat ≠ 0x7f)

/-- What keeps a client from being made. -/
def clientError? (s : RestSettings) : Option FleetError :=
  match s.faults with
  | f :: _ => some (.ofSettings f)
  | [] =>
    if !isHeaderText s.authorization then
      some (.protocol "invalid token header: failed to parse header value")
    else if !isHeaderText s.userAgent then some (.http "builder error")
    else none

end RestSettings
end SessionFleet
