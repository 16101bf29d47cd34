import SessionFleet.Error
import SessionFleet.Text.Blank
import SessionFleet.Number.Shortest
import SessionFleet.Url.Reading
/- The settings of a fleet: how shards connect, how long they wait before the next attempt, and how
   they take turns to identify. -/
namespace SessionFleet

structure ConnectionSettings where
  connectTimeout : Span := Span.ofSeconds 10
  maxConnectAttempts : Nat := 10
  breakerThreshold : Nat := 5
  breakerResetTimeout : Span := Span.ofSeconds 60
  shardStartDelay : Span := Span.ofMillis 200
  lowLatency : Bool := false
  deriving DecidableEq, Repr

def describeBool (b : Bool) : String := if b then "true" else "false"

def ConnectionSettings.describe (c : ConnectionSettings) : String :=
  describeRecord "ConnectionConfig"
    [("connect_timeout", c.connectTimeout.text),
     ("max_connect_attempts", toString c.maxConnectAttempts),
     ("circuit_breaker_threshold", toString c.breakerThreshold),
     ("circuit_breaker_reset_timeout", c.breakerResetTimeout.text),
     ("shard_start_delay", c.shardStartDelay.text),
     ("low_latency_mode", describeBool c.lowLatency)]

structure BackoffSettings where
  initialDelay : Span := Span.ofMillis 500
  maxDelay : Span := Span.ofSeconds 30
  multiplier : Binary64 := .ofNat 2
  jitter : Bool := true
  deriving DecidableEq, Repr

namespace BackoffSettings

/-- An attempt's number as the exponent of the multiplier, in 32 signed bits. -/
def exponent (attempt : Nat) : Int := Int.bmod attempt (Nat.pow 2 32)

/-- The delay in milliseconds before it is cut to a whole number. -/
def cappedMillis (b : BackoffSettings) (attempt : Nat) : Binary64 :=
  ((Binary64.ofNat b.initialDelay.millis).mul (b.multiplier.powInt (exponent attempt))).min
    (Binary64.ofNat b.maxDelay.millis)

/-- The delay before an attempt, in whole milliseconds.  With jitter it is the given fraction of
    what it would be without. -/
def delay (b : BackoffSettings) (attempt : Nat) (fraction : Binary64) : Span :=
  let ms := b.cappedMillis attempt
  Span.ofMillis ((if b.jitter then fraction.mul ms else ms).toNatWithin 64)

def describe (b : BackoffSettings) : String :=
  describeRecord "BackoffConfig"
    [("initial_delay", b.initialDelay.text), ("max_delay", b.maxDelay.text),
     ("multiplier", NumberLayout.settings.text b.multiplier), ("jitter", describeBool b.jitter)]

end BackoffSettings

/-- Who decides when a shard may identify: this process, a lock that several processes share, or a
    server that is asked. -/
inductive IdentifyStrategy where
  | local
  | sharedLock (url : String)
  | remoteQueue (url : String) (timeout : Span)
  deriving DecidableEq, Repr

def IdentifyStrategy.describe : IdentifyStrategy → String
  | .local => "Local"
  | .sharedLock url => describeRecord "RedisLock" [("url", describeText url)]
  | .remoteQueue url timeout =>
    describeRecord "RemoteQueue" [("url", describeText url), ("timeout", timeout.text)]

structure IdentifySettings where
  recommendedConcurrency : Nat := 1
  maxConcurrency : Option Nat := none
  strategy : IdentifyStrategy := .local
  deriving DecidableEq, Repr

namespace IdentifySettings

/-- The recommended concurrency, lowered to the cap if there is one. -/
def effectiveConcurrency (i : IdentifySettings) : Nat :=
  match i.maxConcurrency with
  | some cap => min cap i.recommendedConcurrency
  | none => i.recommendedConcurrency

def describe (i : IdentifySettings) : String :=
  describeRecord "IdentifyConfig"
    [("recommended_concurrency", toString i.recommendedConcurrency),
     ("max_concurrency", describeOption toString i.maxConcurrency),
     ("strategy", i.strategy.describe)]

end IdentifySettings

structure GatewaySettings where
  token : String
  intents : Nat := 0
  gatewayUrl : String := "wss://gateway.discord.gg"
  connection : ConnectionSettings := {}
  backoff : BackoffSettings := {}
  identify : IdentifySettings := {}
  deriving DecidableEq, Repr

/-- A fault that is there if a condition is violated. -/
def faultIf (violated : Bool) (f : SettingsFault) : List SettingsFault := if violated then [f] else []

def urlFaults (role url : String) : List SettingsFault :=
  match Url.ofText url with
  | .ok _ => []
  | .error f => [.badUrl role f]

def IdentifyStrategy.faults : IdentifyStrategy → List SettingsFault
  | .local => []
  | .sharedLock url => urlFaults "redis" url
  | .remoteQueue url timeout => urlFaults "identify queue" url ++ faultIf (timeout = 0) .zeroQueueTimeout

def IdentifySettings.faults (i : IdentifySettings) : List SettingsFault :=
  faultIf (i.recommendedConcurrency = 0) .noConcurrency ++
    faultIf (i.maxConcurrency = some 0) .zeroConcurrencyCap ++ i.strategy.faults

namespace GatewaySettings

/-- Every violated condition, in the order in which they are reported. -/
def faults (s : GatewaySettings) : List SettingsFault :=
  faultIf (isBlankText s.token) .missingToken ++
    urlFaults "gateway_url" s.gatewayUrl ++
    faultIf (s.backoff.maxDelay < s.backoff.initialDelay) .delaysReversed ++
    faultIf (s.backoff.multiplier.le (Binary64.ofNat 0)) .multiplierNotPositive ++
    s.identify.faults

/-- The settings as they are, if no condition is violated. -/
def validated (s : GatewaySettings) : Except SettingsFault GatewaySettings :=
  match s.faults with
  | [] => .ok s
  | f :: _ => .error f

/-- The token is never shown. -/
def describe (s : GatewaySettings) : String :=
  describeRecord "GatewayConfig"
    [("token", describeText "***"), ("intents", toString s.intents),
     ("gateway_url", describeText s.gatewayUrl), ("connection", s.connection.describe),
     ("backoff", s.backoff.describe), ("identify", s.identify.describe)]

end GatewaySettings
end SessionFleet
