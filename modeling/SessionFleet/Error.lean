import SessionFleet.Time.Span
import SessionFleet.Text.Described
import SessionFleet.Url.Basic
/- Everything that can go wrong, with its text and with the kind by which a handler decides. -/
namespace SessionFleet

/-- The settings that a complaint is about. -/
inductive SettingsGroup where
  | token
  | url
  | backoff
  | identify
  | rest
  | shards
  deriving DecidableEq, Repr

def SettingsGroup.message (g : SettingsGroup) (detail : String) : String :=
  match g with
  | .token => "A bot token is required"
  | .url => "Invalid URL: " ++ detail
  | .backoff => "Invalid backoff configuration: " ++ detail
  | .identify => "Invalid identify configuration: " ++ detail
  | .rest => "Invalid REST configuration: " ++ detail
  | .shards => "Invalid shard range: " ++ detail

/-- The first condition that settings violate. -/
inductive SettingsFault where
  | missingToken
  | badUrl (role : String) (fault : UrlFault)
  | delaysReversed
  | multiplierNotPositive
  | noConcurrency
  | zeroConcurrencyCap
  | zeroQueueTimeout
  | zeroPruneInterval
  | badShards (first last total : Nat)
  deriving DecidableEq, Repr

namespace SettingsFault

def group : SettingsFault → SettingsGroup
  | .missingToken => .token
  | .badUrl _ _ => .url
  | .delaysReversed | .multiplierNotPositive => .backoff
  | .noConcurrency | .zeroConcurrencyCap | .zeroQueueTimeout => .identify
  | .zeroPruneInterval => .rest
  | .badShards _ _ _ => .shards

def detail : SettingsFault → String
  | .missingToken => ""
  | .badUrl role fault => role ++ ": " ++ fault.message
  | .delaysReversed => "max_delay must be >= initial_delay"
  | .multiplierNotPositive => "multiplier must be > 0"
  | .noConcurrency => "recommended_concurrency cannot be 0"
  | .zeroConcurrencyCap => "max_concurrency cannot be 0"
  | .zeroQueueTimeout => "queue timeout must be > 0"
  | .zeroPruneInterval => "bucket_prune_interval must be > 0"
  | .badShards first last total => toString first ++ "..=" ++ toString last ++ " of " ++ toString total

end SettingsFault

/-- How a handler tells errors apart. -/
inductive ErrorKind where
  | webSocket
  | connectionFailed
  | protocol
  | shuttingDown
  | breakerOpen
  | rateLimited
  | http
  | store
  | other
  deriving DecidableEq, Repr

inductive FleetError where
  | webSocket (detail : String)
  | connectionFailed (attempts : Nat) (last : String)
  | protocol (detail : String)
  | json (detail : String)
  | shuttingDown
  | channelSend (detail : String)
  | breakerOpen (failures : Nat)
  | rateLimited (endpoint : String) (retryAfter : Option Span)
  | http (detail : String)
  | store (detail : String)
  | settings (group : SettingsGroup) (detail : String)
  deriving DecidableEq, Repr

namespace FleetError

def ofSettings (f : SettingsFault) : FleetError := .settings f.group f.detail

def kind : FleetError → ErrorKind
  | .webSocket _ => .webSocket
  | .connectionFailed _ _ => .connectionFailed
  | .protocol _ | .json _ => .protocol
  | .shuttingDown => .shuttingDown
  | .breakerOpen _ => .breakerOpen
  | .rateLimited _ _ => .rateLimited
  | .http _ => .http
  | .store _ => .store
  | .channelSend _ | .settings _ _ => .other

def message : FleetError → String
  | .webSocket d => "WebSocket error: " ++ d
  | .connectionFailed n last => "Connection failed after " ++ toString n ++ " attempts: " ++ last
  | .protocol d => "Protocol error: " ++ d
  | .json d => "JSON error: " ++ d
  | .shuttingDown => "Cluster is shutting down"
  | .channelSend d => "Channel send error: " ++ d
  | .breakerOpen n => "Circuit breaker open after " ++ toString n ++ " consecutive failures"
  | .rateLimited endpoint after =>
    "Rate limited on " ++ endpoint ++ " (retry after " ++ describeOption Span.text after ++ ")"
  | .http d => "HTTP error: " ++ d
  | .store d => "Store error: " ++ d
  | .settings g d => g.message d

end FleetError
end SessionFleet
