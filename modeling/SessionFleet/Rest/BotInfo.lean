import SessionFleet.Json.Shape
/- What the server recommends to a fleet that starts: its address, how many shards, and how many of
   them may identify at once. -/
namespace SessionFleet

structure SessionStartLimit where
  total : Nat
  remaining : Nat
  resetAfter : Nat
  maxConcurrency : Nat
  deriving DecidableEq, Repr, Inhabited

structure BotInfo where
  url : String
  shards : Nat
  sessionStartLimit : SessionStartLimit
  deriving DecidableEq, Repr, Inhabited

/-- A required field that has been looked for. -/
def Fault.require {α : Type} (name : String) (slot : Option α) : Except Fault α :=
  Fault.ofShape (Json.require name slot)

namespace SessionStartLimit

structure Slots where
  total : Option Nat
  remaining : Option Nat
  resetAfter : Option Nat
  maxConcurrency : Option Nat

def Slots.put (s : Slots) (name : String) (r : Reading) : Except Fault Slots :=
  if name = "total" then do pure { s with total := ← Reading.once name s.total (r.asWhole 32) }
  else if name = "remaining" then do
    pure { s with remaining := ← Reading.once name s.remaining (r.asWhole 32) }
  else if name = "reset_after" then do
    pure { s with resetAfter := ← Reading.once name s.resetAfter (r.asWhole 64) }
  else if name = "max_concurrency" then do
    pure { s with maxConcurrency := ← Reading.once name s.maxConcurrency (r.asWhole 32) }
  else Reading.skipped s r

def read : Reading → Except Fault SessionStartLimit
  | .object members fault => do
    let s ← Reading.foldMembers Slots.put ⟨none, none, none, none⟩ members
    Fault.raise fault
    let total ← Fault.require "total" s.total
    let remaining ← Fault.require "remaining" s.remaining
    let resetAfter ← Fault.require "reset_after" s.resetAfter
    let maxConcurrency ← Fault.require "max_concurrency" s.maxConcurrency
    pure ⟨total, remaining, resetAfter, maxConcurrency⟩
  | .list items fault => do
    let field (bits i : Nat) := Reading.fieldAt "SessionStartLimit" 4 (Reading.asWhole bits) items fault i
    let total ← field 32 0
    let remaining ← field 32 1
    let resetAfter ← field 64 2
    let maxConcurrency ← field 32 3
    Reading.endOfFields (items.drop 4) fault
    pure ⟨total, remaining, resetAfter, maxConcurrency⟩
  | r => r.wrong (.record "SessionStartLimit")

end SessionStartLimit

namespace BotInfo

structure Slots where
  url : Option String
  shards : Option Nat
  sessionStartLimit : Option SessionStartLimit

def Slots.put (s : Slots) (name : String) (r : Reading) : Except Fault Slots :=
  if name = "url" then do pure { s with url := ← Reading.once name s.url r.asText }
  else if name = "shards" then do pure { s with shards := ← Reading.once name s.shards (r.asWhole 32) }
  else if name = "session_start_limit" then do
    pure { s with
      sessionStartLimit := ← Reading.once name s.sessionStartLimit (SessionStartLimit.read r) }
  else Reading.skipped s r

def read : Reading → Except Fault BotInfo
  | .object members fault => do
    let s ← Reading.foldMembers Slots.put ⟨none, none, none⟩ members
    Fault.raise fault
    let url ← Fault.require "url" s.url
    let shards ← Fault.require "shards" s.shards
    let limit ← Fault.require "session_start_limit" s.sessionStartLimit
    pure ⟨url, shards, limit⟩
  | .list items fault => do
    let url ← Reading.fieldAt "GatewayBotInfo" 3 Reading.asText items fault 0
    let shards ← Reading.fieldAt "GatewayBotInfo" 3 (Reading.asWhole 32) items fault 1
    let limit ← Reading.fieldAt "GatewayBotInfo" 3 SessionStartLimit.read items fault 2
    Reading.endOfFields (items.drop 3) fault
    pure ⟨url, shards, limit⟩
  | r => r.wrong (.record "GatewayBotInfo")

def ofText (s : String) : Except Fault BotInfo := Document.decode read s

end BotInfo
end SessionFleet
