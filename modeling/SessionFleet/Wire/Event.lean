import SessionFleet.Wire.Outbound
/- Events decoded from a name and a payload.  Payloads of the kinds that are passed on are not
   looked into, beyond being objects. -/
namespace SessionFleet

structure Account where
  id : String
  username : Option String
  deriving DecidableEq, Repr, Inhabited

structure Application where
  id : String
  deriving DecidableEq, Repr, Inhabited

/-- The session that the server has set up. -/
structure Ready where
  session : String
  user : Account
  application : Option Application
  deriving DecidableEq, Repr, Inhabited

namespace Account

def ofJson : Json → Except Mismatch Account
  | .list items =>
    match items with
    | [] => .error (.tooShort 0 "CurrentUser" 2)
    | [id] => do pure ⟨← id.asText, none⟩
    | id :: name :: rest => do
      let id ← id.asText
      let name ← name.asOptional Json.asText
      if rest.isEmpty then .ok ⟨id, name⟩ else .error (.tooLong (rest.length + 2))
  | .object members => do
    let id ← Json.field members "id" Json.asText
    let name ← Json.field members "username" (Json.asOptional Json.asText)
    let id ← Json.require "id" id
    pure ⟨id, name.getD none⟩
  | v => v.wrong (.record "CurrentUser")

end Account

namespace Application

def ofJson : Json → Except Mismatch Application
  | .list items =>
    match items with
    | [] => .error (.tooShort 0 "ApplicationInfo" 1)
    | id :: rest => do
      let id ← id.asText
      if rest.isEmpty then .ok ⟨id⟩ else .error (.tooLong (rest.length + 1))
  | .object members => do
    let id ← Json.field members "id" Json.asText
    let id ← Json.require "id" id
    pure ⟨id⟩
  | v => v.wrong (.record "ApplicationInfo")

end Application

namespace Ready

def ofJson : Json → Except Mismatch Ready
  | .list items =>
    match items with
    | [] => .error (.tooShort 0 "Ready" 3)
    | [session] => do
      let _ ← session.asText
      .error (.tooShort 1 "Ready" 3)
    | [session, user] => do pure ⟨← session.asText, ← Account.ofJson user, none⟩
    | session :: user :: application :: rest => do
      let session ← session.asText
      let user ← Account.ofJson user
      let application ← application.asOptional Application.ofJson
      if rest.isEmpty then .ok ⟨session, user, application⟩ else .error (.tooLong (rest.length + 3))
  | .object members => do
    let application ← Json.field members "application" (Json.asOptional Application.ofJson)
    let session ← Json.field members "session_id" Json.asText
    let user ← Json.field members "user" Account.ofJson
    let session ← Json.require "session_id" session
    let user ← Json.require "user" user
    pure ⟨session, user, application.getD none⟩
  | v => v.wrong (.record "Ready")

end Ready

inductive DispatchKind where
  | guildCreate | guildUpdate | guildDelete
  | guildMemberAdd | guildMemberRemove | guildMemberUpdate
  | guildRoleCreate | guildRoleUpdate | guildRoleDelete
  | channelCreate | channelUpdate | channelDelete
  | threadCreate | threadUpdate | threadDelete | threadListSync
  | messageCreate | messageUpdate | messageDelete | messageDeleteBulk
  | messageReactionAdd | messageReactionRemove | messageReactionRemoveAll
  | messageReactionRemoveEmoji
  | interactionCreate
  deriving DecidableEq, Repr, Inhabited

namespace DispatchKind

/-- Each kind with its name on the wire. -/
def table : List (String × DispatchKind) :=
  [("GUILD_CREATE", guildCreate), ("GUILD_UPDATE", guildUpdate), ("GUILD_DELETE", guildDelete),
   ("GUILD_MEMBER_ADD", guildMemberAdd), ("GUILD_MEMBER_REMOVE", guildMemberRemove),
   ("GUILD_MEMBER_UPDATE", guildMemberUpdate), ("GUILD_ROLE_CREATE", guildRoleCreate),
   ("GUILD_ROLE_UPDATE", guildRoleUpdate), ("GUILD_ROLE_DELETE", guildRoleDelete),
   ("CHANNEL_CREATE", channelCreate), ("CHANNEL_UPDATE", channelUpdate),
   ("CHANNEL_DELETE", channelDelete), ("THREAD_CREATE", threadCreate),
   ("THREAD_UPDATE", threadUpdate), ("THREAD_DELETE", threadDelete),
   ("THREAD_LIST_SYNC", threadListSync), ("MESSAGE_CREATE", messageCreate),
   ("MESSAGE_UPDATE", messageUpdate), ("MESSAGE_DELETE", messageDelete),
   ("MESSAGE_DELETE_BULK", messageDeleteBulk), ("MESSAGE_REACTION_ADD", messageReactionAdd),
   ("MESSAGE_REACTION_REMOVE", messageReactionRemove),
   ("MESSAGE_REACTION_REMOVE_ALL", messageReactionRemoveAll),
   ("MESSAGE_REACTION_REMOVE_EMOJI", messageReactionRemoveEmoji),
   ("INTERACTION_CREATE", interactionCreate)]

def ofName? (name : String) : Option DispatchKind := table.lookup name

end DispatchKind

inductive Event where
  | ready (r : Ready)
  | resumed
  | passed (kind : DispatchKind) (payload : Json)
  /-- a name that nothing here knows; such events go no further -/
  | unrecognized (name : String)
  deriving DecidableEq, Repr, Inhabited

/-- Why the payload of a known event could not be used. -/
inductive EventFault where
  | shape (m : Mismatch)
  | notAnObject (payload : Json)
  deriving DecidableEq, Repr

def EventFault.reason : EventFault → String
  | .shape m => m.message
  | .notAnObject payload => "expected an object payload, got " ++ payload.print

def EventFault.message (name : String) (f : EventFault) : String :=
  "failed to decode " ++ name ++ ": " ++ f.reason

def Json.isObject : Json → Bool
  | .object _ => true
  | _ => false

def Event.decode (name : String) (payload : Json) : Except EventFault Event :=
  if name = "READY" then
    match Ready.ofJson payload with
    | .ok r => .ok (.ready r)
    | .error m => .error (.shape m)
  else if name = "RESUMED" then .ok .resumed
  else
    match DispatchKind.ofName? name with
    | some kind => if payload.isObject then .ok (.passed kind payload) else .error (.notAnObject payload)
    | none => .ok (.unrecognized name)

end SessionFleet
