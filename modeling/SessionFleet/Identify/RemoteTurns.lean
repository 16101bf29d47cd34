import SessionFleet.Error
import SessionFleet.Url.Reading
/- Turns to identify that a server hands out.  The server holds the answer back until the shard may
   identify.  One that takes too long is asked again; whatever else comes of the question, a failure
   too, counts as the turn. -/
namespace SessionFleet

/-- What comes of one question. -/
inductive TurnReply where
  | answered (status : Nat)
  | timedOut
  | failed
  deriving DecidableEq, Repr

def TurnReply.grants : TurnReply → Bool
  | .timedOut => false
  | .answered _ | .failed => true

structure RemoteTurns where
  address : Url
  timeout : Span
  deriving DecidableEq, Repr

namespace RemoteTurns

def create (address : String) (timeout : Span) : Except SettingsFault RemoteTurns :=
  match Url.ofText address with
  | .error f => .error (.badUrl "identify queue" f)
  | .ok url => .ok ⟨url, timeout⟩

/-- The shard's number stands behind whatever the address asks already. -/
def question (q : RemoteTurns) (shard : Nat) : Url :=
  let number := "shard=" ++ toString shard
  q.address.withQuery (match q.address.query with
    | none | some "" => number
    | some asked => asked ++ "&" ++ number)

/-- How many questions are put before the turn comes; `none` if the replies do not grant it. -/
def questions : List TurnReply → Option Nat
  | [] => none
  | r :: rest => if r.grants then some 1 else (questions rest).map (· + 1)

end RemoteTurns
end SessionFleet
