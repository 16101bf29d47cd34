import SessionFleet.RateLimit.Limiter
import SessionFleet.Settings.Rest
import SessionFleet.Rest.BotInfo
/- Requests that wait until the limiter admits them.

   A request is checked, and after every denial it waits and is checked again, as often as the
   settings allow.  It is sent at most once, right after the check that admits it; whatever the
   response is, its headers go back to the limiter. -/
namespace SessionFleet

structure Response where
  status : Nat
  headers : RawHeaders
  body : String
  deriving DecidableEq, Repr

/-- What becomes of a request that is sent. -/
inductive Exchange where
  | answered (response : Response) (when_ : Instant)
  | broken (detail : String)
  deriving DecidableEq, Repr

/-- The course of the world around one request; its checks are counted from 0. -/
structure Course where
  checkedAt : Nat → Instant
  /-- what other callers make of the limiter before a check -/
  before : Nat → Limiter → Limiter
  /-- what they make of it right after the check -/
  after : Nat → Limiter → Limiter
  exchange : Exchange

/-- Nobody else uses the limiter, and the clock stands still. -/
def Course.quiet (now : Instant) (exchange : Exchange) : Course :=
  ⟨fun _ => now, fun _ => id, fun _ => id, exchange⟩

/-- What is done for a request, one thing after the other. -/
inductive RequestStep where
  | checked (answer : Admission)
  | waited (delay : Span)
  | built
  | sent
  /-- what the response says of rate limits goes to the limiter -/
  | fed (headers : LimitHeaders)
  deriving DecidableEq, Repr

structure Outcome where
  result : Except FleetError Response
  steps : List RequestStep
  limiter : Limiter

/-- The same behind what was done before. -/
def Outcome.behind (o : Outcome) (earlier : List RequestStep) : Outcome :=
  { o with steps := earlier ++ o.steps }

structure Client where
  settings : RestSettings
  limiter : Limiter

namespace Client

/-- No wait is shorter. -/
def shortestWait : Span := Span.ofMillis 1

def create (s : RestSettings) : Except FleetError Client :=
  match s.clientError? with
  | some e => .error e
  | none => .ok ⟨s, .empty⟩

/-- The delay that an answer of the limiter asks for, nothing if it admits.  A block that is over
    by the time its end is looked up counts for the fallback delay. -/
def delayFor (l : Limiter) (now : Instant) : Admission → Option Span
  | .allowed => none
  | .retryAfter delay => some delay
  | .globallyBlocked =>
    some (((l.blockedUntil now).map fun expiry => (expiry - now).toNat).getD Bucket.fallbackDelay)

/-- A request that is admitted is built and sent, and a response, whatever it is, is fed back. -/
def send (endpoint : String) (major : Nat) (l : Limiter) : Exchange → Outcome
  | .broken detail => ⟨.error (.http detail), [.built, .sent], l⟩
  | .answered r now =>
    let h := LimitHeaders.parse r.headers
    ⟨.ok r, [.built, .sent, .fed h], l.respond h endpoint major now now⟩

/-- The answer to check `n`, and the limiter after it. -/
def check (endpoint : String) (major : Nat) (c : Course) (n : Nat) (l : Limiter) : Admission × Limiter :=
  let now := c.checkedAt n
  let (answer, l) := (c.before n l).check endpoint major now now
  (answer, c.after n l)

/-- Check `n` and everything after it, with so many waits left. -/
def attempt (endpoint : String) (major : Nat) (c : Course) (n : Nat) (l : Limiter) (left : Nat) :
    Outcome :=
  let (answer, l) := check endpoint major c n l
  match delayFor l (c.checkedAt n) answer with
  | none => (send endpoint major l c.exchange).behind [.checked answer]
  | some delay =>
    match left with
    | 0 => ⟨.error (.rateLimited endpoint (some delay)), [.checked answer], l⟩
    | left + 1 =>
      (attempt endpoint major c (n + 1) l left).behind
        [.checked answer, .waited (max delay shortestWait)]

def execute (client : Client) (endpoint : String) (major : Nat) (c : Course) : Outcome :=
  attempt endpoint major c 0 client.limiter client.settings.maxRetries

/-- The body of a response that must not report a failure, read by a reader that may refuse it;
    nothing if there is no such resource, or no content. -/
def resource {α ε : Type} (read : String → Except ε α) (r : Response) : Except FleetError (Option α) :=
  if r.status = 404 || r.status = 204 then .ok none
  else if 400 ≤ r.status && r.status < 600 then .error (.http ("status " ++ toString r.status))
  else
    match read r.body with
    | .ok a => .ok (some a)
    | .error _ => .error (.http "the body cannot be read")

def botInfoEndpoint : String := "GET /gateway/bot"

def botInfo (r : Response) : Except FleetError BotInfo :=
  match resource BotInfo.ofText r with
  | .ok (some i) => .ok i
  | .ok none => .error (.protocol "/gateway/bot returned no content")
  | .error e => .error e

end Client
end SessionFleet
