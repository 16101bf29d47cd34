import SessionFleet.RateLimit.Registry
/- Admission of requests: a block that holds for every endpoint, then the endpoint's own bucket. -/
namespace SessionFleet

inductive Admission where
  | allowed
  | retryAfter (delay : Span)
  | globallyBlocked
  deriving DecidableEq, Repr

structure Limiter where
  registry : Registry
  globalExpiry : Option Instant
  deriving DecidableEq, Repr, Inhabited

namespace Limiter

/-- Added to every delay, since the server's clock may differ. -/
def padding : Span := Span.ofMillis 50

def empty : Limiter := ⟨.empty, none⟩

/-- The end of the block that is in effect at an instant. -/
def blockedUntil (l : Limiter) (now : Instant) : Option Instant := l.globalExpiry.filter (now < ·)

/-- An endpoint that nothing is known about is let through. -/
def check (l : Limiter) (endpoint : String) (major : Nat) (now wall : Instant) : Admission × Limiter :=
  if (l.blockedUntil now).isSome then (.globallyBlocked, l)
  else
    let (verdict, registry) := l.registry.onBucket endpoint major wall fun b => b.request now
    let l := { l with registry }
    match verdict with
    | none => (.allowed, l)
    | some none => (.allowed, l)
    | some (some delay) => (.retryAfter (delay + padding), l)

/-- Only a response that carries everything counts.  A global one sets the block and touches no
    bucket; another one teaches the endpoint's key and goes to its bucket. -/
def respond (l : Limiter) (h : LimitHeaders) (endpoint : String) (major : Nat) (now wall : Instant) :
    Limiter :=
  if !h.complete then l
  else if h.global then { l with globalExpiry := h.reset }
  else
    match h.bucket with
    | none => l
    | some key =>
      let registry := l.registry.learn endpoint key h.limit
      { l with registry := (registry.onBucket endpoint major wall fun b => ((), b.respond h now)).2 }

def prune (l : Limiter) (now : Instant) : Limiter := { l with registry := l.registry.prune now }

end Limiter

/-- Prunes again and again, each time an interval after the last time. -/
structure Pruner where
  interval : Span
  due : Instant
  deriving DecidableEq, Repr

namespace Pruner

def starting (interval : Span) (now : Instant) : Pruner := ⟨interval, now + interval⟩

/-- The first due time after an instant. -/
def caughtUp (p : Pruner) (now : Instant) : Pruner :=
  if now < p.due then p
  else { p with due := p.due + ((now - p.due) / p.interval + 1) * p.interval }

end Pruner

/-- A limiter that may have a pruner.  The pruner keeps time by a clock of its own, while idleness is
    measured by the wall clock. -/
structure PrunedLimiter where
  limiter : Limiter
  pruner : Option Pruner
  clock : Instant
  deriving DecidableEq, Repr

namespace PrunedLimiter

def start : PrunedLimiter := ⟨.empty, none, 0⟩

def startPruning (p : PrunedLimiter) (interval : Span) : PrunedLimiter :=
  { p with pruner := some (.starting interval p.clock) }

def elapse (p : PrunedLimiter) (d : Span) (wall : Instant) : PrunedLimiter :=
  let clock := p.clock + d
  { limiter := if p.pruner.any fun q => q.due ≤ clock then p.limiter.prune wall else p.limiter
    pruner := p.pruner.map fun q => q.caughtUp clock
    clock }

end PrunedLimiter
end SessionFleet
