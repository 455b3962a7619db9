import Drawer.Lib.Rounding
import Drawer.Spec.BasicAuth
import Drawer.Spec.FleetManager

/-! What a request meets before its route: the rate limiters of `/txn` and `/command`, the own drawer
where it is disabled, and the check of the credentials. The steady clock counts nanoseconds. -/

namespace Drawer.Server
open Text Decimal Twin

structure RateLimiter where
  capacity : Double
  tokens : Double
  refillPerSec : Double
  last : ℤ

/-- `std::chrono::duration<double>(d).count()`. -/
def seconds (d : ℤ) : Double := (Double.ofInt d).div (.ofInt 1000000000)

def RateLimiter.allow (l : RateLimiter) (now : ℤ) : Bool × RateLimiter :=
  let elapsed := seconds (now - l.last)
  let tokens := l.capacity.min (l.tokens.add (elapsed.mul l.refillPerSec))
  if (Double.ofInt 1).le tokens then (true, { l with tokens := tokens.sub (.ofInt 1), last := now })
  else (false, { l with tokens, last := now })

/-- `RateLimiter{4.0, 0.1}`. -/
def RateLimiter.make (now : ℤ) : RateLimiter := ⟨.ofInt 4, .ofInt 4, nearest false (1 / 10), now⟩

/-- What the handler before the routes reads of a request, and when. The header is empty where there is none. -/
structure Arrival where
  path : String
  auth : Bytes
  now : ℤ

/-- What the handler before the routes reads and writes. -/
structure Front (ω : Type) where
  start : Start
  fleet : FleetManager ω
  txnLimiter : RateLimiter
  cmdLimiter : RateLimiter

def rateRefusal : Refusal := ⟨429, [], ascii "\x7b\"error\":\"rate\"\x7d"⟩

def deviceDisabled : Refusal := ⟨423, [], ascii "\x7b\"error\":\"device_disabled\"\x7d"⟩

variable {ω : Type}

/-- Whether the limiter of the path lets the request through. -/
def Front.limit (s : Front ω) (r : Arrival) : Bool × Front ω :=
  if r.path = "/txn" then
    let (allowed, l) := s.txnLimiter.allow r.now
    (allowed, { s with txnLimiter := l })
  else if r.path = "/command" then
    let (allowed, l) := s.cmdLimiter.allow r.now
    (allowed, { s with cmdLimiter := l })
  else (true, s)

/-- The handler before the routes: a request it does not refuse goes on to its route. -/
def Front.preRouting (s : Front ω) (r : Arrival) : Except Refusal Unit × Front ω :=
  let (allowed, s) := s.limit r
  if !allowed then (.error rateRefusal, s)
  else if s.fleet.blocks r.path then (.error deviceDisabled, s)
  else (s.start.authorize (utf8 r.path) r.auth, s)

/-- A server that has been started at `now`. -/
def Front.open (start : Start) (fleet : FleetManager ω) (now : ℤ) : Front ω where
  start := start
  fleet := fleet
  txnLimiter := .make now
  cmdLimiter := .make now

/-! ### Runs -/

/-- The paths with a limiter. -/
inductive Limited where
  | txn
  | command

def Limited.path : Limited → String
  | .txn => "/txn"
  | .command => "/command"

def Front.limiter (s : Front ω) : Limited → RateLimiter
  | .txn => s.txnLimiter
  | .command => s.cmdLimiter

/-- A request arrives and is answered, or the fleet manager becomes another. -/
inductive FrontEvent (ω : Type) where
  | arrival (r : Arrival) (answer : Except Refusal Unit)
  | fleet (m : FleetManager ω)

/-- The steady clock, of 64 bits, does not go back. -/
def Front.Timely (s : Front ω) (now : ℤ) : Prop := ∀ p, (s.limiter p).last ≤ now ∧ now - (s.limiter p).last < 2 ^ 63

/-- Requests are handled in the order in which they pass their limiter. -/
def Front.Step (s : Front ω) : FrontEvent ω → Front ω → Prop
  | .arrival r answer, s' => s.Timely r.now ∧ s.preRouting r = (answer, s')
  | .fleet m, s' => { s with fleet := m } = s'

/-- Whether an answer is the limiter's. -/
def limited : Except Refusal Unit → Bool
  | .error refusal => refusal.status = 429
  | .ok _ => false

end Drawer.Server
