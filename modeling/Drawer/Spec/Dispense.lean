import Mathlib.Tactic

/-! The hopper and the controller that dispenses from it. What the sensor and the
clocks read during a call is given with the call, poll by poll and attempt by
attempt; the call is followed as far as the readings go. The clock of the driver is
of type `uint64_t` and the budget of type `int`; other numbers do not overflow.
Sleeping has no effect but on what is read afterwards. -/

namespace Drawer.Dispense

/-- What is read in one round of the polling loop: the sensor, `hal::now_ns`, and the steady clock in nanoseconds. -/
structure Poll where
  level : Bool
  ns : UInt64
  now : Int
  deriving DecidableEq, Repr

/-- The readings of one attempt: the sensor at the reset, the clock after settling, and the polls. -/
structure Attempt where
  level : Bool
  settled : Int
  polls : List Poll
  deriving DecidableEq, Repr

/-- The readings of a call. -/
structure Readings where
  start : Int
  attempts : List Attempt
  finish : Int
  deriving DecidableEq, Repr

/-! ### The driver -/

structure HopperParallel where
  motorActiveHigh : Bool := true
  pulsesPerCoin : Int := 1
  minIntervalUs : Int := 2000
  motor : Bool := false
  pulses : Int := 0
  lastEdgeNs : UInt64 := 0
  lastLevel : Bool := false
  deriving DecidableEq, Repr

namespace HopperParallel

def start (h : HopperParallel) : HopperParallel := { h with motor := h.motorActiveHigh }

def stop (h : HopperParallel) : HopperParallel := { h with motor := !h.motorActiveHigh }

def resetCounters (h : HopperParallel) (level : Bool) : HopperParallel :=
  { h with pulses := 0, lastEdgeNs := 0, lastLevel := level }

def coinCount (h : HopperParallel) : Int := if h.pulsesPerCoin > 0 then h.pulses.tdiv h.pulsesPerCoin else 0

/-- A rising edge counts when it is not too close to the one before. -/
def pollOnce (h : HopperParallel) (p : Poll) : HopperParallel :=
  if p.level && !h.lastLevel && decide (p.ns - h.lastEdgeNs ≥ UInt64.ofInt h.minIntervalUs * 1000) then
    { h with pulses := h.pulses + 1, lastEdgeNs := p.ns, lastLevel := p.level }
  else { h with lastLevel := p.level }

end HopperParallel

/-! ### The controller -/

structure DispenseConfig where
  maxRetries : Int := 2
  jamMs : Int := 600
  maxMsPerCoin : Int := 300
  hardTimeoutMs : Int := 5000
  deriving DecidableEq, Repr

structure DispenseResult where
  ok : Bool := false
  requested : Int := 0
  dispensed : Int := 0
  pulses : Int := 0
  retries : Int := 0
  reason : String := "ABORT"
  elapsedMs : Int := 0
  deriving DecidableEq, Repr

/-- `duration_cast<milliseconds>` of a difference of two readings. -/
def millis (ns : Int) : Int := ns.tdiv 1000000

/-- What a call is about: the coins, their configuration, and when it began. -/
structure Request where
  cfg : DispenseConfig
  coins : Int
  start : Int
  deriving DecidableEq, Repr

/-- The product and the sum are of type `int`. -/
def Request.budgetMs (q : Request) : Int :=
  max q.cfg.hardTimeoutMs (Int32.ofInt q.coins * Int32.ofInt q.cfg.maxMsPerCoin + 500).toInt

/-- The variables of the polling loop. -/
structure Polling where
  hopper : HopperParallel
  lastPulses : Int
  lastPulseTime : Int
  deriving DecidableEq, Repr

/-- The first part of a round: the hopper is polled, and a new pulse is noted. -/
def Polling.see (s : Polling) (p : Poll) : Polling :=
  let h := s.hopper.pollOnce p
  if h.pulses ≠ s.lastPulses then { hopper := h, lastPulses := h.pulses, lastPulseTime := p.now }
  else { s with hopper := h }

/-- How an attempt ends. -/
inductive Ending where
  | enough
  | jam
  | timeout
  deriving DecidableEq, Repr

/-- The second part of a round: what ends the attempt at this poll, if anything does. -/
def Request.verdict (q : Request) (s : Polling) (p : Poll) : Option Ending :=
  if s.hopper.coinCount ≥ q.coins then some .enough
  else if millis (p.now - s.lastPulseTime) ≥ q.cfg.jamMs then some .jam
  else if millis (p.now - q.start) ≥ q.budgetMs then some .timeout
  else none

/-- The polling loop. No ending: it still goes on after these polls. -/
def Request.poll (q : Request) (s : Polling) : List Poll → HopperParallel × Option Ending
  | [] => (s.hopper, none)
  | p :: ps =>
    let s := s.see p
    match q.verdict s p with
    | some e => (s.hopper.stop, some e)
    | none => q.poll s ps

/-- An attempt up to its polling loop. -/
def HopperParallel.begin (h : HopperParallel) (a : Attempt) : Polling :=
  let h := (h.resetCounters a.level).start
  { hopper := h, lastPulses := h.pulses, lastPulseTime := a.settled }

/-- Why an attempt with this ending has ended. -/
def Ending.reason (h : HopperParallel) : Ending → String
  | .enough => "OK"
  | .jam => "JAM"
  | .timeout => if h.coinCount > 0 then "PARTIAL" else "TIMEOUT"

/-- What follows the loop of the attempts: the result, from the last hopper. -/
def Request.done (q : Request) (h : HopperParallel) (ok : Bool) (reason : String) (attempt finish : Int) : DispenseResult :=
  let dispensed := h.coinCount
  { ok, dispensed
    requested := q.coins
    pulses := h.pulses
    retries := attempt
    elapsedMs := millis (finish - q.start)
    reason := if !ok && reason = "JAM" && decide (dispensed > 0) && decide (dispensed < q.coins) then "PARTIAL" else reason }

/-- A call, as far as it was followed: what the hopper counted in each attempt that was started, the hopper, and the
result once the call has returned. -/
structure Call where
  counted : List Int
  hopper : HopperParallel
  result : Option DispenseResult
  deriving DecidableEq, Repr

/-- The loop of the attempts. The arguments `ok` and `reason` are those of the result so far. -/
def Request.attempts (q : Request) (finish attempt : Int) (h : HopperParallel) (ok : Bool) (reason : String) :
    List Attempt → Call
  | [] =>
    if attempt ≤ q.cfg.maxRetries then { counted := [], hopper := h, result := none }
    else { counted := [], hopper := h, result := some (q.done h ok reason attempt finish) }
  | a :: as =>
    if attempt ≤ q.cfg.maxRetries then
      match q.poll (h.begin a) a.polls with
      | (h, none) => { counted := [h.coinCount], hopper := h, result := none }
      | (h, some .jam) =>
        if attempt < q.cfg.maxRetries then
          let c := q.attempts finish (attempt + 1) h false "JAM" as
          { c with counted := h.coinCount :: c.counted }
        else { counted := [h.coinCount], hopper := h, result := some (q.done h false "JAM" attempt finish) }
      | (h, some e) =>
        { counted := [h.coinCount], hopper := h
          result := some (q.done h (e = .enough) (e.reason h) attempt finish) }
    else { counted := [], hopper := h, result := some (q.done h ok reason attempt finish) }

def dispenseCoins (cfg : DispenseConfig) (h : HopperParallel) (coins : Int) (r : Readings) : Call :=
  Request.attempts { cfg, coins, start := r.start } r.finish 0 h false "ABORT" r.attempts

/-! ### What is counted -/

/-- The attempts of a call are accounted for: the result reports what all of them counted, none is started once the
request is met, and the whole is above the request at most by what the last one counted too much. -/
structure Accounts (coins : Int) (c : Call) : Prop where
  reported : ∀ res, c.result = some res → c.counted.sum = res.dispensed
  needed : ∀ before n after, c.counted = before ++ n :: after → before.sum < coins
  overshoot : ∀ before n, c.counted = before ++ [n] → c.counted.sum ≤ max coins n

/-- The readings of the attempt jam with `n` coins counted: nothing ends it at the polls before, and then no pulse has
been seen for too long. -/
def Request.Jams (q : Request) (h : HopperParallel) (a : Attempt) (n : Int) : Prop :=
  ∃ before p after, a.polls = before ++ p :: after ∧
    (∀ b r c, before = b ++ r :: c → q.verdict ((b ++ [r]).foldl Polling.see (h.begin a)) r = none) ∧
    q.verdict ((before ++ [p]).foldl Polling.see (h.begin a)) p = some .jam ∧
    ((before ++ [p]).foldl Polling.see (h.begin a)).hopper.coinCount = n

/-- From attempt number `attempt` on, the readings of every attempt that jams with a retry left jam before a coin is counted. -/
def Request.Dry (q : Request) (h : HopperParallel) (attempt : Int) (as : List Attempt) : Prop :=
  ∀ before a after n, as = before ++ a :: after → attempt + before.length < q.cfg.maxRetries →
    (∀ b ∈ before, ∃ m, q.Jams h b m) → q.Jams h a n → n = 0

/-! ### How a call ends -/

/-- The readings of an attempt, with no end to them. -/
structure Endless where
  level : Bool
  settled : Int
  polls : ℕ → Poll

/-- The steady clock passes every bound. -/
def Endless.Grows (a : Endless) : Prop := ∀ ns : Int, ∃ n, ns ≤ (a.polls n).now

/-- The first `m` polls. -/
def Endless.cut (a : Endless) (m : ℕ) : Attempt where
  level := a.level
  settled := a.settled
  polls := (List.range m).map a.polls

/-- The readings of a call, attempt by attempt, for as long as it may go on. -/
structure Course where
  start : Int
  attempts : ℕ → Endless
  finish : Int

/-- The first `m` polls of the first `n` attempts. -/
def Course.cut (r : Course) (n m : ℕ) : Readings where
  start := r.start
  attempts := (List.range n).map fun k => (r.attempts k).cut m
  finish := r.finish

/-- The call comes to `c`, and does nothing more however much longer it is followed. -/
def Returns (cfg : DispenseConfig) (h : HopperParallel) (coins : Int) (r : Course) (c : Call) : Prop :=
  ∃ N, ∀ n m, N ≤ n → N ≤ m → dispenseCoins cfg h coins (r.cut n m) = c

/-- What the result says about how the call has ended. -/
structure Exit (res : DispenseResult) : Prop where
  ok : res.ok = true ↔ res.reason = "OK"
  enough : res.ok = true ↔ res.requested ≤ res.dispensed
  short : res.reason = "PARTIAL" ↔ 0 < res.dispensed ∧ res.dispensed < res.requested
  nothing : res.reason = "JAM" ∨ res.reason = "TIMEOUT" → res.dispensed = 0

end Drawer.Dispense
