import Drawer.Lib.Effect
import Drawer.Spec.Journal

/-! The transaction engine as a program over its effects: the motion check of
the fault manager, the dispenser, the shutter and the journal. The devices may
answer anything. The pause that presents the coins changes no state and is not
an effect. -/

namespace Drawer
open Text Effect Journal

structure DispenseStats where
  ok : Bool
  requested : Int
  dispensed : Int
  pulses : Int := 0
  retries : Int := 0
  reason : Bytes := []
  elapsedMs : Int := 0
  deriving DecidableEq, Repr

/-- A shutter call's result, with the reason it wrote if it wrote one. -/
structure ShutterAnswer where
  ok : Bool
  reason : Option Bytes := none
  deriving DecidableEq, Repr

structure TxnConfig where
  openMm : Int := 40
  maxQuartersPerTxn : Int := 40
  deriving DecidableEq, Repr

namespace TxnEngine

inductive Eff where
  | checkAndBlockMotion
  | dispenseCoins (coins : Int)
  | append (t : Txn)
  | openMm (mm : Int)
  | closeMm (mm : Int)
  deriving DecidableEq, Repr

/-- `append` reports success too, but the engine never looks at it. -/
abbrev Ans : Eff → Type
  | .checkAndBlockMotion => Bool
  | .dispenseCoins _ => DispenseStats
  | .append _ => Bool
  | .openMm _ => ShutterAnswer
  | .closeMm _ => ShutterAnswer

abbrev Prog := Program Eff Ans Txn
abbrev Trace := List (Sigma Ans)

/-- `fm` says whether a fault manager is attached. -/
structure Engine where
  cfg : TxnConfig := {}
  fm : Bool := true
  deriving DecidableEq, Repr

/-- Record `t` and return it. -/
def finish (t : Txn) : Prog := .call (.append t) fun _ => .ret t

def finishVoid (t : Txn) : Prog := finish { t with phase := ascii "VOID" }

/-- Go on with `k` if motion is allowed, else void the transaction. -/
def gate (e : Engine) (t : Txn) (k : Prog) : Prog :=
  if e.fm then
    .call .checkAndBlockMotion fun allowed =>
      if allowed then k else finishVoid { t with reason := ascii "FAULT" }
  else k

/-- Close the shutter and record `CLOSED` and `DONE`. -/
def closeShutter (e : Engine) (t : Txn) : Prog :=
  .call (.closeMm e.cfg.openMm) fun r =>
    let t := { t with reason := r.reason.getD t.reason }
    if !r.ok then finishVoid t
    else .call (.append { t with phase := ascii "CLOSED" }) fun _ => finish { t with phase := ascii "DONE" }

/-- The part of `continue_txn` after the coins are out. -/
def present (e : Engine) (t : Txn) : Prog :=
  gate e t <| .call (.openMm e.cfg.openMm) fun r =>
    let t := { t with reason := r.reason.getD t.reason }
    if !r.ok then finishVoid t
    else
      let t := { t with phase := ascii "PRESENTING" }
      .call (.append t) fun _ => gate e t (closeShutter e t)

/-- The record of a payout. -/
def withPayout (t : Txn) (st : DispenseStats) : Txn :=
  { t with dispensed := t.dispensed + st.dispensed, phase := ascii "DISPENSING", reason := st.reason }

/-- The part of `continue_txn` after the payout is recorded in `t`. -/
def afterPayout (e : Engine) (t : Txn) (st : DispenseStats) : Prog :=
  if !st.ok || t.dispensed < t.quarters then
    let reason := if t.reason = [] then (if st.ok then ascii "PARTIAL" else st.reason) else t.reason
    finishVoid { t with reason }
  else present e t

def continueTxn (e : Engine) (t : Txn) : Prog :=
  let remaining := t.quarters - t.dispensed
  if remaining > 0 then
    gate e t <| .call (.dispenseCoins remaining) fun st =>
      .call (.append (withPayout t st)) fun _ => afterPayout e (withPayout t st) st
  else present e t

def makeId (ns : Int) : Bytes := ascii "txn-" ++ decimal ns

/-- The record `run_purchase` starts from, at the time `ns`. -/
def newTxn (e : Engine) (ns price deposit : Int) : Txn :=
  let change := max 0 (deposit - price)
  { id := makeId ns, price, deposit, change, phase := ascii "PENDING",
    quarters := min e.cfg.maxQuartersPerTxn (change.tdiv 25) }

def runPurchase (e : Engine) (ns price deposit : Int) : Prog :=
  let t := newTxn e ns price deposit
  .call (.append t) fun _ => continueTxn e t

/-- `last` is what `load_last` found. -/
def resumeIfNeeded (e : Engine) (last : Option Txn) : Prog :=
  match last with
  | none => .ret {}
  | some t =>
    if t.phase = ascii "PENDING" ∨ t.phase = ascii "DISPENSING" then continueTxn e t
    else if t.phase = ascii "PRESENTING" then closeShutter e t
    else .ret t

end TxnEngine
end Drawer
