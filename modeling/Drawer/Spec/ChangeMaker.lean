import Drawer.Lib.Json
import Drawer.Spec.TxnEngine

/-! Change in several coins: the inventory of the hoppers, the plan for an amount, and
its execution as a program whose effects are the calls of the drivers. The drivers may
answer anything. -/

namespace Drawer.Change
open Text Effect

inductive Denom where
  | penny
  | nickel
  | dime
  | quarter
  deriving DecidableEq, Repr

def cents : Denom → Int
  | .penny => 1
  | .nickel => 5
  | .dime => 10
  | .quarter => 25

structure DenomSpec where
  denom : Denom := .quarter
  lowStockThreshold : Int := 20
  deriving DecidableEq, Repr

structure HopperStock where
  spec : DenomSpec := {}
  logicalCount : Int := 0
  deriving DecidableEq, Repr

/-! ### The inventory -/

/-- The map of the inventory. -/
abbrev Inventory := Denom → Option HopperStock

namespace Inventory

def empty : Inventory := fun _ => none

def upsert (inv : Inventory) (hs : HopperStock) : Inventory := Function.update inv hs.spec.denom (some hs)

/-- What is decremented, and the inventory after it. -/
def take (inv : Inventory) (d : Denom) (n : Int) : Except Exn (Int × Inventory) :=
  match inv d with
  | none => .error .outOfRange
  | some hs =>
    let dec := if n > hs.logicalCount then hs.logicalCount else n
    .ok (dec, Function.update inv d (some { hs with logicalCount := hs.logicalCount - dec }))

def low (inv : Inventory) (d : Denom) : Bool :=
  match inv d with
  | none => true
  | some hs => decide (hs.logicalCount ≤ hs.spec.lowStockThreshold)

end Inventory

/-! ### The plan -/

structure PlanItem where
  denom : Denom
  count : Int
  deriving DecidableEq, Repr

def order : List Denom := [.quarter, .dime, .nickel, .penny]

/-- The loop over the denominations: the items, and what is left over. -/
def planFrom (inv : Inventory) : List Denom → Int → List PlanItem × Int
  | [], leftover => ([], leftover)
  | d :: ds, leftover =>
    if leftover ≤ 0 then ([], leftover)
    else
      match inv d with
      | none => planFrom inv ds leftover
      | some hs =>
        let avail := hs.logicalCount
        if avail ≤ 0 then planFrom inv ds leftover
        else
          let usable := if inv.low d then max 0 (avail - hs.spec.lowStockThreshold) else avail
          if usable ≤ 0 then planFrom inv ds leftover
          else
            let need := leftover.tdiv (cents d)
            if need ≤ 0 then planFrom inv ds leftover
            else
              let use := min need usable
              let (plan, rest) := planFrom inv ds (leftover - use * cents d)
              ({ denom := d, count := use } :: plan, rest)

/-- The plan and the leftover cents. -/
def makePlanCents (inv : Inventory) (changeCents : Int) : List PlanItem × Int := planFrom inv order changeCents

/-! ### The execution -/

/-- `driver` says whether there is one. -/
structure HopperHandle where
  spec : DenomSpec := {}
  driver : Bool := false
  deriving DecidableEq, Repr

/-- The map of the handles attached. -/
abbrev Hoppers := Denom → Option HopperHandle

def Hoppers.attach (hoppers : Hoppers) (h : HopperHandle) : Hoppers := Function.update hoppers h.spec.denom (some h)

structure MultiDispenseStats where
  ok : Bool
  reason : Bytes
  pulses : Int := 0
  coins : Int := 0
  requested : List PlanItem := []
  fulfilled : List PlanItem := []
  deriving DecidableEq, Repr

/-- The driver of the hopper for `denom` is called. -/
inductive Eff where
  | dispenseCoins (denom : Denom) (coins : Int)
  deriving DecidableEq, Repr

abbrev Ans : Eff → Type := fun _ => DispenseStats
abbrev Trace := List (Sigma Ans)

/-- The statistics, unless an exception left the function, and the inventory. -/
abbrev Prog := Program Eff Ans (Except Exn MultiDispenseStats × Inventory)

namespace MultiDispenseStats

/-- Without a hopper for `d`. -/
def noHopper (st : MultiDispenseStats) (d : Denom) : MultiDispenseStats :=
  { st with ok := false, reason := ascii "NOHOP", fulfilled := st.fulfilled ++ [{ denom := d, count := 0 }] }

/-- After the answer of the driver for `item`. -/
def answered (st : MultiDispenseStats) (item : PlanItem) (res : DispenseStats) : MultiDispenseStats :=
  let st := { st with
    pulses := st.pulses + res.pulses
    coins := st.coins + res.dispensed
    fulfilled := st.fulfilled ++ [{ denom := item.denom, count := res.dispensed }] }
  if res.dispensed < item.count || !res.ok then
    { st with
      ok := false
      reason :=
        if res.reason ≠ [] then res.reason
        else if res.dispensed < item.count then ascii "PARTIAL"
        else [] }
  else st

/-- What `execute` does after its loop. -/
def closed (st : MultiDispenseStats) : MultiDispenseStats :=
  if st.ok then { st with reason := ascii "OK" }
  else if st.reason = [] then { st with reason := ascii "PARTIAL" }
  else st

end MultiDispenseStats

/-- The loop over the plan. -/
def executeFrom (hoppers : Hoppers) : List PlanItem → MultiDispenseStats → Inventory → Prog
  | [], st, inv => .ret (.ok st.closed, inv)
  | item :: plan, st, inv =>
    match hoppers item.denom with
    | none => executeFrom hoppers plan (st.noHopper item.denom) inv
    | some h =>
      if h.driver then
        .call (.dispenseCoins item.denom item.count) fun res =>
          match inv.take item.denom res.dispensed with
          | .error e => .ret (.error e, inv)
          | .ok (_, inv) => executeFrom hoppers plan (st.answered item res) inv
      else executeFrom hoppers plan (st.noHopper item.denom) inv

def execute (hoppers : Hoppers) (inv : Inventory) (plan : List PlanItem) : Prog :=
  executeFrom hoppers plan { ok := true, reason := ascii "OK", requested := plan } inv

/-! ### What is wanted -/

/-- No hopper has less than nothing. -/
def Stocked (inv : Inventory) : Prop := ∀ d hs, inv d = some hs → 0 ≤ hs.logicalCount

/-- The plan takes each denomination at most once, from a hopper that has the coins and is not low, and what it pays and
what is left over make up the change. -/
structure Fits (inv : Inventory) (change : Int) (plan : List PlanItem) (leftover : Int) : Prop where
  once : (plan.map PlanItem.denom).Nodup
  stock : ∀ i ∈ plan, 0 ≤ i.count ∧ ∃ hs, inv i.denom = some hs ∧ i.count ≤ hs.logicalCount ∧ inv.low i.denom = false
  value : (plan.map fun i => i.count * cents i.denom).sum + leftover = change

/-- The coins that the driver of the hopper for `d` dispensed. -/
def dispensed (d : Denom) (tr : Trace) : Int :=
  (tr.map fun ev => match ev with
    | ⟨.dispenseCoins d' _, res⟩ => if d' = d then res.dispensed else 0).sum

/-- Every driver dispenses between none and the coins it is asked for. -/
def Honest (tr : Trace) : Prop :=
  ∀ d n res, (⟨.dispenseCoins d n, res⟩ : Sigma Ans) ∈ tr → 0 ≤ res.dispensed ∧ res.dispensed ≤ n

/-- There is a driver for the item; it reported success and dispensed all the coins. -/
def Served (hoppers : Hoppers) (tr : Trace) (i : PlanItem) : Prop :=
  (∃ h, hoppers i.denom = some h ∧ h.driver = true) ∧
  ∃ res, (⟨.dispenseCoins i.denom i.count, res⟩ : Sigma Ans) ∈ tr ∧ res.ok = true ∧ res.dispensed = i.count

/-- The inventory after a plan is executed has what was dispensed taken off, and the statistics say whether all was. -/
structure Settled (hoppers : Hoppers) (inv : Inventory) (plan : List PlanItem) (tr : Trace) (st : MultiDispenseStats)
    (inv' : Inventory) : Prop where
  stock : ∀ d, inv' d = (inv d).map fun hs => { hs with logicalCount := hs.logicalCount - dispensed d tr }
  left : Stocked inv'
  ok : st.ok = true ↔ ∀ i ∈ plan, Served hoppers tr i

/-- What can be planned of the hopper for `d`: its stock, unless it is missing, empty or low. -/
def usable (inv : Inventory) (d : Denom) : Int :=
  match inv d with
  | none => 0
  | some hs => if inv.low d then 0 else max 0 hs.logicalCount

/-- Some choice of coins, within the stock of the hoppers that are not low, is the change. -/
def Exact (inv : Inventory) (change : Int) : Prop :=
  ∃ n : Denom → Int, (∀ d, 0 ≤ n d ∧ (0 < n d → ∃ hs, inv d = some hs ∧ inv.low d = false ∧ n d ≤ hs.logicalCount)) ∧
    (order.map fun d => n d * cents d).sum = change

/-- As many quarters as fit leave a rest that dimes alone would have to pay but cannot: there is an odd number of fives in
it, no nickel, too few pennies for a five; and one quarter fewer leaves a rest that the dimes do pay. -/
def Stranded (inv : Inventory) (change : Int) : Prop :=
  let quarters := min (change / 25) (usable inv .quarter)
  let rest := change - 25 * quarters
  0 < quarters ∧ rest / 5 % 2 = 1 ∧ usable inv .nickel = 0 ∧
  rest % 5 ≤ usable inv .penny ∧ usable inv .penny < rest % 5 + 5 ∧
  rest - rest % 5 + 25 ≤ 10 * usable inv .dime

instance (inv : Inventory) (change : Int) : Decidable (Stranded inv change) :=
  inferInstanceAs (Decidable (_ ∧ _ ∧ _ ∧ _ ∧ _ ∧ _))

end Drawer.Change
