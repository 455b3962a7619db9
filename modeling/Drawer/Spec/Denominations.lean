import Drawer.Spec.CashIntelligence

/-! What the cash intelligence service computes of denominations: the value of a breakdown,
how far two breakdowns differ, and a mix for a balance. Sums, products and quotients are
those of `int` and `long`. -/

namespace Drawer.Cash
open Text

/-- A breakdown as a map: one quantity for each key. -/
abbrev Breakdown := Dict Bytes Int32

namespace Breakdown

def pairs (b : Breakdown) : DenominationBreakdown := b.entries.map fun e => (e.1, e.2)

/-- The quantity under a key, `0` if there is none. -/
def quantity (b : Breakdown) (key : Bytes) : Int32 := (b.lookup key).getD 0

end Breakdown

namespace CashIntelligenceService

/-- A set is stored in the order of its elements. -/
def configureDenominations (s : CashIntelligenceService) (currency : String) (denominations : List Int32) :
    CashIntelligenceService :=
  { s with
    denominationSets := s.denominationSets.insert currency
      ((denominations.dedup.insertionSort (· ≤ ·)).map Int32.toInt) }

/-! ### Value and drift -/

def valueLoop : DenominationBreakdown → Int64 → Int64
  | [], total => total
  | item :: rest, total =>
    match stoi item.1 with
    | .error _ => -1
    | .ok denom => valueLoop rest (total + Int64.ofInt denom * item.2.toInt64)

def denominationValue (b : Breakdown) : Int64 := valueLoop b.pairs 0

/-- The keys of either breakdown. -/
def driftKeys (expected observed : Breakdown) : List Bytes := (expected.keys ++ observed.keys).dedup

def denominationDrift (s : CashIntelligenceService) (currency : String) (expected observed : Breakdown) : Int32 :=
  if !validateDenominations s.denominationSets currency expected.pairs ||
      !validateDenominations s.denominationSets currency observed.pairs then -1
  else
    (driftKeys expected observed).foldl (fun drift key => drift + (expected.quantity key - observed.quantity key).abs) 0

/-! ### Mixes -/

/-- The balance that remains, and the mix so far. Division by zero ends the program. -/
def mixStep (st : Int64 × Breakdown) (denom : Int32) : Option (Int64 × Breakdown) :=
  if denom = 0 then none
  else
    let qty := (st.1 / denom.toInt64).toInt32
    if 0 < qty then some (st.1 - qty.toInt64 * denom.toInt64, st.2.insert (decimal denom.toInt) qty) else some st

/-- The denominations of a set, the greatest first. -/
def greatestFirst (denoms : List Int) : List Int32 := (denoms.map Int32.ofInt).insertionSort (· ≥ ·)

def recommendMix (s : CashIntelligenceService) (currency : String) (target : Int64) : Option Breakdown :=
  match s.denominationSets.lookup currency with
  | none => some ∅
  | some denoms =>
    if target ≤ 0 then some ∅
    else ((greatestFirst denoms).foldlM mixStep (target, ∅)).map Prod.snd

end CashIntelligenceService

/-! ### What they should be -/

/-- The value of a mix of some denominations. -/
def covered (denoms : Finset Int32) (mix : Breakdown) : Int :=
  ∑ d ∈ denoms, d.toInt * (mix.quantity (decimal d.toInt)).toInt

/-- A mix of these denominations, of positive quantities, that covers a target but for less than any of them. -/
structure SoundMix (denoms : Finset Int32) (target : Int) (mix : Breakdown) : Prop where
  known : ∀ key, (mix.lookup key).isSome = true → ∃ d ∈ denoms, key = decimal d.toInt
  positive : ∀ key q, mix.lookup key = some q → 0 < q
  within : covered denoms mix ≤ target
  near : ∀ d ∈ denoms, target - covered denoms mix < d.toInt

/-- The pieces of a breakdown whose keys are read as a value. -/
def pieces (value : Int) (b : Breakdown) : Int :=
  ((b.pairs.filter fun item => decide (stoi item.1 = .ok value)).map fun item => item.2.toInt).sum

/-- As many pieces of each value in both. -/
def SameContent (expected observed : Breakdown) : Prop := ∀ value, pieces value expected = pieces value observed

/-- The same quantity under each key. -/
def SameQuantities (expected observed : Breakdown) : Prop := ∀ key, expected.quantity key = observed.quantity key

/-- How far the quantities differ, over all keys. -/
def distance (expected observed : Breakdown) : ℕ :=
  ((CashIntelligenceService.driftKeys expected observed).map fun key =>
    ((expected.quantity key).toInt - (observed.quantity key).toInt).natAbs).sum

end Drawer.Cash
