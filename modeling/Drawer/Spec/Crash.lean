import Drawer.Lib.Transition
import Drawer.Spec.TxnEngine

/-! Crashes of the transaction engine. A crash stops the running program between
two effects; a restart resumes from the last durable record. A trace holds every
effect since the purchase began, over all restarts. Of the records it leaves are
wanted the order of their phases, the counts in them, and what stands behind each. -/

namespace Drawer.TxnEngine
open Text Effect Journal Transition

def paid : Sigma Ans → Int
  | ⟨.dispenseCoins _, st⟩ => st.dispensed
  | _ => 0

/-- Coins physically dispensed. -/
def paidOut (tr : Trace) : Int := (tr.map paid).sum

def record : Sigma Ans → Option Txn
  | ⟨.append t, _⟩ => some t
  | _ => none

/-- The records made durable. -/
def appended (tr : Trace) : List Txn := tr.filterMap record

/-- The dispenser pays out at most what it is asked and reports what it paid. -/
def HonestDispenser (tr : Trace) : Prop :=
  ∀ n st, (⟨.dispenseCoins n, st⟩ : Sigma Ans) ∈ tr → 0 ≤ st.dispensed ∧ st.dispensed ≤ n

/-- A restart after a crash: `seg` are the effects of `resume_if_needed` until the
next crash. Before the purchase's first record is durable a restart resumes
whatever `old` ended with, which is another transaction. -/
def restart (e : Engine) (old : List Txn) (tr seg tr' : Trace) : Prop :=
  appended tr ≠ [] ∧ Stops (resumeIfNeeded e (loadLast (old ++ appended tr))) seg ∧ tr' = tr ++ seg

/-- The crash after `tr` does not fall between a payout and its record. -/
def Recorded (tr : Trace) : Prop :=
  ∀ n st, tr.getLast? = some ⟨.dispenseCoins n, st⟩ → st.dispensed = 0

/-! ### The records of a transaction -/

/-- The dispenser counts no coins back. -/
def NonNegative (tr : Trace) : Prop := ∀ n st, (⟨.dispenseCoins n, st⟩ : Sigma Ans) ∈ tr → 0 ≤ st.dispensed

def phases (tr : Trace) : List Bytes := (appended tr).map Txn.phase

/-- What the fault manager answered, if the effect is a question to it. -/
def permission : Sigma Ans → Option Bool
  | ⟨.checkAndBlockMotion, allowed⟩ => some allowed
  | _ => none

/-- The first motion is allowed: no fault manager is attached, or its first answer says so. -/
def motionAllowed (e : Engine) (tr : Trace) : Prop := e.fm = true → (tr.filterMap permission).head? ≠ some false

instance (e : Engine) (tr : Trace) : Decidable (motionAllowed e tr) := inferInstanceAs (Decidable (_ → _))

/-- The shutter has opened. -/
def Opened (tr : Trace) : Prop := ∃ mm a, (⟨.openMm mm, a⟩ : Sigma Ans) ∈ tr ∧ a.ok = true

/-- The shutter has closed. -/
def Closed (tr : Trace) : Prop := ∃ mm a, (⟨.closeMm mm, a⟩ : Sigma Ans) ∈ tr ∧ a.ok = true

/-- How a transaction ends once the coins are out, or are not to come out. -/
def endings : List (List Bytes) :=
  [[ascii "VOID"], [ascii "PRESENTING", ascii "VOID"], [ascii "PRESENTING", ascii "CLOSED", ascii "DONE"]]

/-- What the records say: they are of one transaction, no coins are taken back, and it is done only when the coins are out and
both calls of the shutter succeeded. -/
structure Sound (t : Txn) (tr : Trace) : Prop where
  ids : ∀ r ∈ appended tr, r.id = t.id
  counts : (appended tr).Pairwise fun r s => r.dispensed ≤ s.dispensed
  done : ∀ r ∈ appended tr, r.phase = ascii "DONE" → r.quarters ≤ r.dispensed ∧ Opened tr ∧ Closed tr

/-- A journal that ends so is not continued. -/
def Ended (t : Txn) : Prop := t.phase = ascii "VOID" ∨ t.phase = ascii "CLOSED" ∨ t.phase = ascii "DONE"

/-- The records in the journal: those whose append succeeded. -/
def journaled (tr : Trace) : List Txn :=
  tr.filterMap fun
    | ⟨.append t, true⟩ => some t
    | _ => none

/-- Not an append that failed. -/
def succeeded : Sigma Ans → Bool
  | ⟨.append _, ok⟩ => ok
  | _ => true

/-- Every append succeeded. -/
def Durable (tr : Trace) : Prop := ∀ ev ∈ tr, succeeded ev = true

/-- A restart on what the journal holds: `seg` are its effects until it is stopped. -/
def reopen (e : Engine) (old : List Txn) (tr seg tr' : Trace) : Prop :=
  journaled tr ≠ [] ∧ Stops (resumeIfNeeded e (loadLast (old ++ journaled tr))) seg ∧ tr' = tr ++ seg

/-- How a restart from a record of this phase may go on, a payout apart. -/
def remainders (phase : Bytes) : List (List Bytes) :=
  if phase = ascii "PENDING" ∨ phase = ascii "DISPENSING" then endings
  else if phase = ascii "PRESENTING" then [[ascii "VOID"], [ascii "CLOSED", ascii "DONE"]]
  else [[]]

/-- A restart from the record `r` pays coins out: some are owed, and it is allowed to. -/
def Pays (e : Engine) (r : Txn) (seg : Trace) : Prop :=
  (r.phase = ascii "PENDING" ∨ r.phase = ascii "DISPENSING") ∧ r.dispensed < r.quarters ∧ motionAllowed e seg

/-- After the effects `tr` of a purchase that began with `t`, `r` the last record, a restart performed `seg` and was
stopped. -/
structure Interrupted (e : Engine) (t r : Txn) (tr seg : Trace) : Prop extends Sound t (tr ++ seg) where
  part : ∃ d ∈ [[], [ascii "DISPENSING"]], ∃ w ∈ remainders r.phase, ∃ v, v <+: w ∧ phases seg = d ++ v
  paid : ascii "DISPENSING" ∈ phases seg → Pays e r seg

/-- A restart performed `seg` and returned `t'`. -/
structure Recovered (e : Engine) (t r : Txn) (tr seg : Trace) (t' : Txn) : Prop extends Sound t (tr ++ seg) where
  word : ∃ n, ∃ w ∈ [ascii "PRESENTING", ascii "CLOSED"] :: endings,
    phases (tr ++ seg) = ascii "PENDING" :: List.replicate n (ascii "DISPENSING") ++ w
  part : ∃ d ∈ [[], [ascii "DISPENSING"]], ∃ w ∈ remainders r.phase, phases seg = d ++ w
  paid : ascii "DISPENSING" ∈ phases seg ↔ Pays e r seg
  last : (appended (tr ++ seg)).getLast? = some t'
  ended : Ended t'

end Drawer.TxnEngine
