import Drawer.Spec.Crash
import Drawer.Spec.Router

/-! The till as it is left running: any number of calls of the router at once on one engine, the process
killed at any point of it, and new processes that resume what the journal ends with and then open the store
on its log. The journal and the log are all that a process leaves behind. -/

namespace Drawer.Pos
open Text Effect Journal TxnEngine IdempotencyStore Router

variable {ι : Type} [DecidableEq ι]

structure Till (ι : Type) where
  shared : Shared
  pc : ι → Pc := fun _ => .start
  journal : List Txn := []
  /-- The process has resumed what was left, has opened its store and answers calls. -/
  serving : Bool := false

inductive TillEvent (ι : Type) where
  /-- A call takes an atomic step, but for its purchase. -/
  | advance (i : ι)
  /-- The engine is asked for the purchase of a call, at the time `ns`, and does `tr`. -/
  | purchase (i : ι) (ns : Int) (tr : Trace)
  | kill
  /-- The process is killed when it has done `tr` of the purchase of a call. -/
  | killIn (i : ι) (ns : Int) (tr : Trace)
  /-- A new process is killed when it has done `tr` of what it resumes. -/
  | resumeCut (tr : Trace)
  /-- A new process does `tr` of what it resumes, which is all, and opens its store. -/
  | restart (tr : Trace) (readAt sweptAt : Int)

namespace TillEvent

/-- The effects of the engine. -/
def trace : TillEvent ι → Trace
  | .purchase _ _ tr | .killIn _ _ tr | .resumeCut tr | .restart tr _ _ => tr
  | _ => []

/-- The call whose purchase is begun. -/
def begins : TillEvent ι → Option ι
  | .purchase i _ _ | .killIn i _ _ => some i
  | _ => none

end TillEvent

/-- What a kill leaves of a call. -/
def gone : Pc → Pc
  | .start => .start
  | .replied status body => .replied status body
  | .threw e => .threw e
  | _ => .threw .other

namespace Till

/-- The purchase that the engine is asked for. -/
def program (e : Engine) (c : Call) (ns : Int) : Prog := runPurchase e ns c.req.priceCents c.req.depositCents

/-- The engine did `tr` and returned the answer of the call, or threw it after `tr`. -/
def Performs (e : Engine) (c : Call) (ns : Int) (tr : Trace) : Prop :=
  match c.engine with
  | .ok t => Runs (program e c ns) tr t
  | .error _ => Stops (program e c ns) tr

variable (calls : ι → Call) (e : Engine) (ttlHours : Int)

/-- What the event leaves. -/
def next (s : Till ι) : TillEvent ι → Till ι
  | .advance i =>
    { s with
      shared := (step (calls i) s.shared (s.pc i)).1
      pc := Function.update s.pc i (step (calls i) s.shared (s.pc i)).2 }
  | .purchase i _ tr =>
    { s with
      pc := Function.update s.pc i (step (calls i) s.shared (s.pc i)).2
      journal := s.journal ++ appended tr }
  | .kill => { s with pc := fun i => gone (s.pc i), serving := false }
  | .killIn _ _ tr => { s with pc := fun i => gone (s.pc i), journal := s.journal ++ appended tr, serving := false }
  | .resumeCut tr => { s with journal := s.journal ++ appended tr }
  | .restart tr readAt sweptAt =>
    { s with
      shared := { store := openOn ttlHours s.shared.store.file readAt sweptAt }
      journal := s.journal ++ appended tr
      serving := true }

/-- When the event can take place. -/
def Can (s : Till ι) : TillEvent ι → Prop
  | .advance i => s.serving = true ∧ s.pc i ≠ .pended
  | .purchase i ns tr => s.serving = true ∧ s.pc i = .pended ∧ Performs e (calls i) ns tr
  | .kill => True
  | .killIn i ns tr => s.serving = true ∧ s.pc i = .pended ∧ Stops (program e (calls i) ns) tr
  | .resumeCut tr => s.serving = false ∧ Stops (resumeIfNeeded e (loadLast s.journal)) tr
  | .restart tr _ _ => s.serving = false ∧ ∃ t, Runs (resumeIfNeeded e (loadLast s.journal)) tr t

/-- The purchases that were begun, newest first, each with the coins paid until the next one. -/
def paidBy (paid : List (ι × Int)) (ev : TillEvent ι) : List (ι × Int) :=
  match ev.begins, paid with
  | some i, paid => (i, paidOut ev.trace) :: paid
  | none, [] => []
  | none, (i, n) :: paid => (i, n + paidOut ev.trace) :: paid

/-- The coins that a call is owed. -/
def owed (c : Call) : Int := (newTxn e 0 c.req.priceCents c.req.depositCents).quarters

/-- A call of the key takes the busy flag only while the store would still pass its check, and no new process finds a
line of the key in the log expired. -/
def Remembers (key : Bytes) (s : Till ι) : TillEvent ι → Prop
  | .advance i => (calls i).key = key → s.pc i = .passed → s.shared.busy = false →
      (s.shared.store.check key (calls i).hash).1 = .new
  | .restart _ readAt sweptAt => ∀ line ∈ s.shared.store.file, ∀ r, readRec line = .ok r → r.key = key →
      0 < ttlNsOf ttlHours → readAt - r.lastNs ≤ ttlNsOf ttlHours ∧ sweptAt - r.lastNs ≤ ttlNsOf ttlHours
  | _ => True

end Till
end Drawer.Pos
