import Drawer.Spec.Journal
import Drawer.Spec.IdempotencyStore

/-! `Router::handle`, one atomic step at a time: the store check, the exchange of
the busy flag, `put_pending`, `run_purchase`, the clearing of the flag, the
publisher and `put_done`. Calls share the store and the flag; a call that runs
alone is its steps one after another. -/

namespace Drawer.Pos
open Text Journal

/-- What all calls of one router share. -/
structure Shared where
  store : IdempotencyStore
  busy : Bool := false

/-- A call, with everything its surroundings answer it: the clock, the engine and the publisher. -/
structure Call where
  req : PurchaseRequest
  pendingAt : Int := 0
  engine : Except Exn Txn
  publisher : Except Exn Unit := .ok ()
  doneAt : Int := 0

namespace Call

def key (c : Call) : Bytes := c.req.idemKey
def hash (c : Call) : Bytes := payloadHash c.req.priceCents c.req.depositCents

end Call

namespace Router

/-- Where a call stands. -/
inductive Pc where
  | start
  | passed
  | acquired
  | pended
  | ran (t : Txn)
  | cleared (t : Txn)
  | published (t : Txn)
  | replied (status : Int) (body : Bytes)
  | threw (e : Exn)
  deriving DecidableEq

/-- Whatever the publisher raises is caught and logged. -/
def afterPublish (t : Txn) : Except Exn Unit → Pc
  | .ok () => .published t
  | .error _ => .published t

def step (c : Call) (sh : Shared) : Pc → Shared × Pc
  | .start =>
    match sh.store.check c.key c.hash with
    | (.mismatch, _) => (sh, .replied 409 mismatchJson)
    | (.pending, _) => (sh, .replied 202 pendingJson)
    | (.matchDone, r) => (sh, .replied 200 (r.getD {}).resultJson)
    | (.new, _) => (sh, .passed)
  | .passed => if sh.busy then (sh, .replied 409 busyJson) else ({ sh with busy := true }, .acquired)
  | .acquired =>
    match sh.store.putPending c.key c.hash c.pendingAt with
    | (store, .ok ()) => ({ sh with store }, .pended)
    | (store, .error e) => ({ sh with store }, .threw e)
  | .pended =>
    match c.engine with
    | .ok t => (sh, .ran t)
    | .error e => (sh, .threw e)
  | .ran t => ({ sh with busy := false }, .cleared t)
  | .cleared t => (sh, afterPublish t c.publisher)
  | .published t =>
    match sh.store.putDone c.key c.hash (successJson t) c.doneAt with
    | (store, .ok ()) => ({ sh with store }, .replied 200 (successJson t))
    | (store, .error e) => ({ sh with store }, .threw e)
  | .replied status body => (sh, .replied status body)
  | .threw e => (sh, .threw e)

/-- A call that runs alone, to its end. -/
def handle (c : Call) (sh : Shared) : Shared × Pc := (fun p => step c p.1 p.2)^[7] (sh, .start)

/-- Any number of calls `ι` at work; `runs` lists those that have executed `run_purchase`. -/
structure Sys (ι : Type) where
  shared : Shared
  pc : ι → Pc := fun _ => .start
  runs : List ι := []

variable {ι : Type} [DecidableEq ι]

/-- One atomic step of the call `i`. -/
def advance (calls : ι → Call) (s : Sys ι) (i : ι) : Sys ι :=
  let next := step (calls i) s.shared (s.pc i)
  { shared := next.1
    pc := Function.update s.pc i next.2
    runs := if s.pc i = .pended then s.runs ++ [i] else s.runs }

/-- How often `run_purchase` was executed for `key`. -/
def runsFor (calls : ι → Call) (key : Bytes) (s : Sys ι) : ℕ :=
  s.runs.countP fun i => decide ((calls i).key = key)

/-- If this step takes the busy flag, the store would still pass the call's check. -/
def StillNew (calls : ι → Call) (s : Sys ι) (i : ι) : Prop :=
  s.pc i = .passed → s.shared.busy = false → (s.shared.store.check (calls i).key (calls i).hash).1 = .new

instance (calls : ι → Call) (s : Sys ι) (i : ι) : Decidable (StillNew calls s i) :=
  inferInstanceAs (Decidable (_ = _ → _ = _ → _ = _))

end Router
end Drawer.Pos
