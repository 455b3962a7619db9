import Drawer.Lib.HashChain
import Drawer.Spec.FleetStore

/-! The fleet registry's event log: what a tenant sees of it, its replay, and what
is wanted of it over runs. -/

namespace Drawer.FleetOps

structure ReplayResult where
  valid : Bool := true
  reason : String := ""
  hashSummary : String := ""
  events : List FleetOperationEvent := []

namespace FleetOperationsService

variable {ω : Type} (env : Env ω)

/-- `events`. -/
def eventsOf (log : List FleetOperationEvent) (tenantId : String) : List FleetOperationEvent :=
  log.filter fun e => e.tenantId = tenantId

/-- The loop of `replay`: whether it got to the end, and what it collected. -/
def replayFrom (tenantId : String) : String → Int → List FleetOperationEvent → Bool × List FleetOperationEvent
  | _, _, [] => (true, [])
  | previous, expected, e :: rest =>
    if e.sequence ≠ expected || e.previousHash ≠ previous || e.eventHash ≠ eventHash env e then (false, [])
    else
      let r := replayFrom tenantId e.eventHash (expected + 1) rest
      (r.1, if e.tenantId = tenantId then e :: r.2 else r.2)

def replay (log : List FleetOperationEvent) (tenantId : String) : ReplayResult :=
  let r := replayFrom env tenantId "" 1 log
  { valid := r.1, reason := if r.1 then "" else "event_chain_invalid", events := r.2
    hashSummary := env.digest.sha256Hex (env.digest.dump (.arr (r.2.map fun e => .str e.eventHash))) }

/-- The events are numbered from one and linked by their hashes. -/
def eventChain : HashChain FleetOperationEvent String where
  number := FleetOperationEvent.sequence
  previous := FleetOperationEvent.previousHash
  hash := FleetOperationEvent.eventHash
  digest := eventHash env

end FleetOperationsService

open FleetOperationsService

variable {ω : Type}

/-- Every tenant's replay of the log is valid and shows what the tenant sees of it. -/
def Replayable (env : Env ω) (log : List FleetOperationEvent) : Prop :=
  ∀ tenantId, (replay env log tenantId).valid = true ∧ (replay env log tenantId).events = eventsOf log tenantId

/-- What an event owes the log: it can be replayed afterwards, a request leaves it as it was but for new events at its
end, and a new process with a store has what was saved of it last. -/
structure Appends (env : Env ω) (r : Registry ω) (e : Event ω) : Prop where
  replayable : Replayable env (r.step env e).service.events
  request : ∀ op, e = .request op → r.service.events <+: (r.step env e).service.events
  restart : ∀ world, e = .restart world → (r.step env e).service.events <+: r.service.events

end Drawer.FleetOps
