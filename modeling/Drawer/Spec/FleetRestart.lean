import Drawer.Spec.RiskQueries

/-! What a restart must not change. A registry is asked and answers; a new process
with its store, beside the same attached services, should answer the same from then
on. The registry's maps are taken as finite maps: the order in which they are walked
through is any that their entries determine. -/

namespace Drawer.FleetOps
open FleetOperationsService

variable {ω : Type}

/-- What can be asked without changing anything. -/
inductive FleetQuery where
  | device (tenantId deviceId : String)
  | devices (tenantId : String)
  | freshness (tenantId deviceId : String) (now : Int)
  | health (tenantId deviceId : String) (now : Int)
  | command (tenantId commandId : String)
  | commands (tenantId : String)
  | quarantined (tenantId : String)
  | events (tenantId : String)
  | replay (tenantId : String)

inductive FleetAnswer where
  | done
  | reply (reply : Reply)
  | attempt (reply : Except Exn Reply)
  | command (command : FleetCommand)
  | count (n : ℕ)
  | risk (risk : Except Exn FleetRisk)
  | risks (risks : Except Exn (List FleetRisk))
  | device (device : Option FleetDevice)
  | devices (devices : List FleetDevice)
  | summary (summary : Json String)
  | found (command : Option FleetCommand)
  | commands (commands : List FleetCommand)
  | events (events : List FleetOperationEvent)
  | replay (replay : ReplayResult)

/-- A request, or a query. -/
inductive Asked (ω : Type) where
  | request (op : Op ω)
  | query (query : FleetQuery)

namespace FleetOperationsService

/-- The registry with its maps in the order they are walked through in. -/
def walked (w : Dict.Walk String) (s : FleetOperationsService ω) : FleetOperationsService ω where
  fleets := w.order s.fleets
  locations := w.order s.locations
  groups := w.order s.groups
  enrollments := w.order s.enrollments
  assignments := w.order s.assignments
  devices := w.order s.devices
  heartbeats := w.order s.heartbeats
  commands := w.order s.commands
  policyViolations := w.order s.policyViolations
  riskLevels := w.order s.riskLevels
  events := s.events
  world := s.world

variable (w : Dict.Walk String) (env : Env ω)

/-- What a request is answered. -/
def answer (s : FleetOperationsService ω) : Op ω → FleetAnswer
  | .enroll device actorId now => .reply (s.enroll env device actorId now).2
  | .updateDevice tenantId deviceId patch now => .attempt (s.updateDevice env tenantId deviceId patch now).2
  | .retireDevice tenantId deviceId now => .reply (s.retireDevice env tenantId deviceId now).2
  | .receiveHeartbeat heartbeat receivedAt => .attempt (s.receiveHeartbeat env heartbeat receivedAt).2
  | .createCommand command now => .command (s.createCommand env command now).2
  | .cancelCommand tenantId commandId now => .reply (s.cancelCommand env tenantId commandId now).2
  | .acknowledgeCommand tenantId commandId now => .reply (s.acknowledgeCommand env tenantId commandId now).2
  | .completeCommand tenantId commandId success result now =>
    .reply (s.completeCommand env tenantId commandId success result now).2
  | .expireCommands now => .count (s.expireCommands env now).2
  | .deviceRisk tenantId deviceId now => .risk (s.deviceRisk env tenantId deviceId now).2
  | .fleetRisk tenantId now => .risks (s.fleetRisk env tenantId now).2
  | .locationRisk tenantId locationId now => .risk (s.locationRisk env tenantId locationId now).2
  | .quarantine tenantId deviceId reason now => .reply (s.quarantine env tenantId deviceId reason now).2
  | .recover tenantId deviceId now => .attempt (s.recover env tenantId deviceId now).2
  | .outside _ => .done

def ask (s : FleetOperationsService ω) : FleetQuery → FleetAnswer
  | .device tenantId deviceId => .device (s.device tenantId deviceId)
  | .devices tenantId => .devices (s.tenantDevices tenantId)
  | .freshness tenantId deviceId now => .summary (s.freshness env tenantId deviceId now)
  | .health tenantId deviceId now => .summary (s.health env tenantId deviceId now)
  | .command tenantId commandId => .found (s.command tenantId commandId)
  | .commands tenantId => .commands (s.tenantCommands tenantId)
  | .quarantined tenantId => .devices (s.quarantined tenantId)
  | .events tenantId => .events (eventsOf s.events tenantId)
  | .replay tenantId => .replay (FleetOperationsService.replay env s.events tenantId)

def serve (s : FleetOperationsService ω) : Asked ω → FleetOperationsService ω × FleetAnswer
  | .request op => ((apply env s op).walked w, s.answer env op)
  | .query query => (s, s.ask env query)

/-- The answers, and what each leaves the attached services in. -/
def results (s : FleetOperationsService ω) : List (Asked ω) → List (FleetAnswer × ω)
  | [] => []
  | asked :: later =>
    let served := s.serve w env asked
    (served.2, served.1.world) :: results served.1 later

end FleetOperationsService

variable (w : Dict.Walk String) (env : Env ω)

/-- `Registry.step`, with the maps in their order. -/
def Registry.stepIn (r : Registry ω) : Event ω → Registry ω
  | .request op =>
    let service := (apply env r.service op).walked w
    { r with
      service
      file := if r.storePath ≠ "" ∧ saves env r.service op = true then some service.saved else r.file }
  | .restart world => { r with service := (r.restart world).service.walked w }

/-- A new process, beside the attached services as they are, gives the results that the old one would have given. -/
def Unnoticed (r : Registry ω) : Prop :=
  ∀ later, (r.stepIn w env (.restart r.service.world)).service.results w env later = r.service.results w env later

end Drawer.FleetOps
