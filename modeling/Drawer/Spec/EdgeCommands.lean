import Drawer.Spec.EdgePlatform
import Drawer.Spec.FleetStore

/-! Commands that the edge platform executes through its drivers, a trust service
that was built with a given policy, and the system of the two with the fleet
registry. The platform's drivers are the mocks it registers itself. -/

namespace Drawer.FleetOps
open Veil (TrustEvidenceRecord PolicyConfig PolicyDecision VeilTrustService Digest idFor)

structure EdgeCommandRequest where
  commandId : String := ""
  deviceId : String := ""
  command : String := ""
  parameters : Json String := .obj []
  actorId : String := ""
  requestedAt : Int := 0

structure EdgeCommandResult where
  commandId : String := ""
  deviceId : String := ""
  command : String := ""
  accepted : Bool := false
  executed : Bool := false
  status : String := "rejected"
  reason : String := ""
  completedAt : Int := 0

def EdgeCommandResult.toJson (v : EdgeCommandResult) : Json String :=
  .obj [("command_id", .str v.commandId), ("device_id", .str v.deviceId), ("command", .str v.command),
    ("accepted", .bool v.accepted), ("executed", .bool v.executed), ("status", .str v.status), ("reason", .str v.reason),
    ("completed_at", .int v.completedAt)]

/-! ### Drivers -/

structure MockEdgeDriver where
  deviceType : String
  capabilities : List String
  healthy : Bool := true

def MockEdgeDriver.execute (m : MockEdgeDriver) (d : EdgeDevice) (request : EdgeCommandRequest) : EdgeCommandResult :=
  let result : EdgeCommandResult :=
    { commandId := request.commandId, deviceId := d.deviceId, command := request.command
      completedAt := request.requestedAt }
  if m.healthy then
    { result with accepted := true, executed := true, status := "executed", reason := "mock_driver_executed" }
  else { result with status := "failed", reason := "driver_unhealthy" }

def makeMockDriver (deviceType : String) : MockEdgeDriver :=
  { deviceType, capabilities := defaultCapabilitiesForType deviceType }

/-- The driver that the platform has registered under the id. -/
def driverOf (driverId : String) : Option MockEdgeDriver :=
  (supportedTypes.find? fun deviceType => "mock-" ++ deviceType = driverId).map makeMockDriver

/-! ### Commands -/

namespace EdgePlatformService

def capabilityForCommand (command : String) : String :=
  if command = "lock" || command = "unlock" then "lock_control"
  else if command = "open" || command = "close" then "open_close"
  else if command = "dispense_cash" then "cash_out"
  else if command = "accept_cash" then "cash_in"
  else if command = "count_cash" || command = "reconcile_device" then "inventory"
  else if command = "run_self_test" then "sensor_telemetry"
  else if command = "rotate_keys" then "identity"
  else if command = "export_evidence" then "evidence_export"
  else if command = "enter_maintenance_mode" || command = "exit_maintenance_mode" then "command_execution"
  else ""

def highRiskCommand (command : String) : Bool :=
  command ∈ ["lock", "unlock", "open", "dispense_cash", "accept_cash", "rotate_keys", "export_evidence",
    "enter_maintenance_mode"]

def emitEventLocked (s : EdgePlatformService) (tenantId deviceId eventType : String) (now : Int) (metadata : Json String) :
    EdgePlatformService :=
  { s with events := s.events ++ [⟨idFor "edge-event" s.events.length, tenantId, deviceId, eventType, now, metadata⟩] }

/-- `simulator_[deviceId]`, which enters a default state where there is none. -/
def simulatorAt (s : EdgePlatformService) (deviceId : String) : EdgePlatformService × SimulatorState :=
  let state := (s.simulator.lookup deviceId).getD ⟨"", true, [], .obj []⟩
  ({ s with simulator := s.simulator.insert deviceId state }, state)

end EdgePlatformService

/-- `j[key] = b`. -/
def setFlag (j : Json String) (key : String) (b : Bool) : Except Exn (Json String) :=
  match j with
  | .null => .ok (.obj [(key, .bool b)])
  | .obj members => .ok (.obj (members.filter (fun m => m.1 ≠ key) ++ [(key, .bool b)]))
  | _ => .error (.typeError 305)

/-- What the platform keeps of its commands. -/
structure EdgeCommands where
  results : List EdgeCommandResult := []
  count : Dict String ℕ := ∅
  failures : Dict String ℕ := ∅

/-- The request with an id. -/
def EdgeCommands.named (k : EdgeCommands) (request : EdgeCommandRequest) : EdgeCommandRequest :=
  { request with commandId := if request.commandId = "" then idFor "edge-command" k.results.length else request.commandId }

/-- The result is kept and counted. -/
def EdgeCommands.record (k : EdgeCommands) (deviceId : String) (result : EdgeCommandResult) : EdgeCommands where
  results := k.results ++ [result]
  count := k.count.insert deviceId ((k.count.lookup deviceId).getD 0 + 1)
  failures :=
    if result.executed then k.failures
    else k.failures.insert deviceId ((k.failures.lookup deviceId).getD 0 + 1)

section
variable {τ : Type} (c : Wiring τ)

/-- `emit_trust_evidence_locked`. -/
def Wiring.edgeEvidence (w : Site τ) (d : EdgeDevice) (eventType : String) (now : Int) (payload : Json String) : Site τ :=
  match c.edgeTrust with
  | none => w
  | some api =>
    let evidence : TrustEvidenceRecord :=
      { tenantId := d.tenantId, deviceId := d.deviceId, merchantId := d.merchantId, branchId := d.branchId
        region := d.region, eventType, sourceModule := "edge_platform", timestamp := now
        policyContext := .obj [("device_type", .str d.deviceType), ("capabilities", FleetControl.strs d.capabilities)]
        classificationLabels := ["financial_edge_device"], sensitivityLabels := ["cash_ops", "device_control"]
        auditEventId := idFor "edge-audit" w.edge.events.length
        correlationId := d.deviceId ++ ":" ++ eventType ++ ":" ++ epochString now, payload }
    { w with trust := api.createEvidence w.trust evidence }

/-- The answer of the trust service about a command; without one, and for a command of no high risk, it is yes. -/
def Wiring.edgeAllows (w : Site τ) (d : EdgeDevice) (capability : String) (request : EdgeCommandRequest) : Site τ × Bool :=
  match c.edgeTrust with
  | none => (w, true)
  | some api =>
    if EdgePlatformService.highRiskCommand request.command then
      let answer := api.policyAllowsOrFailClosed w.trust d.tenantId d.deviceId request.command
        (.obj [("device_type", .str d.deviceType), ("capability", .str capability)]) request.requestedAt
      ({ w with trust := answer.1 }, answer.2)
    else (w, true)

/-- The end of `execute_command` for a request that is rejected. -/
def rejectCommand (w : Site τ) (k : EdgeCommands) (d : Option EdgeDevice) (request : EdgeCommandRequest)
    (reason eventType : String) : Site τ × EdgeCommands × Except Exn EdgeCommandResult :=
  let result : EdgeCommandResult :=
    { commandId := request.commandId, deviceId := request.deviceId, command := request.command, reason
      completedAt := request.requestedAt }
  let edge :=
    match d with
    | none => w.edge
    | some d => w.edge.emitEventLocked d.tenantId request.deviceId eventType request.requestedAt
      (.obj [("command", .str request.command)])
  ({ w with edge }, k.record request.deviceId result, .ok result)

/-- What `execute_command` does about maintenance mode after the driver's `result`. -/
def maintain (w : Site τ) (d : EdgeDevice) (request : EdgeCommandRequest) : Site τ × Except Exn Unit :=
  let mode :=
    if request.command = "enter_maintenance_mode" then some (true, "maintenance_mode_entered")
    else if request.command = "exit_maintenance_mode" then some (false, "maintenance_mode_exited")
    else none
  match mode with
  | none => (w, .ok ())
  | some (on, eventType) =>
    let (edge, state) := w.edge.simulatorAt request.deviceId
    match setFlag state.sensorTelemetry "maintenance_mode" on with
    | .error e => ({ w with edge }, .error e)
    | .ok sensorTelemetry =>
      let edge := { edge with simulator := edge.simulator.insert request.deviceId { state with sensorTelemetry } }
      ({ w with edge := edge.emitEventLocked d.tenantId d.deviceId eventType request.requestedAt .null }, .ok ())

/-- The end of `execute_command` for a request that the driver has answered with `result`. -/
def Wiring.finishCommand (w : Site τ) (k : EdgeCommands) (d : EdgeDevice) (capability : String)
    (request : EdgeCommandRequest) (result : EdgeCommandResult) : Site τ × EdgeCommands × Except Exn EdgeCommandResult :=
  let k := k.record request.deviceId result
  let eventType := if result.executed then "driver_command_executed" else "driver_command_failed"
  let edge := w.edge.emitEventLocked d.tenantId d.deviceId eventType request.requestedAt
    (.obj [("command", .str request.command), ("status", .str result.status)])
  match maintain { w with edge } d request with
  | (w, .error e) => (w, k, .error e)
  | (w, .ok ()) =>
    let w :=
      if EdgePlatformService.highRiskCommand request.command then
        c.edgeEvidence w d "edge_command_executed" request.requestedAt
          (.obj [("command", .str request.command), ("capability", .str capability), ("result", result.toJson)])
      else w
    (w, k, .ok result)

/-- `execute_command` for a device that is online and has the capability. -/
def Wiring.executeAllowed (w : Site τ) (k : EdgeCommands) (d : EdgeDevice) (capability : String)
    (request : EdgeCommandRequest) : Site τ × EdgeCommands × Except Exn EdgeCommandResult :=
  let (w, allowed) := c.edgeAllows w d capability request
  if !allowed then
    let w := c.edgeEvidence w d "edge_policy_denied_command" request.requestedAt (.obj [("command", .str request.command)])
    rejectCommand w k (some d) request "policy_denied" "driver_command_failed"
  else
    match driverOf d.driverId with
    | none => rejectCommand w k (some d) request "driver_missing" "driver_command_failed"
    | some driver => c.finishCommand w k d capability request (driver.execute d request)

def Wiring.executeCommand (w : Site τ) (k : EdgeCommands) (request : EdgeCommandRequest) :
    Site τ × EdgeCommands × Except Exn EdgeCommandResult :=
  let request := k.named request
  match w.edge.devices.lookup request.deviceId with
  | none => rejectCommand w k none request "unknown_device" "driver_command_failed"
  | some d =>
    let capability := EdgePlatformService.capabilityForCommand request.command
    if capability = "" then
      let w := c.edgeEvidence w d "unsupported_command_rejected" request.requestedAt
        (.obj [("command", .str request.command), ("reason", .str "unknown_command")])
      rejectCommand w k (some d) request "unsupported_command" "unsupported_command_rejected"
    else if capability ∉ d.capabilities then
      let w := c.edgeEvidence w d "unsupported_command_rejected" request.requestedAt
        (.obj [("command", .str request.command), ("required_capability", .str capability)])
      rejectCommand w k (some d) request ("missing_capability:" ++ capability) "unsupported_command_rejected"
    else
      let (edge, state) := w.edge.simulatorAt request.deviceId
      let w := { w with edge }
      if !state.online then rejectCommand w k (some d) request "device_offline" "driver_command_failed"
      else c.executeAllowed w k d capability request

end

/-! ### A trust service with a given policy -/

/-- The trust service keeps the policy it was built with; its client has a state of its own. -/
structure GuardedTrust (p : PolicyConfig) (κ : Type) where
  service : VeilTrustService
  client : κ
  configured : service.policy = p

/-- What a policy client answers about an action of a tenant's device. -/
abbrev PolicyClient (κ : Type) := κ → String → String → String → Json String → κ × PolicyDecision

/-- The trust service with the policy `p`, as the registry and the platform use it. -/
def guardedTrust {p : PolicyConfig} {κ : Type} (h : Digest) (verify : PolicyClient κ) : TrustApi (GuardedTrust p κ) where
  createEvidence w e := { w with service := (w.service.createEvidence h e).1 }
  policyAllowsOrFailClosed w tenantId deviceId action context now :=
    let answer := verify w.client tenantId deviceId action context
    let r := w.service.policyAllowsOrFailClosed answer.2 tenantId deviceId action context now
    ({ service := r.1, client := answer.1, configured := w.configured }, r.2)

/-! ### The system -/

/-- The fleet registry with its store, and what the edge platform keeps of its commands. -/
structure Plant (τ : Type) where
  registry : Registry (Site τ)
  commands : EdgeCommands := {}

/-- What happens to the two: a request to the registry or its restart, a command to the platform, or a new process of
the platform, which finds some results in its store. -/
inductive PlantEvent (τ : Type) where
  | fleet (e : Event (Site τ))
  | execute (request : EdgeCommandRequest)
  | edgeRestart (results : List EdgeCommandResult)

def Plant.step {τ : Type} (c : Wiring τ) (s : Plant τ) : PlantEvent τ → Plant τ
  | .fleet e => { s with registry := s.registry.step c.env e }
  | .execute request =>
    let r := c.executeCommand s.registry.service.world s.commands request
    { registry := { s.registry with service := { s.registry.service with world := r.1 } }, commands := r.2.1 }
  | .edgeRestart results => { s with commands := { results } }

/-- What an event owes a policy that fails closed: no command is dispatched, no device recovers, and no command of
high risk gets to a driver. -/
structure FailsClosed {τ : Type} (c : Wiring τ) (s : Plant τ) (e : PlantEvent τ) : Prop where
  undispatched : ∀ id v, (s.step c e).registry.service.commands.lookup id = some v → v.state ≠ "dispatched"
  unrecovered : ∀ tenantId deviceId now, e = .fleet (.request (.recover tenantId deviceId now)) →
    (s.registry.service.recover c.env tenantId deviceId now).2 ≠ .ok .ok
  unexecuted : ∀ request, e = .execute request → EdgePlatformService.highRiskCommand request.command = true →
    ∃ result, (c.executeCommand s.registry.service.world s.commands request).2.2 = .ok result ∧
      result.executed = false ∧ result.status = "rejected"

end Drawer.FleetOps
