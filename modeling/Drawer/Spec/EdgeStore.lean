import Drawer.Spec.EdgeCommands

/-! The rest of the edge platform: inventories, the simulator, health, and the store
that a new process loads. Quantities are whole numbers, without overflow. -/

namespace Drawer.FleetOps
open Json
open Veil (ChainVerificationResult EvidenceFilter idFor)
open FleetControl (FleetControlPlane)

/-! ### Records -/

structure DriverMetadata where
  driverId : String
  vendor : String
  deviceType : String
  version : String
  health : String
  supportedCapabilities : List String

structure EdgeHealthSummary where
  deviceId : String := ""
  deviceType : String := ""
  score : ℕ := 100
  factors : Labels := []
  explanations : List String := []

def EdgeDevice.toJson (v : EdgeDevice) : Json String :=
  .obj [("device_id", .str v.deviceId), ("tenant_id", .str v.tenantId), ("merchant_id", .str v.merchantId),
    ("branch_id", .str v.branchId), ("region", .str v.region), ("device_type", .str v.deviceType),
    ("driver_id", .str v.driverId), ("firmware_version", .str v.firmwareVersion), ("capabilities", texts v.capabilities),
    ("labels", labelsJson v.labels)]

def EdgeDevice.fromJson (j : Json String) : Except Exn EdgeDevice := do
  let deviceId ← j.value "device_id" getStr ""
  let tenantId ← j.value "tenant_id" getStr ""
  let merchantId ← j.value "merchant_id" getStr ""
  let branchId ← j.value "branch_id" getStr ""
  let region ← j.value "region" getStr ""
  let deviceType ← j.value "device_type" getStr "cash_drawer"
  let driverId ← j.value "driver_id" getStr ""
  let firmwareVersion ← j.value "firmware_version" getStr ""
  let capabilities ← j.value "capabilities" (getArr getStr) []
  let labels ← j.value "labels" (getObj getStr) []
  return { deviceId, tenantId, merchantId, branchId, region, deviceType, driverId, firmwareVersion, capabilities, labels }

def CapabilityMetadata.toJson (v : CapabilityMetadata) : Json String :=
  .obj [("capability", .str v.capability), ("description", .str v.description), ("high_risk", .bool v.highRisk)]

def CapabilityMetadata.fromJson (j : Json String) : Except Exn CapabilityMetadata := do
  let capability ← j.value "capability" getStr ""
  let description ← j.value "description" getStr ""
  let highRisk ← j.value "high_risk" getBool false
  return { capability, description, highRisk }

def EdgeInventoryCompartment.toJson (v : EdgeInventoryCompartment) : Json String :=
  .obj [("compartment_id", .str v.compartmentId), ("compartment_type", .str v.compartmentType),
    ("currency", .str v.currency), ("denominations", .obj (v.denominations.map fun m => (m.1, .int m.2))),
    ("status", .str v.status)]

def EdgeInventoryCompartment.fromJson (j : Json String) : Except Exn EdgeInventoryCompartment := do
  let compartmentId ← j.value "compartment_id" getStr ""
  let compartmentType ← j.value "compartment_type" getStr ""
  let currency ← j.value "currency" getStr ""
  let denominations ← j.value "denominations" (getObj getInt) []
  let status ← j.value "status" getStr "ok"
  return { compartmentId, compartmentType, currency, denominations, status }

def EdgeInventoryView.toJson (v : EdgeInventoryView) : Json String :=
  .obj [("device_id", .str v.deviceId), ("compartments", .arr (v.compartments.map EdgeInventoryCompartment.toJson)),
    ("updated_at", .int v.updatedAt)]

def EdgeInventoryView.fromJson (j : Json String) : Except Exn EdgeInventoryView := do
  let deviceId ← j.value "device_id" getStr ""
  let compartments ← j.value "compartments" (getArr EdgeInventoryCompartment.fromJson) []
  let updatedAt ← j.value "updated_at" getInt 0
  return { deviceId, compartments, updatedAt }

def SimulatorState.toJson (v : SimulatorState) : Json String :=
  .obj [("device_id", .str v.deviceId), ("online", .bool v.online), ("faults", texts v.faults),
    ("sensor_telemetry", v.sensorTelemetry)]

def SimulatorState.fromJson (j : Json String) : Except Exn SimulatorState := do
  let deviceId ← j.value "device_id" getStr ""
  let online ← j.value "online" getBool true
  let faults ← j.value "faults" (getArr getStr) []
  let sensorTelemetry ← j.value "sensor_telemetry" .ok (.obj [])
  return { deviceId, online, faults, sensorTelemetry }

def EdgeCommandResult.fromJson (j : Json String) : Except Exn EdgeCommandResult := do
  let commandId ← j.value "command_id" getStr ""
  let deviceId ← j.value "device_id" getStr ""
  let command ← j.value "command" getStr ""
  let accepted ← j.value "accepted" getBool false
  let executed ← j.value "executed" getBool false
  let status ← j.value "status" getStr "rejected"
  let reason ← j.value "reason" getStr ""
  let completedAt ← j.value "completed_at" getInt 0
  return { commandId, deviceId, command, accepted, executed, status, reason, completedAt }

def EdgeEvent.toJson (v : EdgeEvent) : Json String :=
  .obj [("event_id", .str v.eventId), ("tenant_id", .str v.tenantId), ("device_id", .str v.deviceId),
    ("event_type", .str v.eventType), ("occurred_at", .int v.occurredAt), ("metadata", v.metadata)]

def EdgeEvent.fromJson (j : Json String) : Except Exn EdgeEvent := do
  let eventId ← j.value "event_id" getStr ""
  let tenantId ← j.value "tenant_id" getStr ""
  let deviceId ← j.value "device_id" getStr ""
  let eventType ← j.value "event_type" getStr ""
  let occurredAt ← j.value "occurred_at" getInt 0
  let metadata ← j.value "metadata" .ok (.obj [])
  return { eventId, tenantId, deviceId, eventType, occurredAt, metadata }

/-! ### Requests -/

def MockEdgeDriver.metadata (m : MockEdgeDriver) : DriverMetadata :=
  ⟨"mock-" ++ m.deviceType, "mock", m.deviceType, "1.0.0", if m.healthy then "healthy" else "faulted", m.capabilities⟩

namespace EdgePlatformService

/-- The device under its own id. -/
def enterDevice (s : EdgePlatformService) (d : EdgeDevice) : EdgePlatformService :=
  { s with devices := s.devices.insert d.deviceId d, keyed := keyed_insert s d }

def registerCapability (s : EdgePlatformService) (deviceId : String) (capability : CapabilityMetadata) :
    EdgePlatformService × Bool :=
  match s.devices.lookup deviceId with
  | none => (s, false)
  | some d =>
    if capability.capability = "" then (s, false)
    else
      let s := if capability.capability ∈ d.capabilities then s
        else s.enterDevice { d with capabilities := d.capabilities ++ [capability.capability] }
      let known := (s.capabilities.lookup deviceId).getD []
      ({ s with capabilities := s.capabilities.insert deviceId (known ++ [capability]) }.emitEventLocked d.tenantId deviceId
        "device_capability_registered" 0 (.obj [("capability", .str capability.capability)]), true)

/-- `EdgePlatformService::capabilities`. -/
def capabilitiesOf (s : EdgePlatformService) (deviceId : String) : List CapabilityMetadata :=
  (s.capabilities.lookup deviceId).getD []

/-- `EdgePlatformService::inventory`. -/
def inventory (s : EdgePlatformService) (deviceId : String) : EdgeInventoryView :=
  (s.inventories.lookup deviceId).getD ⟨deviceId, [], 0⟩

/-- `EdgePlatformService::events`. -/
def eventsOf (s : EdgePlatformService) (tenantId : String) : List EdgeEvent :=
  s.events.filter fun e => tenantId = "" || e.tenantId = tenantId

/-- `inventories_[deviceId]`, which enters an empty inventory where there is none. -/
def inventoryAt (s : EdgePlatformService) (deviceId : String) : EdgePlatformService × EdgeInventoryView :=
  let inventory := (s.inventories.lookup deviceId).getD ⟨"", [], 0⟩
  ({ s with inventories := s.inventories.insert deviceId inventory }, inventory)

/-- `denominations["100"] += quantity`. -/
def addHundreds (denominations : List (String × Int)) (quantity : Int) : List (String × Int) :=
  let before := denominations.takeWhile fun m => m.1 < "100"
  match denominations.dropWhile fun m => m.1 < "100" with
  | [] => before ++ [("100", quantity)]
  | m :: rest => if m.1 = "100" then before ++ (m.1, m.2 + quantity) :: rest else before ++ ("100", quantity) :: m :: rest

/-- What the action does to the device's state, and the fault it makes. -/
def simulated (state : SimulatorState) (action : String) (parameters : Json String) :
    Except Exn (SimulatorState × Option String) :=
  if action = "offline" then .ok ({ state with online := false }, none)
  else if action = "online" then .ok ({ state with online := true }, none)
  else if action = "fault" then do
    let fault ← parameters.value "fault" getStr "simulated_fault"
    return ({ state with faults := state.faults ++ [fault] }, some fault)
  else if action = "telemetry" then .ok ({ state with sensorTelemetry := parameters }, none)
  else .ok (state, none)

/-- The inventory after cash came in. -/
def cashIn (inventory : EdgeInventoryView) (parameters : Json String) (now : Int) : Except Exn EdgeInventoryView :=
  match inventory.compartments with
  | [] => .ok { inventory with updatedAt := now }
  | c :: rest => do
    let quantity ← parameters.value "quantity" getInt32 1
    return { inventory with
      compartments := { c with denominations := addHundreds c.denominations quantity.toInt } :: rest, updatedAt := now }

def reportFault (s : EdgePlatformService) (tenantId deviceId : String) (fault : Option String) (now : Int) :
    EdgePlatformService :=
  match fault with
  | none => s
  | some fault => s.emitEventLocked tenantId deviceId "device_fault_detected" now (.obj [("fault", .str fault)])

/-- What `simulate` does about the action `cash_in`. -/
def takeCash (s : EdgePlatformService) (tenantId deviceId : String) (parameters : Json String) (now : Int) :
    EdgePlatformService × Except Exn Unit :=
  let (s, inventory) := s.inventoryAt deviceId
  match cashIn inventory parameters now with
  | .error e => (s, .error e)
  | .ok inventory =>
    ({ s with inventories := s.inventories.insert deviceId inventory }.emitEventLocked tenantId deviceId
      "edge_inventory_updated" now (.obj [("simulated", .bool true)]), .ok ())

def simulate (s : EdgePlatformService) (deviceId action : String) (parameters : Json String) (now : Int) :
    EdgePlatformService × Except Exn SimulatorState :=
  match s.devices.lookup deviceId with
  | none => (s, .ok ⟨deviceId, false, ["unknown_device"], .null⟩)
  | some d =>
    let (s, state) := s.simulatorAt deviceId
    match simulated state action parameters with
    | .error e => (s, .error e)
    | .ok (state, fault) =>
      let s := { s with simulator := s.simulator.insert deviceId state }.reportFault d.tenantId deviceId fault now
      let (s, cash) := if action = "cash_in" then s.takeCash d.tenantId deviceId parameters now else (s, .ok ())
      match cash with
      | .error e => (s, .error e)
      | .ok () =>
        (s.emitEventLocked d.tenantId deviceId "simulator_event_generated" now
          (.obj [("action", .str action), ("parameters", parameters)]), .ok state)

/-- What health reads of the sensors. -/
def readings (telemetry : Json String) : Except Exn (String × Bool) := do
  let lock ← telemetry.value "lock" getStr "unknown"
  let maintenance ← telemetry.value "maintenance_mode" getBool false
  return (lock, maintenance)

def badCompartments (inventory : EdgeInventoryView) : ℕ :=
  (inventory.compartments.filter fun c => c.status ≠ "ok").length

/-- The command failure rate, and what it takes off the score. -/
def failureRate (failed total : ℕ) : String × ℕ :=
  if total = 0 then ("0/0", 0) else (toString failed ++ "/" ++ toString total, failed * 20 / total)

/-- The summary of a device; `chain` is whether its evidence verifies, if there is a trust service. -/
def summary (d : EdgeDevice) (deviceId : String) (state : SimulatorState) (inventory : EdgeInventoryView)
    (sensors : String × Bool) (failed total : ℕ) (chain : Option Bool) : EdgeHealthSummary :=
  let bad := badCompartments inventory
  let faults := state.faults.length
  let rate := failureRate failed total
  let penalty := (if state.online then 0 else 25) + faults * 15 + bad * 10 + (if sensors.2 then 10 else 0) + rate.2 +
    (if chain = some false then 20 else 0)
  { deviceId, deviceType := d.deviceType, score := 100 - penalty
    factors :=
      [("sensor_health", if state.online then "online" else "offline")] ++
      (if faults = 0 then [] else [("cash_jam_fault_indicators", toString faults)]) ++
      [("compartment_status", toString bad), ("lock_health", sensors.1),
       ("maintenance_state", if sensors.2 then "maintenance" else "normal"), ("command_failure_rate", rate.1),
       ("evidence_chain_health",
        match chain with
        | none => "unavailable"
        | some valid => if valid then "valid" else "invalid")]
    explanations :=
      (if state.online then [] else ["device simulator is offline"]) ++
      (if faults = 0 then [] else ["simulated faults reduced score"]) }

end EdgePlatformService

/-! ### The store -/

namespace EdgePlatformService

/-- What `save_locked` writes. -/
def saved (s : EdgePlatformService) (results : List EdgeCommandResult) : Json String :=
  .obj [("schema", .int 1), ("devices", mapValues EdgeDevice.toJson s.devices),
    ("capabilities", mapObject (fun l => .arr (l.map CapabilityMetadata.toJson)) s.capabilities),
    ("inventories", mapValues EdgeInventoryView.toJson s.inventories),
    ("simulator", mapValues SimulatorState.toJson s.simulator),
    ("command_results", .arr (results.map EdgeCommandResult.toJson)), ("events", .arr (s.events.map EdgeEvent.toJson))]

/-- One round of the loop over the capabilities. -/
def readCapabilities (item : String × Json String) : Except Exn (String × List CapabilityMetadata) := do
  let capabilities ← getArr CapabilityMetadata.fromJson item.2
  return (item.1, capabilities)

/-- `load`. The capabilities are walked after the value that holds them is gone. -/
def load (walk : Walk String) (j : Json String) : Except Exn (EdgePlatformService × List EdgeCommandResult) := do
  let devices ← j.value "devices" .ok (.arr [])
  let devices ← devices.elements.mapM EdgeDevice.fromJson
  let capabilities ← j.value "capabilities" .ok (.obj [])
  let capabilities ← walk capabilities
  let capabilities ← capabilities.mapM readCapabilities
  let capabilities := capabilities.foldl (fun m e => m.insert e.1 e.2) ∅
  let inventories ← readValues j "inventories" EdgeInventoryView.fromJson EdgeInventoryView.deviceId
  let simulator ← readValues j "simulator" SimulatorState.fromJson SimulatorState.deviceId
  let results ← j.value "command_results" (getArr EdgeCommandResult.fromJson) []
  let events ← j.value "events" (getArr EdgeEvent.fromJson) []
  return (devices.foldl enterDevice { capabilities, inventories, simulator, events }, results)

end EdgePlatformService

/-- The services the platform was built with; `verifyChain` is the trust service's verifier. -/
structure EdgeWiring (τ : Type) extends Wiring τ where
  verifyChain : τ → EvidenceFilter → τ × ChainVerificationResult

/-- A process of the platform with its store, and the attached services. -/
structure EdgeHost (τ : Type) where
  site : Site τ
  commands : EdgeCommands := {}
  file : StoreFile := .missing

/-- A request to the platform. Others may use the attached services at any time. -/
inductive EdgeOp (τ : Type) where
  | registerDevice (device : EdgeDevice)
  | registerCapability (deviceId : String) (capability : CapabilityMetadata)
  | devices (tenantId : String)
  | capabilities (deviceId : String)
  | drivers
  | executeCommand (request : EdgeCommandRequest)
  | inventory (deviceId : String)
  | updateInventory (inventory : EdgeInventoryView)
  | simulate (deviceId action : String) (parameters : Json String) (now : Int)
  | health (deviceId : String)
  | events (tenantId : String)
  | outside (f : FleetControlPlane × τ → FleetControlPlane × τ)

/-- What a request returns, or raises. The devices come in the order of an unordered map. -/
inductive EdgeReply where
  | done
  | ok (b : Bool)
  | devices (l : Multiset EdgeDevice)
  | capabilities (l : List CapabilityMetadata)
  | drivers (l : List DriverMetadata)
  | result (r : EdgeCommandResult)
  | inventory (v : EdgeInventoryView)
  | state (v : SimulatorState)
  | health (v : EdgeHealthSummary)
  | events (l : List EdgeEvent)
  | thrown (e : Exn)

/-- What happens to the platform: a request, with the way its save comes out if it gets there, or a new process. -/
inductive EdgeTurn (τ : Type) where
  | request (op : EdgeOp τ) (saved : Saving)
  | restart

namespace EdgeHost

variable {τ : Type} (c : EdgeWiring τ)

/-- `save_locked`, and the answer after it. -/
def saveLocked (h : EdgeHost τ) (saved : Saving) (reply : EdgeReply) : EdgeHost τ × EdgeReply :=
  match saved with
  | .done => ({ h with file := .holds (h.site.edge.saved h.commands.results) }, reply)
  | .raised e emptied => ({ h with file := if emptied then .emptied else h.file }, .thrown e)

def withEdge (h : EdgeHost τ) (edge : EdgePlatformService) : EdgeHost τ := { h with site := { h.site with edge } }

def updateInventory (h : EdgeHost τ) (inventory : EdgeInventoryView) (saved : Saving) : EdgeHost τ × EdgeReply :=
  match h.site.edge.devices.lookup inventory.deviceId with
  | none => (h, .ok false)
  | some d =>
    let edge := { h.site.edge with inventories := h.site.edge.inventories.insert inventory.deviceId inventory }
    let edge := edge.emitEventLocked d.tenantId inventory.deviceId "edge_inventory_updated" inventory.updatedAt
      (.obj [("compartments", .int inventory.compartments.length)])
    let site := c.edgeEvidence { h.site with edge } d "edge_inventory_updated" inventory.updatedAt inventory.toJson
    { h with site }.saveLocked saved (.ok true)

/-- The verification of the device's evidence. -/
def chainHealth (site : Site τ) (tenantId deviceId : String) : Site τ × Option Bool :=
  match c.edgeTrust with
  | none => (site, none)
  | some _ =>
    let answer := c.verifyChain site.trust { tenantId, deviceId }
    ({ site with trust := answer.1 }, some answer.2.valid)

/-- `health_locked`. A counter that was never set is zero. -/
def healthLocked (h : EdgeHost τ) (deviceId : String) : EdgeHost τ × Except Exn EdgeHealthSummary :=
  match h.site.edge.devices.lookup deviceId with
  | none => (h, .ok { deviceId, score := 0, explanations := ["unknown device"] })
  | some d =>
    let (edge, state) := h.site.edge.simulatorAt deviceId
    let (edge, inventory) := edge.inventoryAt deviceId
    let h := h.withEdge edge
    match EdgePlatformService.readings state.sensorTelemetry with
    | .error e => (h, .error e)
    | .ok sensors =>
      let (site, chain) := chainHealth c h.site d.tenantId deviceId
      ({ h with site }, .ok (EdgePlatformService.summary d deviceId state inventory sensors
        ((h.commands.failures.lookup deviceId).getD 0) ((h.commands.count.lookup deviceId).getD 0) chain))

def step (h : EdgeHost τ) (op : EdgeOp τ) (saved : Saving) : EdgeHost τ × EdgeReply :=
  match op with
  | .registerDevice device =>
    let r := c.registerDevice h.site device
    if r.2 then { h with site := r.1 }.saveLocked saved (.ok true) else (h, .ok false)
  | .registerCapability deviceId capability =>
    let r := h.site.edge.registerCapability deviceId capability
    if r.2 then (h.withEdge r.1).saveLocked saved (.ok true) else (h, .ok false)
  | .devices tenantId => (h, .devices (h.site.edge.tenantDevices tenantId))
  | .capabilities deviceId => (h, .capabilities (h.site.edge.capabilitiesOf deviceId))
  | .drivers => (h, .drivers (supportedTypes.map fun deviceType => (makeMockDriver deviceType).metadata))
  | .executeCommand request =>
    let r := c.executeCommand h.site h.commands request
    let h := { h with site := r.1, commands := r.2.1 }
    match r.2.2 with
    | .ok result => h.saveLocked saved (.result result)
    | .error e => (h, .thrown e)
  | .inventory deviceId => (h, .inventory (h.site.edge.inventory deviceId))
  | .updateInventory inventory => h.updateInventory c inventory saved
  | .simulate deviceId action parameters now =>
    let r := h.site.edge.simulate deviceId action parameters now
    match r.2 with
    | .ok state =>
      if (h.site.edge.devices.lookup deviceId).isSome then (h.withEdge r.1).saveLocked saved (.state state)
      else (h, .state state)
    | .error e => (h.withEdge r.1, .thrown e)
  | .health deviceId =>
    let r := h.healthLocked c deviceId
    match r.2 with
    | .ok summary => r.1.saveLocked saved (.health summary)
    | .error e => (r.1, .thrown e)
  | .events tenantId => (h, .events (h.site.edge.eventsOf tenantId))
  | .outside f =>
    let w := f (h.site.plane, h.site.trust)
    ({ h with site := { h.site with plane := w.1, trust := w.2 } }, .done)

/-- A new process, with the attached services as they are. There is none if the store cannot be read. -/
def restart (walk : Walk String) (h : EdgeHost τ) : Option (EdgeHost τ) :=
  match h.file with
  | .missing => some { h with site := { h.site with edge := {} }, commands := {} }
  | .emptied => none
  | .holds j =>
    match EdgePlatformService.load walk j with
    | .ok (edge, results) => some { h with site := { h.site with edge }, commands := { results } }
    | .error _ => none

def turn (walk : Walk String) : Option (EdgeHost τ) → EdgeTurn τ → Option (EdgeHost τ)
  | none, _ => none
  | some h, .request op saved => some (h.step c op saved).1
  | some h, .restart => h.restart walk

/-- What the requests return, one after the other, as long as they can be saved. -/
def replies (h : EdgeHost τ) : List (EdgeOp τ) → List EdgeReply
  | [] => []
  | op :: ops => (h.step c op .done).2 :: replies (h.step c op .done).1 ops

/-- A platform with its services, before its first request. -/
def start (plane : FleetControlPlane) (trust : τ) : EdgeHost τ := { site := { plane, trust } }

end EdgeHost
end Drawer.FleetOps
