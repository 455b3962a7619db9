import Drawer.Spec.FleetControl
import Drawer.Spec.Lifecycle

/-! The edge platform's device registry, and the fleet registry with it attached.
The platform passes a device on to the control plane and to a trust service, if
it was built with them. Its drivers, its commands and its store are left out. -/

namespace Drawer.FleetOps
open Veil (TrustEvidenceRecord idFor)
open FleetControl (FleetControlPlane DeviceRegistryRecord)

structure CapabilityMetadata where
  capability : String
  description : String
  highRisk : Bool

structure EdgeInventoryCompartment where
  compartmentId : String
  compartmentType : String
  currency : String
  denominations : List (String × Int)
  status : String

structure EdgeInventoryView where
  deviceId : String
  compartments : List EdgeInventoryCompartment
  updatedAt : Int

structure SimulatorState where
  deviceId : String
  online : Bool
  faults : List String
  sensorTelemetry : Json String

structure EdgeEvent where
  eventId : String
  tenantId : String
  deviceId : String
  eventType : String
  occurredAt : Int
  metadata : Json String

def supportedTypes : List String :=
  ["cash_drawer", "smart_safe", "cash_recycler", "teller_station", "kiosk", "atm_like_terminal"]

def knownDeviceType (deviceType : String) : Bool := deviceType ∈ supportedTypes

def defaultCapabilitiesForType (deviceType : String) : List String :=
  if deviceType = "cash_drawer" then
    ["inventory", "cash_out", "open_close", "lock_control", "sensor_telemetry", "command_execution",
     "firmware_update", "identity", "evidence_export"]
  else if deviceType = "smart_safe" then
    ["inventory", "cash_in", "open_close", "lock_control", "sensor_telemetry", "command_execution",
     "firmware_update", "identity", "evidence_export"]
  else if deviceType = "cash_recycler" then
    ["inventory", "cash_in", "cash_out", "lock_control", "sensor_telemetry", "command_execution",
     "firmware_update", "identity", "evidence_export"]
  else if deviceType = "teller_station" then
    ["inventory", "cash_in", "cash_out", "open_close", "sensor_telemetry", "command_execution",
     "firmware_update", "identity", "evidence_export"]
  else if deviceType = "kiosk" then
    ["inventory", "cash_in", "cash_out", "lock_control", "sensor_telemetry", "command_execution",
     "firmware_update", "identity", "evidence_export"]
  else if deviceType = "atm_like_terminal" then
    ["inventory", "cash_out", "lock_control", "sensor_telemetry", "command_execution", "firmware_update",
     "identity", "evidence_export"]
  else []

def compartmentFor (deviceType : String) : String :=
  if deviceType = "kiosk" || deviceType = "atm_like_terminal" then "terminal_cash_slot"
  else if deviceType = "teller_station" then "teller_drawer"
  else if deviceType = "cash_recycler" then "recycler_bin"
  else if deviceType = "smart_safe" then "vault_section"
  else "drawer"

def defaultInventoryFor (d : EdgeDevice) : EdgeInventoryView :=
  ⟨d.deviceId, [⟨"main", compartmentFor d.deviceType, "USD", [("100", 10), ("500", 5)], "ok"⟩], 0⟩

def capabilityMetadata (capability : String) : CapabilityMetadata :=
  ⟨capability, "registered edge capability",
   capability ∈ ["lock_control", "cash_out", "command_execution", "evidence_export"]⟩

theorem keyed_none : ∀ k (d : EdgeDevice), (∅ : Dict String EdgeDevice).lookup k = some d → d.deviceId = k := by simp

/-- The platform; every device is kept under its own id. -/
structure EdgePlatformService where
  devices : Dict String EdgeDevice := ∅
  keyed : ∀ k d, devices.lookup k = some d → d.deviceId = k := by exact keyed_none
  capabilities : Dict String (List CapabilityMetadata) := ∅
  inventories : Dict String EdgeInventoryView := ∅
  simulator : Dict String SimulatorState := ∅
  events : List EdgeEvent := []

/-- The device with the driver and the capabilities of its type, where it came without. -/
def withDefaults (d : EdgeDevice) : EdgeDevice :=
  { d with
    driverId := if d.driverId = "" then "mock-" ++ d.deviceType else d.driverId
    capabilities := if d.capabilities = [] then defaultCapabilitiesForType d.deviceType else d.capabilities }

namespace EdgePlatformService

/-- `EdgePlatformService::devices`: those of the tenant, or all. -/
def tenantDevices (s : EdgePlatformService) (tenantId : String) : List EdgeDevice :=
  (s.devices.entries.map Sigma.snd).filter fun d => tenantId = "" || d.tenantId = tenantId

/-- What is reported of a registration. -/
def registrationPayload (d : EdgeDevice) : Json String :=
  .obj [("device_type", .str d.deviceType), ("capabilities", FleetControl.strs d.capabilities)]

theorem keyed_insert (s : EdgePlatformService) (d : EdgeDevice) :
    ∀ k v, (s.devices.insert d.deviceId d).lookup k = some v → v.deviceId = k := by
  intro k v hv
  rw [Dict.lookup_insert_if] at hv
  split_ifs at hv with hk
  · rw [← Option.some.inj hv, hk]
  · exact s.keyed k v hv

/-- The platform's own entries for a device. -/
def insertDevice (s : EdgePlatformService) (d : EdgeDevice) : EdgePlatformService where
  devices := s.devices.insert d.deviceId d
  keyed := keyed_insert s d
  capabilities := s.capabilities.insert d.deviceId (d.capabilities.map capabilityMetadata)
  inventories := s.inventories.insert d.deviceId (defaultInventoryFor d)
  simulator := s.simulator.insert d.deviceId
    ⟨d.deviceId, true, [], .obj [("door", .str "closed"), ("lock", .str "locked")]⟩
  events := s.events ++ [⟨idFor "edge-event" s.events.length, d.tenantId, d.deviceId, "edge_device_registered", 0,
    registrationPayload d⟩]

end EdgePlatformService

/-- The record of the device in the control plane. -/
def registryRecord (d : EdgeDevice) : DeviceRegistryRecord :=
  { deviceId := d.deviceId, deviceType := d.deviceType, organizationId := d.tenantId, merchantId := d.merchantId
    branchId := d.branchId, region := d.region, firmwareVersion := d.firmwareVersion, enrollmentStatus := "enrolled"
    certificateIdentityStatus := "active", healthStatus := "healthy", capabilities := d.capabilities
    labels := d.labels }

/-- The evidence of a registration; `events` is how many events the platform has. -/
def registrationEvidence (d : EdgeDevice) (events : ℕ) : TrustEvidenceRecord :=
  { tenantId := d.tenantId, deviceId := d.deviceId, merchantId := d.merchantId, branchId := d.branchId
    region := d.region, eventType := "edge_device_registered", sourceModule := "edge_platform", timestamp := 0
    policyContext := EdgePlatformService.registrationPayload d
    classificationLabels := ["financial_edge_device"], sensitivityLabels := ["cash_ops", "device_control"]
    auditEventId := idFor "edge-audit" events
    correlationId := d.deviceId ++ ":edge_device_registered:0"
    payload := EdgePlatformService.registrationPayload d }

/-- The services beside the fleet registry; `trust` is the state of the trust services. -/
structure Site (τ : Type) where
  edge : EdgePlatformService := {}
  plane : FleetControlPlane := {}
  trust : τ

/-- How the services were built: with which others each of them works. -/
structure Wiring (τ : Type) where
  digest : Veil.Digest
  trust : Option (TrustApi τ) := none
  edgeTrust : Option (TrustApi τ) := none
  edgeFleet : Bool := false
  heartbeatTimeoutSeconds : Int := 90

variable {τ : Type}

/-- `EdgePlatformService::register_device`. -/
def Wiring.registerDevice (c : Wiring τ) (w : Site τ) (d : EdgeDevice) : Site τ × Bool :=
  if d.deviceId = "" || d.tenantId = "" || !knownDeviceType d.deviceType then (w, false)
  else
    let d := withDefaults d
    let edge := w.edge.insertDevice d
    let plane := if c.edgeFleet then (w.plane.registerDevice (registryRecord d)).1 else w.plane
    let trust :=
      match c.edgeTrust with
      | none => w.trust
      | some api => api.createEvidence w.trust (registrationEvidence d edge.events.length)
    ({ edge, plane, trust }, true)

/-- A trust service of the site, as the fleet registry uses it. -/
def siteTrust (api : TrustApi τ) : TrustApi (Site τ) where
  createEvidence w e := { w with trust := api.createEvidence w.trust e }
  policyAllowsOrFailClosed w tenantId deviceId action context now :=
    let answer := api.policyAllowsOrFailClosed w.trust tenantId deviceId action context now
    ({ w with trust := answer.1 }, answer.2)

/-- The fleet registry with the edge platform attached. -/
def Wiring.env (c : Wiring τ) : Env (Site τ) where
  digest := c.digest
  edge := some { devices := fun w tenantId => w.edge.tenantDevices tenantId, registerDevice := c.registerDevice }
  trust := c.trust.map siteTrust
  heartbeatTimeoutSeconds := c.heartbeatTimeoutSeconds

/-! ### Tenant isolation -/

/-- On whose behalf a request is made; heartbeats come from devices, and commands expire by themselves. -/
def Op.tenant {ω : Type} : Op ω → Option String
  | .enroll device _ _ => some device.tenantId
  | .createCommand command _ => some command.tenantId
  | .updateDevice tenantId _ _ _ | .retireDevice tenantId _ _ | .cancelCommand tenantId _ _
  | .acknowledgeCommand tenantId _ _ | .completeCommand tenantId _ _ _ _ | .deviceRisk tenantId _ _
  | .fleetRisk tenantId _ | .locationRisk tenantId _ _ | .quarantine tenantId _ _ _ | .recover tenantId _ _ =>
    some tenantId
  | .receiveHeartbeat _ _ | .expireCommands _ | .outside _ => none

/-- The records of other tenants are as they were. -/
structure Isolated (tenant : String) (s s' : FleetOperationsService (Site τ)) : Prop where
  devices : Dict.Keeps (fun v => v.tenantId ≠ tenant) s.devices s'.devices
  commands : Dict.Keeps (fun v => v.tenantId ≠ tenant) s.commands s'.commands
  fleets : Dict.Keeps (fun v => v.tenantId ≠ tenant) s.fleets s'.fleets
  locations : Dict.Keeps (fun v => v.tenantId ≠ tenant) s.locations s'.locations
  groups : Dict.Keeps (fun v => v.tenantId ≠ tenant) s.groups s'.groups
  assignments : Dict.Keeps (fun v => v.tenantId ≠ tenant) s.assignments s'.assignments
  edge : Dict.Keeps (fun v => v.tenantId ≠ tenant) s.world.edge.devices s'.world.edge.devices

/-- What enrolment checks first: the device says where it belongs, begins in a state it may begin in, and is new. -/
structure Enrollable {ω : Type} (s : FleetOperationsService ω) (d : FleetDevice) : Prop where
  placed : d.deviceId ≠ "" ∧ d.tenantId ≠ "" ∧ d.locationId ≠ "" ∧ d.branchId ≠ "" ∧ d.fleetId ≠ ""
  initial : d.lifecycleState = "provisioned" ∨ d.lifecycleState = "active"
  new : s.devices.lookup d.deviceId = none

/-- The device's location, fleet or group is one that another tenant has. -/
def NamesForeign {ω : Type} (s : FleetOperationsService ω) (d : FleetDevice) : Prop :=
  (∃ v, s.locations.lookup d.locationId = some v ∧ v.tenantId ≠ d.tenantId) ∨
  (∃ v, s.fleets.lookup d.fleetId = some v ∧ v.tenantId ≠ d.tenantId) ∨
  (d.groupId ≠ "" ∧ ∃ v, s.groups.lookup d.groupId = some v ∧ v.tenantId ≠ d.tenantId)

/-- The request enrols a device under an id of another tenant: the edge platform has a device of that id from
another tenant and knows its type; or it has none, and knows the type, or has it from this tenant with known
capabilities, and the location, fleet or group is another tenant's. -/
def TakesOver (s : FleetOperationsService (Site τ)) : Op (Site τ) → Prop
  | .enroll d _ _ =>
    Enrollable s d ∧
      match s.world.edge.devices.lookup d.deviceId with
      | none => knownDeviceType d.deviceType = true ∧ NamesForeign s d
      | some v =>
        if v.tenantId = d.tenantId then (d.capabilities ≠ [] ∨ v.capabilities ≠ []) ∧ NamesForeign s d
        else knownDeviceType d.deviceType = true
  | _ => False

end Drawer.FleetOps
