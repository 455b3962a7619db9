import Drawer.Lib.JsonRecord
import Drawer.Spec.FleetOperations

/-! The store of the fleet registry: what is written after a request, and what a
new process reads. -/

namespace Drawer.FleetOps
open Json

/-! ### Records -/

def texts (l : List String) : Json String := .arr (l.map .str)

def labelsJson (l : Labels) : Json String := .obj (l.map fun m => (m.1, .str m.2))

def Fleet.toJson (v : Fleet) : Json String :=
  .obj [("fleet_id", .str v.fleetId), ("tenant_id", .str v.tenantId), ("name", .str v.name),
    ("device_group_ids", texts v.deviceGroupIds), ("labels", labelsJson v.labels)]

def Fleet.fromJson (j : Json String) : Except Exn Fleet := do
  let fleetId ← j.value "fleet_id" getStr ""
  let tenantId ← j.value "tenant_id" getStr ""
  let name ← j.value "name" getStr ""
  let deviceGroupIds ← j.value "device_group_ids" (getArr getStr) []
  let labels ← j.value "labels" (getObj getStr) []
  return { fleetId, tenantId, name, deviceGroupIds, labels }

def Location.toJson (v : Location) : Json String :=
  .obj [("location_id", .str v.locationId), ("tenant_id", .str v.tenantId), ("branch_id", .str v.branchId),
    ("region", .str v.region), ("name", .str v.name), ("labels", labelsJson v.labels)]

def Location.fromJson (j : Json String) : Except Exn Location := do
  let locationId ← j.value "location_id" getStr ""
  let tenantId ← j.value "tenant_id" getStr ""
  let branchId ← j.value "branch_id" getStr ""
  let region ← j.value "region" getStr ""
  let name ← j.value "name" getStr ""
  let labels ← j.value "labels" (getObj getStr) []
  return { locationId, tenantId, branchId, region, name, labels }

def DeviceGroup.toJson (v : DeviceGroup) : Json String :=
  .obj [("group_id", .str v.groupId), ("tenant_id", .str v.tenantId), ("fleet_id", .str v.fleetId), ("name", .str v.name),
    ("device_ids", texts v.deviceIds), ("labels", labelsJson v.labels)]

def DeviceGroup.fromJson (j : Json String) : Except Exn DeviceGroup := do
  let groupId ← j.value "group_id" getStr ""
  let tenantId ← j.value "tenant_id" getStr ""
  let fleetId ← j.value "fleet_id" getStr ""
  let name ← j.value "name" getStr ""
  let deviceIds ← j.value "device_ids" (getArr getStr) []
  let labels ← j.value "labels" (getObj getStr) []
  return { groupId, tenantId, fleetId, name, deviceIds, labels }

def DeviceEnrollment.toJson (v : DeviceEnrollment) : Json String :=
  .obj [("enrollment_id", .str v.enrollmentId), ("tenant_id", .str v.tenantId), ("device_id", .str v.deviceId),
    ("enrolled_at", .str v.enrolledAt), ("enrolled_by", .str v.enrolledBy), ("status", .str v.status)]

def DeviceEnrollment.fromJson (j : Json String) : Except Exn DeviceEnrollment := do
  let enrollmentId ← j.value "enrollment_id" getStr ""
  let tenantId ← j.value "tenant_id" getStr ""
  let deviceId ← j.value "device_id" getStr ""
  let enrolledAt ← j.value "enrolled_at" getStr ""
  let enrolledBy ← j.value "enrolled_by" getStr ""
  let status ← j.value "status" getStr "enrolled"
  return { enrollmentId, tenantId, deviceId, enrolledAt, enrolledBy, status }

def DeviceAssignment.toJson (v : DeviceAssignment) : Json String :=
  .obj [("tenant_id", .str v.tenantId), ("device_id", .str v.deviceId), ("fleet_id", .str v.fleetId),
    ("group_id", .str v.groupId), ("location_id", .str v.locationId), ("branch_id", .str v.branchId),
    ("assigned_at", .str v.assignedAt)]

def DeviceAssignment.fromJson (j : Json String) : Except Exn DeviceAssignment := do
  let tenantId ← j.value "tenant_id" getStr ""
  let deviceId ← j.value "device_id" getStr ""
  let fleetId ← j.value "fleet_id" getStr ""
  let groupId ← j.value "group_id" getStr ""
  let locationId ← j.value "location_id" getStr ""
  let branchId ← j.value "branch_id" getStr ""
  let assignedAt ← j.value "assigned_at" getStr ""
  return { tenantId, deviceId, fleetId, groupId, locationId, branchId, assignedAt }

def FleetDevice.toJson (v : FleetDevice) : Json String :=
  .obj [("device_id", .str v.deviceId), ("tenant_id", .str v.tenantId), ("merchant_id", .str v.merchantId),
    ("branch_id", .str v.branchId), ("location_id", .str v.locationId), ("fleet_id", .str v.fleetId),
    ("group_id", .str v.groupId), ("region", .str v.region), ("device_type", .str v.deviceType),
    ("firmware_version", .str v.firmwareVersion), ("driver_id", .str v.driverId), ("driver_version", .str v.driverVersion),
    ("lifecycle_state", .str v.lifecycleState), ("connectivity_status", .str v.connectivityStatus),
    ("last_heartbeat_at", .str v.lastHeartbeatAt), ("last_heartbeat_epoch", .int v.lastHeartbeatEpoch),
    ("capabilities", texts v.capabilities), ("labels", labelsJson v.labels),
    ("quarantine_reason", .str v.quarantineReason), ("retired", .bool v.retired)]

def FleetDevice.fromJson (j : Json String) : Except Exn FleetDevice := do
  let deviceId ← j.value "device_id" getStr ""
  let tenantId ← j.value "tenant_id" getStr ""
  let merchantId ← j.value "merchant_id" getStr ""
  let branchId ← j.value "branch_id" getStr ""
  let locationId ← j.value "location_id" getStr ""
  let fleetId ← j.value "fleet_id" getStr ""
  let groupId ← j.value "group_id" getStr ""
  let region ← j.value "region" getStr ""
  let deviceType ← j.value "device_type" getStr "cash_drawer"
  let firmwareVersion ← j.value "firmware_version" getStr ""
  let driverId ← j.value "driver_id" getStr ""
  let driverVersion ← j.value "driver_version" getStr ""
  let lifecycleState ← j.value "lifecycle_state" getStr "provisioned"
  let connectivityStatus ← j.value "connectivity_status" getStr "offline"
  let lastHeartbeatAt ← j.value "last_heartbeat_at" getStr ""
  let lastHeartbeatEpoch ← j.value "last_heartbeat_epoch" getInt 0
  let capabilities ← j.value "capabilities" (getArr getStr) []
  let labels ← j.value "labels" (getObj getStr) []
  let quarantineReason ← j.value "quarantine_reason" getStr ""
  let retired ← j.value "retired" getBool false
  return { deviceId, tenantId, merchantId, branchId, locationId, fleetId, groupId, region, deviceType, firmwareVersion,
           driverId, driverVersion, lifecycleState, connectivityStatus, lastHeartbeatAt, lastHeartbeatEpoch, capabilities,
           labels, quarantineReason, retired }

def FleetHeartbeat.toJson (v : FleetHeartbeat) : Json String :=
  .obj [("device_id", .str v.deviceId), ("tenant_id", .str v.tenantId), ("firmware_version", .str v.firmwareVersion),
    ("driver_version", .str v.driverVersion), ("connectivity_status", .str v.connectivityStatus),
    ("inventory_summary", v.inventorySummary), ("error_codes", texts v.errorCodes), ("health_metrics", v.healthMetrics),
    ("timestamp", .int v.timestamp), ("signature", .str v.signature)]

def FleetHeartbeat.fromJson (j : Json String) : Except Exn FleetHeartbeat := do
  let deviceId ← j.value "device_id" getStr ""
  let tenantId ← j.value "tenant_id" getStr ""
  let firmwareVersion ← j.value "firmware_version" getStr ""
  let driverVersion ← j.value "driver_version" getStr ""
  let connectivityStatus ← j.value "connectivity_status" getStr "online"
  let inventorySummary ← j.value "inventory_summary" .ok (.obj [])
  let errorCodes ← j.value "error_codes" (getArr getStr) []
  let healthMetrics ← j.value "health_metrics" .ok (.obj [])
  let timestamp ← j.value "timestamp" getInt 0
  let signature ← j.value "signature" getStr ""
  return { deviceId, tenantId, firmwareVersion, driverVersion, connectivityStatus, inventorySummary, errorCodes,
           healthMetrics, timestamp, signature }

def FleetCommand.fromJson (j : Json String) : Except Exn FleetCommand := do
  let commandId ← j.value "command_id" getStr ""
  let tenantId ← j.value "tenant_id" getStr ""
  let deviceId ← j.value "device_id" getStr ""
  let command ← j.value "command" getStr ""
  let parameters ← j.value "parameters" .ok (.obj [])
  let state ← j.value "state" getStr "queued"
  let requiredCapability ← j.value "required_capability" getStr ""
  let highRisk ← j.value "high_risk" getBool false
  let approvalId ← j.value "approval_id" getStr ""
  let approvedBy ← j.value "approved_by" getStr ""
  let actorId ← j.value "actor_id" getStr ""
  let createdAt ← j.value "created_at" getInt 0
  let expiresAt ← j.value "expires_at" getInt 0
  let dispatchedAt ← j.value "dispatched_at" getInt 0
  let acknowledgedAt ← j.value "acknowledged_at" getInt 0
  let completedAt ← j.value "completed_at" getInt 0
  let result ← j.value "result" getStr ""
  let failureReason ← j.value "failure_reason" getStr ""
  return { commandId, tenantId, deviceId, command, parameters, state, requiredCapability, highRisk, approvalId, approvedBy,
           actorId, createdAt, expiresAt, dispatchedAt, acknowledgedAt, completedAt, result, failureReason }

def FleetOperationEvent.toJson (v : FleetOperationEvent) : Json String :=
  .obj [("sequence", .int v.sequence), ("event_id", .str v.eventId), ("tenant_id", .str v.tenantId),
    ("device_id", .str v.deviceId), ("event_type", .str v.eventType), ("occurred_at", .int v.occurredAt),
    ("payload", v.payload), ("previous_hash", .str v.previousHash), ("event_hash", .str v.eventHash)]

def FleetOperationEvent.fromJson (j : Json String) : Except Exn FleetOperationEvent := do
  let sequence ← j.value "sequence" getInt 0
  let eventId ← j.value "event_id" getStr ""
  let tenantId ← j.value "tenant_id" getStr ""
  let deviceId ← j.value "device_id" getStr ""
  let eventType ← j.value "event_type" getStr ""
  let occurredAt ← j.value "occurred_at" getInt 0
  let payload ← j.value "payload" .ok (.obj [])
  let previousHash ← j.value "previous_hash" getStr ""
  let eventHash ← j.value "event_hash" getStr ""
  return { sequence, eventId, tenantId, deviceId, eventType, occurredAt, payload, previousHash, eventHash }

/-! ### The store -/

/-- The values of a map, in its order. -/
def mapValues {α : Type} (write : α → Json String) (m : Dict String α) : Json String :=
  .arr (m.entries.map fun e => write e.2)

/-- The records under `name`, each entered under its own key. -/
def readValues {α : Type} (j : Json String) (name : String) (read : Json String → Except Exn α) (key : α → String) :
    Except Exn (Dict String α) := do
  let v ← j.value name .ok (.arr [])
  let records ← v.elements.mapM read
  return records.foldl (fun m a => m.insert (key a) a) ∅

/-- A map from texts, as an object. -/
def mapObject {α : Type} (write : α → Json String) (m : Dict String α) : Json String :=
  .obj ((m.entries.map fun e => (e.1, e.2)).map fun e => (e.1, write e.2))

def readObject {α : Type} (j : Json String) (name : String) (read : Json String → Except Exn α) :
    Except Exn (Dict String α) := do
  let members ← j.value name (getObj read) []
  return members.foldl (fun m e => m.insert e.1 e.2) ∅

namespace FleetOperationsService

variable {ω : Type}

/-- What `save_locked` writes. -/
def saved (s : FleetOperationsService ω) : Json String :=
  .obj [("schema", .int 1), ("fleets", mapValues Fleet.toJson s.fleets),
    ("locations", mapValues Location.toJson s.locations), ("groups", mapValues DeviceGroup.toJson s.groups),
    ("enrollments", mapValues DeviceEnrollment.toJson s.enrollments),
    ("assignments", mapValues DeviceAssignment.toJson s.assignments), ("devices", mapValues FleetDevice.toJson s.devices),
    ("heartbeats", mapValues FleetHeartbeat.toJson s.heartbeats), ("commands", mapValues FleetCommand.toJson s.commands),
    ("policy_violations", mapObject (fun n => .int n.toInt) s.policyViolations), ("risk_levels", mapObject .str s.riskLevels),
    ("events", .arr (s.events.map FleetOperationEvent.toJson))]

/-- `load`, with the attached services in the state `world`. -/
def load (world : ω) (j : Json String) : Except Exn (FleetOperationsService ω) := do
  let fleets ← readValues j "fleets" Fleet.fromJson Fleet.fleetId
  let locations ← readValues j "locations" Location.fromJson Location.locationId
  let groups ← readValues j "groups" DeviceGroup.fromJson DeviceGroup.groupId
  let enrollments ← readValues j "enrollments" DeviceEnrollment.fromJson DeviceEnrollment.deviceId
  let assignments ← readValues j "assignments" DeviceAssignment.fromJson DeviceAssignment.deviceId
  let devices ← readValues j "devices" FleetDevice.fromJson FleetDevice.deviceId
  let heartbeats ← readValues j "heartbeats" FleetHeartbeat.fromJson FleetHeartbeat.deviceId
  let commands ← readValues j "commands" FleetCommand.fromJson FleetCommand.commandId
  let policyViolations ← readObject j "policy_violations" getInt32
  let riskLevels ← readObject j "risk_levels" getStr
  let events ← j.value "events" (getArr FleetOperationEvent.fromJson) []
  return { fleets, locations, groups, enrollments, assignments, devices, heartbeats, commands, policyViolations, riskLevels,
           events, world }

/-- The reply is not an exception. -/
def returned {α : Type} : Except Exn α → Bool
  | .ok _ => true
  | .error _ => false

/-- Whether a request gets as far as `save_locked`. -/
def saves (env : Env ω) (s : FleetOperationsService ω) : Op ω → Bool
  | .enroll device actorId now => (s.enroll env device actorId now).2 = .ok
  | .updateDevice tenantId deviceId patch now =>
    match (s.updateDevice env tenantId deviceId patch now).2 with
    | .ok reply => reply = .ok
    | .error _ => false
  | .retireDevice tenantId deviceId now => (s.retireDevice env tenantId deviceId now).2 = .ok
  | .receiveHeartbeat heartbeat receivedAt =>
    match (s.receiveHeartbeat env heartbeat receivedAt).2 with
    | .ok reply => reply ≠ .failed "unknown_device" && reply ≠ .failed "device_retired"
    | .error _ => false
  | .createCommand _ _ => true
  | .cancelCommand tenantId commandId now => (s.cancelCommand env tenantId commandId now).2 = .ok
  | .acknowledgeCommand tenantId commandId now =>
    let reply := (s.acknowledgeCommand env tenantId commandId now).2
    reply = .ok || reply = .failed "command_expired"
  | .completeCommand tenantId commandId success result now =>
    (s.completeCommand env tenantId commandId success result now).2 = .ok
  | .expireCommands _ => true
  | .deviceRisk tenantId deviceId now =>
    ((s.devices.lookup deviceId).any fun d => d.tenantId = tenantId) && returned (s.deviceRisk env tenantId deviceId now).2
  | .fleetRisk tenantId now => returned (s.fleetRisk env tenantId now).2
  | .locationRisk tenantId locationId now => returned (s.locationRisk env tenantId locationId now).2
  | .quarantine tenantId deviceId reason now => (s.quarantine env tenantId deviceId reason now).2 = .ok
  | .recover tenantId deviceId now =>
    match (s.recover env tenantId deviceId now).2 with
    | .ok reply => reply = .ok
    | .error _ => false
  | .outside _ => false

end FleetOperationsService

/-- A registry with its store; without a path nothing is stored. -/
structure Registry (ω : Type) where
  storePath : String
  file : Option (Json String) := none
  service : FleetOperationsService ω

/-- What happens to a registry: a request, or a new process, which finds the attached services in some state. -/
inductive Event (ω : Type) where
  | request (op : Op ω)
  | restart (world : ω)

namespace Registry
open FleetOperationsService

variable {ω : Type}

def request (env : Env ω) (r : Registry ω) (op : Op ω) : Registry ω :=
  let service := apply env r.service op
  { r with
    service
    file := if r.storePath ≠ "" ∧ saves env r.service op = true then some service.saved else r.file }

/-- A new process loads the store. Were it not to be read, the constructor would throw and there would be no registry: this
branch stands for nothing, since what a service has saved can be read (`loads_run`). -/
def restart (r : Registry ω) (world : ω) : Registry ω :=
  if r.storePath = "" then { r with service := { world } }
  else
    match r.file with
    | none => { r with service := { world } }
    | some j =>
      match load world j with
      | .ok service => { r with service }
      | .error _ => r

def step (env : Env ω) (r : Registry ω) : Event ω → Registry ω
  | .request op => r.request env op
  | .restart world => r.restart world

end Registry

/-! ### The life of a command -/

/-- What an event may do to what is stored under `id`. -/
inductive Moves {ω : Type} (storePath : String) (e : Event ω) (id : String) : Option FleetCommand → Option FleetCommand → Prop
  | same (c : Option FleetCommand) : Moves storePath e id c c
  | stored (c : FleetCommand) (h : c.state ∈ ["failed", "policy_checking", "dispatched"]) : Moves storePath e id none (some c)
  | givenUp (c c' : FleetCommand) (h : c.state = "policy_checking" ∨ c.state = "dispatched")
      (h' : c'.state = "cancelled" ∨ c'.state = "expired") : Moves storePath e id (some c) (some c')
  | acknowledged (c c' : FleetCommand) (tenantId : String) (now : Int)
      (he : e = .request (.acknowledgeCommand tenantId id now)) (hnow : now ≤ c.expiresAt)
      (h : c.state = "dispatched") (h' : c'.state = "acknowledged") : Moves storePath e id (some c) (some c')
  | finished (c c' : FleetCommand) (h : c.state = "acknowledged") (h' : c'.state = "completed" ∨ c'.state = "failed") :
      Moves storePath e id (some c) (some c')
  /-- A registry without a store starts empty. -/
  | forgotten (c : FleetCommand) (world : ω) (he : e = .restart world) (hpath : storePath = "") :
      Moves storePath e id (some c) none

/-- What an event owes the stored commands. -/
structure Follows {ω : Type} (env : Env ω) (r : Registry ω) (e : Event ω) : Prop where
  moves : ∀ id, Moves r.storePath e id (r.service.commands.lookup id) ((r.step env e).service.commands.lookup id)
  /-- A command whose id is taken changes no stored command. -/
  taken : ∀ c now, e = .request (.createCommand c now) →
    (r.service.commands.lookup (r.service.queued c now).commandId).isSome = true →
      (r.step env e).service.commands = r.service.commands

end Drawer.FleetOps
