import Drawer.Lib.JsonRecord

/-! Drawer twins and how they are written to and read from JSON. A read begins
with a default value and takes every member that is present; a member of the
wrong type raises. Doubles are their exact values. -/

namespace Drawer.Twin

structure FirmwareState where
  currentVersion : String := "1.0.0"
  targetVersion : String := "1.0.0"
  hardwareRevision : String := "revA"
  updateState : String := "idle"
  deriving DecidableEq

structure DrawerHealth where
  score : Int32 := 100
  jamCount : Int32 := 0
  dispenseFailures : Int32 := 0
  scaleDriftG : ℚ := 0
  selfTestFailures : Int32 := 0
  communicationOutages : Int32 := 0
  hopperDepletionEvents : Int32 := 0
  motorCycles : Int32 := 0
  transactionLatencyMs : ℚ := 0
  uptimePercent : ℚ := 100
  reasons : List String := []
  deriving DecidableEq

structure DenominationInventory where
  denomination : String := ""
  currencyCode : String := "USD"
  quantity : Int32 := 0
  capacity : Int32 := 0
  consumptionPerHour : ℚ := 0
  lastRefillAt : String := ""
  deriving DecidableEq

/-- The denominations are in the order of their names. -/
structure InventoryState where
  currencyCode : String := "USD"
  countryCode : String := ""
  region : String := ""
  complianceTags : List String := []
  denominations : List (String × DenominationInventory) := []
  deriving DecidableEq

structure FaultEvent where
  id : String := ""
  type : String := ""
  severity : String := "warning"
  message : String := ""
  occurredAt : String := ""
  resolved : Bool := false
  deriving DecidableEq

structure MaintenanceRecord where
  id : String := ""
  type : String := ""
  notes : String := ""
  performedBy : String := ""
  performedAt : String := ""
  deriving DecidableEq

structure HistoryEvent where
  id : String := ""
  type : String := ""
  summary : String := ""
  occurredAt : String := ""
  metadata : Json String := .obj []

structure MaintenanceAssessment where
  predictedFailureProbability : ℚ := 0
  recommendedServiceDate : String := ""
  maintenancePriority : String := "low"
  drivers : List String := []
  deriving DecidableEq

structure InventoryForecast where
  hoursUntilEmpty : ℚ := 0
  refillRecommendations : List String := []
  depletionTrends : List String := []
  deriving DecidableEq

structure Alert where
  id : String := ""
  type : String := ""
  severity : String := "warning"
  message : String := ""
  createdAt : String := ""
  deriving DecidableEq

structure DrawerTwin where
  drawerId : String := ""
  deviceId : String := ""
  merchantId : String := ""
  region : String := ""
  environment : String := "development"
  deploymentChannel : String := "dev"
  countryCode : String := ""
  complianceTags : List String := []
  enrolled : Bool := false
  disabled : Bool := false
  enrollmentState : String := "local"
  enrollmentTokenHash : String := ""
  syncStatus : String := "local"
  lastSyncedAt : String := ""
  revision : Int32 := 0
  remoteRevision : Int32 := 0
  conflict : Bool := false
  conflictReason : String := ""
  firmware : FirmwareState := {}
  health : DrawerHealth := {}
  inventory : InventoryState := {}
  faultHistory : List FaultEvent := []
  maintenanceHistory : List MaintenanceRecord := []
  connectivityStatus : String := "offline"
  firstSeenAt : String := ""
  lastTelemetryAt : String := ""
  history : List HistoryEvent := []
  maintenance : MaintenanceAssessment := {}
  inventoryForecast : InventoryForecast := {}
  alerts : List Alert := []

/-! ### Writing -/

def strs (l : List String) : Json String := .arr (l.map .str)

def FirmwareState.toJson (v : FirmwareState) : Json String :=
  .obj [("current_version", .str v.currentVersion), ("target_version", .str v.targetVersion),
    ("hardware_revision", .str v.hardwareRevision), ("update_state", .str v.updateState),
    ("firmware_mismatch", .bool (v.currentVersion ≠ v.targetVersion))]

def DrawerHealth.toJson (v : DrawerHealth) : Json String :=
  .obj [("score", .int v.score.toInt), ("jam_count", .int v.jamCount.toInt),
    ("dispense_failures", .int v.dispenseFailures.toInt), ("scale_drift_g", .float v.scaleDriftG),
    ("self_test_failures", .int v.selfTestFailures.toInt),
    ("communication_outages", .int v.communicationOutages.toInt),
    ("hopper_depletion_events", .int v.hopperDepletionEvents.toInt), ("motor_cycles", .int v.motorCycles.toInt),
    ("transaction_latency_ms", .float v.transactionLatencyMs), ("uptime_percent", .float v.uptimePercent),
    ("reasons", strs v.reasons)]

def DenominationInventory.toJson (v : DenominationInventory) : Json String :=
  .obj [("denomination", .str v.denomination), ("currency_code", .str v.currencyCode),
    ("quantity", .int v.quantity.toInt), ("capacity", .int v.capacity.toInt),
    ("consumption_per_hour", .float v.consumptionPerHour), ("last_refill_at", .str v.lastRefillAt)]

def InventoryState.toJson (v : InventoryState) : Json String :=
  .obj [("currency_code", .str v.currencyCode), ("country_code", .str v.countryCode), ("region", .str v.region),
    ("compliance_tags", strs v.complianceTags),
    ("denominations", .obj (v.denominations.map fun item => (item.1, item.2.toJson)))]

def FaultEvent.toJson (v : FaultEvent) : Json String :=
  .obj [("id", .str v.id), ("type", .str v.type), ("severity", .str v.severity), ("message", .str v.message),
    ("occurred_at", .str v.occurredAt), ("resolved", .bool v.resolved)]

def MaintenanceRecord.toJson (v : MaintenanceRecord) : Json String :=
  .obj [("id", .str v.id), ("type", .str v.type), ("notes", .str v.notes), ("performed_by", .str v.performedBy),
    ("performed_at", .str v.performedAt)]

def HistoryEvent.toJson (v : HistoryEvent) : Json String :=
  .obj [("id", .str v.id), ("type", .str v.type), ("summary", .str v.summary), ("occurred_at", .str v.occurredAt),
    ("metadata", v.metadata)]

def MaintenanceAssessment.toJson (v : MaintenanceAssessment) : Json String :=
  .obj [("predicted_failure_probability", .float v.predictedFailureProbability),
    ("recommended_service_date", .str v.recommendedServiceDate),
    ("maintenance_priority", .str v.maintenancePriority), ("drivers", strs v.drivers)]

def InventoryForecast.toJson (v : InventoryForecast) : Json String :=
  .obj [("hours_until_empty", .float v.hoursUntilEmpty), ("refill_recommendations", strs v.refillRecommendations),
    ("depletion_trends", strs v.depletionTrends)]

def Alert.toJson (v : Alert) : Json String :=
  .obj [("id", .str v.id), ("type", .str v.type), ("severity", .str v.severity), ("message", .str v.message),
    ("created_at", .str v.createdAt)]

def DrawerTwin.toJson (v : DrawerTwin) : Json String :=
  .obj [("drawer_id", .str v.drawerId), ("device_id", .str v.deviceId), ("merchant_id", .str v.merchantId),
    ("region", .str v.region), ("environment", .str v.environment), ("deployment_channel", .str v.deploymentChannel),
    ("country_code", .str v.countryCode), ("compliance_tags", strs v.complianceTags), ("enrolled", .bool v.enrolled),
    ("disabled", .bool v.disabled), ("enrollment_state", .str v.enrollmentState),
    ("enrollment_token_hash", .str v.enrollmentTokenHash), ("sync_status", .str v.syncStatus),
    ("last_synced_at", .str v.lastSyncedAt), ("revision", .int v.revision.toInt),
    ("remote_revision", .int v.remoteRevision.toInt), ("conflict", .bool v.conflict),
    ("conflict_reason", .str v.conflictReason), ("firmware", v.firmware.toJson),
    ("hardware_revision", .str v.firmware.hardwareRevision), ("health", v.health.toJson),
    ("inventory", v.inventory.toJson), ("fault_history", .arr (v.faultHistory.map FaultEvent.toJson)),
    ("maintenance_history", .arr (v.maintenanceHistory.map MaintenanceRecord.toJson)),
    ("connectivity_status", .str v.connectivityStatus), ("first_seen_at", .str v.firstSeenAt),
    ("last_telemetry_at", .str v.lastTelemetryAt), ("history", .arr (v.history.map HistoryEvent.toJson)),
    ("maintenance", v.maintenance.toJson), ("inventory_forecast", v.inventoryForecast.toJson),
    ("alerts", .arr (v.alerts.map Alert.toJson))]

/-! ### Reading -/

section
open Json

def getStrs : Json String → Except Exn (List String) := getArr getStr

def FirmwareState.fromJson (j : Json String) : Except Exn FirmwareState := do
  let currentVersion ← j.value "current_version" getStr "1.0.0"
  let targetVersion ← j.value "target_version" getStr "1.0.0"
  let hardwareRevision ← j.value "hardware_revision" getStr "revA"
  let updateState ← j.value "update_state" getStr "idle"
  return { currentVersion, targetVersion, hardwareRevision, updateState }

def DrawerHealth.fromJson (j : Json String) : Except Exn DrawerHealth := do
  let score ← j.value "score" getInt32 100
  let jamCount ← j.value "jam_count" getInt32 0
  let dispenseFailures ← j.value "dispense_failures" getInt32 0
  let scaleDriftG ← j.value "scale_drift_g" getNum 0
  let selfTestFailures ← j.value "self_test_failures" getInt32 0
  let communicationOutages ← j.value "communication_outages" getInt32 0
  let hopperDepletionEvents ← j.value "hopper_depletion_events" getInt32 0
  let motorCycles ← j.value "motor_cycles" getInt32 0
  let transactionLatencyMs ← j.value "transaction_latency_ms" getNum 0
  let uptimePercent ← j.value "uptime_percent" getNum 100
  let reasons ← j.value "reasons" getStrs []
  return { score, jamCount, dispenseFailures, scaleDriftG, selfTestFailures, communicationOutages
           hopperDepletionEvents, motorCycles, transactionLatencyMs, uptimePercent, reasons }

def DenominationInventory.fromJson (j : Json String) : Except Exn DenominationInventory := do
  let denomination ← j.value "denomination" getStr ""
  let currencyCode ← j.value "currency_code" getStr "USD"
  let quantity ← j.value "quantity" getInt32 0
  let capacity ← j.value "capacity" getInt32 0
  let consumptionPerHour ← j.value "consumption_per_hour" getNum 0
  let lastRefillAt ← j.value "last_refill_at" getStr ""
  return { denomination, currencyCode, quantity, capacity, consumptionPerHour, lastRefillAt }

/-- The members of an inventory that are no denominations, also among the denominations. -/
def inventoryMembers : List String := ["currency_code", "country_code", "region", "compliance_tags"]

/-- The currency of a denomination that names none is that of the inventory. -/
def withCurrency (currencyCode : String) (d : DenominationInventory) : DenominationInventory :=
  if d.currencyCode = "" then { d with currencyCode } else d

/-- The members of an object; other values but null have one nameless member, and null has none. -/
def items : Json String → List (String × Json String)
  | .obj members => members
  | .arr l => l.mapIdx fun i v => (toString i, v)
  | .null => []
  | j => [("", j)]

def readDenominations (currencyCode : String) (members : List (String × Json String)) :
    Except Exn (List (String × DenominationInventory)) :=
  (members.filter fun m => m.1 ∉ inventoryMembers).mapM fun m => do
    let d ← DenominationInventory.fromJson m.2
    return (m.1, withCurrency currencyCode d)

def InventoryState.fromJson : Json String → Except Exn InventoryState
  | .obj members => do
    let j := Json.obj members
    let currencyCode ← j.value "currency_code" getStr "USD"
    let countryCode ← j.value "country_code" getStr ""
    let region ← j.value "region" getStr ""
    let complianceTags ← j.value "compliance_tags" getStrs []
    let denominations ← readDenominations currencyCode (items ((j.member "denominations").getD j))
    return { currencyCode, countryCode, region, complianceTags, denominations }
  | _ => .ok {}

def FaultEvent.fromJson (j : Json String) : Except Exn FaultEvent := do
  let id ← j.value "id" getStr ""
  let type ← j.value "type" getStr ""
  let severity ← j.value "severity" getStr "warning"
  let message ← j.value "message" getStr ""
  let occurredAt ← j.value "occurred_at" getStr ""
  let resolved ← j.value "resolved" getBool false
  return { id, type, severity, message, occurredAt, resolved }

def MaintenanceRecord.fromJson (j : Json String) : Except Exn MaintenanceRecord := do
  let id ← j.value "id" getStr ""
  let type ← j.value "type" getStr ""
  let notes ← j.value "notes" getStr ""
  let performedBy ← j.value "performed_by" getStr ""
  let performedAt ← j.value "performed_at" getStr ""
  return { id, type, notes, performedBy, performedAt }

def HistoryEvent.fromJson (j : Json String) : Except Exn HistoryEvent := do
  let id ← j.value "id" getStr ""
  let type ← j.value "type" getStr ""
  let summary ← j.value "summary" getStr ""
  let occurredAt ← j.value "occurred_at" getStr ""
  let metadata ← j.value "metadata" .ok (.obj [])
  return { id, type, summary, occurredAt, metadata }

def MaintenanceAssessment.fromJson (j : Json String) : Except Exn MaintenanceAssessment := do
  let predictedFailureProbability ← j.value "predicted_failure_probability" getNum 0
  let recommendedServiceDate ← j.value "recommended_service_date" getStr ""
  let maintenancePriority ← j.value "maintenance_priority" getStr "low"
  let drivers ← j.value "drivers" getStrs []
  return { predictedFailureProbability, recommendedServiceDate, maintenancePriority, drivers }

def InventoryForecast.fromJson (j : Json String) : Except Exn InventoryForecast := do
  let hoursUntilEmpty ← j.value "hours_until_empty" getNum 0
  let refillRecommendations ← j.value "refill_recommendations" getStrs []
  let depletionTrends ← j.value "depletion_trends" getStrs []
  return { hoursUntilEmpty, refillRecommendations, depletionTrends }

def Alert.fromJson (j : Json String) : Except Exn Alert := do
  let id ← j.value "id" getStr ""
  let type ← j.value "type" getStr ""
  let severity ← j.value "severity" getStr "warning"
  let message ← j.value "message" getStr ""
  let createdAt ← j.value "created_at" getStr ""
  return { id, type, severity, message, createdAt }

def DrawerTwin.fromJson (j : Json String) : Except Exn DrawerTwin := do
  let drawerId ← j.value "drawer_id" getStr ""
  let deviceId ← j.value "device_id" getStr ""
  let merchantId ← j.value "merchant_id" getStr ""
  let region ← j.value "region" getStr ""
  let environment ← j.value "environment" getStr "development"
  let deploymentChannel ← j.value "deployment_channel" getStr "dev"
  let countryCode ← j.value "country_code" getStr ""
  let complianceTags ← j.value "compliance_tags" getStrs []
  let enrolled ← j.value "enrolled" getBool false
  let disabled ← j.value "disabled" getBool false
  let enrollmentState ← j.value "enrollment_state" getStr "local"
  let enrollmentTokenHash ← j.value "enrollment_token_hash" getStr ""
  let syncStatus ← j.value "sync_status" getStr "local"
  let lastSyncedAt ← j.value "last_synced_at" getStr ""
  let revision ← j.value "revision" getInt32 0
  let remoteRevision ← j.value "remote_revision" getInt32 0
  let conflict ← j.value "conflict" getBool false
  let conflictReason ← j.value "conflict_reason" getStr ""
  let firmware ← j.present "firmware" FirmwareState.fromJson {}
  let health ← j.present "health" DrawerHealth.fromJson {}
  let inventory ← j.present "inventory" InventoryState.fromJson {}
  let faultHistory ← j.value "fault_history" (getArr FaultEvent.fromJson) []
  let maintenanceHistory ← j.value "maintenance_history" (getArr MaintenanceRecord.fromJson) []
  let connectivityStatus ← j.value "connectivity_status" getStr "offline"
  let firstSeenAt ← j.value "first_seen_at" getStr ""
  let lastTelemetryAt ← j.value "last_telemetry_at" getStr ""
  let history ← j.value "history" (getArr HistoryEvent.fromJson) []
  let maintenance ← j.present "maintenance" MaintenanceAssessment.fromJson {}
  let inventoryForecast ← j.present "inventory_forecast" InventoryForecast.fromJson {}
  let alerts ← j.value "alerts" (getArr Alert.fromJson) []
  return { drawerId, deviceId, merchantId, region, environment, deploymentChannel, countryCode, complianceTags
           enrolled, disabled, enrollmentState, enrollmentTokenHash, syncStatus, lastSyncedAt, revision
           remoteRevision, conflict, conflictReason, firmware, health, inventory, faultHistory, maintenanceHistory
           connectivityStatus, firstSeenAt, lastTelemetryAt, history, maintenance, inventoryForecast, alerts }

end
end Drawer.Twin
