import Drawer.Lib.Dict
import Drawer.Lib.JsonRecord

/-! The fleet control plane: organizations with their merchants, branches, regions
and devices, remote commands and alerts, and the `/fleet-control/v1` routes over
them. Every table is keyed by an id of its own, whoever owns the record. A body is
the JSON value it parses to, if it is JSON. A double is its exact value, and sums
of them are exact and finite. -/

namespace Drawer.FleetControl

abbrev Labels := List (String × String)

structure Organization where
  organizationId : String := ""
  name : String := ""
  tags : List String := []
  labels : Labels := []
  deriving DecidableEq

structure Region where
  regionId : String := ""
  organizationId : String := ""
  name : String := ""
  tags : List String := []
  labels : Labels := []
  deriving DecidableEq

structure Merchant where
  merchantId : String := ""
  organizationId : String := ""
  name : String := ""
  tags : List String := []
  labels : Labels := []
  deriving DecidableEq

structure Branch where
  branchId : String := ""
  merchantId : String := ""
  organizationId : String := ""
  regionId : String := ""
  name : String := ""
  tags : List String := []
  labels : Labels := []
  deriving DecidableEq

structure DeviceRegistryRecord where
  deviceId : String := ""
  deviceType : String := "cash_drawer"
  organizationId : String := ""
  merchantId : String := ""
  branchId : String := ""
  region : String := ""
  environment : String := ""
  deploymentChannel : String := ""
  firmwareVersion : String := ""
  enrollmentStatus : String := "unenrolled"
  certificateIdentityStatus : String := "unknown"
  lastHeartbeatAt : String := ""
  lastSeenAt : String := ""
  connectivityStatus : String := "offline"
  healthStatus : String := "unknown"
  healthScore : Int32 := 100
  transactionFailures : Int32 := 0
  otaFailures : Int32 := 0
  syncFailures : Int32 := 0
  capabilities : List String := []
  tags : List String := []
  labels : Labels := []
  deriving DecidableEq

structure HeartbeatMessage where
  deviceId : String := ""
  sentAtEpoch : Int := 0
  receivedAtEpoch : Int := 0
  latencyMs : ℚ := 0

structure RemoteCommand where
  commandId : String := ""
  organizationId : String := ""
  deviceId : String := ""
  type : String := ""
  status : String := "pending"
  createdAt : String := ""
  deliveredAt : String := ""
  acknowledgedAt : String := ""
  failedAt : String := ""
  expiresAtEpoch : Int := 0
  retryCount : Int32 := 0
  maxRetries : Int32 := 3
  failureReason : String := ""
  deriving DecidableEq

structure FleetAlert where
  alertId : String := ""
  organizationId : String := ""
  deviceId : String := ""
  type : String := ""
  severity : String := "warning"
  message : String := ""
  createdAt : String := ""
  acknowledged : Bool := false
  acknowledgedAt : String := ""
  deriving DecidableEq

structure FleetEvent where
  eventId : String := ""
  organizationId : String := ""
  deviceId : String := ""
  type : String := ""
  occurredAt : String := ""
  metadata : Json String := .obj []

/-! ### JSON -/

def strs (l : List String) : Json String := .arr (l.map .str)

def labelsJson (l : Labels) : Json String := .obj (l.map fun p => (p.1, .str p.2))

def Organization.toJson (v : Organization) : Json String :=
  .obj [("organization_id", .str v.organizationId), ("name", .str v.name), ("tags", strs v.tags),
    ("labels", labelsJson v.labels)]

def Region.toJson (v : Region) : Json String :=
  .obj [("region_id", .str v.regionId), ("organization_id", .str v.organizationId), ("name", .str v.name),
    ("tags", strs v.tags), ("labels", labelsJson v.labels)]

def Merchant.toJson (v : Merchant) : Json String :=
  .obj [("merchant_id", .str v.merchantId), ("organization_id", .str v.organizationId), ("name", .str v.name),
    ("tags", strs v.tags), ("labels", labelsJson v.labels)]

def Branch.toJson (v : Branch) : Json String :=
  .obj [("branch_id", .str v.branchId), ("merchant_id", .str v.merchantId), ("organization_id", .str v.organizationId),
    ("region_id", .str v.regionId), ("name", .str v.name), ("tags", strs v.tags), ("labels", labelsJson v.labels)]

def DeviceRegistryRecord.toJson (v : DeviceRegistryRecord) : Json String :=
  .obj [("device_id", .str v.deviceId), ("device_type", .str v.deviceType), ("organization_id", .str v.organizationId),
    ("merchant_id", .str v.merchantId), ("branch_id", .str v.branchId), ("region", .str v.region),
    ("environment", .str v.environment), ("deployment_channel", .str v.deploymentChannel),
    ("firmware_version", .str v.firmwareVersion), ("enrollment_status", .str v.enrollmentStatus),
    ("certificate_identity_status", .str v.certificateIdentityStatus), ("last_heartbeat_at", .str v.lastHeartbeatAt),
    ("last_seen_at", .str v.lastSeenAt), ("connectivity_status", .str v.connectivityStatus),
    ("health_status", .str v.healthStatus), ("health_score", .int v.healthScore.toInt),
    ("transaction_failures", .int v.transactionFailures.toInt), ("ota_failures", .int v.otaFailures.toInt),
    ("sync_failures", .int v.syncFailures.toInt), ("capabilities", strs v.capabilities), ("tags", strs v.tags),
    ("labels", labelsJson v.labels)]

def RemoteCommand.toJson (v : RemoteCommand) : Json String :=
  .obj [("command_id", .str v.commandId), ("organization_id", .str v.organizationId), ("device_id", .str v.deviceId),
    ("type", .str v.type), ("status", .str v.status), ("created_at", .str v.createdAt),
    ("delivered_at", .str v.deliveredAt), ("acknowledged_at", .str v.acknowledgedAt), ("failed_at", .str v.failedAt),
    ("expires_at_epoch", .int v.expiresAtEpoch), ("retry_count", .int v.retryCount.toInt),
    ("max_retries", .int v.maxRetries.toInt), ("failure_reason", .str v.failureReason)]

section
open Json

def getStrs : Json String → Except Exn (List String) := getArr getStr

def getLabels : Json String → Except Exn Labels := getObj getStr

def Organization.fromJson (j : Json String) : Except Exn Organization := do
  let organizationId ← j.value "organization_id" getStr ""
  let name ← j.value "name" getStr ""
  let tags ← j.value "tags" getStrs []
  let labels ← j.value "labels" getLabels []
  return { organizationId, name, tags, labels }

def Region.fromJson (j : Json String) : Except Exn Region := do
  let regionId ← j.value "region_id" getStr ""
  let organizationId ← j.value "organization_id" getStr ""
  let name ← j.value "name" getStr ""
  let tags ← j.value "tags" getStrs []
  let labels ← j.value "labels" getLabels []
  return { regionId, organizationId, name, tags, labels }

def Merchant.fromJson (j : Json String) : Except Exn Merchant := do
  let merchantId ← j.value "merchant_id" getStr ""
  let organizationId ← j.value "organization_id" getStr ""
  let name ← j.value "name" getStr ""
  let tags ← j.value "tags" getStrs []
  let labels ← j.value "labels" getLabels []
  return { merchantId, organizationId, name, tags, labels }

def Branch.fromJson (j : Json String) : Except Exn Branch := do
  let branchId ← j.value "branch_id" getStr ""
  let merchantId ← j.value "merchant_id" getStr ""
  let organizationId ← j.value "organization_id" getStr ""
  let regionId ← j.value "region_id" getStr ""
  let name ← j.value "name" getStr ""
  let tags ← j.value "tags" getStrs []
  let labels ← j.value "labels" getLabels []
  return { branchId, merchantId, organizationId, regionId, name, tags, labels }

def DeviceRegistryRecord.fromJson (j : Json String) : Except Exn DeviceRegistryRecord := do
  let deviceId ← j.value "device_id" getStr ""
  let deviceType ← j.value "device_type" getStr "cash_drawer"
  let organizationId ← j.value "organization_id" getStr ""
  let merchantId ← j.value "merchant_id" getStr ""
  let branchId ← j.value "branch_id" getStr ""
  let region ← j.value "region" getStr ""
  let environment ← j.value "environment" getStr ""
  let deploymentChannel ← j.value "deployment_channel" getStr ""
  let firmwareVersion ← j.value "firmware_version" getStr ""
  let enrollmentStatus ← j.value "enrollment_status" getStr "unenrolled"
  let certificateIdentityStatus ← j.value "certificate_identity_status" getStr "unknown"
  let lastHeartbeatAt ← j.value "last_heartbeat_at" getStr ""
  let lastSeenAt ← j.value "last_seen_at" getStr ""
  let connectivityStatus ← j.value "connectivity_status" getStr "offline"
  let healthStatus ← j.value "health_status" getStr "unknown"
  let healthScore ← j.value "health_score" getInt32 100
  let transactionFailures ← j.value "transaction_failures" getInt32 0
  let otaFailures ← j.value "ota_failures" getInt32 0
  let syncFailures ← j.value "sync_failures" getInt32 0
  let capabilities ← j.value "capabilities" getStrs []
  let tags ← j.value "tags" getStrs []
  let labels ← j.value "labels" getLabels []
  return { deviceId, deviceType, organizationId, merchantId, branchId, region, environment, deploymentChannel
           firmwareVersion, enrollmentStatus, certificateIdentityStatus, lastHeartbeatAt, lastSeenAt
           connectivityStatus, healthStatus, healthScore, transactionFailures, otaFailures, syncFailures
           capabilities, tags, labels }

def HeartbeatMessage.fromJson (j : Json String) : Except Exn HeartbeatMessage := do
  let deviceId ← j.value "device_id" getStr ""
  let sentAtEpoch ← j.value "sent_at_epoch" getInt 0
  let receivedAtEpoch ← j.value "received_at_epoch" getInt 0
  let latencyMs ← j.value "latency_ms" getNum 0
  return { deviceId, sentAtEpoch, receivedAtEpoch, latencyMs }

end

/-! ### The control plane -/

structure FleetControlPlane where
  organizations : Dict String Organization := ∅
  regions : Dict String Region := ∅
  merchants : Dict String Merchant := ∅
  branches : Dict String Branch := ∅
  devices : Dict String DeviceRegistryRecord := ∅
  commands : Dict String RemoteCommand := ∅
  acknowledgedCommands : List String := []
  alerts : List FleetAlert := []
  events : List FleetEvent := []
  heartbeatLatencySum : ℚ := 0
  heartbeatCount : Int32 := 0

def idFor (label : String) (n : ℕ) : String := label ++ "-" ++ toString (n + 1)

def epochString (epoch : Int) : String := toString epoch

namespace FleetControlPlane

def eventLocked (s : FleetControlPlane) (organizationId deviceId type : String) (now : Int)
    (metadata : Json String := .null) : FleetControlPlane :=
  { s with events := s.events ++ [{ eventId := idFor "evt" s.events.length, organizationId, deviceId, type
                                    occurredAt := epochString now, metadata }] }

def upsertOrganization (s : FleetControlPlane) (v : Organization) : FleetControlPlane :=
  { s with organizations := s.organizations.insert v.organizationId v }

def upsertRegion (s : FleetControlPlane) (v : Region) : FleetControlPlane :=
  { s with regions := s.regions.insert v.regionId v }

def upsertMerchant (s : FleetControlPlane) (v : Merchant) : FleetControlPlane :=
  { s with merchants := s.merchants.insert v.merchantId v }

def upsertBranch (s : FleetControlPlane) (v : Branch) : FleetControlPlane :=
  { s with branches := s.branches.insert v.branchId v }

def registerDevice (s : FleetControlPlane) (v : DeviceRegistryRecord) : FleetControlPlane × Bool :=
  if v.deviceId = "" ∨ v.organizationId = "" then (s, false)
  else ({ s with devices := s.devices.insert v.deviceId v }.eventLocked v.organizationId v.deviceId
    "device_registered" 0, true)

def device (s : FleetControlPlane) (deviceId : String) : Option DeviceRegistryRecord := s.devices.lookup deviceId

def receiveHeartbeat (s : FleetControlPlane) (hb : HeartbeatMessage) : FleetControlPlane × Bool :=
  match s.devices.lookup hb.deviceId with
  | none => (s, false)
  | some d =>
    let at_ := epochString hb.receivedAtEpoch
    let s := { s with
      devices := s.devices.insert hb.deviceId
        { d with connectivityStatus := "online", lastHeartbeatAt := at_, lastSeenAt := at_ }
      heartbeatLatencySum := s.heartbeatLatencySum + hb.latencyMs
      heartbeatCount := s.heartbeatCount + 1 }
    let s := s.eventLocked d.organizationId d.deviceId "heartbeat_received" hb.receivedAtEpoch
      (.obj [("latency_ms", .float hb.latencyMs)])
    (if d.connectivityStatus = "online" then s
      else s.eventLocked d.organizationId d.deviceId "device_online" hb.receivedAtEpoch, true)

def knownCommandType (type : String) : Bool :=
  type ∈ ["restart", "refresh_config", "sync_inventory", "pause_transactions", "resume_transactions",
    "disable_device", "enable_device"]

def createCommand (s : FleetControlPlane) (organizationId deviceId type : String) (now ttlSeconds : Int)
    (maxRetries : Int32) : FleetControlPlane × RemoteCommand :=
  let cmd : RemoteCommand :=
    { commandId := idFor "cmd" s.commands.entries.length, organizationId, deviceId, type
      createdAt := epochString now, expiresAtEpoch := now + ttlSeconds, maxRetries }
  let cmd :=
    if !knownCommandType type || (s.devices.lookup deviceId).isNone then
      { cmd with status := "failed", failureReason := "invalid_command" }
    else cmd
  ({ s with commands := s.commands.insert cmd.commandId cmd }.eventLocked organizationId deviceId "command_created" now
    (.obj [("command_id", .str cmd.commandId)]), cmd)

def acknowledgeCommand (s : FleetControlPlane) (deviceId commandId : String) (now : Int) : FleetControlPlane × Bool :=
  match s.commands.lookup commandId with
  | none => (s, false)
  | some cmd =>
    if cmd.deviceId ≠ deviceId then (s, false)
    else if commandId ∈ s.acknowledgedCommands then (s, false)
    else
      ({ s with
          commands := s.commands.insert commandId { cmd with status := "acknowledged", acknowledgedAt := epochString now }
          acknowledgedCommands := s.acknowledgedCommands ++ [commandId] }.eventLocked cmd.organizationId deviceId
        "command_acknowledged" now (.obj [("command_id", .str commandId)]), true)

def createAlert (s : FleetControlPlane) (organizationId deviceId type severity message : String) (now : Int) :
    FleetControlPlane × FleetAlert :=
  let alert : FleetAlert :=
    { alertId := idFor "alert" s.alerts.length, organizationId, deviceId, type, severity, message
      createdAt := epochString now }
  ({ s with alerts := s.alerts ++ [alert] }.eventLocked organizationId deviceId "alert_created" now
    (.obj [("type", .str type)]), alert)

/-- The alert that an acknowledgement is for. -/
def alertOpen (organizationId alertId : String) (a : FleetAlert) : Bool :=
  a.alertId = alertId && a.organizationId = organizationId && !a.acknowledged

def acknowledgeAlert (s : FleetControlPlane) (organizationId alertId : String) (now : Int) : FleetControlPlane × Bool :=
  match s.alerts.findIdx? (alertOpen organizationId alertId) with
  | none => (s, false)
  | some i =>
    let deviceId := (s.alerts[i]?.map FleetAlert.deviceId).getD ""
    ({ s with
        alerts := s.alerts.modify i fun a => { a with acknowledged := true, acknowledgedAt := epochString now }
        }.eventLocked organizationId deviceId "alert_acknowledged" now (.obj [("alert_id", .str alertId)]), true)

end FleetControlPlane

/-! ### Routes -/

/-- The routes that write, with what they take from the path. The others only read. -/
inductive Route where
  | postOrganization
  | postMerchant
  | postBranch
  | postRegion
  | postDevice
  | postHeartbeat (deviceId : String)
  | postCommand (deviceId : String)
  | ackCommand (commandId : String)
  | ackAlert (alertId : String)
  | get

structure Request where
  route : Route
  /-- The access check passed. -/
  access : Bool := true
  orgHeader : String := ""
  orgParam : String := ""
  body : Except Exn (Json String) := .error .other

structure Response where
  status : ℕ := 200
  body : Json String := .obj []

def tenantOrg (req : Request) : String := if req.orgHeader = "" then req.orgParam else req.orgHeader

def allowedTenant (req : Request) (org : String) : Bool := tenantOrg req = "" || org = "" || tenantOrg req = org

def errorResponse (status : ℕ) (error : String) : Response := ⟨status, .obj [("error", .str error)]⟩

/-- The routes that store what the body says, under the owner it names. -/
def postRecord {α : Type} (read : Json String → Except Exn α) (owner : α → String)
    (store : FleetControlPlane → α → FleetControlPlane) (reply : α → Json String) (s : FleetControlPlane) (req : Request) :
    FleetControlPlane × Response :=
  match req.body >>= read with
  | .error _ => (s, errorResponse 400 "bad_request")
  | .ok v => if allowedTenant req (owner v) then (store s v, ⟨200, reply v⟩) else (s, errorResponse 403 "tenant_forbidden")

open FleetControlPlane

def postOrganization : FleetControlPlane → Request → FleetControlPlane × Response :=
  postRecord Organization.fromJson Organization.organizationId upsertOrganization fun v =>
    .obj [("ok", .bool true), ("organization", v.toJson)]

def postMerchant : FleetControlPlane → Request → FleetControlPlane × Response :=
  postRecord Merchant.fromJson Merchant.organizationId upsertMerchant fun v =>
    .obj [("ok", .bool true), ("merchant", v.toJson)]

def postBranch : FleetControlPlane → Request → FleetControlPlane × Response :=
  postRecord Branch.fromJson Branch.organizationId upsertBranch fun v =>
    .obj [("ok", .bool true), ("branch", v.toJson)]

def postRegion : FleetControlPlane → Request → FleetControlPlane × Response :=
  postRecord Region.fromJson Region.organizationId upsertRegion fun v =>
    .obj [("ok", .bool true), ("region", v.toJson)]

/-- A device that is refused for want of an id or an owner is answered 200, with `ok` false. -/
def postDevice (s : FleetControlPlane) (req : Request) : FleetControlPlane × Response :=
  postRecord DeviceRegistryRecord.fromJson DeviceRegistryRecord.organizationId (fun s v => (s.registerDevice v).1)
    (fun v => .obj [("ok", .bool (s.registerDevice v).2), ("device", v.toJson)]) s req

def postHeartbeat (s : FleetControlPlane) (req : Request) (deviceId : String) : FleetControlPlane × Response :=
  match req.body >>= HeartbeatMessage.fromJson with
  | .error _ => (s, errorResponse 400 "bad_request")
  | .ok hb =>
    match s.device deviceId with
    | none => (s, errorResponse 404 "not_found")
    | some d =>
      if allowedTenant req d.organizationId then
        let (s, ok) := s.receiveHeartbeat { hb with deviceId }
        (s, ⟨200, .obj [("ok", .bool ok)]⟩)
      else (s, errorResponse 404 "not_found")

section
open Json

/-- The members of a command request. -/
def readCommand (j : Json String) : Except Exn (String × Int × Int × Int32) := do
  let type ← j.value "type" getStr ""
  let now ← j.value "now_epoch" getInt 0
  let ttlSeconds ← j.value "ttl_seconds" getInt 60
  let maxRetries ← j.value "max_retries" getInt32 3
  return (type, now, ttlSeconds, maxRetries)

def readAck (j : Json String) : Except Exn (String × Int) := do
  let deviceId ← j.value "device_id" getStr ""
  let now ← j.value "now_epoch" getInt 0
  return (deviceId, now)

end

def postCommand (s : FleetControlPlane) (req : Request) (deviceId : String) : FleetControlPlane × Response :=
  match req.body with
  | .error _ => (s, errorResponse 400 "bad_request")
  | .ok j =>
    match s.device deviceId with
    | none => (s, errorResponse 404 "not_found")
    | some d =>
      if allowedTenant req d.organizationId then
        match readCommand j with
        | .error _ => (s, errorResponse 400 "bad_request")
        | .ok (type, now, ttlSeconds, maxRetries) =>
          let (s, cmd) := s.createCommand d.organizationId deviceId type now ttlSeconds maxRetries
          (s, ⟨if cmd.status = "failed" then 400 else 200, .obj [("command", cmd.toJson)]⟩)
      else (s, errorResponse 404 "not_found")

def ackCommand (s : FleetControlPlane) (req : Request) (commandId : String) : FleetControlPlane × Response :=
  match req.body >>= readAck with
  | .error _ => (s, errorResponse 400 "bad_request")
  | .ok (deviceId, now) =>
    let (s, ok) := s.acknowledgeCommand deviceId commandId now
    (s, ⟨if ok then 200 else 409, .obj [("ok", .bool ok)]⟩)

def ackAlert (s : FleetControlPlane) (req : Request) (alertId : String) : FleetControlPlane × Response :=
  let (s, ok) := s.acknowledgeAlert (tenantOrg req) alertId 0
  (s, ⟨if ok then 200 else 404, .obj [("ok", .bool ok)]⟩)

/-- What a request does to the control plane and what it answers; the answers of the reading routes are left out. -/
def handle (s : FleetControlPlane) (req : Request) : FleetControlPlane × Response :=
  if !req.access then (s, errorResponse 401 "unauthorized")
  else match req.route with
  | .postOrganization => postOrganization s req
  | .postMerchant => postMerchant s req
  | .postBranch => postBranch s req
  | .postRegion => postRegion s req
  | .postDevice => postDevice s req
  | .postHeartbeat deviceId => postHeartbeat s req deviceId
  | .postCommand deviceId => postCommand s req deviceId
  | .ackCommand commandId => ackCommand s req commandId
  | .ackAlert alertId => ackAlert s req alertId
  | .get => (s, {})

end Drawer.FleetControl
