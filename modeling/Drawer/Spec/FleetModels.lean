import Drawer.Lib.Dict
import Drawer.Lib.Json
import Drawer.Spec.Veil

/-! The records of the fleet registry, and the services it is attached to.
Texts are Unicode strings; times are seconds. -/

namespace Drawer.FleetOps
open Veil (Digest TrustEvidenceRecord idFor)

abbrev Labels := List (String × String)

/-- `get<Labels>()`. -/
def getLabels : Json String → Except Exn Labels
  | .obj members => members.mapM fun m => do
      let v ← m.2.getStr
      return (m.1, v)
  | _ => .error (.typeError 302)

structure Fleet where
  fleetId : String
  tenantId : String
  name : String
  deviceGroupIds : List String := []
  labels : Labels := []

structure Location where
  locationId : String
  tenantId : String
  branchId : String
  region : String
  name : String
  labels : Labels

structure DeviceGroup where
  groupId : String := ""
  tenantId : String := ""
  fleetId : String := ""
  name : String := ""
  deviceIds : List String := []
  labels : Labels := []

structure DeviceEnrollment where
  enrollmentId : String
  tenantId : String
  deviceId : String
  enrolledAt : String
  enrolledBy : String
  status : String := "enrolled"

structure DeviceAssignment where
  tenantId : String
  deviceId : String
  fleetId : String
  groupId : String
  locationId : String
  branchId : String
  assignedAt : String

structure FleetDevice where
  deviceId : String := ""
  tenantId : String := ""
  merchantId : String := ""
  branchId : String := ""
  locationId : String := ""
  fleetId : String := ""
  groupId : String := ""
  region : String := ""
  deviceType : String := "cash_drawer"
  firmwareVersion : String := ""
  driverId : String := ""
  driverVersion : String := ""
  lifecycleState : String := "provisioned"
  connectivityStatus : String := "offline"
  lastHeartbeatAt : String := ""
  lastHeartbeatEpoch : Int := 0
  capabilities : List String := []
  labels : Labels := []
  quarantineReason : String := ""
  retired : Bool := false
  deriving DecidableEq, Repr

structure FleetHeartbeat where
  deviceId : String := ""
  tenantId : String := ""
  firmwareVersion : String := ""
  driverVersion : String := ""
  connectivityStatus : String := "online"
  inventorySummary : Json String := .obj []
  errorCodes : List String := []
  healthMetrics : Json String := .obj []
  timestamp : Int := 0
  signature : String := ""

structure FleetCommand where
  commandId : String := ""
  tenantId : String := ""
  deviceId : String := ""
  command : String := ""
  parameters : Json String := .obj []
  state : String := "queued"
  requiredCapability : String := ""
  highRisk : Bool := false
  approvalId : String := ""
  approvedBy : String := ""
  actorId : String := ""
  createdAt : Int := 0
  expiresAt : Int := 0
  dispatchedAt : Int := 0
  acknowledgedAt : Int := 0
  completedAt : Int := 0
  result : String := ""
  failureReason : String := ""

def FleetCommand.toJson (c : FleetCommand) : Json String :=
  .obj [("command_id", .str c.commandId), ("tenant_id", .str c.tenantId), ("device_id", .str c.deviceId),
    ("command", .str c.command), ("parameters", c.parameters), ("state", .str c.state),
    ("required_capability", .str c.requiredCapability), ("high_risk", .bool c.highRisk),
    ("approval_id", .str c.approvalId), ("approved_by", .str c.approvedBy), ("actor_id", .str c.actorId),
    ("created_at", .int c.createdAt), ("expires_at", .int c.expiresAt), ("dispatched_at", .int c.dispatchedAt),
    ("acknowledged_at", .int c.acknowledgedAt), ("completed_at", .int c.completedAt), ("result", .str c.result),
    ("failure_reason", .str c.failureReason)]

structure RiskFactor where
  factor : String
  points : Int
  explanation : String

structure FleetRisk where
  tenantId : String := ""
  scopeType : String := "device"
  scopeId : String := ""
  score : Int := 0
  level : String := "low"
  factors : List RiskFactor := []
  evaluatedAt : Int := 0

structure FleetOperationEvent where
  sequence : Int
  eventId : String
  tenantId : String
  deviceId : String
  eventType : String
  occurredAt : Int
  payload : Json String
  previousHash : String
  eventHash : String := ""

structure EdgeDevice where
  deviceId : String
  tenantId : String
  merchantId : String
  branchId : String
  region : String
  deviceType : String
  driverId : String
  firmwareVersion : String
  capabilities : List String
  labels : Labels

/-- The edge platform, as the registry uses it. Its state is a part of `ω`. -/
structure EdgeApi (ω : Type) where
  devices : ω → String → List EdgeDevice
  registerDevice : ω → EdgeDevice → ω × Bool

/-- The trust service, as the registry uses it. -/
structure TrustApi (ω : Type) where
  createEvidence : ω → TrustEvidenceRecord → ω
  policyAllowsOrFailClosed : ω → String → String → String → Json String → Int → ω × Bool

/-- What the registry was built with. -/
structure Env (ω : Type) where
  digest : Digest
  edge : Option (EdgeApi ω) := none
  trust : Option (TrustApi ω) := none
  heartbeatTimeoutSeconds : Int := 90

structure FleetOperationsService (ω : Type) where
  fleets : Dict String Fleet := ∅
  locations : Dict String Location := ∅
  groups : Dict String DeviceGroup := ∅
  enrollments : Dict String DeviceEnrollment := ∅
  assignments : Dict String DeviceAssignment := ∅
  devices : Dict String FleetDevice := ∅
  heartbeats : Dict String FleetHeartbeat := ∅
  commands : Dict String FleetCommand := ∅
  policyViolations : Dict String Int32 := ∅
  riskLevels : Dict String String := ∅
  events : List FleetOperationEvent := []
  /-- The state of the attached services. -/
  world : ω

/-- What an operation answers: done, or not done for a reason. -/
inductive Reply where
  | ok
  | failed (error : String)
  deriving DecidableEq, Repr

end Drawer.FleetOps
