import Drawer.Spec.FleetEvidence
import Drawer.Spec.RiskQueries

/-! When a quarantined device may recover, and what an attempt that fails leaves as it
was. The registry's world is a VEIL trust service and whatever else is attached. -/

namespace Drawer.FleetOps
open FleetOperationsService
open Veil (VeilTrustService PolicyDecision)

/-- The member says yes. -/
def affirms (j : Json String) (key : String) : Bool :=
  match j.member key with
  | some (.bool b) => b
  | _ => false

/-- The member, or `dflt` if there is none. -/
def numberOr (j : Json String) (key : String) (dflt : ℚ) : ℚ :=
  match j.member key with
  | some (.int n) => n
  | some (.float q) => q
  | _ => dflt

/-- The risk points for what a heartbeat reports. -/
def reportedPoints (hb : FleetHeartbeat) : Int :=
  (if numberOr hb.inventorySummary "drift" 0 > tenth then 20 else 0) +
  (if affirms hb.healthMetrics "unusual_cash_movement" then 25 else 0) +
  (if affirms hb.healthMetrics "missing_trust_evidence" then 20 else 0) +
  (if numberOr hb.healthMetrics "driver_stability" 1 < 3 / 4 then 20 else 0)

/-- The risk points of a device for everything but its quarantine. -/
def openPoints {ω : Type} (env : Env ω) (s : FleetOperationsService ω) (d : FleetDevice) (now : Int) : Int :=
  let total := s.commands.entries.countP fun e => e.2.deviceId = d.deviceId
  let failures := s.countCommands d.deviceId ["failed", "expired"]
  let violations := (s.policyViolations.lookup d.deviceId).getD 0
  (if heartbeatFreshLocked env d now then 0 else 30) +
  (if failures ≥ 3 then 25 else 0) +
  (if total > 0 ∧ failures * 2 ≥ total then 15 else 0) +
  (match s.heartbeats.lookup d.deviceId with
    | none => 0
    | some hb => reportedPoints hb) +
  (if violations > 0 then min 30 (violations * 10).toInt else 0)

/-- What the policy is asked about a recovery. -/
def recoveryContext (d : FleetDevice) (score : Int) : Json String :=
  .obj [("quarantine_reason", .str d.quarantineReason), ("risk_score", .int score), ("self_test_passed", .bool true)]

/-- The device `d` with the heartbeat `hb` may recover. -/
structure MayRecover {ω : Type} (env : Env ω) (s : FleetOperationsService ω) (tenantId deviceId : String) (now : Int)
    (d : FleetDevice) (hb : FleetHeartbeat) : Prop where
  tenant : d.tenantId = tenantId
  quarantined : d.lifecycleState = "quarantined"
  present : d.retired = false
  fresh : heartbeatFreshLocked env d now = true
  tested : affirms hb.healthMetrics "self_test_passed" = true
  online : hb.connectivityStatus = "online"
  firmware : knownVersion hb.firmwareVersion = true
  driver : knownVersion hb.driverVersion = true
  consistent : affirms hb.inventorySummary "contradiction" = false
  capable : capabilityKnownLocked d = true
  risk : openPoints env s d now < 75
  allowed : (s.policyAllows env tenantId deviceId "device_recovery" (recoveryContext d (openPoints env s d now)) now).2 = true

/-- The gate of recovery: there is such a device with such a heartbeat. -/
def RecoveryOpen {ω : Type} (env : Env ω) (s : FleetOperationsService ω) (tenantId deviceId : String) (now : Int) : Prop :=
  ∃ d hb, s.devices.lookup deviceId = some d ∧ s.heartbeats.lookup deviceId = some hb ∧
    MayRecover env s tenantId deviceId now d hb

/-- Every stored heartbeat can be read. -/
def WellTyped {ω : Type} (s : FleetOperationsService ω) : Prop :=
  ∀ id hb, s.heartbeats.lookup id = some hb → Typed hb

/-- If there is a trust service, it is the VEIL trust service, with some policy client. -/
def Veiled {ε : Type} (env : Env (VeilTrustService × ε)) : Prop :=
  env.trust = none ∨ ∃ h client, env.trust = (veilEnv h client none 0 : Env (VeilTrustService × ε)).trust

end Drawer.FleetOps
