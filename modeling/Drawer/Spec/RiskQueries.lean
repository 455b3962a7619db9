import Drawer.Lib.JsonRecord
import Drawer.Spec.EventLog
import Drawer.Spec.FleetStore

/-! What can be asked of the fleet registry: the records, the risk queries and the
recovery. A heartbeat's two summaries are stored as they come, but for one member,
and read by type later. -/

namespace Drawer.FleetOps
open FleetOperationsService Json Text

/-! ### Records -/

namespace FleetOperationsService

variable {ω : Type} (env : Env ω)

def device (s : FleetOperationsService ω) (tenantId deviceId : String) : Option FleetDevice :=
  (s.devices.lookup deviceId).filter fun d => d.tenantId = tenantId

/-- `FleetOperationsService::devices`. -/
def tenantDevices (s : FleetOperationsService ω) (tenantId : String) : List FleetDevice :=
  ((s.devices.entries.map Sigma.snd).filter fun d => d.tenantId = tenantId).insertionSort fun a b =>
    textBefore b.deviceId a.deviceId = false

def freshness (s : FleetOperationsService ω) (tenantId deviceId : String) (now : Int) : Json String :=
  match s.device tenantId deviceId with
  | none => .obj [("found", .bool false)]
  | some d =>
    let age := if d.lastHeartbeatEpoch = 0 then -1 else now - d.lastHeartbeatEpoch
    .obj [("found", .bool true), ("device_id", .str deviceId), ("fresh", .bool (heartbeatFreshLocked env d now)),
      ("age_seconds", .int age), ("timeout_seconds", .int env.heartbeatTimeoutSeconds),
      ("last_heartbeat_at", .str d.lastHeartbeatAt)]

def health (s : FleetOperationsService ω) (tenantId deviceId : String) (now : Int) : Json String :=
  match s.device tenantId deviceId with
  | none => .obj [("found", .bool false)]
  | some d =>
    let hb := s.heartbeats.lookup deviceId
    .obj [("found", .bool true), ("device_id", .str deviceId), ("lifecycle_state", .str d.lifecycleState),
      ("connectivity_status", .str d.connectivityStatus), ("fresh", .bool (heartbeatFreshLocked env d now)),
      ("health_metrics", (hb.map FleetHeartbeat.healthMetrics).getD (.obj [])),
      ("error_codes", .arr (((hb.map FleetHeartbeat.errorCodes).getD []).map .str))]

def command (s : FleetOperationsService ω) (tenantId commandId : String) : Option FleetCommand :=
  (s.commands.lookup commandId).filter fun c => c.tenantId = tenantId

/-- `FleetOperationsService::commands`. -/
def tenantCommands (s : FleetOperationsService ω) (tenantId : String) : List FleetCommand :=
  ((s.commands.entries.map Sigma.snd).filter fun c => c.tenantId = tenantId).insertionSort fun a b =>
    textBefore b.commandId a.commandId = false

def quarantined (s : FleetOperationsService ω) (tenantId : String) : List FleetDevice :=
  (s.devices.entries.map Sigma.snd).filter fun d => d.tenantId = tenantId && d.lifecycleState = "quarantined"

end FleetOperationsService

/-! ### Risk -/

/-- A risk query, or a recovery, with the texts of the request; these may be any bytes. -/
inductive RiskQuery where
  | device (tenantId deviceId : Bytes)
  | fleet (tenantId : Bytes)
  | location (tenantId locationId : Bytes)
  | recover (tenantId deviceId : Bytes)

/-- How the service answers; `saved` is how `save_locked` comes out. Nothing in the registry has a name that is not
UTF-8, but `location_risk` logs an event with the names it was given. -/
def ask {ω : Type} (env : Env ω) (saved : Except Exn Unit) (s : FleetOperationsService ω) (now : Int) :
    RiskQuery → Except Exn Unit
  | .device tenantId deviceId =>
    match textOf tenantId, textOf deviceId with
    | .ok tenantId, .ok deviceId =>
      match s.device tenantId deviceId with
      | none => .ok ()
      | some _ => do
        let _ ← (s.deviceRisk env tenantId deviceId now).2
        saved
    | _, _ => .ok ()
  | .fleet tenantId =>
    match textOf tenantId with
    | .ok tenantId => do
      let _ ← (s.fleetRisk env tenantId now).2
      saved
    | _ => saved
  | .location tenantId locationId => do
    let tenantId ← textOf tenantId
    let locationId ← textOf locationId
    let _ ← (s.locationRisk env tenantId locationId now).2
    saved
  | .recover tenantId deviceId =>
    match textOf tenantId, textOf deviceId with
    | .ok tenantId, .ok deviceId => do
      let reply ← (s.recover env tenantId deviceId now).2
      if reply = .ok then saved else return ()
    | _, _ => .ok ()

/-- A location query gives its names in UTF-8. -/
def RiskQuery.Legible : RiskQuery → Prop
  | .location tenantId locationId => (∃ t, textOf tenantId = .ok t) ∧ ∃ t, textOf locationId = .ok t
  | _ => True

/-- The query, or the recovery, returns, at any time. -/
def Returns {ω : Type} (env : Env ω) (saved : Except Exn Unit) (s : FleetOperationsService ω) (query : RiskQuery) :
    Prop :=
  ∀ now, ask env saved s now query = .ok ()

/-- The member, if the object has it, is a boolean. -/
def HasBool (j : Json String) (key : String) : Prop := ∀ v, j.member key = some v → ∃ b, v = .bool b

/-- The member, if the object has it, is a number. -/
def HasNumber (j : Json String) (key : String) : Prop :=
  ∀ v, j.member key = some v → (∃ n, v = .int n) ∨ ∃ q, v = .float q

/-- What a risk query can read. -/
structure RiskTyped (hb : FleetHeartbeat) : Prop where
  inventory : ∃ members, hb.inventorySummary = .obj members
  health : ∃ members, hb.healthMetrics = .obj members
  drift : HasNumber hb.inventorySummary "drift"
  movement : HasBool hb.healthMetrics "unusual_cash_movement"
  missing : HasBool hb.healthMetrics "missing_trust_evidence"
  stability : HasNumber hb.healthMetrics "driver_stability"

/-- What a risk query and a recovery can read: the recovery looks for a contradiction only in a heartbeat that passes
otherwise. -/
structure Typed (hb : FleetHeartbeat) : Prop extends RiskTyped hb where
  selfTest : HasBool hb.healthMetrics "self_test_passed"
  contradiction : hb.healthMetrics.member "self_test_passed" = some (.bool true) → hb.connectivityStatus = "online" →
    knownVersion hb.firmwareVersion = true → knownVersion hb.driverVersion = true →
    HasBool hb.inventorySummary "contradiction"

/-- The registry takes the heartbeat into its store: it comes from a device of the tenant that is not retired, in time,
and the device is quarantined, or the heartbeat shows nothing that quarantines it. -/
def Stores {ω : Type} (env : Env ω) (s : FleetOperationsService ω) (hb : FleetHeartbeat) (now : Int) : Prop :=
  ∃ d, s.devices.lookup hb.deviceId = some d ∧ hb.tenantId = d.tenantId ∧ d.retired = false ∧ 0 < hb.timestamp ∧
    now - hb.timestamp ≤ env.heartbeatTimeoutSeconds ∧ hb.timestamp ≤ now + 30 ∧
    (d.lifecycleState = "quarantined" ∨
      (capabilityKnownLocked d = true ∧ knownVersion hb.firmwareVersion = true ∧ knownVersion hb.driverVersion = true ∧
        hb.inventorySummary.value "contradiction" Json.getBool false = .ok false))

/-- The heartbeats that the event stores can be read. -/
def StoresTyped {ω : Type} (env : Env ω) (r : Registry ω) (e : Event ω) : Prop :=
  ∀ hb now, e = .request (.receiveHeartbeat hb now) → Stores env r.service hb now → Typed hb

/-! ### Freshness -/

variable {ω : Type} (env : Env ω)

/-- `freshness` or `health` says that the device is fresh. -/
def ReportedFresh (s : FleetOperationsService ω) (tenantId deviceId : String) (now : Int) : Prop :=
  (s.freshness env tenantId deviceId now).member "fresh" = some (.bool true) ∨
    (s.health env tenantId deviceId now).member "fresh" = some (.bool true)

/-- Among the events from `start` on the registry received a heartbeat of the device with the time `ts`. -/
def WasHeard (start : Registry ω) (events : List (Event ω)) (deviceId : String) (ts : Int) : Prop :=
  ∃ before hb receivedAt after, events = before ++ .request (.receiveHeartbeat hb receivedAt) :: after ∧
    Stores env (before.foldl (Registry.step env) start).service hb receivedAt ∧ hb.deviceId = deviceId ∧ hb.timestamp = ts

/-- Whatever device is said to be fresh after the events was heard at the time that the registry has of it, and not too
long ago. -/
def Earned (start : Registry ω) (events : List (Event ω)) : Prop :=
  ∀ tenantId deviceId now, ReportedFresh env (events.foldl (Registry.step env) start).service tenantId deviceId now →
    ∃ d, (events.foldl (Registry.step env) start).service.devices.lookup deviceId = some d ∧
      WasHeard env start events deviceId d.lastHeartbeatEpoch ∧
      now - env.heartbeatTimeoutSeconds ≤ d.lastHeartbeatEpoch ∧ d.lastHeartbeatEpoch ≤ now

end Drawer.FleetOps
