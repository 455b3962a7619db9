import Drawer.Lib.Transition
import Drawer.Spec.FleetOperations

/-! What is wanted of the fleet registry over whole runs: which changes of a
device's lifecycle state there may be, and what holds when a command is
dispatched. -/

namespace Drawer.FleetOps
open FleetOperationsService

variable {ω : Type}

/-- The VEIL trust service, attached to the registry; `client` is its policy client. -/
def veilTrust (h : Veil.Digest) (client : String → String → String → Json String → Veil.PolicyDecision) :
    TrustApi Veil.VeilTrustService where
  createEvidence w e := (w.createEvidence h e).1
  policyAllowsOrFailClosed w tenantId deviceId action context now :=
    w.policyAllowsOrFailClosed (client tenantId deviceId action context) tenantId deviceId action context now

/-- `LocalVeilClient::verify_policy` while the client is available. -/
def localPolicy (deniedActions : List String) (tenantId deviceId action : String) (context : Json String) :
    Veil.PolicyDecision :=
  let allowed := decide (action ∉ deniedActions)
  { tenantId, deviceId, action, context, allowed
    reason := if allowed then "local_policy_allow" else "local_policy_deny" }

/-- The registry after the requests `ops`, begun empty with the attached services in state `w`. -/
def run (env : Env ω) (w : ω) (ops : List (Op ω)) : FleetOperationsService ω := ops.foldl (apply env) { world := w }

def stateOf (s : FleetOperationsService ω) (deviceId : String) : Option String :=
  (s.devices.lookup deviceId).map FleetDevice.lifecycleState

/-- The changes of lifecycle state there may be; only the recovery of the device leads out of quarantine. -/
def Allowed (op : Op ω) (deviceId source target : String) : Prop :=
  (source = "provisioned" ∧ target = "active") ∨ (source = "active" ∧ target = "maintenance") ∨
  (source = "maintenance" ∧ target = "active") ∨ (source ≠ "retired" ∧ target = "quarantined") ∨
  (source ≠ "retired" ∧ target = "retired") ∨
  (source = "quarantined" ∧ target = "active" ∧ ∃ tenantId now, op = .recover tenantId deviceId now)

/-- The lifecycle law for the run `ops`. -/
structure Lawful (env : Env ω) (w : ω) (ops : List (Op ω)) : Prop where
  changes : ∀ before op after, ops = before ++ op :: after → ∀ deviceId source target,
    stateOf (run env w before) deviceId = some source →
    stateOf (apply env (run env w before) op) deviceId = some target → source ≠ target →
    Allowed op deviceId source target
  irreversible : ∀ before after, ops = before ++ after → ∀ deviceId,
    stateOf (run env w before) deviceId = some "retired" → stateOf (run env w ops) deviceId = some "retired"

/-- What holds when the command `c` is stored as dispatched, by a call in state `s` that leads to `s'`. -/
structure Gate (env : Env ω) (s s' : FleetOperationsService ω) (c : FleetCommand) (now : Int) (d : FleetDevice) :
    Prop where
  enrolled : s'.devices.lookup c.deviceId = some d ∧ d.tenantId = c.tenantId
  available : d.lifecycleState ≠ "retired" ∧ d.lifecycleState ≠ "quarantined"
  heard : ∃ hb, s'.heartbeats.lookup c.deviceId = some hb ∧ hb.timestamp = d.lastHeartbeatEpoch
  fresh : 0 < d.lastHeartbeatEpoch ∧ d.lastHeartbeatEpoch ≤ now ∧
    now - d.lastHeartbeatEpoch ≤ env.heartbeatTimeoutSeconds
  online : d.connectivityStatus = "online"
  capable : capabilityForCommand c.command ∈ d.capabilities
  allowed : (s.policyAllows env c.tenantId c.deviceId (policyAction c.command) (policyContext c) now).2 = true
  approved : highRiskCommand c.command = true → c.approvalId ≠ "" ∧ c.approvedBy ≠ ""

/-- The dispatch gate for the run `ops`: whenever `create_command` stores a command as dispatched, the gate
holds. -/
def Gated (env : Env ω) (w : ω) (ops : List (Op ω)) : Prop :=
  ∀ before command now after, ops = before ++ .createCommand command now :: after →
    ∀ id c, (apply env (run env w before) (.createCommand command now)).commands.lookup id = some c →
      (run env w before).commands.lookup id ≠ some c → c.state = "dispatched" →
      ∃ d, Gate env (run env w before) (apply env (run env w before) (.createCommand command now)) c now d

/-- The lifecycle state a patch gives. -/
def patchedState (patch : Json String) : Option String :=
  match patch.member "lifecycle_state" with
  | some (.str v) => some v
  | _ => none

/-- The request patches the lifecycle state of a device of the tenant to `retired`, and the device is not marked
as retired: the text is stored, and the mark is not set. -/
def retiresByPatch (s : FleetOperationsService ω) : Op ω → Bool
  | .updateDevice tenantId deviceId patch _ =>
    match s.devices.lookup deviceId with
    | none => false
    | some d =>
      d.tenantId = tenantId && !d.retired && patchedState patch = some "retired" &&
        (locationMissing patch).toOption = some false
  | _ => false

/-- Along `ops` no device is retired by a patch. -/
def RetiredProperly (env : Env ω) (w : ω) (ops : List (Op ω)) : Prop :=
  Transition.Meets (fun s op => retiresByPatch s op = false) (apply env) { world := w } ops

instance (env : Env ω) (w : ω) (ops : List (Op ω)) : Decidable (RetiredProperly env w ops) :=
  Transition.Meets.decidable _ _ _ _

end Drawer.FleetOps
