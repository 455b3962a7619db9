import Drawer.Spec.Lifecycle
import Drawer.Spec.Veil

/-! The evidence chain of one device of the fleet registry, with a VEIL trust
service attached that receives evidence from the registry alone. -/

namespace Drawer.FleetOps
open Veil (VeilTrustService PolicyDecision EvidenceFilter)

variable {ω ε : Type}

/-- The time a request is made at: its `now_epoch` or `received_at`. -/
def Op.clock : Op ω → Option Int
  | .enroll _ _ now | .updateDevice _ _ _ now | .retireDevice _ _ now | .receiveHeartbeat _ now
  | .createCommand _ now | .cancelCommand _ _ now | .acknowledgeCommand _ _ now | .completeCommand _ _ _ _ now
  | .expireCommands now | .deviceRisk _ _ now | .fleetRisk _ now | .locationRisk _ _ now | .quarantine _ _ _ now
  | .recover _ _ now => some now
  | .outside _ => none

/-- The clock of the requests never goes back. -/
def Clocked (ops : List (Op ω)) : Prop := (ops.filterMap Op.clock).Pairwise (· ≤ ·)

/-- The heartbeat is accepted: it is stored and recorded, and the answer says so. -/
def Accepted (env : Env ω) (s : FleetOperationsService ω) (hb : FleetHeartbeat) (receivedAt : Int) : Prop :=
  (s.receiveHeartbeat env hb receivedAt).2 = .ok .ok

/-- An edge platform on the rest of the world. -/
def restEdge (api : EdgeApi ε) : EdgeApi (VeilTrustService × ε) where
  devices w tenantId := api.devices w.2 tenantId
  registerDevice w d := ((w.1, (api.registerDevice w.2 d).1), (api.registerDevice w.2 d).2)

/-- The registry with a VEIL trust service, whose policy client is `client`, and perhaps an edge platform. -/
def veilEnv (h : Veil.Digest) (client : String → String → String → Json String → PolicyDecision)
    (edge : Option (EdgeApi ε)) (heartbeatTimeoutSeconds : Int) : Env (VeilTrustService × ε) where
  digest := h
  edge := edge.map restEdge
  trust := some
    { createEvidence := fun w e => ((veilTrust h client).createEvidence w.1 e, w.2)
      policyAllowsOrFailClosed := fun w tenantId deviceId action context now =>
        let answer := (veilTrust h client).policyAllowsOrFailClosed w.1 tenantId deviceId action context now
        ((answer.1, w.2), answer.2) }
  heartbeatTimeoutSeconds

/-- What others do to the attached services in between leaves the evidence as it is. -/
def OnlyHere (env : Env (VeilTrustService × ε)) (w : VeilTrustService × ε) (ops : List (Op (VeilTrustService × ε))) : Prop :=
  Transition.Meets (fun s op => ∀ w', op = .outside w' → w'.1.evidence = s.world.1.evidence) (apply env) { world := w } ops

/-- A filter on one device of a tenant. -/
def deviceFilter (tenantId deviceId : String) : EvidenceFilter := { tenantId, deviceId }

/-- The verifier reports the device's chain valid. -/
def ChainValid (h : Veil.Digest) (s : FleetOperationsService (VeilTrustService × ε)) (tenantId deviceId : String) : Prop :=
  (s.world.1.verifyChain h (deviceFilter tenantId deviceId)).2.valid = true

/-- If the request is a heartbeat of the device that is accepted, its time is not after its receipt, and not before
that of any evidence of the device. -/
def Timely (env : Env (VeilTrustService × ε)) (deviceId : String) (s : FleetOperationsService (VeilTrustService × ε)) :
    Op (VeilTrustService × ε) → Prop
  | .receiveHeartbeat hb receivedAt =>
    hb.deviceId = deviceId → Accepted env s hb receivedAt →
      hb.timestamp ≤ receivedAt ∧ ∀ e ∈ s.world.1.evidence, e.deviceId = deviceId → e.timestamp ≤ hb.timestamp
  | _ => True

/-- Along `ops` every accepted heartbeat of the device is timely. -/
def TimelyRun (env : Env (VeilTrustService × ε)) (deviceId : String) (w : VeilTrustService × ε)
    (ops : List (Op (VeilTrustService × ε))) : Prop :=
  Transition.Meets (Timely env deviceId) (apply env) { world := w } ops

end Drawer.FleetOps
