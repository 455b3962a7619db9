import Drawer.Lib.Dict
import Drawer.Lib.Json
import Drawer.Lib.Lexical

/-! The VEIL trust service: evidence records linked by hashes, the verifier of
their chains, the policy gate, and exports of evidence. Texts are Unicode strings,
on which the JSON library's `dump` never raises; `dump` and SHA-256 are parameters. -/

namespace Drawer.Veil

/-- The SHA-256 of a text in hexadecimal, and the JSON library's writer. -/
structure Digest where
  sha256Hex : String → String
  dump : Json String → String

structure TrustEvidenceRecord where
  evidenceId : String := ""
  tenantId : String := ""
  deviceId : String := ""
  merchantId : String := ""
  branchId : String := ""
  region : String := ""
  eventType : String := ""
  sourceModule : String := ""
  timestamp : Int := 0
  payloadHash : String := ""
  previousHash : String := ""
  localSignature : String := ""
  policyContext : Json String := .obj []
  classificationLabels : List String := []
  sensitivityLabels : List String := []
  auditEventId : String := ""
  correlationId : String := ""
  payload : Json String := .obj []

structure PolicyDecision where
  decisionId : String := ""
  tenantId : String := ""
  deviceId : String := ""
  action : String := ""
  allowed : Bool := false
  unavailable : Bool := false
  reason : String := ""
  context : Json String := .obj []
  decidedAt : Int := 0

structure ChainVerificationResult where
  valid : Bool := true
  errors : List String := []
  recordsChecked : ℕ := 0
  tenantId : String := ""
  deviceId : String := ""
  hashSummary : String := ""

/-- An empty text or a time that is not positive matches everything. -/
structure EvidenceFilter where
  tenantId : String := ""
  deviceId : String := ""
  merchantId : String := ""
  branchId : String := ""
  region : String := ""
  eventType : String := ""
  startTime : Int := 0
  endTime : Int := 0

structure PolicyConfig where
  productionMode : Bool := false
  failClosed : Bool := true
  localAllowWhenUnavailable : Bool := true
  highRiskActions : List String :=
    ["disable_device", "enable_device", "pause_transactions", "resume_transactions", "ota_promotion",
     "ota_install_eligibility", "certificate_revocation", "reconciliation_override", "manual_adjustment",
     "command_execution", "lock", "unlock", "open", "dispense_cash", "accept_cash", "rotate_keys",
     "export_evidence", "enter_maintenance_mode", "device_recovery"]

/-- An entry of the service's own audit log. -/
structure AuditEvent where
  eventId : String
  tenantId : String
  deviceId : String
  eventType : String
  timestamp : Int
  metadata : Json String

structure VeilTrustService where
  policy : PolicyConfig := {}
  evidence : List TrustEvidenceRecord := []
  decisions : List PolicyDecision := []
  auditEvents : List AuditEvent := []

def idFor (label : String) (n : ℕ) : String := label ++ "-" ++ toString (n + 1)

def chainKey (kind value : String) : String := kind ++ ":" ++ value

/-- A value unless it is empty. -/
def orElse (s dflt : String) : String := if s = "" then dflt else s

variable (h : Digest)

def canonicalPayloadHash (e : TrustEvidenceRecord) : String :=
  h.sha256Hex <| h.dump <| .obj
    [("tenant_id", .str e.tenantId), ("device_id", .str e.deviceId), ("merchant_id", .str e.merchantId),
     ("branch_id", .str e.branchId), ("region", .str e.region), ("event_type", .str e.eventType),
     ("source_module", .str e.sourceModule), ("timestamp", .int e.timestamp), ("policy_context", e.policyContext),
     ("payload", e.payload), ("audit_event_id", .str e.auditEventId), ("correlation_id", .str e.correlationId)]

/-- The text a record's signature is made of. -/
def signatureText (e : TrustEvidenceRecord) : String := e.payloadHash ++ e.previousHash

/-- The text a record's link is made of. -/
def chainText (e : TrustEvidenceRecord) : String :=
  e.evidenceId ++ e.payloadHash ++ e.previousHash ++ e.localSignature

def recordChainHash (e : TrustEvidenceRecord) : String := h.sha256Hex (chainText e)

/-- The newest record of the chain `key`. -/
def lastHashFor (records : List TrustEvidenceRecord) (key : String) : String :=
  match records.reverse.find? fun e => key = chainKey "device" e.deviceId || key = chainKey "tenant" e.tenantId with
  | none => ""
  | some e => recordChainHash h e

def filterMatches (e : TrustEvidenceRecord) (f : EvidenceFilter) : Bool :=
  (f.tenantId = "" || e.tenantId = f.tenantId) && (f.deviceId = "" || e.deviceId = f.deviceId) &&
  (f.merchantId = "" || e.merchantId = f.merchantId) && (f.branchId = "" || e.branchId = f.branchId) &&
  (f.region = "" || e.region = f.region) && (f.eventType = "" || e.eventType = f.eventType) &&
  !(f.startTime > 0 && e.timestamp < f.startTime) && !(f.endTime > 0 && e.timestamp > f.endTime)

namespace VeilTrustService

def auditLocked (s : VeilTrustService) (tenantId deviceId eventType : String) (timestamp : Int)
    (metadata : Json String) : VeilTrustService :=
  { s with
    auditEvents := s.auditEvents ++
      [⟨idFor "trust-event" s.auditEvents.length, tenantId, deviceId, eventType, timestamp, metadata⟩] }

/-- The record as `create_evidence` completes it before it is linked. -/
def complete (s : VeilTrustService) (e : TrustEvidenceRecord) : TrustEvidenceRecord :=
  { e with
    evidenceId := orElse e.evidenceId (idFor "evidence" s.evidence.length)
    auditEventId := orElse e.auditEventId (idFor "trust-audit" s.auditEvents.length)
    classificationLabels := if e.classificationLabels = [] then ["operational"] else e.classificationLabels
    sensitivityLabels := if e.sensitivityLabels = [] then ["internal"] else e.sensitivityLabels }

/-- The link to the device's chain if it has one, else to the tenant's. -/
def link (records : List TrustEvidenceRecord) (e : TrustEvidenceRecord) : String :=
  let devicePrev := if e.deviceId = "" then "" else lastHashFor h records (chainKey "device" e.deviceId)
  let tenantPrev := if e.tenantId = "" then "" else lastHashFor h records (chainKey "tenant" e.tenantId)
  if devicePrev ≠ "" then devicePrev else tenantPrev

def createEvidence (s : VeilTrustService) (e : TrustEvidenceRecord) : VeilTrustService × TrustEvidenceRecord :=
  let e := s.complete e
  let payloadHash := canonicalPayloadHash h e
  let previousHash := link h s.evidence e
  let e := { e with payloadHash, previousHash, localSignature :=
    "local-test-signature:" ++ h.sha256Hex (payloadHash ++ previousHash) }
  ({ s with evidence := s.evidence ++ [e] }.auditLocked e.tenantId e.deviceId "trust_evidence_created" e.timestamp .null, e)

/-- What the verifier carries from record to record. -/
structure Scan where
  valid : Bool := true
  errors : List String := []
  recordsChecked : ℕ := 0
  ids : List String := []
  lastHash : Dict String String := ∅
  lastTime : Dict String Int := ∅

def Scan.failIf (c : Bool) (error : String) (sc : Scan) : Scan :=
  if c then { sc with valid := false, errors := sc.errors ++ [error] } else sc

/-- The check of one record against the chain `key`. -/
def checkKey (e : TrustEvidenceRecord) (sc : Scan) (key : String) : Scan :=
  let prev := (sc.lastHash.lookup key).getD ""
  let late := (sc.lastTime.lookup key).any fun t => e.timestamp < t
  let sc := sc.failIf (prev ≠ "" && e.previousHash ≠ prev) ("missing_link:" ++ e.evidenceId)
  let sc := sc.failIf late ("out_of_order:" ++ e.evidenceId)
  { sc with lastHash := sc.lastHash.insert key (recordChainHash h e), lastTime := sc.lastTime.insert key e.timestamp }

def keysOf (e : TrustEvidenceRecord) : List String :=
  (if e.deviceId = "" then [] else [chainKey "device" e.deviceId]) ++
  (if e.tenantId = "" then [] else [chainKey "tenant" e.tenantId])

def checkRecord (sc : Scan) (e : TrustEvidenceRecord) : Scan :=
  let sc := { sc with recordsChecked := sc.recordsChecked + 1 }
  let seen := decide (e.evidenceId ∈ sc.ids)
  let sc := { sc.failIf seen ("duplicate_evidence_id:" ++ e.evidenceId) with ids := e.evidenceId :: sc.ids }
  let sc := sc.failIf (canonicalPayloadHash h e ≠ e.payloadHash) ("payload_tamper:" ++ e.evidenceId)
  (keysOf e).foldl (checkKey h e) sc

def verifyChainLocked (s : VeilTrustService) (f : EvidenceFilter) : ChainVerificationResult :=
  let records := s.evidence.filter fun e => filterMatches e f
  let sc := records.foldl (checkRecord h) {}
  { valid := sc.valid, errors := sc.errors, recordsChecked := sc.recordsChecked, tenantId := f.tenantId,
    deviceId := f.deviceId
    hashSummary := h.sha256Hex (h.dump (.arr (records.map fun e => .str (recordChainHash h e)))) }

def verifyChain (s : VeilTrustService) (f : EvidenceFilter) : VeilTrustService × ChainVerificationResult :=
  let r := s.verifyChainLocked h f
  let eventType := if r.valid then "trust_chain_verified" else "trust_chain_verification_failed"
  let metadata := .obj [("records_checked", .int r.recordsChecked), ("errors", .arr (r.errors.map .str))]
  (s.auditLocked f.tenantId f.deviceId eventType 0 metadata, r)

/-- `answer` is what the client said about the action. -/
def verifyPolicy (s : VeilTrustService) (answer : PolicyDecision) (tenantId deviceId action : String)
    (context : Json String) (now : Int) : VeilTrustService × PolicyDecision :=
  let highRisk := decide (action ∈ s.policy.highRiskActions)
  let d := { answer with decisionId := idFor "veil-policy" s.decisions.length, tenantId, deviceId, action, context,
                         decidedAt := now }
  let d :=
    if d.unavailable && highRisk then
      if s.policy.productionMode && s.policy.failClosed then
        { d with allowed := false, reason := "policy_unavailable_fail_closed" }
      else if !s.policy.productionMode && s.policy.localAllowWhenUnavailable then
        { d with allowed := true, reason := "policy_unavailable_local_allow" }
      else d
    else d
  let eventType :=
    if d.unavailable then "veil_policy_unavailable" else if d.allowed then "veil_policy_allowed" else "veil_policy_denied"
  ({ s with decisions := s.decisions ++ [d] }.auditLocked tenantId deviceId eventType now
    (.obj [("action", .str action), ("reason", .str d.reason)]), d)

def policyAllowsOrFailClosed (s : VeilTrustService) (answer : PolicyDecision) (tenantId deviceId action : String)
    (context : Json String) (now : Int) : VeilTrustService × Bool :=
  let p := s.verifyPolicy answer tenantId deviceId action context now
  (p.1, p.2.allowed)

end VeilTrustService

/-! ### Histories of the trust service, as its callers make them -/

/-- The service after `create_evidence` was called with each of `calls`, in order. -/
def history (calls : List TrustEvidenceRecord) : VeilTrustService :=
  calls.foldl (fun s e => (s.createEvidence h e).1) {}

/-- The records of each device stand in one block: a device that has a record already is the device of the
record just before. Records without a device end a block. -/
def Contiguous (devices : List String) : Prop :=
  ∀ l d r, devices = l ++ d :: r → d ≠ "" → d ∈ l → l.getLast? = some d

/-- The texts the service hashed for links and signatures. -/
def hashedTexts (s : VeilTrustService) : List String := s.evidence.flatMap fun e => [chainText e, signatureText e]

/-- No two texts of the list have the same hash. -/
def NoCollision (texts : List String) : Prop :=
  ∀ x ∈ texts, ∀ y ∈ texts, h.sha256Hex x = h.sha256Hex y → x = y

/-- A filter on the tenant alone. -/
def tenantFilter (tenant : String) : EvidenceFilter := { tenantId := tenant }

/-! ### Exports: records with the same time and id may come in any order, so their sort is a parameter -/

structure EvidenceBundle where
  bundleId : String := ""
  scopeType : String := ""
  scopeId : String := ""
  startTime : Int := 0
  endTime : Int := 0
  records : List TrustEvidenceRecord := []
  verification : ChainVerificationResult := {}
  hashSummary : String := ""
  policyDecisions : List PolicyDecision := []
  relatedAuditEvents : List String := []

def scopeMatches (e : TrustEvidenceRecord) (scopeType scopeId : String) : Bool :=
  if scopeType = "device" then e.deviceId = scopeId
  else if scopeType = "merchant" || scopeType = "reconciliation" then e.merchantId = scopeId
  else if scopeType = "branch" then e.branchId = scopeId
  else if scopeType = "region" then e.region = scopeId
  else if scopeType = "anomaly" then e.correlationId = scopeId || e.eventType = "anomaly_detected"
  else if scopeType = "ota" then
    "ota_".toList.isPrefixOf e.eventType.toList && (scopeId = "" || e.deviceId = scopeId)
  else false

/-- The time limits of an export; a limit that is not positive does not count. -/
def inRange (startTime endTime : Int) (e : TrustEvidenceRecord) : Bool :=
  !(startTime > 0 && e.timestamp < startTime) && !(endTime > 0 && e.timestamp > endTime)

/-- The order of `std::sort`. -/
def recordBefore (a b : TrustEvidenceRecord) : Bool :=
  if a.timestamp ≠ b.timestamp then a.timestamp < b.timestamp
  else Lexical.less (a.evidenceId.toList.map Char.toNat) (b.evidenceId.toList.map Char.toNat)

/-- What `std::sort` promises. -/
structure Sorts (sort : List TrustEvidenceRecord → List TrustEvidenceRecord) : Prop where
  perm : ∀ l, (sort l).Perm l
  sorted : ∀ l, (sort l).Pairwise fun a b => recordBefore b a = false

namespace VeilTrustService

variable (sort : List TrustEvidenceRecord → List TrustEvidenceRecord)

/-- The records in scope and in the time range, as they were appended. -/
def inScope (s : VeilTrustService) (scopeType scopeId : String) (startTime endTime : Int) : List TrustEvidenceRecord :=
  s.evidence.filter fun e => scopeMatches e scopeType scopeId && inRange startTime endTime e

/-- The filter the bundle is verified with. -/
def bundleFilter (scopeType scopeId : String) (startTime endTime : Int) (records : List TrustEvidenceRecord) :
    EvidenceFilter :=
  { deviceId := if scopeType = "device" then scopeId else ""
    tenantId := (records.head?.map TrustEvidenceRecord.tenantId).getD ""
    startTime, endTime }

def exportBundle (s : VeilTrustService) (scopeType scopeId : String) (startTime endTime : Int) :
    VeilTrustService × EvidenceBundle :=
  let found := s.inScope scopeType scopeId startTime endTime
  let records := sort found
  let bundleId := "bundle-" ++ String.ofList
    ((h.sha256Hex (scopeType ++ ":" ++ scopeId ++ ":" ++ toString startTime ++ ":" ++ toString endTime)).toList.take 16)
  let bundle : EvidenceBundle :=
    { bundleId, scopeType, scopeId, startTime, endTime, records
      verification := s.verifyChainLocked h (bundleFilter scopeType scopeId startTime endTime records)
      hashSummary := h.sha256Hex (h.dump (.arr (records.map fun e => .str (recordChainHash h e))))
      policyDecisions := s.decisions.filter fun d => records.head?.any fun e => d.tenantId = e.tenantId
      relatedAuditEvents := (found.map TrustEvidenceRecord.auditEventId).filter fun i => i ≠ "" }
  (s.auditLocked ((records.head?.map TrustEvidenceRecord.tenantId).getD "")
    ((records.head?.map TrustEvidenceRecord.deviceId).getD "") "trust_bundle_exported" endTime
    (.obj [("bundle_id", .str bundleId)]), bundle)

end VeilTrustService
end Drawer.Veil
