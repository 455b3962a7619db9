import Drawer.Spec.ContractServer
import Drawer.Spec.FleetManager

/-! The enrolment service: tokens, the identities enrolled with them, and the store
both are written to after every change. The store file is the JSON value it holds,
if there is one. -/

namespace Drawer.Twin

structure EnrollmentTokenRecord where
  token : String := ""
  deviceId : String := ""
  merchantId : String := ""
  region : String := ""
  environment : String := ""
  deploymentChannel : String := ""
  expiresAtEpoch : Int := 0
  used : Bool := false
  revoked : Bool := false
  deriving DecidableEq

def EnrollmentTokenRecord.toJson (r : EnrollmentTokenRecord) : Json String :=
  .obj [("token", .str r.token), ("device_id", .str r.deviceId), ("merchant_id", .str r.merchantId),
    ("region", .str r.region), ("environment", .str r.environment), ("deployment_channel", .str r.deploymentChannel),
    ("expires_at_epoch", .int r.expiresAtEpoch), ("used", .bool r.used), ("revoked", .bool r.revoked)]

section
open Json

def EnrollmentTokenRecord.fromJson (j : Json String) : Except Exn EnrollmentTokenRecord := do
  let token ← j.value "token" getStr ""
  let deviceId ← j.value "device_id" getStr ""
  let merchantId ← j.value "merchant_id" getStr ""
  let region ← j.value "region" getStr ""
  let environment ← j.value "environment" getStr ""
  let deploymentChannel ← j.value "deployment_channel" getStr ""
  let expiresAtEpoch ← j.value "expires_at_epoch" getInt 0
  let used ← j.value "used" getBool false
  let revoked ← j.value "revoked" getBool false
  return { token, deviceId, merchantId, region, environment, deploymentChannel, expiresAtEpoch, used, revoked }

def EnrollmentRequest.fromJson (j : Json String) : Except Exn EnrollmentRequest := do
  let deviceId ← j.value "device_id" getStr ""
  let merchantId ← j.value "merchant_id" getStr ""
  let region ← j.value "region" getStr ""
  let environment ← j.value "environment" getStr ""
  let deploymentChannel ← j.value "deployment_channel" getStr ""
  let enrollmentToken ← j.value "enrollment_token" getStr ""
  return { deviceId, merchantId, region, environment, deploymentChannel, enrollmentToken }

end

def tokenChar (c : Char) : Bool :=
  ('A' ≤ c && c ≤ 'Z') || ('a' ≤ c && c ≤ 'z') || ('0' ≤ c && c ≤ '9') || c = '-' || c = '_' || c = '.'

def malformedToken (token : String) : Bool :=
  token.utf8ByteSize < 12 || 256 < token.utf8ByteSize || token.toList.any fun c => !tokenChar c

structure EnrollmentService where
  storePath : String := ""
  tokens : Dict String EnrollmentTokenRecord := ∅
  identities : Dict String DrawerTwin := ∅
  file : Option (Json String) := none

namespace EnrollmentService

def saved (s : EnrollmentService) : Json String :=
  .obj [("schema", .int 1), ("tokens", .arr (s.tokens.entries.map fun e => e.2.toJson)),
    ("identities", .arr (s.identities.entries.map fun e => e.2.toJson))]

def saveLocked (s : EnrollmentService) : EnrollmentService :=
  if s.storePath = "" then s else { s with file := some s.saved }

/-- Read the values in order and enter each, up to the first that cannot be read. -/
def loadItems {α : Type} (read : Json String → Except Exn α) (key : α → String) :
    List (Json String) → Dict String α → Dict String α × Bool
  | [], m => (m, true)
  | j :: js, m =>
    match read j with
    | .error _ => (m, false)
    | .ok a => loadItems read key js (m.insert (key a) a)

/-- The values a range-for over `j.value(key, array())` visits. -/
def listed (j : Json String) (key : String) : Except Exn (List (Json String)) := do
  let v ← j.value key .ok (.arr [])
  return (items v).map Prod.snd

/-- `EnrollmentService(store_path)`: what is read before the first error is kept. -/
def load (storePath : String) (file : Option (Json String)) : EnrollmentService :=
  let s : EnrollmentService := { storePath, file }
  if storePath = "" then s
  else match file with
  | none => s
  | some j =>
    match listed j "tokens" with
    | .error _ => s
    | .ok tokens =>
      match loadItems EnrollmentTokenRecord.fromJson EnrollmentTokenRecord.token tokens ∅ with
      | (tokens, false) => { s with tokens }
      | (tokens, true) =>
        match listed j "identities" with
        | .error _ => { s with tokens }
        | .ok identities =>
          { s with tokens, identities := (loadItems DrawerTwin.fromJson DrawerTwin.deviceId identities ∅).1 }

def addToken (s : EnrollmentService) (record : EnrollmentTokenRecord) : EnrollmentService :=
  { s with tokens := s.tokens.insert record.token record }.saveLocked

def revokeToken (s : EnrollmentService) (token : String) : EnrollmentService :=
  match s.tokens.lookup token with
  | some record => { s with tokens := s.tokens.insert token { record with revoked := true } }.saveLocked
  | none => s.saveLocked

/-- Why a token does not enroll the device of the request. -/
def refusal (s : EnrollmentService) (request : EnrollmentRequest) (now : Int) : Except String EnrollmentTokenRecord :=
  if malformedToken request.enrollmentToken then .error "malformed_token"
  else match s.tokens.lookup request.enrollmentToken with
  | none => .error "unknown_token"
  | some record =>
    if record.revoked then .error "revoked_token"
    else if record.used then .error "reused_token"
    else if 0 < record.expiresAtEpoch && record.expiresAtEpoch < now then .error "expired_token"
    else if record.deviceId ≠ request.deviceId then .error "device_mismatch"
    else .ok record

def orElse (given dflt : String) : String := if given = "" then dflt else given

/-- The identity a token gives its device. -/
def enrolledTwin (ts : String) (request : EnrollmentRequest) (record : EnrollmentTokenRecord) : DrawerTwin :=
  { makeLocalDefaultTwin ts with
    drawerId := request.deviceId, deviceId := request.deviceId
    merchantId := orElse request.merchantId record.merchantId, region := orElse request.region record.region
    environment := orElse request.environment record.environment
    deploymentChannel := orElse request.deploymentChannel record.deploymentChannel
    enrolled := true, enrollmentState := "enrolled", syncStatus := "synced", revision := 1 }

def enroll (s : EnrollmentService) (ts : String) (request : EnrollmentRequest) (now : Int) :
    EnrollmentService × EnrollmentResult :=
  match s.refusal request now with
  | .error reason => (s, { reason })
  | .ok record =>
    let twin := enrolledTwin ts request record
    ({ s with
        tokens := s.tokens.insert request.enrollmentToken { record with used := true }
        identities := s.identities.insert twin.deviceId twin }.saveLocked, { ok := true, twin })

def identity (s : EnrollmentService) (deviceId : String) : Option DrawerTwin := s.identities.lookup deviceId

def isDisabled (s : EnrollmentService) (deviceId : String) : Bool := (s.identity deviceId).any DrawerTwin.disabled

def disableDevice (s : EnrollmentService) (deviceId : String) : EnrollmentService :=
  match s.identities.lookup deviceId with
  | some twin =>
    { s with identities := s.identities.insert deviceId { twin with disabled := true, syncStatus := "disabled" } }.saveLocked
  | none => s.saveLocked

/-- A new service on the same store. -/
def restart (s : EnrollmentService) : EnrollmentService := load s.storePath s.file

/-- `POST /control-plane/v1/enroll`. -/
def postEnroll (bearerToken : String) (s : EnrollmentService) (ts : String) (now : Int) (req : Request) :
    EnrollmentService × Response :=
  if bearerToken ≠ "" ∧ req.authorization ≠ "Bearer " ++ bearerToken then (s, ⟨401, Twin.refusal "unauthorized"⟩)
  else match req.body >>= EnrollmentRequest.fromJson with
  | .error _ => (s, ⟨400, Twin.refusal "malformed_payload"⟩)
  | .ok request =>
    let (s, result) := s.enroll ts request now
    (s, ⟨if result.disabled then 423 else if result.ok then 200 else 400,
      .obj [("ok", .bool result.ok), ("reason", .str result.reason), ("twin", result.twin.toJson)]⟩)

inductive Op where
  | addToken (record : EnrollmentTokenRecord)
  | revokeToken (token : String)
  | enroll (ts : String) (request : EnrollmentRequest) (now : Int)
  | disableDevice (deviceId : String)
  | restart

def apply (s : EnrollmentService) : Op → EnrollmentService
  | .addToken record => s.addToken record
  | .revokeToken token => s.revokeToken token
  | .enroll ts request now => (s.enroll ts request now).1
  | .disableDevice deviceId => s.disableDevice deviceId
  | .restart => s.restart

end EnrollmentService
end Drawer.Twin
