import Drawer.Lib.Numeral
import Drawer.Spec.FleetManager

/-! The control plane over HTTP. The network answers a call or does not; what
cannot be reached has not disabled anything. -/

namespace Drawer.Twin
open Text

structure Endpoint where
  scheme : Bytes
  host : Bytes
  port : Int

/-- The last `c`, as the text before it and the text after it. -/
def rfindByte (c : UInt8) (s : Bytes) : Option (Bytes × Bytes) :=
  (find [c] s.reverse).map fun p => (p.2.tail.reverse, p.1.reverse)

def parseBaseUrl (url : Bytes) : Except Exn (Option Endpoint) :=
  match find (ascii "://") url with
  | none => .ok none
  | some (scheme, rest) =>
    let rest := (rest.drop 3).takeWhile fun b => b ≠ 47
    let port : Int := if scheme = ascii "https" then 443 else 80
    match rfindByte 58 rest with
    | none => .ok (if rest = [] then none else some ⟨scheme, rest, port⟩)
    | some (host, digits) => do
      let port ← stoi digits
      return if host = [] then none else some ⟨scheme, host, port⟩

structure HttpControlPlaneConfig where
  baseUrl : Bytes := []
  bearerToken : String := ""
  offlineQueuePath : String := ""
  maxQueueDepth : Int32 := 128

/-- One call: `some body` for a POST, `none` for a GET. -/
structure HttpCall where
  path : String
  authorization : Option String
  body : Option (Json String)

/-- A body is empty, or a text with the value it parses to. -/
inductive HttpBody where
  | empty
  | text (parsed : Except Exn (Json String))

structure HttpResponse where
  status : Int := 200
  body : HttpBody := .empty

/-- What the network does with a call. -/
structure Network (ν : Type) where
  send : ν → Endpoint → HttpCall → Option HttpResponse × ν
  /-- `e.what()`. -/
  what : Exn → String

structure SyncStatus where
  cloudSyncStatus : String := "local"
  offlineQueueDepth : ℕ := 0
  lastSuccessfulSyncAt : String := ""
  lastFailedSyncAt : String := ""
  lastError : String := ""

structure HttpDeviceTwinClient (ν : Type) where
  config : HttpControlPlaneConfig := {}
  status : SyncStatus := { cloudSyncStatus := "configured" }
  offlineQueue : List DrawerTwin := []
  net : ν

namespace HttpDeviceTwinClient
open Json

variable {ν : Type} (network : Network ν)

def authHeaders (c : HttpDeviceTwinClient ν) : Option String :=
  if c.config.bearerToken = "" then none else some ("Bearer " ++ c.config.bearerToken)

/-- The value of a body; an empty body is no JSON. -/
def parsed : HttpBody → Except Exn (Json String)
  | .empty => .error .other
  | .text p => p

def parseSyncResponse : Option HttpResponse → SyncResult
  | none => { reason := "remote_unavailable" }
  | some res =>
    if res.status = 401 ∨ res.status = 403 then { reason := "unauthorized" }
    else if res.status = 423 then { disabled := true, reason := "device_disabled" }
    else
      let read : Except Exn (String × DrawerTwin) := do
        let j ← match res.body with
          | .empty => .ok (.obj [])
          | .text p => p
        let reason ← j.value "reason" getStr ""
        let twin ← j.present "twin" DrawerTwin.fromJson {}
        return (reason, twin)
      match read with
      | .error e => { reason := "bad_response:" ++ network.what e }
      | .ok (reason, twin) =>
        if res.status = 409 then
          { conflict := true, reason := if reason = "" then "remote_revision_conflict" else reason, twin }
        else
          let ok := 200 ≤ res.status ∧ res.status < 300
          { ok, reason := if ¬ ok ∧ reason = "" then "http_" ++ toString res.status else reason, twin }

/-- Send a call to the configured endpoint; `none` if there is none. -/
def call (c : HttpDeviceTwinClient ν) (path : String) (body : Option (Json String)) :
    Except Exn (Option (Option HttpResponse)) × HttpDeviceTwinClient ν :=
  match parseBaseUrl c.config.baseUrl with
  | .error e => (.error e, c)
  | .ok none => (.ok none, c)
  | .ok (some ep) =>
    let (res, net) := network.send c.net ep ⟨path, c.authHeaders, body⟩
    (.ok (some res), { c with net })

def pushNow (c : HttpDeviceTwinClient ν) (twin : DrawerTwin) : Except Exn SyncResult × HttpDeviceTwinClient ν :=
  match c.call network ("/control-plane/v1/twins/" ++ twin.drawerId)
      (some (.obj [("twin", twin.toJson), ("revision", .int twin.revision.toInt)])) with
  | (.error e, c) => (.error e, c)
  | (.ok none, c) => (.ok { reason := "bad_control_plane_url", twin }, c)
  | (.ok (some res), c) =>
    let out := parseSyncResponse network res
    (.ok (if out.twin.drawerId = "" then { out with twin } else out), c)

/-- The queue keeps the newest twins. -/
def enqueue (c : HttpDeviceTwinClient ν) (twin : DrawerTwin) : List DrawerTwin :=
  (if c.config.maxQueueDepth.toInt ≤ c.offlineQueue.length then c.offlineQueue.drop 1 else c.offlineQueue) ++ [twin]

def pushTwin (now : String) (c : HttpDeviceTwinClient ν) (twin : DrawerTwin) :
    Except Exn SyncResult × HttpDeviceTwinClient ν :=
  match c.pushNow network twin with
  | (.error e, c) => (.error e, c)
  | (.ok out, c) =>
    let queue := if out.ok || out.conflict then c.offlineQueue else c.enqueue twin
    let status :=
      if out.ok then { c.status with cloudSyncStatus := "synced", lastSuccessfulSyncAt := now }
      else { c.status with
        cloudSyncStatus := if out.conflict then "conflict" else "sync_failed"
        lastFailedSyncAt := now, lastError := out.reason }
    (.ok out, { c with offlineQueue := queue, status := { status with offlineQueueDepth := queue.length } })

def isDeviceDisabled (c : HttpDeviceTwinClient ν) (deviceId : String) : Except Exn Bool × HttpDeviceTwinClient ν :=
  match c.call network ("/control-plane/v1/devices/" ++ deviceId ++ "/status") none with
  | (.error e, c) => (.error e, c)
  | (.ok none, c) => (.ok false, c)
  | (.ok (some none), c) => (.ok false, c)
  | (.ok (some (some res)), c) =>
    if res.status = 423 then (.ok true, c)
    else
      match parsed res.body >>= fun j => j.value "disabled" getBool false with
      | .ok disabled => (.ok disabled, c)
      | .error _ => (.ok false, c)

/-- `request`, as the body of the call. -/
def enrollBody (request : EnrollmentRequest) : Json String :=
  .obj [("device_id", .str request.deviceId), ("merchant_id", .str request.merchantId),
    ("region", .str request.region), ("environment", .str request.environment),
    ("deployment_channel", .str request.deploymentChannel), ("enrollment_token", .str request.enrollmentToken)]

def enroll (c : HttpDeviceTwinClient ν) (request : EnrollmentRequest) :
    Except Exn EnrollmentResult × HttpDeviceTwinClient ν :=
  match c.call network "/control-plane/v1/enroll" (some (enrollBody request)) with
  | (.error e, c) => (.error e, c)
  | (.ok none, c) => (.ok { reason := "bad_control_plane_url" }, c)
  | (.ok (some none), c) => (.ok { reason := "remote_unavailable" }, c)
  | (.ok (some (some res)), c) =>
    if res.status = 423 then (.ok { disabled := true, reason := "device_disabled" }, c)
    else if 200 ≤ res.status ∧ res.status < 300 then
      -- a member of the wrong type leaves what was read before it
      match parsed res.body with
      | .error _ => (.ok { reason := "bad_response" }, c)
      | .ok j =>
        match j.value "ok" getBool true with
        | .error _ => (.ok { reason := "bad_response" }, c)
        | .ok ok =>
          match j.value "reason" getStr "" with
          | .error _ => (.ok { ok, reason := "bad_response" }, c)
          | .ok reason =>
            match j.present "twin" DrawerTwin.fromJson {} with
            | .error _ => (.ok { ok, reason := "bad_response" }, c)
            | .ok twin => (.ok { ok, reason, twin }, c)
    else
      match parsed res.body >>= fun j => j.value "reason" getStr "enrollment_rejected" with
      | .ok reason => (.ok { reason }, c)
      | .error _ => (.ok { reason := "http_" ++ toString res.status }, c)

/-- The client as the control plane of a manager. -/
def controlPlane (now : String) : DeviceTwinControlPlane (HttpDeviceTwinClient ν) where
  enroll := enroll network
  pushTwin := pushTwin network now
  isDeviceDisabled := isDeviceDisabled network

end HttpDeviceTwinClient
end Drawer.Twin
