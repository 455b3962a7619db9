import Drawer.Spec.DeviceTwin
import Drawer.Lib.Dict

/-! The contract server: the cloud's side of twin synchronisation. A push names a
drawer twice, in its path and in the twin it carries. A body is the JSON value it
parses to, if it is JSON. -/

namespace Drawer.Twin

structure Request where
  authorization : String := ""
  /-- The id in the path. -/
  id : String := ""
  body : Except Exn (Json String) := .error .other

structure Response where
  status : ℕ := 200
  body : Json String := .obj []

/-- `{"ok": false, "reason": reason}`. -/
def refusal (reason : String) : Json String := .obj [("ok", .bool false), ("reason", .str reason)]

/-- `{"ok": true, "twin": twin}`. -/
def twinReply (twin : DrawerTwin) : Json String := .obj [("ok", .bool true), ("twin", twin.toJson)]

structure TwinContractServer where
  bearerToken : String := ""
  twins : Dict String DrawerTwin := ∅

namespace TwinContractServer

def authorized (s : TwinContractServer) (req : Request) : Bool :=
  s.bearerToken = "" || req.authorization = "Bearer " ++ s.bearerToken

/-- `upsert`. -/
def store (s : TwinContractServer) (twin : DrawerTwin) : TwinContractServer :=
  { s with twins := s.twins.insert twin.drawerId twin }

def get (s : TwinContractServer) (drawerId : String) : Option DrawerTwin := s.twins.lookup drawerId

def disabledTwin (deviceId : String) (twin : DrawerTwin) : DrawerTwin :=
  if twin.deviceId = deviceId then { twin with disabled := true, syncStatus := "disabled" } else twin

def disableDevice (s : TwinContractServer) (deviceId : String) : TwinContractServer :=
  { s with twins := Dict.map (disabledTwin deviceId) s.twins }

/-- `j.at("twin").get<DrawerTwin>()`. -/
def incoming (req : Request) : Except Exn DrawerTwin := do
  match (← req.body).member "twin" with
  | some j => DrawerTwin.fromJson j
  | none => .error .other

/-- The twin as it is stored. -/
def synced (twin : DrawerTwin) : DrawerTwin := { twin with remoteRevision := twin.revision, syncStatus := "synced" }

/-- `POST /control-plane/v1/twins/{id}`. The checks are of the twin the path names, and the write is to the twin the
body names. -/
def postTwin (s : TwinContractServer) (req : Request) : TwinContractServer × Response :=
  if !s.authorized req then (s, ⟨401, refusal "unauthorized"⟩)
  else match incoming req with
  | .error _ => (s, ⟨400, refusal "malformed_payload"⟩)
  | .ok twin =>
    if twin.disabled || (s.get req.id).any DrawerTwin.disabled then (s, ⟨423, refusal "device_disabled"⟩)
    else match (s.get req.id).filter fun stored => twin.revision ≤ stored.revision with
    | some stored => (s, ⟨409, .obj [("ok", .bool false), ("reason", .str "remote_revision_conflict"),
        ("twin", stored.toJson)]⟩)
    | none => (s.store (synced twin), ⟨200, twinReply (synced twin)⟩)

/-- `GET /control-plane/v1/twins/{id}`. -/
def getTwin (s : TwinContractServer) (req : Request) : Response :=
  if !s.authorized req then ⟨401, refusal "unauthorized"⟩
  else match s.get req.id with
  | none => ⟨404, refusal "not_found"⟩
  | some twin => ⟨200, twinReply twin⟩

/-- `GET /control-plane/v1/devices/{id}/status`. -/
def getStatus (s : TwinContractServer) (req : Request) : Response :=
  if !s.authorized req then ⟨401, refusal "unauthorized"⟩
  else
    let disabled := s.twins.entries.any fun e => e.2.deviceId = req.id && e.2.disabled
    ⟨if disabled then 423 else 200, .obj [("disabled", .bool disabled)]⟩

inductive Op where
  | postTwin (req : Request)
  | getTwin (req : Request)
  | getStatus (req : Request)
  | disableDevice (deviceId : String)

def apply (s : TwinContractServer) : Op → TwinContractServer
  | .postTwin req => (s.postTwin req).1
  | .getTwin _ => s
  | .getStatus _ => s
  | .disableDevice deviceId => s.disableDevice deviceId

/-- The twin an operation stores. -/
def stores (s : TwinContractServer) : Op → Option DrawerTwin
  | .postTwin req =>
    if (s.postTwin req).2.status = 200 then (incoming req).toOption.map synced else none
  | _ => none

end TwinContractServer
end Drawer.Twin
