import Drawer.Lib.Dict
import Drawer.Spec.Analytics

/-! The fleet manager: the twins an appliance holds, and how an update submitted by
a device is checked and pushed. The control plane is whatever stands behind its
interface, with a state of its own; a call of it may raise. -/

namespace Drawer.Twin

structure SyncResult where
  ok : Bool := false
  conflict : Bool := false
  disabled : Bool := false
  reason : String := ""
  twin : DrawerTwin := {}

structure EnrollmentRequest where
  deviceId : String := ""
  merchantId : String := ""
  region : String := ""
  environment : String := ""
  deploymentChannel : String := ""
  enrollmentToken : String := ""

structure EnrollmentResult where
  ok : Bool := false
  disabled : Bool := false
  reason : String := ""
  twin : DrawerTwin := {}

structure DeviceTwinControlPlane (ω : Type) where
  enroll : ω → EnrollmentRequest → Except Exn EnrollmentResult × ω
  pushTwin : ω → DrawerTwin → Except Exn SyncResult × ω
  isDeviceDisabled : ω → String → Except Exn Bool × ω

structure FleetManager (ω : Type) where
  controlPlane : Option (DeviceTwinControlPlane ω) := none
  world : ω
  storePath : String := ""
  twins : Dict String DrawerTwin := ∅
  /-- What the store file holds. -/
  stored : Option (Json String) := none

namespace FleetManager

variable {ω : Type}

def get (m : FleetManager ω) (drawerId : String) : Option DrawerTwin := m.twins.lookup drawerId

def saveStore (m : FleetManager ω) : FleetManager ω :=
  if m.storePath = "" then m
  else { m with stored := some (.obj [("schema", .int 1),
    ("twins", .arr (m.twins.entries.map fun e => e.2.toJson))]) }

/-- Store a twin under its drawer and write the store. -/
def put (m : FleetManager ω) (twin : DrawerTwin) : FleetManager ω :=
  { m with twins := m.twins.insert twin.drawerId twin }.saveStore

/-- The twin of a device the control plane has disabled. -/
def markDisabled (twin : DrawerTwin) : DrawerTwin :=
  { twin with disabled := true, syncStatus := "disabled", conflict := false, conflictReason := "" }

/-- `control_plane_ && !device_id.empty() && control_plane_->is_device_disabled(device_id)`. -/
def asksDisabled (m : FleetManager ω) (deviceId : String) : Except Exn Bool × ω :=
  match m.controlPlane with
  | none => (.ok false, m.world)
  | some cp => if deviceId = "" then (.ok false, m.world) else cp.isDeviceDisabled m.world deviceId

/-- What a push leaves in the twin. -/
def settle (host : Host) (twin : DrawerTwin) (sync : SyncResult) : DrawerTwin :=
  if sync.disabled then markDisabled twin
  else if sync.conflict then
    { twin with syncStatus := "conflict", conflict := true
                conflictReason := if sync.reason = "" then "remote_revision_conflict" else sync.reason
                remoteRevision := sync.twin.revision }
  else if sync.ok then
    { twin with syncStatus := "synced", lastSyncedAt := host.syncedIso, conflict := false, conflictReason := ""
                remoteRevision := sync.twin.revision }
  else { twin with syncStatus := "sync_failed", conflict := false, conflictReason := sync.reason }

/-- The twin as it is pushed: enriched, at the next revision. -/
def outgoing (host : Host) (twin : DrawerTwin) : DrawerTwin :=
  let twin := enrich host twin
  { twin with revision := twin.revision + 1 }

def submitUpdate (host : Host) (m : FleetManager ω) (twin : DrawerTwin) : Except Exn Bool × FleetManager ω :=
  if twin.drawerId = "" then (.ok false, m)
  else match m.asksDisabled twin.deviceId with
  | (.error e, w) => (.error e, { m with world := w })
  | (.ok true, w) => (.ok false, { m with world := w }.put (markDisabled (enrich host twin)))
  | (.ok false, w) =>
    if twin.disabled then (.ok false, { m with world := w })
    else
      match m.controlPlane with
      | none => (.ok !(outgoing host twin).conflict, { m with world := w }.put (outgoing host twin))
      | some cp =>
        match cp.pushTwin w (outgoing host twin) with
        | (.error e, w) => (.error e, { m with world := w })
        | (.ok sync, w) =>
          let twin := settle host (outgoing host twin) sync
          (.ok (!twin.disabled && !twin.conflict), { m with world := w }.put twin)

def upsert (host : Host) (m : FleetManager ω) (twin : DrawerTwin) : FleetManager ω :=
  if twin.drawerId = "" then m else m.put (enrich host twin)

def enroll (host : Host) (m : FleetManager ω) (request : EnrollmentRequest) :
    Except Exn EnrollmentResult × FleetManager ω :=
  match m.controlPlane with
  | none => (.ok { reason := "control_plane_unavailable" }, m)
  | some cp =>
    match cp.enroll m.world request with
    | (.error e, w) => (.error e, { m with world := w })
    | (.ok result, w) =>
      let m := { m with world := w }
      (.ok result, if result.ok then m.upsert host result.twin else m)

def idForHistory (drawerId : String) (n : ℕ) : String := "hist-" ++ drawerId ++ "-" ++ toString n

def recordHistory (host : Host) (m : FleetManager ω) (drawerId : String) (event : HistoryEvent) : FleetManager ω :=
  match m.get drawerId with
  | none => m
  | some twin =>
    let event := { event with
      id := if event.id = "" then idForHistory drawerId (twin.history.length + 1) else event.id
      occurredAt := if event.occurredAt = "" then host.nowIso else event.occurredAt }
    { m with twins := m.twins.insert drawerId { twin with history := twin.history ++ [event] } }.saveStore

/-- The appliance refuses `/txn` and `/command` while its own drawer is disabled. -/
def blocks (m : FleetManager ω) (path : String) : Bool :=
  (path = "/txn" || path = "/command") && (m.get "local-drawer").any DrawerTwin.disabled

end FleetManager

def makeLocalDefaultTwin (ts : String) : DrawerTwin :=
  { drawerId := "local-drawer", deviceId := "local-device", merchantId := "local-merchant", region := "local"
    environment := "development", deploymentChannel := "dev", countryCode := "US", enrolled := true
    enrollmentState := "local"
    inventory := { currencyCode := "USD", countryCode := "US", region := "local", denominations :=
      [("dime", ⟨"dime", "USD", 180, 300, 4, ts⟩), ("nickel", ⟨"nickel", "USD", 150, 250, 2, ts⟩),
        ("penny", ⟨"penny", "USD", 300, 500, 6, ts⟩), ("quarter", ⟨"quarter", "USD", 220, 400, 12, ts⟩)] }
    firmware := { currentVersion := "1.0.0", targetVersion := "1.0.0", hardwareRevision := "revA" }
    connectivityStatus := "online", firstSeenAt := ts, lastTelemetryAt := ts
    health := { motorCycles := 2500, transactionLatencyMs := 450, uptimePercent := 999 / 10 }
    history := [{ id := "hist-local-drawer-1", type := "telemetry", summary := "device twin initialized", occurredAt := ts
                  metadata := .obj [("source", .str "local_runtime")] }] }

end Drawer.Twin
