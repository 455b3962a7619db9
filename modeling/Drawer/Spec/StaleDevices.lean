import Drawer.Lib.Numeral
import Drawer.Spec.FleetControl

/-! The search for devices that have gone silent, over a control plane that devices are
registered with and heartbeats come to. It walks through the table of devices in an order
that is not specified, and does what there is to do about one device at a time. `saved` is how
the save at its end comes out: it raises if the store's directory cannot be made, or if a
text of the registry is not UTF-8. -/

namespace Drawer.FleetControl
open Text

abbrev DeviceEntry := Sigma fun _ : String => DeviceRegistryRecord

/-- An order to walk through the table of devices in. -/
structure Order where
  walk : Dict String DeviceRegistryRecord → List DeviceEntry
  perm (m : Dict String DeviceRegistryRecord) : (walk m).Perm m.entries

/-- When a device was last seen: `0`, if never. -/
def lastSeen (d : DeviceRegistryRecord) : Except Exn Int64 :=
  if d.lastSeenAt = "" then .ok 0 else (stol (utf8 d.lastSeenAt)).map Int64.ofInt

namespace FleetControlPlane

/-- A silent device is taken offline, with an event and an alert about it. -/
def markOffline (s : FleetControlPlane) (e : DeviceEntry) (now : Int64) : FleetControlPlane :=
  let d := e.2
  let s := { s with devices := s.devices.insert e.1 { d with connectivityStatus := "offline" } }
  let s := s.eventLocked d.organizationId d.deviceId "device_offline" now.toInt
  let alert : FleetAlert :=
    { alertId := idFor "alert" s.alerts.length, organizationId := d.organizationId, deviceId := d.deviceId
      type := "offline_device", severity := "critical", message := "device heartbeat is stale"
      createdAt := epochString now.toInt }
  let s := { s with alerts := s.alerts ++ [alert] }
  s.eventLocked d.organizationId d.deviceId "alert_created" now.toInt (.obj [("type", .str "offline_device")])

/-- The walk. A record that cannot be read ends it, with what was done so far done. -/
def sweep (timeout now : Int64) :
    List DeviceEntry → FleetControlPlane → Int32 → FleetControlPlane × Except Exn Int32
  | [], s, stale => (s, .ok stale)
  | e :: rest, s, stale =>
    match lastSeen e.2 with
    | .error x => (s, .error x)
    | .ok last =>
      if e.2.connectivityStatus = "online" ∧ timeout < now - last then
        sweep timeout now rest (s.markOffline e now) (stale + 1)
      else sweep timeout now rest s stale

def detectStaleDevices (order : Order) (timeout : Int64) (saved : Except Exn Unit) (s : FleetControlPlane) (now : Int64) :
    FleetControlPlane × Except Exn Int32 :=
  match sweep timeout now (order.walk s.devices) s 0 with
  | (s, .error x) => (s, .error x)
  | (s, .ok stale) => (s, saved.map fun _ => stale)

end FleetControlPlane

/-! ### Runs -/

inductive RegistryOp where
  | registerDevice (device : DeviceRegistryRecord)
  | receiveHeartbeat (deviceId : String) (receivedAt : Int64) (latencyMs : ℚ)
  | detectStaleDevices (now : Int64)

variable (order : Order) (timeout : Int64) (saved : Except Exn Unit)

/-- The registry is changed before it is saved, so how that comes out is nothing to it. -/
def applyOp (s : FleetControlPlane) : RegistryOp → FleetControlPlane
  | .registerDevice device => (s.registerDevice device).1
  | .receiveHeartbeat deviceId receivedAt latencyMs =>
    (s.receiveHeartbeat { deviceId, receivedAtEpoch := receivedAt.toInt, latencyMs }).1
  | .detectStaleDevices now => (s.detectStaleDevices order timeout (.ok ()) now).1

/-- The control plane after some operations on an empty one. -/
def registryAfter (ops : List RegistryOp) : FleetControlPlane := ops.foldl (applyOp order timeout) {}

/-! ### What a search should do -/

/-- The time that a record gives, as a number: `0`, if it gives none. -/
def seenAt (d : DeviceRegistryRecord) : Option Int := if d.lastSeenAt = "" then some 0 else leading (utf8 d.lastSeenAt)

/-- Last seen more than the timeout ago. -/
def Silent (now : Int64) (d : DeviceRegistryRecord) : Prop := ∃ t, seenAt d = some t ∧ timeout.toInt < now.toInt - t

/-- The devices that are online in `s` and offline in `s'`. -/
def wentOffline (s s' : FleetControlPlane) : ℕ :=
  s.devices.keys.countP fun key =>
    decide ((s.devices.lookup key).map DeviceRegistryRecord.connectivityStatus = some "online" ∧
      (s'.devices.lookup key).map DeviceRegistryRecord.connectivityStatus = some "offline")

/-- The search ends, leaves no silent device online, counts what it did, and has then nothing more to do. -/
structure Detects (s : FleetControlPlane) (now : Int64) : Prop where
  noneLeft : ∀ key d, (s.detectStaleDevices order timeout saved now).1.devices.lookup key = some d →
    d.connectivityStatus = "online" → ¬ Silent timeout now d
  counted : ∃ (n : Int32) (events : List FleetEvent) (alerts : List FleetAlert),
    (s.detectStaleDevices order timeout saved now).2 = .ok n ∧
    (s.detectStaleDevices order timeout saved now).1.events = s.events ++ events ∧
    (s.detectStaleDevices order timeout saved now).1.alerts = s.alerts ++ alerts ∧
    n.toInt = wentOffline s (s.detectStaleDevices order timeout saved now).1 ∧
    n.toInt = events.countP (fun e => e.type = "device_offline") ∧
    n.toInt = alerts.countP fun a => a.type = "offline_device"
  again : (s.detectStaleDevices order timeout saved now).1.detectStaleDevices order timeout saved now =
    ((s.detectStaleDevices order timeout saved now).1, .ok 0)

/-- The last-seen time is left out, or starts with a number that is a `long`. -/
def Readable (d : DeviceRegistryRecord) : Prop :=
  d.lastSeenAt = "" ∨ ∃ t, leading (utf8 d.lastSeenAt) = some t ∧ -9223372036854775808 ≤ t ∧ t ≤ 9223372036854775807

/-- A device that is registered gives a last-seen time that can be read. -/
def Registers : RegistryOp → Prop
  | .registerDevice device => Readable device
  | _ => True

/-- Online, and by the difference of the two `long`s more than the timeout silent. -/
def stale (now : Int64) (d : DeviceRegistryRecord) : Bool :=
  match lastSeen d with
  | .error _ => false
  | .ok last => decide (d.connectivityStatus = "online" ∧ timeout < now - last)

/-- What the search needs: records it can read, no difference that wraps below the timeout, no more devices to take offline
than an `int` counts, and a registry that can be saved. -/
structure Searchable (s : FleetControlPlane) (now : Int64) : Prop where
  readable : ∀ key d, s.devices.lookup key = some d → Readable d
  near : ∀ key d, s.devices.lookup key = some d → d.connectivityStatus = "online" → Silent timeout now d →
    stale timeout now d = true
  few : (s.devices.entries.countP fun e => stale timeout now e.2) ≤ 2147483647
  stored : saved = .ok ()

end Drawer.FleetControl
