import Drawer.Spec.FleetControl
import Drawer.Spec.FleetStore

/-! The control plane's command queue: delivery, retries and expiry, the store, and
what is wanted of deliveries and of final statuses over runs. -/

namespace Drawer.FleetControl
open Json
open FleetOps (mapValues readValues)

/-! ### Records -/

def RemoteCommand.fromJson (j : Json String) : Except Exn RemoteCommand := do
  let commandId ← j.value "command_id" getStr ""
  let organizationId ← j.value "organization_id" getStr ""
  let deviceId ← j.value "device_id" getStr ""
  let type ← j.value "type" getStr ""
  let status ← j.value "status" getStr "pending"
  let createdAt ← j.value "created_at" getStr ""
  let deliveredAt ← j.value "delivered_at" getStr ""
  let acknowledgedAt ← j.value "acknowledged_at" getStr ""
  let failedAt ← j.value "failed_at" getStr ""
  let expiresAtEpoch ← j.value "expires_at_epoch" getInt 0
  let retryCount ← j.value "retry_count" getInt32 0
  let maxRetries ← j.value "max_retries" getInt32 3
  let failureReason ← j.value "failure_reason" getStr ""
  return { commandId, organizationId, deviceId, type, status, createdAt, deliveredAt, acknowledgedAt, failedAt
           expiresAtEpoch, retryCount, maxRetries, failureReason }

def FleetAlert.toJson (v : FleetAlert) : Json String :=
  .obj [("alert_id", .str v.alertId), ("organization_id", .str v.organizationId), ("device_id", .str v.deviceId),
    ("type", .str v.type), ("severity", .str v.severity), ("message", .str v.message), ("created_at", .str v.createdAt),
    ("acknowledged", .bool v.acknowledged), ("acknowledged_at", .str v.acknowledgedAt)]

def FleetAlert.fromJson (j : Json String) : Except Exn FleetAlert := do
  let alertId ← j.value "alert_id" getStr ""
  let organizationId ← j.value "organization_id" getStr ""
  let deviceId ← j.value "device_id" getStr ""
  let type ← j.value "type" getStr ""
  let severity ← j.value "severity" getStr "warning"
  let message ← j.value "message" getStr ""
  let createdAt ← j.value "created_at" getStr ""
  let acknowledged ← j.value "acknowledged" getBool false
  let acknowledgedAt ← j.value "acknowledged_at" getStr ""
  return { alertId, organizationId, deviceId, type, severity, message, createdAt, acknowledged, acknowledgedAt }

def FleetEvent.toJson (v : FleetEvent) : Json String :=
  .obj [("event_id", .str v.eventId), ("organization_id", .str v.organizationId), ("device_id", .str v.deviceId),
    ("type", .str v.type), ("occurred_at", .str v.occurredAt), ("metadata", v.metadata)]

def FleetEvent.fromJson (j : Json String) : Except Exn FleetEvent := do
  let eventId ← j.value "event_id" getStr ""
  let organizationId ← j.value "organization_id" getStr ""
  let deviceId ← j.value "device_id" getStr ""
  let type ← j.value "type" getStr ""
  let occurredAt ← j.value "occurred_at" getStr ""
  let metadata ← j.value "metadata" .ok (.obj [])
  return { eventId, organizationId, deviceId, type, occurredAt, metadata }

namespace FleetControlPlane

/-! ### The store -/

/-- What `save_locked` writes. -/
def saved (s : FleetControlPlane) : Json String :=
  .obj [("schema", .int 1), ("organizations", mapValues Organization.toJson s.organizations),
    ("regions", mapValues Region.toJson s.regions), ("merchants", mapValues Merchant.toJson s.merchants),
    ("branches", mapValues Branch.toJson s.branches), ("devices", mapValues DeviceRegistryRecord.toJson s.devices),
    ("commands", mapValues RemoteCommand.toJson s.commands), ("alerts", .arr (s.alerts.map FleetAlert.toJson)),
    ("events", .arr (s.events.map FleetEvent.toJson)), ("heartbeat_latency_sum", .float s.heartbeatLatencySum),
    ("heartbeat_count", .int s.heartbeatCount.toInt)]

/-- The ids of the commands that are stored as acknowledged. -/
def acknowledgedOf (commands : List RemoteCommand) : List String :=
  (commands.filter fun c => c.status = "acknowledged").map RemoteCommand.commandId

def load (j : Json String) : Except Exn FleetControlPlane := do
  let organizations ← readValues j "organizations" Organization.fromJson Organization.organizationId
  let regions ← readValues j "regions" Region.fromJson Region.regionId
  let merchants ← readValues j "merchants" Merchant.fromJson Merchant.merchantId
  let branches ← readValues j "branches" Branch.fromJson Branch.branchId
  let devices ← readValues j "devices" DeviceRegistryRecord.fromJson DeviceRegistryRecord.deviceId
  let items ← j.value "commands" .ok (.arr [])
  let commands ← items.elements.mapM RemoteCommand.fromJson
  let alerts ← j.value "alerts" (getArr FleetAlert.fromJson) []
  let events ← j.value "events" (getArr FleetEvent.fromJson) []
  let heartbeatLatencySum ← j.value "heartbeat_latency_sum" getNum 0
  let heartbeatCount ← j.value "heartbeat_count" getInt32 0
  return { organizations, regions, merchants, branches, devices
           commands := commands.foldl (fun m c => m.insert c.commandId c) ∅
           acknowledgedCommands := acknowledgedOf commands, alerts, events, heartbeatLatencySum, heartbeatCount }

/-! ### Delivery and expiry -/

/-- The statuses of a command that may still be delivered. -/
def openStatuses : List String := ["pending", "delivered"]

/-- The command is given up, for a reason that is told. -/
def giveUpLocked (s : FleetControlPlane) (key : String) (cmd : RemoteCommand) (status reason : String) (now : Int) :
    FleetControlPlane :=
  { s with
    commands := s.commands.insert key
      { cmd with status, failedAt := epochString now, failureReason := reason } }.eventLocked
    cmd.organizationId cmd.deviceId "command_failed" now
    (.obj [("command_id", .str cmd.commandId), ("reason", .str reason)])

/-- The command as it is delivered, for the first time or again. -/
def deliveredAs (cmd : RemoteCommand) (now : Int) : RemoteCommand :=
  { cmd with
    retryCount := if cmd.status = "delivered" then cmd.retryCount + 1 else cmd.retryCount
    status := "delivered", deliveredAt := epochString now }

/-- The loop of `deliver_next_command`; `order` is the order of the map. -/
def deliverFrom (deviceId : String) (now : Int) : FleetControlPlane → List String → FleetControlPlane × Option RemoteCommand
  | s, [] => (s, none)
  | s, key :: order =>
    match s.commands.lookup key with
    | none => deliverFrom deviceId now s order
    | some cmd =>
      if cmd.deviceId ≠ deviceId || cmd.status ∉ openStatuses then deliverFrom deviceId now s order
      else if cmd.commandId ∈ s.acknowledgedCommands then deliverFrom deviceId now s order
      else if now > cmd.expiresAtEpoch then
        deliverFrom deviceId now (s.giveUpLocked key cmd "expired" "expired" now) order
      else if cmd.status = "delivered" && cmd.retryCount ≥ cmd.maxRetries then
        deliverFrom deviceId now (s.giveUpLocked key cmd "failed" "max_retries" now) order
      else
        let cmd := deliveredAs cmd now
        ({ s with commands := s.commands.insert key cmd }.eventLocked cmd.organizationId deviceId "command_delivered" now
          (.obj [("command_id", .str cmd.commandId), ("retry_count", .int cmd.retryCount.toInt)]), some cmd)

def deliverNextCommand (s : FleetControlPlane) (order : List String) (deviceId : String) (now : Int) :
    FleetControlPlane × Option RemoteCommand := deliverFrom deviceId now s order

/-- One round of the loop in `expire_commands`. -/
def expireOne (now : Int) (p : FleetControlPlane × ℕ) (key : String) : FleetControlPlane × ℕ :=
  match p.1.commands.lookup key with
  | none => p
  | some cmd =>
    if cmd.status ∈ openStatuses ∧ now > cmd.expiresAtEpoch then
      (p.1.giveUpLocked key cmd "expired" "expired" now, p.2 + 1)
    else p

def expireCommands (s : FleetControlPlane) (now : Int) : FleetControlPlane × ℕ :=
  s.commands.keys.foldl (expireOne now) (s, 0)

end FleetControlPlane

/-! ### Runs -/

/-- What callers are told of a command: it was created, it was delivered to a device, it was acknowledged. -/
inductive Fact where
  | created (c : RemoteCommand)
  | delivered (c : RemoteCommand) (deviceId : String) (now : Int)
  | acknowledged (commandId : String)

/-- A control plane with a store, and what its callers were told. -/
structure CommandQueue where
  plane : FleetControlPlane := {}
  file : Option (Json String) := none
  history : List Fact := []

/-- What happens to a control plane. `others` is any operation that is not about commands: it may leave anything else of
the plane in the state `plane`. -/
inductive QueueEvent where
  | create (organizationId deviceId type : String) (now ttlSeconds : Int) (maxRetries : Int32)
  | deliver (order : List String) (deviceId : String) (now : Int)
  | acknowledge (deviceId commandId : String) (now : Int)
  | expire (now : Int)
  | others (plane : FleetControlPlane)
  | restart

namespace CommandQueue

/-- The queue after an operation that saved the plane `s` and told the callers `facts`. -/
def save (q : CommandQueue) (s : FleetControlPlane) (facts : List Fact) : CommandQueue :=
  { plane := s, file := some s.saved, history := q.history ++ facts }

/-- A new process loads the store. Were it not to be read, the constructor would throw and there would be no plane: this
branch stands for nothing, since what a plane has saved can be read (`loads_run`). -/
def restart (q : CommandQueue) : CommandQueue :=
  match q.file with
  | none => { q with plane := {} }
  | some j =>
    match FleetControlPlane.load j with
    | .ok plane => { q with plane }
    | .error _ => q

def step (q : CommandQueue) : QueueEvent → CommandQueue
  | .create organizationId deviceId type now ttlSeconds maxRetries =>
    let r := q.plane.createCommand organizationId deviceId type now ttlSeconds maxRetries
    q.save r.1 [.created r.2]
  | .deliver order deviceId now =>
    let r := q.plane.deliverNextCommand order deviceId now
    q.save r.1 (r.2.toList.map fun c => .delivered c deviceId now)
  | .acknowledge deviceId commandId now =>
    let r := q.plane.acknowledgeCommand deviceId commandId now
    if r.2 then q.save r.1 [.acknowledged commandId] else q
  | .expire now => q.save (q.plane.expireCommands now).1 []
  | .others plane =>
    q.save { plane with commands := q.plane.commands, acknowledgedCommands := q.plane.acknowledgedCommands } []
  | .restart => q.restart

end CommandQueue

/-- The fact is a delivery of the command. -/
def Fact.delivers (id : String) : Fact → Bool
  | .delivered c _ _ => c.commandId = id
  | _ => false

def Fact.createdId : Fact → Option String
  | .created c => some c.commandId
  | _ => none

/-- What deliveries owe: commands have ids of their own, and each is delivered to its device only, in time, not too often,
and not after it was acknowledged. -/
structure Bounded (history : List Fact) : Prop where
  distinct : (history.filterMap Fact.createdId).Nodup
  proper : ∀ c deviceId now, Fact.delivered c deviceId now ∈ history →
    ∃ c₀, Fact.created c₀ ∈ history ∧ c₀.commandId = c.commandId ∧ c₀.deviceId = deviceId ∧ now ≤ c₀.expiresAtEpoch
  often : ∀ c₀, Fact.created c₀ ∈ history →
    (history.countP (Fact.delivers c₀.commandId) : Int) ≤ 1 + max 0 c₀.maxRetries.toInt
  last : ∀ before id after, history = before ++ Fact.acknowledged id :: after → ∀ f ∈ after, f.delivers id = false

/-- The statuses that end a command. -/
def finalStatuses : List String := ["acknowledged", "failed", "expired"]

/-- The event changes no final status. -/
def KeepsFinal (q : CommandQueue) (e : QueueEvent) : Prop :=
  ∀ id c, q.plane.commands.lookup id = some c → c.status ∈ finalStatuses →
    ∃ c', (q.step e).plane.commands.lookup id = some c' ∧ c'.status = c.status

/-- A device acknowledges no command of its own that has failed or expired. -/
def AcknowledgedOpen (q : CommandQueue) (e : QueueEvent) : Prop :=
  ∀ deviceId commandId now, e = .acknowledge deviceId commandId now →
    ∀ c, q.plane.commands.lookup commandId = some c → c.deviceId = deviceId → c.status ≠ "failed" ∧ c.status ≠ "expired"

/-! ### Restarts of the server -/

/-- The sum of the latencies is a finite double. -/
def FleetControlPlane.FiniteSum (s : FleetControlPlane) : Prop := |s.heartbeatLatencySum| < 2 ^ 1024 - 2 ^ 970

instance (s : FleetControlPlane) : Decidable s.FiniteSum := inferInstanceAs (Decidable (_ < _))

/-- What is in the file after `save_locked`: `dump` writes null for a sum that is not finite. -/
def FleetControlPlane.dumped (s : FleetControlPlane) : Json String :=
  match s.saved with
  | .obj members =>
    .obj (members.map fun m => if m.1 = "heartbeat_latency_sum" ∧ ¬ s.FiniteSum then (m.1, .null) else m)
  | j => j

/-- A server of the control plane, and its store. -/
structure ControlServer where
  plane : FleetControlPlane := {}
  file : Option (Json String) := none

/-- A request, what another service of the process asks for, or a new process. -/
inductive ServerEvent where
  | request (req : Request) (answer : Response)
  | register (device : DeviceRegistryRecord)
  | alert (organizationId deviceId type severity message : String) (now : Int)
  | restart

namespace ControlServer

/-- The plane becomes another, and is saved. One that stays as it is need not be. -/
def Becomes (s : ControlServer) (plane : FleetControlPlane) (s' : ControlServer) : Prop :=
  { plane, file := some plane.dumped } = s' ∨ plane = s.plane ∧ s = s'

/-- What a new process loads. -/
def loaded (s : ControlServer) : Except Exn FleetControlPlane :=
  match s.file with
  | none => .ok {}
  | some j => FleetControlPlane.load j

def Step (s : ControlServer) : ServerEvent → ControlServer → Prop
  | .request req answer, s' => (handle s.plane req).2 = answer ∧ s.Becomes (handle s.plane req).1 s'
  | .register device, s' => s.Becomes (s.plane.registerDevice device).1 s'
  | .alert organizationId deviceId type severity message now, s' =>
      s.Becomes (s.plane.createAlert organizationId deviceId type severity message now).1 s'
  | .restart, s' => ∃ plane, s.loaded = .ok plane ∧ { s with plane } = s'

def answers (es : List ServerEvent) : List Response :=
  es.filterMap fun
    | .request _ answer => some answer
    | _ => none

/-- What a plane that is never restarted becomes, and what it answers. -/
def uninterrupted (r : FleetControlPlane × List Response) : ServerEvent → FleetControlPlane × List Response
  | .request req _ => ((handle r.1 req).1, r.2 ++ [(handle r.1 req).2])
  | .register device => ((r.1.registerDevice device).1, r.2)
  | .alert organizationId deviceId type severity message now =>
    ((r.1.createAlert organizationId deviceId type severity message now).1, r.2)
  | .restart => r

end ControlServer

/-- The planes hold the same, whatever the order in which their tables have it. -/
structure SamePlane (p p' : FleetControlPlane) : Prop where
  organizations : Dict.Same p.organizations p'.organizations
  regions : Dict.Same p.regions p'.regions
  merchants : Dict.Same p.merchants p'.merchants
  branches : Dict.Same p.branches p'.branches
  devices : Dict.Same p.devices p'.devices
  commands : Dict.Same p.commands p'.commands
  acknowledged : ∀ id, id ∈ p.acknowledgedCommands ↔ id ∈ p'.acknowledgedCommands
  alerts : p.alerts = p'.alerts
  events : p.events = p'.events
  heartbeatLatencySum : p.heartbeatLatencySum = p'.heartbeatLatencySum
  heartbeatCount : p.heartbeatCount = p'.heartbeatCount

end Drawer.FleetControl
