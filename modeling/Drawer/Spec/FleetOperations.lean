import Mathlib.Data.List.Sort
import Drawer.Lib.Lexical
import Drawer.Spec.FleetModels

/-! The fleet operations service: enrolment, lifecycle, heartbeats, commands,
risk, quarantine and recovery. Each operation passes the registry on and says
what it answers; a JSON read of the wrong type is raised with the registry as
it is at that point. Writing the registry to its store is left out. -/

namespace Drawer.FleetOps
open Veil (TrustEvidenceRecord idFor)

def epochString (epoch : Int) : String := toString epoch

def riskLevel (score : Int) : String :=
  if score ≥ 75 then "critical" else if score ≥ 50 then "high" else if score ≥ 25 then "medium" else "low"

/-- The order of texts. -/
def textBefore (a b : String) : Bool := Lexical.less (a.toList.map Char.toNat) (b.toList.map Char.toNat)

def validTransition ( source target : String) (recovery : Bool) : Bool :=
  if source = target then true
  else if source = "retired" then false
  else if target = "retired" || target = "quarantined" then true
  else if source = "provisioned" then target = "active"
  else if source = "active" then target = "maintenance"
  else if source = "maintenance" then target = "active"
  else if source = "quarantined" then recovery && target = "active"
  else false

def capabilityForCommand (command : String) : String :=
  if command = "lock" || command = "unlock" then "lock_control"
  else if command = "open" || command = "close" then "open_close"
  else if command = "dispense_cash" then "cash_out"
  else if command = "accept_cash" then "cash_in"
  else if command = "count_cash" || command = "reconcile_device" || command = "sync_inventory" then "inventory"
  else if command = "run_self_test" then "sensor_telemetry"
  else if command = "rotate_keys" then "identity"
  else if command = "export_evidence" then "evidence_export"
  else if command ∈ ["restart", "refresh_config", "pause_transactions", "resume_transactions", "disable_device",
      "enable_device", "enter_maintenance_mode", "exit_maintenance_mode"] then "command_execution"
  else ""

def highRiskCommand (command : String) : Bool :=
  command ∈ ["lock", "unlock", "open", "dispense_cash", "accept_cash", "rotate_keys", "export_evidence",
    "disable_device", "enable_device", "pause_transactions", "resume_transactions", "enter_maintenance_mode"]

namespace FleetOperationsService

variable {ω : Type} (env : Env ω)

/-! ### Events and evidence -/

def eventHash (e : FleetOperationEvent) : String :=
  env.digest.sha256Hex <| env.digest.dump <| .obj
    [("sequence", .int e.sequence), ("event_id", .str e.eventId), ("tenant_id", .str e.tenantId),
     ("device_id", .str e.deviceId), ("event_type", .str e.eventType), ("occurred_at", .int e.occurredAt),
     ("payload", e.payload), ("previous_hash", .str e.previousHash)]

def appendEventLocked (s : FleetOperationsService ω) (tenantId deviceId type : String) (now : Int)
    (payload : Json String) : FleetOperationsService ω :=
  let event : FleetOperationEvent :=
    { sequence := s.events.length + 1, eventId := idFor "fleet-event" s.events.length, tenantId, deviceId
      eventType := type, occurredAt := now, payload
      previousHash := (s.events.getLast?.map FleetOperationEvent.eventHash).getD "" }
  { s with events := s.events ++ [{ event with eventHash := eventHash env event }] }

def emitEvidenceLocked (s : FleetOperationsService ω) (d : FleetDevice) (eventType : String) (now : Int)
    (payload : Json String) : FleetOperationsService ω :=
  match env.trust with
  | none => s
  | some trust =>
    let evidence : TrustEvidenceRecord :=
      { tenantId := d.tenantId, deviceId := d.deviceId, merchantId := d.merchantId, branchId := d.branchId
        region := d.region, eventType, sourceModule := "fleet_operations", timestamp := now
        policyContext := .obj [("lifecycle_state", .str d.lifecycleState), ("location_id", .str d.locationId)]
        classificationLabels := ["fleet_operations"], sensitivityLabels := ["device_control"]
        auditEventId := idFor "fleet-audit" s.events.length
        correlationId := d.deviceId ++ ":" ++ eventType ++ ":" ++ epochString now, payload }
    { s with world := trust.createEvidence s.world evidence }

def quarantineLocked (s : FleetOperationsService ω) (key : String) (d : FleetDevice) (reason : String) (now : Int) :
    FleetOperationsService ω :=
  if d.retired then s
  else
    let d := { d with lifecycleState := "quarantined", quarantineReason := reason }
    let s := { s with devices := s.devices.insert key d }
    let s := s.appendEventLocked env d.tenantId d.deviceId "device_quarantined" now (.obj [("reason", .str reason)])
    s.emitEvidenceLocked env d "device_quarantine" now (.obj [("reason", .str reason)])

/-! ### Enrolment -/

/-- The device as the edge platform sees it. -/
def edgeDevice (d : FleetDevice) : EdgeDevice :=
  { deviceId := d.deviceId, tenantId := d.tenantId, merchantId := d.merchantId, branchId := d.branchId
    region := d.region, deviceType := d.deviceType, driverId := d.driverId, firmwareVersion := d.firmwareVersion
    capabilities := d.capabilities, labels := d.labels }

/-- Make the device known to the edge platform, and take its capabilities from there if it came without. -/
def registerEdge (w : ω) (d : FleetDevice) : ω × Option FleetDevice :=
  match env.edge with
  | none => (w, some d)
  | some edge =>
    let found := (edge.devices w d.tenantId).any fun v => v.deviceId = d.deviceId
    let (w, registered) := if found then (w, true) else edge.registerDevice w (edgeDevice d)
    if !registered then (w, none)
    else if d.capabilities ≠ [] then (w, some d)
    else
      match (edge.devices w d.tenantId).find? fun v => v.deviceId = d.deviceId with
      | none => (w, some d)
      | some v => (w, some { d with capabilities := v.capabilities, driverId := v.driverId })

def assignmentOf (d : FleetDevice) (tenantId key : String) (now : Int) : DeviceAssignment :=
  { tenantId, deviceId := key, fleetId := d.fleetId, groupId := d.groupId, locationId := d.locationId
    branchId := d.branchId, assignedAt := epochString now }

/-- The registry's entries for a device that was accepted. -/
def insertDevice (s : FleetOperationsService ω) (d : FleetDevice) (actorId : String) (now : Int) :
    FleetOperationsService ω :=
  { s with
    devices := s.devices.insert d.deviceId d
    locations := s.locations.insert d.locationId
      { locationId := d.locationId, tenantId := d.tenantId, branchId := d.branchId, region := d.region
        name := d.locationId, labels := d.labels }
    fleets := s.fleets.insert d.fleetId { fleetId := d.fleetId, tenantId := d.tenantId, name := d.fleetId }
    groups :=
      if d.groupId = "" then s.groups
      else
        let group := (s.groups.lookup d.groupId).getD {}
        s.groups.insert d.groupId
          { group with groupId := d.groupId, tenantId := d.tenantId, fleetId := d.fleetId, name := d.groupId
                       deviceIds := group.deviceIds ++ [d.deviceId] }
    enrollments := s.enrollments.insert d.deviceId
      { enrollmentId := idFor "enrollment" s.enrollments.entries.length, tenantId := d.tenantId
        deviceId := d.deviceId, enrolledAt := epochString now, enrolledBy := actorId }
    assignments := s.assignments.insert d.deviceId (assignmentOf d d.tenantId d.deviceId now) }

def enroll (s : FleetOperationsService ω) (d : FleetDevice) (actorId : String) (now : Int) :
    FleetOperationsService ω × Reply :=
  if d.deviceId = "" || d.tenantId = "" || d.locationId = "" || d.branchId = "" || d.fleetId = "" then
    (s, .failed "missing_required_assignment")
  else if d.lifecycleState ≠ "provisioned" && d.lifecycleState ≠ "active" then
    (s, .failed "invalid_initial_lifecycle")
  else if (s.devices.lookup d.deviceId).isSome then (s, .failed "device_already_enrolled")
  else
    match registerEdge env s.world d with
    | (w, none) => ({ s with world := w }, .failed "edge_registration_failed")
    | (w, some d) =>
      let s := { s with world := w }
      if d.capabilities = [] then (s, .failed "unknown_capability_state")
      else
        let d := { d with connectivityStatus := "offline" }
        let s := s.insertDevice d actorId now
        let s := s.appendEventLocked env d.tenantId d.deviceId "device_enrolled" now
          (.obj [("location_id", .str d.locationId), ("fleet_id", .str d.fleetId),
            ("lifecycle_state", .str d.lifecycleState)])
        (s.emitEvidenceLocked env d "device_enrollment" now
          (.obj [("location_id", .str d.locationId), ("fleet_id", .str d.fleetId)]), .ok)

/-! ### Updates and retirement -/

/-- Store what was read; if the read raised, the device stays as it is at that point. -/
def assign {α : Type} (d : FleetDevice) (read : Except Exn α) (set : α → FleetDevice) :
    Except (FleetDevice × Exn) FleetDevice :=
  match read with
  | .ok v => .ok (set v)
  | .error e => .error (d, e)

/-- The fields a patch may give, stored one after the other. -/
def patchFields (patch : Json String) (d : FleetDevice) : Except (FleetDevice × Exn) FleetDevice := do
  let d ← assign d (patch.value "location_id" Json.getStr d.locationId) fun v => { d with locationId := v }
  let d ← assign d (patch.value "branch_id" Json.getStr d.branchId) fun v => { d with branchId := v }
  let d ← assign d (patch.value "group_id" Json.getStr d.groupId) fun v => { d with groupId := v }
  let d ← assign d (patch.value "fleet_id" Json.getStr d.fleetId) fun v => { d with fleetId := v }
  assign d (patch.value "labels" getLabels d.labels) fun v => { d with labels := v }

/-- Whether the patch gives a location, and an empty one. -/
def locationMissing (patch : Json String) : Except Exn Bool :=
  if (patch.member "location_id").isSome then (patch.value "location_id" Json.getStr "").map (· = "") else .ok false

/-- The end of `update_device`: the device `d` is stored, in place of one in state `prior`. -/
def finishUpdate (s : FleetOperationsService ω) (tenantId deviceId prior : String) (d : FleetDevice) (now : Int) :
    FleetOperationsService ω :=
  let s := { s with devices := s.devices.insert deviceId d }
  let s :=
    if prior = d.lifecycleState then s
    else s.appendEventLocked env tenantId deviceId "device_lifecycle_changed" now
      (.obj [("from", .str prior), ("to", .str d.lifecycleState)])
  { s with assignments := s.assignments.insert deviceId (assignmentOf d tenantId deviceId now) }

def updateDevice (s : FleetOperationsService ω) (tenantId deviceId : String) (patch : Json String) (now : Int) :
    FleetOperationsService ω × Except Exn Reply :=
  match s.devices.lookup deviceId with
  | none => (s, .ok (.failed "not_found"))
  | some d =>
    if d.tenantId ≠ tenantId then (s, .ok (.failed "not_found"))
    else if d.retired then (s, .ok (.failed "device_retired"))
    else
      match patch.value "lifecycle_state" Json.getStr d.lifecycleState with
      | .error e => (s, .error e)
      | .ok next =>
        if !validTransition d.lifecycleState next false then (s, .ok (.failed "invalid_lifecycle_transition"))
        else
          match locationMissing patch with
          | .error e => (s, .error e)
          | .ok true => (s, .ok (.failed "location_required"))
          | .ok false =>
            match patchFields patch { d with lifecycleState := next } with
            | .error (d', e) => ({ s with devices := s.devices.insert deviceId d' }, .error e)
            | .ok d' => (s.finishUpdate env tenantId deviceId d.lifecycleState d' now, .ok .ok)

def retireDevice (s : FleetOperationsService ω) (tenantId deviceId : String) (now : Int) :
    FleetOperationsService ω × Reply :=
  match s.devices.lookup deviceId with
  | none => (s, .failed "not_found")
  | some d =>
    if d.tenantId ≠ tenantId then (s, .failed "not_found")
    else if d.retired then (s, .failed "device_already_retired")
    else
      let d' := { d with lifecycleState := "retired", retired := true, connectivityStatus := "offline" }
      let s := { s with devices := s.devices.insert deviceId d' }
      let s := s.appendEventLocked env tenantId deviceId "device_retired" now
        (.obj [("from", .str d.lifecycleState), ("irreversible", .bool true)])
      (s.emitEvidenceLocked env d' "device_retired" now (.obj [("from", .str d.lifecycleState)]), .ok)

/-! ### Heartbeats -/

def heartbeatFreshLocked (d : FleetDevice) (now : Int) : Bool :=
  d.lastHeartbeatEpoch > 0 && now ≥ d.lastHeartbeatEpoch && now - d.lastHeartbeatEpoch ≤ env.heartbeatTimeoutSeconds

def capabilityKnownLocked (d : FleetDevice) : Bool := d.capabilities ≠ []

/-- The version is one the registry accepts. -/
def knownVersion (v : String) : Bool := v ≠ "" && v ≠ "unknown"

def receiveHeartbeat (s : FleetOperationsService ω) (hb : FleetHeartbeat) (receivedAt : Int) :
    FleetOperationsService ω × Except Exn Reply :=
  match s.devices.lookup hb.deviceId with
  | none => (s, .ok (.failed "unknown_device"))
  | some d =>
    let reject (reason error : String) : FleetOperationsService ω × Except Exn Reply :=
      (s.quarantineLocked env hb.deviceId d reason receivedAt, .ok (.failed error))
    if hb.tenantId ≠ d.tenantId then reject "tenant_boundary_violation" "tenant_mismatch"
    else if d.retired then (s, .ok (.failed "device_retired"))
    else if hb.timestamp ≤ 0 || receivedAt - hb.timestamp > env.heartbeatTimeoutSeconds ||
        hb.timestamp > receivedAt + 30 then reject "stale_heartbeat" "stale_heartbeat"
    else if d.lifecycleState = "quarantined" then
      let d' := { d with
        lastHeartbeatEpoch := hb.timestamp, lastHeartbeatAt := epochString hb.timestamp
        connectivityStatus := hb.connectivityStatus }
      let s := { s with
        heartbeats := s.heartbeats.insert d.deviceId hb, devices := s.devices.insert hb.deviceId d' }
      (s.appendEventLocked env d.tenantId d.deviceId "heartbeat_received" receivedAt
        (.obj [("quarantined", .bool true)]), .ok (.failed "device_quarantined"))
    else if !capabilityKnownLocked d then reject "unknown_capability_state" "unknown_capability_state"
    else if !knownVersion hb.firmwareVersion then reject "unknown_firmware" "unknown_firmware"
    else if !knownVersion hb.driverVersion then reject "unknown_driver" "unknown_driver"
    else
      match hb.inventorySummary.value "contradiction" Json.getBool false with
      | .error e => (s, .error e)
      | .ok true => reject "inventory_contradiction" "inventory_contradiction"
      | .ok false =>
        let d' := { d with
          firmwareVersion := hb.firmwareVersion, driverVersion := hb.driverVersion
          connectivityStatus := hb.connectivityStatus, lastHeartbeatEpoch := hb.timestamp
          lastHeartbeatAt := epochString hb.timestamp }
        let s := { s with
          heartbeats := s.heartbeats.insert d.deviceId hb, devices := s.devices.insert hb.deviceId d' }
        let s := s.appendEventLocked env d.tenantId d.deviceId "heartbeat_received" receivedAt
          (.obj [("status", .str hb.connectivityStatus), ("error_codes", .arr (hb.errorCodes.map .str))])
        (s.emitEvidenceLocked env d' "device_heartbeat" hb.timestamp
          (.obj [("status", .str hb.connectivityStatus), ("health_metrics", hb.healthMetrics)]), .ok .ok)

/-! ### Commands -/

/-- The command with its id and times, as it is queued. -/
def queued (s : FleetOperationsService ω) (c : FleetCommand) (now : Int) : FleetCommand :=
  { c with
    commandId := if c.commandId = "" then idFor "fleet-command" s.commands.entries.length else c.commandId
    createdAt := now
    expiresAt := if c.expiresAt ≤ now then now + 60 else c.expiresAt }

/-- Store the command as failed. -/
def failCommand (s : FleetOperationsService ω) (c : FleetCommand) (reason : String) (policyDenied : Bool) (now : Int) :
    FleetOperationsService ω × FleetCommand :=
  let c := { c with state := "failed", failureReason := reason }
  let s := { s with commands := s.commands.insert c.commandId c }
  (s.appendEventLocked env c.tenantId c.deviceId (if policyDenied then "command_denied" else "command_failed") now
    (.obj [("command_id", .str c.commandId), ("reason", .str reason)]), c)

def policyAction (command : String) : String := if highRiskCommand command then command else "command_execution"

def policyContext (c : FleetCommand) : Json String :=
  .obj [("command", .str c.command), ("parameters", c.parameters), ("required_capability", .str c.requiredCapability)]

/-- The answer of the trust service about an action; without one nothing is allowed. -/
def policyAllows (s : FleetOperationsService ω) (tenantId deviceId action : String) (context : Json String)
    (now : Int) : ω × Bool :=
  match env.trust with
  | none => (s.world, false)
  | some trust => trust.policyAllowsOrFailClosed s.world tenantId deviceId action context now

def dispatch (s : FleetOperationsService ω) (d : FleetDevice) (c : FleetCommand) (now : Int) :
    FleetOperationsService ω × FleetCommand :=
  let s := s.appendEventLocked env c.tenantId c.deviceId "command_approved" now
    (.obj [("command_id", .str c.commandId), ("approval_id", .str c.approvalId)])
  let c := { c with state := "dispatched", dispatchedAt := now }
  let s := { s with commands := s.commands.insert c.commandId c }
  let s := s.appendEventLocked env c.tenantId c.deviceId "command_dispatched" now
    (.obj [("command_id", .str c.commandId)])
  (s.emitEvidenceLocked env d "command_delivery" now c.toJson, c)

/-- The policy check of a command, and what follows from the answer. -/
def checkPolicy (s : FleetOperationsService ω) (d : FleetDevice) (c : FleetCommand) (now : Int) :
    FleetOperationsService ω × FleetCommand :=
  let answer := s.policyAllows env c.tenantId c.deviceId (policyAction c.command) (policyContext c) now
  let s := { s with world := answer.1 }
  if !answer.2 then
    let violations := (s.policyViolations.lookup c.deviceId).getD 0
    let s := { s with policyViolations := s.policyViolations.insert c.deviceId (violations + 1) }
    let s := s.quarantineLocked env c.deviceId d "failed_veil_trust_check" now
    s.failCommand env c "policy_denied" true now
  else if c.highRisk && (c.approvalId = "" || c.approvedBy = "") then
    let c := { c with failureReason := "approval_required" }
    ({ s with commands := s.commands.insert c.commandId c }, c)
  else s.dispatch env d c now

/-- The capability check of a command. -/
def checkCapability (s : FleetOperationsService ω) (d : FleetDevice) (c : FleetCommand) (now : Int) :
    FleetOperationsService ω × FleetCommand :=
  let c := { c with requiredCapability := capabilityForCommand c.command }
  if c.requiredCapability = "" || c.requiredCapability ∉ d.capabilities then
    s.failCommand env c "unsupported_capability" false now
  else s.checkPolicy env d { c with state := "policy_checking", highRisk := highRiskCommand c.command } now

/-- Why the device cannot take a command now, if it cannot. -/
def unavailable (d : FleetDevice) (tenantId : String) (now : Int) : Option String :=
  if d.tenantId ≠ tenantId then some "tenant_or_device_mismatch"
  else if d.retired || d.lifecycleState = "quarantined" then some "device_unavailable"
  else if !heartbeatFreshLocked env d now then some "stale_heartbeat"
  else if d.connectivityStatus ≠ "online" then some "device_offline"
  else if !capabilityKnownLocked d then some "unknown_capability_state"
  else none

/-- A queued command, checked against its device. -/
def checkDevice (s : FleetOperationsService ω) (c : FleetCommand) (now : Int) :
    FleetOperationsService ω × FleetCommand :=
  match s.devices.lookup c.deviceId with
  | none => s.failCommand env c "tenant_or_device_mismatch" false now
  | some d =>
    match unavailable env d c.tenantId now with
    | some reason => s.failCommand env c reason false now
    | none => s.checkCapability env d c now

def createCommand (s : FleetOperationsService ω) (c : FleetCommand) (now : Int) :
    FleetOperationsService ω × FleetCommand :=
  let c := s.queued c now
  if (s.commands.lookup c.commandId).isSome then
    let c := { c with state := "failed", failureReason := "duplicate_command_id" }
    (s.appendEventLocked env c.tenantId c.deviceId "command_denied" now
      (.obj [("command_id", .str c.commandId), ("reason", .str "duplicate_command_id")]), c)
  else
    let c := { c with state := "queued" }
    let s := s.appendEventLocked env c.tenantId c.deviceId "command_queued" now
      (.obj [("command_id", .str c.commandId), ("command", .str c.command)])
    s.checkDevice env c now

/-- The states in which a command has not reached its device's answer. -/
def pending : List String := ["queued", "policy_checking", "approved", "dispatched"]

def cancelCommand (s : FleetOperationsService ω) (tenantId commandId : String) (now : Int) :
    FleetOperationsService ω × Reply :=
  match s.commands.lookup commandId with
  | none => (s, .failed "not_found")
  | some c =>
    if c.tenantId ≠ tenantId then (s, .failed "not_found")
    else if c.state ∉ pending then (s, .failed "command_not_cancellable")
    else
      let s := { s with commands := s.commands.insert commandId { c with state := "cancelled" } }
      (s.appendEventLocked env tenantId c.deviceId "command_cancelled" now (.obj [("command_id", .str commandId)]), .ok)

def acknowledgeCommand (s : FleetOperationsService ω) (tenantId commandId : String) (now : Int) :
    FleetOperationsService ω × Reply :=
  match s.commands.lookup commandId with
  | none => (s, .failed "not_found")
  | some c =>
    if c.tenantId ≠ tenantId then (s, .failed "not_found")
    else if c.state ≠ "dispatched" then (s, .failed "invalid_command_transition")
    else if now > c.expiresAt then
      let s := { s with
        commands := s.commands.insert commandId { c with state := "expired", failureReason := "expired" } }
      (s.appendEventLocked env tenantId c.deviceId "command_failed" now
        (.obj [("command_id", .str commandId), ("reason", .str "expired")]), .failed "command_expired")
    else
      let s := { s with
        commands := s.commands.insert commandId { c with state := "acknowledged", acknowledgedAt := now } }
      (s.appendEventLocked env tenantId c.deviceId "command_acknowledged" now (.obj [("command_id", .str commandId)]), .ok)

/-- How many commands of the device are in one of the states. -/
def countCommands (s : FleetOperationsService ω) (deviceId : String) (states : List String) : ℕ :=
  s.commands.entries.countP fun e => e.2.deviceId = deviceId && e.2.state ∈ states

/-- Quarantine the device under `key`, if `c` holds. -/
def quarantineIf (s : FleetOperationsService ω) (c : Bool) (key reason : String) (now : Int) :
    FleetOperationsService ω :=
  match s.devices.lookup key with
  | some d => if c then s.quarantineLocked env key d reason now else s
  | none => s

/-- What a failure that was reported with `result` leads to. -/
def afterFailure (s : FleetOperationsService ω) (key result : String) (now : Int) : FleetOperationsService ω :=
  let s := s.quarantineIf env ("suspicious".toList <:+: result.toList) key "suspicious_command_result" now
  s.quarantineIf env (s.countCommands key ["failed"] ≥ 3) key "repeated_command_failures" now

/-- The command with the report of its device. -/
def reported (c : FleetCommand) (success : Bool) (result : String) (now : Int) : FleetCommand :=
  { c with
    state := if success then "completed" else "failed", completedAt := now, result
    failureReason :=
      if success then c.failureReason else if result = "" then "device_reported_failure" else result }

def reportEvent (success : Bool) : String := if success then "command_completed" else "command_failed"

/-- The evidence of a report, and what follows from a failure. -/
def afterReport (s : FleetOperationsService ω) (c : FleetCommand) (success : Bool) (result : String) (now : Int) :
    FleetOperationsService ω :=
  match s.devices.lookup c.deviceId with
  | none => s
  | some d =>
    let s := s.emitEvidenceLocked env d (reportEvent success) now c.toJson
    if success then s else s.afterFailure env c.deviceId result now

def completeCommand (s : FleetOperationsService ω) (tenantId commandId : String) (success : Bool) (result : String)
    (now : Int) : FleetOperationsService ω × Reply :=
  match s.commands.lookup commandId with
  | none => (s, .failed "not_found")
  | some c =>
    if c.tenantId ≠ tenantId then (s, .failed "not_found")
    else if c.state ≠ "acknowledged" then (s, .failed "invalid_command_transition")
    else
      let c := reported c success result now
      let s := { s with commands := s.commands.insert commandId c }
      let s := s.appendEventLocked env tenantId c.deviceId (reportEvent success) now
        (.obj [("command_id", .str commandId), ("result", .str result)])
      (s.afterReport env c success result now, .ok)

/-- One round of the loop in `expire_commands`. -/
def expireOne (now : Int) (p : FleetOperationsService ω × ℕ) (key : String) : FleetOperationsService ω × ℕ :=
  match p.1.commands.lookup key with
  | none => p
  | some c =>
    if c.state ∈ pending ∧ now > c.expiresAt then
      let s := { p.1 with
        commands := p.1.commands.insert key { c with state := "expired", failureReason := "expired" } }
      (s.appendEventLocked env c.tenantId c.deviceId "command_failed" now
        (.obj [("command_id", .str c.commandId), ("reason", .str "expired")]), p.2 + 1)
    else p

def expireCommands (s : FleetOperationsService ω) (now : Int) : FleetOperationsService ω × ℕ :=
  s.commands.keys.foldl (expireOne env now) (s, 0)

/-! ### Risk -/

/-- The double nearest to one tenth. -/
def tenth : ℚ := 3602879701896397 / 36028797018963968

/-- The factors that a heartbeat's reports add. -/
def reportedFactors (hb : FleetHeartbeat) : Except Exn (List RiskFactor) := do
  let drift ← hb.inventorySummary.value "drift" Json.getNum 0
  let movement ← hb.healthMetrics.value "unusual_cash_movement" Json.getBool false
  let missing ← hb.healthMetrics.value "missing_trust_evidence" Json.getBool false
  let stability ← hb.healthMetrics.value "driver_stability" Json.getNum 1
  return (if drift > tenth then [⟨"inventory_drift", 20, "reported inventory drift exceeds ten percent"⟩] else []) ++
    (if movement then [⟨"unusual_cash_movement", 25, "heartbeat reports unusual cash movement"⟩] else []) ++
    (if missing then [⟨"missing_trust_evidence", 20, "required trust evidence is missing"⟩] else []) ++
    (if stability < 3 / 4 then [⟨"unstable_vendor_driver", 20, "driver stability is below threshold"⟩] else [])

def deviceRiskLocked (s : FleetOperationsService ω) (d : FleetDevice) (now : Int) : Except Exn FleetRisk := do
  let total := s.commands.entries.countP fun e => e.2.deviceId = d.deviceId
  let failures := s.countCommands d.deviceId ["failed", "expired"]
  let reported ←
    match s.heartbeats.lookup d.deviceId with
    | none => pure []
    | some hb => reportedFactors hb
  let violations := (s.policyViolations.lookup d.deviceId).getD 0
  let factors : List RiskFactor :=
    (if heartbeatFreshLocked env d now then []
      else [⟨"stale_heartbeat", 30, "heartbeat exceeds freshness threshold"⟩]) ++
    (if failures ≥ 3 then [⟨"repeated_command_failures", 25, "three or more commands failed"⟩] else []) ++
    (if total > 0 ∧ failures * 2 ≥ total then
      [⟨"command_failure_rate", 15, "at least half of commands failed"⟩] else []) ++
    reported ++
    (if violations > 0 then
      [⟨"policy_violations", min 30 (violations * 10).toInt, "VEIL policy checks were denied"⟩] else []) ++
    (if d.lifecycleState = "quarantined" then [⟨"quarantined", 20, d.quarantineReason⟩] else [])
  let score := min 100 (factors.map RiskFactor.points).sum
  return { tenantId := d.tenantId, scopeId := d.deviceId, score, level := riskLevel score, factors, evaluatedAt := now }

def recordRiskChangeLocked (s : FleetOperationsService ω) (risk : FleetRisk) (now : Int) : FleetOperationsService ω :=
  let key := risk.tenantId ++ ":" ++ risk.scopeType ++ ":" ++ risk.scopeId
  let previous := s.riskLevels.lookup key
  if previous = some risk.level then s
  else
    let s := s.appendEventLocked env risk.tenantId (if risk.scopeType = "device" then risk.scopeId else "")
      "risk_changed" now
      (.obj [("scope_type", .str risk.scopeType), ("scope_id", .str risk.scopeId),
        ("from", .str (previous.getD "unknown")), ("to", .str risk.level), ("score", .int risk.score)])
    { s with riskLevels := s.riskLevels.insert key risk.level }

def deviceRisk (s : FleetOperationsService ω) (tenantId deviceId : String) (now : Int) :
    FleetOperationsService ω × Except Exn FleetRisk :=
  let unknown : FleetRisk :=
    { tenantId, scopeType := "device", scopeId := deviceId, score := 100, level := "critical"
      factors := [⟨"unknown_device", 100, "device is not present in tenant registry"⟩], evaluatedAt := now }
  match s.devices.lookup deviceId with
  | none => (s, .ok unknown)
  | some d =>
    if d.tenantId ≠ tenantId then (s, .ok unknown)
    else
      match s.deviceRiskLocked env d now with
      | .error e => (s, .error e)
      | .ok risk => (s.recordRiskChangeLocked env risk now, .ok risk)

/-- One round of the loop in `fleet_risk`; after a read that raised there is no further round. -/
def fleetRiskOne (tenantId : String) (now : Int) (p : FleetOperationsService ω × Except Exn (List FleetRisk))
    (d : FleetDevice) : FleetOperationsService ω × Except Exn (List FleetRisk) :=
  match p.2 with
  | .error _ => p
  | .ok out =>
    if d.tenantId ≠ tenantId then p
    else
      match p.1.deviceRiskLocked env d now with
      | .error e => (p.1, .error e)
      | .ok risk => (p.1.recordRiskChangeLocked env risk now, .ok (out ++ [risk]))

def fleetRisk (s : FleetOperationsService ω) (tenantId : String) (now : Int) :
    FleetOperationsService ω × Except Exn (List FleetRisk) :=
  let (s, out) := (s.devices.entries.map Sigma.snd).foldl (fleetRiskOne env tenantId now) (s, .ok [])
  (s, out.map (List.insertionSort fun a b => textBefore b.scopeId a.scopeId = false))

def locationRisk (s : FleetOperationsService ω) (tenantId locationId : String) (now : Int) :
    FleetOperationsService ω × Except Exn FleetRisk :=
  let devices := (s.devices.entries.map Sigma.snd).filter fun d => d.tenantId = tenantId && d.locationId = locationId
  match devices.mapM fun d => s.deviceRiskLocked env d now with
  | .error e => (s, .error e)
  | .ok risks =>
    let score :=
      if risks = [] then 100 else ((risks.map FleetRisk.score).sum).tdiv risks.length
    let factors := risks.flatMap FleetRisk.factors
    let factors :=
      if risks = [] then [⟨"unknown_location", 100, "location has no tenant devices"⟩] else factors
    let risk : FleetRisk :=
      { tenantId, scopeType := "location", scopeId := locationId, score, level := riskLevel score, factors
        evaluatedAt := now }
    (s.recordRiskChangeLocked env risk now, .ok risk)

/-! ### Quarantine and recovery -/

def quarantine (s : FleetOperationsService ω) (tenantId deviceId reason : String) (now : Int) :
    FleetOperationsService ω × Reply :=
  match s.devices.lookup deviceId with
  | none => (s, .failed "not_found_or_retired")
  | some d =>
    if d.tenantId ≠ tenantId || d.retired then (s, .failed "not_found_or_retired")
    else (s.quarantineLocked env deviceId d (if reason = "" then "operator_quarantine" else reason) now, .ok)

/-- What a device's heartbeat must show before the device may recover; `none` if nothing is missing. -/
def recoveryBlocked (d : FleetDevice) (hb : Option FleetHeartbeat) : Except Exn (Option String) :=
  match hb with
  | none => .ok (some "successful_self_test_required")
  | some hb => do
    let passed ← hb.healthMetrics.value "self_test_passed" Json.getBool false
    if !passed then return some "successful_self_test_required"
    if hb.connectivityStatus ≠ "online" || !knownVersion hb.firmwareVersion || !knownVersion hb.driverVersion then
      return some "device_identity_or_health_unresolved"
    let contradiction ← hb.inventorySummary.value "contradiction" Json.getBool false
    if contradiction || !capabilityKnownLocked d then return some "device_identity_or_health_unresolved"
    return none

/-- The score without the points for being quarantined. -/
def unresolvedScore (risk : FleetRisk) : Int :=
  risk.score - ((risk.factors.filter fun f => f.factor = "quarantined").map RiskFactor.points).sum

def recover (s : FleetOperationsService ω) (tenantId deviceId : String) (now : Int) :
    FleetOperationsService ω × Except Exn Reply :=
  match s.devices.lookup deviceId with
  | none => (s, .ok (.failed "not_found"))
  | some d =>
    if d.tenantId ≠ tenantId then (s, .ok (.failed "not_found"))
    else if d.lifecycleState ≠ "quarantined" || d.retired then (s, .ok (.failed "device_not_recoverable"))
    else if !heartbeatFreshLocked env d now then (s, .ok (.failed "fresh_heartbeat_required"))
    else
      match recoveryBlocked d (s.heartbeats.lookup deviceId) with
      | .error e => (s, .error e)
      | .ok (some error) => (s, .ok (.failed error))
      | .ok none =>
        match s.deviceRiskLocked env d now with
        | .error e => (s, .error e)
        | .ok risk =>
          let unresolved := unresolvedScore risk
          if unresolved ≥ 75 then (s, .ok (.failed "critical_risk_unresolved"))
          else
            let answer := s.policyAllows env tenantId deviceId "device_recovery"
              (.obj [("quarantine_reason", .str d.quarantineReason), ("risk_score", .int unresolved),
                ("self_test_passed", .bool true)]) now
            let s := { s with world := answer.1 }
            if !answer.2 then (s, .ok (.failed "veil_recovery_denied"))
            else
              let d' := { d with lifecycleState := "active", quarantineReason := "" }
              let payload := .obj [("previous_reason", .str d.quarantineReason), ("risk_score", .int unresolved)]
              let s := { s with devices := s.devices.insert deviceId d' }
              let s := s.appendEventLocked env tenantId deviceId "device_recovered" now payload
              (s.emitEvidenceLocked env d' "device_recovery" now payload, .ok .ok)

end FleetOperationsService

/-! ### Runs -/

/-- A request to the service; `outside` is what other users of the attached services do in between. -/
inductive Op (ω : Type) where
  | enroll (device : FleetDevice) (actorId : String) (now : Int)
  | updateDevice (tenantId deviceId : String) (patch : Json String) (now : Int)
  | retireDevice (tenantId deviceId : String) (now : Int)
  | receiveHeartbeat (heartbeat : FleetHeartbeat) (receivedAt : Int)
  | createCommand (command : FleetCommand) (now : Int)
  | cancelCommand (tenantId commandId : String) (now : Int)
  | acknowledgeCommand (tenantId commandId : String) (now : Int)
  | completeCommand (tenantId commandId : String) (success : Bool) (result : String) (now : Int)
  | expireCommands (now : Int)
  | deviceRisk (tenantId deviceId : String) (now : Int)
  | fleetRisk (tenantId : String) (now : Int)
  | locationRisk (tenantId locationId : String) (now : Int)
  | quarantine (tenantId deviceId reason : String) (now : Int)
  | recover (tenantId deviceId : String) (now : Int)
  | outside (world : ω)

variable {ω : Type}

/-- The service after a request. -/
def apply (env : Env ω) (s : FleetOperationsService ω) : Op ω → FleetOperationsService ω
  | .enroll device actorId now => (s.enroll env device actorId now).1
  | .updateDevice tenantId deviceId patch now => (s.updateDevice env tenantId deviceId patch now).1
  | .retireDevice tenantId deviceId now => (s.retireDevice env tenantId deviceId now).1
  | .receiveHeartbeat heartbeat receivedAt => (s.receiveHeartbeat env heartbeat receivedAt).1
  | .createCommand command now => (s.createCommand env command now).1
  | .cancelCommand tenantId commandId now => (s.cancelCommand env tenantId commandId now).1
  | .acknowledgeCommand tenantId commandId now => (s.acknowledgeCommand env tenantId commandId now).1
  | .completeCommand tenantId commandId success result now =>
    (s.completeCommand env tenantId commandId success result now).1
  | .expireCommands now => (s.expireCommands env now).1
  | .deviceRisk tenantId deviceId now => (s.deviceRisk env tenantId deviceId now).1
  | .fleetRisk tenantId now => (s.fleetRisk env tenantId now).1
  | .locationRisk tenantId locationId now => (s.locationRisk env tenantId locationId now).1
  | .quarantine tenantId deviceId reason now => (s.quarantine env tenantId deviceId reason now).1
  | .recover tenantId deviceId now => (s.recover env tenantId deviceId now).1
  | .outside world => { s with world := world }

end Drawer.FleetOps
