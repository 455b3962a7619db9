import Drawer.Sanity.FleetStore
import Drawer.Spec.CommandQueue

/-! What an operation of the control plane does to its commands. `Act` says it once:
a command is created, given up, delivered, or read back from the store; only an
acknowledgement is left aside. -/

namespace Drawer.FleetControl
open FleetControlPlane Json
open FleetOps (mapValues readValues refiled Filed lookup_refiled readValues_mapValues)

/-! ### The store -/

@[simp] theorem strs_read (l : List String) : getStrs (strs l) = .ok l := getArr_map getStr_str l

@[simp] theorem labels_read (l : Labels) : getLabels (labelsJson l) = .ok l := getObj_map getStr_str l

theorem organization_read (v : Organization) : Organization.fromJson v.toJson = .ok v := by
  simp [Organization.fromJson, Organization.toJson, value_obj, member_cons, ok_bind, pure_ok]

theorem region_read (v : Region) : Region.fromJson v.toJson = .ok v := by
  simp [Region.fromJson, Region.toJson, value_obj, member_cons, ok_bind, pure_ok]

theorem merchant_read (v : Merchant) : Merchant.fromJson v.toJson = .ok v := by
  simp [Merchant.fromJson, Merchant.toJson, value_obj, member_cons, ok_bind, pure_ok]

theorem branch_read (v : Branch) : Branch.fromJson v.toJson = .ok v := by
  simp [Branch.fromJson, Branch.toJson, value_obj, member_cons, ok_bind, pure_ok]

theorem record_read (v : DeviceRegistryRecord) : DeviceRegistryRecord.fromJson v.toJson = .ok v := by
  simp only [DeviceRegistryRecord.fromJson, DeviceRegistryRecord.toJson, value_obj, member_cons, String.reduceEq, if_false,
    if_true, getStr_str, getInt32_int, strs_read, labels_read, ok_bind, pure_ok]

theorem command_read (v : RemoteCommand) : RemoteCommand.fromJson v.toJson = .ok v := by
  simp only [RemoteCommand.fromJson, RemoteCommand.toJson, value_obj, member_cons, String.reduceEq, if_false, if_true,
    getStr_str, getInt_int, getInt32_int, ok_bind, pure_ok]

theorem alert_read (v : FleetAlert) : FleetAlert.fromJson v.toJson = .ok v := by
  simp [FleetAlert.fromJson, FleetAlert.toJson, value_obj, member_cons, ok_bind, pure_ok]

theorem event_read (v : FleetEvent) : FleetEvent.fromJson v.toJson = .ok v := by
  simp [FleetEvent.fromJson, FleetEvent.toJson, value_obj, member_cons, ok_bind, pure_ok]

/-- What the store gives back. -/
structure LoadedFrom (s s' : FleetControlPlane) : Prop where
  organizations : s'.organizations = refiled Organization.organizationId s.organizations
  regions : s'.regions = refiled Region.regionId s.regions
  merchants : s'.merchants = refiled Merchant.merchantId s.merchants
  branches : s'.branches = refiled Branch.branchId s.branches
  devices : s'.devices = refiled DeviceRegistryRecord.deviceId s.devices
  commands : s'.commands = refiled RemoteCommand.commandId s.commands
  acknowledged : s'.acknowledgedCommands = acknowledgedOf (s.commands.entries.map Sigma.snd)
  alerts : s'.alerts = s.alerts
  events : s'.events = s.events
  heartbeatLatencySum : s'.heartbeatLatencySum = s.heartbeatLatencySum
  heartbeatCount : s'.heartbeatCount = s.heartbeatCount

/-- What was saved can be loaded. -/
theorem loadedFrom_saved (s : FleetControlPlane) : ∃ s', FleetControlPlane.load s.saved = .ok s' ∧ LoadedFrom s s' := by
  have horganizations := readValues_mapValues Organization.organizationId organization_read
    (show s.saved.member "organizations" = _ from rfl)
  have hregions := readValues_mapValues Region.regionId region_read (show s.saved.member "regions" = _ from rfl)
  have hmerchants := readValues_mapValues Merchant.merchantId merchant_read (show s.saved.member "merchants" = _ from rfl)
  have hbranches := readValues_mapValues Branch.branchId branch_read (show s.saved.member "branches" = _ from rfl)
  have hdevices := readValues_mapValues DeviceRegistryRecord.deviceId record_read (show s.saved.member "devices" = _ from rfl)
  have hitems : s.saved.value "commands" .ok (.arr []) = .ok (mapValues RemoteCommand.toJson s.commands) := rfl
  have hcommands : (mapValues RemoteCommand.toJson s.commands).elements.mapM RemoteCommand.fromJson =
      .ok (s.commands.entries.map Sigma.snd) := by
    rw [mapValues, elements, List.mapM_map]
    exact mapM_ok fun e _ => command_read e.2
  have halerts : s.saved.value "alerts" (getArr FleetAlert.fromJson) [] = .ok s.alerts := by
    have hmember : s.saved.member "alerts" = some (.arr (s.alerts.map FleetAlert.toJson)) := rfl
    rw [saved] at hmember ⊢
    simp only [value_obj, hmember, getArr_map alert_read]
  have hevents : s.saved.value "events" (getArr FleetEvent.fromJson) [] = .ok s.events := by
    have hmember : s.saved.member "events" = some (.arr (s.events.map FleetEvent.toJson)) := rfl
    rw [saved] at hmember ⊢
    simp only [value_obj, hmember, getArr_map event_read]
  have hsum : s.saved.value "heartbeat_latency_sum" getNum 0 = .ok s.heartbeatLatencySum := rfl
  have hcount : s.saved.value "heartbeat_count" getInt32 0 = .ok s.heartbeatCount := by
    have hmember : s.saved.member "heartbeat_count" = some (.int s.heartbeatCount.toInt) := rfl
    rw [saved] at hmember ⊢
    simp only [value_obj, hmember, getInt32_int]
  rw [saved] at *
  simp only [FleetControlPlane.load, horganizations, hregions, hmerchants, hbranches, hdevices, hitems, hcommands, halerts,
    hevents, hsum, hcount, ok_bind, pure_ok]
  exact ⟨_, rfl, ⟨rfl, rfl, rfl, rfl, rfl, rfl, rfl, rfl, rfl, rfl, rfl⟩⟩

/-- The commands are filed anew, and those stored as acknowledged are known to be. -/
theorem load_saved (s : FleetControlPlane) : ∃ s', FleetControlPlane.load s.saved = .ok s' ∧
    s'.commands = refiled RemoteCommand.commandId s.commands ∧
    s'.acknowledgedCommands = acknowledgedOf (s.commands.entries.map Sigma.snd) := by
  obtain ⟨s', hload, hloaded⟩ := loadedFrom_saved s
  exact ⟨s', hload, hloaded.commands, hloaded.acknowledged⟩

theorem mem_acknowledgedOf {commands : Dict String RemoteCommand} (h : Filed RemoteCommand.commandId commands)
    {id : String} : id ∈ acknowledgedOf (commands.entries.map Sigma.snd) ↔
      ∃ c, commands.lookup id = some c ∧ c.status = "acknowledged" := by
  simp only [acknowledgedOf, List.mem_map, List.mem_filter, decide_eq_true_eq]
  constructor
  · rintro ⟨_, ⟨⟨e, he, rfl⟩, hstatus⟩, rfl⟩
    have hlookup : commands.lookup e.1 = some e.2 := AList.mem_lookup_iff.mpr he
    rw [h _ _ hlookup]
    exact ⟨e.2, hlookup, hstatus⟩
  · rintro ⟨c, hc, hstatus⟩
    exact ⟨c, ⟨⟨⟨id, c⟩, AList.mem_lookup_iff.mp hc, rfl⟩, hstatus⟩, h _ _ hc⟩

/-! ### Acts -/

/-- The commands differ in their status and what goes with it only. -/
structure Alike (c c' : RemoteCommand) : Prop where
  commandId : c'.commandId = c.commandId
  deviceId : c'.deviceId = c.deviceId
  expiresAtEpoch : c'.expiresAtEpoch = c.expiresAtEpoch
  maxRetries : c'.maxRetries = c.maxRetries

/-- A change of the plane's commands, and what is told of it. -/
inductive Act : FleetControlPlane × List Fact → FleetControlPlane × List Fact → Prop
  | created {s s' : FleetControlPlane} {history : List Fact} (c : RemoteCommand)
      (hid : c.commandId = idFor "cmd" s.commands.entries.length) (hstatus : c.status = "pending" ∨ c.status = "failed")
      (hretry : c.retryCount = 0) (hcommands : s'.commands = s.commands.insert c.commandId c)
      (hacknowledged : s'.acknowledgedCommands = s.acknowledgedCommands) : Act (s, history) (s', history ++ [.created c])
  | gaveUp {s s' : FleetControlPlane} {history : List Fact} (id : String) (c c' : RemoteCommand)
      (hc : s.commands.lookup id = some c) (hopen : c.status ∈ openStatuses) (halike : Alike c c')
      (hstatus : c'.status = "failed" ∨ c'.status = "expired") (hcommands : s'.commands = s.commands.insert id c')
      (hacknowledged : s'.acknowledgedCommands = s.acknowledgedCommands) : Act (s, history) (s', history)
  | delivered {s s' : FleetControlPlane} {history : List Fact} (id : String) (c : RemoteCommand) (deviceId : String)
      (now : Int) (hc : s.commands.lookup id = some c) (hdevice : c.deviceId = deviceId)
      (hopen : c.status ∈ openStatuses) (hunknown : c.commandId ∉ s.acknowledgedCommands) (hnow : now ≤ c.expiresAtEpoch)
      (hretry : c.status = "delivered" → c.retryCount < c.maxRetries)
      (hcommands : s'.commands = s.commands.insert id (deliveredAs c now))
      (hacknowledged : s'.acknowledgedCommands = s.acknowledgedCommands) :
      Act (s, history) (s', history ++ [.delivered (deliveredAs c now) deviceId now])
  | refiled {s s' : FleetControlPlane} {history : List Fact} (hlookup : ∀ id, s'.commands.lookup id = s.commands.lookup id)
      (hacknowledged : ∀ id, id ∈ s'.acknowledgedCommands ↔ id ∈ s.acknowledgedCommands) : Act (s, history) (s', history)

abbrev Acts : FleetControlPlane × List Fact → FleetControlPlane × List Fact → Prop := Relation.ReflTransGen Act

variable {s : FleetControlPlane} {history : List Fact}

theorem act_create (organizationId deviceId type : String) (now ttlSeconds : Int) (maxRetries : Int32) :
    Act (s, history) ((s.createCommand organizationId deviceId type now ttlSeconds maxRetries).1,
      history ++ [.created (s.createCommand organizationId deviceId type now ttlSeconds maxRetries).2]) := by
  unfold createCommand
  split_ifs
  · exact Act.created _ rfl (Or.inr rfl) rfl rfl rfl
  · exact Act.created _ rfl (Or.inl rfl) rfl rfl rfl

theorem act_giveUp {key : String} {cmd : RemoteCommand} (hc : s.commands.lookup key = some cmd)
    (hopen : cmd.status ∈ openStatuses) {status : String} (hstatus : status = "failed" ∨ status = "expired")
    (reason : String) (now : Int) : Act (s, history) (s.giveUpLocked key cmd status reason now, history) :=
  Act.gaveUp key cmd { cmd with status, failedAt := epochString now, failureReason := reason } hc hopen ⟨rfl, rfl, rfl, rfl⟩
    hstatus rfl rfl

theorem acts_deliverFrom (deviceId : String) (now : Int) (order : List String) (s : FleetControlPlane) :
    Acts (s, history) ((deliverFrom deviceId now s order).1,
      history ++ (deliverFrom deviceId now s order).2.toList.map fun c => .delivered c deviceId now) := by
  induction order generalizing s with
  | nil =>
    simp only [deliverFrom, Option.toList_none, List.map_nil, List.append_nil]
    exact Relation.ReflTransGen.refl
  | cons key order ih =>
    rw [deliverFrom]
    cases hc : s.commands.lookup key with
    | none => exact ih s
    | some cmd =>
      dsimp only
      split_ifs with hother hknown hlate hspent
      · exact ih s
      · exact ih s
      · simp only [Bool.or_eq_true, decide_eq_true_eq, not_or, not_not] at hother
        exact Relation.ReflTransGen.head (act_giveUp hc hother.2 (Or.inr rfl) _ _) (ih _)
      · simp only [Bool.or_eq_true, decide_eq_true_eq, not_or, not_not] at hother
        exact Relation.ReflTransGen.head (act_giveUp hc hother.2 (Or.inl rfl) _ _) (ih _)
      · simp only [Bool.or_eq_true, decide_eq_true_eq, not_or, not_not] at hother
        refine Relation.ReflTransGen.single (Act.delivered key cmd deviceId now hc hother.1 hother.2 hknown
          (not_lt.mp hlate) (fun hdelivered => ?_) rfl rfl)
        simp only [hdelivered, decide_true, Bool.true_and, decide_eq_true_eq] at hspent
        exact Int32.not_le.mp hspent

theorem acts_expireCommands (now : Int) : Acts (s, history) ((s.expireCommands now).1, history) := by
  have hall : ∀ (keys : List String) (p : FleetControlPlane × ℕ),
      Acts (p.1, history) ((keys.foldl (expireOne now) p).1, history) := by
    intro keys
    induction keys with
    | nil => exact fun p => Relation.ReflTransGen.refl
    | cons key keys ih =>
      intro p
      rw [List.foldl_cons]
      refine Relation.ReflTransGen.trans ?_ (ih (expireOne now p key))
      unfold expireOne
      cases hc : p.1.commands.lookup key with
      | none => exact Relation.ReflTransGen.refl
      | some cmd =>
        dsimp only
        split_ifs with hdue
        · exact Relation.ReflTransGen.single (act_giveUp hc hdue.1 (Or.inr rfl) _ _)
        · exact Relation.ReflTransGen.refl
  exact hall _ (s, 0)

/-- An acknowledgement is refused, and nothing happens, or it is for a command of the device that was not acknowledged
yet. -/
theorem acknowledgeCommand_spec (deviceId commandId : String) (now : Int) :
    (s.acknowledgeCommand deviceId commandId now = (s, false)) ∨
      ∃ c, s.commands.lookup commandId = some c ∧ c.deviceId = deviceId ∧ commandId ∉ s.acknowledgedCommands ∧
        (s.acknowledgeCommand deviceId commandId now).2 = true ∧
        (s.acknowledgeCommand deviceId commandId now).1.commands =
          s.commands.insert commandId { c with status := "acknowledged", acknowledgedAt := epochString now } ∧
        (s.acknowledgeCommand deviceId commandId now).1.acknowledgedCommands = s.acknowledgedCommands ++ [commandId] := by
  unfold acknowledgeCommand
  cases hc : s.commands.lookup commandId with
  | none => exact Or.inl rfl
  | some c =>
    dsimp only
    split_ifs with hdevice hknown
    · exact Or.inl rfl
    · exact Or.inl rfl
    · exact Or.inr ⟨c, rfl, not_not.mp hdevice, hknown, rfl, rfl, rfl⟩

end Drawer.FleetControl
