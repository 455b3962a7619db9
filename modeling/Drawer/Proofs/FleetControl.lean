import Drawer.Spec.FleetControl

/-! Tenants of the fleet control plane. A request is held to the owner named in its
body, and what it replaces is found by an id that all tenants share. So a request
leaves the records of other organizations alone just when the record it replaces is
not theirs, and an acknowledgement just when the command is not theirs. -/

namespace Drawer.FleetControl
open Dict FleetControlPlane

/-- The record has an owner, and that is not `T`. -/
def Foreign (T owner : String) : Prop := owner ≠ "" ∧ owner ≠ T

instance (T owner : String) : Decidable (Foreign T owner) := inferInstanceAs (Decidable (_ ∧ _))

/-- Every member of `l` that meets `p` is at its place in `l'`. -/
def KeepsAt {α : Type} (p : α → Prop) (l l' : List α) : Prop := ∀ (i : ℕ) a, l[i]? = some a → p a → l'[i]? = some a

@[simp] theorem keepsAt_refl {α : Type} (p : α → Prop) (l : List α) : KeepsAt p l l := fun _ _ h _ => h

/-- No record of another organization than `T` is changed. -/
@[mk_iff]
structure Isolated (T : String) (s s' : FleetControlPlane) : Prop where
  organizations : Keeps (fun v => Foreign T v.organizationId) s.organizations s'.organizations
  merchants : Keeps (fun v => Foreign T v.organizationId) s.merchants s'.merchants
  branches : Keeps (fun v => Foreign T v.organizationId) s.branches s'.branches
  regions : Keeps (fun v => Foreign T v.organizationId) s.regions s'.regions
  devices : Keeps (fun v => Foreign T v.organizationId) s.devices s'.devices
  commands : Keeps (fun v => Foreign T v.organizationId) s.commands s'.commands
  alerts : KeepsAt (fun v => Foreign T v.organizationId) s.alerts s'.alerts

/-- The id is taken, by a record of another organization than `T`. -/
def HeldByOther {α : Type} (T : String) (owner : α → String) (m : Dict String α) (id : String) : Prop :=
  ∃ v, m.lookup id = some v ∧ Foreign T (owner v)

/-- What a request of `T` may name: a record it stores is not stored over that of another organization, and a command
it acknowledges is not another organization's, or is acknowledged already with the same time. -/
def Safe (T : String) (s : FleetControlPlane) (req : Request) : Prop :=
  match req.route with
  | .postOrganization => ∀ v, req.body >>= Organization.fromJson = .ok v → allowedTenant req v.organizationId = true →
      ¬ HeldByOther T Organization.organizationId s.organizations v.organizationId
  | .postMerchant => ∀ v, req.body >>= Merchant.fromJson = .ok v → allowedTenant req v.organizationId = true →
      ¬ HeldByOther T Merchant.organizationId s.merchants v.merchantId
  | .postBranch => ∀ v, req.body >>= Branch.fromJson = .ok v → allowedTenant req v.organizationId = true →
      ¬ HeldByOther T Branch.organizationId s.branches v.branchId
  | .postRegion => ∀ v, req.body >>= Region.fromJson = .ok v → allowedTenant req v.organizationId = true →
      ¬ HeldByOther T Region.organizationId s.regions v.regionId
  | .postDevice => ∀ v, req.body >>= DeviceRegistryRecord.fromJson = .ok v → allowedTenant req v.organizationId = true →
      v.deviceId ≠ "" → v.organizationId ≠ "" →
      ¬ HeldByOther T DeviceRegistryRecord.organizationId s.devices v.deviceId
  | .postCommand deviceId => ∀ j d args, req.body = .ok j → s.device deviceId = some d →
      allowedTenant req d.organizationId = true → readCommand j = .ok args →
      ¬ HeldByOther T RemoteCommand.organizationId s.commands (idFor "cmd" s.commands.entries.length)
  | .ackCommand commandId => ∀ deviceId now cmd, req.body >>= readAck = .ok (deviceId, now) →
      s.commands.lookup commandId = some cmd → Foreign T cmd.organizationId → cmd.deviceId = deviceId →
      commandId ∉ s.acknowledgedCommands → cmd.status = "acknowledged" ∧ cmd.acknowledgedAt = epochString now
  | .postHeartbeat _ => True
  | .ackAlert _ => True
  | .get => True

theorem Isolated.refl (T : String) (s : FleetControlPlane) : Isolated T s s := by
  simp only [isolated_iff, keeps_refl, keepsAt_refl, and_self]

/-- An event on top changes no record. -/
@[simp] theorem isolated_eventLocked {T : String} {s s' : FleetControlPlane} {organizationId deviceId type : String}
    {now : Int} {metadata : Json String} :
    Isolated T s (s'.eventLocked organizationId deviceId type now metadata) ↔ Isolated T s s' := by
  simp only [isolated_iff, eventLocked]

theorem not_foreign {T owner : String} {req : Request} (hT : T ≠ "") (horg : req.orgHeader = T)
    (h : allowedTenant req owner = true) : ¬ Foreign T owner := by
  subst horg
  simp only [allowedTenant, tenantOrg, hT, if_false, decide_false, Bool.false_or, Bool.or_eq_true,
    decide_eq_true_eq] at h
  rintro ⟨hne, hother⟩
  rcases h with h | h
  · exact hne h
  · exact hother h.symm

/-- The routes that store a record: what follows if storing it leaves the others alone just when `Q`. -/
theorem postRecord_iff {α : Type} {read : Json String → Except Exn α} {owner : α → String}
    {store : FleetControlPlane → α → FleetControlPlane} {reply : α → Json String} {T : String} {s : FleetControlPlane}
    {req : Request} {Q : α → Prop}
    (h : ∀ v, allowedTenant req (owner v) = true → (Isolated T s (store s v) ↔ Q v)) :
    Isolated T s (postRecord read owner store reply s req).1 ↔
      ∀ v, req.body >>= read = .ok v → allowedTenant req (owner v) = true → Q v := by
  unfold postRecord
  cases hread : req.body >>= read with
  | error e => exact iff_of_true (Isolated.refl T s) (by simp)
  | ok v =>
    cases hallow : allowedTenant req (owner v) with
    | false =>
      simp only [hallow, Bool.false_eq_true, if_false]
      refine iff_of_true (Isolated.refl T s) fun w hw hwallow => ?_
      obtain rfl := Except.ok.inj hw
      rw [hallow] at hwallow
      cases hwallow
    | true =>
      simp only [hallow, if_true]
      refine ⟨fun hi w hw _ => ?_, fun hq => (h v hallow).mpr (hq v rfl hallow)⟩
      obtain rfl := Except.ok.inj hw
      exact (h v hallow).mp hi

section

variable {T : String} {s : FleetControlPlane}

theorem keeps_owner {α : Type} {owner : α → String} {m : Dict String α} {id : String} {v : α}
    (hv : ¬ Foreign T (owner v)) :
    Keeps (fun w => Foreign T (owner w)) m (m.insert id v) ↔ ¬ HeldByOther T owner m id :=
  keeps_insert_of_not hv

theorem isolated_organization {v : Organization} (hv : ¬ Foreign T v.organizationId) :
    Isolated T s (s.upsertOrganization v) ↔
      ¬ HeldByOther T Organization.organizationId s.organizations v.organizationId := by
  simp only [isolated_iff, upsertOrganization, keeps_refl, keepsAt_refl, and_true]
  exact keeps_owner hv

theorem isolated_merchant {v : Merchant} (hv : ¬ Foreign T v.organizationId) :
    Isolated T s (s.upsertMerchant v) ↔ ¬ HeldByOther T Merchant.organizationId s.merchants v.merchantId := by
  simp only [isolated_iff, upsertMerchant, keeps_refl, keepsAt_refl, and_true, true_and]
  exact keeps_owner hv

theorem isolated_branch {v : Branch} (hv : ¬ Foreign T v.organizationId) :
    Isolated T s (s.upsertBranch v) ↔ ¬ HeldByOther T Branch.organizationId s.branches v.branchId := by
  simp only [isolated_iff, upsertBranch, keeps_refl, keepsAt_refl, and_true, true_and]
  exact keeps_owner hv

theorem isolated_region {v : Region} (hv : ¬ Foreign T v.organizationId) :
    Isolated T s (s.upsertRegion v) ↔ ¬ HeldByOther T Region.organizationId s.regions v.regionId := by
  simp only [isolated_iff, upsertRegion, keeps_refl, keepsAt_refl, and_true, true_and]
  exact keeps_owner hv

theorem isolated_device {v : DeviceRegistryRecord} (hv : ¬ Foreign T v.organizationId) :
    Isolated T s (s.registerDevice v).1 ↔ (v.deviceId ≠ "" → v.organizationId ≠ "" →
      ¬ HeldByOther T DeviceRegistryRecord.organizationId s.devices v.deviceId) := by
  unfold registerDevice
  split_ifs with hnone
  · refine iff_of_true (Isolated.refl T s) fun hid howner => ?_
    exact absurd hnone (not_or.mpr ⟨hid, howner⟩)
  · rw [isolated_eventLocked]
    rw [not_or] at hnone
    simp only [isolated_iff, keeps_refl, keepsAt_refl, and_true, true_and, ne_eq, hnone.1, hnone.2, not_false_eq_true,
      forall_const]
    exact keeps_owner hv

/-- A heartbeat changes the record of its own device alone. -/
theorem isolated_heartbeat {d : DeviceRegistryRecord} {hb : HeartbeatMessage} (hget : s.device hb.deviceId = some d)
    (hd : ¬ Foreign T d.organizationId) : Isolated T s (s.receiveHeartbeat hb).1 := by
  have hbase : ∀ (d' : DeviceRegistryRecord) (sum : ℚ) (count : Int32), d'.organizationId = d.organizationId →
      Isolated T s { s with devices := s.devices.insert hb.deviceId d', heartbeatLatencySum := sum
                            heartbeatCount := count } := by
    intro d' sum count howner
    simp only [isolated_iff, keeps_refl, keepsAt_refl, and_true, true_and]
    refine (keeps_owner (by rwa [howner])).mpr ?_
    rintro ⟨w, hw, hforeign⟩
    obtain rfl := Option.some.inj (hw.symm.trans hget)
    exact hd hforeign
  unfold receiveHeartbeat
  rw [device] at hget
  simp only [hget]
  split_ifs
  · exact isolated_eventLocked.mpr (hbase _ _ _ rfl)
  · exact isolated_eventLocked.mpr (isolated_eventLocked.mpr (hbase _ _ _ rfl))

theorem isolated_commands {commands : Dict String RemoteCommand} {acknowledgedCommands : List String} :
    Isolated T s { s with commands, acknowledgedCommands } ↔
      Keeps (fun v => Foreign T v.organizationId) s.commands commands := by
  simp only [isolated_iff, keeps_refl, keepsAt_refl, and_true, true_and]

theorem isolated_command {organizationId deviceId type : String} {now ttlSeconds : Int} {maxRetries : Int32}
    (hv : ¬ Foreign T organizationId) :
    Isolated T s (s.createCommand organizationId deviceId type now ttlSeconds maxRetries).1 ↔
      ¬ HeldByOther T RemoteCommand.organizationId s.commands (idFor "cmd" s.commands.entries.length) := by
  unfold createCommand
  split_ifs
  · exact isolated_eventLocked.trans (isolated_commands.trans (keeps_owner hv))
  · exact isolated_eventLocked.trans (isolated_commands.trans (keeps_owner hv))

theorem isolated_ackCommand {deviceId commandId : String} {now : Int} :
    Isolated T s (s.acknowledgeCommand deviceId commandId now).1 ↔
      ∀ cmd, s.commands.lookup commandId = some cmd → Foreign T cmd.organizationId → cmd.deviceId = deviceId →
        commandId ∉ s.acknowledgedCommands → cmd.status = "acknowledged" ∧ cmd.acknowledgedAt = epochString now := by
  unfold acknowledgeCommand
  cases hget : s.commands.lookup commandId with
  | none => exact iff_of_true (Isolated.refl T s) (by simp)
  | some cmd =>
    by_cases hdevice : cmd.deviceId = deviceId
    swap
    · simp only [ne_eq, hdevice, not_false_eq_true, if_true]
      refine iff_of_true (Isolated.refl T s) fun cmd' hcmd' _ hdev => ?_
      obtain rfl := Option.some.inj hcmd'
      exact absurd hdev hdevice
    · by_cases hack : commandId ∈ s.acknowledgedCommands
      · simp only [ne_eq, hdevice, not_true_eq_false, if_false, hack, if_true]
        exact iff_of_true (Isolated.refl T s) fun _ _ _ _ h => h.elim
      · simp only [ne_eq, hdevice, not_true_eq_false, if_false, hack]
        rw [isolated_eventLocked, isolated_commands, keeps_insert, hget]
        refine ⟨fun h cmd' hcmd' hf _ _ => ?_, fun h cmd' hcmd' hf => ?_⟩
        · have heq := h cmd' hcmd' hf
          rw [heq]
          exact ⟨rfl, rfl⟩
        · obtain rfl := Option.some.inj hcmd'
          obtain ⟨hstatus, hat⟩ := h cmd rfl hf hdevice not_false
          rw [← hstatus, ← hat, ← hdevice]

/-- Only an alert of the tenant itself is acknowledged. -/
theorem isolated_ackAlert {alertId : String} {now : Int} : Isolated T s (s.acknowledgeAlert T alertId now).1 := by
  unfold acknowledgeAlert
  cases hfind : s.alerts.findIdx? (alertOpen T alertId) with
  | none => exact Isolated.refl T s
  | some i =>
    rw [isolated_eventLocked]
    simp only [isolated_iff, keeps_refl, true_and]
    intro j a hget hforeign
    rw [List.getElem?_modify]
    split_ifs with hij
    · obtain ⟨hlt, hopen, -⟩ := List.findIdx?_eq_some_iff_getElem.mp hfind
      subst hij
      rw [List.getElem?_eq_getElem hlt] at hget
      obtain rfl := Option.some.inj hget
      simp only [alertOpen, Bool.and_eq_true, decide_eq_true_eq] at hopen
      exact absurd hopen.1.2 hforeign.2
    · simpa using hget

end

/-- A request made for `T` leaves every record of another organization as it is if and only if it is refused access or
names none of them. -/
theorem isolated_iff_safe (T : String) (s : FleetControlPlane) (req : Request) (hT : T ≠ "")
    (horg : req.orgHeader = T) : Isolated T s (handle s req).1 ↔ (req.access = true → Safe T s req) := by
  cases haccess : req.access with
  | false =>
    refine iff_of_true ?_ (by simp)
    simp only [handle, haccess, Bool.not_false, if_true]
    exact Isolated.refl T s
  | true =>
    have howner : ∀ {owner}, allowedTenant req owner = true → ¬ Foreign T owner := not_foreign hT horg
    have htenant : tenantOrg req = T := by
      rw [tenantOrg, horg, if_neg hT]
    rw [forall_prop_of_true rfl]
    unfold handle Safe
    simp only [haccess, Bool.not_true, Bool.false_eq_true, if_false]
    cases req.route with
    | postOrganization => exact postRecord_iff fun v hv => isolated_organization (howner hv)
    | postMerchant => exact postRecord_iff fun v hv => isolated_merchant (howner hv)
    | postBranch => exact postRecord_iff fun v hv => isolated_branch (howner hv)
    | postRegion => exact postRecord_iff fun v hv => isolated_region (howner hv)
    | postDevice => exact postRecord_iff fun v hv => isolated_device (howner hv)
    | postHeartbeat deviceId =>
      refine iff_of_true ?_ trivial
      simp only [postHeartbeat]
      cases req.body >>= HeartbeatMessage.fromJson with
      | error e => exact Isolated.refl T s
      | ok hb =>
        cases hget : s.device deviceId with
        | none => exact Isolated.refl T s
        | some d =>
          dsimp only
          split_ifs with hallow
          · exact isolated_heartbeat hget (howner hallow)
          · exact Isolated.refl T s
    | postCommand deviceId =>
      simp only [postCommand]
      cases hbody : req.body with
      | error e => exact iff_of_true (Isolated.refl T s) (by simp)
      | ok j =>
        cases hget : s.device deviceId with
        | none => exact iff_of_true (Isolated.refl T s) (by simp)
        | some d =>
          cases hallow : allowedTenant req d.organizationId with
          | false =>
            simp only [hallow, Bool.false_eq_true, if_false]
            refine iff_of_true (Isolated.refl T s) fun j' d' _ _ hd' hallow' => ?_
            obtain rfl := Option.some.inj hd'
            rw [hallow] at hallow'
            cases hallow'
          | true =>
            simp only [hallow, if_true]
            cases hread : readCommand j with
            | error e =>
              refine iff_of_true (Isolated.refl T s) fun j' d' args hj' _ _ hread' => ?_
              obtain rfl := Except.ok.inj hj'
              rw [hread] at hread'
              cases hread'
            | ok args =>
              dsimp only
              rw [isolated_command (howner hallow)]
              refine ⟨fun h _ _ _ _ _ _ _ => h, fun h => h j d args rfl rfl hallow hread⟩
    | ackCommand commandId =>
      simp only [ackCommand]
      cases hread : req.body >>= readAck with
      | error e => exact iff_of_true (Isolated.refl T s) (by simp)
      | ok args =>
        obtain ⟨deviceId, now⟩ := args
        dsimp only
        rw [isolated_ackCommand]
        refine ⟨fun h deviceId' now' cmd hargs => ?_, fun h cmd => h deviceId now cmd rfl⟩
        obtain ⟨rfl, rfl⟩ := Prod.mk.inj (Except.ok.inj hargs)
        exact h cmd
    | ackAlert alertId =>
      refine iff_of_true ?_ trivial
      simp only [ackAlert, htenant]
      exact isolated_ackAlert
    | get => exact iff_of_true (Isolated.refl T s) trivial

/-- A request of `org-b` for the device `dev-1`. -/
def takeover (headers : String) : Request where
  route := .postDevice
  orgHeader := headers
  body := .ok (DeviceRegistryRecord.toJson { deviceId := "dev-1", organizationId := headers })

/-- A control plane with one device. -/
def oneDevice (organizationId : String) : FleetControlPlane :=
  (({} : FleetControlPlane).registerDevice { deviceId := "dev-1", organizationId }).1

theorem isolated_own_device :
    Isolated "org-b" (oneDevice "org-b") (handle (oneDevice "org-b") (takeover "org-b")).1 := by
  rw [isolated_iff_safe "org-b" (oneDevice "org-b") (takeover "org-b") (by decide) rfl]
  intro _
  have hnone : ∀ id w, (oneDevice "org-b").devices.lookup id = some w → ¬ Foreign "org-b" w.organizationId := by
    intro id w hw
    rw [show (oneDevice "org-b").devices = AList.insert "dev-1" { deviceId := "dev-1", organizationId := "org-b" } ∅
      from rfl, Dict.lookup_insert_if] at hw
    split_ifs at hw
    · obtain rfl := Option.some.inj hw
      decide
    · simp at hw
  rintro v - - - - ⟨w, hw, hforeign⟩
  exact hnone _ w hw hforeign

/-- `org-b` registers the device of `org-a` for itself. -/
theorem device_taken_over :
    ¬ Isolated "org-b" (oneDevice "org-a") (handle (oneDevice "org-a") (takeover "org-b")).1 := by
  intro h
  have hkept := h.devices "dev-1" { deviceId := "dev-1", organizationId := "org-a" } (by decide +kernel) (by decide)
  revert hkept
  decide +kernel

end Drawer.FleetControl
