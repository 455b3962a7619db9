import Drawer.Spec.Lifecycle

/-! What a request does to one device and its stored heartbeat. `Turn` says it
once, for every request; the laws about devices are case analyses over it. -/

namespace Drawer.FleetOps
open FleetOperationsService

variable {ω : Type} {env : Env ω} {s s' : FleetOperationsService ω}

/-! ### Parts of the registry that helpers leave alone -/

@[simp] theorem appendEventLocked_devices (t d e : String) (n : Int) (p : Json String) :
    (s.appendEventLocked env t d e n p).devices = s.devices := rfl

@[simp] theorem appendEventLocked_heartbeats (t d e : String) (n : Int) (p : Json String) :
    (s.appendEventLocked env t d e n p).heartbeats = s.heartbeats := rfl

@[simp] theorem appendEventLocked_commands (t d e : String) (n : Int) (p : Json String) :
    (s.appendEventLocked env t d e n p).commands = s.commands := rfl

@[simp] theorem emitEvidenceLocked_devices (d : FleetDevice) (e : String) (n : Int) (p : Json String) :
    (s.emitEvidenceLocked env d e n p).devices = s.devices := by
  unfold emitEvidenceLocked
  split <;> rfl

@[simp] theorem emitEvidenceLocked_heartbeats (d : FleetDevice) (e : String) (n : Int) (p : Json String) :
    (s.emitEvidenceLocked env d e n p).heartbeats = s.heartbeats := by
  unfold emitEvidenceLocked
  split <;> rfl

@[simp] theorem emitEvidenceLocked_commands (d : FleetDevice) (e : String) (n : Int) (p : Json String) :
    (s.emitEvidenceLocked env d e n p).commands = s.commands := by
  unfold emitEvidenceLocked
  split <;> rfl

@[simp] theorem quarantineLocked_heartbeats (key : String) (d : FleetDevice) (r : String) (n : Int) :
    (s.quarantineLocked env key d r n).heartbeats = s.heartbeats := by
  unfold quarantineLocked
  split <;> simp

@[simp] theorem quarantineLocked_commands (key : String) (d : FleetDevice) (r : String) (n : Int) :
    (s.quarantineLocked env key d r n).commands = s.commands := by
  unfold quarantineLocked
  split <;> simp

/-- The device as a quarantine leaves it. -/
def quarantinedAs (d : FleetDevice) (reason : String) : FleetDevice :=
  { d with lifecycleState := "quarantined", quarantineReason := reason }

theorem quarantineLocked_devices (key : String) (d : FleetDevice) (r : String) (n : Int) :
    (s.quarantineLocked env key d r n).devices =
      if d.retired then s.devices else s.devices.insert key (quarantinedAs d r) := by
  unfold quarantineLocked
  split <;> simp [quarantinedAs]

/-- Two states of the registry with the same devices and heartbeats. -/
def SameView (s s' : FleetOperationsService ω) : Prop := s'.devices = s.devices ∧ s'.heartbeats = s.heartbeats

theorem SameView.trans {s'' : FleetOperationsService ω} (h : SameView s s') (h' : SameView s' s'') : SameView s s'' :=
  ⟨h'.1.trans h.1, h'.2.trans h.2⟩

/-- Two states of the registry with the same records and the same attached services. -/
structure SameRecords (s s' : FleetOperationsService ω) : Prop where
  devices : s'.devices = s.devices
  heartbeats : s'.heartbeats = s.heartbeats
  commands : s'.commands = s.commands
  fleets : s'.fleets = s.fleets
  locations : s'.locations = s.locations
  groups : s'.groups = s.groups
  assignments : s'.assignments = s.assignments
  world : s'.world = s.world

theorem SameRecords.refl (s : FleetOperationsService ω) : SameRecords s s := ⟨rfl, rfl, rfl, rfl, rfl, rfl, rfl, rfl⟩

theorem SameRecords.trans {s'' : FleetOperationsService ω} (h : SameRecords s s') (h' : SameRecords s' s'') :
    SameRecords s s'' where
  devices := h'.devices.trans h.devices
  heartbeats := h'.heartbeats.trans h.heartbeats
  commands := h'.commands.trans h.commands
  fleets := h'.fleets.trans h.fleets
  locations := h'.locations.trans h.locations
  groups := h'.groups.trans h.groups
  assignments := h'.assignments.trans h.assignments
  world := h'.world.trans h.world

theorem SameRecords.view (h : SameRecords s s') : SameView s s' := ⟨h.devices, h.heartbeats⟩

theorem sameRecords_appendEventLocked (t d e : String) (n : Int) (p : Json String) :
    SameRecords s (s.appendEventLocked env t d e n p) := ⟨rfl, rfl, rfl, rfl, rfl, rfl, rfl, rfl⟩

theorem sameRecords_recordRiskChangeLocked (risk : FleetRisk) (now : Int) :
    SameRecords s (s.recordRiskChangeLocked env risk now) := by
  simp only [recordRiskChangeLocked]
  split_ifs <;> exact ⟨rfl, rfl, rfl, rfl, rfl, rfl, rfl, rfl⟩

/-! ### The turns -/

/-- The entries of the registry for one device. -/
def view (s : FleetOperationsService ω) (k : String) : Option FleetDevice × Option FleetHeartbeat :=
  (s.devices.lookup k, s.heartbeats.lookup k)

/-- What the request `op` may do to the device `k` and its heartbeat. -/
inductive Turn (op : Op ω) (k : String) :
    Option FleetDevice × Option FleetHeartbeat → Option FleetDevice × Option FleetHeartbeat → Prop
  | same (v : Option FleetDevice × Option FleetHeartbeat) : Turn op k v v
  | enrolled (hb : Option FleetHeartbeat) (d : FleetDevice) (hid : d.deviceId = k)
      (hstate : d.lifecycleState = "provisioned" ∨ d.lifecycleState = "active")
      (hoff : d.connectivityStatus = "offline") : Turn op k (none, hb) (some d, hb)
  | patched (hb : Option FleetHeartbeat) (d : FleetDevice) (tenantId : String) (patch : Json String) (now : Int)
      (hop : op = .updateDevice tenantId k patch now) (htenant : d.tenantId = tenantId) (hret : d.retired = false)
      (next location branch group fleet : String) (labels : Labels)
      (hnext : patch.value "lifecycle_state" Json.getStr d.lifecycleState = .ok next)
      (hvalid : validTransition d.lifecycleState next false = true) (hloc : locationMissing patch = .ok false) :
      Turn op k (some d, hb) (some { d with
        lifecycleState := next, locationId := location, branchId := branch, groupId := group, fleetId := fleet
        labels := labels }, hb)
  | retired (hb : Option FleetHeartbeat) (d : FleetDevice) :
      Turn op k (some d, hb) (some { d with
        lifecycleState := "retired", retired := true, connectivityStatus := "offline" }, hb)
  | quarantined (hb : Option FleetHeartbeat) (d : FleetDevice) (reason : String) (hret : d.retired = false) :
      Turn op k (some d, hb) (some (quarantinedAs d reason), hb)
  | heard (hb : Option FleetHeartbeat) (d : FleetDevice) (new : FleetHeartbeat) (firmware driver : String) :
      Turn op k (some d, hb) (some { d with
        firmwareVersion := firmware, driverVersion := driver, connectivityStatus := new.connectivityStatus
        lastHeartbeatEpoch := new.timestamp, lastHeartbeatAt := epochString new.timestamp }, some new)
  | recovered (hb : Option FleetHeartbeat) (d : FleetDevice) (tenantId : String) (now : Int)
      (hop : op = .recover tenantId k now) (hstate : d.lifecycleState = "quarantined") :
      Turn op k (some d, hb) (some { d with lifecycleState := "active", quarantineReason := "" }, hb)

/-- Every device is kept under its own id. -/
def Keyed (s : FleetOperationsService ω) : Prop := ∀ k d, s.devices.lookup k = some d → d.deviceId = k

variable {op : Op ω}

/-- The request makes a turn of every device. -/
def Turns (op : Op ω) (s s' : FleetOperationsService ω) : Prop := ∀ k, Turn op k (view s k) (view s' k)

theorem Turns.refl (s : FleetOperationsService ω) : Turns op s s := fun _ => Turn.same _

theorem SameView.view_eq (h : SameView s s') (k : String) : view s' k = view s k := by rw [view, h.1, h.2, view]

theorem SameView.turns (h : SameView s s') : Turns op s s' := by
  intro k
  rw [h.view_eq k]
  exact Turn.same _

theorem Turns.left {s₀ : FleetOperationsService ω} (ht : Turns op s s') (h : SameView s₀ s) : Turns op s₀ s' := by
  intro k
  rw [← h.view_eq k]
  exact ht k

theorem Turns.right {s'' : FleetOperationsService ω} (ht : Turns op s s') (h : SameView s' s'') : Turns op s s'' := by
  intro k
  rw [h.view_eq k]
  exact ht k

theorem view_of_lookup {k : String} {d : FleetDevice} (hd : s.devices.lookup k = some d) :
    view s k = (some d, s.heartbeats.lookup k) := by rw [view, hd]

/-- A request that writes one device makes a turn if it does so for that device. -/
theorem turns_of_insert {key : String} {d' : FleetDevice}
    (hturn : Turn op key (view s key) (some d', s.heartbeats.lookup key))
    (hdev : s'.devices = s.devices.insert key d') (hhb : s'.heartbeats = s.heartbeats) : Turns op s s' := by
  intro k
  by_cases hk : k = key
  · subst hk
    have heq : view s' k = (some d', s.heartbeats.lookup k) := by
      rw [view, hdev, hhb, Dict.lookup_insert_if, if_pos rfl]
    rw [heq]
    exact hturn
  · have heq : view s' k = view s k := by rw [view, hdev, hhb, Dict.lookup_insert_if, if_neg hk, view]
    rw [heq]
    exact Turn.same _

theorem turns_quarantineLocked {key : String} {d : FleetDevice} (hd : s.devices.lookup key = some d)
    (reason : String) (now : Int) : Turns op s (s.quarantineLocked env key d reason now) := by
  by_cases hret : d.retired = true
  · refine SameView.turns ⟨?_, quarantineLocked_heartbeats ..⟩
    rw [quarantineLocked_devices, if_pos hret]
  · have hturn : Turn op key (view s key) (some (quarantinedAs d reason), s.heartbeats.lookup key) := by
      rw [view_of_lookup hd]
      exact Turn.quarantined _ _ _ (by simpa using hret)
    refine turns_of_insert hturn ?_ (quarantineLocked_heartbeats ..)
    rw [quarantineLocked_devices, if_neg hret]

/-! ### Each request -/

theorem registerEdge_spec {w w' : ω} {d d' : FleetDevice} (h : registerEdge env w d = (w', some d')) :
    ∃ capabilities driver, d' = { d with capabilities := capabilities, driverId := driver } := by
  unfold registerEdge at h
  split at h
  · exact ⟨_, _, (Option.some.inj (Prod.mk.inj h).2).symm⟩
  · dsimp only at h
    split_ifs at h
    all_goals (try split at h) <;> first
      | exact ⟨_, _, (Option.some.inj (Prod.mk.inj h).2).symm⟩
      | simp at h

theorem turns_enroll (d : FleetDevice) (actor : String) (now : Int) : Turns op s (s.enroll env d actor now).1 := by
  unfold enroll
  split_ifs with h1 h2 h3
  · exact Turns.refl s
  · exact Turns.refl s
  · exact Turns.refl s
  · split
    · exact SameView.turns ⟨rfl, rfl⟩
    · rename_i w d' hreg
      obtain ⟨caps, driver, rfl⟩ := registerEdge_spec hreg
      dsimp only
      split_ifs with h4
      · exact SameView.turns ⟨rfl, rfl⟩
      · have hnone : s.devices.lookup d.deviceId = none := by simpa using h3
        have hstate : d.lifecycleState = "provisioned" ∨ d.lifecycleState = "active" := by
          simpa [Classical.or_iff_not_imp_left] using h2
        have hturn : Turn op d.deviceId (view s d.deviceId) (some { d with
            capabilities := caps, driverId := driver, connectivityStatus := "offline" },
            s.heartbeats.lookup d.deviceId) := by
          rw [view, hnone]
          exact Turn.enrolled _ _ rfl hstate rfl
        exact turns_of_insert hturn (by simp [insertDevice]) (by simp [insertDevice])

/-- `P` holds of the device as it is left, whether or not a read raised. -/
def Leaves (P : FleetDevice → Prop) : Except (FleetDevice × Exn) FleetDevice → Prop
  | .ok d => P d
  | .error (d, _) => P d

theorem leaves_assign {α : Type} {P : FleetDevice → Prop} {d : FleetDevice} (hd : P d) (read : Except Exn α)
    {set : α → FleetDevice} (hset : ∀ v, P (set v)) : Leaves P (assign d read set) := by
  cases read with
  | ok v => exact hset v
  | error e => exact hd

theorem Leaves.bind {P : FleetDevice → Prop} {r : Except (FleetDevice × Exn) FleetDevice}
    {f : FleetDevice → Except (FleetDevice × Exn) FleetDevice} (hr : Leaves P r) (hf : ∀ d, P d → Leaves P (f d)) :
    Leaves P (r >>= f) := by
  cases r with
  | ok d => exact hf d hr
  | error e => exact hr

/-- The fields that `patchFields` may change. -/
def PatchOf (d d' : FleetDevice) : Prop :=
  ∃ location branch group fleet labels, d' = { d with
    locationId := location, branchId := branch, groupId := group, fleetId := fleet, labels := labels }

theorem leaves_patchFields (patch : Json String) (d : FleetDevice) : Leaves (PatchOf d) (patchFields patch d) := by
  have hd : PatchOf d d := ⟨_, _, _, _, _, rfl⟩
  have hstep : ∀ {e : FleetDevice}, PatchOf d e → ∀ {α : Type} (read : Except Exn α) (set : α → FleetDevice),
      (∀ v, PatchOf e (set v)) → Leaves (PatchOf d) (assign e read set) := by
    intro e he α read set hset
    refine leaves_assign he read fun v => ?_
    obtain ⟨_, _, _, _, _, rfl⟩ := he
    obtain ⟨_, _, _, _, _, hv⟩ := hset v
    exact ⟨_, _, _, _, _, hv⟩
  unfold patchFields
  refine (hstep hd _ _ fun v => ⟨_, _, _, _, _, rfl⟩).bind fun d₁ h₁ => ?_
  refine (hstep h₁ _ _ fun v => ⟨_, _, _, _, _, rfl⟩).bind fun d₂ h₂ => ?_
  refine (hstep h₂ _ _ fun v => ⟨_, _, _, _, _, rfl⟩).bind fun d₃ h₃ => ?_
  refine (hstep h₃ _ _ fun v => ⟨_, _, _, _, _, rfl⟩).bind fun d₄ h₄ => ?_
  exact hstep h₄ _ _ fun v => ⟨_, _, _, _, _, rfl⟩

theorem turns_updateDevice {tenant key : String} {patch : Json String} {now : Int}
    (hop : op = .updateDevice tenant key patch now) : Turns op s (s.updateDevice env tenant key patch now).1 := by
  unfold updateDevice
  split
  · exact Turns.refl s
  · rename_i d hd
    split_ifs with h1 h2
    · exact Turns.refl s
    · exact Turns.refl s
    · split
      · exact Turns.refl s
      · rename_i next hnext
        split_ifs with h3
        · exact Turns.refl s
        · split
          · exact Turns.refl s
          · exact Turns.refl s
          · rename_i hloc
            have hleaves := leaves_patchFields patch { d with lifecycleState := next }
            have hturn : ∀ d', PatchOf { d with lifecycleState := next } d' →
                Turn op key (view s key) (some d', s.heartbeats.lookup key) := by
              intro d' hd'
              obtain ⟨_, _, _, _, _, rfl⟩ := hd'
              rw [view_of_lookup hd]
              exact Turn.patched _ d tenant patch now hop (by simpa using h1) (by simpa using h2) next _ _ _ _ _ hnext
                (by simpa using h3) hloc
            split
            · rename_i d' e hp
              rw [hp] at hleaves
              exact turns_of_insert (hturn d' hleaves) rfl rfl
            · rename_i d' hp
              rw [hp] at hleaves
              refine turns_of_insert (hturn d' hleaves) ?_ ?_
              · simp only [finishUpdate]
                split_ifs <;> rfl
              · simp only [finishUpdate]
                split_ifs <;> rfl

theorem turns_retireDevice (tenant key : String) (now : Int) : Turns op s (s.retireDevice env tenant key now).1 := by
  unfold retireDevice
  split
  · exact Turns.refl s
  · rename_i d hd
    split_ifs with h1 h2
    · exact Turns.refl s
    · exact Turns.refl s
    · have hturn : Turn op key (view s key) (some { d with
          lifecycleState := "retired", retired := true, connectivityStatus := "offline" }, s.heartbeats.lookup key) := by
        rw [view_of_lookup hd]
        exact Turn.retired _ _
      exact turns_of_insert hturn (by simp) (by simp)

/-- An accepted heartbeat is stored under the device's id. -/
theorem turns_of_heard {key : String} {d d' : FleetDevice} {hb : FleetHeartbeat} (hkey : Keyed s)
    (hd : s.devices.lookup key = some d) (hturn : Turn op key (some d, s.heartbeats.lookup key) (some d', some hb))
    (hdev : s'.devices = s.devices.insert key d') (hhb : s'.heartbeats = s.heartbeats.insert d.deviceId hb) :
    Turns op s s' := by
  intro k
  rw [hkey key d hd] at hhb
  by_cases hk : k = key
  · subst hk
    have heq : view s' k = (some d', some hb) := by
      rw [view, hdev, hhb, Dict.lookup_insert_if, Dict.lookup_insert_if, if_pos rfl, if_pos rfl]
    rw [heq, view_of_lookup hd]
    exact hturn
  · have heq : view s' k = view s k := by
      rw [view, hdev, hhb, Dict.lookup_insert_if, Dict.lookup_insert_if, if_neg hk, if_neg hk, view]
    rw [heq]
    exact Turn.same _

theorem turns_receiveHeartbeat (hkey : Keyed s) (hb : FleetHeartbeat) (now : Int) :
    Turns op s (s.receiveHeartbeat env hb now).1 := by
  unfold receiveHeartbeat
  split
  · exact Turns.refl s
  · rename_i d hd
    split_ifs with h1 h2 h3 h4 h5 h6 h7
    · exact turns_quarantineLocked hd _ _
    · exact Turns.refl s
    · exact turns_quarantineLocked hd _ _
    · exact turns_of_heard hkey hd (Turn.heard _ _ hb d.firmwareVersion d.driverVersion) rfl rfl
    · exact turns_quarantineLocked hd _ _
    · exact turns_quarantineLocked hd _ _
    · exact turns_quarantineLocked hd _ _
    · split
      · exact Turns.refl s
      · exact turns_quarantineLocked hd _ _
      · exact turns_of_heard hkey hd (Turn.heard _ _ hb hb.firmwareVersion hb.driverVersion) (by simp) (by simp)

theorem failCommand_same (c : FleetCommand) (reason : String) (denied : Bool) (now : Int) :
    SameView s (s.failCommand env c reason denied now).1 := ⟨rfl, rfl⟩

theorem dispatch_same (d : FleetDevice) (c : FleetCommand) (now : Int) : SameView s (s.dispatch env d c now).1 := by
  simp [SameView, dispatch]

theorem turns_checkPolicy {c : FleetCommand} {d : FleetDevice} (hd : s.devices.lookup c.deviceId = some d)
    (now : Int) : Turns op s (s.checkPolicy env d c now).1 := by
  simp only [checkPolicy]
  split_ifs
  · -- a command that the policy denies quarantines its device
    refine Turns.right ?_ (failCommand_same ..)
    refine Turns.left (turns_quarantineLocked ?_ _ _) ⟨rfl, rfl⟩
    exact hd
  · exact SameView.turns ⟨rfl, rfl⟩
  · exact Turns.left (dispatch_same ..).turns ⟨rfl, rfl⟩

theorem turns_checkDevice (c : FleetCommand) (now : Int) : Turns op s (s.checkDevice env c now).1 := by
  unfold checkDevice
  split
  · exact (failCommand_same ..).turns
  · rename_i d hd
    split
    · exact (failCommand_same ..).turns
    · simp only [checkCapability]
      split
      · exact (failCommand_same ..).turns
      · refine turns_checkPolicy ?_ now
        exact hd

theorem turns_createCommand (c : FleetCommand) (now : Int) : Turns op s (s.createCommand env c now).1 := by
  simp only [createCommand]
  split
  · exact SameView.turns ⟨rfl, rfl⟩
  · exact Turns.left (turns_checkDevice _ now) ⟨rfl, rfl⟩

theorem cancelCommand_same (tenant id : String) (now : Int) : SameView s (s.cancelCommand env tenant id now).1 := by
  unfold cancelCommand
  split
  · exact ⟨rfl, rfl⟩
  · split_ifs <;> exact ⟨rfl, rfl⟩

theorem acknowledgeCommand_same (tenant id : String) (now : Int) :
    SameView s (s.acknowledgeCommand env tenant id now).1 := by
  unfold acknowledgeCommand
  split
  · exact ⟨rfl, rfl⟩
  · split_ifs <;> exact ⟨rfl, rfl⟩

theorem expireCommands_same (now : Int) : SameView s (s.expireCommands env now).1 := by
  unfold expireCommands
  generalize s.commands.keys = keys
  have hrun : ∀ p : FleetOperationsService ω × ℕ, SameView s p.1 → SameView s (keys.foldl (expireOne env now) p).1 := by
    induction keys with
    | nil => exact fun p hp => hp
    | cons key keys ih =>
      intro p hp
      refine ih _ ?_
      unfold expireOne
      split
      · exact hp
      · split_ifs
        · exact hp.trans ⟨rfl, rfl⟩
        · exact hp
  exact hrun (s, 0) ⟨rfl, rfl⟩

/-- The registry is as before, but for a quarantine of the device `d` under `key`. -/
def MayQuarantine (key : String) (d : FleetDevice) (s s' : FleetOperationsService ω) : Prop :=
  s'.heartbeats = s.heartbeats ∧ (s'.devices = s.devices ∨
    d.retired = false ∧ ∃ reason, s'.devices = s.devices.insert key (quarantinedAs d reason))

theorem MayQuarantine.turns {key : String} {d : FleetDevice} (h : MayQuarantine key d s s')
    (hd : s.devices.lookup key = some d) : Turns op s s' := by
  obtain ⟨hhb, hdev | ⟨hret, reason, hdev⟩⟩ := h
  · exact SameView.turns ⟨hdev, hhb⟩
  · refine turns_of_insert ?_ hdev hhb
    rw [view_of_lookup hd]
    exact Turn.quarantined _ _ _ hret

theorem mayQuarantine_quarantineIf {key : String} {d : FleetDevice} (hd : s.devices.lookup key = some d) (c : Bool)
    (reason : String) (now : Int) : MayQuarantine key d s (s.quarantineIf env c key reason now) := by
  unfold quarantineIf
  rw [hd]
  dsimp only
  split_ifs with hc
  · refine ⟨quarantineLocked_heartbeats .., ?_⟩
    rw [quarantineLocked_devices]
    split_ifs with hret
    · exact Or.inl rfl
    · exact Or.inr ⟨by simpa using hret, reason, rfl⟩
  · exact ⟨rfl, Or.inl rfl⟩

/-- Of two quarantines of one device the second is left. -/
theorem mayQuarantine_afterFailure {key : String} {d : FleetDevice} (hd : s.devices.lookup key = some d)
    (result : String) (now : Int) : MayQuarantine key d s (s.afterFailure env key result now) := by
  simp only [afterFailure]
  generalize hs₁ : s.quarantineIf env _ key "suspicious_command_result" now = s₁
  generalize decide (s₁.countCommands key ["failed"] ≥ 3) = c
  obtain ⟨hhb, hdev | ⟨hret, reason, hdev⟩⟩ := hs₁ ▸ mayQuarantine_quarantineIf hd _ _ now
  · have h : MayQuarantine key d s₁ (s₁.quarantineIf env c key "repeated_command_failures" now) :=
      mayQuarantine_quarantineIf (hdev ▸ hd) _ _ _
    rwa [MayQuarantine, hhb, hdev] at h
  · have hd₁ : s₁.devices.lookup key = some (quarantinedAs d reason) := by rw [hdev, AList.lookup_insert]
    have h : MayQuarantine key (quarantinedAs d reason) s₁
        (s₁.quarantineIf env c key "repeated_command_failures" now) := mayQuarantine_quarantineIf hd₁ _ _ _
    obtain ⟨hhb', hdev' | ⟨-, reason', hdev'⟩⟩ := h
    · exact ⟨hhb'.trans hhb, Or.inr ⟨hret, reason, hdev'.trans hdev⟩⟩
    · refine ⟨hhb'.trans hhb, Or.inr ⟨hret, reason', ?_⟩⟩
      rw [hdev', hdev, AList.insert_insert]
      rfl

theorem turns_afterReport (c : FleetCommand) (success : Bool) (result : String) (now : Int) :
    Turns op s (s.afterReport env c success result now) := by
  unfold afterReport
  split
  · exact Turns.refl s
  · rename_i d hd
    dsimp only
    have hsame : SameView s (s.emitEvidenceLocked env d (reportEvent success) now c.toJson) := ⟨by simp, by simp⟩
    split_ifs
    · exact hsame.turns
    · rw [← hsame.1] at hd
      exact ((mayQuarantine_afterFailure hd result now).turns hd).left hsame

theorem turns_completeCommand (tenant id : String) (success : Bool) (result : String) (now : Int) :
    Turns op s (s.completeCommand env tenant id success result now).1 := by
  unfold completeCommand
  split
  · exact Turns.refl s
  · split_ifs
    · exact Turns.refl s
    · exact Turns.refl s
    · exact Turns.left (turns_afterReport _ success result now) ⟨rfl, rfl⟩

theorem sameRecords_deviceRisk (tenant deviceId : String) (now : Int) :
    SameRecords s (s.deviceRisk env tenant deviceId now).1 := by
  unfold deviceRisk
  dsimp only
  split
  · exact SameRecords.refl s
  · split_ifs
    · exact SameRecords.refl s
    · split
      · exact SameRecords.refl s
      · exact sameRecords_recordRiskChangeLocked ..

theorem sameRecords_fleetRisk (tenant : String) (now : Int) : SameRecords s (s.fleetRisk env tenant now).1 := by
  simp only [fleetRisk]
  generalize s.devices.entries.map Sigma.snd = devices
  have hrun : ∀ p : FleetOperationsService ω × Except Exn (List FleetRisk),
      SameRecords p.1 (devices.foldl (fleetRiskOne env tenant now) p).1 := by
    induction devices with
    | nil => exact fun p => SameRecords.refl p.1
    | cons d devices ih =>
      intro p
      refine SameRecords.trans ?_ (ih _)
      unfold fleetRiskOne
      split
      · exact SameRecords.refl p.1
      · split_ifs
        · exact SameRecords.refl p.1
        · split
          · exact SameRecords.refl p.1
          · exact sameRecords_recordRiskChangeLocked ..
  exact hrun (s, .ok [])

theorem sameRecords_locationRisk (tenant location : String) (now : Int) :
    SameRecords s (s.locationRisk env tenant location now).1 := by
  simp only [locationRisk]
  split
  · exact SameRecords.refl s
  · exact sameRecords_recordRiskChangeLocked ..

theorem turns_quarantine (tenant key reason : String) (now : Int) :
    Turns op s (s.quarantine env tenant key reason now).1 := by
  unfold quarantine
  split
  · exact Turns.refl s
  · rename_i d hd
    split
    · exact Turns.refl s
    · exact turns_quarantineLocked hd _ _

theorem turns_recover {tenant key : String} {now : Int} (hop : op = .recover tenant key now) :
    Turns op s (s.recover env tenant key now).1 := by
  unfold recover
  split
  · exact Turns.refl s
  · rename_i d hd
    split_ifs with h1 h2 h3
    · exact Turns.refl s
    · exact Turns.refl s
    · exact Turns.refl s
    · split
      · exact Turns.refl s
      · exact Turns.refl s
      · split
        · exact Turns.refl s
        · dsimp only
          split_ifs
          · exact Turns.refl s
          · exact SameView.turns ⟨rfl, rfl⟩
          · have hturn : Turn op key (view s key) (some { d with lifecycleState := "active", quarantineReason := "" },
                s.heartbeats.lookup key) := by
              rw [view_of_lookup hd]
              exact Turn.recovered _ _ tenant now hop (by simp at h2; exact h2.1)
            exact turns_of_insert hturn (by simp) (by simp)

/-- Every request makes a turn of every device. -/
theorem turns_apply (hkey : Keyed s) (op : Op ω) : Turns op s (apply env s op) := by
  cases op with
  | enroll d actor now => exact turns_enroll d actor now
  | updateDevice tenant key patch now => exact turns_updateDevice rfl
  | retireDevice tenant key now => exact turns_retireDevice tenant key now
  | receiveHeartbeat hb now => exact turns_receiveHeartbeat hkey hb now
  | createCommand c now => exact turns_createCommand c now
  | cancelCommand tenant id now => exact (cancelCommand_same ..).turns
  | acknowledgeCommand tenant id now => exact (acknowledgeCommand_same ..).turns
  | completeCommand tenant id success result now => exact turns_completeCommand tenant id success result now
  | expireCommands now => exact (expireCommands_same ..).turns
  | deviceRisk tenant key now => exact (sameRecords_deviceRisk ..).view.turns
  | fleetRisk tenant now => exact (sameRecords_fleetRisk ..).view.turns
  | locationRisk tenant location now => exact (sameRecords_locationRisk ..).view.turns
  | quarantine tenant key reason now => exact turns_quarantine tenant key reason now
  | recover tenant key now => exact turns_recover rfl
  | outside world => exact SameView.turns ⟨rfl, rfl⟩

end Drawer.FleetOps
