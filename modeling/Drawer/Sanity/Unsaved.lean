import Drawer.Sanity.EventLog
import Drawer.Sanity.Places
import Drawer.Spec.FleetRestart

/-! What a request leaves that does not save the registry. All but two leave what the
store has of it as it was: an update whose patch breaks off may have changed the
device, and a fleet risk query that raises may have recorded changes. -/

namespace Drawer.FleetOps
open FleetOperationsService

variable {ω : Type} {env : Env ω} {s s' s'' : FleetOperationsService ω}

/-! ### The same registry -/

/-- The registries have the same entries and the same log. -/
structure SameFleet (s s' : FleetOperationsService ω) : Prop where
  fleets : Dict.Same s'.fleets s.fleets
  locations : Dict.Same s'.locations s.locations
  groups : Dict.Same s'.groups s.groups
  enrollments : Dict.Same s'.enrollments s.enrollments
  assignments : Dict.Same s'.assignments s.assignments
  devices : Dict.Same s'.devices s.devices
  heartbeats : Dict.Same s'.heartbeats s.heartbeats
  commands : Dict.Same s'.commands s.commands
  policyViolations : Dict.Same s'.policyViolations s.policyViolations
  riskLevels : Dict.Same s'.riskLevels s.riskLevels
  events : s'.events = s.events

theorem SameFleet.refl (s : FleetOperationsService ω) : SameFleet s s :=
  ⟨Dict.same_refl _, Dict.same_refl _, Dict.same_refl _, Dict.same_refl _, Dict.same_refl _, Dict.same_refl _,
    Dict.same_refl _, Dict.same_refl _, Dict.same_refl _, Dict.same_refl _, rfl⟩

theorem SameFleet.trans (h : SameFleet s s') (h' : SameFleet s' s'') : SameFleet s s'' where
  fleets := h'.fleets.trans h.fleets
  locations := h'.locations.trans h.locations
  groups := h'.groups.trans h.groups
  enrollments := h'.enrollments.trans h.enrollments
  assignments := h'.assignments.trans h.assignments
  devices := h'.devices.trans h.devices
  heartbeats := h'.heartbeats.trans h.heartbeats
  commands := h'.commands.trans h.commands
  policyViolations := h'.policyViolations.trans h.policyViolations
  riskLevels := h'.riskLevels.trans h.riskLevels
  events := h'.events.trans h.events

/-- The attached services are no part of the registry. -/
theorem sameFleet_world (s : FleetOperationsService ω) (world : ω) : SameFleet s { s with world } :=
  { SameFleet.refl s with }

theorem sameFleet_walked (w : Dict.Walk String) (s : FleetOperationsService ω) : SameFleet s (s.walked w) :=
  ⟨w.same _, w.same _, w.same _, w.same _, w.same _, w.same _, w.same _, w.same _, w.same _, w.same _, rfl⟩

/-- Put in order, registries with the same entries are equal. -/
theorem SameFleet.walked (h : SameFleet s s') (hworld : s'.world = s.world) (w : Dict.Walk String) :
    s'.walked w = s.walked w := by
  simp only [FleetOperationsService.walked, w.determined h.fleets, w.determined h.locations, w.determined h.groups,
    w.determined h.enrollments, w.determined h.assignments, w.determined h.devices, w.determined h.heartbeats,
    w.determined h.commands, w.determined h.policyViolations, w.determined h.riskLevels, h.events, hworld]

@[simp] theorem walked_walked (w : Dict.Walk String) (s : FleetOperationsService ω) : (s.walked w).walked w = s.walked w :=
  (sameFleet_walked w s).walked rfl w

/-! ### Requests -/

theorem enroll_unsaved (d : FleetDevice) (actorId : String) (now : Int) :
    (s.enroll env d actorId now).2 = .ok ∨ SameFleet s (s.enroll env d actorId now).1 := by
  unfold enroll
  split_ifs
  · exact Or.inr (SameFleet.refl s)
  · exact Or.inr (SameFleet.refl s)
  · exact Or.inr (SameFleet.refl s)
  · split
    · exact Or.inr (sameFleet_world s _)
    · dsimp only
      split_ifs
      · exact Or.inr (sameFleet_world s _)
      · exact Or.inl rfl

theorem retireDevice_unsaved (tenantId key : String) (now : Int) :
    (s.retireDevice env tenantId key now).2 = .ok ∨ SameFleet s (s.retireDevice env tenantId key now).1 := by
  unfold retireDevice
  split
  · exact Or.inr (SameFleet.refl s)
  · split_ifs
    · exact Or.inr (SameFleet.refl s)
    · exact Or.inr (SameFleet.refl s)
    · exact Or.inl rfl

theorem receiveHeartbeat_unsaved (hb : FleetHeartbeat) (now : Int) :
    Heard (s.receiveHeartbeat env hb now).2 ∨ SameFleet s (s.receiveHeartbeat env hb now).1 := by
  unfold receiveHeartbeat
  split
  · exact Or.inr (SameFleet.refl s)
  · dsimp only
    split_ifs
    · exact Or.inl ⟨_, rfl, by decide, by decide⟩
    · exact Or.inr (SameFleet.refl s)
    · exact Or.inl ⟨_, rfl, by decide, by decide⟩
    · exact Or.inl ⟨_, rfl, by decide, by decide⟩
    · exact Or.inl ⟨_, rfl, by decide, by decide⟩
    · exact Or.inl ⟨_, rfl, by decide, by decide⟩
    · exact Or.inl ⟨_, rfl, by decide, by decide⟩
    · split
      · exact Or.inr (SameFleet.refl s)
      · exact Or.inl ⟨_, rfl, by decide, by decide⟩
      · exact Or.inl ⟨_, rfl, by decide, by decide⟩

theorem cancelCommand_unsaved (tenantId id : String) (now : Int) :
    (s.cancelCommand env tenantId id now).2 = .ok ∨ SameFleet s (s.cancelCommand env tenantId id now).1 := by
  unfold cancelCommand
  split
  · exact Or.inr (SameFleet.refl s)
  · split_ifs
    · exact Or.inr (SameFleet.refl s)
    · exact Or.inl rfl
    · exact Or.inr (SameFleet.refl s)

theorem acknowledgeCommand_unsaved (tenantId id : String) (now : Int) :
    ((s.acknowledgeCommand env tenantId id now).2 = .ok ∨
      (s.acknowledgeCommand env tenantId id now).2 = .failed "command_expired") ∨
    SameFleet s (s.acknowledgeCommand env tenantId id now).1 := by
  unfold acknowledgeCommand
  split
  · exact Or.inr (SameFleet.refl s)
  · split_ifs
    · exact Or.inr (SameFleet.refl s)
    · exact Or.inr (SameFleet.refl s)
    · exact Or.inl (Or.inr rfl)
    · exact Or.inl (Or.inl rfl)

theorem completeCommand_unsaved (tenantId id : String) (success : Bool) (result : String) (now : Int) :
    (s.completeCommand env tenantId id success result now).2 = .ok ∨
      SameFleet s (s.completeCommand env tenantId id success result now).1 := by
  unfold completeCommand
  split
  · exact Or.inr (SameFleet.refl s)
  · split_ifs
    · exact Or.inr (SameFleet.refl s)
    · exact Or.inr (SameFleet.refl s)
    · exact Or.inl rfl

theorem deviceRisk_unsaved (tenantId key : String) (now : Int) :
    ((s.devices.lookup key).any (fun d => d.tenantId = tenantId) = true ∧
      returned (s.deviceRisk env tenantId key now).2 = true) ∨ SameFleet s (s.deviceRisk env tenantId key now).1 := by
  unfold deviceRisk
  cases hd : s.devices.lookup key with
  | none => exact Or.inr (SameFleet.refl s)
  | some d =>
    dsimp only
    split_ifs with htenant
    · exact Or.inr (SameFleet.refl s)
    · split
      · exact Or.inr (SameFleet.refl s)
      · exact Or.inl ⟨by simpa using htenant, rfl⟩

theorem locationRisk_unsaved (tenantId location : String) (now : Int) :
    returned (s.locationRisk env tenantId location now).2 = true ∨
      SameFleet s (s.locationRisk env tenantId location now).1 := by
  simp only [locationRisk]
  split
  · exact Or.inr (SameFleet.refl s)
  · exact Or.inl rfl

theorem quarantine_unsaved (tenantId key reason : String) (now : Int) :
    (s.quarantine env tenantId key reason now).2 = .ok ∨ SameFleet s (s.quarantine env tenantId key reason now).1 := by
  unfold quarantine
  split
  · exact Or.inr (SameFleet.refl s)
  · split
    · exact Or.inr (SameFleet.refl s)
    · exact Or.inl rfl

theorem recover_unsaved (tenantId key : String) (now : Int) :
    (s.recover env tenantId key now).2 = .ok .ok ∨ SameFleet s (s.recover env tenantId key now).1 := by
  unfold recover
  split
  · exact Or.inr (SameFleet.refl s)
  · split_ifs
    · exact Or.inr (SameFleet.refl s)
    · exact Or.inr (SameFleet.refl s)
    · exact Or.inr (SameFleet.refl s)
    · split
      · exact Or.inr (SameFleet.refl s)
      · exact Or.inr (SameFleet.refl s)
      · split
        · exact Or.inr (SameFleet.refl s)
        · dsimp only
          split_ifs
          · exact Or.inr (SameFleet.refl s)
          · exact Or.inr (sameFleet_world s _)
          · exact Or.inl rfl

/-! ### A fleet risk query -/

/-- The risk of the device can be told. -/
def assessable (env : Env ω) (s : FleetOperationsService ω) (now : Int) (d : FleetDevice) : Bool :=
  returned (s.deviceRiskLocked env d now)

/-- If the risk of the device can be told, its level is the one that was recorded last. -/
def LevelKept (env : Env ω) (s : FleetOperationsService ω) (now : Int) (d : FleetDevice) : Prop :=
  ∀ risk, s.deviceRiskLocked env d now = .ok risk →
    s.riskLevels.lookup (risk.tenantId ++ ":" ++ risk.scopeType ++ ":" ++ risk.scopeId) = some risk.level

/-- The tenant's devices, as `fleet_risk` comes to them. -/
def ownDevices (devices : List FleetDevice) (tenantId : String) : List FleetDevice :=
  devices.filter fun d => d.tenantId = tenantId

/-- The device whose risk it is. -/
theorem deviceRiskLocked_names {d : FleetDevice} {now : Int} {risk : FleetRisk} (h : s.deviceRiskLocked env d now = .ok risk) :
    risk.tenantId = d.tenantId := by
  unfold deviceRiskLocked at h
  dsimp only at h
  cases hhb : s.heartbeats.lookup d.deviceId with
  | none =>
    simp only [hhb] at h
    obtain rfl := Except.ok.inj h
    rfl
  | some hb =>
    simp only [hhb] at h
    cases hfactors : reportedFactors hb with
    | error e =>
      rw [hfactors] at h
      cases h
    | ok factors =>
      rw [hfactors] at h
      obtain rfl := Except.ok.inj h
      rfl

/-- Recording a change changes no risk. -/
theorem deviceRiskLocked_record (risk : FleetRisk) (now : Int) (d : FleetDevice) (now' : Int) :
    (s.recordRiskChangeLocked env risk now).deviceRiskLocked env d now' = s.deviceRiskLocked env d now' := by
  simp only [recordRiskChangeLocked]
  split_ifs <;> rfl

theorem recordRiskChangeLocked_kept {risk : FleetRisk} (h : s.riskLevels.lookup
    (risk.tenantId ++ ":" ++ risk.scopeType ++ ":" ++ risk.scopeId) = some risk.level) (now : Int) :
    s.recordRiskChangeLocked env risk now = s := by
  simp only [recordRiskChangeLocked, h, if_true]

variable (env) in
theorem recordRiskChangeLocked_new {risk : FleetRisk} (h : s.riskLevels.lookup
    (risk.tenantId ++ ":" ++ risk.scopeType ++ ":" ++ risk.scopeId) ≠ some risk.level) (now : Int) :
    ∃ e, e.tenantId = risk.tenantId ∧ (s.recordRiskChangeLocked env risk now).events = s.events ++ [e] := by
  simp only [recordRiskChangeLocked, if_neg h]
  exact ⟨_, rfl, rfl⟩

variable {tenantId : String} {now : Int}

variable (env tenantId now) in
/-- A round of the loop: the device is another tenant's, or it cannot be assessed, or its level is recorded. -/
theorem fleetRiskOne_cases (s : FleetOperationsService ω) (out : List FleetRisk) (d : FleetDevice) :
    (d.tenantId ≠ tenantId ∧ fleetRiskOne env tenantId now (s, .ok out) d = (s, .ok out)) ∨
    (d.tenantId = tenantId ∧ ∃ e, s.deviceRiskLocked env d now = .error e ∧
      fleetRiskOne env tenantId now (s, .ok out) d = (s, .error e)) ∨
    (d.tenantId = tenantId ∧ ∃ risk, s.deviceRiskLocked env d now = .ok risk ∧
      fleetRiskOne env tenantId now (s, .ok out) d = (s.recordRiskChangeLocked env risk now, .ok (out ++ [risk]))) := by
  by_cases htenant : d.tenantId = tenantId
  · cases hrisk : s.deviceRiskLocked env d now with
    | error e => exact Or.inr (Or.inl ⟨htenant, e, rfl, by simp [fleetRiskOne, htenant, hrisk]⟩)
    | ok risk => exact Or.inr (Or.inr ⟨htenant, risk, rfl, by simp [fleetRiskOne, htenant, hrisk]⟩)
  · exact Or.inl ⟨htenant, by simp [fleetRiskOne, htenant]⟩

theorem foldl_raised (e : Exn) (l : List FleetDevice) :
    l.foldl (fleetRiskOne env tenantId now) (s, .error e) = (s, .error e) := by
  induction l with
  | nil => rfl
  | cons d l ih => exact ih

theorem ownDevices_cons_of_ne {d : FleetDevice} (htenant : d.tenantId ≠ tenantId) (l : List FleetDevice) :
    ownDevices (d :: l) tenantId = ownDevices l tenantId := by simp [ownDevices, htenant]

theorem ownDevices_cons {d : FleetDevice} (htenant : d.tenantId = tenantId) (l : List FleetDevice) :
    ownDevices (d :: l) tenantId = d :: ownDevices l tenantId := by simp [ownDevices, htenant]

theorem assessable_record (risk : FleetRisk) (now' : Int) :
    assessable env (s.recordRiskChangeLocked env risk now') now = assessable env s now :=
  funext fun d => by rw [assessable, deviceRiskLocked_record, assessable]

variable (env tenantId now) in
/-- The query returns if every device of the tenant can be assessed. -/
theorem foldl_returned (l : List FleetDevice) (s : FleetOperationsService ω) (out : List FleetRisk) :
    returned (l.foldl (fleetRiskOne env tenantId now) (s, .ok out)).2 =
      (ownDevices l tenantId).all (assessable env s now) := by
  induction l generalizing s out with
  | nil => rfl
  | cons d l ih =>
    rw [List.foldl_cons]
    rcases fleetRiskOne_cases env tenantId now s out d with
      ⟨htenant, hone⟩ | ⟨htenant, e, hrisk, hone⟩ | ⟨htenant, risk, hrisk, hone⟩
    · rw [hone, ownDevices_cons_of_ne htenant, ih]
    · rw [hone, ownDevices_cons htenant, foldl_raised, List.all_cons, assessable, hrisk]
      rfl
    · rw [hone, ownDevices_cons htenant, ih, assessable_record, List.all_cons, assessable, hrisk]
      rfl

variable (env tenantId now) in
/-- As long as every level is the recorded one, the query changes nothing. -/
theorem foldl_kept (l : List FleetDevice) (s : FleetOperationsService ω) (out : List FleetRisk)
    (hkept : ∀ d ∈ (ownDevices l tenantId).takeWhile (assessable env s now), LevelKept env s now d) :
    (l.foldl (fleetRiskOne env tenantId now) (s, .ok out)).1 = s := by
  induction l generalizing out with
  | nil => rfl
  | cons d l ih =>
    rw [List.foldl_cons]
    rcases fleetRiskOne_cases env tenantId now s out d with
      ⟨htenant, hone⟩ | ⟨htenant, e, hrisk, hone⟩ | ⟨htenant, risk, hrisk, hone⟩
    · rw [ownDevices_cons_of_ne htenant] at hkept
      rw [hone, ih out hkept]
    · rw [hone, foldl_raised]
    · have hassess : assessable env s now d = true := by rw [assessable, hrisk, returned]
      rw [ownDevices_cons htenant, List.takeWhile_cons_of_pos hassess, List.forall_mem_cons] at hkept
      rw [hone, recordRiskChangeLocked_kept (hkept.1 risk hrisk) now, ih _ hkept.2]

variable (env tenantId now) in
/-- A level that is not the recorded one is logged. -/
theorem foldl_logged (l : List FleetDevice) (s : FleetOperationsService ω) (out : List FleetRisk) {d : FleetDevice}
    (hd : d ∈ (ownDevices l tenantId).takeWhile (assessable env s now)) (hchanged : ¬ LevelKept env s now d) :
    ∃ e more, e.tenantId = tenantId ∧
      (l.foldl (fleetRiskOne env tenantId now) (s, .ok out)).1.events = s.events ++ e :: more := by
  induction l generalizing out with
  | nil => cases hd
  | cons d' l ih =>
    rw [List.foldl_cons]
    rcases fleetRiskOne_cases env tenantId now s out d' with
      ⟨htenant, hone⟩ | ⟨htenant, e, hrisk, hone⟩ | ⟨htenant, risk, hrisk, hone⟩
    · rw [ownDevices_cons_of_ne htenant] at hd
      rw [hone]
      exact ih out hd
    · have hassess : assessable env s now d' = false := by rw [assessable, hrisk, returned]
      rw [ownDevices_cons htenant, List.takeWhile_cons_of_neg (by simp [hassess])] at hd
      cases hd
    · have hassess : assessable env s now d' = true := by rw [assessable, hrisk, returned]
      rw [ownDevices_cons htenant, List.takeWhile_cons_of_pos hassess] at hd
      rw [hone]
      by_cases hlevel : s.riskLevels.lookup (risk.tenantId ++ ":" ++ risk.scopeType ++ ":" ++ risk.scopeId) = some risk.level
      · rw [recordRiskChangeLocked_kept hlevel]
        refine ih _ ((List.mem_cons.mp hd).resolve_left ?_)
        rintro rfl
        refine hchanged fun risk' hrisk' => ?_
        obtain rfl := Except.ok.inj (hrisk.symm.trans hrisk')
        exact hlevel
      · -- whatever the other rounds do, they log after this one
        obtain ⟨e, he, hevents⟩ := recordRiskChangeLocked_new env hlevel now
        have hrest : Extends env (s.recordRiskChangeLocked env risk now).events
            (l.foldl (fleetRiskOne env tenantId now) (s.recordRiskChangeLocked env risk now, .ok (out ++ [risk]))).1.events :=
          extends_foldl (extends_fleetRiskOne tenantId now) l (_, .ok (out ++ [risk]))
        obtain ⟨more, hmore⟩ := hrest.1
        refine ⟨e, more, he.trans ((deviceRiskLocked_names hrisk).trans htenant), ?_⟩
        rw [← hmore, hevents, List.append_assoc, List.singleton_append]

variable (env tenantId now) in
/-- The query as a whole returns if every device of the tenant can be assessed. -/
theorem fleetRisk_returned (s : FleetOperationsService ω) :
    returned (s.fleetRisk env tenantId now).2 =
      (ownDevices (s.devices.entries.map Sigma.snd) tenantId).all (assessable env s now) := by
  rw [← foldl_returned env tenantId now (s.devices.entries.map Sigma.snd) s []]
  simp only [fleetRisk]
  cases ((s.devices.entries.map Sigma.snd).foldl (fleetRiskOne env tenantId now) (s, .ok [])).2 <;> rfl

end Drawer.FleetOps
