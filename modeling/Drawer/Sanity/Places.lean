import Drawer.Sanity.Edits
import Drawer.Sanity.Heartbeats

/-! Where a device belongs, and when it was last heard. Enrolment, updates and
stored heartbeats write it; every other request leaves it, and everything else that
enrolment writes, as it was. -/

namespace Drawer.FleetOps
open FleetOperationsService

variable {ω : Type} {env : Env ω} {s s' s'' : FleetOperationsService ω}

/-- Where the device belongs, and the time of its last heartbeat. -/
structure Place where
  tenantId : String
  fleetId : String
  groupId : String
  locationId : String
  branchId : String
  lastHeartbeatEpoch : Int
  deriving DecidableEq

def FleetDevice.place (d : FleetDevice) : Place :=
  ⟨d.tenantId, d.fleetId, d.groupId, d.locationId, d.branchId, d.lastHeartbeatEpoch⟩

/-- The place of the device under the id, if there is one. -/
def placeOf (s : FleetOperationsService ω) (k : String) : Option Place := (s.devices.lookup k).map FleetDevice.place

theorem placeOf_of_lookup {k : String} {d : FleetDevice} (hd : s.devices.lookup k = some d) :
    placeOf s k = some d.place := by rw [placeOf, hd, Option.map_some]

/-- Devices are where they were, and all else that enrolment writes is as it was. -/
structure Settled (s s' : FleetOperationsService ω) : Prop where
  places : ∀ k, placeOf s' k = placeOf s k
  fleets : s'.fleets = s.fleets
  locations : s'.locations = s.locations
  groups : s'.groups = s.groups
  enrollments : s'.enrollments = s.enrollments
  assignments : s'.assignments = s.assignments

theorem Settled.refl (s : FleetOperationsService ω) : Settled s s := ⟨fun _ => rfl, rfl, rfl, rfl, rfl, rfl⟩

theorem Settled.trans (h : Settled s s') (h' : Settled s' s'') : Settled s s'' where
  places k := (h'.places k).trans (h.places k)
  fleets := h'.fleets.trans h.fleets
  locations := h'.locations.trans h.locations
  groups := h'.groups.trans h.groups
  enrollments := h'.enrollments.trans h.enrollments
  assignments := h'.assignments.trans h.assignments

/-- Devices and what enrolment writes are literally as they were. -/
theorem settled_same (hdevices : s'.devices = s.devices) (hfleets : s'.fleets = s.fleets)
    (hlocations : s'.locations = s.locations) (hgroups : s'.groups = s.groups)
    (henrollments : s'.enrollments = s.enrollments) (hassignments : s'.assignments = s.assignments) : Settled s s' :=
  ⟨fun k => by rw [placeOf, hdevices, placeOf], hfleets, hlocations, hgroups, henrollments, hassignments⟩

/-! ### Writes -/

theorem placeOf_insert {key : String} {d' : FleetDevice} (hdevices : s'.devices = s.devices.insert key d') (k : String) :
    placeOf s' k = if k = key then some d'.place else placeOf s k := by
  rw [placeOf, hdevices, Dict.lookup_insert_if, apply_ite (Option.map FleetDevice.place)]
  rfl

/-- A device is written that stays in its place. -/
theorem settled_write {key : String} {d d' : FleetDevice} (hd : s.devices.lookup key = some d) (hplace : d'.place = d.place)
    (hdevices : s'.devices = s.devices.insert key d') (hfleets : s'.fleets = s.fleets) (hlocations : s'.locations = s.locations)
    (hgroups : s'.groups = s.groups) (henrollments : s'.enrollments = s.enrollments)
    (hassignments : s'.assignments = s.assignments) : Settled s s' := by
  refine ⟨fun k => ?_, hfleets, hlocations, hgroups, henrollments, hassignments⟩
  rw [placeOf_insert hdevices]
  split_ifs with hk
  · rw [hk, placeOf_of_lookup hd, hplace]
  · rfl

theorem settled_event (t d e : String) (n : Int) (p : Json String) : Settled s (s.appendEventLocked env t d e n p) :=
  settled_same rfl rfl rfl rfl rfl rfl

theorem settled_evidence (d : FleetDevice) (e : String) (n : Int) (p : Json String) :
    Settled s (s.emitEvidenceLocked env d e n p) := by
  unfold emitEvidenceLocked
  split <;> exact settled_same rfl rfl rfl rfl rfl rfl

/-- A device is written that stays in its place, an event logged and the device recorded in evidence. -/
theorem settled_writeRecord {key : String} {d d' : FleetDevice} (hd : s.devices.lookup key = some d)
    (hplace : d'.place = d.place) {t k e eventType : String} {n m : Int} {p payload : Json String} :
    Settled s (({ s with devices := s.devices.insert key d' }.appendEventLocked env t k e n p).emitEvidenceLocked env d'
      eventType m payload) := by
  refine Settled.trans ?_ (settled_evidence ..)
  exact settled_write hd hplace rfl rfl rfl rfl rfl rfl

theorem settled_quarantineLocked {key : String} {d : FleetDevice} (hd : s.devices.lookup key = some d) (reason : String)
    (now : Int) : Settled s (s.quarantineLocked env key d reason now) := by
  unfold quarantineLocked
  split_ifs
  · exact Settled.refl s
  · refine settled_writeRecord hd ?_
    rfl

theorem settled_quarantineIf (c : Bool) (key reason : String) (now : Int) :
    Settled s (s.quarantineIf env c key reason now) := by
  unfold quarantineIf
  split
  · rename_i d hd
    split_ifs
    · exact settled_quarantineLocked hd reason now
    · exact Settled.refl s
  · exact Settled.refl s

theorem settled_recordRiskChangeLocked (risk : FleetRisk) (now : Int) : Settled s (s.recordRiskChangeLocked env risk now) := by
  simp only [recordRiskChangeLocked]
  split_ifs <;> exact settled_same rfl rfl rfl rfl rfl rfl

/-! ### Requests -/

theorem settled_retireDevice (tenantId key : String) (now : Int) : Settled s (s.retireDevice env tenantId key now).1 := by
  unfold retireDevice
  split
  · exact Settled.refl s
  · rename_i d hd
    split_ifs
    · exact Settled.refl s
    · exact Settled.refl s
    · refine settled_writeRecord hd ?_
      rfl

theorem settled_failCommand (c : FleetCommand) (reason : String) (denied : Bool) (now : Int) :
    Settled s (s.failCommand env c reason denied now).1 := settled_same rfl rfl rfl rfl rfl rfl

theorem settled_dispatch (d : FleetDevice) (c : FleetCommand) (now : Int) : Settled s (s.dispatch env d c now).1 := by
  simp only [dispatch]
  refine Settled.trans ?_ (settled_evidence ..)
  exact settled_same rfl rfl rfl rfl rfl rfl

theorem settled_checkPolicy {d : FleetDevice} {c : FleetCommand} (hd : s.devices.lookup c.deviceId = some d) (now : Int) :
    Settled s (s.checkPolicy env d c now).1 := by
  simp only [checkPolicy]
  split_ifs
  · refine Settled.trans ?_ ((settled_quarantineLocked ?_ _ now).trans (settled_failCommand ..))
    · exact settled_same rfl rfl rfl rfl rfl rfl
    · exact hd
  · exact settled_same rfl rfl rfl rfl rfl rfl
  · refine Settled.trans ?_ (settled_dispatch ..)
    exact settled_same rfl rfl rfl rfl rfl rfl

theorem settled_checkDevice (c : FleetCommand) (now : Int) : Settled s (s.checkDevice env c now).1 := by
  unfold checkDevice
  split
  · exact settled_failCommand ..
  · rename_i d hd
    split
    · exact settled_failCommand ..
    · simp only [checkCapability]
      split
      · exact settled_failCommand ..
      · refine settled_checkPolicy ?_ now
        exact hd

theorem settled_createCommand (c : FleetCommand) (now : Int) : Settled s (s.createCommand env c now).1 := by
  simp only [createCommand]
  split_ifs
  · exact settled_event ..
  · exact (settled_event _ _ _ _ _).trans (settled_checkDevice _ now)

theorem settled_cancelCommand (tenantId id : String) (now : Int) : Settled s (s.cancelCommand env tenantId id now).1 := by
  unfold cancelCommand
  split
  · exact Settled.refl s
  · split_ifs <;> exact settled_same rfl rfl rfl rfl rfl rfl

theorem settled_acknowledgeCommand (tenantId id : String) (now : Int) :
    Settled s (s.acknowledgeCommand env tenantId id now).1 := by
  unfold acknowledgeCommand
  split
  · exact Settled.refl s
  · split_ifs <;> exact settled_same rfl rfl rfl rfl rfl rfl

theorem settled_afterFailure (key result : String) (now : Int) : Settled s (s.afterFailure env key result now) := by
  simp only [afterFailure]
  exact (settled_quarantineIf _ key _ now).trans (settled_quarantineIf ..)

theorem settled_afterReport (c : FleetCommand) (success : Bool) (result : String) (now : Int) :
    Settled s (s.afterReport env c success result now) := by
  unfold afterReport
  split
  · exact Settled.refl s
  · dsimp only
    split_ifs
    · exact settled_evidence ..
    · exact (settled_evidence _ _ _ _).trans (settled_afterFailure ..)

theorem settled_completeCommand (tenantId id : String) (success : Bool) (result : String) (now : Int) :
    Settled s (s.completeCommand env tenantId id success result now).1 := by
  unfold completeCommand
  split
  · exact Settled.refl s
  · split_ifs
    · exact Settled.refl s
    · exact Settled.refl s
    · refine Settled.trans ?_ (settled_afterReport ..)
      exact settled_same rfl rfl rfl rfl rfl rfl

theorem settled_expireCommands (now : Int) : Settled s (s.expireCommands env now).1 := by
  unfold expireCommands
  have hall : ∀ (keys : List String) (p : FleetOperationsService ω × ℕ), Settled p.1 (keys.foldl (expireOne env now) p).1 := by
    intro keys
    induction keys with
    | nil => exact fun p => Settled.refl p.1
    | cons key keys ih =>
      refine fun p => Settled.trans ?_ (ih _)
      unfold expireOne
      split
      · exact Settled.refl p.1
      · split_ifs
        · exact settled_same rfl rfl rfl rfl rfl rfl
        · exact Settled.refl p.1
  exact hall _ (s, 0)

theorem settled_deviceRisk (tenantId key : String) (now : Int) : Settled s (s.deviceRisk env tenantId key now).1 := by
  unfold deviceRisk
  dsimp only
  split
  · exact Settled.refl s
  · split_ifs
    · exact Settled.refl s
    · split
      · exact Settled.refl s
      · exact settled_recordRiskChangeLocked ..

theorem settled_fleetRisk (tenantId : String) (now : Int) : Settled s (s.fleetRisk env tenantId now).1 := by
  simp only [fleetRisk]
  have hall : ∀ (devices : List FleetDevice) (p : FleetOperationsService ω × Except Exn (List FleetRisk)),
      Settled p.1 (devices.foldl (fleetRiskOne env tenantId now) p).1 := by
    intro devices
    induction devices with
    | nil => exact fun p => Settled.refl p.1
    | cons d devices ih =>
      refine fun p => Settled.trans ?_ (ih _)
      unfold fleetRiskOne
      split
      · exact Settled.refl p.1
      · split_ifs
        · exact Settled.refl p.1
        · split
          · exact Settled.refl p.1
          · exact settled_recordRiskChangeLocked ..
  exact hall _ (s, .ok [])

theorem settled_locationRisk (tenantId location : String) (now : Int) :
    Settled s (s.locationRisk env tenantId location now).1 := by
  simp only [locationRisk]
  split
  · exact Settled.refl s
  · exact settled_recordRiskChangeLocked ..

theorem settled_quarantine (tenantId key reason : String) (now : Int) :
    Settled s (s.quarantine env tenantId key reason now).1 := by
  unfold quarantine
  split
  · exact Settled.refl s
  · rename_i d hd
    split
    · exact Settled.refl s
    · exact settled_quarantineLocked hd _ now

theorem settled_recover (tenantId key : String) (now : Int) : Settled s (s.recover env tenantId key now).1 := by
  unfold recover
  split
  · exact Settled.refl s
  · rename_i d hd
    split_ifs
    · exact Settled.refl s
    · exact Settled.refl s
    · exact Settled.refl s
    · split
      · exact Settled.refl s
      · exact Settled.refl s
      · split
        · exact Settled.refl s
        · dsimp only
          split_ifs
          · exact Settled.refl s
          · exact settled_same rfl rfl rfl rfl rfl rfl
          · refine Settled.trans ?_ (settled_evidence ..)
            refine settled_write hd ?_ rfl rfl rfl rfl rfl rfl
            rfl

variable (env) in
/-- A heartbeat that is stored sets the time of its device; no other moves anything. -/
theorem settled_receiveHeartbeat (hb : FleetHeartbeat) (now : Int) :
    Settled s (s.receiveHeartbeat env hb now).1 ∨ Stores env s hb now ∧ ∃ d d', s.devices.lookup hb.deviceId = some d ∧
      d'.place = { d.place with lastHeartbeatEpoch := hb.timestamp } ∧
      Settled { s with devices := s.devices.insert hb.deviceId d' } (s.receiveHeartbeat env hb now).1 := by
  unfold receiveHeartbeat
  split
  · exact Or.inl (Settled.refl s)
  · rename_i d hd
    dsimp only
    split_ifs with htenant hretired htimely hstate hcapability hfirmware hdriver
    · exact Or.inl (settled_quarantineLocked hd _ now)
    · exact Or.inl (Settled.refl s)
    · exact Or.inl (settled_quarantineLocked hd _ now)
    · simp only [Bool.or_eq_true, decide_eq_true_eq, not_or, not_le, not_lt] at htimely
      refine Or.inr ⟨⟨d, hd, not_not.mp htenant, by simpa using hretired, htimely.1.1, htimely.1.2, htimely.2, Or.inl hstate⟩,
        d, _, hd, ?_, settled_same rfl rfl rfl rfl rfl rfl⟩
      rfl
    · exact Or.inl (settled_quarantineLocked hd _ now)
    · exact Or.inl (settled_quarantineLocked hd _ now)
    · exact Or.inl (settled_quarantineLocked hd _ now)
    · split
      · exact Or.inl (Settled.refl s)
      · exact Or.inl (settled_quarantineLocked hd _ now)
      · rename_i hcontradiction
        simp only [Bool.or_eq_true, decide_eq_true_eq, not_or, not_le, not_lt] at htimely
        refine Or.inr ⟨⟨d, hd, not_not.mp htenant, by simpa using hretired, htimely.1.1, htimely.1.2, htimely.2,
          Or.inr ⟨by simpa using hcapability, by simpa using hfirmware, by simpa using hdriver, hcontradiction⟩⟩,
          d, { d with
            firmwareVersion := hb.firmwareVersion, driverVersion := hb.driverVersion
            connectivityStatus := hb.connectivityStatus, lastHeartbeatEpoch := hb.timestamp
            lastHeartbeatAt := epochString hb.timestamp }, hd, rfl, ?_⟩
        refine Settled.trans ?_ (settled_evidence ..)
        exact settled_same rfl rfl rfl rfl rfl rfl

theorem enrolled_place {w : ω} {d d' : FleetDevice} (h : enrolled env w d = some d') :
    d'.deviceId = d.deviceId ∧ d'.place = d.place := by
  obtain ⟨capabilities, driver, rfl⟩ := enrolled_eq h
  exact ⟨rfl, rfl⟩

/-- A device that may be enrolled, and that the edge platform takes, is entered. -/
theorem settled_entered {d d' : FleetDevice} (henroll : Enrollable s d) (hd' : enrolled env s.world d = some d')
    (actorId : String) (now : Int) : Settled (s.insertDevice d' actorId now) (s.enroll env d actorId now).1 := by
  rcases enroll_cases s d actorId now with ⟨hnot, -⟩ | ⟨-, heq⟩
  · exact absurd henroll hnot
  · rw [heq, hd']
    simp only [concluded, entered]
    refine Settled.trans ?_ (settled_evidence ..)
    exact settled_same rfl rfl rfl rfl rfl rfl

variable (env) in
/-- The device is entered, or nothing is written. -/
theorem settled_enroll (d : FleetDevice) (actorId : String) (now : Int) :
    Settled s (s.enroll env d actorId now).1 ∨ Enrollable s d ∧ ∃ d', enrolled env s.world d = some d' ∧
      Settled (s.insertDevice d' actorId now) (s.enroll env d actorId now).1 := by
  rcases enroll_cases s d actorId now with ⟨-, heq⟩ | ⟨henroll, heq⟩
  · rw [heq]
    exact Or.inl (Settled.refl s)
  · cases hd' : enrolled env s.world d with
    | none =>
      rw [heq, hd']
      exact Or.inl (settled_same rfl rfl rfl rfl rfl rfl)
    | some d' => exact Or.inr ⟨henroll, d', rfl, settled_entered henroll hd' actorId now⟩

/-- All requests but three. -/
def Settling : Op ω → Prop
  | .enroll .. => False
  | .updateDevice .. => False
  | .receiveHeartbeat .. => False
  | _ => True

variable (env) in
theorem settled_apply {op : Op ω} (hop : Settling op) : Settled s (apply env s op) := by
  cases op with
  | enroll d actorId now => exact hop.elim
  | updateDevice tenantId key patch now => exact hop.elim
  | receiveHeartbeat hb now => exact hop.elim
  | retireDevice tenantId key now => exact settled_retireDevice ..
  | createCommand c now => exact settled_createCommand ..
  | cancelCommand tenantId id now => exact settled_cancelCommand ..
  | acknowledgeCommand tenantId id now => exact settled_acknowledgeCommand ..
  | completeCommand tenantId id success result now => exact settled_completeCommand ..
  | expireCommands now => exact settled_expireCommands ..
  | deviceRisk tenantId key now => exact settled_deviceRisk ..
  | fleetRisk tenantId now => exact settled_fleetRisk ..
  | locationRisk tenantId location now => exact settled_locationRisk ..
  | quarantine tenantId key reason now => exact settled_quarantine ..
  | recover tenantId key now => exact settled_recover ..
  | outside world => exact settled_same rfl rfl rfl rfl rfl rfl

/-! ### Updates -/

/-- An update that gets as far as its patch: the device is the tenant's and not retired, may change its state so, and
keeps a location. -/
structure Patchable (s : FleetOperationsService ω) (tenantId key : String) (patch : Json String) (d : FleetDevice)
    (next : String) : Prop where
  lookup : s.devices.lookup key = some d
  tenant : d.tenantId = tenantId
  unretired : d.retired = false
  state : patch.value "lifecycle_state" Json.getStr d.lifecycleState = .ok next
  valid : validTransition d.lifecycleState next false = true
  located : locationMissing patch = .ok false

/-- What a patch that breaks off leaves. -/
def brokenOff (s : FleetOperationsService ω) (key : String) (d : FleetDevice) : FleetOperationsService ω :=
  { s with devices := s.devices.insert key d }

theorem updateDevice_broken {tenantId key next : String} {patch : Json String} {d d' : FleetDevice} {e : Exn}
    (h : Patchable s tenantId key patch d next) (hpatch : patchFields patch { d with lifecycleState := next } = .error (d', e))
    (now : Int) : s.updateDevice env tenantId key patch now = (brokenOff s key d', .error e) := by
  unfold updateDevice
  rw [h.lookup]
  dsimp only
  rw [if_neg (not_not.mpr h.tenant), if_neg (by simp [h.unretired]), h.state]
  dsimp only
  rw [if_neg (by simp [h.valid]), h.located]
  dsimp only
  rw [hpatch]
  rfl

variable (env) in
/-- An update is refused, or its patch breaks off, or it is done. -/
theorem updateDevice_cases (s : FleetOperationsService ω) (tenantId key : String) (patch : Json String) (now : Int) :
    ((∀ d next, ¬ Patchable s tenantId key patch d next) ∧
      ∃ reply, reply ≠ .ok .ok ∧ s.updateDevice env tenantId key patch now = (s, reply)) ∨
    ∃ d next, Patchable s tenantId key patch d next ∧
      ((∃ d' e, patchFields patch { d with lifecycleState := next } = .error (d', e) ∧
          s.updateDevice env tenantId key patch now = (brokenOff s key d', .error e)) ∨
        ∃ d', patchFields patch { d with lifecycleState := next } = .ok d' ∧
          s.updateDevice env tenantId key patch now =
            (s.finishUpdate env tenantId key d.lifecycleState d' now, .ok .ok)) := by
  unfold updateDevice
  cases hd : s.devices.lookup key with
  | none => exact Or.inl ⟨fun d next h => by simpa [hd] using h.lookup, _, by simp, rfl⟩
  | some d =>
    have hown : ∀ {d' next}, Patchable s tenantId key patch d' next → d' = d :=
      fun h => (Option.some.inj (hd.symm.trans h.lookup)).symm
    dsimp only
    split_ifs with htenant hretired
    · exact Or.inl ⟨fun d' next h => htenant (hown h ▸ h.tenant), _, by simp, rfl⟩
    · refine Or.inl ⟨fun d' next h => ?_, _, by simp, rfl⟩
      obtain rfl := hown h
      simp [h.unretired] at hretired
    · cases hstate : patch.value "lifecycle_state" Json.getStr d.lifecycleState with
      | error e =>
        refine Or.inl ⟨fun d' next h => ?_, _, by simp, rfl⟩
        obtain rfl := hown h
        simpa [hstate] using h.state
      | ok next =>
        have hnext : ∀ {next'}, Patchable s tenantId key patch d next' → next' = next :=
          fun h => Except.ok.inj (h.state.symm.trans hstate)
        dsimp only
        split_ifs with hvalid
        · refine Or.inl ⟨fun d' next' h => ?_, _, by simp, rfl⟩
          obtain rfl := hown h
          obtain rfl := hnext h
          simp [h.valid] at hvalid
        · cases hlocated : locationMissing patch with
          | error e => exact Or.inl ⟨fun d' next' h => by simpa [hlocated] using h.located, _, by simp, rfl⟩
          | ok missing =>
            cases missing with
            | true => exact Or.inl ⟨fun d' next' h => by simpa [hlocated] using h.located, _, by simp, rfl⟩
            | false =>
              refine Or.inr ⟨d, next, ⟨hd, by simpa using htenant, by simpa using hretired, hstate, by simpa using hvalid,
                hlocated⟩, ?_⟩
              dsimp only
              cases hpatch : patchFields patch { d with lifecycleState := next } with
              | error r => exact Or.inl ⟨r.1, r.2, rfl, rfl⟩
              | ok d' => exact Or.inr ⟨d', rfl, rfl⟩

variable (env) in
theorem finishUpdate_devices (tenantId key prior : String) (d : FleetDevice) (now : Int) :
    (s.finishUpdate env tenantId key prior d now).devices = s.devices.insert key d := by
  simp only [finishUpdate]
  split_ifs <;> rfl

/-! ### Restarts -/

theorem Keyed.filed (h : Keyed s) : Filed FleetDevice.deviceId s.devices := h

theorem keyed_apply (h : Keyed s) (op : Op ω) : Keyed (apply env s op) := by
  intro k d' hd'
  have hturn : Turn op k (view s k) (view (apply env s op) k) := turns_apply h op k
  have hold : ∀ d, (view s k).1 = some d → d.deviceId = k := fun d hd => h k d hd
  have hnew : (view (apply env s op) k).1 = some d' := hd'
  generalize view (apply env s op) k = v' at hturn hnew
  generalize view s k = v at hturn hold
  cases hturn with
  | same => exact hold d' hnew
  | enrolled hb d hid _ _ =>
    obtain rfl := Option.some.inj hnew
    exact hid
  | patched hb d tenantId patch now _ _ _ next location branch group fleet labels _ _ _ =>
    obtain rfl := Option.some.inj hnew
    exact hold d rfl
  | retired hb d =>
    obtain rfl := Option.some.inj hnew
    exact hold d rfl
  | quarantined hb d reason _ =>
    obtain rfl := Option.some.inj hnew
    exact hold d rfl
  | heard hb d new firmware driver =>
    obtain rfl := Option.some.inj hnew
    exact hold d rfl
  | recovered hb d tenantId now _ _ =>
    obtain rfl := Option.some.inj hnew
    exact hold d rfl

theorem keyed_empty (w : ω) : Keyed ({ world := w } : FleetOperationsService ω) := fun _ _ hd => nomatch hd

/-- A new process has the devices that were saved. -/
theorem FleetOperationsService.Reloaded.lookup_devices (h : Reloaded s s') (hs : Keyed s) : Dict.Same s'.devices s.devices := by
  rw [h.devices]
  exact lookup_refiled hs.filed

theorem FleetOperationsService.Reloaded.keyed (h : Reloaded s s') (hs : Keyed s) : Keyed s' :=
  hs.filed.congr (h.lookup_devices hs)

theorem FleetOperationsService.Reloaded.places (h : Reloaded s s') (hs : Keyed s) (k : String) : placeOf s' k = placeOf s k := by
  rw [placeOf, h.lookup_devices hs k, placeOf]

end Drawer.FleetOps
