import Drawer.Proofs.CommandIds
import Drawer.Proofs.CommandPath
import Drawer.Sanity.Unsaved

/-! Restarts that nobody notices. As long as everything that changes is saved, the
store has the registry entry by entry, and a new process, which walks through its
maps in the same order, is the old one again. Two requests may change the registry
and then raise, before it is saved. -/

namespace Drawer.FleetOps
open FleetOperationsService

variable {ω : Type} {env : Env ω} {s s' : FleetOperationsService ω} {w : Dict.Walk String}

/-! ### Requests that raise -/

/-- If a member of the patch cannot be read, none before it gives the device anything new. -/
def BreaksClean (patch : Json String) (d : FleetDevice) (next : String) : Prop :=
  match patch.value "location_id" Json.getStr d.locationId with
  | .error _ => next = d.lifecycleState
  | .ok location =>
    match patch.value "branch_id" Json.getStr d.branchId with
    | .error _ => next = d.lifecycleState ∧ location = d.locationId
    | .ok branch =>
      match patch.value "group_id" Json.getStr d.groupId with
      | .error _ => next = d.lifecycleState ∧ location = d.locationId ∧ branch = d.branchId
      | .ok group =>
        match patch.value "fleet_id" Json.getStr d.fleetId with
        | .error _ => next = d.lifecycleState ∧ location = d.locationId ∧ branch = d.branchId ∧ group = d.groupId
        | .ok fleet =>
          match patch.value "labels" getLabels d.labels with
          | .error _ =>
            next = d.lifecycleState ∧ location = d.locationId ∧ branch = d.branchId ∧ group = d.groupId ∧ fleet = d.fleetId
          | .ok _ => True

theorem breaksClean_iff (patch : Json String) (d : FleetDevice) (next : String) :
    BreaksClean patch d next ↔ ∀ d' e, patchFields patch { d with lifecycleState := next } = .error (d', e) → d' = d := by
  obtain ⟨⟩ := d
  unfold BreaksClean patchFields
  dsimp only
  cases patch.value "location_id" Json.getStr _ with
  | error e => simp [assign, bind, Except.bind]
  | ok location =>
    simp only [assign, bind, Except.bind]
    cases patch.value "branch_id" Json.getStr _ with
    | error e => simp; tauto
    | ok branch =>
      simp only
      cases patch.value "group_id" Json.getStr _ with
      | error e => simp; tauto
      | ok group =>
        simp only
        cases patch.value "fleet_id" Json.getStr _ with
        | error e => simp; tauto
        | ok fleet =>
          simp only
          cases patch.value "labels" getLabels _ with
          | error e => simp; tauto
          | ok labels => simp

/-- The request saves what it changes: an update whose patch breaks off has changed nothing by then, and a fleet risk
query that comes to a device that it cannot assess has come to no new level by then. -/
def SavesAll (env : Env ω) (s : FleetOperationsService ω) : Op ω → Prop
  | .updateDevice tenantId key patch _ => ∀ d next, Patchable s tenantId key patch d next → BreaksClean patch d next
  | .fleetRisk tenantId now =>
    (ownDevices (s.devices.entries.map Sigma.snd) tenantId).all (assessable env s now) = false →
      ∀ d ∈ (ownDevices (s.devices.entries.map Sigma.snd) tenantId).takeWhile (assessable env s now), LevelKept env s now d
  | _ => True

theorem updateDevice_unsaved {tenantId key : String} {patch : Json String} {now : Int}
    (hop : SavesAll env s (.updateDevice tenantId key patch now)) :
    (s.updateDevice env tenantId key patch now).2 = .ok .ok ∨ SameFleet s (s.updateDevice env tenantId key patch now).1 := by
  rcases updateDevice_cases env s tenantId key patch now with
    ⟨-, reply, -, heq⟩ | ⟨d, next, hpatchable, ⟨d', e, hpatch, heq⟩ | ⟨d', -, heq⟩⟩
  · rw [heq]
    exact Or.inr (SameFleet.refl s)
  · obtain rfl := (breaksClean_iff patch d next).mp (hop d next hpatchable) d' e hpatch
    rw [heq]
    exact Or.inr { SameFleet.refl s with devices := Dict.same_insert hpatchable.lookup }
  · rw [heq]
    exact Or.inl rfl

theorem fleetRisk_unsaved {tenantId : String} {now : Int} (hop : SavesAll env s (.fleetRisk tenantId now)) :
    returned (s.fleetRisk env tenantId now).2 = true ∨ SameFleet s (s.fleetRisk env tenantId now).1 := by
  rw [fleetRisk_returned env tenantId now s]
  cases hall : (ownDevices (s.devices.entries.map Sigma.snd) tenantId).all (assessable env s now) with
  | true => exact Or.inl rfl
  | false =>
    have hkept : (s.fleetRisk env tenantId now).1 = s := foldl_kept env tenantId now _ s [] (hop hall)
    rw [hkept]
    exact Or.inr (SameFleet.refl s)

theorem unsaved_same {op : Op ω} (hsaves : saves env s op = false) (hop : SavesAll env s op) :
    SameFleet s (apply env s op) := by
  have hunsaved : ∀ {saved : Prop}, saved ∨ SameFleet s (apply env s op) → (saved → saves env s op = true) →
      SameFleet s (apply env s op) :=
    fun h hsaved => h.resolve_left fun hs => Bool.false_ne_true (hsaves.symm.trans (hsaved hs))
  cases op with
  | enroll d actorId now => exact hunsaved (enroll_unsaved d actorId now) fun h => by simp [saves, h]
  | updateDevice tenantId key patch now => exact hunsaved (updateDevice_unsaved hop) fun h => by simp [saves, h]
  | retireDevice tenantId key now => exact hunsaved (retireDevice_unsaved tenantId key now) fun h => by simp [saves, h]
  | receiveHeartbeat hb now =>
    refine hunsaved (receiveHeartbeat_unsaved hb now) ?_
    rintro ⟨r, hr, hknown, hretired⟩
    simp [saves, hr, hknown, hretired]
  | createCommand c now => cases hsaves
  | cancelCommand tenantId id now => exact hunsaved (cancelCommand_unsaved tenantId id now) fun h => by simp [saves, h]
  | acknowledgeCommand tenantId id now =>
    exact hunsaved (acknowledgeCommand_unsaved tenantId id now) fun h => by simpa [saves] using h
  | completeCommand tenantId id success result now =>
    exact hunsaved (completeCommand_unsaved tenantId id success result now) fun h => by simp [saves, h]
  | expireCommands now => cases hsaves
  | deviceRisk tenantId key now => exact hunsaved (deviceRisk_unsaved tenantId key now) fun h => by simp [saves, h]
  | fleetRisk tenantId now => exact hunsaved (fleetRisk_unsaved hop) fun h => by simp [saves, h]
  | locationRisk tenantId location now =>
    exact hunsaved (locationRisk_unsaved tenantId location now) fun h => by simp [saves, h]
  | quarantine tenantId key reason now =>
    exact hunsaved (quarantine_unsaved tenantId key reason now) fun h => by simp [saves, h]
  | recover tenantId key now => exact hunsaved (recover_unsaved tenantId key now) fun h => by simp [saves, h]
  | outside world => exact sameFleet_world s world

/-! ### Records under their keys -/

/-- What enrolment writes, but the devices, is filed under its own keys. -/
structure EntriesFiled (s : FleetOperationsService ω) : Prop where
  fleets : Filed Fleet.fleetId s.fleets
  locations : Filed Location.locationId s.locations
  groups : Filed DeviceGroup.groupId s.groups
  enrollments : Filed DeviceEnrollment.deviceId s.enrollments
  assignments : Filed DeviceAssignment.deviceId s.assignments

theorem EntriesFiled.settled (h : EntriesFiled s) (hsettled : Settled s s') : EntriesFiled s' where
  fleets := hsettled.fleets ▸ h.fleets
  locations := hsettled.locations ▸ h.locations
  groups := hsettled.groups ▸ h.groups
  enrollments := hsettled.enrollments ▸ h.enrollments
  assignments := hsettled.assignments ▸ h.assignments

theorem EntriesFiled.insertDevice (h : EntriesFiled s) (d : FleetDevice) (actorId : String) (now : Int) :
    EntriesFiled (s.insertDevice d actorId now) where
  fleets := h.fleets.insert rfl
  locations := h.locations.insert rfl
  groups := by
    unfold FleetOperationsService.insertDevice
    dsimp only
    split_ifs
    · exact h.groups
    · exact h.groups.insert rfl
  enrollments := h.enrollments.insert rfl
  assignments := h.assignments.insert rfl

theorem entriesFiled_apply (h : EntriesFiled s) (op : Op ω) : EntriesFiled (apply env s op) := by
  cases op with
  | enroll d actorId now =>
    rcases settled_enroll env (s := s) d actorId now with hsettled | ⟨-, d', -, hsettled⟩
    · exact h.settled hsettled
    · exact (h.insertDevice d' actorId now).settled hsettled
  | updateDevice tenantId key patch now =>
    rcases updateDevice_cases env s tenantId key patch now with
      ⟨-, reply, -, heq⟩ | ⟨d, next, -, ⟨d', e, -, heq⟩ | ⟨d', -, heq⟩⟩
    · rw [apply, heq]
      exact h
    · rw [apply, heq]
      exact ⟨h.fleets, h.locations, h.groups, h.enrollments, h.assignments⟩
    · rw [apply, heq]
      simp only [finishUpdate]
      split_ifs <;> exact ⟨h.fleets, h.locations, h.groups, h.enrollments, h.assignments.insert rfl⟩
  | receiveHeartbeat hb now =>
    rcases settled_receiveHeartbeat env (s := s) hb now with hsettled | ⟨-, d, d', -, -, hsettled⟩
    · exact h.settled hsettled
    · refine EntriesFiled.settled ?_ hsettled
      exact ⟨h.fleets, h.locations, h.groups, h.enrollments, h.assignments⟩
  | _ =>
    refine h.settled ?_
    exact settled_apply env trivial

/-- Every record is filed under its own key, and every command is in a state that a stored one can be in. -/
structure FleetFiled (s : FleetOperationsService ω) : Prop where
  entries : EntriesFiled s
  devices : Keyed s
  heartbeats : Filed FleetHeartbeat.deviceId s.heartbeats
  commands : Filed FleetCommand.commandId s.commands
  known : Known s.commands

theorem fleetFiled_empty (world : ω) : FleetFiled ({ world } : FleetOperationsService ω) :=
  ⟨⟨filed_empty _, filed_empty _, filed_empty _, filed_empty _, filed_empty _⟩, keyed_empty world, filed_empty _, filed_empty _,
    fun _ _ hc => nomatch hc⟩

theorem FleetFiled.same (h : FleetFiled s) (hsame : SameFleet s s') : FleetFiled s' where
  entries := ⟨h.entries.fleets.congr hsame.fleets, h.entries.locations.congr hsame.locations,
    h.entries.groups.congr hsame.groups, h.entries.enrollments.congr hsame.enrollments,
    h.entries.assignments.congr hsame.assignments⟩
  devices := h.devices.filed.congr hsame.devices
  heartbeats := h.heartbeats.congr hsame.heartbeats
  commands := h.commands.congr hsame.commands
  known := fun id c hc => h.known id c ((hsame.commands id).symm.trans hc)

theorem FleetFiled.apply (h : FleetFiled s) (op : Op ω) : FleetFiled (apply env s op) := by
  have hturned : Turned env "" s op := turned_apply h.known op
  refine ⟨entriesFiled_apply h.entries op, keyed_apply h.devices op, ?_, fun id c' hc' => ?_,
    fun id c' hc' => (hturned.moves id).known (h.known id) c' hc'⟩
  · rcases heartbeats_apply env (s := s) op with hsame | ⟨hb, now, d, -, -, hd, hinsert⟩
    · exact hsame ▸ h.heartbeats
    · rw [hinsert]
      exact h.heartbeats.insert (h.devices _ d hd).symm
  · rcases hturned.ids id c' hc' with hid | ⟨c, hc, hid⟩
    · exact hid
    · exact hid.trans (h.commands id c hc)

/-- A new process has the entries that were saved. -/
theorem FleetFiled.reloaded (h : FleetFiled s) (hs' : Reloaded s s') : SameFleet s s' where
  fleets := hs'.fleets ▸ lookup_refiled h.entries.fleets
  locations := hs'.locations ▸ lookup_refiled h.entries.locations
  groups := hs'.groups ▸ lookup_refiled h.entries.groups
  enrollments := hs'.enrollments ▸ lookup_refiled h.entries.enrollments
  assignments := hs'.assignments ▸ lookup_refiled h.entries.assignments
  devices := hs'.lookup_devices h.devices
  heartbeats := hs'.heartbeats ▸ lookup_refiled h.heartbeats
  commands := hs'.commands ▸ lookup_refiled h.commands
  policyViolations := hs'.policyViolations
  riskLevels := hs'.riskLevels
  events := hs'.events

/-! ### The store -/

/-- What a new process finds in the file is the registry. -/
def OnDisk (file : Option (Json String)) (s : FleetOperationsService ω) : Prop :=
  (file = none ∧ SameFleet { world := s.world } s) ∨
    ∃ s₀ : FleetOperationsService ω, file = some s₀.saved ∧ FleetFiled s₀ ∧ SameFleet s₀ s

theorem OnDisk.same {file : Option (Json String)} (h : OnDisk file s) (hsame : SameFleet s s') : OnDisk file s' := by
  rcases h with ⟨hnone, hempty⟩ | ⟨s₀, hsome, hfiled, hs₀⟩
  · exact Or.inl ⟨hnone, (sameFleet_world _ _).trans (hempty.trans hsame)⟩
  · exact Or.inr ⟨s₀, hsome, hfiled, hs₀.trans hsame⟩

theorem SameFleet.symm (h : SameFleet s s') : SameFleet s' s :=
  ⟨h.fleets.symm, h.locations.symm, h.groups.symm, h.enrollments.symm, h.assignments.symm, h.devices.symm, h.heartbeats.symm,
    h.commands.symm, h.policyViolations.symm, h.riskLevels.symm, h.events.symm⟩

variable {r s₀ : Registry ω}

/-- A new process has the registry that is on disk. -/
theorem OnDisk.restart (h : OnDisk r.file s) (hpath : r.storePath ≠ "") (world : ω) :
    SameFleet s (r.restart world).service ∧ (r.restart world).service.world = world := by
  rw [Registry.restart, if_neg hpath]
  rcases h with ⟨hnone, hempty⟩ | ⟨s₀, hsome, hfiled, hs₀⟩
  · rw [hnone]
    exact ⟨hempty.symm.trans (sameFleet_world _ world), rfl⟩
  · obtain ⟨s', hload, hreloaded⟩ := load_saved s₀ world
    rw [hsome]
    simp only [hload]
    exact ⟨hs₀.symm.trans (hfiled.reloaded hreloaded), load_world hload⟩

/-! ### Runs -/

/-- What a run keeps as long as every request saves what it changes: the registry is in order, and on disk. -/
structure Current (w : Dict.Walk String) (r : Registry ω) : Prop where
  filed : FleetFiled r.service
  ordered : r.service.walked w = r.service
  disk : OnDisk r.file r.service

theorem current_start (storePath : String) (world : ω) : Current w { storePath, service := { world } } where
  filed := fleetFiled_empty world
  ordered := by simp [FleetOperationsService.walked]
  disk := Or.inl ⟨rfl, SameFleet.refl _⟩

/-- The new process is the old one again. -/
theorem Current.restart (h : Current w r) (hpath : r.storePath ≠ "") (world : ω) :
    SameFleet r.service (r.stepIn w env (.restart world)).service ∧
      (r.stepIn w env (.restart world)).service.world = world := by
  obtain ⟨hsame, hworld⟩ := h.disk.restart hpath world
  exact ⟨hsame.trans (sameFleet_walked w _), hworld⟩

theorem Current.unnoticed (h : Current w r) (hpath : r.storePath ≠ "") : Unnoticed w env r := by
  obtain ⟨hsame, hworld⟩ := h.disk.restart hpath r.service.world
  have hagain : (r.stepIn w env (.restart r.service.world)).service = r.service :=
    (hsame.walked hworld w).trans h.ordered
  exact fun later => by rw [hagain]

theorem Current.step (h : Current w r) (hpath : r.storePath ≠ "") {e : Event ω}
    (he : ∀ op, e = .request op → SavesAll env r.service op) : Current w (r.stepIn w env e) := by
  cases e with
  | request op =>
    have hwalked := sameFleet_walked w (apply env r.service op)
    have hfiled : FleetFiled (r.stepIn w env (.request op)).service := (h.filed.apply op).same hwalked
    refine ⟨hfiled, walked_walked w _, ?_⟩
    unfold Registry.stepIn
    dsimp only
    by_cases hsaves : saves env r.service op = true
    · rw [if_pos ⟨hpath, hsaves⟩]
      exact Or.inr ⟨_, rfl, hfiled, SameFleet.refl _⟩
    · rw [if_neg fun hboth => hsaves hboth.2]
      exact h.disk.same ((unsaved_same (by simpa using hsaves) (he op rfl)).trans hwalked)
  | restart world =>
    have hsame : SameFleet r.service (r.stepIn w env (.restart world)).service := (h.restart hpath world).1
    exact ⟨h.filed.same hsame, walked_walked w _, h.disk.same hsame⟩

/-! ### What is noticed -/

/-- After a request that saves nothing, a new process has the registry as it was before. -/
theorem Current.forgets (h : Current w r) (hpath : r.storePath ≠ "") {op : Op ω} (hsaves : saves env r.service op = false)
    (world : ω) : SameFleet r.service ((r.stepIn w env (.request op)).stepIn w env (.restart world)).service := by
  have hdisk : OnDisk (r.stepIn w env (.request op)).file r.service := by
    unfold Registry.stepIn
    dsimp only
    rw [if_neg fun hboth => Bool.false_ne_true (hsaves.symm.trans hboth.2)]
    exact h.disk
  obtain ⟨hsame, -⟩ := OnDisk.restart (r := r.stepIn w env (.request op)) hdisk hpath world
  exact hsame.trans (sameFleet_walked w _)

theorem Unnoticed.ask (h : Unnoticed w env r) (query : FleetQuery) :
    (r.stepIn w env (.restart r.service.world)).service.ask env query = r.service.ask env query :=
  congrArg Prod.fst (List.cons.inj (h [.query query])).1

theorem SameFleet.device (h : SameFleet s s') (tenantId key : String) : s'.device tenantId key = s.device tenantId key := by
  rw [FleetOperationsService.device, h.devices key, FleetOperationsService.device]

theorem breaksClean_of_unnoticed (h : Current w r) (hpath : r.storePath ≠ "") {tenantId key : String} {patch : Json String}
    {now : Int} (hafter : Unnoticed w env (r.stepIn w env (.request (.updateDevice tenantId key patch now))))
    {d : FleetDevice} {next : String} (hpatchable : Patchable r.service tenantId key patch d next) :
    BreaksClean patch d next := by
  rw [breaksClean_iff]
  intro d' e hpatch
  have heq : r.service.updateDevice env tenantId key patch now = (brokenOff r.service key d', .error e) :=
    updateDevice_broken hpatchable hpatch now
  have hsaves : saves env r.service (.updateDevice tenantId key patch now) = false := by simp [saves, heq]
  have hleaves := leaves_patchFields patch { d with lifecycleState := next }
  rw [hpatch] at hleaves
  have hlive : (r.stepIn w env (.request (.updateDevice tenantId key patch now))).service.device tenantId key = some d' := by
    refine ((sameFleet_walked w _).device tenantId key).trans ?_
    rw [apply, heq, FleetOperationsService.device, brokenOff, AList.lookup_insert]
    exact if_pos (by simpa using hleaves.owner.2.trans hpatchable.tenant)
  have hfound := ((h.forgets hpath hsaves _).device tenantId key).symm.trans
    (FleetAnswer.device.inj (hafter.ask (.device tenantId key)))
  have hstored : r.service.device tenantId key = some d := by
    rw [FleetOperationsService.device, hpatchable.lookup]
    exact if_pos (by simpa using hpatchable.tenant)
  exact Option.some.inj (hlive.symm.trans (hfound.symm.trans hstored))

theorem levelKept_of_unnoticed (h : Current w r) (hpath : r.storePath ≠ "") {tenantId : String} {now : Int}
    (hafter : Unnoticed w env (r.stepIn w env (.request (.fleetRisk tenantId now))))
    (hraises : (ownDevices (r.service.devices.entries.map Sigma.snd) tenantId).all (assessable env r.service now) = false)
    {d : FleetDevice} (hd : d ∈ (ownDevices (r.service.devices.entries.map Sigma.snd) tenantId).takeWhile
      (assessable env r.service now)) : LevelKept env r.service now d := by
  by_contra hchanged
  have hsaves : saves env r.service (.fleetRisk tenantId now) = false :=
    (fleetRisk_returned env tenantId now r.service).trans hraises
  obtain ⟨e, more, he, hevents⟩ := foldl_logged env tenantId now _ r.service [] hd hchanged
  have hlive : (r.stepIn w env (.request (.fleetRisk tenantId now))).service.events = r.service.events ++ e :: more := hevents
  have hfound := FleetAnswer.events.inj (hafter.ask (.events tenantId))
  rw [(h.forgets hpath hsaves _).events, hlive] at hfound
  have hlength := congrArg List.length hfound
  simp [eventsOf, List.filter_append, he] at hlength

theorem savesAll_of_unnoticed (h : Current w r) (hpath : r.storePath ≠ "") {op : Op ω}
    (hafter : Unnoticed w env (r.stepIn w env (.request op))) : SavesAll env r.service op := by
  cases op with
  | updateDevice tenantId key patch now => exact fun d next hpatchable => breaksClean_of_unnoticed h hpath hafter hpatchable
  | fleetRisk tenantId now => exact fun hraises d hd => levelKept_of_unnoticed h hpath hafter hraises hd
  | _ => exact trivial

theorem stepIn_storePath (r : Registry ω) (e : Event ω) : (r.stepIn w env e).storePath = r.storePath := by
  cases e <;> rfl

/-- A registry with a store is current wherever its requests so far have saved what they changed. -/
theorem current_run {start : Registry ω} (hstart : Current w start ∧ start.storePath ≠ "") (events : List (Event ω))
    (hsaves : ∀ before op after, events = before ++ .request op :: after →
      Current w (before.foldl (Registry.stepIn w env) start) ∧ (before.foldl (Registry.stepIn w env) start).storePath ≠ "" →
        SavesAll env (before.foldl (Registry.stepIn w env) start).service op) :
    Current w (events.foldl (Registry.stepIn w env) start) ∧ (events.foldl (Registry.stepIn w env) start).storePath ≠ "" := by
  induction events using List.reverseRecOn with
  | nil => exact hstart
  | append_singleton events e ih =>
    have hbefore := ih fun before op after hes => hsaves before op (after ++ [e]) (by rw [hes]; simp)
    rw [List.foldl_append]
    refine ⟨hbefore.1.step hbefore.2 fun op he => ?_, (stepIn_storePath _ e).trans_ne hbefore.2⟩
    subst he
    exact hsaves events op [] rfl hbefore

/-- In a run, no restart would be noticed at any point just if every request saves what it changes. -/
theorem restart_unnoticed_iff (w : Dict.Walk String) (env : Env ω) {storePath : String} (hpath : storePath ≠ "") (world : ω)
    (events : List (Event ω)) :
    (∀ before after, events = before ++ after →
      Unnoticed w env (before.foldl (Registry.stepIn w env) { storePath, service := { world } })) ↔
    ∀ before op after, events = before ++ .request op :: after →
      SavesAll env (before.foldl (Registry.stepIn w env) { storePath, service := { world } }).service op := by
  have hstart : Current w ({ storePath, service := { world } } : Registry ω) := current_start storePath world
  constructor
  · intro h
    have hsaves : ∀ before op after, events = before ++ .request op :: after →
        Current w (before.foldl (Registry.stepIn w env) { storePath, service := { world } }) ∧
          (before.foldl (Registry.stepIn w env) { storePath, service := { world } }).storePath ≠ "" →
        SavesAll env (before.foldl (Registry.stepIn w env) { storePath, service := { world } }).service op := by
      intro before op after hevents hcurrent
      have hunnoticed := h (before ++ [.request op]) after (by rw [hevents]; simp)
      rw [List.foldl_append] at hunnoticed
      exact savesAll_of_unnoticed hcurrent.1 hcurrent.2 hunnoticed
    -- the run up to a request meets what the run as a whole meets
    intro before op after hevents
    refine hsaves before op after hevents (current_run ⟨hstart, hpath⟩ before fun before' op' after' hbefore => ?_)
    exact hsaves before' op' (after' ++ .request op :: after) (by rw [hevents, hbefore]; simp)
  · intro h before after hevents
    obtain ⟨hcurrent, hstored⟩ := current_run ⟨hstart, hpath⟩ before fun before' op after' hbefore _ =>
      h before' op (after' ++ after) (by rw [hevents, hbefore]; simp)
    exact hcurrent.unnoticed hstored

/-! ### A patch that breaks off -/

instance : Std.Total fun a b : String => textBefore b a = false := ⟨fun _ _ => Lexical.not_less_total _ _⟩

instance : Std.Antisymm fun a b : String => textBefore b a = false :=
  ⟨fun _ _ hab hba => String.toList_injective
    (List.map_injective_iff.mpr (fun _ _ => Char.toNat_inj.mp) (Lexical.not_less_antisymm hab hba))⟩

instance : IsTrans String fun a b => textBefore b a = false := ⟨fun _ _ _ => Lexical.not_less_trans⟩

/-- Maps are walked through in the order of their texts. -/
def byText : Dict.Walk String := Dict.Walk.byKey fun a b => textBefore b a = false

def placedDevice : FleetDevice :=
  { deviceId := "d", tenantId := "t", branchId := "b", locationId := "l", fleetId := "f", capabilities := ["inventory"] }

/-- The device is enrolled, quarantined, and its commands expire. -/
def calmRun : List (Event Unit) :=
  [.request (.enroll placedDevice "admin" 7), .request (.quarantine "t" "d" "stolen" 8), .request (.expireCommands 9)]

theorem restart_unnoticed_calm : Unnoticed byText bareEnv
    (calmRun.foldl (Registry.stepIn byText bareEnv) { storePath := "fleet.json", service := { world := () } }) := by
  refine (restart_unnoticed_iff byText bareEnv (by decide) () calmRun).mpr (fun before op after hevents => ?_) calmRun [] rfl
  have hmem : Event.request op ∈ calmRun := by
    rw [hevents]
    simp
  simp only [calmRun, List.mem_cons, Event.request.injEq, List.not_mem_nil, or_false] at hmem
  rcases hmem with rfl | rfl | rfl <;> exact trivial

/-- The patch gives the device another location and breaks off at the branch: the registry has the new location, and a
new process the old one. -/
theorem restart_forgets_location : ¬ ∀ events : List (Event Unit), Unnoticed byText bareEnv
    (events.foldl (Registry.stepIn byText bareEnv) { storePath := "fleet.json", service := { world := () } }) := by
  intro hall
  have hsame := hall [.request (.enroll placedDevice "admin" 7),
    .request (.updateDevice "t" "d" (.obj [("location_id", .str "x"), ("branch_id", .int 5)]) 8)] [.query (.device "t" "d")]
  have hdevice := FleetAnswer.device.inj (congrArg Prod.fst (List.cons.inj hsame).1)
  exact absurd hdevice (by decide +kernel)

end Drawer.FleetOps
