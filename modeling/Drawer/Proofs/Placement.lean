import Drawer.Proofs.CommandIds
import Drawer.Sanity.Places

/-! Where devices belong, three times over: in their records, in the lists of their
groups, and in their assignments. Enrolment writes all three. An update writes the
record, member by member, and then the assignment, but no group; one that breaks off
writes the record alone. -/

namespace Drawer.FleetOps
open FleetOperationsService Transition

variable {ω : Type} {env : Env ω} {s s' : FleetOperationsService ω}

/-- `groups_[g].device_ids`. -/
def membersOf (s : FleetOperationsService ω) (g : String) : List String := ((s.groups.lookup g).getD {}).deviceIds

/-- The assignment is to the place. -/
structure Agrees (a : DeviceAssignment) (p : Place) : Prop where
  fleet : a.fleetId = p.fleetId
  group : a.groupId = p.groupId
  location : a.locationId = p.locationId
  branch : a.branchId = p.branchId

/-- Every device is a member of its group, once, and of no other, and has an assignment that agrees with it. -/
structure Mirrored (s : FleetOperationsService ω) : Prop where
  groups : ∀ k d g, s.devices.lookup k = some d → (membersOf s g).count k = if d.groupId = g ∧ g ≠ "" then 1 else 0
  assignments : ∀ k d, s.devices.lookup k = some d → ∃ a, s.assignments.lookup k = some a ∧ Agrees a d.place

/-- The patch gives the device no other group; and if one of its members cannot be read, none before it gives the
device another location, branch or fleet. -/
def KeepsPlace (patch : Json String) (d : FleetDevice) : Prop :=
  match patch.value "location_id" Json.getStr d.locationId with
  | .error _ => True
  | .ok location =>
    match patch.value "branch_id" Json.getStr d.branchId with
    | .error _ => location = d.locationId
    | .ok branch =>
      match patch.value "group_id" Json.getStr d.groupId with
      | .error _ => location = d.locationId ∧ branch = d.branchId
      | .ok group =>
        group = d.groupId ∧
          match patch.value "fleet_id" Json.getStr d.fleetId with
          | .error _ => location = d.locationId ∧ branch = d.branchId
          | .ok fleet =>
            match patch.value "labels" getLabels d.labels with
            | .error _ => location = d.locationId ∧ branch = d.branchId ∧ fleet = d.fleetId
            | .ok _ => True

def leftInPlace (d : FleetDevice) : Except (FleetDevice × Exn) FleetDevice → Prop
  | .ok d' => d'.groupId = d.groupId
  | .error (d', _) => d'.place = d.place

theorem keepsPlace_iff (patch : Json String) (d : FleetDevice) (next : String) :
    KeepsPlace patch d ↔ leftInPlace d (patchFields patch { d with lifecycleState := next }) := by
  unfold KeepsPlace patchFields
  cases patch.value "location_id" Json.getStr d.locationId with
  | error e => exact iff_of_true trivial rfl
  | ok location =>
    simp only [assign, bind, Except.bind]
    cases patch.value "branch_id" Json.getStr d.branchId with
    | error e => simp [leftInPlace, FleetDevice.place]
    | ok branch =>
      simp only
      cases patch.value "group_id" Json.getStr d.groupId with
      | error e => simp [leftInPlace, FleetDevice.place]
      | ok group =>
        simp only
        cases patch.value "fleet_id" Json.getStr d.fleetId with
        | error e => simp [leftInPlace, FleetDevice.place]
        | ok fleet =>
          simp only
          cases patch.value "labels" getLabels d.labels with
          | error e => simp [leftInPlace, FleetDevice.place]; tauto
          | ok labels => simp [leftInPlace]

/-! ### Requests -/

/-- What a run keeps: records under their own keys, everything mirrored, and no member of a group that is not a device. -/
structure Placed (s : FleetOperationsService ω) : Prop where
  keyed : Keyed s
  grouped : Filed DeviceGroup.groupId s.groups
  assigned : Filed DeviceAssignment.deviceId s.assignments
  members : ∀ k g, (membersOf s g).count k = if (placeOf s k).map Place.groupId = some g ∧ g ≠ "" then 1 else 0
  assignments : ∀ k p, placeOf s k = some p → ∃ a, s.assignments.lookup k = some a ∧ Agrees a p

theorem Placed.mirrored (h : Placed s) : Mirrored s := by
  refine ⟨fun k d g hd => ?_, fun k d hd => h.assignments k d.place (placeOf_of_lookup hd)⟩
  have hmembers := h.members k g
  simp only [placeOf_of_lookup hd, Option.map_some, Option.some.injEq] at hmembers
  exact hmembers

theorem Placed.moved (h : Placed s) (hkeyed : Keyed s') (hgroups : s'.groups = s.groups)
    (hassignments : s'.assignments = s.assignments)
    (hplaces : ∀ k, ∃ time : Int → Int, placeOf s' k =
      (placeOf s k).map fun p => { p with lastHeartbeatEpoch := time p.lastHeartbeatEpoch }) : Placed s' := by
  refine ⟨hkeyed, hgroups ▸ h.grouped, hassignments ▸ h.assigned, fun k g => ?_, fun k p hp => ?_⟩
  · obtain ⟨time, htime⟩ := hplaces k
    rw [membersOf, hgroups, htime, Option.map_map]
    exact h.members k g
  · obtain ⟨time, htime⟩ := hplaces k
    rw [htime] at hp
    obtain ⟨p₀, hp₀, rfl⟩ := Option.map_eq_some_iff.mp hp
    obtain ⟨a, ha, hagrees⟩ := h.assignments k p₀ hp₀
    exact ⟨a, hassignments ▸ ha, ⟨hagrees.fleet, hagrees.group, hagrees.location, hagrees.branch⟩⟩

theorem Placed.settled (h : Placed s) (hsettled : Settled s s') (hkeyed : Keyed s') : Placed s' := by
  refine h.moved hkeyed hsettled.groups hsettled.assignments fun k => ⟨id, ?_⟩
  rw [hsettled.places k]
  exact (congrFun Option.map_id (placeOf s k)).symm

theorem membersOf_insertDevice (d : FleetDevice) (actorId : String) (now : Int) (g : String) :
    membersOf (s.insertDevice d actorId now) g =
      if d.groupId = g ∧ g ≠ "" then membersOf s g ++ [d.deviceId] else membersOf s g := by
  unfold membersOf insertDevice
  by_cases hempty : d.groupId = ""
  · rw [if_pos hempty, if_neg]
    rintro ⟨rfl, hg⟩
    exact hg hempty
  · rw [if_neg hempty]
    dsimp only
    rw [Dict.lookup_insert_if]
    by_cases hg : g = d.groupId
    · subst hg
      rw [if_pos rfl, if_pos ⟨rfl, hempty⟩]
      rfl
    · rw [if_neg hg, if_neg fun hboth => hg hboth.1.symm]

/-- A new device is entered in all three places. -/
theorem Placed.insertDevice (h : Placed s) {d : FleetDevice} (hnew : s.devices.lookup d.deviceId = none) (actorId : String)
    (now : Int) (hkeyed : Keyed (s.insertDevice d actorId now)) : Placed (s.insertDevice d actorId now) := by
  have hnone : placeOf s d.deviceId = none := by rw [placeOf, hnew]; rfl
  have hplaces : ∀ k, placeOf (s.insertDevice d actorId now) k = if k = d.deviceId then some d.place else placeOf s k :=
    placeOf_insert rfl
  refine ⟨hkeyed, ?_, ?_, fun k g => ?_, fun k p hp => ?_⟩
  · intro g v hv
    simp only [FleetOperationsService.insertDevice] at hv
    split_ifs at hv
    · exact h.grouped g v hv
    · refine h.grouped.insert ?_ g v hv
      rfl
  · exact h.assigned.insert rfl
  · have hmembers := h.members k g
    rw [membersOf_insertDevice, hplaces]
    by_cases hk : k = d.deviceId
    · subst hk
      rw [hnone] at hmembers
      simp only [Option.map_none, reduceCtorEq, false_and, if_false] at hmembers
      simp only [if_true, Option.map_some, Option.some.injEq, FleetDevice.place]
      split_ifs
      · rw [List.count_append, hmembers, List.count_singleton_self]
      · exact hmembers
    · rw [if_neg hk, ← hmembers]
      split_ifs
      · rw [List.count_append, List.count_singleton, if_neg (by simpa using Ne.symm hk), Nat.add_zero]
      · rfl
  · rw [hplaces] at hp
    simp only [FleetOperationsService.insertDevice, Dict.lookup_insert_if]
    split_ifs at hp ⊢ with hk
    · obtain rfl := Option.some.inj hp
      exact ⟨_, rfl, ⟨rfl, rfl, rfl, rfl⟩⟩
    · exact h.assignments k p hp

theorem PatchOf.unmoved {d d' : FleetDevice} (h : PatchOf d d') :
    d'.tenantId = d.tenantId ∧ d'.lastHeartbeatEpoch = d.lastHeartbeatEpoch := by
  obtain ⟨_, _, _, _, _, rfl⟩ := h
  exact ⟨rfl, rfl⟩

variable (env) in
theorem finishUpdate_groups (tenantId key prior : String) (d : FleetDevice) (now : Int) :
    (s.finishUpdate env tenantId key prior d now).groups = s.groups := by
  simp only [finishUpdate]
  split_ifs <;> rfl

variable (env) in
theorem finishUpdate_assignments (tenantId key prior : String) (d : FleetDevice) (now : Int) :
    (s.finishUpdate env tenantId key prior d now).assignments =
      s.assignments.insert key (assignmentOf d tenantId key now) := by
  simp only [finishUpdate]
  split_ifs <;> rfl

/-- An update that is done enters the place in the assignment too. -/
theorem Placed.finishUpdate (h : Placed s) {tenantId key prior : String} {d d' : FleetDevice} {now : Int}
    (hd : s.devices.lookup key = some d) (hgroup : d'.groupId = d.groupId)
    (hkeyed : Keyed (s.finishUpdate env tenantId key prior d' now)) :
    Placed (s.finishUpdate env tenantId key prior d' now) := by
  have hplaces := placeOf_insert (finishUpdate_devices env (s := s) tenantId key prior d' now)
  have hgroups := finishUpdate_groups env (s := s) tenantId key prior d' now
  have hassignments := finishUpdate_assignments env (s := s) tenantId key prior d' now
  refine ⟨hkeyed, hgroups ▸ h.grouped, ?_, fun k g => ?_, fun k p hp => ?_⟩
  · rw [hassignments]
    exact h.assigned.insert rfl
  · have hsame : (placeOf (s.finishUpdate env tenantId key prior d' now) k).map Place.groupId =
        (placeOf s k).map Place.groupId := by
      rw [hplaces]
      split_ifs with hk
      · rw [hk, placeOf_of_lookup hd]
        exact congrArg some hgroup
      · rfl
    rw [membersOf, hgroups, hsame]
    exact h.members k g
  · rw [hplaces] at hp
    rw [hassignments, Dict.lookup_insert_if]
    split_ifs at hp ⊢ with hk
    · obtain rfl := Option.some.inj hp
      exact ⟨_, rfl, ⟨rfl, rfl, rfl, rfl⟩⟩
    · exact h.assignments k p hp

theorem Placed.updateDevice (h : Placed s) {tenantId key : String} {patch : Json String} {now : Int}
    (hkeeps : ∀ d next, Patchable s tenantId key patch d next → KeepsPlace patch d)
    (hkeyed : Keyed (s.updateDevice env tenantId key patch now).1) :
    Placed (s.updateDevice env tenantId key patch now).1 := by
  rcases updateDevice_cases env s tenantId key patch now with ⟨-, reply, -, heq⟩ | ⟨d, next, hpatchable, hcase⟩
  · rw [heq]
    exact h
  · have hleft := (keepsPlace_iff patch d next).mp (hkeeps d next hpatchable)
    rcases hcase with ⟨d', e, hpatch, heq⟩ | ⟨d', hpatch, heq⟩
    · rw [hpatch] at hleft
      rw [heq] at hkeyed ⊢
      exact h.settled (settled_write hpatchable.lookup hleft rfl rfl rfl rfl rfl rfl) hkeyed
    · rw [hpatch] at hleft
      rw [heq] at hkeyed ⊢
      exact h.finishUpdate hpatchable.lookup hleft hkeyed

variable (env) in
/-- An update that moves the device away from its group, or breaks off when it has moved, is seen afterwards. -/
theorem keepsPlace_of_mirrored (now : Int) (h : Mirrored s) {tenantId key next : String} {patch : Json String} {d : FleetDevice}
    (hpatchable : Patchable s tenantId key patch d next)
    (hafter : Mirrored (s.updateDevice env tenantId key patch now).1) : KeepsPlace patch d := by
  rw [keepsPlace_iff patch d next]
  rcases updateDevice_cases env s tenantId key patch now with ⟨hnot, -⟩ | ⟨d₀, next₀, hpatchable₀, hcase⟩
  · exact absurd hpatchable (hnot d next)
  obtain rfl := Option.some.inj (hpatchable.lookup.symm.trans hpatchable₀.lookup)
  obtain rfl := Except.ok.inj (hpatchable.state.symm.trans hpatchable₀.state)
  have hleaves := leaves_patchFields patch { d with lifecycleState := next }
  rcases hcase with ⟨d', e, hpatch, heq⟩ | ⟨d', hpatch, heq⟩
  · rw [hpatch] at hleaves ⊢
    rw [heq] at hafter
    obtain ⟨a, ha, hagrees⟩ := h.assignments key d hpatchable.lookup
    obtain ⟨a', ha', hagrees'⟩ := hafter.assignments key d' (AList.lookup_insert _)
    obtain rfl := Option.some.inj (ha.symm.trans ha')
    obtain ⟨htenant, htime⟩ := PatchOf.unmoved hleaves
    have hfleet := hagrees'.fleet.symm.trans hagrees.fleet
    have hgroup := hagrees'.group.symm.trans hagrees.group
    have hlocation := hagrees'.location.symm.trans hagrees.location
    have hbranch := hagrees'.branch.symm.trans hagrees.branch
    simp only [leftInPlace, FleetDevice.place] at *
    simp [htenant, htime, hfleet, hgroup, hlocation, hbranch]
  · rw [hpatch]
    rw [heq] at hafter
    have hold := fun g => h.groups key d g hpatchable.lookup
    have hnew := fun g => hafter.groups key d' g (by rw [finishUpdate_devices]; exact AList.lookup_insert _)
    simp only [membersOf, finishUpdate_groups] at hold hnew
    by_contra hmoved
    have hgroup : d'.groupId ≠ d.groupId := hmoved
    by_cases hempty : d'.groupId = ""
    · -- the device is still a member of the group it left
      have hleft : d.groupId ≠ "" := fun hd => hgroup (hempty.trans hd.symm)
      have hcount := (hold d.groupId).symm.trans (hnew d.groupId)
      simp [hleft, hgroup] at hcount
    · -- the device is no member of the group it came to
      have hcount := (hold d'.groupId).symm.trans (hnew d'.groupId)
      simp [hempty, Ne.symm hgroup] at hcount

/-- The updates that get as far as their patch keep the device's place. -/
def PlaceKept (r : Registry ω) (e : Event ω) : Prop :=
  ∀ tenantId key patch now, e = .request (.updateDevice tenantId key patch now) →
    ∀ d next, Patchable r.service tenantId key patch d next → KeepsPlace patch d

theorem placed_apply (h : Placed s) {op : Op ω}
    (hkeeps : ∀ tenantId key patch now, op = .updateDevice tenantId key patch now →
      ∀ d next, Patchable s tenantId key patch d next → KeepsPlace patch d) : Placed (apply env s op) := by
  have hkeyed : Keyed (apply env s op) := keyed_apply h.keyed op
  cases op with
  | enroll d actorId now =>
    rcases settled_enroll env (s := s) d actorId now with hsettled | ⟨henroll, d', hd', hsettled⟩
    · exact h.settled hsettled hkeyed
    · have hnew : s.devices.lookup d'.deviceId = none := by rw [(enrolled_place hd').1, henroll.new]
      have hinserted : Keyed (s.insertDevice d' actorId now) := h.keyed.filed.insert rfl
      exact (h.insertDevice hnew actorId now hinserted).settled hsettled hkeyed
  | updateDevice tenantId key patch now => exact h.updateDevice (hkeeps tenantId key patch now rfl) hkeyed
  | receiveHeartbeat hb receivedAt =>
    rcases settled_receiveHeartbeat env (s := s) hb receivedAt with hsettled | ⟨-, d, d', hd, hplace, hsettled⟩
    · exact h.settled hsettled hkeyed
    · refine h.moved hkeyed hsettled.groups hsettled.assignments fun k => ?_
      rw [apply, hsettled.places, placeOf_insert rfl]
      split_ifs with hk
      · exact ⟨fun _ => hb.timestamp, by rw [hk, placeOf_of_lookup hd, Option.map_some, hplace]⟩
      · exact ⟨id, (congrFun Option.map_id (placeOf s k)).symm⟩
  | _ =>
    refine h.settled ?_ hkeyed
    exact settled_apply env trivial

/-! ### Runs -/

theorem placed_empty (world : ω) : Placed ({ world } : FleetOperationsService ω) :=
  ⟨keyed_empty world, fun _ _ hv => (nomatch hv), fun _ _ hv => (nomatch hv), fun _ _ => rfl, fun _ _ hp => nomatch hp⟩

theorem Placed.reloaded (h : Placed s) (hs' : Reloaded s s') : Placed s' := by
  have hgroups : Dict.Same s'.groups s.groups := by
    rw [hs'.groups]
    exact lookup_refiled h.grouped
  have hassignments : Dict.Same s'.assignments s.assignments := by
    rw [hs'.assignments]
    exact lookup_refiled h.assigned
  refine ⟨hs'.keyed h.keyed, h.grouped.congr hgroups, h.assigned.congr hassignments, fun k g => ?_, fun k p hp => ?_⟩
  · rw [membersOf, hgroups g, hs'.places h.keyed k]
    exact h.members k g
  · rw [hassignments k]
    exact h.assignments k p ((hs'.places h.keyed k).symm.trans hp)

theorem placed_run (env : Env ω) (storePath : String) (world : ω) (events : List (Event ω))
    (hkeeps : ∀ before e after, events = before ++ e :: after →
      PlaceKept (before.foldl (Registry.step env) { storePath, service := { world } }) e) :
    Upholds Placed (events.foldl (Registry.step env) { storePath, service := { world } }) := by
  induction events using List.reverseRecOn with
  | nil => exact ⟨placed_empty world, fun _ j hj => nomatch hj⟩
  | append_singleton events e ih =>
    have hbefore := ih fun before e' after hes => hkeeps before e' (after ++ [e]) (by rw [hes]; simp)
    rw [List.foldl_append]
    cases e with
    | request op =>
      refine hbefore.request (placed_apply hbefore.service fun tenantId key patch now hop => ?_)
      exact hkeeps events _ [] rfl tenantId key patch now (by rw [hop])
    | restart world' => exact hbefore.restart world' (placed_empty world') fun s s' h hs' => h.reloaded hs'

/-- Groups and assignments mirror the devices, in every state of a run, just if every update keeps the place of its
device, or is done and changes no group. -/
theorem mirrored_iff (env : Env ω) (storePath : String) (world : ω) (events : List (Event ω)) :
    (∀ before after, events = before ++ after →
      Mirrored (before.foldl (Registry.step env) { storePath, service := { world } }).service) ↔
    ∀ before e after, events = before ++ e :: after →
      PlaceKept (before.foldl (Registry.step env) { storePath, service := { world } }) e := by
  refine ⟨?_, fun h before after hevents => ?_⟩
  · rintro h before e after hevents tenantId key patch now rfl d next hpatchable
    refine keepsPlace_of_mirrored env now (h before _ hevents) hpatchable ?_
    have hnext := h (before ++ [.request (.updateDevice tenantId key patch now)]) after (by rw [hevents]; simp)
    rwa [List.foldl_append] at hnext
  · refine Placed.mirrored (placed_run env storePath world before fun before' e after' hbefore => ?_).service
    exact h before' e (after' ++ after) (by rw [hevents, hbefore]; simp)

def groupedDevice : FleetDevice :=
  { deviceId := "d", tenantId := "t", branchId := "b", locationId := "l", fleetId := "f", groupId := "g1"
    capabilities := ["inventory"] }

/-- An update to another group leaves the device a member of the one that it left. -/
theorem group_not_mirrored : ¬ ∀ events : List (Event Unit),
    Mirrored (events.foldl (Registry.step bareEnv) { storePath := "fleet.json", service := { world := () } }).service := by
  intro hall
  have hmirrored := hall [.request (.enroll groupedDevice "admin" 7),
    .request (.updateDevice "t" "d" (.obj [("group_id", .str "g2")]) 8)]
  have hcount := hmirrored.groups "d" { groupedDevice with groupId := "g2" } "g1" (by decide +kernel)
  exact absurd hcount (by decide +kernel)

end Drawer.FleetOps
