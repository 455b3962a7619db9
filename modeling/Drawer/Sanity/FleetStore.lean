import Drawer.Lib.Transition
import Drawer.Spec.FleetStore

/-! The store of the fleet registry gives back what was written: every record, and
every map whose records are filed under their own keys. -/

namespace Drawer.FleetOps
open Json

@[simp] theorem texts_read (l : List String) : getArr getStr (texts l) = .ok l := getArr_map getStr_str l

@[simp] theorem labels_read (l : Labels) : getObj getStr (labelsJson l) = .ok l := getObj_map getStr_str l

theorem fleet_read (v : Fleet) : Fleet.fromJson v.toJson = .ok v := by
  simp [Fleet.fromJson, Fleet.toJson, value_obj, member_cons, ok_bind, pure_ok]

theorem location_read (v : Location) : Location.fromJson v.toJson = .ok v := by
  simp [Location.fromJson, Location.toJson, value_obj, member_cons, ok_bind, pure_ok]

theorem group_read (v : DeviceGroup) : DeviceGroup.fromJson v.toJson = .ok v := by
  simp [DeviceGroup.fromJson, DeviceGroup.toJson, value_obj, member_cons, ok_bind, pure_ok]

theorem enrollment_read (v : DeviceEnrollment) : DeviceEnrollment.fromJson v.toJson = .ok v := by
  simp [DeviceEnrollment.fromJson, DeviceEnrollment.toJson, value_obj, member_cons, ok_bind, pure_ok]

theorem assignment_read (v : DeviceAssignment) : DeviceAssignment.fromJson v.toJson = .ok v := by
  simp [DeviceAssignment.fromJson, DeviceAssignment.toJson, value_obj, member_cons, ok_bind, pure_ok]

theorem device_read (v : FleetDevice) : FleetDevice.fromJson v.toJson = .ok v := by
  simp only [FleetDevice.fromJson, FleetDevice.toJson, value_obj, member_cons, String.reduceEq, if_false, if_true, getStr_str,
    getBool_bool, getInt_int, texts_read, labels_read, ok_bind, pure_ok]

theorem heartbeat_read (v : FleetHeartbeat) : FleetHeartbeat.fromJson v.toJson = .ok v := by
  simp [FleetHeartbeat.fromJson, FleetHeartbeat.toJson, value_obj, member_cons, ok_bind, pure_ok]

theorem command_read (v : FleetCommand) : FleetCommand.fromJson v.toJson = .ok v := by
  simp only [FleetCommand.fromJson, FleetCommand.toJson, value_obj, member_cons, String.reduceEq, if_false, if_true, getStr_str,
    getBool_bool, getInt_int, ok_bind, pure_ok]

theorem event_read (v : FleetOperationEvent) : FleetOperationEvent.fromJson v.toJson = .ok v := by
  simp [FleetOperationEvent.fromJson, FleetOperationEvent.toJson, value_obj, member_cons, ok_bind, pure_ok]

/-- Every record is filed under its own key. -/
def Filed {α : Type} (key : α → String) (m : Dict String α) : Prop := ∀ id a, m.lookup id = some a → key a = id

theorem filed_empty {α : Type} (key : α → String) : Filed key (∅ : Dict String α) := fun _ _ ha => nomatch ha

theorem Filed.insert {α : Type} {key : α → String} {m : Dict String α} (h : Filed key m) {id : String} {a : α}
    (hid : key a = id) : Filed key (m.insert id a) := by
  intro id' b hb
  rw [Dict.lookup_insert_if] at hb
  split_ifs at hb with heq
  · rw [← Option.some.inj hb, hid, heq]
  · exact h id' b hb

theorem Filed.congr {α : Type} {key : α → String} {m m' : Dict String α} (h : Filed key m) (hsame : Dict.Same m' m) :
    Filed key m' := fun id a ha => h id a ((hsame id).symm.trans ha)

/-- The records of a map, entered one by one under their own keys. -/
def refiled {α : Type} (key : α → String) (m : Dict String α) : Dict String α :=
  (m.entries.map Sigma.snd).foldl (fun m a => m.insert (key a) a) ∅

theorem lookup_refiled {α : Type} {key : α → String} {m : Dict String α} (h : Filed key m) :
    Dict.Same (refiled key m) m := by
  intro id
  have hfold : refiled key m = m.entries.foldl (fun m e => m.insert e.1 e.2) ∅ := by
    rw [refiled, List.foldl_map]
    refine List.foldl_ext _ _ _ fun m' e he => ?_
    rw [h e.1 e.2 (AList.mem_lookup_iff.mpr he)]
  rw [hfold, Dict.lookup_foldl_insert (fun a => a) _ m.nodupKeys]
  simp
  rfl

theorem readValues_mapValues {α : Type} {read : Json String → Except Exn α} {write : α → Json String} (key : α → String)
    (h : ∀ a, read (write a) = .ok a) {members : List (String × Json String)} {name : String} {m : Dict String α}
    (hmember : (Json.obj members).member name = some (mapValues write m)) :
    readValues (.obj members) name read key = .ok (refiled key m) := by
  have hread : (mapValues write m).elements.mapM read = .ok (m.entries.map Sigma.snd) := by
    rw [mapValues, elements, List.mapM_map]
    exact mapM_ok fun e _ => h e.2
  simp only [readValues, value_obj, hmember, ok_bind, hread]
  rfl

theorem readObject_mapObject {α : Type} {read : Json String → Except Exn α} {write : α → Json String}
    (h : ∀ a, read (write a) = .ok a) {members : List (String × Json String)} {name : String} {m : Dict String α}
    (hmember : (Json.obj members).member name = some (mapObject write m)) :
    ∃ m', readObject (.obj members) name read = .ok m' ∧ Dict.Same m' m := by
  have hread : getObj read (mapObject write m) = .ok (m.entries.map fun e => (e.1, e.2)) := getObj_map h _
  simp only [readObject, value_obj, hmember, ok_bind, hread]
  exact ⟨_, rfl, Dict.same_foldl_insert m⟩

namespace FleetOperationsService

/-- What a new process has of the registry that saved its store. -/
structure Reloaded {ω : Type} (s s' : FleetOperationsService ω) : Prop where
  fleets : s'.fleets = refiled Fleet.fleetId s.fleets
  locations : s'.locations = refiled Location.locationId s.locations
  groups : s'.groups = refiled DeviceGroup.groupId s.groups
  enrollments : s'.enrollments = refiled DeviceEnrollment.deviceId s.enrollments
  assignments : s'.assignments = refiled DeviceAssignment.deviceId s.assignments
  devices : s'.devices = refiled FleetDevice.deviceId s.devices
  heartbeats : s'.heartbeats = refiled FleetHeartbeat.deviceId s.heartbeats
  commands : s'.commands = refiled FleetCommand.commandId s.commands
  policyViolations : Dict.Same s'.policyViolations s.policyViolations
  riskLevels : Dict.Same s'.riskLevels s.riskLevels
  events : s'.events = s.events

/-- What was saved can be loaded. -/
theorem load_saved {ω : Type} (s : FleetOperationsService ω) (world : ω) :
    ∃ s', load world s.saved = .ok s' ∧ Reloaded s s' := by
  have hread : ∀ n : Int32, getInt32 (Json.int n.toInt : Json String) = .ok n := getInt32_int
  obtain ⟨violations, hviolations, hviolated⟩ :=
    readObject_mapObject hread
      (show s.saved.member "policy_violations" = some (mapObject (fun n => .int n.toInt) s.policyViolations) from rfl)
  have hreads : ∀ t : String, getStr (Json.str t) = .ok t := getStr_str
  obtain ⟨levels, hlevels, hleveled⟩ :=
    readObject_mapObject hreads (show s.saved.member "risk_levels" = some (mapObject .str s.riskLevels) from rfl)
  have hevents : s.saved.value "events" (getArr FleetOperationEvent.fromJson) [] = .ok s.events := by
    have hmember : s.saved.member "events" = some (.arr (s.events.map FleetOperationEvent.toJson)) := rfl
    rw [saved] at hmember ⊢
    simp only [value_obj, hmember, getArr_map event_read]
  have hfleets := readValues_mapValues Fleet.fleetId fleet_read (show s.saved.member "fleets" = _ from rfl)
  have hlocations := readValues_mapValues Location.locationId location_read (show s.saved.member "locations" = _ from rfl)
  have hgroups := readValues_mapValues DeviceGroup.groupId group_read (show s.saved.member "groups" = _ from rfl)
  have henrollments :=
    readValues_mapValues DeviceEnrollment.deviceId enrollment_read (show s.saved.member "enrollments" = _ from rfl)
  have hassignments :=
    readValues_mapValues DeviceAssignment.deviceId assignment_read (show s.saved.member "assignments" = _ from rfl)
  have hdevices := readValues_mapValues FleetDevice.deviceId device_read (show s.saved.member "devices" = _ from rfl)
  have hheartbeats := readValues_mapValues FleetHeartbeat.deviceId heartbeat_read (show s.saved.member "heartbeats" = _ from rfl)
  have hcommands := readValues_mapValues FleetCommand.commandId command_read (show s.saved.member "commands" = _ from rfl)
  rw [saved] at *
  simp only [load, hfleets, hlocations, hgroups, henrollments, hassignments, hdevices, hheartbeats, hcommands, hviolations,
    hlevels, hevents, ok_bind, pure_ok]
  exact ⟨_, rfl, rfl, rfl, rfl, rfl, rfl, rfl, rfl, rfl, hviolated, hleveled, rfl⟩

/-- The attached services are not in the store. -/
theorem load_world {ω : Type} {world : ω} {j : Json String} {s' : FleetOperationsService ω} (h : load world j = .ok s') :
    s'.world = world := by
  unfold load at h
  iterate 11 obtain ⟨_, -, h⟩ := of_bind_ok h
  rw [← Except.ok.inj h]

end FleetOperationsService

/-! ### Runs with restarts -/

open FleetOperationsService Transition

section

variable {ω : Type} {env : Env ω} {P Q : FleetOperationsService ω → Prop} {r : Registry ω}

theorem restart_file (r : Registry ω) (world : ω) :
    (r.restart world).storePath = r.storePath ∧ (r.restart world).file = r.file := by
  unfold Registry.restart
  split_ifs
  · exact ⟨rfl, rfl⟩
  · split
    · exact ⟨rfl, rfl⟩
    · split <;> exact ⟨rfl, rfl⟩

/-- `P` holds of the registry, and of the one that its store was written of. -/
structure Upholds (P : FleetOperationsService ω → Prop) (r : Registry ω) : Prop where
  service : P r.service
  stored : r.storePath ≠ "" → ∀ j, r.file = some j → ∃ s₀ : FleetOperationsService ω, j = s₀.saved ∧ P s₀

theorem Upholds.mono (h : Upholds P r) (hPQ : ∀ s, P s → Q s) : Upholds Q r := by
  refine ⟨hPQ _ h.service, fun hne j hj => ?_⟩
  obtain ⟨s₀, hs₀, hP⟩ := h.stored hne j hj
  exact ⟨s₀, hs₀, hPQ s₀ hP⟩

theorem Upholds.request (h : Upholds P r) {op : Op ω} (hop : P (apply env r.service op)) : Upholds P (r.request env op) := by
  refine ⟨hop, fun hne j hj => ?_⟩
  dsimp only [Registry.request] at hne hj
  split_ifs at hj
  · exact ⟨_, (Option.some.inj hj).symm, hop⟩
  · exact h.stored hne j hj

/-- A new process starts empty, or with what was saved. -/
theorem Upholds.restart (h : Upholds P r) (world : ω) (hempty : P { world })
    (hload : ∀ s s', P s → Reloaded s s' → P s') : Upholds P (r.restart world) := by
  obtain ⟨hpath, hfile⟩ := restart_file r world
  refine ⟨?_, fun hne j hj => h.stored (hpath ▸ hne) j (hfile ▸ hj)⟩
  unfold Registry.restart
  split_ifs with hne
  · exact hempty
  · cases hj : r.file with
    | none => exact hempty
    | some j =>
      obtain ⟨s₀, rfl, hP⟩ := h.stored hne j hj
      obtain ⟨s', hs', hreloaded⟩ := load_saved s₀ world
      simp only [hs']
      exact hload s₀ s' hP hreloaded

/-- No new process fails to load its store: it holds what a service has saved. -/
theorem loads_run {r₀ : Registry ω} {es : List (Event ω)} (h : Run (ofFun (Registry.step env)) r₀ es r) (hnone : r₀.file = none)
    (hpath : r.storePath ≠ "") {j : Json String} (hj : r.file = some j) (world : ω) : ∃ s', load world j = .ok s' := by
  have hupholds : Upholds (fun _ => True) r := by
    refine Run.invariant (I := Upholds fun _ => True) ⟨trivial, fun _ j hj => ?_⟩ (fun r e r' hr hstep => ?_) h
    · rw [hnone] at hj
      cases hj
    · obtain rfl := hstep
      cases e with
      | request op => exact hr.request trivial
      | restart world => exact hr.restart world trivial fun _ _ _ _ => trivial
  obtain ⟨s₀, rfl, -⟩ := hupholds.stored hpath j hj
  obtain ⟨s', hload, -⟩ := load_saved s₀ world
  exact ⟨s', hload⟩

end
end Drawer.FleetOps
