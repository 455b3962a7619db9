import Drawer.Lib.JsonRecord
import Drawer.Lib.Outcome
import Drawer.Proofs.CommandIds
import Drawer.Proofs.Lifecycle
import Drawer.Spec.Patches

/-! A patch of a device that raises. The checks come first, but the members are read and
stored in turn, so what came before the one that raises stays, and a save that raises comes
when all has been stored. -/

namespace Drawer.FleetOps
open FleetOperationsService Outcome

variable {ω : Type} {env : Env ω} {s : FleetOperationsService ω} {d : FleetDevice} {patch : Json String} {key : String}

/-! ### What is read -/

def textOr (patch : Json String) (key dflt : String) : String :=
  match patch.member key with
  | some (.str t) => t
  | _ => dflt

theorem textOr_eq_iff {dflt : String} : textOr patch key dflt = dflt ↔ ¬ ∃ t, patch.member key = some (.str t) ∧ t ≠ dflt := by
  unfold textOr
  split
  · rename_i t ht
    simp [ht]
  · rename_i hnot
    refine iff_of_true rfl ?_
    rintro ⟨t, ht, -⟩
    exact hnot t ht

theorem storable_text (hkey : key ≠ "labels") : Storable patch key ↔ ∀ v, patch.member key = some v → ∃ t, v = .str t := by
  simp only [Storable, OfType, if_neg hkey]

theorem value_text (hpatch : ∃ members, patch = .obj members) (hkey : key ≠ "labels") (h : Storable patch key)
    (dflt : String) : patch.value key Json.getStr dflt = .ok (textOr patch key dflt) := by
  obtain ⟨members, rfl⟩ := hpatch
  rw [storable_text hkey] at h
  rw [Json.value_obj, textOr]
  cases hv : (Json.obj members).member key with
  | none => rfl
  | some v =>
    obtain ⟨t, rfl⟩ := h v hv
    rfl

theorem getStr_ok {v : Json String} : (∃ t, v.getStr = .ok t) ↔ ∃ t, v = .str t := by
  cases v <;> simp [Json.getStr]

theorem storable_iff_value (hpatch : ∃ members, patch = .obj members) (hkey : key ≠ "labels") (dflt : String) :
    Storable patch key ↔ ∃ t, patch.value key Json.getStr dflt = .ok t := by
  rw [Json.value_ok_iff, and_iff_right hpatch, storable_text hkey]
  simp only [getStr_ok]

theorem mapM_getStr {members : List (String × Json String)} :
    (∃ labels : Labels, (members.mapM fun m => do
      let v ← m.2.getStr
      return (m.1, v)) = .ok labels) ↔ ∃ labels : Labels, members = labels.map fun m => (m.1, .str m.2) := by
  induction members with
  | nil => exact iff_of_true ⟨[], rfl⟩ ⟨[], rfl⟩
  | cons m members ih =>
    obtain ⟨key, v⟩ := m
    rw [List.mapM_cons]
    constructor
    · rintro ⟨labels, hlabels⟩
      obtain ⟨⟨key', t⟩, hm, hrest⟩ := bind_eq_ok hlabels
      obtain ⟨t', hv, ht⟩ := bind_eq_ok hm
      obtain ⟨t'', rfl⟩ := getStr_ok.mp ⟨t', hv⟩
      obtain ⟨rest, hmembers, -⟩ := bind_eq_ok hrest
      obtain ⟨labels', rfl⟩ := ih.mp ⟨rest, hmembers⟩
      exact ⟨(key, t'') :: labels', rfl⟩
    · rintro ⟨labels, hlabels⟩
      cases labels with
      | nil => cases hlabels
      | cons m' labels =>
        obtain ⟨hm, rfl⟩ := List.cons.inj hlabels
        obtain ⟨rfl, rfl⟩ := Prod.mk.inj hm
        obtain ⟨rest, hrest⟩ := ih.mpr ⟨labels, rfl⟩
        rw [hrest]
        exact ⟨_, rfl⟩

theorem storable_labels (hpatch : ∃ members, patch = .obj members) (dflt : Labels) :
    Storable patch "labels" ↔ ∃ l, patch.value "labels" getLabels dflt = .ok l := by
  rw [Json.value_ok_iff, and_iff_right hpatch]
  have hlabels : ∀ v : Json String, (∃ l, getLabels v = .ok l) ↔
      ∃ labels : Labels, v = .obj (labels.map fun m => (m.1, .str m.2)) := by
    intro v
    cases v with
    | obj members => simpa [getLabels] using mapM_getStr
    | _ => simp [getLabels]
  simp only [Storable, OfType, if_true, hlabels]

/-! ### What is stored -/

theorem written_eq_iff {lifecycleState locationId branchId groupId fleetId : String} :
    { d with lifecycleState, locationId, branchId, groupId, fleetId } = d ↔
      lifecycleState = d.lifecycleState ∧ locationId = d.locationId ∧ branchId = d.branchId ∧ groupId = d.groupId ∧
        fleetId = d.fleetId := by
  constructor
  · intro h
    exact ⟨congrArg FleetDevice.lifecycleState h, congrArg FleetDevice.locationId h, congrArg FleetDevice.branchId h,
      congrArg FleetDevice.groupId h, congrArg FleetDevice.fleetId h⟩
  · rintro ⟨rfl, rfl, rfl, rfl, rfl⟩
    rfl

theorem not_alters {dflt : String} (hheld : held d key = dflt) : textOr patch key dflt = dflt ↔ ¬ Alters d patch key := by
  rw [textOr_eq_iff, Alters, hheld]

/-- The members before the first that cannot be stored. -/
def FirstBad (patch : Json String) (before : List String) : Prop :=
  ∃ key after, patchKeys = before ++ key :: after ∧ (∀ k ∈ before, Storable patch k) ∧ ¬ Storable patch key

theorem firstBad_unique {before before' : List String} (h : FirstBad patch before) (h' : FirstBad patch before') :
    before = before' := by
  obtain ⟨key, after, heq, hall, hnot⟩ := h
  obtain ⟨key', after', heq', hall', hnot'⟩ := h'
  rw [heq] at heq'
  rcases List.append_eq_append_iff.mp heq' with ⟨l, hl, hl'⟩ | ⟨l, hl, hl'⟩
  · cases l with
    | nil => simpa using hl.symm
    | cons k l =>
      obtain ⟨rfl, -⟩ := List.cons.inj hl'
      exact absurd (hall' key (by rw [hl]; simp)) hnot
  · cases l with
    | nil => simpa using hl
    | cons k l =>
      obtain ⟨rfl, -⟩ := List.cons.inj hl'
      exact absurd (hall key' (by rw [hl]; simp)) hnot'

theorem value_raises (hpatch : ∃ members, patch = .obj members) (hkey : key ≠ "labels") (h : ¬ Storable patch key)
    (dflt : String) : ∃ e, patch.value key Json.getStr dflt = .error e := by
  rw [storable_iff_value hpatch hkey dflt] at h
  cases hv : patch.value key Json.getStr dflt with
  | error e => exact ⟨e, rfl⟩
  | ok t => exact absurd ⟨t, hv⟩ h

theorem labels_raise (hpatch : ∃ members, patch = .obj members) (h : ¬ Storable patch "labels") (dflt : Labels) :
    ∃ e, patch.value "labels" getLabels dflt = .error e := by
  rw [storable_labels hpatch dflt] at h
  cases hv : patch.value "labels" getLabels dflt with
  | error e => exact ⟨e, rfl⟩
  | ok l => exact absurd ⟨l, hv⟩ h

theorem value_labels (hpatch : ∃ members, patch = .obj members) (h : Storable patch "labels") (dflt : Labels) :
    ∃ l, patch.value "labels" getLabels dflt = .ok l ∧
      (l = dflt ↔ ∀ v, patch.member "labels" = some v → v = .obj (dflt.map fun m => (m.1, .str m.2))) := by
  obtain ⟨members, rfl⟩ := hpatch
  rw [Json.value_obj]
  cases hv : (Json.obj members).member "labels" with
  | none => exact ⟨dflt, rfl, iff_of_true rfl fun _ hnone => nomatch hnone⟩
  | some v =>
    obtain ⟨l, rfl⟩ : ∃ l : Labels, v = .obj (l.map fun m => (m.1, .str m.2)) := by simpa [OfType] using h v hv
    have hread : ∀ l : Labels, getLabels (.obj (l.map fun m => (m.1, .str m.2))) = .ok l := Json.getObj_map Json.getStr_str
    refine ⟨l, hread l, ⟨?_, fun hall => ?_⟩⟩
    · rintro rfl v hsome
      exact (Option.some.inj hsome).symm
    · have hl := hread l
      rw [hall _ rfl, hread] at hl
      exact (Except.ok.inj hl).symm

/-- How the storing of the fields ends, once the lifecycle state and the location are known to be texts. -/
theorem patchFields_cases (d : FleetDevice) (hpatch : ∃ members, patch = .obj members)
    (hlifecycle : Storable patch "lifecycle_state") (hlocation : Storable patch "location_id") :
    ((∀ k ∈ patchKeys, Storable patch k) ∧
      ∃ d', patchFields patch { d with lifecycleState := textOr patch "lifecycle_state" d.lifecycleState } = .ok d' ∧
        (d' = d ↔ (∀ k ∈ patchKeys, ¬ Alters d patch k) ∧
          ∀ v, patch.member "labels" = some v → v = .obj (d.labels.map fun m => (m.1, .str m.2)))) ∨
    ∃ before d' e, FirstBad patch before ∧ 2 ≤ before.length ∧
      patchFields patch { d with lifecycleState := textOr patch "lifecycle_state" d.lifecycleState } = .error (d', e) ∧
      (d' = d ↔ ∀ k ∈ before, ¬ Alters d patch k) := by
  have hlocation' := value_text hpatch (by decide) hlocation d.locationId
  have hkeeps₁ : textOr patch "lifecycle_state" d.lifecycleState = d.lifecycleState ↔ ¬ Alters d patch "lifecycle_state" :=
    not_alters rfl
  have hkeeps₂ : textOr patch "location_id" d.locationId = d.locationId ↔ ¬ Alters d patch "location_id" := not_alters rfl
  rcases Classical.em (Storable patch "branch_id") with hbranch | hbranch
  swap
  · obtain ⟨e, he⟩ := value_raises hpatch (by decide) hbranch d.branchId
    refine Or.inr ⟨["lifecycle_state", "location_id"], { d with
      lifecycleState := textOr patch "lifecycle_state" d.lifecycleState
      locationId := textOr patch "location_id" d.locationId }, e,
      ⟨_, _, rfl, by simp [hlifecycle, hlocation], hbranch⟩, le_rfl, ?_, written_eq_iff.trans ?_⟩
    · simp only [patchFields, assign, bind, Except.bind, hlocation', he]
    · simp [hkeeps₁, hkeeps₂]
  have hbranch' := value_text hpatch (by decide) hbranch d.branchId
  have hkeeps₃ : textOr patch "branch_id" d.branchId = d.branchId ↔ ¬ Alters d patch "branch_id" := not_alters rfl
  rcases Classical.em (Storable patch "group_id") with hgroup | hgroup
  swap
  · obtain ⟨e, he⟩ := value_raises hpatch (by decide) hgroup d.groupId
    refine Or.inr ⟨["lifecycle_state", "location_id", "branch_id"], { d with
      lifecycleState := textOr patch "lifecycle_state" d.lifecycleState
      locationId := textOr patch "location_id" d.locationId
      branchId := textOr patch "branch_id" d.branchId }, e,
      ⟨_, _, rfl, by simp [hlifecycle, hlocation, hbranch], hgroup⟩, by decide, ?_, written_eq_iff.trans ?_⟩
    · simp only [patchFields, assign, bind, Except.bind, hlocation', hbranch', he]
    · simp [hkeeps₁, hkeeps₂, hkeeps₃]
  have hgroup' := value_text hpatch (by decide) hgroup d.groupId
  have hkeeps₄ : textOr patch "group_id" d.groupId = d.groupId ↔ ¬ Alters d patch "group_id" := not_alters rfl
  rcases Classical.em (Storable patch "fleet_id") with hfleet | hfleet
  swap
  · obtain ⟨e, he⟩ := value_raises hpatch (by decide) hfleet d.fleetId
    refine Or.inr ⟨["lifecycle_state", "location_id", "branch_id", "group_id"], { d with
      lifecycleState := textOr patch "lifecycle_state" d.lifecycleState
      locationId := textOr patch "location_id" d.locationId
      branchId := textOr patch "branch_id" d.branchId
      groupId := textOr patch "group_id" d.groupId }, e,
      ⟨_, _, rfl, by simp [hlifecycle, hlocation, hbranch, hgroup], hfleet⟩, by decide, ?_, written_eq_iff.trans ?_⟩
    · simp only [patchFields, assign, bind, Except.bind, hlocation', hbranch', hgroup', he]
    · simp [hkeeps₁, hkeeps₂, hkeeps₃, hkeeps₄]
  have hfleet' := value_text hpatch (by decide) hfleet d.fleetId
  have hkeeps₅ : textOr patch "fleet_id" d.fleetId = d.fleetId ↔ ¬ Alters d patch "fleet_id" := not_alters rfl
  rcases Classical.em (Storable patch "labels") with hlabels | hlabels
  swap
  · obtain ⟨e, he⟩ := labels_raise hpatch hlabels d.labels
    refine Or.inr ⟨["lifecycle_state", "location_id", "branch_id", "group_id", "fleet_id"], { d with
      lifecycleState := textOr patch "lifecycle_state" d.lifecycleState
      locationId := textOr patch "location_id" d.locationId
      branchId := textOr patch "branch_id" d.branchId
      groupId := textOr patch "group_id" d.groupId
      fleetId := textOr patch "fleet_id" d.fleetId }, e,
      ⟨_, _, rfl, by simp [hlifecycle, hlocation, hbranch, hgroup, hfleet], hlabels⟩, by decide, ?_, written_eq_iff.trans ?_⟩
    · simp only [patchFields, assign, bind, Except.bind, hlocation', hbranch', hgroup', hfleet', he]
    · simp [hkeeps₁, hkeeps₂, hkeeps₃, hkeeps₄, hkeeps₅]
  obtain ⟨l, hl, hkeeps⟩ := value_labels hpatch hlabels d.labels
  refine Or.inl ⟨by simp [patchKeys, hlifecycle, hlocation, hbranch, hgroup, hfleet, hlabels], { d with
    lifecycleState := textOr patch "lifecycle_state" d.lifecycleState
    locationId := textOr patch "location_id" d.locationId
    branchId := textOr patch "branch_id" d.branchId
    groupId := textOr patch "group_id" d.groupId
    fleetId := textOr patch "fleet_id" d.fleetId
    labels := l }, ?_, ?_⟩
  · simp only [patchFields, assign, bind, Except.bind, hlocation', hbranch', hgroup', hfleet', hl]
  · rw [← hkeeps]
    have hnone : ¬ Alters d patch "labels" := by
      rintro ⟨t, ht, -⟩
      obtain ⟨l', hl'⟩ : ∃ l' : Labels, Json.str t = .obj (l'.map fun m => (m.1, .str m.2)) := by
        simpa [OfType] using hlabels _ ht
      cases hl'
    simp only [patchKeys, List.forall_mem_cons, List.not_mem_nil, false_imp_iff, implies_true, and_true, hnone, not_false_iff,
      ← hkeeps₁, ← hkeeps₂, ← hkeeps₃, ← hkeeps₄, ← hkeeps₅]
    constructor
    · intro h
      exact ⟨⟨congrArg FleetDevice.lifecycleState h, congrArg FleetDevice.locationId h, congrArg FleetDevice.branchId h,
        congrArg FleetDevice.groupId h, congrArg FleetDevice.fleetId h⟩, congrArg FleetDevice.labels h⟩
    · rintro ⟨⟨h₁, h₂, h₃, h₄, h₅⟩, rfl⟩
      rw [h₁, h₂, h₃, h₄, h₅]

/-! ### The update -/

theorem member_of_not_obj (h : ¬ ∃ members, patch = .obj members) (key : String) : patch.member key = none := by
  cases patch with
  | obj members => exact absurd ⟨members, rfl⟩ h
  | _ => rfl

/-- A patch that halves a device begins with a lifecycle state and a location that can be stored. -/
theorem Halves.checked (h : Halves d patch) :
    (∃ members, patch = .obj members) ∧ Storable patch "lifecycle_state" ∧ Storable patch "location_id" := by
  obtain ⟨before, key, after, heq, hlength, hall, hnot, -⟩ := h.stops
  refine ⟨?_, ?_⟩
  · by_contra hobj
    refine hnot fun v hv => ?_
    rw [member_of_not_obj hobj] at hv
    cases hv
  · rcases before with _ | ⟨a, _ | ⟨b, before⟩⟩
    · simp at hlength
    · simp at hlength
    · obtain ⟨ha, hrest⟩ := List.cons.inj heq
      obtain ⟨hb, -⟩ := List.cons.inj hrest
      exact ⟨hall _ (by simp [ha]), hall _ (by simp [hb])⟩

theorem halves_iff (hlifecycle : ∀ t, patch.member "lifecycle_state" = some (.str t) → validTransition d.lifecycleState t false = true)
    (hlocation : patch.member "location_id" ≠ some (.str "")) {before : List String} (hbad : FirstBad patch before)
    (hlength : 2 ≤ before.length) : Halves d patch ↔ ∃ k ∈ before, Alters d patch k := by
  constructor
  · intro h
    obtain ⟨before', key, after, heq, -, hall, hnot, halters⟩ := h.stops
    rwa [firstBad_unique hbad ⟨key, after, heq, hall, hnot⟩]
  · intro halters
    obtain ⟨key, after, heq, hall, hnot⟩ := hbad
    exact ⟨hlifecycle, hlocation, before, key, after, heq, hlength, hall, hnot, halters⟩

theorem transition_iff : validTransition d.lifecycleState (textOr patch "lifecycle_state" d.lifecycleState) false = true ↔
    ∀ t, patch.member "lifecycle_state" = some (.str t) → validTransition d.lifecycleState t false = true := by
  unfold textOr
  split
  · rename_i t ht
    simp [ht]
  · rename_i hnot
    exact iff_of_true (by simp [validTransition]) fun t ht => absurd ht (hnot t)

/-- The check of the location. -/
theorem locationMissing_false (hobj : ∃ members, patch = .obj members) :
    locationMissing patch = .ok false ↔ Storable patch "location_id" ∧ patch.member "location_id" ≠ some (.str "") := by
  obtain ⟨members, rfl⟩ := hobj
  unfold locationMissing
  rw [storable_text (by decide), Json.value_obj]
  cases hv : (Json.obj members).member "location_id" with
  | none => simp
  | some v =>
    cases v with
    | str t =>
      by_cases ht : t = ""
      · simp [Json.getStr, Except.map, ht]
      · simp [Json.getStr, Except.map, ht]
    | _ => simp [Json.getStr, Except.map]

theorem Unchanged.refl (s : FleetOperationsService ω) : Unchanged s s := ⟨Dict.same_refl _, Dict.same_refl _, rfl⟩

theorem unchanged_insert {d' : FleetDevice} (hd : s.devices.lookup key = some d) :
    Unchanged s { s with devices := s.devices.insert key d' } ↔ d' = d := by
  constructor
  · intro h
    have hkey := h.devices key
    rw [AList.lookup_insert, hd] at hkey
    exact Option.some.inj hkey
  · rintro rfl
    exact ⟨Dict.same_insert hd, Dict.same_refl _, rfl⟩

/-- A device that is stored, with its assignment, in place of itself. -/
theorem unchanged_finish {tenantId prior : String} {d' : FleetDevice} {now : Int} (hd : s.devices.lookup key = some d)
    (hprior : d.lifecycleState = prior) : Unchanged s (s.finishUpdate env tenantId key prior d' now) ↔
      d' = d ∧ s.assignments.lookup key = some (assignmentOf d tenantId key now) := by
  constructor
  · intro h
    have hdevice := h.devices key
    have hassigned := h.assignments key
    unfold finishUpdate at hdevice hassigned
    split_ifs at hdevice hassigned
    all_goals
      simp only [appendEventLocked, AList.lookup_insert, hd] at hdevice hassigned
      obtain rfl := Option.some.inj hdevice
      exact ⟨rfl, hassigned.symm⟩
  · rintro ⟨rfl, hassigned⟩
    unfold finishUpdate
    dsimp only
    rw [if_pos hprior.symm]
    exact ⟨Dict.same_insert hd, Dict.same_insert hassigned, rfl⟩

/-- How an update ends: it fails and leaves the registry, or it stores the device up to the member that raised, or it is done. -/
inductive Updated (s : FleetOperationsService ω) (key : String) (d : FleetDevice) (patch : Json String) (now : Int) :
    FleetOperationsService ω × Except Exn Reply → Prop where
  | refused (r : Except Exn Reply) (hr : r ≠ .ok .ok) (hnot : ¬ Halves d patch) (hfails : ¬ Completes d patch) :
    Updated s key d patch now (s, r)
  | raised (d' : FleetDevice) (e : Exn) (hhalves : d' = d ↔ ¬ Halves d patch) (hfails : ¬ Completes d patch) :
    Updated s key d patch now ({ s with devices := s.devices.insert key d' }, .error e)
  | done (s' : FleetOperationsService ω) (hnot : ¬ Halves d patch) (hall : Completes d patch)
    (hidle : Unchanged s s' ↔ Idle s key d patch now) : Updated s key d patch now (s', .ok .ok)

theorem updated (env : Env ω) (hd : s.devices.lookup key = some d) (hretired : d.retired = false) (patch : Json String) (now : Int) :
    Updated s key d patch now (s.updateDevice env d.tenantId key patch now) := by
  unfold updateDevice
  rw [hd]
  dsimp only
  rw [if_neg (not_not.mpr rfl), if_neg (by simp [hretired])]
  cases hread : patch.value "lifecycle_state" Json.getStr d.lifecycleState with
  | error e =>
    have hlifecycle : ¬ ((∃ members, patch = .obj members) ∧ Storable patch "lifecycle_state") := by
      rintro ⟨hobj, hlifecycle⟩
      rw [value_text hobj (by decide) hlifecycle] at hread
      cases hread
    exact .refused _ nofun (fun h => hlifecycle ⟨h.checked.1, h.checked.2.1⟩)
      fun h => hlifecycle ⟨h.object, h.storable _ (by decide)⟩
  | ok next =>
    have hobj := (Json.value_ok_iff.mp ⟨next, hread⟩).1
    have hlifecycle := (storable_iff_value hobj (by decide) d.lifecycleState).mpr ⟨next, hread⟩
    obtain rfl : textOr patch "lifecycle_state" d.lifecycleState = next :=
      Except.ok.inj ((value_text hobj (by decide) hlifecycle _).symm.trans hread)
    dsimp only
    split_ifs with htransition
    · have hinvalid : ¬ ∀ t, patch.member "lifecycle_state" = some (.str t) → validTransition d.lifecycleState t false = true := by
        intro hvalid
        rw [transition_iff.mpr hvalid] at htransition
        cases htransition
      exact .refused _ nofun (fun h => hinvalid h.lifecycle) fun h => hinvalid h.lifecycle
    · have hvalid := transition_iff.mp (by simpa using htransition)
      have hmissing := locationMissing_false hobj
      by_cases hlocation : locationMissing patch = .ok false
      · obtain ⟨hstorable, hgiven⟩ := hmissing.mp hlocation
        rw [hlocation]
        rcases patchFields_cases d hobj hlifecycle hstorable with ⟨hall, d', hd', hsame⟩ | ⟨before, d', e, hbad, hlength, hd', hsame⟩
        · simp only [hd']
          refine .done _ (fun h => ?_) ⟨hobj, hvalid, hgiven, hall⟩ ?_
          · obtain ⟨before, key, after, heq, -, -, hnot, -⟩ := h.stops
            exact hnot (hall key (by rw [heq]; simp))
          · rw [unchanged_finish hd rfl, hsame]
            exact ⟨fun h => ⟨h.1.1, h.1.2, h.2⟩, fun h => ⟨⟨h.texts, h.labels⟩, h.assigned⟩⟩
        · simp only [hd']
          refine .raised d' e ?_ fun h => ?_
          · rw [hsame, halves_iff hvalid hgiven hbad hlength]
            push Not
            rfl
          · obtain ⟨key, after, heq, -, hnot⟩ := hbad
            exact hnot (h.storable key (by rw [heq]; simp))
      · have hnot := fun h => hlocation (hmissing.mpr h)
        have hrefused : ∀ r : Except Exn Reply, r ≠ .ok .ok → Updated s key d patch now (s, r) := fun r hr =>
          .refused r hr (fun h => hnot ⟨h.checked.2.2, h.location⟩) fun h => hnot ⟨h.storable _ (by decide), h.location⟩
        cases hread : locationMissing patch with
        | error e => exact hrefused _ nofun
        | ok missing =>
          cases missing with
          | true => exact hrefused _ nofun
          | false => exact absurd hread hlocation

theorem patchDevice_of_ne {saved : Except Exn Unit} {tenantId : String} {now : Int}
    (h : (s.updateDevice env tenantId key patch now).2 ≠ .ok .ok) :
    patchDevice env saved s tenantId key patch now = s.updateDevice env tenantId key patch now := by
  unfold patchDevice
  split
  · next hdone =>
    rw [hdone] at h
    exact absurd rfl h
  · rfl

theorem updateDevice_unknown (env : Env ω) {tenantId deviceId : String} (patch : Json String) (now : Int)
    (hunknown : ¬ ∃ d, s.devices.lookup deviceId = some d ∧ d.tenantId = tenantId ∧ d.retired = false) :
    (s.updateDevice env tenantId deviceId patch now).1 = s ∧ (s.updateDevice env tenantId deviceId patch now).2 ≠ .ok .ok := by
  unfold updateDevice
  cases hd : s.devices.lookup deviceId with
  | none => exact ⟨rfl, by rintro ⟨⟩⟩
  | some d =>
    dsimp only
    split_ifs with htenant hretired
    · exact ⟨rfl, by rintro ⟨⟩⟩
    · exact ⟨rfl, by rintro ⟨⟩⟩
    · exact absurd ⟨d, hd, by simpa using htenant, by simpa using hretired⟩ hunknown

/-- An update that fails or raises leaves the registry as it was, if and only if the patch does not halve the device, and what
it stores can be saved. -/
theorem update_atomic_iff (env : Env ω) (saved : Except Exn Unit) (s : FleetOperationsService ω) (tenantId deviceId : String)
    (patch : Json String) (now : Int) :
    ((patchDevice env saved s tenantId deviceId patch now).2 ≠ .ok .ok →
      Unchanged s (patchDevice env saved s tenantId deviceId patch now).1) ↔
      ∀ d, s.devices.lookup deviceId = some d → d.tenantId = tenantId → d.retired = false →
        Whole saved s deviceId d patch now := by
  by_cases hknown : ∃ d, s.devices.lookup deviceId = some d ∧ d.tenantId = tenantId ∧ d.retired = false
  · obtain ⟨d, hd, rfl, hretired⟩ := hknown
    have hwhole : (∀ d', s.devices.lookup deviceId = some d' → d'.tenantId = d.tenantId → d'.retired = false →
        Whole saved s deviceId d' patch now) ↔ Whole saved s deviceId d patch now := by
      refine ⟨fun h => h d hd rfl hretired, fun h d' hd' _ _ => ?_⟩
      rwa [← Option.some.inj (hd.symm.trans hd')]
    rw [hwhole]
    have hupdated := updated env hd hretired patch now
    unfold patchDevice
    generalize s.updateDevice env d.tenantId deviceId patch now = p at hupdated ⊢
    cases hupdated with
    | refused r hr hnot hfails =>
      refine iff_of_true (fun _ => ?_) ⟨hnot, Or.inr (Or.inl hfails)⟩
      split
      · next heq => exact absurd (Prod.mk.inj heq).2 hr
      · exact Unchanged.refl s
    | raised d' e hsame hfails =>
      have hchanged : Unchanged s { s with devices := s.devices.insert deviceId d' } ↔ d' = d := unchanged_insert hd
      have hchanged := hchanged.trans hsame
      exact ⟨fun h => ⟨hchanged.mp (h (by rintro ⟨⟩)), Or.inr (Or.inl hfails)⟩, fun h _ => hchanged.mpr h.unhalved⟩
    | done s' hnot hall hidle =>
      dsimp only
      cases saved with
      | ok u => exact iff_of_true (fun h => absurd rfl h) ⟨hnot, Or.inl rfl⟩
      | error e =>
        refine ⟨fun h => ⟨hnot, Or.inr (Or.inr (hidle.mp (h (by rintro ⟨⟩))))⟩, fun h _ => hidle.mpr ?_⟩
        rcases h.stored with hsaved | hfails | hidle
        · cases hsaved
        · exact absurd hall hfails
        · exact hidle
  · refine iff_of_true (fun _ => ?_) fun d hd htenant hretired => absurd ⟨d, hd, htenant, hretired⟩ hknown
    have hrefused := updateDevice_unknown env patch now hknown
    rw [patchDevice_of_ne hrefused.2, hrefused.1]
    exact Unchanged.refl s

def enrolledSample : FleetOperationsService Unit := run bareEnv () [.enroll sampleDevice "operator" 100]

def halfPatch : Json String := .obj [("lifecycle_state", .str "maintenance"), ("branch_id", .int 5)]

/-- The update raises, and the device is in maintenance. -/
theorem update_halves : ¬ ∀ (env : Env Unit) (s : FleetOperationsService Unit) (tenantId deviceId : String) (patch : Json String)
    (now : Int), (patchDevice env (.ok ()) s tenantId deviceId patch now).2 ≠ .ok .ok →
      Unchanged s (patchDevice env (.ok ()) s tenantId deviceId patch now).1 := by
  intro hclaim
  have hunchanged := hclaim bareEnv enrolledSample "org-1" "dev-1" halfPatch 110 (by decide +kernel)
  have hstate := congrArg (Option.map FleetDevice.lifecycleState) (hunchanged.devices "dev-1")
  revert hstate
  decide +kernel

end Drawer.FleetOps
