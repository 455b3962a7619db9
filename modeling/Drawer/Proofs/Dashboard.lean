import Drawer.Spec.Dashboard

/-! What a dashboard of a scope depends on. The devices that are counted are those of
the scope; the scores and the alerts are those of an organization, or of everyone. -/

namespace Drawer.FleetControl

@[simp] theorem asked_iff {wanted value : String} : asked wanted value = true ↔ wanted = "" ∨ value = wanted := by
  simp [asked]

theorem mean_perm {points : DeviceRegistryRecord → Int32} {l l' : List DeviceRegistryRecord} (h : l.Perm l') :
    FleetControlPlane.mean points l = FleetControlPlane.mean points l' := by
  have : LeftCommutative fun (d : DeviceRegistryRecord) (sum : Int32) => points d + sum :=
    ⟨fun d d' sum => by rw [← Int32.add_assoc, Int32.add_comm (points d), Int32.add_assoc]⟩
  unfold FleetControlPlane.mean
  rw [h.foldr_eq, h.length_eq]

theorem summary_perm {l l' : List DeviceRegistryRecord} (h : l.Perm l') :
    FleetControlPlane.summary l = FleetControlPlane.summary l' := by
  unfold FleetControlPlane.summary
  rw [h.length_eq, mean_perm h, mean_perm h, mean_perm h, mean_perm h, mean_perm h]

namespace Scope

variable {scope : Scope} {id : String} {s s' : FleetControlPlane}

/-- The filter that a dashboard searches with. -/
def filter (scopeType scopeId : String) : DeviceFilter :=
  { organizationId := if scopeType = "organization" then scopeId else ""
    merchantId := if scopeType = "merchant" then scopeId else ""
    branchId := if scopeType = "branch" then scopeId else ""
    region := if scopeType = "region" then scopeId else "" }

theorem filter_iff (d : DeviceRegistryRecord) :
    FleetControlPlane.tenantMatches d (filter scope.name id) = true ↔ id = "" ∨ scope.of d = id := by
  cases scope <;> simp [FleetControlPlane.tenantMatches, filter, name, of, asked, hasTag, labelMatches, containsText]

/-- States that agree on a scope hold the same records of it, in any order. -/
theorem Agree.records (h : Agree scope id s s') :
    (s.records.filter fun d => decide (scope.of d = id)).Perm (s'.records.filter fun d => decide (scope.of d = id)) := by
  have hsame : Dict.Same (Dict.keep (fun d => decide (scope.of d = id)) s.devices)
      (Dict.keep (fun d => decide (scope.of d = id)) s'.devices) := by
    intro key
    ext d
    simp only [Dict.lookup_keep, Option.filter_eq_some_iff, decide_eq_true_eq]
    exact and_congr_left fun hd => h.devices key d hd
  have hperm := hsame.entries.map Sigma.snd
  simpa only [Dict.keep, FleetControlPlane.records, List.filter_map, Function.comp_def] using hperm

theorem Agree.searchDevices (h : Agree scope id s s') (hid : id ≠ "") :
    (s.searchDevices (filter scope.name id)).Perm (s'.searchDevices (filter scope.name id)) := by
  have hfilter : (fun d => FleetControlPlane.tenantMatches d (filter scope.name id)) = fun d => decide (scope.of d = id) := by
    funext d
    rw [Bool.eq_iff_iff, filter_iff, decide_eq_true_eq, or_iff_right hid]
  unfold FleetControlPlane.searchDevices
  rw [hfilter]
  exact h.records

theorem Agree.health (h : Agree organization id s s') (hid : id ≠ "") : s.health id = s'.health id := by
  have hasked : (fun d : DeviceRegistryRecord => asked id d.organizationId) = fun d => decide (organization.of d = id) := by
    funext d
    rw [Bool.eq_iff_iff, asked_iff, decide_eq_true_eq, or_iff_right hid]
    rfl
  unfold FleetControlPlane.health
  rw [hasked]
  exact summary_perm h.records

theorem Filed.listAlerts (h : Filed id s) (hid : id ≠ "") :
    s.listAlerts id false =
      (s.alerts.filter (alerting organization id s)).filter fun a => asked id a.organizationId && !a.acknowledged := by
  unfold FleetControlPlane.listAlerts
  rw [List.filter_filter]
  refine List.filter_congr fun a ha => ?_
  rw [Bool.eq_iff_iff]
  simp only [Bool.and_eq_true, asked_iff, or_iff_right hid, Bool.false_or, Bool.not_eq_true']
  exact ⟨fun ⟨horg, hopen⟩ => ⟨⟨horg, hopen⟩, h a ha hopen horg⟩, fun h => h.1⟩

theorem Agree.listAlerts (h : Agree organization id s s') (hid : id ≠ "") (hs : Filed id s) (hs' : Filed id s') :
    s.listAlerts id false = s'.listAlerts id false := by
  rw [hs.listAlerts hid, hs'.listAlerts hid, h.alerts]

theorem dashboard_organization (s : FleetControlPlane) (id : String) :
    s.dashboard organization.name id =
      { scopeType := "organization", scopeId := id
        deviceCount := (s.searchDevices (filter organization.name id)).length
        onlineDevices := (s.searchDevices (filter organization.name id)).countP fun d => d.connectivityStatus = "online"
        offlineDevices := (s.searchDevices (filter organization.name id)).countP fun d => d.connectivityStatus = "offline"
        firmwareDistribution := fun version =>
          (s.searchDevices (filter organization.name id)).countP fun d => d.firmwareVersion = version
        health := s.health id
        alertSummary := fun severity => (s.listAlerts id false).countP fun a => a.severity = severity } := rfl

theorem Agree.dashboard (h : Agree organization id s s') (hid : id ≠ "") (hs : Filed id s) (hs' : Filed id s') :
    s.dashboard organization.name id = s'.dashboard organization.name id := by
  have hperm := h.searchDevices hid
  rw [dashboard_organization, dashboard_organization, hperm.length_eq, hperm.countP_eq, hperm.countP_eq, h.health hid,
    h.listAlerts hid hs hs']
  simp only [hperm.countP_eq]

/-! ### What else is seen -/

def organizationOf (scope : Scope) (id : String) : String := if scope = organization then id else ""

theorem alertSummary_eq (s : FleetControlPlane) (severity : String) :
    (s.dashboard scope.name id).alertSummary severity =
      s.alerts.countP fun a => decide (a.severity = severity) &&
        (asked (organizationOf scope id) a.organizationId && !a.acknowledged) := by
  cases scope <;> simp [FleetControlPlane.dashboard, FleetControlPlane.listAlerts, name, organizationOf, List.countP_filter]

def replaceOthers (scope : Scope) (id : String) (s : FleetControlPlane) (others : List FleetAlert) : FleetControlPlane :=
  { s with alerts := s.alerts.filter (alerting scope id s) ++ others }

def stray (deviceId severity : String) : FleetAlert := { organizationId := "elsewhere", deviceId, severity }

theorem agree_replaceOthers (others : List FleetAlert) (h : ∀ a ∈ others, s.devices.lookup a.deviceId = none) :
    Agree scope id s (replaceOthers scope id s others) where
  devices _ _ _ := Iff.rfl
  alerts := by
    have hothers : others.filter (alerting scope id s) = [] := by
      refine List.filter_eq_nil_iff.mpr fun a ha => ?_
      simp [alerting, h a ha]
    change _ = (s.alerts.filter (alerting scope id s) ++ others).filter (alerting scope id s)
    rw [List.filter_append, hothers, List.append_nil, List.filter_filter]
    simp only [Bool.and_self]

theorem filed_replaceOthers (others : List FleetAlert) (h : ∀ a ∈ others, a.organizationId ≠ id) :
    Filed id (replaceOthers organization id s others) := by
  intro a ha _ horg
  rcases List.mem_append.mp ha with ha | ha
  · exact (List.mem_filter.mp ha).2
  · exact absurd horg (h a ha)

/-- A dashboard that counts everyone's alerts is changed by an alert of no device. -/
theorem not_scoped_of_everyone (h : organizationOf scope id = "") : ¬ Scoped scope id s := by
  intro hscoped
  obtain ⟨deviceId, hdevice⟩ := Infinite.exists_notMem_finset s.devices.keys.toFinset
  obtain ⟨severity, hseverity⟩ := Infinite.exists_notMem_finset (s.alerts.map FleetAlert.severity).toFinset
  have hnone : s.devices.lookup deviceId = none :=
    AList.lookup_eq_none.mpr fun hmem => hdevice (List.mem_toFinset.mpr hmem)
  have hid : scope = organization → id = "" := fun hs => by simpa [organizationOf, hs] using h
  have hview := hscoped (replaceOthers scope id s [stray deviceId severity])
    (fun hs => hs ▸ filed_replaceOthers _ (by simp [stray, hid hs])) (agree_replaceOthers _ (by simpa [stray] using hnone))
  have hcount := congrFun (congrArg DashboardView.alertSummary hview) severity
  rw [alertSummary_eq, alertSummary_eq, replaceOthers, List.countP_append, List.countP_singleton] at hcount
  have hzero : (s.alerts.countP fun a => decide (a.severity = severity) &&
      (asked (organizationOf scope id) a.organizationId && !a.acknowledged)) = 0 := by
    refine List.countP_eq_zero.mpr fun a ha => ?_
    have hne : a.severity ≠ severity := fun heq => hseverity (by simpa using ⟨a, ha, heq⟩)
    simp [hne]
  rw [hzero] at hcount
  simp [stray, asked, h] at hcount

/-- An open alert under the organization that no device of it raised is counted. -/
theorem filed_of_scoped (h : Scoped organization id s) : Filed id s := by
  intro a ha hopen horg
  by_contra hout
  have hview := h (replaceOthers organization id s []) (fun _ => filed_replaceOthers [] (by simp))
    (agree_replaceOthers [] (by simp))
  have hcount := congrFun (congrArg DashboardView.alertSummary hview) a.severity
  rw [alertSummary_eq, alertSummary_eq, List.countP_eq_countP_filter_add s.alerts _ (alerting organization id s)] at hcount
  simp only [replaceOthers, List.append_nil] at hcount
  have hpos : 0 < (s.alerts.filter fun a => !alerting organization id s a).countP fun b =>
      decide (b.severity = a.severity) && (asked (organizationOf organization id) b.organizationId && !b.acknowledged) := by
    refine List.countP_pos_iff.mpr ⟨a, List.mem_filter.mpr ⟨ha, by simpa using hout⟩, ?_⟩
    simp [asked, organizationOf, horg, hopen]
  omega

theorem dashboard_scoped_iff (scope : Scope) (id : String) (s : FleetControlPlane) :
    Scoped scope id s ↔ scope = organization ∧ id ≠ "" ∧ Filed id s := by
  constructor
  · intro h
    have hasked : organizationOf scope id ≠ "" := fun he => not_scoped_of_everyone he h
    have hscope : scope = organization := by
      by_contra hs
      simp [organizationOf, hs] at hasked
    subst hscope
    exact ⟨rfl, hasked, filed_of_scoped h⟩
  · rintro ⟨rfl, hid, hfiled⟩ s' hs' hagree
    exact hagree.dashboard hid hfiled (hs' rfl)

/-- A merchant without devices is shown the alert of another's. -/
theorem merchant_sees_elsewhere :
    ¬ ∀ (scope : Scope) (id : String) (s s' : FleetControlPlane), id ≠ "" → Agree scope id s s' →
      s.dashboard scope.name id = s'.dashboard scope.name id := by
  intro h
  have hview := h merchant "m1" {} { alerts := [stray "dev-9" "critical"] } (by decide)
    ⟨fun _ _ _ => Iff.rfl, by decide⟩
  exact absurd (congrFun (congrArg DashboardView.alertSummary hview) "critical") (by decide)

end Scope
end Drawer.FleetControl
