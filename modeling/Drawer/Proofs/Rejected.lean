import Drawer.Proofs.Disabled

/-! Updates that are turned away because the device is disabled. Both ways of
turning one away store the submission all the same, so the stored twin is kept only
where the submission repeats it. -/

namespace Drawer.Twin.FleetManager

variable {ω : Type}

/-! ### What is wanted -/

/-- The control plane says that the device of the update is disabled, when it is asked or when the twin is pushed. -/
def Rejected (host : Host) (m : FleetManager ω) (twin : DrawerTwin) : Prop :=
  twin.drawerId ≠ "" ∧ ((m.asksDisabled twin.deviceId).1 = .ok true ∨
    (m.asksDisabled twin.deviceId).1 = .ok false ∧ twin.disabled = false ∧
      ∃ cp sync, m.controlPlane = some cp ∧ sync.disabled = true ∧
        (cp.pushTwin (m.asksDisabled twin.deviceId).2 (outgoing host twin)).1 = .ok sync)

/-- The twin but for what a rejection may write. -/
def frame (twin : DrawerTwin) : DrawerTwin :=
  { twin with disabled := false, syncStatus := "", conflict := false, conflictReason := "" }

/-- The update is refused, and the stored twin is as it was but for its status. -/
def Refuses (host : Host) (m : FleetManager ω) (twin : DrawerTwin) : Prop :=
  (m.submitUpdate host twin).1 = .ok false ∧
    ((m.submitUpdate host twin).2.get twin.drawerId).map frame = (m.get twin.drawerId).map frame

/-! ### When a submission says nothing new -/

/-- What a device says of itself: neither the status nor what the engines make of the rest. -/
def reported (twin : DrawerTwin) : DrawerTwin :=
  { frame twin with
    health := { twin.health with score := 0, reasons := [] }, maintenance := {}, inventoryForecast := {}, alerts := [] }

/-- The submission at the revision it gets: a push counts it up. -/
def arriving (m : FleetManager ω) (twin : DrawerTwin) : DrawerTwin :=
  match (m.asksDisabled twin.deviceId).1 with
  | .ok true => twin
  | _ => { twin with revision := twin.revision + 1 }

/-- The submission says what the stored twin says, and the engines find the stored twin as they left it. -/
def Repeats (host : Host) (m : FleetManager ω) (twin prev : DrawerTwin) : Prop :=
  reported (arriving m twin) = reported prev ∧ enrich host prev = prev

theorem scoreHealth_reported (h : DrawerHealth) : scoreHealth { h with score := 0, reasons := [] } = scoreHealth h := by
  simp only [scoreHealth, penalties]

theorem enrich_reported (host : Host) (twin : DrawerTwin) : enrich host (reported twin) = frame (enrich host twin) := by
  simp only [enrich, reported, frame, scoreHealth_reported]
  congr 1

@[simp] theorem reported_enrich (host : Host) (twin : DrawerTwin) : reported (enrich host twin) = reported twin := by
  simp only [enrich, reported, frame, scoreHealth]

@[simp] theorem reported_frame (twin : DrawerTwin) : reported (frame twin) = reported twin := rfl

@[simp] theorem frame_markDisabled (twin : DrawerTwin) : frame (markDisabled twin) = frame twin := rfl

theorem enrich_fixed {host : Host} {twin : DrawerTwin} (h : frame (enrich host twin) = frame twin) :
    enrich host twin = twin := by
  have hback := congrArg (fun t : DrawerTwin => { t with
    disabled := twin.disabled, syncStatus := twin.syncStatus, conflict := twin.conflict
    conflictReason := twin.conflictReason }) h
  simp only [frame, enrich] at hback ⊢
  exact hback

theorem enrich_enrich (host : Host) (twin : DrawerTwin) : enrich host (enrich host twin) = enrich host twin :=
  enrich_fixed (by rw [← enrich_reported, reported_enrich, enrich_reported])

theorem frame_enrich_iff (host : Host) (twin prev : DrawerTwin) :
    frame (enrich host twin) = frame prev ↔ reported twin = reported prev ∧ enrich host prev = prev := by
  constructor
  · intro h
    have hsame : reported twin = reported prev := by
      rw [← reported_enrich host, ← reported_frame, h, reported_frame]
    refine ⟨hsame, enrich_fixed ?_⟩
    rw [← h, ← enrich_reported, ← enrich_reported, hsame]
  · rintro ⟨hsame, hfixed⟩
    rw [← enrich_reported, hsame, enrich_reported, hfixed]

theorem submitUpdate_rejected {host : Host} {m : FleetManager ω} {twin : DrawerTwin} (h : Rejected host m twin) :
    (m.submitUpdate host twin).1 = .ok false ∧ (m.submitUpdate host twin).2.get twin.drawerId =
      some (markDisabled (enrich host (arriving m twin))) := by
  obtain ⟨hname, h⟩ := h
  unfold submitUpdate arriving
  rw [if_neg hname]
  rcases hask : m.asksDisabled twin.deviceId with ⟨answer, w⟩
  rw [hask] at h
  rcases h with rfl | ⟨rfl, hdis, cp, sync, hcp, hsync, hpush⟩
  · refine ⟨rfl, ?_⟩
    simp
  · rcases hres : cp.pushTwin w (outgoing host twin) with ⟨res, w'⟩
    rw [hres] at hpush
    obtain rfl : res = .ok sync := hpush
    have hsettle : settle host (outgoing host twin) sync = markDisabled (outgoing host twin) := by
      rw [settle, if_pos hsync]
    simp only [hdis, Bool.false_eq_true, if_false, hcp, hres, hsettle]
    refine ⟨rfl, ?_⟩
    have hout : outgoing host twin = enrich host { twin with revision := twin.revision + 1 } := by
      simp only [outgoing, enrich]
      congr 1
    rw [get_put, markDisabled_drawerId, outgoing_drawerId, if_pos rfl, hout]
    rfl

/-- A rejected update leaves the stored twin as it is but for its status if and only if the submission repeats it. -/
theorem rejected_frame_iff (host : Host) (m : FleetManager ω) (twin prev : DrawerTwin)
    (hget : m.get twin.drawerId = some prev) (hrejected : Rejected host m twin) :
    Refuses host m twin ↔ Repeats host m twin prev := by
  obtain ⟨hanswer, hstored⟩ := submitUpdate_rejected hrejected
  rw [Refuses, Repeats, hstored, hget, ← frame_enrich_iff, and_iff_right hanswer]
  simp

/-- The twin of the appliance's own drawer, enabled, as it is stored. -/
def known : DrawerTwin := enrich {} (ownTwin false)

/-- The control plane answers that the device is disabled. -/
def revoked : FleetManager (HttpDeviceTwinClient Unit) :=
  { manager (some 423) with twins := AList.insert "local-drawer" known ∅ }

theorem revoked_get : revoked.get "local-drawer" = some known := AList.lookup_insert _

theorem revoked_asked : (revoked.asksDisabled "dev-1").1 = .ok true := by decide +kernel

/-- The device submits what is stored. -/
theorem rejected_frame_repeated : Refuses {} revoked (ownTwin false) := by
  refine (rejected_frame_iff {} revoked (ownTwin false) known revoked_get ?_).mpr ⟨?_, enrich_enrich {} _⟩
  · exact ⟨by decide, Or.inl revoked_asked⟩
  · have hsame : arriving revoked (ownTwin false) = ownTwin false := by
      rw [arriving, show (ownTwin false).deviceId = "dev-1" from rfl, revoked_asked]
    rw [hsame, known, reported_enrich]

/-- The device submits another firmware version, and the version is stored. -/
theorem rejected_stores : ¬ ∀ twin prev, revoked.get twin.drawerId = some prev → Rejected {} revoked twin →
    Refuses {} revoked twin := by
  intro h
  have hrejected : Rejected {} revoked { ownTwin false with firmware := { currentVersion := "9.9.9" } } :=
    ⟨by decide, Or.inl revoked_asked⟩
  have hsame := (h _ known revoked_get hrejected).2
  rw [(submitUpdate_rejected hrejected).2] at hsame
  have hversion := congrArg (fun t => t.map fun t : DrawerTwin => t.firmware.currentVersion) hsame
  revert hversion
  rw [show ({ ownTwin false with firmware := { currentVersion := "9.9.9" } } : DrawerTwin).drawerId = "local-drawer" from rfl,
    revoked_get]
  simp [frame, markDisabled, enrich, arriving, known, ownTwin, revoked_asked]

end Drawer.Twin.FleetManager
