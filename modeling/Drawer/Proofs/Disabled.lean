import Drawer.Spec.TwinClient

/-! A disabled drawer and the updates its device submits. The stored twin is not
consulted: what keeps a drawer disabled is the flag in the update itself, or a
control plane that says so again. -/

namespace Drawer.Twin.FleetManager

variable {ω : Type}

/-- The control plane was asked to take the twin, and raised or answered that its device is disabled. -/
def PushRefused (host : Host) (m : FleetManager ω) (twin : DrawerTwin) : Prop :=
  ∃ cp, m.controlPlane = some cp ∧
    ∀ sync, (cp.pushTwin (m.asksDisabled twin.deviceId).2 (outgoing host twin)).1 = .ok sync → sync.disabled = true

/-- The update is of no drawer, it says itself that the drawer is disabled, or the control plane is there and raises or
answers that the device is disabled. -/
def Withheld (host : Host) (m : FleetManager ω) (twin : DrawerTwin) : Prop :=
  twin.drawerId = "" ∨ twin.disabled = true ∨ (m.asksDisabled twin.deviceId).1 ≠ .ok false ∨ PushRefused host m twin

@[simp] theorem get_put (m : FleetManager ω) (twin : DrawerTwin) (d : String) :
    (m.put twin).get d = if d = twin.drawerId then some twin else m.get d := by
  have hsave : ∀ m : FleetManager ω, m.saveStore.get d = m.get d := by
    intro m
    unfold saveStore
    split_ifs <;> rfl
  rw [put, hsave]
  exact Dict.lookup_insert_if _ _ _ _

@[simp] theorem get_world (m : FleetManager ω) (w : ω) (d : String) : { m with world := w }.get d = m.get d := rfl

@[simp] theorem markDisabled_drawerId (twin : DrawerTwin) : (markDisabled twin).drawerId = twin.drawerId := rfl

@[simp] theorem enrich_drawerId (host : Host) (twin : DrawerTwin) : (enrich host twin).drawerId = twin.drawerId := by
  simp only [enrich]

@[simp] theorem outgoing_drawerId (host : Host) (twin : DrawerTwin) : (outgoing host twin).drawerId = twin.drawerId := by
  simp only [outgoing, enrich]

@[simp] theorem outgoing_disabled (host : Host) (twin : DrawerTwin) : (outgoing host twin).disabled = twin.disabled := by
  simp only [outgoing, enrich]

@[simp] theorem settle_drawerId (host : Host) (twin : DrawerTwin) (sync : SyncResult) :
    (settle host twin sync).drawerId = twin.drawerId := by
  unfold settle
  split_ifs <;> rfl

theorem settle_disabled (host : Host) (twin : DrawerTwin) (sync : SyncResult) :
    (settle host twin sync).disabled = (sync.disabled || twin.disabled) := by
  unfold settle
  cases hdis : sync.disabled
  · simp only [Bool.false_eq_true, if_false, Bool.false_or]
    split_ifs <;> rfl
  · rfl

/-- An update either leaves every twin as it is, or replaces the twin of its drawer; a twin that is withheld leaves no
enabled twin behind. -/
theorem submitUpdate_spec (host : Host) (m : FleetManager ω) (twin : DrawerTwin) :
    (Withheld host m twin ∧ ∀ d, (m.submitUpdate host twin).2.get d = m.get d) ∨
    ∃ twin', (twin'.disabled = true ↔ Withheld host m twin) ∧
      ∀ d, (m.submitUpdate host twin).2.get d = if d = twin.drawerId then some twin' else m.get d := by
  unfold submitUpdate
  by_cases hname : twin.drawerId = ""
  · exact Or.inl ⟨Or.inl hname, fun d => by rw [if_pos hname]⟩
  simp only [if_neg hname]
  rcases hask : m.asksDisabled twin.deviceId with ⟨_ | disabled, w⟩
  · exact Or.inl ⟨Or.inr (Or.inr (Or.inl (by simp [hask]))), fun d => rfl⟩
  cases disabled with
  | true =>
    refine Or.inr ⟨markDisabled (enrich host twin), iff_of_true rfl (Or.inr (Or.inr (Or.inl (by simp [hask])))), ?_⟩
    intro d
    rw [get_put, get_world, markDisabled_drawerId, enrich_drawerId]
  | false =>
    cases hdis : twin.disabled with
    | true => exact Or.inl ⟨Or.inr (Or.inl hdis), fun d => rfl⟩
    | false =>
      have hout : (outgoing host twin).disabled = false := (outgoing_disabled host twin).trans hdis
      have hiff : Withheld host m twin ↔ PushRefused host m twin := by
        simp [Withheld, hname, hdis, hask]
      cases hcp : m.controlPlane with
      | none =>
        refine Or.inr ⟨outgoing host twin, ?_, fun d => ?_⟩
        · rw [hout, hiff, PushRefused, hcp]
          simp
        · simp only [Bool.false_eq_true, if_false]
          rw [get_put, outgoing_drawerId]
          congr 1
      | some cp =>
        simp only [Bool.false_eq_true, if_false]
        rcases hpush : cp.pushTwin w (outgoing host twin) with ⟨_ | sync, w'⟩
        · refine Or.inl ⟨hiff.mpr ⟨cp, hcp, fun sync h => ?_⟩, fun d => rfl⟩
          rw [hask, hpush] at h
          cases h
        · refine Or.inr ⟨settle host (outgoing host twin) sync, ?_, fun d => ?_⟩
          · rw [settle_disabled, hout, Bool.or_false, hiff, PushRefused]
            simp [hcp, hask, hpush]
          · rw [get_put, settle_drawerId, outgoing_drawerId]
            congr 1

/-- A disabled drawer `d` stays disabled under an update if and only if the update is of another drawer or is withheld:
by its own flag, or by the answer of a control plane. -/
theorem disabled_kept_iff (host : Host) (m : FleetManager ω) (d : String) (stored : DrawerTwin)
    (hget : m.get d = some stored) (hdis : stored.disabled = true) (twin : DrawerTwin) :
    ((m.submitUpdate host twin).2.get d).any DrawerTwin.disabled = true ↔ twin.drawerId ≠ d ∨ Withheld host m twin := by
  rcases submitUpdate_spec host m twin with ⟨hheld, hsame⟩ | ⟨twin', hiff, hnew⟩
  · refine iff_of_true ?_ (Or.inr hheld)
    simp [hsame, hget, hdis]
  · rw [hnew]
    by_cases hd : d = twin.drawerId
    · simp [hd, hiff]
    · rw [if_neg hd]
      refine iff_of_true ?_ (Or.inl (Ne.symm hd))
      simp [hget, hdis]

/-- A network that answers every call with `status`, or not at all. -/
def answering (status : Option Int) : Network Unit where
  send _ _ _ := (status.map fun status => { status }, ())
  what _ := ""

/-- The twin of the appliance's own drawer. -/
def ownTwin (disabled : Bool) : DrawerTwin := { drawerId := "local-drawer", deviceId := "dev-1", disabled }

/-- A manager whose own drawer is disabled, with a control plane over that network. -/
def manager (status : Option Int) : FleetManager (HttpDeviceTwinClient Unit) where
  controlPlane := some (HttpDeviceTwinClient.controlPlane (answering status) "")
  world := { config := { baseUrl := Text.ascii "http://cloud" }, net := () }
  twins := AList.insert "local-drawer" (ownTwin true) ∅

theorem own_get (status : Option Int) : (manager status).get "local-drawer" = some (ownTwin true) :=
  AList.lookup_insert _

/-- The control plane answers 423 again. -/
theorem disabled_kept_answered :
    (((manager (some 423)).submitUpdate {} (ownTwin false)).2.get "local-drawer").any DrawerTwin.disabled = true := by
  rw [disabled_kept_iff {} (manager (some 423)) "local-drawer" (ownTwin true) (own_get _) rfl (ownTwin false)]
  refine Or.inr (Or.inr (Or.inr (Or.inl ?_)))
  decide +kernel

/-- The control plane cannot be reached: the device reports that it is not disabled, and the appliance takes
transactions again. -/
theorem disabled_lost :
    (manager none).blocks "/txn" = true ∧ ((manager none).submitUpdate {} (ownTwin false)).2.blocks "/txn" = false ∧
    ¬ ∀ (d : String) (stored : DrawerTwin), (manager none).get d = some stored → stored.disabled = true →
      ∀ twin, (((manager none).submitUpdate {} twin).2.get d).any DrawerTwin.disabled = true := by
  have hlost : (((manager none).submitUpdate {} (ownTwin false)).2.get "local-drawer").any DrawerTwin.disabled = false := by
    decide +kernel
  refine ⟨by decide +kernel, ?_, fun h => ?_⟩
  · simp [blocks, hlost]
  · rw [h "local-drawer" (ownTwin true) (own_get _) rfl (ownTwin false)] at hlost
    cases hlost

end Drawer.Twin.FleetManager
