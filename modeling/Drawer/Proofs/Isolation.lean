import Drawer.Proofs.Lifecycle
import Drawer.Sanity.Edits

/-! Tenant isolation of the fleet registry. Every request but an enrolment writes
devices, commands and assignments of its own tenant. An enrolment also writes the
edge device, the location, the fleet and the group it names, whosever they are. -/

namespace Drawer.FleetOps
open FleetOperationsService Dict

variable {τ : Type} {c : Wiring τ} {s s' s'' : FleetOperationsService (Site τ)} {tenant key : String} {stamp : Int}

/-! ### Requests that are no enrolments -/

theorem Isolated.refl (tenant : String) (s : FleetOperationsService (Site τ)) : Isolated tenant s s := by
  constructor <;> exact keeps_refl _ _

theorem Isolated.trans (h : Isolated tenant s s') (h' : Isolated tenant s' s'') : Isolated tenant s s'' where
  devices := h.devices.trans h'.devices
  commands := h.commands.trans h'.commands
  fleets := h.fleets.trans h'.fleets
  locations := h.locations.trans h'.locations
  groups := h.groups.trans h'.groups
  assignments := h.assignments.trans h'.assignments
  edge := h.edge.trans h'.edge

theorem emitEvidenceLocked_eq {ω : Type} (env : Env ω) (s : FleetOperationsService ω) (d : FleetDevice) (e : String)
    (n : Int) (p : Json String) :
    s.emitEvidenceLocked env d e n p = { s with world := (s.emitEvidenceLocked env d e n p).world } := by
  unfold emitEvidenceLocked
  split <;> rfl

theorem emitEvidenceLocked_edge (d : FleetDevice) (e : String) (n : Int) (p : Json String) :
    (s.emitEvidenceLocked c.env d e n p).world.edge = s.world.edge := by
  unfold emitEvidenceLocked Wiring.env
  cases c.trust <;> rfl

theorem policyAllows_edge (t d a : String) (context : Json String) (now : Int) :
    (s.policyAllows c.env t d a context now).1.edge = s.world.edge := by
  unfold policyAllows Wiring.env
  cases c.trust <;> rfl

theorem Edit.isolated (h : Edit c.env (· = tenant) key stamp s s') (hs : Owned s) : Isolated tenant s s' := by
  have hrefl := Isolated.refl tenant s
  cases h with
  | note h =>
    refine ⟨?_, ?_, ?_, ?_, ?_, ?_, ?_⟩
    · simp [h.devices]
    · simp [h.commands]
    · simp [h.fleets]
    · simp [h.locations]
    · simp [h.groups]
    · simp [h.assignments]
    · simp [h.world]
  | hear => exact { hrefl with }
  | write hd hwho =>
    refine { hrefl with devices := keeps_insert.mpr fun v hv hne => ?_ }
    rw [hd] at hv
    obtain rfl := Option.some.inj hv
    exact absurd hwho hne
  | place hwho ha =>
    refine { hrefl with assignments := keeps_insert.mpr fun v hv hne => ?_ }
    have hv' := hs.placed key v hv
    rw [ha] at hv'
    exact absurd ((Option.some.inj hv').symm.trans hwho) hne
  | store hwho hold =>
    refine { hrefl with commands := keeps_insert.mpr fun v hv hne => ?_ }
    exact absurd ((hold v hv).trans hwho) hne
  | ask =>
    refine { hrefl with edge := ?_ }
    rw [policyAllows_edge]
    exact keeps_refl _ _
  | record =>
    rw [emitEvidenceLocked_eq]
    refine { hrefl with edge := ?_ }
    rw [emitEvidenceLocked_edge]
    exact keeps_refl _ _

theorem Edits.isolated (h : Edits c.env (· = tenant) key stamp s s') (hs : Owned s) : Isolated tenant s s' := by
  induction h with
  | refl => exact Isolated.refl tenant s
  | tail hsteps hstep ih => exact ih.trans (hstep.isolated (Edits.owned hsteps hs))

/-! ### The edge platform -/

theorem mem_tenantDevices {e : EdgePlatformService} {t : String} (ht : t ≠ "") {v : EdgeDevice} :
    v ∈ e.tenantDevices t ↔ e.devices.lookup v.deviceId = some v ∧ v.tenantId = t := by
  have hmem : v ∈ e.devices.entries.map Sigma.snd ↔ e.devices.lookup v.deviceId = some v := by
    rw [List.mem_map, ← Option.mem_def, AList.mem_lookup_iff]
    refine ⟨fun ⟨p, hp, hv⟩ => ?_, fun h => ⟨_, h, rfl⟩⟩
    obtain ⟨k, v'⟩ := p
    obtain rfl : v' = v := hv
    have hk := e.keyed k v' (AList.mem_lookup_iff.mpr hp)
    rw [hk]
    exact hp
  rw [EdgePlatformService.tenantDevices, List.mem_filter, hmem]
  simp [ht]

/-- Among the tenant's devices there is the one kept under the id, if that is the tenant's. -/
theorem find_tenantDevices (e : EdgePlatformService) {t : String} (ht : t ≠ "") (k : String) :
    ((e.tenantDevices t).find? fun v => v.deviceId = k) = (e.devices.lookup k).filter fun v => v.tenantId = t := by
  ext v
  rw [Option.filter_eq_some_iff]
  refine ⟨fun h => ?_, fun h => ?_⟩
  · have hk : v.deviceId = k := by simpa using List.find?_some h
    obtain ⟨hv, hvt⟩ := (mem_tenantDevices ht).mp (List.mem_of_find?_eq_some h)
    exact ⟨hk ▸ hv, by simpa using hvt⟩
  · obtain ⟨hv, hvt⟩ := h
    have hk := e.keyed k v hv
    have hin : v ∈ e.tenantDevices t := (mem_tenantDevices ht).mpr ⟨hk ▸ hv, by simpa using hvt⟩
    cases hf : (e.tenantDevices t).find? fun v => v.deviceId = k with
    | none =>
      have hno := List.find?_eq_none.mp hf v hin
      simp [hk] at hno
    | some v' =>
      have hk' : v'.deviceId = k := by simpa using List.find?_some hf
      obtain ⟨hv', -⟩ := (mem_tenantDevices ht).mp (List.mem_of_find?_eq_some hf)
      rw [hk', hv] at hv'
      exact congrArg some (Option.some.inj hv').symm

theorem any_tenantDevices (e : EdgePlatformService) {t : String} (ht : t ≠ "") (k : String) :
    ((e.tenantDevices t).any fun v => v.deviceId = k) = ((e.devices.lookup k).filter fun v => v.tenantId = t).isSome := by
  rw [← find_tenantDevices e ht, List.isSome_find?]

/-! ### What enrolment asks of the platform -/

theorem capabilities_of_known {type : String} (h : knownDeviceType type = true) : defaultCapabilitiesForType type ≠ [] := by
  simp only [knownDeviceType, supportedTypes, List.mem_cons, List.not_mem_nil, or_false, decide_eq_true_eq] at h
  rcases h with rfl | rfl | rfl | rfl | rfl | rfl <;> decide

theorem capabilities_withDefaults {d : EdgeDevice} (h : knownDeviceType d.deviceType = true) :
    (withDefaults d).capabilities ≠ [] := by
  simp only [withDefaults]
  split_ifs with hcap
  · exact capabilities_of_known h
  · exact hcap

variable {w : Site τ} {d : FleetDevice}

theorem registerEdge_own (htenant : d.tenantId ≠ "") {v : EdgeDevice} (hv : w.edge.devices.lookup d.deviceId = some v)
    (hown : v.tenantId = d.tenantId) : registerEdge c.env w d =
      (w, some (if d.capabilities ≠ [] then d else { d with capabilities := v.capabilities, driverId := v.driverId })) := by
  have hfilter : (w.edge.devices.lookup d.deviceId).filter (fun v => decide (v.tenantId = d.tenantId)) = some v := by
    simp [hv, hown]
  have hany := any_tenantDevices w.edge htenant d.deviceId
  have hfind := find_tenantDevices w.edge htenant d.deviceId
  rw [hfilter] at hany hfind
  simp only [registerEdge, Wiring.env, hany, hfind, Option.isSome_some, if_true, Bool.not_true, Bool.false_eq_true, if_false]
  split_ifs <;> rfl

/-- The platform does not have the device from this tenant. -/
def Missing (w : Site τ) (d : FleetDevice) : Prop := ∀ v, w.edge.devices.lookup d.deviceId = some v → v.tenantId ≠ d.tenantId

theorem any_of_missing (htenant : d.tenantId ≠ "") (hno : Missing w d) :
    ((w.edge.tenantDevices d.tenantId).any fun v => v.deviceId = d.deviceId) = false := by
  rw [any_tenantDevices w.edge htenant]
  cases hv : w.edge.devices.lookup d.deviceId with
  | none => rfl
  | some v => simp [hno v hv]

theorem registerEdge_refused (htenant : d.tenantId ≠ "") (hno : Missing w d) (htype : knownDeviceType d.deviceType = false) :
    registerEdge c.env w d = (w, none) := by
  have hreg : c.registerDevice w (edgeDevice d) = (w, false) := by
    unfold Wiring.registerDevice
    rw [if_pos]
    simp [edgeDevice, htype]
  have hany := any_of_missing htenant hno
  simp only [registerEdge, Wiring.env, hany, Bool.false_eq_true, if_false, hreg, Bool.not_false, if_true]

/-- A device that the platform takes is kept under its id, for this tenant, and has capabilities. -/
theorem registerEdge_taken (hd : d.deviceId ≠ "") (htenant : d.tenantId ≠ "") (hno : Missing w d)
    (htype : knownDeviceType d.deviceType = true) :
    (∃ v, (registerEdge c.env w d).1.edge.devices = w.edge.devices.insert d.deviceId v ∧ v.tenantId = d.tenantId) ∧
    ∃ d', (registerEdge c.env w d).2 = some d' ∧ d'.capabilities ≠ [] := by
  have hdev : ∃ w', c.registerDevice w (edgeDevice d) = (w', true) ∧
      w'.edge.devices = w.edge.devices.insert d.deviceId (withDefaults (edgeDevice d)) := by
    unfold Wiring.registerDevice
    rw [if_neg]
    · exact ⟨_, rfl, rfl⟩
    · simp [edgeDevice, hd, htenant, htype]
  obtain ⟨w', hreg, hw'⟩ := hdev
  have hany := any_of_missing htenant hno
  have hfind : ((w'.edge.tenantDevices d.tenantId).find? fun v => v.deviceId = d.deviceId) =
      some (withDefaults (edgeDevice d)) := by
    rw [find_tenantDevices _ htenant, hw', AList.lookup_insert]
    simp [withDefaults, edgeDevice]
  have hcap : (withDefaults (edgeDevice d)).capabilities ≠ [] := capabilities_withDefaults htype
  simp only [registerEdge, Wiring.env, hany, Bool.false_eq_true, if_false, hreg, Bool.not_true, hfind]
  split_ifs with h
  · exact ⟨⟨_, hw', rfl⟩, d, rfl, h⟩
  · exact ⟨⟨_, hw', rfl⟩, _, rfl, hcap⟩

/-! ### Enrolment -/

theorem enrolled_eq_none {ω : Type} {env : Env ω} {w : ω} {d d₁ : FleetDevice}
    (hreg : (registerEdge env w d).2 = some d₁) : enrolled env w d = none ↔ d₁.capabilities = [] := by
  simp [enrolled, hreg]

/-- The entries of a new device replace just the location, the fleet and the group it names. -/
theorem isolated_entered_iff (hs : Owned s) (hnew : s.devices.lookup d.deviceId = none) (w : Site τ) (actorId : String)
    (now : Int) : Isolated d.tenantId s (entered c.env { s with world := w } d actorId now) ↔
      ¬ NamesForeign s d ∧ Keeps (fun v => v.tenantId ≠ d.tenantId) s.world.edge.devices w.edge.devices := by
  have hlocations : ∀ v : Location, v.tenantId = d.tenantId →
      (Keeps (fun v => v.tenantId ≠ d.tenantId) s.locations (s.locations.insert d.locationId v) ↔
        ¬ ∃ v, s.locations.lookup d.locationId = some v ∧ v.tenantId ≠ d.tenantId) :=
    fun v hv => keeps_insert_of_not (by simp [hv])
  have hfleets : ∀ v : Fleet, v.tenantId = d.tenantId →
      (Keeps (fun v => v.tenantId ≠ d.tenantId) s.fleets (s.fleets.insert d.fleetId v) ↔
        ¬ ∃ v, s.fleets.lookup d.fleetId = some v ∧ v.tenantId ≠ d.tenantId) :=
    fun v hv => keeps_insert_of_not (by simp [hv])
  have hgroups : ∀ v : DeviceGroup, v.tenantId = d.tenantId →
      (Keeps (fun v => v.tenantId ≠ d.tenantId) s.groups (if d.groupId = "" then s.groups else s.groups.insert d.groupId v) ↔
        ¬ (d.groupId ≠ "" ∧ ∃ v, s.groups.lookup d.groupId = some v ∧ v.tenantId ≠ d.tenantId)) := by
    intro v hv
    split_ifs with hgroup
    · simp [hgroup]
    · rw [keeps_insert_of_not (by simp [hv])]
      simp [hgroup]
  rw [entered, emitEvidenceLocked_eq]
  refine ⟨fun h => ⟨fun hforeign => ?_, ?_⟩, fun h => ?_⟩
  · rcases hforeign with hf | hf | hf
    · exact (hlocations _ rfl).mp h.locations hf
    · exact (hfleets _ rfl).mp h.fleets hf
    · exact (hgroups _ rfl).mp h.groups hf
  · have hedge := h.edge
    rw [emitEvidenceLocked_edge] at hedge
    exact hedge
  · obtain ⟨hforeign, hedge⟩ := h
    simp only [NamesForeign, not_or] at hforeign
    refine ⟨?_, keeps_refl _ _, ?_, ?_, ?_, ?_, ?_⟩
    · refine keeps_insert.mpr fun v hv => ?_
      rw [hnew] at hv
      cases hv
    · exact (hfleets _ rfl).mpr hforeign.2.1
    · exact (hlocations _ rfl).mpr hforeign.1
    · exact (hgroups _ rfl).mpr hforeign.2.2
    · -- an assignment under the id would be of a device under the id
      refine keeps_insert.mpr fun a ha => ?_
      have hdevice := hs.placed d.deviceId a ha
      rw [tenantOf, hnew] at hdevice
      cases hdevice
    · rw [emitEvidenceLocked_edge]
      exact hedge

/-- What an enrolment that passed the first checks leaves. -/
theorem isolated_registered_iff (hs : Owned s) (hd : Enrollable s d) (w : Site τ) (actorId : String) (now : Int) :
    Isolated d.tenantId s (concluded c.env s w (enrolled c.env s.world d) actorId now) ↔
    (enrolled c.env s.world d ≠ none → ¬ NamesForeign s d) ∧
      Keeps (fun v => v.tenantId ≠ d.tenantId) s.world.edge.devices w.edge.devices := by
  cases henr : enrolled c.env s.world d with
  | none =>
    refine ⟨fun h => ⟨fun hne => absurd rfl hne, h.edge⟩, fun h => ?_⟩
    exact { Isolated.refl d.tenantId s with edge := h.2 }
  | some d' =>
    obtain ⟨capabilities, driver, rfl⟩ := enrolled_eq henr
    rw [forall_prop_of_true (by simp)]
    refine isolated_entered_iff (d := { d with
      capabilities := capabilities, driverId := driver, connectivityStatus := "offline" }) hs ?_ w actorId now
    exact hd.new

theorem isolated_enroll_iff (hs : Owned s) (d : FleetDevice) (actorId : String) (now : Int) :
    Isolated d.tenantId s (s.enroll c.env d actorId now).1 ↔ ¬ TakesOver s (.enroll d actorId now) := by
  rcases @enroll_cases _ c.env s d actorId now with ⟨hno, heq⟩ | ⟨hd, heq⟩
  · rw [heq]
    exact iff_of_true (Isolated.refl _ s) fun h => hno h.1
  have hid := hd.placed.1
  have htenant := hd.placed.2.1
  rw [heq, isolated_registered_iff hs hd, TakesOver, and_iff_right hd]
  cases hv : s.world.edge.devices.lookup d.deviceId with
  | none =>
    have hmissing : Missing s.world d := fun v hv' => by simp [hv] at hv'
    dsimp only
    by_cases htype : knownDeviceType d.deviceType = true
    · obtain ⟨⟨v, hw, -⟩, d₁, hreg, hcap⟩ := registerEdge_taken (c := c) hid htenant hmissing htype
      have hkeeps : Keeps (fun v => v.tenantId ≠ d.tenantId) s.world.edge.devices
          (s.world.edge.devices.insert d.deviceId v) := keeps_insert.mpr fun x hx => by simp [hv] at hx
      rw [hw, and_iff_left hkeeps, Ne, enrolled_eq_none hreg, forall_prop_of_true hcap, and_iff_right htype]
    · rw [Bool.not_eq_true] at htype
      have hreg := registerEdge_refused (c := c) htenant hmissing htype
      simp [hreg, enrolled, htype]
  | some v =>
    dsimp only
    split_ifs with hown
    · have hreg := registerEdge_own (c := c) htenant hv hown
      rw [hreg, and_iff_left (keeps_refl _ _), Ne, enrolled_eq_none (congrArg Prod.snd hreg), not_and]
      by_cases hcap : d.capabilities = []
      · simp [hcap]
      · simp [hcap]
    · have hmissing : Missing s.world d := by
        intro v' hv'
        rw [hv] at hv'
        rwa [← Option.some.inj hv']
      by_cases htype : knownDeviceType d.deviceType = true
      · obtain ⟨⟨v', hw, hv'⟩, -⟩ := registerEdge_taken (c := c) hid htenant hmissing htype
        refine iff_of_false (fun h => ?_) fun h => h htype
        rw [hw, keeps_insert_of_not (by simp [hv'])] at h
        exact h.2 ⟨v, hv, hown⟩
      · rw [Bool.not_eq_true] at htype
        have hreg := registerEdge_refused (c := c) htenant hmissing htype
        simp [hreg, enrolled, htype]

/-! ### All requests -/

theorem not_takesOver {op : Op (Site τ)} (hop : ∀ d actorId now, op ≠ .enroll d actorId now) : ¬ TakesOver s op := by
  cases op with
  | enroll d actorId now => exact absurd rfl (hop d actorId now)
  | _ => exact id

/-- In every state reached, a request of a tenant leaves the records of the other tenants as they are, exactly if it
is not an enrolment under an id that one of them has. -/
theorem isolated_iff_keeps_off (c : Wiring τ) (w : Site τ) (ops : List (Op (Site τ))) (op : Op (Site τ)) (tenant : String)
    (h : op.tenant = some tenant) :
    Isolated tenant (run c.env w ops) (apply c.env (run c.env w ops) op) ↔ ¬ TakesOver (run c.env w ops) op := by
  have hs := owned_run c.env w ops
  have hwrites : Writes c.env (run c.env w ops) op (apply c.env (run c.env w ops) op) := writes_apply hs op
  generalize apply c.env (run c.env w ops) op = s' at hwrites ⊢
  cases hwrites with
  | edits key stamp hedits hop =>
    have hmine : Edits c.env (· = tenant) key stamp (run c.env w ops) s' := hedits.mono fun t ht => ht tenant h
    exact iff_of_true (hmine.isolated hs) (not_takesOver hop)
  | enrolled d actorId now =>
    obtain rfl := Option.some.inj h
    exact isolated_enroll_iff hs d actorId now
  | outside w' => cases h

/-! ### Two tenants -/

/-- The registry with the edge platform and the sample trust service. -/
def sampleWiring : Wiring Veil.VeilTrustService := { digest := sampleEnv.digest, trust := sampleEnv.trust }

def neighbour (location fleet : String) : FleetDevice :=
  { deviceId := "dev-2", tenantId := "org-2", branchId := "branch-2", locationId := location, fleetId := fleet
    lifecycleState := "active" }

theorem isolated_own_quarantine :
    Isolated "org-2"
      (run sampleWiring.env { trust := {} }
        [.enroll sampleDevice "operator" 100, .enroll (neighbour "loc-2" "fleet-2") "operator" 110])
      (apply sampleWiring.env (run sampleWiring.env { trust := {} }
        [.enroll sampleDevice "operator" 100, .enroll (neighbour "loc-2" "fleet-2") "operator" 110])
        (.quarantine "org-2" "dev-2" "" 120)) :=
  (isolated_iff_keeps_off sampleWiring { trust := {} } _ (.quarantine "org-2" "dev-2" "" 120) "org-2" rfl).mpr id

/-- A tenant that enrols a device of its own in a location of another tenant becomes the location's owner. -/
theorem location_taken_over :
    ¬ Isolated "org-2" (run sampleWiring.env { trust := {} } [.enroll sampleDevice "operator" 100])
      (apply sampleWiring.env (run sampleWiring.env { trust := {} } [.enroll sampleDevice "operator" 100])
        (.enroll (neighbour "loc-1" "fleet-2") "operator" 110)) := by
  intro h
  have hbefore : ((run sampleWiring.env { trust := {} } [.enroll sampleDevice "operator" 100]).locations.lookup
      "loc-1").map Location.tenantId = some "org-1" := by decide +kernel
  have hafter : ((apply sampleWiring.env (run sampleWiring.env { trust := {} } [.enroll sampleDevice "operator" 100])
      (.enroll (neighbour "loc-1" "fleet-2") "operator" 110)).locations.lookup "loc-1").map Location.tenantId =
      some "org-2" := by decide +kernel
  obtain ⟨v, hv, htenant⟩ := Option.map_eq_some_iff.mp hbefore
  have hother : v.tenantId ≠ "org-2" := by
    rw [htenant]
    decide
  rw [h.locations "loc-1" v hv hother, Option.map_some, htenant] at hafter
  exact absurd hafter (by decide)

end Drawer.FleetOps
