import Drawer.Lib.Json
import Drawer.Lib.Sha256
import Drawer.Sanity.Fleet

/-! The lifecycle of devices. The registry writes a device's state in four
places, and knows of its retirement twice: by the state text and by a mark. As
long as the two agree every change is one of the allowed ones; a patch that
writes the text alone makes them disagree. -/

namespace Drawer.FleetOps
open FleetOperationsService Transition

variable {ω : Type} {env : Env ω} {s : FleetOperationsService ω} {op : Op ω}

/-! ### The invariant -/

/-- What the registry knows of the device under `k`: it is kept under its own id, it is marked if its state says
retired, and a status other than offline is that of the heartbeat its last time is taken from. -/
structure SoundView (k : String) (d : FleetDevice) (hb : Option FleetHeartbeat) : Prop where
  keyed : d.deviceId = k
  marked : d.lifecycleState = "retired" → d.retired = true
  heard : d.connectivityStatus = "offline" ∨ ∃ b, hb = some b ∧ b.timestamp = d.lastHeartbeatEpoch

def SoundAt (k : String) (v : Option FleetDevice × Option FleetHeartbeat) : Prop :=
  ∀ d, v.1 = some d → SoundView k d v.2

def Sound (s : FleetOperationsService ω) : Prop := ∀ k, SoundAt k (view s k)

theorem Sound.keyed (h : Sound s) : Keyed s := fun k d hd => (h k d hd).keyed

theorem getStr_eq_ok {j : Json String} {v : String} (h : j.getStr = .ok v) : j = .str v := by
  cases j with
  | str x =>
    obtain rfl : x = v := by simpa [Json.getStr] using h
    rfl
  | _ => simp [Json.getStr] at h

/-- A patch that is let through and is not one that retires does not write the text. -/
theorem next_ne_retired {k tenantId next : String} {patch : Json String} {now : Int} {d : FleetDevice}
    (hg : retiresByPatch s op = false) (hop : op = .updateDevice tenantId k patch now)
    (hd : s.devices.lookup k = some d) (htenant : d.tenantId = tenantId) (hret : d.retired = false)
    (hstate : d.lifecycleState ≠ "retired")
    (hnext : patch.value "lifecycle_state" Json.getStr d.lifecycleState = .ok next)
    (hloc : locationMissing patch = .ok false) : next ≠ "retired" := by
  intro heq
  subst hop heq
  have hpatch : patchedState patch ≠ some "retired" := by
    simpa [retiresByPatch, hd, htenant, hret, hloc, Except.toOption] using hg
  apply hpatch
  cases patch with
  | obj members =>
    simp only [Json.value] at hnext
    unfold patchedState
    cases hm : (Json.obj members).member "lifecycle_state" with
    | none =>
      rw [hm] at hnext
      exact absurd (Except.ok.inj hnext) hstate
    | some v =>
      rw [hm] at hnext
      obtain rfl := getStr_eq_ok hnext
      rfl
  | _ => simp [Json.value] at hnext

theorem Turn.sound {k : String} {v v' : Option FleetDevice × Option FleetHeartbeat} (h : Turn op k v v')
    (hs : SoundAt k v) (hv : view s k = v) (hg : retiresByPatch s op = false) : SoundAt k v' := by
  cases h with
  | same => exact hs
  | enrolled hb d hid hstate hoff =>
    intro _ hd
    obtain rfl := Option.some.inj hd
    refine ⟨hid, fun hr => ?_, Or.inl hoff⟩
    rcases hstate with hstate | hstate
    · exact absurd (hstate.symm.trans hr) (by decide)
    · exact absurd (hstate.symm.trans hr) (by decide)
  | patched hb d tenantId patch now hop htenant hret next _ _ _ _ _ hnext hvalid hloc =>
    intro _ hd
    obtain rfl := Option.some.inj hd
    have hsd := hs d rfl
    have hstate : d.lifecycleState ≠ "retired" := fun hr => by simp [hsd.marked hr] at hret
    have hne := next_ne_retired hg hop (Prod.mk.inj hv).1 htenant hret hstate hnext hloc
    exact ⟨hsd.keyed, fun hr => absurd hr hne, hsd.heard⟩
  | retired hb d =>
    intro _ hd
    obtain rfl := Option.some.inj hd
    exact ⟨(hs d rfl).keyed, fun _ => rfl, Or.inl rfl⟩
  | quarantined hb d reason hret =>
    intro _ hd
    obtain rfl := Option.some.inj hd
    exact ⟨(hs d rfl).keyed, fun hr => absurd hr (by decide : ("quarantined" : String) ≠ "retired"), (hs d rfl).heard⟩
  | heard hb d new firmware driver =>
    intro _ hd
    obtain rfl := Option.some.inj hd
    exact ⟨(hs d rfl).keyed, (hs d rfl).marked, Or.inr ⟨new, rfl, rfl⟩⟩
  | recovered hb d tenantId now hop hstate =>
    intro _ hd
    obtain rfl := Option.some.inj hd
    exact ⟨(hs d rfl).keyed, fun hr => absurd hr (by decide : ("active" : String) ≠ "retired"), (hs d rfl).heard⟩

theorem sound_apply (hs : Sound s) (hg : retiresByPatch s op = false) : Sound (apply env s op) :=
  fun k => (turns_apply hs.keyed op k).sound (hs k) rfl hg

theorem sound_run {w : ω} {ops : List (Op ω)} (h : RetiredProperly env w ops) : Sound (run env w ops) := by
  refine h.run.invariant (I := Sound) ?_ ?_
  · intro k d hd
    cases hd
  · intro s op s' hs hstep
    obtain ⟨hg, rfl⟩ := hstep
    exact sound_apply hs hg

/-! ### The law -/

theorem validTransition_cases { source target : String} (h : validTransition source target false = true)
    (hne : source ≠ target) :
    source ≠ "retired" ∧ (target = "retired" ∨ target = "quarantined" ∨ (source = "provisioned" ∧ target = "active") ∨
      (source = "active" ∧ target = "maintenance") ∨ (source = "maintenance" ∧ target = "active")) := by
  simp only [validTransition, if_neg hne] at h
  grind

theorem Turn.allowed {k : String} {v v' : Option FleetDevice × Option FleetHeartbeat} {d d' : FleetDevice}
    (h : Turn op k v v') (hs : SoundAt k v) (hd : v.1 = some d) (hd' : v'.1 = some d')
    (hne : d.lifecycleState ≠ d'.lifecycleState) : Allowed op k d.lifecycleState d'.lifecycleState := by
  have hsd := hs d hd
  unfold Allowed
  cases h with
  | same =>
    obtain rfl := Option.some.inj (hd.symm.trans hd')
    exact absurd rfl hne
  | enrolled => cases hd
  | patched hb _ tenantId patch now hop htenant hret next _ _ _ _ _ hnext hvalid hloc =>
    obtain rfl := Option.some.inj hd
    obtain rfl := Option.some.inj hd'
    have := validTransition_cases hvalid hne
    grind
  | retired =>
    obtain rfl := Option.some.inj hd
    obtain rfl := Option.some.inj hd'
    exact Or.inr (Or.inr (Or.inr (Or.inr (Or.inl ⟨hne, rfl⟩))))
  | quarantined hb e reason hret =>
    obtain rfl := Option.some.inj hd
    obtain rfl := Option.some.inj hd'
    have hstate : e.lifecycleState ≠ "retired" := fun hr => by simp [hsd.marked hr] at hret
    exact Or.inr (Or.inr (Or.inr (Or.inl ⟨hstate, rfl⟩)))
  | heard =>
    obtain rfl := Option.some.inj hd
    obtain rfl := Option.some.inj hd'
    exact absurd rfl hne
  | recovered hb _ tenantId now hop hstate =>
    obtain rfl := Option.some.inj hd
    obtain rfl := Option.some.inj hd'
    exact Or.inr (Or.inr (Or.inr (Or.inr (Or.inr ⟨hstate, rfl, tenantId, now, hop⟩))))

theorem stateOf_eq_some {k a : String} : stateOf s k = some a ↔ ∃ d, s.devices.lookup k = some d ∧ d.lifecycleState = a := by
  simp [stateOf]

theorem allowed_apply (hs : Sound s) {k source target : String} (h : stateOf s k = some source)
    (h' : stateOf (apply env s op) k = some target) (hne : source ≠ target) : Allowed op k source target := by
  obtain ⟨d, hd, rfl⟩ := stateOf_eq_some.mp h
  obtain ⟨d', hd', rfl⟩ := stateOf_eq_some.mp h'
  exact (turns_apply hs.keyed op k).allowed (hs k) hd hd' hne

theorem Turn.present {k : String} {v v' : Option FleetDevice × Option FleetHeartbeat} (h : Turn op k v v')
    (hd : v.1 ≠ none) : v'.1 ≠ none := by
  cases h with
  | same => exact hd
  | enrolled => exact absurd rfl hd
  | _ => simp

theorem retired_apply (hs : Sound s) {k : String} (h : stateOf s k = some "retired") :
    stateOf (apply env s op) k = some "retired" := by
  have hpresent : (apply env s op).devices.lookup k ≠ none := by
    refine (turns_apply hs.keyed op k).present ?_
    obtain ⟨d, hd, -⟩ := stateOf_eq_some.mp h
    simp [view, hd]
  obtain ⟨d', hd'⟩ := Option.ne_none_iff_exists'.mp hpresent
  have h' : stateOf (apply env s op) k = some d'.lifecycleState := stateOf_eq_some.mpr ⟨d', hd', rfl⟩
  by_cases hne : "retired" = d'.lifecycleState
  · rw [h', ← hne]
  · have := allowed_apply hs h h' hne
    simp [Allowed] at this

/-- As long as no device is retired by a patch, every change of a lifecycle state is an allowed one, and a
retired device stays retired. -/
theorem lifecycle_lawful (env : Env ω) (w : ω) (ops : List (Op ω)) (h : RetiredProperly env w ops) :
    Lawful env w ops := by
  refine ⟨fun before op after hops k source target => ?_, fun before after hops k hret => ?_⟩
  · rw [RetiredProperly, hops, meets_append] at h
    exact allowed_apply (sound_run h.1)
  · rw [RetiredProperly, hops, meets_append] at h
    have hrun : run env w ops = after.foldl (apply env) (run env w before) := by
      rw [hops, run, List.foldl_append, run]
    rw [hrun]
    refine (h.2.run.invariant (I := fun s => Sound s ∧ stateOf s k = some "retired") ⟨sound_run h.1, hret⟩ ?_).2
    intro s op s' hs hstep
    obtain ⟨hg, rfl⟩ := hstep
    exact ⟨sound_apply hs.1 hg, retired_apply hs.1 hs.2⟩

/-! ### A registry with the VEIL trust service -/

/-- The registry with the trust service and its local client; no fractions are written below. -/
def sampleEnv : Env Veil.VeilTrustService :=
  { digest := ⟨sha256Hex, Json.dump fun _ => ""⟩
    trust := some (veilTrust ⟨sha256Hex, Json.dump fun _ => ""⟩ (localPolicy [])) }

def sampleDevice : FleetDevice :=
  { deviceId := "dev-1", tenantId := "org-1", branchId := "branch-1", locationId := "loc-1", fleetId := "fleet-1"
    lifecycleState := "active", capabilities := ["command_execution"] }

/-- A device is enrolled, quarantined, and retired by the request made for it. -/
def sampleLife : List (Op Veil.VeilTrustService) :=
  [.enroll sampleDevice "operator" 100, .quarantine "org-1" "dev-1" "" 110, .retireDevice "org-1" "dev-1" 120,
   .quarantine "org-1" "dev-1" "" 130]

theorem lifecycle_lawful_sample : RetiredProperly sampleEnv {} sampleLife ∧ Lawful sampleEnv {} sampleLife := by
  have h : RetiredProperly sampleEnv {} sampleLife := by decide +kernel
  exact ⟨h, lifecycle_lawful sampleEnv {} sampleLife h⟩

/-- A device that a patch retires is quarantined afterwards: the quarantine looks at the mark alone. -/
theorem retired_by_patch_quarantined :
    ¬ Lawful sampleEnv {} [.enroll sampleDevice "operator" 100,
      .updateDevice "org-1" "dev-1" (.obj [("lifecycle_state", .str "retired")]) 110,
      .quarantine "org-1" "dev-1" "" 120] := by
  intro h
  have hchange := h.changes [.enroll sampleDevice "operator" 100,
    .updateDevice "org-1" "dev-1" (.obj [("lifecycle_state", .str "retired")]) 110] (.quarantine "org-1" "dev-1" "" 120) []
    rfl "dev-1" "retired" "quarantined" (by decide +kernel) (by decide +kernel) (by decide)
  simp [Allowed] at hchange

end Drawer.FleetOps
