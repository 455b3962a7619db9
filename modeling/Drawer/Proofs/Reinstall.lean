import Drawer.Sanity.Agent
import Drawer.Sanity.Healthd

/-! Versions that failed their boot check. The check adds the version to
`last_bad`, and the agent reads the list with its state, but no gate of the agent
looks at it: a failed version is kept out just by the other gates. -/

namespace Drawer.Ota
open Text Outcome Transition

/-- The manifest passes every gate of the agent. -/
structure Cleared (cfg : OtaConfig) (w : World) (st : State) (m : Bytes) : Prop where
  enabled : cfg.enable = true
  key : cfg.requireSigned = true → cfg.keyPub ≠ []
  vetted : Vetted cfg w st m (fields m).version (w.readFile ((fields m).artifactUrl.drop 7))

theorem checkSignature_of_signed {cfg : OtaConfig} {w : World} {m : Bytes} (hkey : cfg.requireSigned = true → cfg.keyPub ≠ [])
    (h : cfg.requireSigned = true → w.verifyPem (w.readFile cfg.keyPub) (verifyPayload m) (signature m) = true) :
    checkSignature cfg w m = .ok () := by
  unfold checkSignature
  by_cases hreq : cfg.requireSigned = true
  · have hsig : w.verifyPem (w.readFile cfg.keyPub) (verifyPayload m) (extractString m "sig_ed25519") = true := h hreq
    simp [rejectIf, hreq, hkey hreq, hsig, bind, Except.bind]
  · simp [rejectIf, hreq, bind, Except.bind]

theorem vet_of_cleared {cfg : OtaConfig} {w : World} {st : State} {m : Bytes} (h : Cleared cfg w st m) :
    vet cfg w st m = .ok ((fields m).version, w.readFile ((fields m).artifactUrl.drop 7)) := by
  obtain ⟨-, hkey, ⟨hsup, hchan⟩, ⟨-, hver⟩, hrev, ⟨n, hn, hallow⟩, hsigned, ⟨hlen, -⟩, hsha, hdata⟩ := h
  have hsig := checkSignature_of_signed hkey hsigned
  simp only [fields] at hsup hchan hver hrev hn hlen hsha hdata ⊢
  have hsup' : supportedChannel cfg.channel = true := hchan ▸ hsup
  have hlen' : ¬ (extractString m "artifact_url").length < 7 := not_lt.mpr hlen
  simp [vet, rejectIf, hsup', hchan, hver, hrev, hn, hallow, hsha, hdata, hsig, hlen', bind, Except.bind, Except.mapError,
    pure, Except.pure]

theorem checkSignature_of_vet {cfg : OtaConfig} {w : World} {st : State} {m : Bytes} {r : Bytes × Bytes}
    (h : vet cfg w st m = .ok r) : checkSignature cfg w m = .ok () := by
  obtain ⟨_, -, h⟩ := bind_eq_ok h
  obtain ⟨_, -, h⟩ := bind_eq_ok h
  obtain ⟨_, -, h⟩ := bind_eq_ok h
  obtain ⟨_, -, h⟩ := bind_eq_ok h
  obtain ⟨_, -, h⟩ := bind_eq_ok h
  obtain ⟨_, -, h⟩ := bind_eq_ok h
  obtain ⟨_, -, h⟩ := bind_eq_ok h
  obtain ⟨_, hsig, -⟩ := bind_eq_ok h
  exact hsig

theorem key_of_checkSignature {cfg : OtaConfig} {w : World} {m : Bytes} (h : checkSignature cfg w m = .ok ()) :
    cfg.requireSigned = true → cfg.keyPub ≠ [] := by
  intro hreq
  obtain ⟨_, hkey, -⟩ := bind_eq_ok h
  simpa [hreq] using rejectIf_eq_ok hkey

theorem cleared_of_vet {cfg : OtaConfig} {w : World} {st : State} {m : Bytes} {r : Bytes × Bytes} (hen : cfg.enable = true)
    (h : vet cfg w st m = .ok r) : Cleared cfg w st m := by
  obtain ⟨version, data⟩ := r
  have hvetted := vetted_of_vet h
  obtain rfl := hvetted.version.1
  obtain rfl := hvetted.artifact.2
  exact ⟨hen, key_of_checkSignature (checkSignature_of_vet h), hvetted⟩

/-- The backend is called just for manifests that pass every gate. -/
theorem installed_iff {cfg : OtaConfig} {w : World} {st : State} {m : Bytes} (hm : w.fetch cfg.feedUrl = .ok m) :
    (runOnce cfg w st).installed ≠ none ↔ Cleared cfg w st m := by
  constructor
  · intro h
    obtain ⟨version, data, hvet⟩ := vet_of_installed hm h
    refine cleared_of_vet ?_ hvet
    by_contra hoff
    rw [Bool.not_eq_true] at hoff
    simp [runOnce, hoff] at h
  · intro h
    unfold runOnce
    simp only [h.enabled, hm, vet_of_cleared h]
    cases w.installBundle (w.readFile ((fields m).artifactUrl.drop 7)) with
    | error reason => simp
    | ok u => simp

namespace Appliance

/-- A manifest for a version that failed its boot check is fetched just if one of the gates rejects it. -/
def Withheld (cfg : OtaConfig) (a : Appliance) : Call → Prop
  | .agent w => ∀ m, w.fetch cfg.feedUrl = .ok m → (fields m).version ∈ a.failed → ¬ Cleared cfg w (loadState a.file) m
  | .healthd _ _ => True

/-- No failed version is installed again exactly if some other gate rejects each manifest that names one. -/
theorem neverAgain_iff (cfg : OtaConfig) (a : Appliance) (calls : List Call) :
    NeverAgain cfg a calls ↔ Meets (Withheld cfg) (step cfg) a calls := by
  rw [meets_iff]
  constructor
  · intro h before call after hcalls
    cases call with
    | healthd get baseUrl => trivial
    | agent w =>
      intro m hm hfailed hclear
      exact h before w after hcalls _ hfailed ⟨(installed_iff hm).mpr hclear, m, hm, rfl⟩
  · rintro h before w after hcalls version hfailed ⟨hinst, m, hm, rfl⟩
    exact h before (.agent w) after hcalls m hm hfailed ((installed_iff hm).mp hinst)

/-! ### What the agent could know -/

/-- Every version that failed is in the list the next call loads. -/
structure Known (a : Appliance) : Prop where
  storable : (loadState a.file).Storable
  listed : ∀ v ∈ a.failed, v ∈ (loadState a.file).lastBad

theorem runOnce_saved {cfg : OtaConfig} {w : World} {st : State} {reason : Bytes}
    (h : (runOnce cfg w st).result = .ok ⟨true, reason⟩) :
    ∃ m, w.fetch cfg.feedUrl = .ok m ∧
      (runOnce cfg w st).state = { st with pendingVersion := (fields m).version, bootPending := true } := by
  unfold runOnce at h ⊢
  split_ifs at h ⊢ with hen
  · simp at h
  · split at h
    · simp at h
    · rename_i m hm
      refine ⟨m, hm, ?_⟩
      split at h
      · simp at h
      · simp at h
      · rename_i version data hvet
        obtain rfl := (vetted_of_vet hvet).version.1
        split at h
        · simp at h
        · rfl

theorem Known.agent {cfg : OtaConfig} {a : Appliance} (ha : a.Known) {w : World}
    (hplain : ∀ m, w.fetch cfg.feedUrl = .ok m → Plain (fields m).version) : (a.agent cfg w).Known := by
  simp only [Appliance.agent]
  split
  · rename_i reason hres
    obtain ⟨m, hm, hst⟩ := runOnce_saved hres
    have hstore : State.Storable { loadState a.file with pendingVersion := (fields m).version, bootPending := true } :=
      ⟨ha.storable.current, hplain m hm, ha.storable.bad⟩
    refine ⟨?_, ?_⟩
    · rw [hst, loadState_saveState hstore.clean]
      exact hstore
    · rw [hst, loadState_saveState hstore.clean]
      exact ha.listed
  · exact ha

/-- What a boot check saves: the pending version is the current one now, or it has failed. -/
theorem saved_cases {get : Bytes → Int → Option Health} {baseUrl : Bytes} {st st' : State}
    (h : (Healthd.runOnce get baseUrl st).saved = some st') :
    st' = { st with currentVersion := st.pendingVersion, pendingVersion := [], bootPending := false } ∨
      st' = { st with
        lastBad := if st.pendingVersion ≠ [] then st.lastBad ++ [st.pendingVersion] else st.lastBad
        pendingVersion := [], bootPending := false } := by
  unfold Healthd.runOnce at h
  cases hpend : st.bootPending with
  | false => simp [hpend] at h
  | true =>
    simp only [hpend, Bool.not_true, Bool.false_eq_true, if_false] at h
    cases htarget : healthTarget baseUrl with
    | error e => simp [htarget] at h
    | ok target =>
      simp only [htarget] at h
      by_cases hhealthy : healthy (get target.1 target.2) = true
      · rw [if_pos hhealthy] at h
        exact Or.inl (Option.some.inj h).symm
      · rw [if_neg hhealthy] at h
        exact Or.inr (Option.some.inj h).symm

theorem storable_of_saved {get : Bytes → Int → Option Health} {baseUrl : Bytes} {st st' : State} (hst : st.Storable)
    (h : (Healthd.runOnce get baseUrl st).saved = some st') : st'.Storable := by
  have hnil : Plain [] := ⟨List.not_mem_nil, List.not_mem_nil⟩
  rcases saved_cases h with rfl | rfl
  · exact ⟨hst.pending.1, hnil, hst.bad⟩
  · refine ⟨hst.current, hnil, fun v hv => ?_⟩
    dsimp only at hv
    split_ifs at hv with hne
    · rcases List.mem_append.mp hv with hv | hv
      · exact hst.bad v hv
      · obtain rfl := List.mem_singleton.mp hv
        exact ⟨hst.pending, hne⟩
    · exact hst.bad v hv

theorem lastBad_prefix {get : Bytes → Int → Option Health} {baseUrl : Bytes} {st st' : State}
    (h : (Healthd.runOnce get baseUrl st).saved = some st') : st.lastBad <+: st'.lastBad := by
  rcases saved_cases h with rfl | rfl
  · exact List.prefix_rfl
  · dsimp only
    split_ifs
    · exact List.prefix_append _ _
    · exact List.prefix_rfl

theorem Known.healthd {a : Appliance} (ha : a.Known) (get : Bytes → Int → Option Health) (baseUrl : Bytes) :
    (a.healthd get baseUrl).Known := by
  simp only [Appliance.healthd]
  split
  · exact ha
  · rename_i st' hsaved
    have hstore := storable_of_saved ha.storable hsaved
    obtain ⟨new, hnew⟩ := lastBad_prefix hsaved
    refine ⟨?_, fun v hv => ?_⟩
    · rw [loadState_saveState hstore.clean]
      exact hstore
    · rw [loadState_saveState hstore.clean]
      rw [← hnew, List.drop_left] at hv
      rw [← hnew]
      exact List.mem_append.mpr ((List.mem_append.mp hv).imp (ha.listed v) id)

/-- Along every run the agent loads each version that failed, as long as the feed names no version with a comma
or the end of a line in it. -/
theorem failed_loaded {cfg : OtaConfig} {a : Appliance} (ha : a.Known) {calls : List Call}
    (hplain : ∀ w, Call.agent w ∈ calls → ∀ m, w.fetch cfg.feedUrl = .ok m → Plain (fields m).version) :
    (calls.foldl (step cfg) a).Known := by
  induction calls generalizing a with
  | nil => exact ha
  | cons call calls ih =>
    refine ih ?_ fun w hw => hplain w (List.mem_cons_of_mem _ hw)
    cases call with
    | agent w => exact ha.agent (hplain w List.mem_cons_self)
    | healthd get baseUrl => exact ha.healthd get baseUrl

/-! ### A failing release in a loop -/

/-- A feed that publishes version 1.2.0, unsigned. -/
def failingFeed : World where
  fetch _ := .ok (ascii
    "\x7b\"channel\":\"stable\",\"version\":\"1.2.0\",\"artifact_url\":\"file:///a\",\"sha256\":\"00\"\x7d")
  readFile _ := ascii "bad"
  hexSha256 _ := ascii "00"
  verifyPem _ _ _ := false
  stdHash _ := 0
  installBundle _ := .ok ()

def looseConfig : OtaConfig := { enable := true, requireSigned := false }

/-- Version 1.2.0 is installed, fails its boot check and is installed again. -/
theorem failed_version_reinstalled : ¬ ∀ cfg a calls, NeverAgain cfg a calls := by
  intro hclaim
  refine hclaim looseConfig {} [.agent failingFeed, .healthd (fun _ _ => none) [], .agent failingFeed]
    [.agent failingFeed, .healthd (fun _ _ => none) []] failingFeed [] rfl (ascii "1.2.0") ?_ ⟨?_, _, rfl, ?_⟩
  · decide +kernel
  · decide +kernel
  · decide +kernel

end Appliance
end Drawer.Ota
