import Drawer.Proofs.Reinstall
import Drawer.Spec.Healthd

/-! The state file along runs of both programs. A version comes from the manifest as
it is. One with the end of a line in it is cut when it is saved, and one with a comma
falls apart in the list of failed versions. -/

namespace Drawer.Ota
open Text Transition

namespace Appliance

variable {cfg : OtaConfig} {a : Appliance}

/-- The agent installs no version with the end of a line in it, and no version with a comma fails its boot check. -/
def Separable (cfg : OtaConfig) (a : Appliance) : Call → Prop
  | .agent w => ∀ m, w.fetch cfg.feedUrl = .ok m → Cleared cfg w (loadState a.file) m →
      w.installBundle (w.readFile ((fields m).artifactUrl.drop 7)) = .ok () → 10 ∉ (fields m).version
  | .healthd get baseUrl => (loadState a.file).bootPending = true →
      ∀ host port, healthTarget baseUrl = .ok (host, port) → healthy (get host port) = false →
        44 ∉ (loadState a.file).pendingVersion

theorem installed_of_saved {w : World} {st : State} {reason : Bytes} (h : (runOnce cfg w st).result = .ok ⟨true, reason⟩) :
    (runOnce cfg w st).installed ≠ none := by
  unfold runOnce at h ⊢
  split_ifs at h ⊢ with hen
  · simp at h
  · split at h
    · simp at h
    · split at h
      · simp at h
      · simp at h
      · split at h
        · simp at h
        · simp

theorem saves_agent (w : World) (st : State) : a.saves cfg (.agent w) = some st ↔
    ∃ m, w.fetch cfg.feedUrl = .ok m ∧ Cleared cfg w (loadState a.file) m ∧
      w.installBundle (w.readFile ((fields m).artifactUrl.drop 7)) = .ok () ∧
      { loadState a.file with pendingVersion := (fields m).version, bootPending := true } = st := by
  constructor
  · intro h
    simp only [saves] at h
    split at h
    · rename_i reason hres
      obtain ⟨m, hm, hst⟩ := runOnce_saved hres
      have hclear := (installed_iff hm).mp (installed_of_saved hres)
      refine ⟨m, hm, hclear, ?_, hst.symm.trans (Option.some.inj h)⟩
      simp only [runOnce, hclear.enabled, hm, vet_of_cleared hclear, Bool.not_true, Bool.false_eq_true, if_false] at hres
      cases hinst : w.installBundle (w.readFile ((fields m).artifactUrl.drop 7)) with
      | error reason => simp [hinst] at hres
      | ok u => rfl
    · cases h
  · rintro ⟨m, hm, hclear, hinst, rfl⟩
    simp only [saves, runOnce, hclear.enabled, hm, vet_of_cleared hclear, hinst]
    rfl

theorem saves_healthd (get : Bytes → Int → Option Health) (baseUrl : Bytes) (st : State) :
    a.saves cfg (.healthd get baseUrl) = some st ↔ (loadState a.file).bootPending = true ∧
      ∃ host port, healthTarget baseUrl = .ok (host, port) ∧
        { loadState a.file with
          currentVersion := if healthy (get host port) = true then (loadState a.file).pendingVersion
            else (loadState a.file).currentVersion
          lastBad := if healthy (get host port) = false ∧ (loadState a.file).pendingVersion ≠ []
            then (loadState a.file).lastBad ++ [(loadState a.file).pendingVersion] else (loadState a.file).lastBad
          pendingVersion := [], bootPending := false } = st := by
  have hcopy : Healthd.loadState a.file = loadState a.file := rfl
  simp only [saves, hcopy, Healthd.runOnce]
  cases hpend : (loadState a.file).bootPending with
  | false => simp
  | true =>
    simp only [Bool.not_true, Bool.false_eq_true, if_false, true_and]
    cases htarget : healthTarget baseUrl with
    | error e => simp
    | ok target =>
      obtain ⟨host, port⟩ := target
      cases hhealthy : healthy (get host port) <;> simp [hhealthy]

/-- A call saves only clean states if and only if it is separable. -/
theorem clean_saves_iff (call : Call) : (∀ st, a.saves cfg call = some st → st.Clean) ↔ Separable cfg a call := by
  have hload := clean_loadState a.file
  cases call with
  | agent w =>
    simp only [saves_agent, Separable]
    constructor
    · intro h m hm hclear hinst
      exact (h _ ⟨m, hm, hclear, hinst, rfl⟩).pending
    · rintro h st ⟨m, hm, hclear, hinst, rfl⟩
      exact ⟨hload.current, h m hm hclear hinst, hload.bad⟩
  | healthd get baseUrl =>
    simp only [saves_healthd, Separable]
    constructor
    · intro h hpend host port htarget hfail
      by_cases hnil : (loadState a.file).pendingVersion = []
      · rw [hnil]
        exact List.not_mem_nil
      · have hbad := (h _ ⟨hpend, host, port, htarget, rfl⟩).bad (loadState a.file).pendingVersion
        simp only [hfail, hnil, ne_eq, not_false_eq_true, and_self, if_true, List.mem_append, List.mem_singleton, or_true,
          forall_const] at hbad
        exact hbad.1.2
    · rintro h st ⟨hpend, host, port, htarget, rfl⟩
      refine ⟨?_, List.not_mem_nil, ?_⟩
      · dsimp only
        split_ifs
        · exact hload.pending
        · exact hload.current
      · dsimp only
        split_ifs with hfail
        · intro v hv
          rcases List.mem_append.mp hv with hv | hv
          · exact hload.bad v hv
          · obtain rfl := List.mem_singleton.mp hv
            exact ⟨⟨hload.pending, h hpend host port htarget hfail.1⟩, hfail.2⟩
        · exact hload.bad

/-- Along every run from any file, every state is read back as it was saved if and only if each call is separable. -/
theorem faithful_iff (cfg : OtaConfig) (a : Appliance) (calls : List Call) :
    Faithful cfg a calls ↔ Meets (Separable cfg) (step cfg) a calls := by
  rw [meets_iff]
  constructor
  · intro h before call after hcalls
    refine (clean_saves_iff call).mp fun st hst => ?_
    exact (loadState_saveState_iff st).mp (h.saved before call after hcalls st hst)
  · intro h
    refine ⟨fun _ => rfl, fun _ => rfl, fun before _ _ => loadState_saveState (clean_loadState _), ?_⟩
    intro before call after hcalls st hst
    exact loadState_saveState ((clean_saves_iff call).mpr (h before call after hcalls) st hst)

/-- A feed whose version goes on in the next line. -/
def twoLineFeed : World where
  fetch _ := .ok (ascii
    "\x7b\"channel\":\"stable\",\"version\":\"1.2.0\ncurrent_version=9\",\"artifact_url\":\"file:///a\",\"sha256\":\"00\"\x7d")
  readFile _ := ascii "bundle"
  hexSha256 _ := ascii "00"
  verifyPem _ _ _ := false
  stdHash _ := 0
  installBundle _ := .ok ()

/-- The second line of the version is read as the current version. -/
theorem version_split : ¬ ∀ cfg a calls, Faithful cfg a calls := by
  intro h
  have hsaves : Appliance.saves looseConfig {} (.agent twoLineFeed) =
      some { pendingVersion := ascii "1.2.0\ncurrent_version=9", bootPending := true } := by decide +kernel
  have hback := (h looseConfig {} [.agent twoLineFeed]).saved [] (.agent twoLineFeed) [] rfl _ hsaves
  revert hback
  decide +kernel

end Appliance
end Drawer.Ota
