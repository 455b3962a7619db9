import Drawer.Lib.Outcome
import Drawer.Spec.Signed

/-! What the agent's checks have established of a manifest that passes them. -/

namespace Drawer.Ota
open Text Outcome

theorem rfind_eq_none_iff {c : UInt8} {s : Bytes} : rfind c s = none ↔ c ∉ s := by
  induction s with
  | nil => simp [rfind]
  | cons b s ih =>
    rw [rfind, Option.or_eq_none_iff, ih, List.mem_cons, not_or, and_comm]
    simp [eq_comm]

theorem rfind_split {c : UInt8} {s b : Bytes} (h : rfind c s = some b) :
    ∃ r t, s = r ++ b ∧ b = c :: t ∧ c ∉ t := by
  induction s with
  | nil => cases h
  | cons d s ih =>
    cases hs : rfind c s with
    | some b' =>
      simp only [rfind, hs, Option.some_or] at h
      obtain rfl := Option.some.inj h
      obtain ⟨r, t, hr, ht⟩ := ih hs
      exact ⟨d :: r, t, by rw [List.cons_append, ← hr], ht⟩
    | none =>
      simp only [rfind, hs, Option.none_or] at h
      split_ifs at h with hd
      obtain rfl := Option.some.inj h
      exact ⟨[], s, rfl, by rw [hd], rfind_eq_none_iff.mp hs⟩

theorem rfind_append {c : UInt8} {t : Bytes} (h : c ∉ t) (r : Bytes) : rfind c (r ++ c :: t) = some (c :: t) := by
  induction r with
  | nil => simp [rfind, rfind_eq_none_iff.mpr h]
  | cons d r ih => simp [rfind, ih]

theorem rejectIf_eq_ok {c : Bool} {reason : String} {u : Unit} (h : rejectIf c reason = .ok u) : c = false := by
  cases c with
  | false => rfl
  | true => cases h

/-- The signature was verified if one is required. -/
theorem checkSignature_eq_ok {cfg : OtaConfig} {w : World} {m : Bytes} {u : Unit} (h : checkSignature cfg w m = .ok u) :
    cfg.requireSigned = true →
      w.verifyPem (w.readFile cfg.keyPub) (verifyPayload m) (signature m) = true := by
  intro hreq
  obtain ⟨_, hkey, hsig⟩ := bind_eq_ok h
  have h1 := rejectIf_eq_ok hkey
  have h2 := rejectIf_eq_ok hsig
  simp only [hreq, Bool.true_and, decide_eq_false_iff_not] at h1
  simpa [hreq, h1, signature] using h2

/-- All that holds of a manifest that passes the checks as `version` with the artifact `data`. -/
structure Vetted (cfg : OtaConfig) (w : World) (st : State) (m version data : Bytes) : Prop where
  channel : supportedChannel (fields m).channel = true ∧ (fields m).channel = cfg.channel
  version : version = (fields m).version ∧ less st.currentVersion version = true
  revoked : (fields m).revoked cfg.deviceId = false
  rollout : ∃ n, (fields m).rolloutPercent = .ok n ∧ allow (hashDevice w.stdHash cfg.deviceId) n = true
  signed : cfg.requireSigned = true → w.verifyPem (w.readFile cfg.keyPub) (verifyPayload m) (signature m) = true
  artifact : 7 ≤ (fields m).artifactUrl.length ∧ data = w.readFile ((fields m).artifactUrl.drop 7)
  sha : (fields m).sha256 ≠ [] ∧ w.hexSha256 data = (fields m).sha256

theorem vetted_of_vet {cfg : OtaConfig} {w : World} {st : State} {m version data : Bytes}
    (h : vet cfg w st m = .ok (version, data)) : Vetted cfg w st m version data := by
  obtain ⟨_, hsup, h⟩ := bind_eq_ok h
  obtain ⟨_, hchan, h⟩ := bind_eq_ok h
  obtain ⟨_, hver, h⟩ := bind_eq_ok h
  obtain ⟨_, hrev, h⟩ := bind_eq_ok h
  obtain ⟨n, hroll, h⟩ := bind_eq_ok h
  obtain ⟨_, hallow, h⟩ := bind_eq_ok h
  obtain ⟨_, hsha, h⟩ := bind_eq_ok h
  obtain ⟨_, hsig, h⟩ := bind_eq_ok h
  dsimp only at h
  split_ifs at h with hlen
  · cases h
  · obtain ⟨_, hdata, h⟩ := bind_eq_ok h
    obtain ⟨rfl, rfl⟩ := Prod.mk.inj (Except.ok.inj h)
    refine ⟨⟨?_, ?_⟩, ⟨rfl, ?_⟩, rejectIf_eq_ok hrev, ⟨n, ?_, ?_⟩, checkSignature_eq_ok hsig, ⟨?_, rfl⟩, ⟨?_, ?_⟩⟩
    · simpa [fields] using rejectIf_eq_ok hsup
    · simpa [fields] using rejectIf_eq_ok hchan
    · simpa using rejectIf_eq_ok hver
    · cases hstage : extractStage m "rollout_percent" with
      | error e => simp [hstage, Except.mapError] at hroll
      | ok k => simpa [hstage, Except.mapError, fields] using hroll
    · simpa using rejectIf_eq_ok hallow
    · exact Nat.le_of_not_lt hlen
    · simpa [fields] using rejectIf_eq_ok hsha
    · simpa [fields] using rejectIf_eq_ok hdata

/-- A bundle goes to the backend only if the fetched manifest passed the checks. -/
theorem vet_of_installed {cfg : OtaConfig} {w : World} {st : State} {m : Bytes} (hm : w.fetch cfg.feedUrl = .ok m)
    (h : (runOnce cfg w st).installed ≠ none) : ∃ version data, vet cfg w st m = .ok (version, data) := by
  unfold runOnce at h
  split_ifs at h with hen
  · exact absurd rfl h
  · simp only [hm] at h
    cases hv : vet cfg w st m with
    | error e => cases e <;> simp [hv] at h
    | ok r => exact ⟨r.1, r.2, rfl⟩

end Drawer.Ota
