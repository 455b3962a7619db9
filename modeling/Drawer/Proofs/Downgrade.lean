import Drawer.Sanity.Agent
import Drawer.Spec.ReleaseService

/-! Downgrades. Both the service and the agent compare versions as byte strings;
they keep to the numeric order exactly on those sets of versions where the two
orders agree. -/

namespace Drawer.Ota
open Text ReleaseService

theorem older_irrefl (v : Bytes) : older v v = false := Lexical.less_irrefl _

theorem older_asymm {v w : Bytes} (h : older v w = true) : older w v = false := Lexical.less_asymm h

/-! ### What the service holds -/

theorem mem_manifests {s : ReleaseService} {m : SignedReleaseManifest} :
    m ∈ s.manifests ↔ ∃ k, s.releases.lookup k = some m := by
  simp only [manifests, List.mem_map, List.mem_insertionSort]
  refine ⟨fun ⟨e, he, hm⟩ => ⟨e.1, ?_⟩, fun ⟨k, hk⟩ => ⟨⟨k, m⟩, ?_, rfl⟩⟩
  · subst hm
    exact AList.mem_lookup_iff.mpr he
  · exact AList.mem_lookup_iff.mp hk

/-- Every release has a version among `vs`, and it is not empty. -/
def Stocked (vs : Set Version) (s : ReleaseService) : Prop :=
  ∀ k m, s.releases.lookup k = some m → Among vs m.version ∧ m.version ≠ []

theorem Stocked.publish {vs : Set Version} {s : ReleaseService} (h : Stocked vs s) {m : SignedReleaseManifest}
    (hm : Among vs m.version) : Stocked vs (s.publish m).1 := by
  intro k m' hk
  unfold ReleaseService.publish at hk
  split_ifs at hk with hbad
  · exact h k m' hk
  · simp only [Dict.lookup_insert_if] at hk
    split_ifs at hk with heq
    · obtain rfl := Option.some.inj hk
      simp only [Bool.or_eq_true, decide_eq_true_eq, not_or] at hbad
      exact ⟨hm, hbad.1.2⟩
    · exact h k m' hk

theorem Stocked.promote {vs : Set Version} {s : ReleaseService} (h : Stocked vs s) (v f t : Bytes) :
    Stocked vs (s.promote v f t).1 := by
  unfold ReleaseService.promote
  split_ifs with hbad
  · exact h
  · cases hl : s.releases.lookup (f, v) with
    | none => exact h
    | some m => exact h.publish (m := { m with channel := t }) (h _ m hl).1

theorem Stocked.apply {vs : Set Version} {s : ReleaseService} (h : Stocked vs s) (stdHash : Bytes → ℕ) {op : Op}
    (hop : op.Within vs) : Stocked vs (s.apply stdHash op) := by
  cases op with
  | publish m => exact h.publish hop
  | promote v f t => exact h.promote v f t
  | eligible d ch cur => exact h

theorem stocked_foldl {vs : Set Version} (stdHash : Bytes → ℕ) {ops : List Op} (hops : ∀ op ∈ ops, op.Within vs) :
    Stocked vs (ops.foldl (ReleaseService.apply stdHash) {}) := by
  induction ops using List.reverseRecOn with
  | nil =>
    intro k m hk
    cases hk
  | append_singleton ops op ih =>
    rw [List.foldl_append]
    refine Stocked.apply (ih fun o ho => hops o (List.mem_append_left _ ho)) stdHash (hops op ?_)
    simp

/-! ### What the loop selects -/

/-- `r` is what the loop holds after the manifests `l`. -/
structure Top (channel : Bytes) (l : List SignedReleaseManifest) (r : SignedReleaseManifest) : Prop where
  source : r = {} ∨ (r ∈ l ∧ r.channel = channel)
  above : ∀ m ∈ l, m.channel = channel → m.version ≠ [] → r.version ≠ [] ∧ less r.version m.version = false

theorem Top.pick {channel : Bytes} {l : List SignedReleaseManifest} {r : SignedReleaseManifest} (h : Top channel l r)
    (m : SignedReleaseManifest) : Top channel (l ++ [m]) (pick channel r m) := by
  have hold : r = {} ∨ (r ∈ l ++ [m] ∧ r.channel = channel) :=
    h.source.imp_right fun hr => ⟨List.mem_append_left _ hr.1, hr.2⟩
  unfold ReleaseService.pick
  split_ifs with hc hbest
  · refine ⟨hold, fun m' hm' hch hne => ?_⟩
    rcases List.mem_append.mp hm' with hm' | hm'
    · exact h.above m' hm' hch hne
    · obtain rfl := List.mem_singleton.mp hm'
      exact absurd hch hc
  · have hmc : m.channel = channel := not_not.mp hc
    refine ⟨Or.inr ⟨by simp, hmc⟩, fun m' hm' hch hne => ?_⟩
    simp only [Bool.or_eq_true, decide_eq_true_eq] at hbest
    rcases List.mem_append.mp hm' with hm' | hm'
    · -- the manifest that was best so far was not below `m'`, and `m` is above it
      obtain ⟨hr, hno⟩ := h.above m' hm' hch hne
      have hlt : less r.version m.version = true := hbest.resolve_left hr
      refine ⟨fun hm => ?_, ?_⟩
      · rw [hm] at hlt
        simp [less, Lexical.less] at hlt
      · cases hmm : less m.version m'.version with
        | false => rfl
        | true => exact absurd (less_trans hlt hmm) (by simp [hno])
    · obtain rfl := List.mem_singleton.mp hm'
      exact ⟨hne, less_irrefl _⟩
  · simp only [Bool.or_eq_true, decide_eq_true_eq, not_or, Bool.not_eq_true] at hbest
    refine ⟨hold, fun m' hm' hch hne => ?_⟩
    rcases List.mem_append.mp hm' with hm' | hm'
    · exact h.above m' hm' hch hne
    · obtain rfl := List.mem_singleton.mp hm'
      exact hbest

theorem top_select (s : ReleaseService) (channel : Bytes) : Top channel s.manifests (s.select channel) := by
  unfold select
  induction s.manifests using List.reverseRecOn with
  | nil => exact ⟨Or.inl rfl, by simp⟩
  | append_singleton l m ih =>
    rw [List.foldl_append]
    exact ih.pick m

theorem eligible_manifest (stdHash : Bytes → ℕ) (s : ReleaseService) (device channel current : Bytes) :
    (s.eligible stdHash device channel current).manifest = s.select channel := by
  unfold eligible
  dsimp only
  split_ifs <;> rfl

theorem eligible_less {stdHash : Bytes → ℕ} {s : ReleaseService} {device channel current : Bytes}
    (h : (s.eligible stdHash device channel current).eligible = true) :
    less current (s.select channel).version = true := by
  unfold eligible at h
  dsimp only at h
  split_ifs at h with h1 h2 h3
  simpa using h3

def lone (version : Bytes) : SignedReleaseManifest := { channel := ascii "stable", version, sha256 := ascii "0" }

def loneService (w : Bytes) : ReleaseService := [Op.publish (lone w)].foldl (ReleaseService.apply fun _ => 0) {}

theorem select_lone {w : Bytes} (hw : w ≠ []) : (loneService w).select (ascii "stable") = lone w := by
  have hs : loneService w = { releases := AList.insert (ascii "stable", w) (lone w) ∅ } := by
    have hok : (!supportedChannel (lone w).channel || (lone w).version = [] || (lone w).sha256 = []) = false := by
      have hchannel : supportedChannel (ascii "stable") = true := by decide
      have hsha : ascii "0" ≠ [] := by decide
      simp [lone, hw, hchannel, hsha]
    simp only [loneService, List.foldl_cons, List.foldl_nil, ReleaseService.apply, ReleaseService.publish, hok,
      Bool.false_eq_true, if_false]
    rfl
  have hm : (loneService w).manifests = [lone w] := by
    rw [hs]
    rfl
  simp [select, hm, pick, lone]

/-- A device that runs a smaller text is offered the only release. -/
theorem eligible_lone {v w : Bytes} (h : less v w = true) :
    ((loneService w).eligible (fun _ => 0) [] (ascii "stable") v).eligible = true := by
  have hw := ne_nil_of_less h
  unfold eligible
  simp only [select_lone hw]
  simp [lone, hw, h, hashDevice, allow]

/-- Where versions never go back, a smaller text is an older version. -/
theorem NoDowngrade.older {vs : Set Version} (h : NoDowngrade vs) {v w : Version} (hv : v ∈ vs) (hw : w ∈ vs)
    (hlt : less v.1 w.1 = true) : older v.1 w.1 = true := by
  have hops : ∀ op ∈ [Op.publish (lone w.1)], op.Within vs := by
    intro op hop
    obtain rfl := List.mem_singleton.mp hop
    exact ⟨w, hw, rfl⟩
  have hnew := (h.service (fun _ => 0) _ [] (ascii "stable") v.1 hops ⟨v, hv, rfl⟩).newer (eligible_lone hlt)
  rw [eligible_manifest] at hnew
  have hsel := select_lone (ne_nil_of_less hlt)
  exact (congrArg (fun m : SignedReleaseManifest => Ota.older v.1 m.version) hsel).symm.trans hnew

/-- Versions never go back exactly on those sets on which the order of the texts agrees with the numbers. -/
theorem noDowngrade_iff (vs : Set Version) :
    NoDowngrade vs ↔ ∀ v ∈ vs, ∀ w ∈ vs, less v.1 w.1 = true → older v.1 w.1 = true := by
  refine ⟨fun h v hv w hw hlt => h.older hv hw hlt, fun h => ?_⟩
  have hagree : ∀ {a b : Bytes}, Among vs a → Among vs b → less a b = true → older a b = true := by
    intro a b ha hb
    obtain ⟨v, hv, rfl⟩ := ha
    obtain ⟨w, hw, rfl⟩ := hb
    exact h v hv w hw
  refine ⟨fun stdHash ops device channel current hops hcur => ?_, fun cfg w st m hm hcur hver hinst => ?_⟩
  · intro s
    have hstock : Stocked vs s := stocked_foldl stdHash hops
    have hsome : ∀ m ∈ s.manifests, Among vs m.version ∧ m.version ≠ [] := by
      intro m hm
      obtain ⟨k, hk⟩ := mem_manifests.mp hm
      exact hstock k m hk
    have htop := top_select s channel
    -- a selected version that is not empty belongs to a release
    have hmem : (s.select channel).version ≠ [] → s.select channel ∈ s.manifests ∧ (s.select channel).channel = channel := by
      intro hne
      rcases htop.source with h0 | hmem
      · rw [h0] at hne
        exact absurd rfl hne
      · exact hmem
    refine ⟨fun hel => ?_, fun m hm hch => ?_⟩
    · rw [eligible_manifest]
      have hlt := eligible_less hel
      exact hagree hcur (hsome _ (hmem (ne_nil_of_less hlt)).1).1 hlt
    · rw [eligible_manifest]
      obtain ⟨hne, hno⟩ := htop.above m hm hch (hsome m hm).2
      obtain ⟨hin, hchan⟩ := hmem hne
      refine ⟨hin, hchan, ?_⟩
      rcases less_or_eq_of_not_less hno with hlt | heq
      · exact older_asymm (hagree (hsome m hm).1 (hsome _ hin).1 hlt)
      · rw [heq]
        exact older_irrefl _
  · obtain ⟨version, data, hvet⟩ := vet_of_installed hm hinst
    obtain ⟨rfl, hlt⟩ := (vetted_of_vet hvet).version
    exact hagree hcur hver hlt

/-- Version 9.0.0 is offered to a device that runs 10.0.0. -/
theorem nine_offered_to_ten : ¬ ∀ vs, NoDowngrade vs := by
  intro hclaim
  have hbad := (hclaim Set.univ).older (v := ⟨ascii "10.0.0", by decide⟩) (w := ⟨ascii "9.0.0", by decide⟩) trivial trivial
    (by decide)
  exact absurd hbad (by decide)

end Drawer.Ota
