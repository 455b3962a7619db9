import Drawer.Proofs.Reinstall

/-! Manifests on which the agent throws. Two of its reads raise: the one of the
rollout's digits, and the cut of `file://` from the artifact's URL. On every other
text it answers, and an answer that is not ok has changed nothing. -/

namespace Drawer.Ota
open Text

/-! ### The reads that raise -/

theorem stoi_digits {ds : Bytes} (h : ∀ b ∈ ds, isDigit b = true) :
    stoi ds = if ds = [] then .error .invalidArgument
      else if 2147483647 < numeral ds then .error .outOfRange else .ok (numeral ds) := by
  by_cases hnil : ds = []
  · subst hnil
    rfl
  · have hplain : Text.Plain ds (numeral ds) := ⟨ds, hnil, h, Or.inl ⟨rfl, rfl⟩⟩
    have hout : ((numeral ds : Int) < -2147483648 ∨ 2147483647 < (numeral ds : Int)) ↔ 2147483647 < numeral ds := by omega
    simp only [stoi_plain hplain, if_neg hnil, hout]

/-- The digits right after the member's colon are a number of an `int`, if the member is there. -/
def Countable (json : Bytes) (key : String) : Prop :=
  ∀ a s a' s', find (quoted key) json = some (a, s) → find (ascii ":") s = some (a', s') →
    (s'.drop 1).takeWhile isDigit ≠ [] ∧ numeral ((s'.drop 1).takeWhile isDigit) ≤ 2147483647

theorem extractStage_ok_iff (json : Bytes) (key : String) : (∃ n, extractStage json key = .ok n) ↔ Countable json key := by
  unfold extractStage Countable
  cases hkey : find (quoted key) json with
  | none => simp
  | some p =>
    obtain ⟨a, s⟩ := p
    dsimp only
    cases hcolon : find (ascii ":") s with
    | none =>
      refine iff_of_true ⟨100, rfl⟩ fun _ _ _ _ heq heq' => ?_
      obtain ⟨rfl, rfl⟩ := Prod.mk.inj (Option.some.inj heq)
      rw [hcolon] at heq'
      cases heq'
    | some q =>
      obtain ⟨a', s'⟩ := q
      have hdigits : ∀ b ∈ (s'.drop 1).takeWhile isDigit, isDigit b = true := fun b hb => List.mem_takeWhile_imp hb
      dsimp only
      rw [stoi_digits hdigits]
      constructor
      · rintro ⟨n, hn⟩ _ _ _ _ heq heq'
        obtain ⟨rfl, rfl⟩ := Prod.mk.inj (Option.some.inj heq)
        obtain ⟨rfl, rfl⟩ := Prod.mk.inj (Option.some.inj (hcolon.symm.trans heq'))
        split_ifs at hn with hnil hbig
        exact ⟨hnil, not_lt.mp hbig⟩
      · intro h
        obtain ⟨hnil, hbig⟩ := h a s a' s' rfl hcolon
        rw [if_neg hnil, if_neg (not_lt.mpr hbig)]
        exact ⟨_, rfl⟩

/-! ### The checks -/

/-- The checks up to the rollout are passed. -/
structure Offered (cfg : OtaConfig) (st : State) (m : Bytes) : Prop where
  channel : supportedChannel (fields m).channel = true ∧ (fields m).channel = cfg.channel
  version : less st.currentVersion (fields m).version = true
  revoked : (fields m).revoked cfg.deviceId = false

/-- The checks from the rollout to the signature are passed. -/
structure Admitted (cfg : OtaConfig) (w : World) (m : Bytes) : Prop where
  rollout : ∃ n, (fields m).rolloutPercent = .ok n ∧ allow (hashDevice w.stdHash cfg.deviceId) n = true
  sha : (fields m).sha256 ≠ []
  signed : cfg.requireSigned = true → cfg.keyPub ≠ [] ∧ w.verifyPem (w.readFile cfg.keyPub) (verifyPayload m) (signature m) = true

/-- Nothing that is read of the manifest raises. -/
def Readable (cfg : OtaConfig) (w : World) (st : State) (m : Bytes) : Prop :=
  Offered cfg st m → Countable m "rollout_percent" ∧ (Admitted cfg w m → 7 ≤ (fields m).artifactUrl.length)

theorem rejectIf_bind_threw {α : Type} {c : Bool} {reason : String} {f : Unit → Except Halt α} {e : Exn} :
    (rejectIf c reason >>= f) = .error (.threw e) ↔ c = false ∧ f () = .error (.threw e) := by
  cases c <;> simp [rejectIf, bind, Except.bind]

theorem mapError_bind_threw {α β : Type} {r : Except Exn α} {f : α → Except Halt β} {e : Exn} :
    (r.mapError Halt.threw >>= f) = .error (.threw e) ↔ r = .error e ∨ ∃ a, r = .ok a ∧ f a = .error (.threw e) := by
  cases r <;> simp [Except.mapError, bind, Except.bind]

theorem checkSignature_iff (cfg : OtaConfig) (w : World) (m : Bytes) : checkSignature cfg w m = .ok () ↔
    (cfg.requireSigned = true → cfg.keyPub ≠ [] ∧ w.verifyPem (w.readFile cfg.keyPub) (verifyPayload m) (signature m) = true) :=
  ⟨fun h hreq => ⟨key_of_checkSignature h hreq, checkSignature_eq_ok h hreq⟩,
    fun h => checkSignature_of_signed (fun hreq => (h hreq).1) fun hreq => (h hreq).2⟩

theorem rejectIf_unthrown {c : Bool} {reason : String} {e : Exn} : rejectIf c reason ≠ .error (.threw e) := by
  cases c <;> simp [rejectIf]

theorem checkSignature_bind_threw {α : Type} {cfg : OtaConfig} {w : World} {m : Bytes} {f : Unit → Except Halt α} {e : Exn} :
    (checkSignature cfg w m >>= f) = .error (.threw e) ↔ checkSignature cfg w m = .ok () ∧ f () = .error (.threw e) := by
  have hunthrown : checkSignature cfg w m ≠ .error (.threw e) := fun h => rejectIf_unthrown (rejectIf_bind_threw.mp h).2
  cases hsig : checkSignature cfg w m with
  | ok u => simp [bind, Except.bind]
  | error halt =>
    rw [hsig] at hunthrown
    simpa [bind, Except.bind] using hunthrown

theorem rejectIf_pure_unthrown {α : Type} {c : Bool} {reason : String} {e : Exn} {a : α} :
    (rejectIf c reason >>= fun _ => (.ok a : Except Halt α)) ≠ .error (.threw e) := by
  simp [rejectIf_bind_threw]

/-- What the checks raise, and where. -/
theorem vet_threw (cfg : OtaConfig) (w : World) (st : State) (m : Bytes) (e : Exn) :
    vet cfg w st m = .error (.threw e) ↔ Offered cfg st m ∧
      (extractStage m "rollout_percent" = .error e ∨ Admitted cfg w m ∧ (fields m).artifactUrl.length < 7 ∧ e = .outOfRange) := by
  simp only [vet, rejectIf_bind_threw, mapError_bind_threw, checkSignature_bind_threw, checkSignature_iff,
    Bool.not_eq_false', decide_eq_false_iff_not, not_not]
  constructor
  · rintro ⟨hsup, hchan, hver, hrev, h⟩
    refine ⟨⟨⟨hsup, hchan⟩, hver, hrev⟩, h.imp_right ?_⟩
    rintro ⟨n, hn, hallow, hsha, hsig, h⟩
    split_ifs at h with hlen
    · cases h
      exact ⟨⟨⟨n, hn, hallow⟩, hsha, hsig⟩, hlen, rfl⟩
    · exact absurd h rejectIf_pure_unthrown
  · rintro ⟨⟨⟨hsup, hchan⟩, hver, hrev⟩, h⟩
    refine ⟨hsup, hchan, hver, hrev, h.imp_right ?_⟩
    rintro ⟨⟨⟨n, hn, hallow⟩, hsha, hsig⟩, hlen, rfl⟩
    refine ⟨n, hn, hallow, hsha, hsig, ?_⟩
    exact if_pos hlen

theorem vet_threw_iff (cfg : OtaConfig) (w : World) (st : State) (m : Bytes) :
    (∃ e, vet cfg w st m = .error (.threw e)) ↔ ¬ Readable cfg w st m := by
  have hcount : ¬ Countable m "rollout_percent" ↔ ∃ e, extractStage m "rollout_percent" = .error e := by
    rw [← extractStage_ok_iff]
    cases extractStage m "rollout_percent" <;> simp
  simp only [vet_threw, Readable, Classical.not_imp, not_and_or, hcount, not_le, exists_and_left, exists_or, exists_eq, and_true]

/-! ### The answer -/

/-- Where nothing of this throws, `run_once` is as it is in the runs of the state file. -/
theorem runOnceOn_whole (cfg : OtaConfig) (w : World) (st : State) : runOnceOn {} cfg w st = runOnce cfg w st := by
  unfold runOnceOn runOnce
  split_ifs
  · rfl
  · split
    · rfl
    · split
      · rfl
      · rfl
      · dsimp only

/-- The state file after a call on this file system: a state is saved with an answer that is ok. -/
def Appliance.agentOn (fs : FileSystem) (cfg : OtaConfig) (a : Appliance) (w : World) : Appliance :=
  let e := runOnceOn fs cfg w (loadState a.file)
  match e.result with
  | .ok ⟨true, _⟩ => { a with file := saveState e.state }
  | _ => a

/-- The call answers, and an answer that is not ok leaves the state file as it was and comes with no bundle installed. -/
def FailsClosed (fs : FileSystem) (cfg : OtaConfig) (a : Appliance) (w : World) : Prop :=
  ∃ r, (runOnceOn fs cfg w (loadState a.file)).result = .ok r ∧ (r.ok = false → a.agentOn fs cfg w = a ∧
    ∀ data, (runOnceOn fs cfg w (loadState a.file)).installed = some data → ∃ reason, w.installBundle data = .error reason)

/-- Nothing throws on the way from the checks to the end. -/
structure FileSystem.Works (fs : FileSystem) (w : World) (data : Bytes) : Prop where
  downloads : fs.makeDownloads = .ok ()
  installs : fs.installs data = .ok ()
  state : w.installBundle data = .ok () → fs.makeStateDir = .ok ()

theorem agent_of_not_ok {fs : FileSystem} {cfg : OtaConfig} {a : Appliance} {w : World} {r : OtaResult}
    (h : (runOnceOn fs cfg w (loadState a.file)).result = .ok r) (hr : r.ok = false) : a.agentOn fs cfg w = a := by
  obtain ⟨ok, reason⟩ := r
  obtain rfl : ok = false := hr
  simp only [Appliance.agentOn, h]

/-- After the checks the call answers if and only if nothing throws. -/
theorem answers_iff_works {fs : FileSystem} {cfg : OtaConfig} {w : World} {st : State} {m version data : Bytes}
    (hen : cfg.enable = true) (hm : w.fetch cfg.feedUrl = .ok m) (hvet : vet cfg w st m = .ok (version, data)) :
    (∃ r, (runOnceOn fs cfg w st).result = .ok r ∧ (r.ok = false → ∀ data', (runOnceOn fs cfg w st).installed = some data' →
      ∃ reason, w.installBundle data' = .error reason)) ↔ fs.Works w data := by
  unfold runOnceOn
  simp only [hen, hm, hvet, Bool.not_true, Bool.false_eq_true, if_false]
  cases hdown : fs.makeDownloads with
  | error e => exact iff_of_false (fun ⟨r, hr, _⟩ => nomatch hr) fun h => nomatch hdown.symm.trans h.downloads
  | ok u =>
    cases hcopy : fs.installs data with
    | error e => exact iff_of_false (fun ⟨r, hr, _⟩ => nomatch hr) fun h => nomatch hcopy.symm.trans h.installs
    | ok u =>
      cases hinst : w.installBundle data with
      | error reason =>
        refine iff_of_true ⟨_, rfl, fun _ data' hdata => ⟨reason, ?_⟩⟩ ⟨hdown, hcopy, fun h => nomatch hinst.symm.trans h⟩
        rwa [← Option.some.inj hdata]
      | ok u =>
        cases hstate : fs.makeStateDir with
        | error e => exact iff_of_false (fun ⟨r, hr, _⟩ => nomatch hr) fun h => nomatch hstate.symm.trans (h.state hinst)
        | ok u => exact iff_of_true ⟨_, rfl, fun h => nomatch h⟩ ⟨hdown, hcopy, fun _ => hstate⟩

/-- For every manifest, configuration, state and file system, the agent fails closed if and only if it can read what it gets
to, and, once a manifest is cleared, nothing on the file system throws. -/
theorem failsClosed_iff (fs : FileSystem) (cfg : OtaConfig) (a : Appliance) (w : World) : FailsClosed fs cfg a w ↔
    (cfg.enable = true → ∀ m, w.fetch cfg.feedUrl = .ok m → Readable cfg w (loadState a.file) m ∧
      (Cleared cfg w (loadState a.file) m → fs.Works w (w.readFile ((fields m).artifactUrl.drop 7)))) := by
  have hclosed : FailsClosed fs cfg a w ↔ ∃ r, (runOnceOn fs cfg w (loadState a.file)).result = .ok r ∧ (r.ok = false →
      ∀ data, (runOnceOn fs cfg w (loadState a.file)).installed = some data → ∃ reason, w.installBundle data = .error reason) :=
    exists_congr fun r => and_congr_right fun hr => imp_congr_right fun hok => and_iff_right (agent_of_not_ok hr hok)
  rw [hclosed]
  cases hen : cfg.enable with
  | false => simp [runOnceOn, hen]
  | true =>
    simp only [forall_const]
    cases hm : w.fetch cfg.feedUrl with
    | error reason => simp [runOnceOn, hen, hm]
    | ok m =>
      simp only [Except.ok.injEq, forall_eq']
      have hthrew := vet_threw_iff cfg w (loadState a.file) m
      cases hvet : vet cfg w (loadState a.file) m with
      | error halt =>
        have huncleared : ¬ Cleared cfg w (loadState a.file) m := fun h => nomatch hvet.symm.trans (vet_of_cleared h)
        rw [hvet] at hthrew
        cases halt with
        | reject reason => simpa [runOnceOn, hen, hm, hvet, huncleared] using hthrew
        | threw e => simpa [runOnceOn, hen, hm, hvet, huncleared] using hthrew
      | ok p =>
        have hcleared : Cleared cfg w (loadState a.file) m := cleared_of_vet hen hvet
        obtain rfl : p = _ := Except.ok.inj (hvet.symm.trans (vet_of_cleared hcleared))
        rw [hvet] at hthrew
        rw [answers_iff_works hen hm hvet, and_iff_right (by simpa using hthrew)]
        exact ⟨fun h _ => h, fun h => h hcleared⟩

/-- The manifest of a release for half of the fleet, its percentage after a blank. -/
def spacedFeed : World where
  fetch _ := .ok (ascii "\x7b\"channel\":\"stable\",\"version\":\"1.2.0\",\"rollout_percent\": 50,\"sha256\":\"00\"\x7d")
  readFile _ := []
  hexSha256 _ := ascii "00"
  verifyPem _ _ _ := false
  stdHash _ := 0
  installBundle _ := .ok ()

/-- The blank makes the call throw. -/
theorem failsClosed_spaced : ¬ ∀ fs cfg a w, FailsClosed fs cfg a w := by
  intro h
  obtain ⟨r, hr, -⟩ := h {} { enable := true } {} spacedFeed
  have hthrew : (runOnceOn {} { enable := true } spacedFeed (loadState [])).result = .error .invalidArgument := by
    decide +kernel
  rw [hthrew] at hr
  cases hr

end Drawer.Ota
