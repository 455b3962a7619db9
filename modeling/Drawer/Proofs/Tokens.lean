import Drawer.Proofs.Revocation

/-! Enrolment tokens. A token is only ever marked, as used or as revoked, and a
restart either finds it as it is or, without a store, does not find it. So once it
has enrolled a device it never does again. -/

namespace Drawer.Twin.EnrollmentService

variable {s : EnrollmentService}

/-! ### What is wanted -/

/-- The token that the operation adds, if it adds one. -/
def Op.added : Op → Option String
  | .addToken record => some record.token
  | _ => none

/-- The service after the operations, on a store that was empty. -/
def after (storePath : String) (ops : List Op) : EnrollmentService := ops.foldl EnrollmentService.apply (load storePath none)

/-- The operation is an enrolment with the token, and succeeds. -/
def Spends (s : EnrollmentService) (op : Op) (token : String) : Prop :=
  ∃ ts request now, op = .enroll ts request now ∧ request.enrollmentToken = token ∧ (s.enroll ts request now).2.ok = true

/-- A token enrols once, the device that it was added for and in time, and not after it was revoked. -/
structure SingleUse (storePath : String) (ops : List Op) : Prop where
  once : ∀ before op mid op' rest token, ops = before ++ op :: (mid ++ op' :: rest) →
    Spends (after storePath before) op token → ¬ Spends (after storePath (before ++ op :: mid)) op' token
  granted : ∀ before ts request now rest, ops = before ++ .enroll ts request now :: rest →
    ((after storePath before).enroll ts request now).2.ok = true →
    ∃ record, .addToken record ∈ before ∧ record.token = request.enrollmentToken ∧ record.deviceId = request.deviceId ∧
      ¬ (0 < record.expiresAtEpoch ∧ record.expiresAtEpoch < now)
  revoked : ∀ before token mid op rest, ops = before ++ .revokeToken token :: (mid ++ op :: rest) →
    ((after storePath before).tokens.lookup token).isSome = true →
    ¬ Spends (after storePath (before ++ .revokeToken token :: mid)) op token

/-! ### Marks -/

/-- The record is gone, or it is as it was but for its marks, of which none was taken away. -/
inductive Fades : Option EnrollmentTokenRecord → Option EnrollmentTokenRecord → Prop
  | gone (v : Option EnrollmentTokenRecord) : Fades v none
  | kept (r r' : EnrollmentTokenRecord) (hdevice : r'.deviceId = r.deviceId) (hexpiry : r'.expiresAtEpoch = r.expiresAtEpoch)
      (hused : r.used = true → r'.used = true) (hrevoked : r.revoked = true → r'.revoked = true) : Fades (some r) (some r')

theorem Fades.refl (v : Option EnrollmentTokenRecord) : Fades v v := by
  cases v with
  | none => exact Fades.gone none
  | some r => exact Fades.kept r r rfl rfl id id

theorem Fades.trans {u v v' : Option EnrollmentTokenRecord} (h : Fades u v) (h' : Fades v v') : Fades u v' := by
  cases h' with
  | gone _ => exact Fades.gone u
  | kept r r' hdevice' hexpiry' hused' hrevoked' =>
    cases h with
    | kept r₀ _ hdevice hexpiry hused hrevoked =>
      exact Fades.kept r₀ r' (hdevice'.trans hdevice) (hexpiry'.trans hexpiry) (hused' ∘ hused) (hrevoked' ∘ hrevoked)

theorem fades_insert {tokens : Dict String EnrollmentTokenRecord} {key : String} {r r' : EnrollmentTokenRecord}
    (hr : tokens.lookup key = some r) (h : Fades (some r) (some r')) (token : String) :
    Fades (tokens.lookup token) ((tokens.insert key r').lookup token) := by
  rw [Dict.lookup_insert_if]
  split_ifs with htoken
  · rw [htoken, hr]
    exact h
  · exact Fades.refl _

@[simp] theorem saveLocked_tokens (s : EnrollmentService) : s.saveLocked.tokens = s.tokens := by
  unfold saveLocked
  split_ifs <;> rfl

theorem fades_apply (h : Sound s) {op : Op} {token : String} (hop : op.added ≠ some token) :
    Fades (s.tokens.lookup token) ((s.apply op).tokens.lookup token) := by
  cases op with
  | addToken record =>
    have hne : token ≠ record.token := fun heq => hop (by rw [heq]; rfl)
    simp only [EnrollmentService.apply, addToken, saveLocked_tokens, AList.lookup_insert_ne hne]
    exact Fades.refl _
  | revokeToken key =>
    simp only [EnrollmentService.apply, revokeToken]
    cases hget : s.tokens.lookup key with
    | none =>
      rw [saveLocked_tokens]
      exact Fades.refl _
    | some r =>
      rw [saveLocked_tokens]
      exact fades_insert hget (Fades.kept r { r with revoked := true } rfl rfl id fun _ => rfl) token
  | enroll ts request now =>
    simp only [EnrollmentService.apply, enroll]
    cases hrefusal : s.refusal request now with
    | error reason => exact Fades.refl _
    | ok r =>
      rw [saveLocked_tokens]
      exact fades_insert (refusal_ok hrefusal) (Fades.kept r { r with used := true } rfl rfl (fun _ => rfl) id) token
  | disableDevice deviceId =>
    simp only [EnrollmentService.apply, disableDevice]
    cases s.identities.lookup deviceId <;> rw [saveLocked_tokens] <;> exact Fades.refl _
  | restart =>
    by_cases hpath : s.storePath = ""
    · have hnone : (s.apply .restart).tokens.lookup token = none := by simp [EnrollmentService.apply, restart, load, hpath]
      rw [hnone]
      exact Fades.gone _
    · rw [EnrollmentService.apply, h.tokens hpath]
      exact Fades.refl _

theorem sound_run (h : Sound s) (ops : List Op) : Sound (ops.foldl EnrollmentService.apply s) := by
  induction ops generalizing s with
  | nil => exact h
  | cons op ops ih => exact ih (h.apply op)

theorem fades_run (h : Sound s) {ops : List Op} {token : String} (hops : ∀ op ∈ ops, op.added ≠ some token) :
    Fades (s.tokens.lookup token) ((ops.foldl EnrollmentService.apply s).tokens.lookup token) := by
  induction ops generalizing s with
  | nil => exact Fades.refl _
  | cons op ops ih =>
    rw [List.forall_mem_cons] at hops
    exact (fades_apply h hops.1).trans (ih (h.apply op) hops.2)

theorem after_append (storePath : String) (before ops : List Op) :
    after storePath (before ++ ops) = ops.foldl EnrollmentService.apply (after storePath before) := by
  rw [after, List.foldl_append, ← after]

theorem sound_after (storePath : String) (ops : List Op) : Sound (after storePath ops) :=
  sound_run (load_sound storePath none) ops

/-! ### What an enrolment says of its token -/

/-- The token, if it is still known, is used or revoked. -/
def Marked (s : EnrollmentService) (token : String) : Prop :=
  ∀ r, s.tokens.lookup token = some r → r.used = true ∨ r.revoked = true

/-- What a record must say for the request. -/
theorem refusal_spec {request : EnrollmentRequest} {now : Int} {r : EnrollmentTokenRecord} (h : s.refusal request now = .ok r) :
    s.tokens.lookup request.enrollmentToken = some r ∧ ¬ (r.used = true ∨ r.revoked = true) ∧ r.deviceId = request.deviceId ∧
      ¬ (0 < r.expiresAtEpoch ∧ r.expiresAtEpoch < now) := by
  have hget := refusal_ok h
  unfold refusal at h
  rw [hget] at h
  dsimp only at h
  split_ifs at h with hmalformed hrevoked hused hexpired hdevice
  refine ⟨hget, by simp [hused, hrevoked], not_not.mp hdevice, ?_⟩
  simpa only [Bool.and_eq_true, decide_eq_true_eq] using hexpired

theorem enroll_ok {ts : String} {request : EnrollmentRequest} {now : Int} (h : (s.enroll ts request now).2.ok = true) :
    ∃ r, s.refusal request now = .ok r := by
  unfold enroll at h
  cases hrefusal : s.refusal request now with
  | error reason =>
    rw [hrefusal] at h
    cases h
  | ok r => exact ⟨r, rfl⟩

theorem Marked.refuses {token : String} (h : Marked s token) (op : Op) : ¬ Spends s op token := by
  rintro ⟨ts, request, now, rfl, rfl, hok⟩
  obtain ⟨r, hr⟩ := enroll_ok hok
  obtain ⟨hget, hmarks, -, -⟩ := refusal_spec hr
  exact hmarks (h r hget)

theorem Spends.marks {op : Op} {token : String} (h : Spends s op token) :
    (s.tokens.lookup token).isSome = true ∧ Marked (s.apply op) token := by
  obtain ⟨ts, request, now, rfl, rfl, hok⟩ := h
  obtain ⟨r, hr⟩ := enroll_ok hok
  refine ⟨by rw [refusal_ok hr]; rfl, fun r' hr' => Or.inl ?_⟩
  simp only [EnrollmentService.apply, enroll, hr, saveLocked_tokens, AList.lookup_insert, Option.some.injEq] at hr'
  rw [← hr']

theorem revoke_marks (s : EnrollmentService) (token : String) : Marked (s.apply (.revokeToken token)) token := by
  intro r' hr'
  simp only [EnrollmentService.apply, revokeToken] at hr'
  cases hget : s.tokens.lookup token with
  | none =>
    rw [hget] at hr'
    simp only [saveLocked_tokens, hget, reduceCtorEq] at hr'
  | some r =>
    rw [hget] at hr'
    simp only [saveLocked_tokens, AList.lookup_insert, Option.some.injEq] at hr'
    rw [← hr']
    exact Or.inr rfl

theorem Marked.run (h : Sound s) {token : String} (hmarked : Marked s token) {ops : List Op}
    (hops : ∀ op ∈ ops, op.added ≠ some token) : Marked (ops.foldl EnrollmentService.apply s) token := by
  intro r' hr'
  have hfades := fades_run h hops
  rw [hr'] at hfades
  cases hget : s.tokens.lookup token with
  | none =>
    rw [hget] at hfades
    cases hfades
  | some r =>
    rw [hget] at hfades
    cases hfades with
    | kept _ _ _ _ hused hrevoked => exact (hmarked r hget).imp hused hrevoked

/-! ### Where a token comes from -/

/-- A token that is known was added, and only its marks have changed since. -/
theorem origin (storePath : String) (ops : List Op) (token : String) (r : EnrollmentTokenRecord)
    (hr : (after storePath ops).tokens.lookup token = some r) :
    ∃ record, .addToken record ∈ ops ∧ record.token = token ∧ Fades (some record) (some r) := by
  induction ops using List.reverseRecOn generalizing r with
  | nil =>
    have hempty : (after storePath []).tokens.lookup token = none := by simp [after, load]
    rw [hempty] at hr
    cases hr
  | append_singleton ops op ih =>
    rw [after_append, List.foldl_cons, List.foldl_nil] at hr
    by_cases hop : op.added = some token
    · cases op with
      | addToken record =>
        obtain rfl : record.token = token := Option.some.inj hop
        simp only [EnrollmentService.apply, addToken, saveLocked_tokens, AList.lookup_insert, Option.some.injEq] at hr
        exact ⟨record, by simp, rfl, hr ▸ Fades.refl _⟩
      | _ => cases hop
    · have hfades := fades_apply (sound_after storePath ops) hop
      rw [hr] at hfades
      cases hget : (after storePath ops).tokens.lookup token with
      | none =>
        rw [hget] at hfades
        cases hfades
      | some r₀ =>
        rw [hget] at hfades
        obtain ⟨record, hmem, htoken, hrecord⟩ := ih r₀ hget
        exact ⟨record, List.mem_append_left _ hmem, htoken, hrecord.trans hfades⟩

/-- What is known after the first operations is not added by the later ones. -/
theorem not_added {storePath : String} {before ops : List Op} {token : String}
    (hnodup : ((before ++ ops).filterMap Op.added).Nodup)
    (hknown : ((after storePath before).tokens.lookup token).isSome = true) : ∀ op ∈ ops, op.added ≠ some token := by
  obtain ⟨r, hr⟩ := Option.isSome_iff_exists.mp hknown
  obtain ⟨record, hmem, htoken, -⟩ := origin storePath before token r hr
  intro op hop hadded
  rw [List.filterMap_append, List.nodup_append] at hnodup
  have hbefore : token ∈ before.filterMap Op.added := List.mem_filterMap.mpr ⟨_, hmem, congrArg some htoken⟩
  exact hnodup.2.2 token hbefore token (List.mem_filterMap.mpr ⟨op, hop, hadded⟩) rfl

/-- Once an operation has marked a known token, the token enrols no more. -/
theorem marked_after {storePath : String} {before mid rest : List Op} {op op' : Op} {token : String}
    (hnodup : ((before ++ op :: (mid ++ op' :: rest)).filterMap Op.added).Nodup)
    (hknown : ((after storePath before).tokens.lookup token).isSome = true)
    (hmarks : Marked ((after storePath before).apply op) token) : ¬ Spends (after storePath (before ++ op :: mid)) op' token := by
  have hadded := not_added hnodup hknown
  rw [after_append, List.foldl_cons]
  refine Marked.refuses (hmarks.run ((sound_after storePath before).apply op) fun op'' hop'' => ?_) op'
  exact hadded op'' (List.mem_cons_of_mem _ (List.mem_append_left _ hop''))

/-- Over every run of the service in which no token is added twice. -/
theorem tokens_single_use (storePath : String) (ops : List Op) (h : (ops.filterMap Op.added).Nodup) :
    SingleUse storePath ops where
  once before op mid op' rest token heq hspends := by
    subst heq
    exact marked_after h hspends.marks.1 hspends.marks.2
  granted before ts request now rest heq hok := by
    obtain ⟨r, hr⟩ := enroll_ok hok
    obtain ⟨hget, -, hdevice, hexpiry⟩ := refusal_spec hr
    obtain ⟨record, hmem, htoken, hrecord⟩ := origin storePath before _ r hget
    cases hrecord with
    | kept _ _ hd he _ _ =>
      rw [he] at hexpiry
      exact ⟨record, hmem, htoken, hd.symm.trans hdevice, hexpiry⟩
  revoked before token mid op rest heq hknown := by
    subst heq
    exact marked_after h hknown (revoke_marks _ token)

/-- Two tokens, one of them revoked, across a restart. -/
def granting : List Op :=
  [.addToken { token := "TOKEN-000000001", deviceId := "dev-1", expiresAtEpoch := 100 },
    .enroll "" { deviceId := "dev-1", enrollmentToken := "TOKEN-000000001" } 7, .restart,
    .addToken { token := "TOKEN-000000002", deviceId := "dev-1" }, .revokeToken "TOKEN-000000002",
    .enroll "" { deviceId := "dev-1", enrollmentToken := "TOKEN-000000002" } 8]

theorem tokens_single_use_granting : (granting.filterMap Op.added).Nodup ∧ SingleUse "store.json" granting :=
  ⟨by decide +kernel, tokens_single_use "store.json" granting (by decide +kernel)⟩

end Drawer.Twin.EnrollmentService
