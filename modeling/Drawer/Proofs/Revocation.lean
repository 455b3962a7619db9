import Drawer.Lib.Transition
import Drawer.Sanity.Twin
import Drawer.Spec.Enrollment

/-! Disabled devices and enrolment. A token that is still good enrols its device
whatever became of it: the new identity is enabled. Nothing else that the service
does, a restart from its store included, loses the mark. -/

namespace Drawer.Twin.EnrollmentService
open Transition Json

/-! ### The store -/

theorem token_read (r : EnrollmentTokenRecord) : EnrollmentTokenRecord.fromJson r.toJson = .ok r := by
  simp only [EnrollmentTokenRecord.fromJson, EnrollmentTokenRecord.toJson, value_obj, member_cons, String.reduceEq,
    if_false, if_true, getStr_str, getBool_bool, getInt_int, ok_bind, pure_ok]

theorem listed_arr (members : List (String × Json String)) (key : String) (l : List (Json String))
    (h : (Json.obj members).member key = some (.arr l)) : listed (.obj members) key = .ok l := by
  have hvalues : (items (.arr l)).map Prod.snd = l := List.ext_getElem (by simp [items]) (by simp [items])
  simp only [listed, value_obj, h, ok_bind, pure_ok, hvalues]

theorem loadItems_saved {α : Type} {read : Json String → Except Exn α} {key : α → String} {write : α → Json String}
    {f : α → α} (hread : ∀ a, read (write a) = .ok (f a)) (l : List (Sigma fun _ : String => α))
    (hkey : ∀ e ∈ l, key (f e.2) = e.1) (m : Dict String α) :
    loadItems read key (l.map fun e => write e.2) m = (l.foldl (fun m e => m.insert e.1 (f e.2)) m, true) := by
  induction l generalizing m with
  | nil => rfl
  | cons e l ih =>
    simp only [List.map_cons, loadItems, hread, List.foldl_cons, hkey e List.mem_cons_self]
    exact ih (fun e' he' => hkey e' (List.mem_cons_of_mem _ he')) _

/-- Everything is filed under its own name. -/
structure Keyed (s : EnrollmentService) : Prop where
  tokens : ∀ e ∈ s.tokens.entries, e.2.token = e.1
  identities : ∀ e ∈ s.identities.entries, e.2.deviceId = e.1

/-- A new service has the tokens that were saved, and the identities as they are read. -/
theorem load_saved {s : EnrollmentService} (h : Keyed s) (hpath : s.storePath ≠ "") :
    (∀ token, (load s.storePath (some s.saved)).tokens.lookup token = s.tokens.lookup token) ∧
    ∀ deviceId, (load s.storePath (some s.saved)).identity deviceId = (s.identity deviceId).map DrawerTwin.reread := by
  have htokens : listed s.saved "tokens" = .ok (s.tokens.entries.map fun e => e.2.toJson) :=
    listed_arr _ _ _ rfl
  have hidentities : listed s.saved "identities" = .ok (s.identities.entries.map fun e => e.2.toJson) :=
    listed_arr _ _ _ rfl
  rw [load, if_neg hpath]
  simp only [htokens, hidentities]
  rw [loadItems_saved (f := id) token_read _ h.tokens, loadItems_saved twin_read _ h.identities]
  refine ⟨fun token => ?_, fun deviceId => ?_⟩
  · dsimp only
    rw [Dict.lookup_foldl_insert _ _ s.tokens.nodupKeys, AList.lookup_empty, Option.or_none, Option.map_id]
    rfl
  · simp only [identity]
    rw [Dict.lookup_foldl_insert _ _ s.identities.nodupKeys, AList.lookup_empty, Option.or_none]
    rfl

theorem load_saved_isDisabled {s : EnrollmentService} (h : Keyed s) (hpath : s.storePath ≠ "") (deviceId : String) :
    (load s.storePath (some s.saved)).isDisabled deviceId = s.isDisabled deviceId := by
  rw [isDisabled, (load_saved h hpath).2, isDisabled]
  cases s.identity deviceId <;> rfl

/-! ### The invariant -/

/-- What the service knows is filed properly, and the store says the same of every device and has the same tokens. -/
structure Sound (s : EnrollmentService) : Prop where
  keyed : Keyed s
  stored : s.storePath ≠ "" → ∀ deviceId, s.restart.isDisabled deviceId = s.isDisabled deviceId
  tokens : s.storePath ≠ "" → ∀ token, s.restart.tokens.lookup token = s.tokens.lookup token

theorem mem_insert {α : Type} {k : String} {a : α} {m : Dict String α} {p : (Sigma fun _ : String => α) → Prop}
    (hm : ∀ e ∈ m.entries, p e) (ha : p ⟨k, a⟩) : ∀ e ∈ (m.insert k a).entries, p e := by
  intro e he
  rw [AList.entries_insert, List.mem_cons] at he
  rcases he with rfl | he
  · exact ha
  · exact hm e (List.kerase_sublist k _ |>.mem he)

@[simp] theorem saveLocked_isDisabled (s : EnrollmentService) : s.saveLocked.isDisabled = s.isDisabled := by
  unfold saveLocked
  split_ifs <;> rfl

theorem Keyed.sound {s : EnrollmentService} (h : Keyed s) : Sound s.saveLocked := by
  unfold saveLocked
  split_ifs with hpath
  · exact ⟨h, fun hne => absurd hpath hne, fun hne => absurd hpath hne⟩
  · exact ⟨⟨h.tokens, h.identities⟩, fun _ deviceId => load_saved_isDisabled h hpath deviceId,
      fun _ => (load_saved h hpath).1⟩

theorem loadItems_keyed {α : Type} (read : Json String → Except Exn α) (key : α → String) (js : List (Json String))
    (m : Dict String α) (h : ∀ e ∈ m.entries, key e.2 = e.1) : ∀ e ∈ (loadItems read key js m).1.entries, key e.2 = e.1 := by
  induction js generalizing m with
  | nil => exact h
  | cons j js ih =>
    unfold loadItems
    cases read j with
    | error e => exact h
    | ok a => exact ih _ (mem_insert h rfl)

theorem load_spec (storePath : String) (file : Option (Json String)) :
    Keyed (load storePath file) ∧ (load storePath file).storePath = storePath ∧ (load storePath file).file = file := by
  have hempty : Keyed { storePath, file } := ⟨by simp, by simp⟩
  unfold load
  split_ifs with hpath
  · exact ⟨hempty, rfl, rfl⟩
  cases file with
  | none => exact ⟨hempty, rfl, rfl⟩
  | some j =>
    dsimp only
    cases listed j "tokens" with
    | error e => exact ⟨hempty, rfl, rfl⟩
    | ok tokens =>
      have htokens := loadItems_keyed EnrollmentTokenRecord.fromJson EnrollmentTokenRecord.token tokens ∅ (by simp)
      dsimp only
      rcases hload : loadItems EnrollmentTokenRecord.fromJson EnrollmentTokenRecord.token tokens ∅ with ⟨m, _ | _⟩
      · rw [hload] at htokens
        exact ⟨⟨htokens, by simp⟩, rfl, rfl⟩
      · rw [hload] at htokens
        cases listed j "identities" with
        | error e => exact ⟨⟨htokens, by simp⟩, rfl, rfl⟩
        | ok identities =>
          exact ⟨⟨htokens, loadItems_keyed _ _ identities ∅ (by simp)⟩, rfl, rfl⟩

theorem load_sound (storePath : String) (file : Option (Json String)) : Sound (load storePath file) := by
  obtain ⟨hkeyed, hpath, hfile⟩ := load_spec storePath file
  refine ⟨hkeyed, fun _ deviceId => ?_, fun _ token => ?_⟩
  · rw [restart, hpath, hfile]
  · rw [restart, hpath, hfile]

theorem refusal_ok {s : EnrollmentService} {request : EnrollmentRequest} {now : Int} {record : EnrollmentTokenRecord}
    (h : s.refusal request now = .ok record) : s.tokens.lookup request.enrollmentToken = some record := by
  unfold refusal at h
  split_ifs at h
  split at h
  · cases h
  · split_ifs at h
    obtain rfl := Except.ok.inj h
    assumption

theorem Sound.apply {s : EnrollmentService} (h : Sound s) (op : Op) : Sound (s.apply op) := by
  have hkeyed := h.keyed
  cases op with
  | addToken record => exact Keyed.sound ⟨mem_insert hkeyed.tokens rfl, hkeyed.identities⟩
  | revokeToken token =>
    simp only [EnrollmentService.apply, revokeToken]
    cases hget : s.tokens.lookup token with
    | none => exact hkeyed.sound
    | some record =>
      have hname := hkeyed.tokens _ (AList.mem_lookup_iff.mp hget)
      exact Keyed.sound ⟨mem_insert hkeyed.tokens hname, hkeyed.identities⟩
  | enroll ts request now =>
    simp only [EnrollmentService.apply, enroll]
    cases hrefusal : s.refusal request now with
    | error reason => exact h
    | ok record =>
      have hname := hkeyed.tokens _ (AList.mem_lookup_iff.mp (refusal_ok hrefusal))
      exact Keyed.sound ⟨mem_insert hkeyed.tokens hname, mem_insert hkeyed.identities rfl⟩
  | disableDevice deviceId =>
    simp only [EnrollmentService.apply, disableDevice]
    cases hget : s.identities.lookup deviceId with
    | none => exact hkeyed.sound
    | some twin =>
      have hname := hkeyed.identities _ (AList.mem_lookup_iff.mp hget)
      exact Keyed.sound ⟨hkeyed.tokens, mem_insert hkeyed.identities hname⟩
  | restart => exact load_sound _ _

/-! ### Who stays disabled -/

/-- The token of the request is accepted, and its device is disabled. -/
def Reenrolls (s : EnrollmentService) (request : EnrollmentRequest) (now : Int) : Prop :=
  (∃ record, s.refusal request now = .ok record) ∧ s.isDisabled request.deviceId = true

/-- No disabled device is enrolled again, and nothing is restarted that has no store but disabled devices. -/
def Guarded (s : EnrollmentService) : Op → Prop
  | .enroll _ request now => ¬ Reenrolls s request now
  | .restart => s.storePath = "" → ∀ deviceId, s.isDisabled deviceId = false
  | _ => True

theorem isDisabled_insert (s : EnrollmentService) (tokens : Dict String EnrollmentTokenRecord) (key : String)
    (twin : DrawerTwin) (deviceId : String) :
    { s with tokens, identities := s.identities.insert key twin }.isDisabled deviceId =
      if deviceId = key then twin.disabled else s.isDisabled deviceId := by
  simp only [isDisabled, identity, Dict.lookup_insert_if]
  split_ifs <;> simp

/-- One operation leaves every disabled device disabled if and only if it is guarded. -/
theorem keeps_iff {s : EnrollmentService} (h : Sound s) (op : Op) :
    (∀ deviceId, s.isDisabled deviceId = true → (s.apply op).isDisabled deviceId = true) ↔ Guarded s op := by
  cases op with
  | addToken record =>
    refine iff_of_true (fun deviceId hd => ?_) trivial
    simp only [EnrollmentService.apply, addToken, saveLocked_isDisabled]
    exact hd
  | revokeToken token =>
    refine iff_of_true (fun deviceId hd => ?_) trivial
    simp only [EnrollmentService.apply, revokeToken]
    cases s.tokens.lookup token <;> simp only [saveLocked_isDisabled] <;> exact hd
  | enroll ts request now =>
    simp only [EnrollmentService.apply, enroll, Guarded, Reenrolls]
    cases hrefusal : s.refusal request now with
    | error reason => simp
    | ok record =>
      have hdevice : (enrolledTwin ts request record).deviceId = request.deviceId := rfl
      simp only [saveLocked_isDisabled, isDisabled_insert, hdevice]
      refine ⟨fun hk ⟨_, hd⟩ => ?_, fun hn deviceId hd => ?_⟩
      · have := hk request.deviceId hd
        rw [if_pos rfl] at this
        cases this
      · have hne : deviceId ≠ request.deviceId := by
          rintro rfl
          exact hn ⟨⟨record, rfl⟩, hd⟩
        rwa [if_neg hne]
  | disableDevice deviceId =>
    refine iff_of_true (fun deviceId' hd => ?_) trivial
    simp only [EnrollmentService.apply, disableDevice]
    cases hget : s.identities.lookup deviceId with
    | none => simpa only [saveLocked_isDisabled] using hd
    | some twin =>
      simp only [saveLocked_isDisabled, isDisabled_insert]
      split_ifs
      · rfl
      · exact hd
  | restart =>
    simp only [EnrollmentService.apply, Guarded]
    by_cases hpath : s.storePath = ""
    · have hnone : ∀ deviceId, s.restart.isDisabled deviceId = false := by
        intro deviceId
        simp [restart, load, hpath, isDisabled, identity]
      simp [hpath, hnone]
    · simp [hpath, h.stored hpath]

/-- Over every run from a store, each device that is disabled at some point stays so, if and only if no step enrols a
device while it is disabled and no service without a store is restarted with disabled devices. -/
theorem revocation_kept_iff (storePath : String) (file : Option (Json String)) (ops : List Op) :
    (∀ before mid after, ops = before ++ mid ++ after → ∀ deviceId,
      (before.foldl EnrollmentService.apply (load storePath file)).isDisabled deviceId = true →
      ((before ++ mid).foldl EnrollmentService.apply (load storePath file)).isDisabled deviceId = true) ↔
    Meets Guarded EnrollmentService.apply (load storePath file) ops := by
  rw [← meets_keeps_iff (P := fun s deviceId => isDisabled s deviceId = true)]
  exact meets_congr (I := Sound) (fun s op hs => hs.apply op) (fun s op hs => keeps_iff hs op) (load_sound storePath file) ops

/-- Two tokens for one device. -/
def reenrolled : List Op :=
  [.addToken { token := "TOKEN-000000001", deviceId := "dev-1" },
    .addToken { token := "TOKEN-000000002", deviceId := "dev-1" },
    .enroll "" { deviceId := "dev-1", enrollmentToken := "TOKEN-000000001" } 0, .disableDevice "dev-1",
    .enroll "" { deviceId := "dev-1", enrollmentToken := "TOKEN-000000002" } 0]

/-- The device is disabled, and its second token brings it back. -/
theorem revocation_lost : ¬ ∀ before mid after, reenrolled = before ++ mid ++ after → ∀ deviceId,
    (before.foldl EnrollmentService.apply (load "store.json" none)).isDisabled deviceId = true →
    ((before ++ mid).foldl EnrollmentService.apply (load "store.json" none)).isDisabled deviceId = true := by
  intro h
  have hdis := h (reenrolled.take 4) (reenrolled.drop 4) [] rfl "dev-1" (by decide +kernel)
  revert hdis
  decide +kernel

end Drawer.Twin.EnrollmentService
