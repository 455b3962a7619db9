import Drawer.Lib.Transition
import Drawer.Spec.ContractServer

/-! Pushes to the contract server. What a push may do is checked against the twin
its path names, and it replaces the twin its body names: a stored twin is replaced
by newer ones only, and a disabled one not at all, just as long as no accepted
push carries a twin that would have been refused under its own id. -/

namespace Drawer.Twin.TwinContractServer
open Transition

/-- What one operation owes the stored twins: a twin is only replaced by a newer one, and a disabled twin stays as
it is. -/
structure Respects (s : TwinContractServer) (op : Op) : Prop where
  newer : ∀ twin stored, s.stores op = some twin → s.get twin.drawerId = some stored → stored.revision < twin.revision
  kept : ∀ id stored, s.get id = some stored → stored.disabled = true → (s.apply op).get id = some stored

/-- The checks of a push, made for the twin stored under `id`. -/
def takes (s : TwinContractServer) (id : String) (twin : DrawerTwin) : Bool :=
  !twin.disabled && (s.get id).all fun stored => !stored.disabled && stored.revision < twin.revision

/-- A push that passes the checks under the id in its path also passes them under the id in its body. -/
def WellAimed (s : TwinContractServer) : Op → Prop
  | .postTwin req => ∀ twin, s.authorized req = true → incoming req = .ok twin → s.takes req.id twin = true →
      s.takes twin.drawerId twin = true
  | _ => True

theorem takes_iff {s : TwinContractServer} {id : String} {twin : DrawerTwin} :
    s.takes id twin = true ↔ twin.disabled = false ∧
      ∀ stored, s.get id = some stored → stored.disabled = false ∧ stored.revision < twin.revision := by
  cases h : s.get id <;> simp [takes, h]

@[simp] theorem get_store (s : TwinContractServer) (twin : DrawerTwin) (id : String) :
    (s.store twin).get id = if id = twin.drawerId then some twin else s.get id :=
  Dict.lookup_insert_if _ _ _ _

@[simp] theorem get_disableDevice (s : TwinContractServer) (deviceId id : String) :
    (s.disableDevice deviceId).get id = (s.get id).map (disabledTwin deviceId) :=
  Dict.lookup_map _ _ _

/-- A push is accepted just when it is authorized, carries a twin and passes the checks under the id in its path. -/
theorem postTwin_cases (s : TwinContractServer) (req : Request) :
    (∃ twin, s.authorized req = true ∧ incoming req = .ok twin ∧ s.takes req.id twin = true ∧
      s.postTwin req = (s.store (synced twin), ⟨200, twinReply (synced twin)⟩)) ∨
    ((∀ twin, s.authorized req = true → incoming req = .ok twin → s.takes req.id twin = false) ∧
      (s.postTwin req).1 = s ∧ (s.postTwin req).2.status ≠ 200) := by
  unfold postTwin
  cases hauth : s.authorized req with
  | false => exact Or.inr ⟨by simp, by simp⟩
  | true =>
    cases hin : incoming req with
    | error e => exact Or.inr ⟨by simp, by simp⟩
    | ok twin =>
      cases htwin : twin.disabled with
      | true =>
        refine Or.inr ⟨fun twin' _ h => ?_, by simp [htwin]⟩
        obtain rfl := Except.ok.inj h
        simp [takes, htwin]
      | false =>
        cases hget : s.get req.id with
        | none => exact Or.inl ⟨twin, rfl, rfl, by simp [takes, htwin, hget], by simp [htwin]⟩
        | some stored =>
          cases hdis : stored.disabled with
          | true =>
            refine Or.inr ⟨fun twin' _ h => ?_, by simp [hdis]⟩
            obtain rfl := Except.ok.inj h
            simp [takes, hget, hdis]
          | false =>
            by_cases hrev : twin.revision ≤ stored.revision
            · refine Or.inr ⟨fun twin' _ h => ?_, by simp [htwin, hdis, hrev, Option.filter]⟩
              obtain rfl := Except.ok.inj h
              simp [takes, hget, hrev]
            · refine Or.inl ⟨twin, rfl, rfl, ?_, by simp [htwin, hdis, hrev, Option.filter]⟩
              simpa [takes, htwin, hget, hdis] using hrev

theorem stores_post {s : TwinContractServer} {req : Request} {twin : DrawerTwin} (hauth : s.authorized req = true)
    (hin : incoming req = .ok twin) (htakes : s.takes req.id twin = true) :
    s.stores (.postTwin req) = some (synced twin) ∧ s.apply (.postTwin req) = s.store (synced twin) := by
  rcases postTwin_cases s req with ⟨twin', -, hin', -, heq⟩ | ⟨hno, -⟩
  · obtain rfl := Except.ok.inj (hin.symm.trans hin')
    simp [stores, apply, heq, hin, Except.toOption]
  · rw [hno twin hauth hin] at htakes
    cases htakes

theorem apply_cases (s : TwinContractServer) (op : Op) :
    (∃ req twin, op = .postTwin req ∧ s.authorized req = true ∧ incoming req = .ok twin ∧
      s.takes req.id twin = true ∧ s.stores op = some (synced twin) ∧ s.apply op = s.store (synced twin)) ∨
    (∃ deviceId, s.stores op = none ∧ s.apply op = s.disableDevice deviceId) ∨
    (s.stores op = none ∧ s.apply op = s) := by
  cases op with
  | postTwin req =>
    rcases postTwin_cases s req with ⟨twin, hauth, hin, htakes, -⟩ | ⟨-, hsame, hstatus⟩
    · obtain ⟨hstores, happly⟩ := stores_post hauth hin htakes
      exact Or.inl ⟨req, twin, rfl, hauth, hin, htakes, hstores, happly⟩
    · exact Or.inr (Or.inr ⟨by simp [stores, hstatus], hsame⟩)
  | getTwin req => exact Or.inr (Or.inr ⟨rfl, rfl⟩)
  | getStatus req => exact Or.inr (Or.inr ⟨rfl, rfl⟩)
  | disableDevice deviceId => exact Or.inr (Or.inl ⟨deviceId, rfl, rfl⟩)

/-- A twin was only ever disabled by `disable_device`. -/
def Marked (s : TwinContractServer) : Prop :=
  ∀ id stored, s.get id = some stored → stored.disabled = true → stored.syncStatus = "disabled"

theorem Marked.apply {s : TwinContractServer} (h : Marked s) (op : Op) : Marked (s.apply op) := by
  intro id stored hget hdis
  rcases apply_cases s op with ⟨req, twin, -, -, -, htakes, -, heq⟩ | ⟨deviceId, -, heq⟩ | ⟨-, heq⟩
  · rw [heq, get_store] at hget
    split_ifs at hget with hid
    · obtain rfl := Option.some.inj hget
      rw [show (synced twin).disabled = twin.disabled from rfl, (takes_iff.mp htakes).1] at hdis
      cases hdis
    · exact h id stored hget hdis
  · rw [heq, get_disableDevice, Option.map_eq_some_iff] at hget
    obtain ⟨before, hbefore, rfl⟩ := hget
    unfold disabledTwin at hdis ⊢
    split_ifs at hdis ⊢ with hdev
    · rfl
    · exact h id before hbefore hdis
  · rw [heq] at hget
    exact h id stored hget hdis

theorem disabledTwin_disabled {stored : DrawerTwin} (hdis : stored.disabled = true)
    (hsync : stored.syncStatus = "disabled") (deviceId : String) : disabledTwin deviceId stored = stored := by
  unfold disabledTwin
  split_ifs
  · rw [← hdis, ← hsync]
  · rfl

theorem wellAimed_of_idle {s : TwinContractServer} {op : Op} (h : s.stores op = none) : WellAimed s op := by
  cases op with
  | postTwin req =>
    intro twin hauth hin htakes
    rw [(stores_post hauth hin htakes).1] at h
    cases h
  | _ => trivial

theorem respects_of_idle {s : TwinContractServer} {op : Op} (hstores : s.stores op = none)
    (hkept : ∀ id stored, s.get id = some stored → stored.disabled = true → (s.apply op).get id = some stored) :
    Respects s op := by
  refine ⟨fun twin stored hst => ?_, hkept⟩
  rw [hstores] at hst
  cases hst

/-- One operation respects the stored twins just when it is well aimed. -/
theorem respects_iff {s : TwinContractServer} (h : Marked s) (op : Op) : Respects s op ↔ WellAimed s op := by
  rcases apply_cases s op with ⟨req, twin, rfl, hauth, hin, htakes, hstores, heq⟩ | ⟨deviceId, hstores, heq⟩ |
    ⟨hstores, heq⟩
  · have hdisabled := (takes_iff.mp htakes).1
    refine ⟨fun hr twin' _ hin' _ => ?_, fun hw => ?_⟩
    · obtain rfl := Except.ok.inj (hin.symm.trans hin')
      refine takes_iff.mpr ⟨hdisabled, fun stored hget => ⟨?_, hr.newer (synced twin) stored hstores hget⟩⟩
      by_contra hdis
      have hkept := hr.kept (synced twin).drawerId stored hget (by simpa using hdis)
      rw [heq, get_store, if_pos rfl] at hkept
      obtain rfl := Option.some.inj hkept
      exact hdis hdisabled
    · have hown := (takes_iff.mp (hw twin hauth hin htakes)).2
      refine ⟨fun twin' stored hst hget => ?_, fun id stored hget hdis => ?_⟩
      · obtain rfl := Option.some.inj (hstores.symm.trans hst)
        exact (hown stored hget).2
      · rw [heq, get_store, if_neg]
        · exact hget
        · rintro rfl
          rw [(hown stored hget).1] at hdis
          cases hdis
  · have hr : Respects s op := by
      refine respects_of_idle hstores fun id stored hget hdis => ?_
      rw [heq, get_disableDevice, hget, Option.map_some, disabledTwin_disabled hdis (h id stored hget hdis)]
    exact iff_of_true hr (wellAimed_of_idle hstores)
  · have hr : Respects s op := respects_of_idle hstores fun id stored hget _ => by rw [heq, hget]
    exact iff_of_true hr (wellAimed_of_idle hstores)

/-- In every run from an empty server the stored twins only give way to newer ones, and the disabled ones to none, if
and only if no accepted push carries a twin that the checks refuse under its own id. -/
theorem respects_run_iff (bearerToken : String) (ops : List Op) :
    Meets Respects apply ⟨bearerToken, ∅⟩ ops ↔ Meets WellAimed apply ⟨bearerToken, ∅⟩ ops := by
  refine meets_congr (fun s op h => Marked.apply h op) (fun s op h => respects_iff h op) ?_ ops
  intro id stored hget
  simp [get] at hget

/-- A push to the path `id` of the twin `drawerId`. -/
def push (id drawerId : String) (revision : Int32) : Op :=
  .postTwin { id, body := .ok (.obj [("twin", DrawerTwin.toJson { drawerId, deviceId := "dev-1", revision })]) }

/-- A push whose body names the drawer in its path is well aimed. -/
theorem wellAimed_of_named (s : TwinContractServer) (req : Request)
    (h : ∀ twin, incoming req = .ok twin → twin.drawerId = req.id) : WellAimed s (.postTwin req) := by
  intro twin _ hin htakes
  rwa [h twin hin]

/-- The drawer is disabled at revision 5, and a push to another path brings it back at revision 1. -/
theorem disabled_twin_replaced : ¬ Meets Respects apply ⟨"", ∅⟩
    [push "a" "a" 5, .disableDevice "dev-1", push "b" "a" 1] := by
  intro h
  set s := apply (apply ⟨"", ∅⟩ (push "a" "a" 5)) (.disableDevice "dev-1") with hs
  have hbefore : (s.get "a").map DrawerTwin.disabled = some true := by decide +kernel
  have hafter : ((s.apply (push "b" "a" 1)).get "a").map DrawerTwin.disabled = some false := by decide +kernel
  obtain ⟨stored, hget, hdis⟩ := Option.map_eq_some_iff.mp hbefore
  rw [h.2.2.1.kept "a" stored hget hdis, Option.map_some, hdis] at hafter
  cases hafter

end Drawer.Twin.TwinContractServer
