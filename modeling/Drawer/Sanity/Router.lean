import Drawer.Sanity.Store
import Drawer.Spec.Router

/-! A call of the router that runs alone, from its steps to its result, and what
a step of one of several calls changes. -/

namespace Drawer.Pos.Router
open Text Journal IdempotencyStore

theorem iterate_replied (c : Call) (sh : Shared) (status : Int) (body : Bytes) (n : ℕ) :
    (fun p : Shared × Pc => step c p.1 p.2)^[n] (sh, .replied status body) = (sh, .replied status body) :=
  Function.iterate_fixed rfl n

theorem iterate_threw (c : Call) (sh : Shared) (e : Exn) (n : ℕ) :
    (fun p : Shared × Pc => step c p.1 p.2)^[n] (sh, .threw e) = (sh, .threw e) :=
  Function.iterate_fixed rfl n

theorem handle_of_mismatch {c : Call} {sh : Shared} (h : (sh.store.check c.key c.hash).1 = .mismatch) :
    handle c sh = (sh, .replied 409 mismatchJson) := by
  have h1 : step c sh .start = (sh, .replied 409 mismatchJson) := by
    obtain ⟨r, hr⟩ : ∃ r, sh.store.check c.key c.hash = (.mismatch, r) := ⟨_, Prod.ext h rfl⟩
    simp only [step, hr]
  rw [handle, Function.iterate_succ_apply, h1, iterate_replied]

theorem handle_of_pending {c : Call} {sh : Shared} (h : (sh.store.check c.key c.hash).1 = .pending) :
    handle c sh = (sh, .replied 202 pendingJson) := by
  have h1 : step c sh .start = (sh, .replied 202 pendingJson) := by
    obtain ⟨r, hr⟩ : ∃ r, sh.store.check c.key c.hash = (.pending, r) := ⟨_, Prod.ext h rfl⟩
    simp only [step, hr]
  rw [handle, Function.iterate_succ_apply, h1, iterate_replied]

theorem handle_of_matchDone {c : Call} {sh : Shared} {r : Option IdemRec}
    (h : sh.store.check c.key c.hash = (.matchDone, r)) :
    handle c sh = (sh, .replied 200 (r.getD {}).resultJson) := by
  have h1 : step c sh .start = (sh, .replied 200 (r.getD {}).resultJson) := by simp only [step, h]
  rw [handle, Function.iterate_succ_apply, h1, iterate_replied]

theorem start_of_new {c : Call} {sh : Shared} (h : (sh.store.check c.key c.hash).1 = .new) :
    step c sh .start = (sh, .passed) := by
  obtain ⟨r, hr⟩ : ∃ r, sh.store.check c.key c.hash = (.new, r) := ⟨_, Prod.ext h rfl⟩
  simp only [step, hr]

/-- A call that takes the busy flag. -/
theorem handle_of_free {c : Call} {sh : Shared} (h : (sh.store.check c.key c.hash).1 = .new)
    (hb : sh.busy = false) :
    handle c sh =
      match sh.store.putPending c.key c.hash c.pendingAt with
      | (store, .error e) => (⟨store, true⟩, .threw e)
      | (store, .ok ()) =>
        match c.engine with
        | .error e => (⟨store, true⟩, .threw e)
        | .ok t =>
          match store.putDone c.key c.hash (successJson t) c.doneAt with
          | (store', .error e) => (⟨store', false⟩, .threw e)
          | (store', .ok ()) => (⟨store', false⟩, .replied 200 (successJson t)) := by
  have h2 : step c sh .passed = (⟨sh.store, true⟩, .acquired) := if_neg (by simp [hb])
  rw [handle, Function.iterate_succ_apply, start_of_new h, Function.iterate_succ_apply, h2,
    Function.iterate_succ_apply]
  rcases hput : sh.store.putPending c.key c.hash c.pendingAt with ⟨store, e | ⟨⟩⟩
  · have h3 : step c ⟨sh.store, true⟩ .acquired = (⟨store, true⟩, .threw e) := by simp only [step, hput]
    rw [h3, iterate_threw]
  have h3 : step c ⟨sh.store, true⟩ .acquired = (⟨store, true⟩, .pended) := by simp only [step, hput]
  rw [h3, Function.iterate_succ_apply]
  rcases heng : c.engine with e | t
  · have h4 : step c ⟨store, true⟩ .pended = (⟨store, true⟩, .threw e) := by simp only [step, heng]
    rw [h4, iterate_threw]
  have h4 : step c ⟨store, true⟩ .pended = (⟨store, true⟩, .ran t) := by simp only [step, heng]
  have h5 : step c ⟨store, true⟩ (.ran t) = (⟨store, false⟩, .cleared t) := rfl
  have h6 : step c ⟨store, false⟩ (.cleared t) = (⟨store, false⟩, .published t) := by
    simp only [step]
    cases c.publisher <;> rfl
  rw [h4, Function.iterate_succ_apply, h5, Function.iterate_succ_apply, h6, Function.iterate_succ_apply]
  rcases hdone : store.putDone c.key c.hash (successJson t) c.doneAt with ⟨store', e | ⟨⟩⟩ <;>
    simp only [step, hdone, Function.iterate_zero, id]

theorem handle_of_busy {c : Call} {sh : Shared} (h : (sh.store.check c.key c.hash).1 = .new) (hb : sh.busy = true) :
    handle c sh = (sh, .replied 409 busyJson) := by
  have h2 : step c sh .passed = (sh, .replied 409 busyJson) := if_pos hb
  rw [handle, Function.iterate_succ_apply, start_of_new h, Function.iterate_succ_apply, h2, iterate_replied]

/-- A call leaves the store as it was, or puts its key on pending, or finishes it with what the engine returned. -/
theorem handle_store (c : Call) (sh : Shared) :
    (handle c sh).1.store = sh.store ∨
    (handle c sh).1.store = (sh.store.putPending c.key c.hash c.pendingAt).1 ∨
    ∃ t, c.engine = .ok t ∧ (handle c sh).1.store =
      ((sh.store.putPending c.key c.hash c.pendingAt).1.putDone c.key c.hash (successJson t) c.doneAt).1 := by
  cases hc : (sh.store.check c.key c.hash).1 with
  | mismatch => exact Or.inl (by rw [handle_of_mismatch hc])
  | pending => exact Or.inl (by rw [handle_of_pending hc])
  | matchDone => exact Or.inl (by rw [handle_of_matchDone (r := (sh.store.check c.key c.hash).2) (Prod.ext hc rfl)])
  | new =>
    cases hb : sh.busy with
    | true => exact Or.inl (by rw [handle_of_busy hc hb])
    | false =>
      right
      rw [handle_of_free hc hb]
      rcases sh.store.putPending c.key c.hash c.pendingAt with ⟨store, e | ⟨⟩⟩
      · exact Or.inl rfl
      cases c.engine with
      | error e => exact Or.inl rfl
      | ok t =>
        refine Or.inr ⟨t, rfl, ?_⟩
        dsimp only
        rcases store.putDone c.key c.hash (successJson t) c.doneAt with ⟨store', e | ⟨⟩⟩ <;> rfl

/-- What holds of a call after `i` moved to `p` held of `p`, or of a call that did not move. -/
theorem update_cases {ι : Type} [DecidableEq ι] {P : Pc → Prop} {pc : ι → Pc} {i j : ι} {p : Pc} (h : P (Function.update pc i p j)) :
    (j = i ∧ P p) ∨ (j ≠ i ∧ P (pc j)) := by
  by_cases hji : j = i
  · subst hji
    exact Or.inl ⟨rfl, by rwa [Function.update_self] at h⟩
  · exact Or.inr ⟨hji, by rwa [Function.update_of_ne hji] at h⟩

end Drawer.Pos.Router
