import Drawer.Sanity.Router

/-! The busy flag over one call. It is set by hand before `put_pending` and
cleared by hand after `run_purchase`, so an exception out of either leaves it
set; everything that can raise later finds it cleared. -/

namespace Drawer.Pos.Router
open Text Journal IdempotencyStore

theorem valid_hash (c : Call) : validUtf8 c.hash = true := by
  refine validUtf8_of_ascii fun b hb => ?_
  simp only [Call.hash, payloadHash, List.mem_append] at hb
  rcases hb with (hb | hb) | hb
  · exact lt_of_mem_decimal hb
  · revert b
    decide +kernel
  · exact lt_of_mem_decimal hb

theorem putPending_result (s : IdempotencyStore) (c : Call) :
    (s.putPending c.key c.hash c.pendingAt).2 = .ok () ↔ validUtf8 c.key = true := by
  rw [putPending, writeLine_result]
  simp [valid_hash c]

theorem putDone_result (s : IdempotencyStore) (c : Call) (result : Bytes) :
    (s.putDone c.key c.hash result c.doneAt).2 = .ok () ↔ validUtf8 c.key = true ∧ validUtf8 result = true := by
  rw [putDone, writeLine_result]
  simp [valid_hash c]

/-- A call that found the flag free leaves it free exactly if it was answered from the store, or
its key could be logged and the engine returned. -/
theorem busy_released_iff (c : Call) (sh : Shared) (hb : sh.busy = false) :
    (handle c sh).1.busy = false ↔
      (sh.store.check c.key c.hash).1 ≠ .new ∨ (validUtf8 c.key = true ∧ ∃ t, c.engine = .ok t) := by
  cases hc : (sh.store.check c.key c.hash).1 with
  | mismatch => simp [handle_of_mismatch hc, hb]
  | pending => simp [handle_of_pending hc, hb]
  | matchDone =>
    have hd : sh.store.check c.key c.hash = (.matchDone, (sh.store.check c.key c.hash).2) := Prod.ext hc rfl
    simp [handle_of_matchDone hd, hb]
  | new =>
    have hok := putPending_result sh.store c
    rw [handle_of_free hc hb]
    rcases hput : sh.store.putPending c.key c.hash c.pendingAt with ⟨store, e | ⟨⟩⟩
    · have hk : ¬ validUtf8 c.key = true := fun hk => by simpa [hput] using hok.mpr hk
      simp [hk]
    · have hk : validUtf8 c.key = true := hok.mp (by rw [hput])
      cases c.engine with
      | error e => simp
      | ok t =>
        rcases hdone : store.putDone c.key c.hash (successJson t) c.doneAt with ⟨store', e | ⟨⟩⟩ <;> simp [hk, hdone]

/-- A call the engine completes. -/
def sampleCall (key : Bytes) : Call := { req := ⟨100, 200, key⟩, engine := .ok {} }

theorem busy_released_iff_ascii_key :
    (handle (sampleCall (ascii "k")) ⟨{ ttlNs := 0 }, false⟩).1.busy = false :=
  (busy_released_iff (sampleCall (ascii "k")) ⟨{ ttlNs := 0 }, false⟩ rfl).mpr (Or.inr ⟨by decide, {}, rfl⟩)

/-- The key is the one byte 255: logging it raises, and the flag stays set. -/
theorem busy_leaked_by_invalid_key :
    ¬ ∀ (c : Call) (sh : Shared), sh.busy = false → (handle c sh).1.busy = false := by
  intro hclaim
  have hbad := hclaim (sampleCall [0xFF]) ⟨{ ttlNs := 0 }, false⟩ rfl
  revert hbad
  decide

end Drawer.Pos.Router
