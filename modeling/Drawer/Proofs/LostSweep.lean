import Drawer.Proofs.DoubleSweep

/-! Sweeps that are owed. An event is stored before its sweep is made, and a
stored event is answered 200 without more. So a sweep is lost just where a call
fails between the two; as long as none does, every event that is known has its
sweep in the ledger. -/

namespace Drawer.Sweep
open Db Transition

variable {number : Json String → Option Int}

/-- Deliveries with one event id are deliveries of one event. -/
def Redelivered (ds : List Delivery) : Prop :=
  ∀ d ∈ ds, ∀ d' ∈ ds, ∀ i event event', accepted d = some (i, event) → accepted d' = some (i, event') → event = event'

/-- No delivery is stopped between storing its event and making the sweep. -/
def Uninterrupted (number : Json String → Option Int) (db : Db) (ds : List Delivery) : Prop :=
  Meets (fun db d => interrupted number db d = false) (fun db d => (post number db d).1) db ds

instance (db : Db) (ds : List Delivery) : Decidable (Uninterrupted number db ds) := Meets.decidable _ _ _ _

/-- What the database knows of the deliveries `ds`, begun with `db₀`. -/
structure Sound (number : Json String → Option Int) (db₀ : Db) (ds : List Delivery) (db : Db) : Prop where
  rule : ∀ m, db.ruleOf m = db₀.ruleOf m
  balanced : ∀ m, db.balanceOf m = ((db.sweepsOf m).map LedgerEntry.amountCents).sum
  swept : ∀ d ∈ ds, ∀ i event, accepted d = some (i, event) → (db.webhookEvents.lookup i).isSome = true →
    ∀ x, due number db₀ event = some x → x.entry ∈ db.ledger

theorem sound_fresh {db : Db} (h : db.Fresh) (ds : List Delivery) : Sound number db ds db := by
  refine ⟨fun _ => rfl, fun m => ?_, fun d _ i event _ hknown => ?_⟩
  · rw [h.balance, sweepsOf, h.ledger]
    rfl
  · rw [h.events] at hknown
    simp at hknown

theorem sweepsOf_append (db db' : Db) (x : Option Due) (h : db'.ledger = db.ledger ++ x.toList.map Due.entry)
    (m : String) : ((db'.sweepsOf m).map LedgerEntry.amountCents).sum =
      ((db.sweepsOf m).map LedgerEntry.amountCents).sum +
        ((x.toList.filter fun x => x.drawer = m).map Due.cents).sum := by
  rw [sweepsOf, h, List.filter_append, List.map_append, List.sum_append, sweepsOf, List.filter_map, List.map_map]
  simp only [Function.comp_def, Due.entry, decide_true, Bool.and_true]
  rfl

theorem stopped_interrupted {db : Db} {d : Delivery} {i : String} {event : Json String} {x : Due}
    (hacc : accepted d = some (i, event)) (hnew : db.webhookEvents.lookup i = none)
    (hok : ∀ k < 2, ¬ Fails ⟨db, d.faults⟩ k) (hx : due number db event = some x) {k : ℕ}
    (hk : k < handlerCalls db x.drawer) (hf : Fails ⟨db, d.faults⟩ (2 + k)) : interrupted number db d = true := by
  have htake : true ∉ d.faults.take 2 := by
    intro hmem
    obtain ⟨j, hj⟩ := List.mem_iff_getElem?.mp hmem
    rw [List.getElem?_take] at hj
    split_ifs at hj with hlt
    exact hok j hlt hj
  have hdrop : true ∈ (d.faults.drop 2).take (handlerCalls db x.drawer) := by
    rw [List.mem_iff_getElem?]
    refine ⟨k, ?_⟩
    rw [List.getElem?_take, if_pos hk, List.getElem?_drop]
    exact hf
  simp [interrupted, hacc, hx, hnew, htake, hdrop]

/-- One delivery keeps the database sound, and is answered 200 only if its event is known by then. -/
theorem Sound.post {db₀ db : Db} {ds : List Delivery} (hs : Sound number db₀ ds db) (hsame : Redelivered ds)
    {d : Delivery} (hd : d ∈ ds) (hg : interrupted number db d = false) :
    Sound number db₀ ds (post number db d).1 ∧ ((post number db d).2.status = 200 → ∀ i event,
      accepted d = some (i, event) → ((Sweep.post number db d).1.webhookEvents.lookup i).isSome = true) := by
  rcases @post_spec number db d with ⟨hnone, heq⟩ | ⟨event, s', hsigned, hpayload, hdb, hcase⟩
  · rw [heq]
    exact ⟨hs, fun _ i event hacc => by rw [hnone] at hacc; cases hacc⟩
  · rw [hdb]
    have hacc_event : ∀ i event', accepted d = some (i, event') → event' = event ∧ storedId event = some i := by
      intro i event' hacc
      obtain ⟨-, hp, hid⟩ := accepted_eq_some.mp hacc
      obtain rfl := Option.some.inj (hpayload.symm.trans hp)
      exact ⟨rfl, hid⟩
    -- a new event is stored, and if its sweep is due it is in the ledger
    have hstored : ∀ i type x, storedId event = some i → Made (stored db i type) s'.db x →
        (∀ y, due number db₀ event = some y → x = some y) →
        Sound number db₀ ds s'.db ∧ (s'.db.webhookEvents.lookup i).isSome = true := by
      intro i type x hid hmade hdue
      have hevents : ∀ j, s'.db.webhookEvents.lookup j = if j = i then some type else db.webhookEvents.lookup j := by
        intro j
        rw [hmade.events, stored, Dict.lookup_insert_if]
      refine ⟨⟨fun m => (hmade.rule m).trans (hs.rule m), fun m => ?_, fun d' hd' j event' hacc' hknown y hy => ?_⟩, ?_⟩
      · rw [hmade.balance, sweepsOf_append _ _ _ hmade.ledger]
        exact congrArg (· + _) (hs.balanced m)
      · rw [hmade.ledger, List.mem_append]
        rw [hevents] at hknown
        split_ifs at hknown with hj
        · subst hj
          obtain rfl := hsame d' hd' d hd j _ _ hacc' (accepted_eq_some.mpr ⟨hsigned, hpayload, hid⟩)
          rw [hdue y hy]
          exact Or.inr (by simp)
        · exact Or.inl (hs.swept d' hd' j event' hacc' hknown y hy)
      · rw [hevents, if_pos rfl]
        rfl
    have hdue : due number db₀ event = due number db event := (due_congr hs.rule event).symm
    cases hcase with
    | idle same known missed =>
      rw [same]
      refine ⟨hs, fun h200 i event' hacc => ?_⟩
      obtain ⟨-, hid⟩ := hacc_event i event' hacc
      exact known h200 i hid
    | made i type hid hnew hmade =>
      obtain ⟨hsound, hknown⟩ := hstored i type _ hid hmade fun y hy => hdue.symm.trans hy
      refine ⟨hsound, fun _ j event' hacc => ?_⟩
      obtain ⟨-, hj⟩ := hacc_event j event' hacc
      obtain rfl := Option.some.inj (hj.symm.trans hid)
      exact hknown
    | stopped i type hid hnew hstatus hok hkept hfail =>
      have hnone : due number db event = none := by
        by_contra hne
        obtain ⟨x, hx⟩ := Option.ne_none_iff_exists'.mp hne
        obtain ⟨k, hk, hf⟩ := hfail x hx
        have := stopped_interrupted (accepted_eq_some.mpr ⟨hsigned, hpayload, hid⟩) hnew hok hx hk hf
        rw [hg] at this
        cases this
      refine ⟨(hstored i type none hid hkept.made fun y hy => ?_).1, fun h200 => ?_⟩
      · rw [hdue, hnone] at hy
        cases hy
      · rw [hstatus] at h200
        cases h200

theorem sound_deliver {db₀ : Db} {ds before : List Delivery} (hfresh : db₀.Fresh) (hsame : Redelivered ds)
    (hsub : ∀ d ∈ before, d ∈ ds) (h : Uninterrupted number db₀ before) :
    Sound number db₀ ds (deliver number db₀ before) := by
  induction before using List.reverseRecOn with
  | nil => exact sound_fresh hfresh ds
  | append_singleton before d ih =>
    rw [Uninterrupted, meets_append] at h
    have hbefore := ih (fun d' hd' => hsub d' (List.mem_append_left _ hd')) h.1
    rw [deliver, List.foldl_append]
    exact (hbefore.post hsame (hsub d (by simp)) h.2.1).1

/-- As long as no delivery is stopped between storing its event and making the sweep, an answer 200 means that the
sweep the event calls for is in the ledger and in the balance. -/
theorem noLostSweep (number : Json String → Option Int) (db : Db) (hfresh : db.Fresh) (ds : List Delivery)
    (hsame : Redelivered ds) (h : Uninterrupted number db ds) : NoLostSweep number db ds := by
  intro before d after hds h200 i event hacc x hx
  rw [Uninterrupted, hds, meets_append] at h
  have hmem : ∀ d' ∈ before ++ [d], d' ∈ ds := by
    intro d' hd'
    rw [hds]
    simp only [List.mem_append, List.mem_cons] at hd' ⊢
    tauto
  have hsound := sound_deliver hfresh hsame (fun d' hd' => hmem d' (List.mem_append_left _ hd')) h.1
  obtain ⟨hafter, hknown⟩ := hsound.post hsame (hmem d (by simp)) h.2.1
  exact ⟨hafter.swept d (hmem d (by simp)) i event hacc (hknown h200 i event hacc) x hx, hafter.balanced x.drawer⟩

/-- The event's row cannot be written, and on the next delivery it can. -/
def retried : List Delivery :=
  [{ delivery "e-1" "payment.created" "p-1" with faults := [false, true] }, delivery "e-1" "payment.created" "p-1"]

theorem noLostSweep_retried : Uninterrupted integerNumber {} retried ∧ NoLostSweep integerNumber {} retried := by
  have h : Uninterrupted integerNumber {} retried := by decide +kernel
  refine ⟨h, noLostSweep integerNumber {} fresh_empty retried ?_ h⟩
  intro d hd d' hd' i event event' hacc hacc'
  obtain ⟨-, hp, -⟩ := accepted_eq_some.mp hacc
  obtain ⟨-, hp', -⟩ := accepted_eq_some.mp hacc'
  have hall : ∀ d ∈ retried, d.payload = some (paymentEvent "e-1" "payment.created" "p-1") := by
    simp [retried, delivery]
  exact Option.some.inj (hp.symm.trans ((hall d hd).trans ((hall d' hd').symm.trans hp')))

/-- The last call of the first delivery fails, after the event got its row: the second delivery is answered 200, and
nothing was swept. -/
theorem sweep_lost :
    ¬ NoLostSweep integerNumber {} [{ delivery "e-1" "payment.created" "p-1" with
      faults := [false, false, false, false, false, false, false, true] }, delivery "e-1" "payment.created" "p-1"] := by
  intro h
  have hrec := h [{ delivery "e-1" "payment.created" "p-1" with
    faults := [false, false, false, false, false, false, false, true] }] (delivery "e-1" "payment.created" "p-1") []
    rfl (by decide +kernel) "e-1" (paymentEvent "e-1" "payment.created" "p-1") rfl ⟨"merchant-1", "p-1", 10⟩
    (by decide +kernel)
  have hmem := hrec.1
  revert hmem
  decide +kernel

end Drawer.Sweep
