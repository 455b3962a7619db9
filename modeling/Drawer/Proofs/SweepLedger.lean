import Drawer.Proofs.LostSweep

/-! The books of a merchant's drawer. Whatever fails while webhooks are delivered, a drawer holds
what its ledger says: an entry and its amount are written together or not at all, and only after the
id of the event has been taken. -/

namespace Drawer.Sweep
open Db

variable {number : Json String → Option Int}

/-- What the ledger owes to the deliveries `ds`: its entries are sweeps of events among them, each of an event of its
own whose id the database knows. -/
structure Booked (number : Json String → Option Int) (db₀ : Db) (ds : List Delivery) (db : Db) (made : List (String × Due)) :
    Prop where
  ledger : db.ledger = made.map fun x => x.2.entry
  nodup : (made.map Prod.fst).Nodup
  called : ∀ x ∈ made, ∃ d ∈ ds, ∃ event, accepted d = some (x.1, event) ∧ due number db₀ event = some x.2
  known : ∀ x ∈ made, (db.webhookEvents.lookup x.1).isSome = true
  rule : ∀ m, db.ruleOf m = db₀.ruleOf m
  balanced : ∀ m, db.balanceOf m = ((db.sweepsOf m).map LedgerEntry.amountCents).sum

theorem booked_fresh {db : Db} (h : db.Fresh) : Booked number db [] db [] where
  ledger := h.ledger
  nodup := List.nodup_nil
  called x hx := by cases hx
  known x hx := by cases hx
  rule _ := rfl
  balanced m := by
    rw [h.balance, sweepsOf, h.ledger]
    rfl

/-- The sweep of a new event, if any is made, is booked under its id. -/
theorem Booked.made {db₀ db db' : Db} {ds : List Delivery} {made : List (String × Due)} (h : Booked number db₀ ds db made)
    {d : Delivery} {i type : String} {event : Json String} {x : Option Due} (hacc : accepted d = some (i, event))
    (hnew : db.webhookEvents.lookup i = none) (hmade : Made (stored db i type) db' x)
    (hdue : ∀ y, x = some y → due number db event = some y) :
    Booked number db₀ (ds ++ [d]) db' (made ++ x.toList.map fun y => (i, y)) where
  ledger := by
    rw [hmade.ledger, List.map_append, ← h.ledger, List.map_map]
    rfl
  nodup := by
    have hold : i ∉ made.map Prod.fst := by
      intro hmem
      obtain ⟨y, hy, rfl⟩ := List.mem_map.mp hmem
      have hknown := h.known y hy
      rw [hnew] at hknown
      cases hknown
    cases x with
    | none => simpa using h.nodup
    | some y =>
      rw [List.map_append]
      refine List.nodup_append.mpr ⟨h.nodup, List.nodup_singleton i, fun a ha b hb hab => ?_⟩
      obtain rfl : b = i := List.mem_singleton.mp hb
      exact hold (hab ▸ ha)
  called y hy := by
    rcases List.mem_append.mp hy with hy | hy
    · obtain ⟨d', hd', event', hacc', hdue'⟩ := h.called y hy
      exact ⟨d', List.mem_append_left _ hd', event', hacc', hdue'⟩
    · obtain ⟨z, hz, rfl⟩ := List.mem_map.mp hy
      have hx : x = some z := Option.mem_toList.mp hz
      exact ⟨d, List.mem_concat_self, event, hacc, by rw [← due_congr h.rule]; exact hdue z hx⟩
  known y hy := by
    rw [hmade.events, stored, Dict.lookup_insert_if]
    split_ifs with hi
    · rfl
    · rcases List.mem_append.mp hy with hy | hy
      · exact h.known y hy
      · obtain ⟨z, -, rfl⟩ := List.mem_map.mp hy
        exact absurd rfl hi
  rule m := (hmade.rule m).trans (h.rule m)
  balanced m := by
    rw [hmade.balance, sweepsOf_append _ _ _ hmade.ledger]
    exact congrArg (· + _) (h.balanced m)

theorem Booked.idle {db₀ db : Db} {ds : List Delivery} {made : List (String × Due)} (h : Booked number db₀ ds db made)
    (d : Delivery) : Booked number db₀ (ds ++ [d]) db made :=
  { h with called := fun x hx =>
      let ⟨d', hd', hrest⟩ := h.called x hx
      ⟨d', List.mem_append_left _ hd', hrest⟩ }

theorem Booked.post {db₀ db : Db} {ds : List Delivery} {made : List (String × Due)} (h : Booked number db₀ ds db made)
    (d : Delivery) : ∃ made', Booked number db₀ (ds ++ [d]) (Sweep.post number db d).1 made' := by
  rcases @post_spec number db d with ⟨-, hsame⟩ | ⟨event, s', hsigned, hpayload, hdb, hcase⟩
  · rw [hsame]
    exact ⟨made, h.idle d⟩
  · rw [hdb]
    cases hcase with
    | idle same _ _ =>
      rw [same]
      exact ⟨made, h.idle d⟩
    | made i type hid hnew hmade =>
      exact ⟨_, h.made (accepted_eq_some.mpr ⟨hsigned, hpayload, hid⟩) hnew hmade fun y hy => hy⟩
    | stopped i type hid hnew _ _ hkept _ =>
      exact ⟨_, h.made (accepted_eq_some.mpr ⟨hsigned, hpayload, hid⟩) hnew hkept.made fun y hy => by cases hy⟩

theorem booked_deliver {db : Db} (hfresh : db.Fresh) (ds : List Delivery) :
    ∃ made, Booked number db ds (deliver number db ds) made := by
  induction ds using List.reverseRecOn with
  | nil => exact ⟨[], booked_fresh hfresh⟩
  | append_singleton ds d ih =>
    obtain ⟨made, h⟩ := ih
    rw [deliver, List.foldl_append]
    exact h.post d

theorem due_pos {db : Db} {event : Json String} {x : Due} (h : due number db event = some x) : 0 < x.cents := by
  unfold due at h
  split_ifs at h
  obtain ⟨p, -, hx⟩ := Option.bind_eq_some_iff.mp h
  unfold dueOf at hx
  dsimp only at hx
  split_ifs at hx with hpos
  obtain rfl := Option.some.inj hx
  exact hpos

/-- Whichever calls on the database fail and whatever is delivered how often, a drawer holds the sum of the sweeps in its
ledger, all of them positive, and the ledger has at most one for each event id, the one the event calls for. -/
theorem books_balance (number : Json String → Option Int) {db : Db} (hfresh : db.Fresh) (ds : List Delivery) :
    (∀ drawer, (deliver number db ds).balanceOf drawer =
      (((deliver number db ds).sweepsOf drawer).map LedgerEntry.amountCents).sum) ∧
    (∀ e ∈ (deliver number db ds).ledger, 0 < e.amountCents) ∧
    ∃ made : List (String × Due), (deliver number db ds).ledger = made.map (fun x => x.2.entry) ∧
      (made.map Prod.fst).Nodup ∧
      ∀ x ∈ made, ∃ d ∈ ds, ∃ event, accepted d = some (x.1, event) ∧ due number db event = some x.2 := by
  obtain ⟨made, h⟩ := @booked_deliver number db hfresh ds
  refine ⟨h.balanced, fun e he => ?_, made, h.ledger, h.nodup, h.called⟩
  rw [h.ledger] at he
  obtain ⟨x, hx, rfl⟩ := List.mem_map.mp he
  obtain ⟨_, _, _, _, hdue⟩ := h.called x hx
  exact due_pos hdue

/-- The first delivery fails after its event got its row, and the other two are of one more event. -/
def faulty : List Delivery :=
  [{ delivery "e-1" "payment.created" "p-1" with faults := [false, false, false, false, false, false, false, true] },
    delivery "e-2" "payment.created" "p-2", delivery "e-2" "payment.created" "p-2"]

theorem books_balance_faulty : (deliver integerNumber {} faulty).balanceOf "merchant-1" = 10 ∧
    (deliver integerNumber {} faulty).balanceOf "merchant-1" =
      (((deliver integerNumber {} faulty).sweepsOf "merchant-1").map LedgerEntry.amountCents).sum :=
  ⟨by decide +kernel, (books_balance integerNumber fresh_empty faulty).1 "merchant-1"⟩

end Drawer.Sweep
