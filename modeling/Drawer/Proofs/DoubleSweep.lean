import Drawer.Sanity.Sweep

/-! Sweeps of one payment. A delivery is known by the id of its event, and the
money it moves by the id of its payment; the ledger holds one sweep for each
event id, so it holds one for each payment exactly if no two events are about
the same payment. -/

namespace Drawer.Sweep
open Db

variable {number : Json String → Option Int}

/-- The database works: no call fails. -/
def Works (ds : List Delivery) : Prop := ∀ d ∈ ds, true ∉ d.faults

theorem not_fails {d : Delivery} (h : true ∉ d.faults) (db : Db) (k : ℕ) : ¬ Fails ⟨db, d.faults⟩ k :=
  fun hf => h (List.mem_of_getElem? hf)

/-- Without failures a delivery stores a new event and makes its sweep, or changes nothing. -/
theorem post_works (db : Db) {d : Delivery} (h : true ∉ d.faults) :
    ((post number db d).1 = db ∧ ∀ i event, accepted d = some (i, event) → (db.webhookEvents.lookup i).isSome = true) ∨
    ∃ i event type, accepted d = some (i, event) ∧ db.webhookEvents.lookup i = none ∧
      Made (stored db i type) (post number db d).1 (due number db event) := by
  rcases @post_spec number db d with ⟨hnone, hsame⟩ | ⟨event, s', hsigned, hpayload, hdb, hcase⟩
  · exact Or.inl ⟨hsame, fun i event hacc => by rw [hnone] at hacc; cases hacc⟩
  · rw [hdb]
    cases hcase with
    | idle same known missed =>
      refine Or.inl ⟨same, fun i event' hacc => ?_⟩
      obtain ⟨-, hp, hid⟩ := accepted_eq_some.mp hacc
      obtain rfl := Option.some.inj (hpayload.symm.trans hp)
      by_contra hnew
      obtain ⟨k, -, hf⟩ := missed i hid (Option.not_isSome_iff_eq_none.mp hnew)
      exact not_fails h db k hf
    | made i type hid hnew hmade =>
      exact Or.inr ⟨i, event, type, accepted_eq_some.mpr ⟨hsigned, hpayload, hid⟩, hnew, hmade⟩
    | stopped i type hid hnew hstatus hok hkept hfail =>
      refine Or.inr ⟨i, event, type, accepted_eq_some.mpr ⟨hsigned, hpayload, hid⟩, hnew, ?_⟩
      have hdue : due number db event = none := by
        by_contra hne
        obtain ⟨x, hx⟩ := Option.ne_none_iff_exists'.mp hne
        obtain ⟨k, -, hf⟩ := hfail x hx
        exact not_fails h db _ hf
      rw [hdue]
      exact hkept.made

theorem called_congr {db db' : Db} (h : ∀ m, db'.ruleOf m = db.ruleOf m) (seen : List String) (ds : List Delivery) :
    called number db' seen ds = called number db seen ds := by
  induction ds generalizing seen with
  | nil => rfl
  | cons d ds ih => simp only [called, due_congr h, ih]

/-- What the ledger and the balances gain is what the events call for, once for each event id. -/
theorem deliver_spec (db : Db) (seen : List String) (hseen : ∀ i, i ∈ seen ↔ (db.webhookEvents.lookup i).isSome = true)
    {ds : List Delivery} (h : Works ds) :
    (deliver number db ds).ledger = db.ledger ++ (called number db seen ds).map Due.entry ∧
    ∀ m, (deliver number db ds).balanceOf m =
      db.balanceOf m + (((called number db seen ds).filter fun x => x.drawer = m).map Due.cents).sum := by
  induction ds generalizing db seen with
  | nil => exact ⟨by simp [deliver, called], fun m => by simp [deliver, called]⟩
  | cons d ds ih =>
    have hds : Works ds := fun d' hd' => h d' (List.mem_cons_of_mem _ hd')
    have hstep : deliver number db (d :: ds) = deliver number (post number db d).1 ds := rfl
    rw [hstep]
    rcases @post_works number db _ (h d List.mem_cons_self) with ⟨hsame, hknown⟩ | ⟨i, event, type, hacc, hnew, hmade⟩
    · have hcalled : called number db seen (d :: ds) = called number db seen ds := by
        cases hacc : accepted d with
        | none => simp [called, hacc]
        | some p => simp [called, hacc, (hseen p.1).mpr (hknown p.1 p.2 hacc)]
      rw [hsame, hcalled]
      exact ih db seen hseen hds
    · have hnot : i ∉ seen := fun hin => by
        rw [hseen, hnew] at hin
        cases hin
      have hcalled : called number db seen (d :: ds) =
          (due number db event).toList ++ called number db (i :: seen) ds := by
        simp [called, hacc, hnot]
      have hseen' : ∀ j, j ∈ i :: seen ↔ ((post number db d).1.webhookEvents.lookup j).isSome = true := by
        intro j
        rw [hmade.events, stored, List.mem_cons, Dict.lookup_insert_if, hseen]
        split_ifs with hj <;> simp [hj]
      obtain ⟨hledger, hbalance⟩ := ih (post number db d).1 (i :: seen) hseen' hds
      have hrule : ∀ m, (post number db d).1.ruleOf m = db.ruleOf m := hmade.rule
      rw [called_congr hrule] at hledger
      simp only [called_congr hrule] at hbalance
      refine ⟨?_, fun m => ?_⟩
      · rw [hledger, hmade.ledger, hcalled, List.map_append, List.append_assoc]
        rfl
      · rw [hbalance, hmade.balance, hcalled, List.filter_append, List.map_append, List.sum_append, Int.add_assoc]
        rfl

theorem distinct_eq_self {l : List Due} (h : (l.map Due.payment).Nodup) : distinct l = l := by
  induction l with
  | nil => rfl
  | cons x l ih =>
    obtain ⟨hx, hl⟩ := List.nodup_cons.mp h
    rw [distinct, ih hl, List.filter_eq_self.mpr]
    intro y hy
    simp only [ne_eq, decide_eq_true_eq]
    exact fun heq => hx (heq ▸ List.mem_map_of_mem hy)

theorem sweepsOf_map (l : List Due) (db : Db) (hledger : db.ledger = l.map Due.entry) (drawer : String) :
    (db.sweepsOf drawer).map LedgerEntry.refId = (l.filter fun x => x.drawer = drawer).map Due.paymentId := by
  rw [sweepsOf, hledger, List.filter_map, List.map_map]
  simp only [Function.comp_def, Due.entry, decide_true, Bool.and_true]
  rfl

/-- Payments are distinct exactly if they are in each drawer. -/
theorem nodup_payments_iff (l : List Due) :
    (l.map Due.payment).Nodup ↔ ∀ drawer, ((l.filter fun x => x.drawer = drawer).map Due.paymentId).Nodup := by
  induction l with
  | nil => simp
  | cons x l ih =>
    rw [List.map_cons, List.nodup_cons, ih]
    refine ⟨fun h drawer => ?_, fun h => ⟨fun hin => ?_, fun drawer => ?_⟩⟩
    · rw [List.filter_cons]
      split_ifs with hx
      · refine List.nodup_cons.mpr ⟨fun hin => h.1 ?_, h.2 drawer⟩
        obtain ⟨y, hy, heq⟩ := List.mem_map.mp hin
        obtain ⟨hyl, hyd⟩ := List.mem_filter.mp hy
        refine List.mem_map.mpr ⟨y, hyl, Prod.ext ?_ heq⟩
        simp only [decide_eq_true_eq] at hx hyd
        exact hyd.trans hx.symm
      · exact h.2 drawer
    · have hd := h x.drawer
      rw [List.filter_cons, if_pos (by simp), List.map_cons, List.nodup_cons] at hd
      obtain ⟨y, hy, heq⟩ := List.mem_map.mp hin
      obtain ⟨h1, h2⟩ := Prod.mk.inj heq
      exact hd.1 (List.mem_map.mpr ⟨y, List.mem_filter.mpr ⟨hy, by simpa using h1⟩, h2⟩)
    · exact (h drawer).sublist (((List.sublist_cons_self x l).filter _).map _)

/-- Delivered to a database that works, events are swept once for each payment, and the drawers hold the sweeps of
the distinct payments, exactly if no two events with different ids call for a sweep of the same payment. -/
theorem noDoubleSweep_iff (number : Json String → Option Int) (db : Db) (hfresh : db.Fresh) (ds : List Delivery)
    (hworks : Works ds) : NoDoubleSweep number db ds ↔ ((called number db [] ds).map Due.payment).Nodup := by
  have hseen : ∀ i, i ∈ ([] : List String) ↔ (db.webhookEvents.lookup i).isSome = true := by
    intro i
    rw [hfresh.events]
    simp
  obtain ⟨hledger, hbalance⟩ := @deliver_spec number db [] hseen ds hworks
  rw [hfresh.ledger, List.nil_append] at hledger
  rw [nodup_payments_iff]
  refine ⟨fun h drawer => ?_, fun h drawer => ⟨?_, ?_⟩⟩
  · rw [← sweepsOf_map _ _ hledger]
    exact (h drawer).1
  · rw [sweepsOf_map _ _ hledger]
    exact h drawer
  · rw [distinct_eq_self ((nodup_payments_iff _).mpr h), hbalance, hfresh.balance, Int.zero_add]

/-! ### Two events about one payment -/

/-- `Number(..)` of a JSON integer. -/
def integerNumber : Json String → Option Int
  | .int n => some n
  | _ => none

/-- An event about a payment of ten dollars, as Square sends it. -/
def paymentEvent (id type paymentId : String) : Json String :=
  .obj [("event_id", .str id), ("type", .str type), ("merchant_id", .str "merchant-1"),
    ("data", .obj [("object", .obj [("payment", .obj [("id", .str paymentId),
      ("amount_money", .obj [("amount", .int 1000), ("currency", .str "USD")])])])])]

def delivery (id type paymentId : String) : Delivery := { payload := some (paymentEvent id type paymentId) }

theorem fresh_empty : Db.Fresh {} := ⟨rfl, fun _ => rfl, rfl⟩

/-- Two payments, the event of the first delivered twice. -/
theorem noDoubleSweep_redelivered :
    NoDoubleSweep integerNumber {} [delivery "e-1" "payment.created" "p-1", delivery "e-1" "payment.created" "p-1",
      delivery "e-2" "payment.created" "p-2"] := by
  refine (noDoubleSweep_iff integerNumber {} fresh_empty _ ?_).mpr ?_
  · simp [Works, delivery]
  · decide +kernel

/-- The payment is created and then updated: two events, and it is swept twice. -/
theorem payment_swept_twice :
    ¬ NoDoubleSweep integerNumber {}
      [delivery "e-1" "payment.created" "p-1", delivery "e-2" "payment.updated" "p-1"] := by
  intro h
  have hnodup := (h "merchant-1").1
  revert hnodup
  decide +kernel

end Drawer.Sweep
