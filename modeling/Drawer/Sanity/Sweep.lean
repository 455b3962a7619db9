import Drawer.Lib.Outcome
import Drawer.Spec.Sweep

/-! What a delivery does to the money and to the rules, for every way its calls
on the database may fail: the rows it makes sure of change neither, and the
sweep is the last call, so a handler that throws has swept nothing. -/

namespace Drawer.Sweep
open Db Outcome

variable {number : Json String → Option Int} {α : Type}

/-! ### Calls -/

/-- The `k`-th of the coming calls fails. -/
def Fails (s : Session) (k : ℕ) : Prop := s.faults[k]? = some true

/-- A call either gives what `run` gives, or is refused and changes nothing. -/
theorem query_cases (run : Db → Option (α × Db)) (s : Session) :
    (∃ a db, run s.db = some (a, db) ∧ ¬ Fails s 0 ∧ query run s = (some a, ⟨db, s.faults.tail⟩)) ∨
    (query run s = (none, ⟨s.db, s.faults.tail⟩) ∧ (run s.db = none ∨ Fails s 0)) := by
  obtain ⟨db, faults⟩ := s
  unfold query OptionT.mk Fails
  rcases faults with _ | ⟨_ | _, rest⟩
  · cases hr : run db with
    | none => exact Or.inr ⟨by simp [hr], Or.inl rfl⟩
    | some p => exact Or.inl ⟨p.1, p.2, rfl, by simp, by simp [hr]⟩
  · cases hr : run db with
    | none => exact Or.inr ⟨by simp [hr], Or.inl rfl⟩
    | some p => exact Or.inl ⟨p.1, p.2, rfl, by simp, by simp [hr]⟩
  · exact Or.inr ⟨by simp, Or.inr rfl⟩

theorem fails_drop {s s' : Session} {n k : ℕ} (hs : s'.faults = s.faults.drop n) (h : Fails s' k) : Fails s (n + k) := by
  rwa [Fails, hs, List.getElem?_drop] at h

theorem fails_tail {s : Session} {db : Db} {k : ℕ} (h : Fails ⟨db, s.faults.tail⟩ k) : Fails s (k + 1) := by
  simpa [Fails] using h

/-! ### Money and rules -/

/-- Nothing changed for the money, the rules and the stored events. -/
structure Kept (db db' : Db) : Prop where
  ledger : db'.ledger = db.ledger
  balance : ∀ m, db'.balanceOf m = db.balanceOf m
  rule : ∀ m, db'.ruleOf m = db.ruleOf m
  events : db'.webhookEvents = db.webhookEvents

theorem Kept.refl (db : Db) : Kept db db := ⟨rfl, fun _ => rfl, fun _ => rfl, rfl⟩

theorem Kept.trans {a b c : Db} (h : Kept a b) (h' : Kept b c) : Kept a c :=
  ⟨h'.ledger.trans h.ledger, fun m => (h'.balance m).trans (h.balance m), fun m => (h'.rule m).trans (h.rule m),
    h'.events.trans h.events⟩

theorem kept_upsertMerchant (db : Db) (m : String) : Kept db (db.upsertMerchant m) := ⟨rfl, fun _ => rfl, fun _ => rfl, rfl⟩

theorem kept_upsertDrawer (db : Db) (m c : String) : Kept db (db.upsertDrawer m c) := by
  unfold upsertDrawer
  split_ifs with h
  · exact Kept.refl db
  · refine ⟨rfl, fun m' => ?_, fun _ => rfl, rfl⟩
    simp only [balanceOf, Dict.lookup_insert_if]
    split_ifs with hm
    · subst hm
      simp [Option.not_isSome_iff_eq_none.mp h]
    · rfl

theorem upsertDrawer_spec (db : Db) (m c : String) :
    ((db.upsertDrawer m c).drawers.lookup m).isSome = true ∧ (db.upsertDrawer m c).rules = db.rules := by
  unfold upsertDrawer
  split_ifs with h
  · exact ⟨h, rfl⟩
  · exact ⟨by simp, rfl⟩

theorem kept_upsertTransaction (db : Db) (p : String) (t : Transaction) : Kept db (db.upsertTransaction p t) := by
  unfold upsertTransaction
  split_ifs
  · exact Kept.refl db
  · exact ⟨rfl, fun _ => rfl, fun _ => rfl, rfl⟩

theorem upsertTransaction_same (db : Db) (p : String) (t : Transaction) :
    (db.upsertTransaction p t).drawers = db.drawers ∧ (db.upsertTransaction p t).rules = db.rules := by
  unfold upsertTransaction
  split_ifs <;> exact ⟨rfl, rfl⟩

theorem kept_defaultRule {db : Db} {drawer : String} (h : db.activeRule drawer = none) :
    Kept db { db with rules := db.rules ++ [defaultRule drawer] } := by
  refine ⟨rfl, fun _ => rfl, fun m => ?_, rfl⟩
  simp only [ruleOf, activeRule, List.find?_append]
  by_cases hm : m = drawer
  · subst hm
    rw [activeRule] at h
    simp [h, defaultRule]
  · have hne : ¬ drawer = m := fun heq => hm heq.symm
    simp [defaultRule, hne]

/-- The sweep `x` was made, if there was one to make. -/
structure Made (db db' : Db) (x : Option Due) : Prop where
  ledger : db'.ledger = db.ledger ++ x.toList.map Due.entry
  balance : ∀ m, db'.balanceOf m = db.balanceOf m + ((x.toList.filter fun x => x.drawer = m).map Due.cents).sum
  rule : ∀ m, db'.ruleOf m = db.ruleOf m
  events : db'.webhookEvents = db.webhookEvents

theorem Kept.made {db db' : Db} (h : Kept db db') : Made db db' none :=
  ⟨by simpa using h.ledger, fun m => by simpa using h.balance m, h.rule, h.events⟩

theorem Kept.then_made {a b c : Db} {x : Option Due} (h : Kept a b) (h' : Made b c x) : Made a c x :=
  ⟨by rw [h'.ledger, h.ledger], fun m => by rw [h'.balance, h.balance], fun m => (h'.rule m).trans (h.rule m),
    h'.events.trans h.events⟩

theorem recordSweep_eq {db db' : Db} {x : Due} (h : db.recordSweep x.drawer x.paymentId x.cents = some db') :
    Made db db' (some x) := by
  obtain ⟨d, hd, rfl⟩ := Option.map_eq_some_iff.mp h
  refine ⟨rfl, fun m => ?_, fun _ => rfl, rfl⟩
  simp only [balanceOf, Dict.lookup_insert_if]
  by_cases hm : m = x.drawer
  · subst hm
    simp [hd]
  · have hne : ¬ x.drawer = m := fun heq => hm heq.symm
    simp [hm, hne]

/-! ### The handlers -/

theorem ends_query {run : Db → Option (α × Db)} {s : Session} {Q : α → Session → Prop} {E : Session → Prop}
    (hret : ∀ a db, run s.db = some (a, db) → ¬ Fails s 0 → Q a ⟨db, s.faults.tail⟩)
    (hthrow : run s.db = none ∨ Fails s 0 → E ⟨s.db, s.faults.tail⟩) : Ends (query run) s Q E := by
  have hrun : (query run).run s = query run s := rfl
  rcases query_cases run s with ⟨a, db, hr, hf, hq⟩ | ⟨hq, hr⟩
  · rw [Ends, hrun, hq]
    exact hret a db hr hf
  · rw [Ends, hrun, hq]
    exact hthrow hr

/-- The database refuses what the event gives it. -/
def Refused (number : Json String → Option Int) (merchantId payment : Json String) : Prop :=
  text merchantId = none ∨ text (currencyOf payment) = none ∨ text (prop payment "id") = none ∨
    amountOf number payment = none

theorem ensureRows_spec (merchantId payment : Json String) (s : Session) :
    Ends (ensureRows number merchantId payment) s
      (fun x s' => Kept s.db s'.db ∧ s'.faults = s.faults.drop 3 ∧ text merchantId = some x.1 ∧
        (text (currencyOf payment)).isSome = true ∧ text (prop payment "id") = some x.2.1 ∧
        amountOf number payment = some x.2.2 ∧ (s'.db.drawers.lookup x.1).isSome = true ∧ s'.db.rules = s.db.rules)
      (fun s' => Kept s.db s'.db ∧ ((∃ k < 3, Fails s k) ∨ Refused number merchantId payment)) := by
  unfold ensureRows
  refine ends_bind (ends_query ?_ ?_)
  · intro m db hm _
    obtain ⟨m', hm', heq⟩ := Option.map_eq_some_iff.mp hm
    obtain ⟨rfl, rfl⟩ := Prod.mk.inj heq
    have hk := kept_upsertMerchant s.db m'
    refine ends_bind (ends_query ?_ ?_)
    · intro c db hc _
      obtain ⟨c', hc', heq⟩ := Option.map_eq_some_iff.mp hc
      obtain ⟨rfl, rfl⟩ := Prod.mk.inj heq
      have hk := hk.trans (kept_upsertDrawer _ m' c')
      refine ends_query ?_ ?_
      · intro x db hx _
        obtain ⟨p, hp, hx⟩ := Option.bind_eq_some_iff.mp hx
        obtain ⟨a, ha, hx⟩ := Option.bind_eq_some_iff.mp hx
        obtain ⟨rfl, rfl⟩ := Prod.mk.inj (Option.some.inj hx)
        obtain ⟨hdr, hru⟩ := upsertTransaction_same ((s.db.upsertMerchant m').upsertDrawer m' c') p ⟨m', a, c'⟩
        obtain ⟨hdr', hru'⟩ := upsertDrawer_spec (s.db.upsertMerchant m') m' c'
        refine ⟨hk.trans (kept_upsertTransaction ..), by simp only [← List.drop_one, List.drop_drop], hm', by simp [hc'], hp, ha,
          ?_, ?_⟩
        · rw [hdr]
          exact hdr'
        · rw [hru, hru']
          rfl
      · intro hthrow
        refine ⟨hk, ?_⟩
        rcases hthrow with hnone | hf
        · refine Or.inr ?_
          cases hp : text (prop payment "id") with
          | none => exact Or.inr (Or.inr (Or.inl hp))
          | some p =>
            cases ha : amountOf number payment with
            | none => exact Or.inr (Or.inr (Or.inr ha))
            | some a => simp [hp, ha] at hnone
        · exact Or.inl ⟨2, by decide, fails_tail (fails_tail hf)⟩
    · intro hthrow
      refine ⟨hk, ?_⟩
      rcases hthrow with hnone | hf
      · exact Or.inr (Or.inr (Or.inl (Option.map_eq_none_iff.mp hnone)))
      · exact Or.inl ⟨1, by decide, fails_tail hf⟩
  · intro hthrow
    refine ⟨Kept.refl _, ?_⟩
    rcases hthrow with hnone | hf
    · exact Or.inr (Or.inl (Option.map_eq_none_iff.mp hnone))
    · exact Or.inl ⟨0, by decide, hf⟩

/-- How often `findRule` calls the database. -/
def ruleCalls (db : Db) (drawer : String) : ℕ := if (db.activeRule drawer).isSome then 1 else 2

theorem findRule_spec (drawer : String) (s : Session) :
    Ends (findRule drawer) s
      (fun rule s' => Kept s.db s'.db ∧ s'.faults = s.faults.drop (ruleCalls s.db drawer) ∧
        rule = s.db.ruleOf drawer ∧ s'.db.drawers = s.db.drawers)
      (fun s' => Kept s.db s'.db ∧ ∃ k < ruleCalls s.db drawer, Fails s k) := by
  unfold findRule
  refine ends_bind (ends_query ?_ ?_)
  · intro found db hfound _
    obtain ⟨rfl, rfl⟩ := Prod.mk.inj (Option.some.inj hfound)
    cases hrule : s.db.activeRule drawer with
    | some rule => exact ends_pure ⟨Kept.refl _, by simp [ruleCalls, hrule], by simp [ruleOf, hrule], rfl⟩
    | none =>
      refine ends_query ?_ ?_
      · intro rule db hr _
        obtain ⟨rfl, rfl⟩ := Prod.mk.inj (Option.some.inj hr)
        exact ⟨kept_defaultRule hrule, by simp only [ruleCalls, hrule, ← List.drop_one, List.drop_drop]; rfl,
          by simp [ruleOf, hrule], rfl⟩
      · intro hthrow
        refine ⟨Kept.refl _, 1, by simp [ruleCalls, hrule], fails_tail (hthrow.resolve_left (by simp))⟩
  · intro hthrow
    refine ⟨Kept.refl _, 0, ?_, hthrow.resolve_left (by simp)⟩
    unfold ruleCalls
    split_ifs <;> decide

/-- The sweep is made, or the program throws at one of its calls and nothing has changed. -/
theorem sweep_spec (drawer paymentId : String) (amount : Int) (s : Session)
    (hdrawer : (s.db.drawers.lookup drawer).isSome = true) :
    Ends (sweep drawer paymentId amount) s (fun _ s' => Made s.db s'.db (dueOf s.db drawer paymentId amount))
      (fun s' => Kept s.db s'.db ∧ ∃ k < ruleCalls s.db drawer + 1, Fails s k) := by
  unfold sweep
  refine ends_bind ((findRule_spec drawer s).mono ?_ ?_)
  · intro rule s' hs'
    obtain ⟨hk, hf, rfl, hdr⟩ := hs'
    dsimp only
    split_ifs with hle
    · refine ends_pure ?_
      rw [dueOf, if_neg (not_lt.mpr hle)]
      exact hk.made
    · rw [dueOf, if_pos (not_le.mp hle)]
      refine ends_query ?_ ?_
      · intro _ db hr _
        obtain ⟨db', hsweep, heq⟩ := Option.map_eq_some_iff.mp hr
        obtain ⟨-, rfl⟩ := Prod.mk.inj heq
        exact hk.then_made (recordSweep_eq (x := ⟨_, _, _⟩) hsweep)
      · intro hthrow
        obtain ⟨d, hlook⟩ := Option.isSome_iff_exists.mp hdrawer
        have hfail := hthrow.resolve_left (by simp [recordSweep, hdr, hlook])
        exact ⟨hk, _, Nat.lt_succ_self _, fails_drop hf hfail⟩
  · intro s' hs'
    obtain ⟨hk, k, hlt, hfail⟩ := hs'
    exact ⟨hk, k, hlt.trans (Nat.lt_succ_self _), hfail⟩

theorem paymentArgs_eq {event merchantId payment : Json String} (hm : prop event "merchant_id" = some merchantId)
    (hp : paymentOf event = some payment) (htm : truthy merchantId = true) (htp : truthy payment = true)
    {m c p : String} {a : Int} (h1 : text merchantId = some m) (h2 : text (currencyOf payment) = some c)
    (h3 : text (prop payment "id") = some p) (h4 : amountOf number payment = some a) :
    paymentArgs number event = some (m, p, a) := by
  simp [paymentArgs, hm, hp, htm, htp, h1, h2, h3, h4]

theorem paymentArgs_refused {event merchantId payment : Json String} (hm : prop event "merchant_id" = some merchantId)
    (hp : paymentOf event = some payment) (h : Refused number merchantId payment) : paymentArgs number event = none := by
  unfold paymentArgs
  rw [hm, hp]
  rcases h with h | h | h | h <;> simp [h]

theorem dueOf_drawer {db : Db} {drawer paymentId : String} {amount : Int} {x : Due}
    (h : dueOf db drawer paymentId amount = some x) : x.drawer = drawer := by
  unfold dueOf at h
  dsimp only at h
  split_ifs at h
  rw [← Option.some.inj h]

theorem dueOf_congr {db db' : Db} (h : ∀ m, db'.ruleOf m = db.ruleOf m) (drawer paymentId : String) (amount : Int) :
    dueOf db' drawer paymentId amount = dueOf db drawer paymentId amount := by rw [dueOf, h, dueOf]

/-- The sweep the handler makes for an event. -/
def handlerDue (number : Json String → Option Int) (db : Db) (event : Json String) : Option Due :=
  (paymentArgs number event).bind fun p => dueOf db p.1 p.2.1 p.2.2

/-- The handler returns and has made the sweep, or throws and has made none; it throws only if one of its calls
failed or was refused. -/
theorem handlePaymentEvent_spec (event : Json String) (s : Session) :
    Ends (handlePaymentEvent number event) s (fun _ s' => Made s.db s'.db (handlerDue number s.db event))
      (fun s' => Kept s.db s'.db ∧
        ∀ x, handlerDue number s.db event = some x → ∃ k < handlerCalls s.db x.drawer, Fails s k) := by
  have hnone : paymentArgs number event = none → handlerDue number s.db event = none := by
    intro h
    rw [handlerDue, h, Option.bind_none]
  unfold handlePaymentEvent
  cases hm : prop event "merchant_id" with
  | none =>
    refine ends_pure ?_
    rw [hnone (by simp [paymentArgs, hm])]
    exact (Kept.refl _).made
  | some merchantId =>
    cases hp : paymentOf event with
    | none =>
      refine ends_pure ?_
      rw [hnone (by simp [paymentArgs, hm, hp])]
      exact (Kept.refl _).made
    | some payment =>
      dsimp only
      split_ifs with htrue
      · refine ends_pure ?_
        have hargs : paymentArgs number event = none := by
          simp only [paymentArgs, hm, hp, if_pos htrue]
          simp
        rw [hnone hargs]
        exact (Kept.refl _).made
      · obtain ⟨htm, htp⟩ : truthy merchantId = true ∧ truthy payment = true := by simpa using htrue
        refine ends_bind ((ensureRows_spec merchantId payment s).mono ?_ ?_)
        · intro x s₁ hs₁
          obtain ⟨drawer, paymentId, amount⟩ := x
          obtain ⟨hk, hf, h1, h2, h3, h4, hdrawer, hrules⟩ := hs₁
          obtain ⟨c, h2⟩ := Option.isSome_iff_exists.mp h2
          have hdue : handlerDue number s.db event = dueOf s₁.db drawer paymentId amount := by
            rw [handlerDue, paymentArgs_eq hm hp htm htp h1 h2 h3 h4, dueOf_congr hk.rule]
            rfl
          have hcalls : 3 + (ruleCalls s₁.db drawer + 1) = handlerCalls s.db drawer := by
            have hactive : s₁.db.activeRule drawer = s.db.activeRule drawer := by simp only [activeRule, hrules]
            rw [ruleCalls, handlerCalls, hactive]
            cases s.db.activeRule drawer <;> rfl
          refine (sweep_spec drawer paymentId amount s₁ hdrawer).mono ?_ ?_
          · intro _ s₂ hmade
            rw [hdue]
            exact hk.then_made hmade
          · intro s₂ hs₂
            obtain ⟨hk₂, k, hlt, hfail⟩ := hs₂
            refine ⟨hk.trans hk₂, fun x hx => ⟨3 + k, ?_, fails_drop hf hfail⟩⟩
            rw [dueOf_drawer (hdue.symm.trans hx), ← hcalls]
            omega
        · intro s₁ hs₁
          obtain ⟨hk, hfail⟩ := hs₁
          refine ⟨hk, fun x hx => ?_⟩
          rcases hfail with ⟨k, hk3, hf⟩ | href
          · refine ⟨k, ?_, hf⟩
            unfold handlerCalls
            split_ifs <;> omega
          · rw [hnone (paymentArgs_refused hm hp href)] at hx
            cases hx

/-! ### Deliveries -/

/-- The database with the row of an event. -/
def stored (db : Db) (i type : String) : Db := { db with webhookEvents := db.webhookEvents.insert i type }

theorem due_of_payment {event : Json String} (h : isPayment event = some true) (db : Db) :
    due number db event = handlerDue number db event := by rw [due, if_pos h, handlerDue]

theorem due_of_other {event : Json String} (h : isPayment event ≠ some true) (db : Db) :
    due number db event = none := by rw [due, if_neg h]

theorem handleStored_spec (event : Json String) (s : Session) :
    Ends (handleStored number event) s (fun _ s' => Made s.db s'.db (due number s.db event))
      (fun s' => Kept s.db s'.db ∧ ∀ x, due number s.db event = some x → ∃ k < handlerCalls s.db x.drawer, Fails s k) := by
  unfold handleStored
  refine ends_bind ?_
  cases hp : isPayment event with
  | none =>
    have hdue := @due_of_other number event (by simp [hp]) s.db
    exact ⟨Kept.refl _, fun x hx => by rw [hdue] at hx; cases hx⟩
  | some b =>
    cases b with
    | false =>
      refine ends_pure ?_
      rw [due_of_other (by simp [hp])]
      exact (Kept.refl _).made
    | true =>
      refine ends_bind ?_
      rw [due_of_payment hp]
      refine (handlePaymentEvent_spec event s).mono ?_ fun s' hs' => hs'
      intro _ s' hmade
      exact ends_pure hmade

theorem storedId_eq_some {event : Json String} {i : String} : storedId event = some i ↔
    ∃ id type, eventId event = some id ∧ text id = some i ∧
      text (either (prop event "type") (some (.str "unknown"))) = some type ∧ truthy id = true := by
  unfold storedId
  refine ⟨fun h => ?_, fun h => ?_⟩
  · obtain ⟨id, hid, h⟩ := Option.bind_eq_some_iff.mp h
    obtain ⟨i', hi, h⟩ := Option.bind_eq_some_iff.mp h
    obtain ⟨type, htype, h⟩ := Option.bind_eq_some_iff.mp h
    split_ifs at h with htrue
    obtain rfl := Option.some.inj h
    exact ⟨id, type, hid, hi, htype, htrue⟩
  · obtain ⟨id, type, hid, hi, htype, htrue⟩ := h
    simp [hid, hi, htype, htrue]

theorem accepted_eq_some {d : Delivery} {i : String} {event : Json String} :
    accepted d = some (i, event) ↔ d.signed = true ∧ d.payload = some event ∧ storedId event = some i := by
  unfold accepted
  refine ⟨fun h => ?_, fun h => ?_⟩
  · split_ifs at h with hs
    obtain ⟨event', hp, h⟩ := Option.bind_eq_some_iff.mp h
    obtain ⟨i', hi, h⟩ := Option.map_eq_some_iff.mp h
    obtain ⟨rfl, rfl⟩ := Prod.mk.inj h
    exact ⟨hs, hp, hi⟩
  · obtain ⟨hs, hp, hi⟩ := h
    simp [hs, hp, hi]

/-- What a delivery of an event did: nothing, and then it is answered 200 only if the event was known; or it stored
a new event, and then made the sweep that is due or was stopped by a call that failed. -/
inductive Handled (number : Json String → Option Int) (event : Json String) (s s' : Session) (status : ℕ) : Prop
  | idle (same : s'.db = s.db)
      (known : status = 200 → ∀ i, storedId event = some i → (s.db.webhookEvents.lookup i).isSome = true)
      (missed : ∀ i, storedId event = some i → s.db.webhookEvents.lookup i = none → ∃ k < 2, Fails s k)
  | made (i type : String) (hid : storedId event = some i) (hnew : s.db.webhookEvents.lookup i = none)
      (hmade : Made (stored s.db i type) s'.db (due number s.db event))
  | stopped (i type : String) (hid : storedId event = some i) (hnew : s.db.webhookEvents.lookup i = none)
      (hstatus : status = 500) (hok : ∀ k < 2, ¬ Fails s k) (hkept : Kept (stored s.db i type) s'.db)
      (hfail : ∀ x, due number s.db event = some x → ∃ k < handlerCalls s.db x.drawer, Fails s (2 + k))

theorem processSquareWebhookEvent_spec (event : Json String) (s : Session) :
    Ends (processSquareWebhookEvent number event) s (fun answer s' => Handled number event s s' answer.status)
      (fun s' => Handled number event s s' 500) := by
  have hidle : ∀ {status : ℕ} {s' : Session}, s'.db = s.db → storedId event = none →
      Handled number event s s' status := fun hs h =>
    .idle hs (fun _ i hi => by rw [h] at hi; cases hi) fun i hi => by rw [h] at hi; cases hi
  unfold processSquareWebhookEvent
  cases hid : eventId event with
  | none => exact ends_pure (hidle rfl (by simp [storedId, hid]))
  | some id =>
    dsimp only
    split_ifs with htrue
    · refine ends_pure (hidle rfl ?_)
      simp only [Bool.not_eq_true'] at htrue
      simp [storedId, hid, htrue]
    · replace htrue : truthy id = true := by simpa using htrue
      refine ends_bind (ends_query ?_ ?_)
      · intro existing db hq hok
        obtain ⟨i, hi, heq⟩ := Option.map_eq_some_iff.mp hq
        obtain ⟨rfl, rfl⟩ := Prod.mk.inj heq
        have hids : ∀ i', storedId event = some i' → i' = i := by
          intro i' hi'
          obtain ⟨_, _, h1, h2, -, -⟩ := storedId_eq_some.mp hi'
          obtain rfl := Option.some.inj (hid.symm.trans h1)
          exact Option.some.inj (h2.symm.trans hi)
        split_ifs with hknown
        · refine ends_pure (.idle rfl (fun _ i' hi' => ?_) fun i' hi' hnew => ?_)
          · rw [hids i' hi']
            exact hknown
          · rw [← hids i' hi', hnew] at hknown
            cases hknown
        · have hnew := Option.not_isSome_iff_eq_none.mp hknown
          refine ends_bind (ends_query ?_ ?_)
          · intro _ db hq hok'
            obtain ⟨i', hi', hq⟩ := Option.bind_eq_some_iff.mp hq
            obtain rfl := Option.some.inj (hi.symm.trans hi')
            obtain ⟨type, htype, hq⟩ := Option.bind_eq_some_iff.mp hq
            obtain ⟨-, rfl⟩ := Prod.mk.inj (Option.some.inj hq)
            have hsid : storedId event = some i := storedId_eq_some.mpr ⟨id, type, hid, hi, htype, htrue⟩
            have hfaults : s.faults.tail.tail = s.faults.drop 2 := by
              simp only [← List.drop_one, List.drop_drop]
            refine (handleStored_spec event ⟨stored s.db i type, s.faults.tail.tail⟩).mono ?_ ?_
            · exact fun _ s' hmade => .made i type hsid hnew hmade
            · intro s' hs'
              obtain ⟨hk, hfail⟩ := hs'
              refine .stopped i type hsid hnew rfl ?_ hk fun x hx => ?_
              · intro k hlt hf
                interval_cases k
                · exact hok hf
                · exact hok' (by simpa [Fails] using hf)
              · obtain ⟨k, hlt, hf⟩ := hfail x hx
                exact ⟨k, hlt, fails_drop hfaults hf⟩
          · intro hthrow
            refine .idle rfl (fun h => absurd h (by decide)) fun i' hi' _ => ?_
            obtain ⟨_, type, h1, h2, h3, -⟩ := storedId_eq_some.mp hi'
            obtain rfl := Option.some.inj (hid.symm.trans h1)
            exact ⟨1, by decide, fails_tail (hthrow.resolve_left (by simp [h2, h3]))⟩
      · intro hthrow
        refine .idle rfl (fun h => absurd h (by decide)) fun i' hi' _ => ?_
        obtain ⟨_, type, h1, h2, h3, -⟩ := storedId_eq_some.mp hi'
        obtain rfl := Option.some.inj (hid.symm.trans h1)
        exact ⟨0, by decide, hthrow.resolve_left (by simp [h2])⟩

theorem post_spec (db : Db) (d : Delivery) :
    (accepted d = none ∧ (post number db d).1 = db) ∨
    ∃ event s', d.signed = true ∧ d.payload = some event ∧ (post number db d).1 = s'.db ∧
      Handled number event ⟨db, d.faults⟩ s' (post number db d).2.status := by
  unfold post
  cases hs : d.signed with
  | false => exact Or.inl ⟨by simp [accepted, hs], rfl⟩
  | true =>
    cases hp : d.payload with
    | none => exact Or.inl ⟨by simp [accepted, hs, hp], rfl⟩
    | some event =>
      have hspec := @processSquareWebhookEvent_spec number event ⟨db, d.faults⟩
      rcases hr : processSquareWebhookEvent number event ⟨db, d.faults⟩ with ⟨answer, s'⟩
      refine Or.inr ⟨event, s', rfl, rfl, ?_⟩
      rcases hspec.of_run hr with ⟨a, rfl, h⟩ | ⟨rfl, h⟩
      · simpa [hr] using h
      · simpa [hr] using h

theorem due_congr {db db' : Db} (h : ∀ m, db'.ruleOf m = db.ruleOf m) (event : Json String) :
    due number db' event = due number db event := by
  simp only [due, dueOf, h]

end Drawer.Sweep
