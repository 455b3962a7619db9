import Drawer.Sanity.Router
import Drawer.Spec.Vendors

/-! Purchases without a key of their own. The adapters derive one from the order and
the amounts, so a request is answered from the store only as a repetition of an
earlier one; but a request that names no order has a key too, the one of all
orderless purchases of the same amounts. -/

namespace Drawer.Pos
open Text Journal IdempotencyStore Vendors

theorem keyBase_eq (seed : Bytes) (price deposit : Int) :
    keyBase seed price deposit = (seed ++ 124 :: decimal price) ++ 124 :: decimal deposit := by
  have hbar : ascii "|" = [124] := rfl
  simp [keyBase, hbar]

theorem keyBase_inj {seed seed' : Bytes} {price price' deposit deposit' : Int}
    (h : keyBase seed price deposit = keyBase seed' price' deposit') :
    seed = seed' ∧ price = price' ∧ deposit = deposit' := by
  rw [keyBase_eq, keyBase_eq] at h
  obtain ⟨hfront, hdeposit⟩ := append_cons_inj_right (notMem_decimal (by decide) _) (notMem_decimal (by decide) _) h
  obtain ⟨hseed, hprice⟩ := append_cons_inj_right (notMem_decimal (by decide) _) (notMem_decimal (by decide) _) hfront
  exact ⟨hseed, decimal_injective hprice, decimal_injective hdeposit⟩

theorem hash_of_deriveKey {hash : Bytes → UInt64} {seed seed' : Bytes} {price price' deposit deposit' : Int}
    (h : deriveKey hash seed price deposit = deriveKey hash seed' price' deposit') :
    hash (keyBase seed price deposit) = hash (keyBase seed' price' deposit') :=
  UInt64.toNat_inj.mp (hexadecimal_injective (List.append_cancel_left h))

namespace HttpConnector

variable (parse : Bytes → Except Exn (Json Bytes)) (hash : Bytes → UInt64) (opt : Options)

/-- The order and the amounts a request carries. -/
def carried (v : Visit) : Except Exn (Bytes × Int × Int) := (adapter opt).carried parse v.post.body

def SamePurchase (v w : Visit) : Prop :=
  ∃ seed price deposit, seed ≠ [] ∧ carried parse opt v = .ok (seed, price, deposit) ∧
    carried parse opt w = .ok (seed, price, deposit)

/-- The router's first step answers the request, with a finished purchase. -/
def AnsweredWith (sh : Shared) (v : Visit) (body : Bytes) : Prop :=
  ∃ req, accept parse hash opt v.post = .ok req ∧ Router.step (v.call req) sh .start = (sh, .replied 200 body)

/-- After `before`, the request gets the result of an earlier purchase only if it is that purchase again. -/
def Unswallowed (before : List Event) (v : Visit) : Prop :=
  ∀ body, AnsweredWith parse hash opt (run parse hash opt before) v body →
    ∃ w t, Event.purchase w ∈ before ∧ w.engine = .ok t ∧ body = successJson t ∧ SamePurchase parse opt w v

/-- Where the request names no order, no purchase without one is finished for its amounts. -/
def Unmistakable (sh : Shared) (v : Visit) : Prop :=
  ∀ req, accept parse hash opt v.post = .ok req → carried parse opt v = .ok ([], req.priceCents, req.depositCents) →
    ¬ ∃ r, sh.store.map.lookup req.idemKey = some r ∧ r.status = ascii "DONE"

/-- No two requests are given one hash for different orders or amounts. -/
def CollisionFree (events : List Event) : Prop :=
  ∀ v w seed price deposit seed' price' deposit', Event.purchase v ∈ events → Event.purchase w ∈ events →
    carried parse opt v = .ok (seed, price, deposit) → carried parse opt w = .ok (seed', price', deposit') →
    hash (keyBase seed price deposit) = hash (keyBase seed' price' deposit') →
    keyBase seed price deposit = keyBase seed' price' deposit'

variable {parse hash opt}

theorem request_some {a : Adapter} {body : Bytes} {req : PurchaseRequest}
    (h : a.request parse hash body [] = .ok (some req)) :
    ∃ seed, a.carried parse body = .ok (seed, req.priceCents, req.depositCents) ∧
      req.idemKey = deriveKey hash seed req.priceCents req.depositCents := by
  unfold Adapter.request at h
  unfold Adapter.carried
  cases hj : parse body with
  | error e => simp [hj, bind, Except.bind] at h
  | ok j =>
    cases hamounts : a.amounts j with
    | error e => simp [hj, hamounts, bind, Except.bind] at h
    | ok amounts =>
      obtain ⟨price, deposit⟩ := amounts
      cases hseed : a.seed j with
      | error e =>
        simp only [hj, hamounts, hseed, bind, Except.bind] at h
        split_ifs at h
        · cases h
        · exact absurd rfl ‹([] : Bytes) ≠ []›
      | ok seed =>
        simp only [hj, hamounts, hseed, bind, Except.bind] at h ⊢
        split_ifs at h
        · cases h
        · exact absurd rfl ‹([] : Bytes) ≠ []›
        · obtain rfl := Option.some.inj (Except.ok.inj h)
          exact ⟨seed, rfl, rfl⟩

/-- A request without a key reaches the router under the key of what it carries. -/
theorem accept_ok {v : Visit} {req : PurchaseRequest} (hkey : v.post.idemKey = [])
    (h : accept parse hash opt v.post = .ok req) :
    ∃ seed, carried parse opt v = .ok (seed, req.priceCents, req.depositCents) ∧
      req.idemKey = deriveKey hash seed req.priceCents req.depositCents := by
  have hcaught : ∀ a : Adapter, caught (a.request parse hash v.post.body []) = some req →
      a.request parse hash v.post.body [] = .ok (some req) := by
    intro a ha
    unfold caught at ha
    split at ha
    · rename_i hr
      rw [hr, ha]
    · cases ha
  simp only [accept, hkey] at h
  simp only [carried, adapter]
  split_ifs at h ⊢ with hauth hmode
  · split at h
    · cases h
    · rename_i hread
      split_ifs at h
      obtain rfl := Except.ok.inj h
      exact request_some (hcaught vendorB hread)
  · split at h
    · cases h
    · rename_i hread
      split_ifs at h
      obtain rfl := Except.ok.inj h
      exact request_some (hcaught vendorA hread)

/-- `r` was put by one of the purchases of `events`. -/
def PutBy (parse : Bytes → Except Exn (Json Bytes)) (hash : Bytes → UInt64) (opt : Options) (events : List Event)
    (r : IdemRec) : Prop :=
  ∃ v req, Event.purchase v ∈ events ∧ accept parse hash opt v.post = .ok req ∧ r.key = req.idemKey ∧
    r.payloadHash = payloadHash req.priceCents req.depositCents ∧
    (r.status = ascii "DONE" → ∃ t, v.engine = .ok t ∧ r.resultJson = successJson t)

theorem PutBy.append {events : List Event} {r : IdemRec} (h : PutBy parse hash opt events r) (e : Event) :
    PutBy parse hash opt (events ++ [e]) r := by
  obtain ⟨v, req, hv, hrest⟩ := h
  exact ⟨v, req, List.mem_append_left _ hv, hrest⟩

theorem records_step {events : List Event} {sh : Shared} (h : Records (PutBy parse hash opt events) sh.store) (e : Event) :
    Records (PutBy parse hash opt (events ++ [e])) (step parse hash opt sh e).store := by
  have hkept := h.mono fun r hr => hr.append e
  cases e with
  | restart ttlHours readAt sweptAt => exact Records.openOn hkept.logged ..
  | purchase v =>
    simp only [step, purchase]
    split
    · exact hkept
    · rename_i req hacc
      have hmem : Event.purchase v ∈ events ++ [Event.purchase v] := by simp
      have hstatus : ascii "PENDING" ≠ ascii "DONE" := by decide
      have hpending : Records (PutBy parse hash opt (events ++ [.purchase v]))
          (sh.store.putPending (v.call req).key (v.call req).hash v.pendingAt).1 :=
        hkept.putPending ⟨v, req, hmem, hacc, rfl, rfl, fun hd => absurd hd hstatus⟩
      rcases Router.handle_store (v.call req) sh with hs | hs | ⟨t, ht, hs⟩
      · rw [hs]
        exact hkept
      · rw [hs]
        exact hpending
      · rw [hs]
        exact hpending.putDone fun n => ⟨v, req, hmem, hacc, rfl, rfl, fun _ => ⟨t, ht, rfl⟩⟩

theorem records_run (events : List Event) : Records (PutBy parse hash opt events) (run parse hash opt events).store := by
  induction events using List.reverseRecOn with
  | nil => exact ⟨by simp [run], by simp [run]⟩
  | append_singleton events e ih =>
    rw [run, List.foldl_append, List.foldl_cons, List.foldl_nil]
    exact records_step ih e

/-- The router answers from the store exactly with a finished record of the same key and amounts. -/
theorem answeredWith_iff {sh : Shared} {v : Visit} {body : Bytes} :
    AnsweredWith parse hash opt sh v body ↔ ∃ req r, accept parse hash opt v.post = .ok req ∧
      sh.store.map.lookup req.idemKey = some r ∧ r.payloadHash = payloadHash req.priceCents req.depositCents ∧
      r.status = ascii "DONE" ∧ r.resultJson = body := by
  have hstatus : ascii "DONE" ≠ ascii "PENDING" := by decide
  refine ⟨fun ⟨req, hacc, hstep⟩ => ?_, fun ⟨req, r, hacc, hr, hhash, hdone, hbody⟩ => ⟨req, hacc, ?_⟩⟩
  · refine ⟨req, ?_⟩
    simp only [Router.step, check, Call.key, Call.hash, Visit.call] at hstep
    cases hr : sh.store.map.lookup req.idemKey with
    | none => simp [hr] at hstep
    | some r =>
      by_cases hhash : r.payloadHash = payloadHash req.priceCents req.depositCents
      · by_cases hdone : r.status = ascii "DONE"
        · exact ⟨r, hacc, rfl, hhash, hdone, by simpa [hr, hhash, hdone, hstatus] using hstep⟩
        · by_cases hpending : r.status = ascii "PENDING" <;> simp [hr, hhash, hdone, hpending] at hstep
      · simp [hr, hhash] at hstep
  · simp [Router.step, check, Call.key, Call.hash, Visit.call, hr, hhash, hdone, hstatus, hbody]

theorem AnsweredWith.reply {sh : Shared} {v : Visit} {body : Bytes} (h : AnsweredWith parse hash opt sh v body) :
    purchase parse hash opt v sh = (sh, .replied 200 body) := by
  obtain ⟨req, hacc, hstep⟩ := h
  simp only [purchase, hacc]
  rw [Router.handle, Function.iterate_succ_apply, hstep, Router.iterate_replied]

section Step

variable {before after : List Event} {v : Visit}

theorem same_of_key (hkeyless : ∀ w, Event.purchase w ∈ before ++ .purchase v :: after → w.post.idemKey = [])
    (hfree : CollisionFree parse hash opt (before ++ .purchase v :: after)) {w : Visit} (hw : Event.purchase w ∈ before)
    {req req' : PurchaseRequest} (hv : accept parse hash opt v.post = .ok req)
    (hw' : accept parse hash opt w.post = .ok req') (hkey : req.idemKey = req'.idemKey) :
    ∃ seed, carried parse opt v = .ok (seed, req.priceCents, req.depositCents) ∧
      carried parse opt w = .ok (seed, req.priceCents, req.depositCents) ∧
      req'.priceCents = req.priceCents ∧ req'.depositCents = req.depositCents := by
  have hvmem : Event.purchase v ∈ before ++ .purchase v :: after := by simp
  have hwmem : Event.purchase w ∈ before ++ .purchase v :: after := List.mem_append_left _ hw
  obtain ⟨seed, hcarried, hkeyv⟩ := accept_ok (hkeyless v hvmem) hv
  obtain ⟨seed', hcarried', hkeyw⟩ := accept_ok (hkeyless w hwmem) hw'
  have hhash := hash_of_deriveKey (hkeyv.symm.trans (hkey.trans hkeyw))
  obtain ⟨rfl, hprice, hdeposit⟩ := keyBase_inj (hfree _ _ _ _ _ _ _ _ hvmem hwmem hcarried hcarried' hhash)
  exact ⟨seed, hcarried, by rw [hprice, hdeposit]; exact hcarried', hprice.symm, hdeposit.symm⟩

theorem unswallowed_iff (hkeyless : ∀ w, Event.purchase w ∈ before ++ .purchase v :: after → w.post.idemKey = [])
    (hfree : CollisionFree parse hash opt (before ++ .purchase v :: after)) :
    Unswallowed parse hash opt before v ↔ Unmistakable parse hash opt (run parse hash opt before) v := by
  have hrecords : Records (PutBy parse hash opt before) (run parse hash opt before).store := records_run before
  refine ⟨fun h req hacc hnone ⟨r, hr, hdone⟩ => ?_, fun h body hans => ?_⟩
  · -- the record finished is one of the same amounts, so the request is answered with it
    obtain ⟨hkey, w, req', hw, haccw, hkey', hhash, -⟩ := hrecords.held _ r hr
    obtain ⟨seed, -, -, hprice, hdeposit⟩ := same_of_key hkeyless hfree hw hacc haccw (hkey.symm.trans hkey')
    have hans := answeredWith_iff.mpr ⟨req, r, hacc, hr, by rw [hhash, hprice, hdeposit], hdone, rfl⟩
    obtain ⟨w', t, -, -, -, seed', price, deposit, hne, -, hcarried⟩ := h _ hans
    rw [hnone] at hcarried
    exact hne (Prod.mk.inj (Except.ok.inj hcarried)).1.symm
  · obtain ⟨req, r, hacc, hr, -, hdone, hbody⟩ := answeredWith_iff.mp hans
    obtain ⟨hkey, w, req', hw, haccw, hkey', -, hresult⟩ := hrecords.held _ r hr
    obtain ⟨seed, hv, hwcarried, -⟩ := same_of_key hkeyless hfree hw hacc haccw (hkey.symm.trans hkey')
    obtain ⟨t, ht, hjson⟩ := hresult hdone
    refine ⟨w, t, hw, ht, hbody.symm.trans hjson, seed, _, _, fun hseed => ?_, hwcarried, hv⟩
    subst hseed
    exact h req hacc hv ⟨r, hr, hdone⟩

end Step

/-- No purchase is taken for another one exactly as long as no request without an order finds a finished one
of its amounts. -/
theorem unswallowed_run_iff (events : List Event) (hkeyless : ∀ v, Event.purchase v ∈ events → v.post.idemKey = [])
    (hfree : CollisionFree parse hash opt events) :
    (∀ before v after, events = before ++ .purchase v :: after → Unswallowed parse hash opt before v) ↔
      ∀ before v after, events = before ++ .purchase v :: after →
        Unmistakable parse hash opt (run parse hash opt before) v := by
  refine forall_congr' fun before => forall_congr' fun v => forall_congr' fun after => forall_congr' fun heq => ?_
  subst heq
  exact unswallowed_iff hkeyless hfree

/-- A vendor A body, with an order or without. -/
def sampleText (order : Bytes) : Bytes :=
  ascii "\x7b\"price_cents\":735,\"deposit_cents\":1000" ++
  (if order = [] then [] else ascii ",\"order_id\":\"" ++ order ++ ascii "\"") ++ ascii "\x7d"

def sampleJson (order : Bytes) : Json Bytes :=
  .obj ([(ascii "price_cents", .int 735), (ascii "deposit_cents", .int 1000)] ++
    if order = [] then [] else [(ascii "order_id", .str order)])

def sampleParse (body : Bytes) : Except Exn (Json Bytes) :=
  if body = sampleText [] then .ok (sampleJson [])
  else if body = sampleText (ascii "A-1") then .ok (sampleJson (ascii "A-1"))
  else if body = sampleText (ascii "A-2") then .ok (sampleJson (ascii "A-2"))
  else .error .other

def sampleHash (s : Bytes) : UInt64 := s.foldl (fun h b => 31 * h + b.toUInt64) 0

def sampleVisit (order : Bytes) : Visit := { post := { body := sampleText order }, engine := .ok { id := order } }

theorem carried_sample (order : Bytes) (h : order ∈ [[], ascii "A-1", ascii "A-2"]) :
    carried sampleParse {} (sampleVisit order) = .ok (order, 735, 1000) := by
  simp only [List.mem_cons, List.not_mem_nil, or_false] at h
  rcases h with rfl | rfl | rfl <;> rfl

/-- The requests of a register at work: two orders, and the first of them again. -/
def sampleEvents : List Event :=
  [.purchase (sampleVisit (ascii "A-1")), .purchase (sampleVisit (ascii "A-2")), .purchase (sampleVisit (ascii "A-1"))]

theorem sampleEvents_order {v : Visit} (h : Event.purchase v ∈ sampleEvents) :
    ∃ order ∈ [ascii "A-1", ascii "A-2"], v = sampleVisit order := by
  simp only [sampleEvents, List.mem_cons, Event.purchase.injEq, List.not_mem_nil, or_false] at h
  rcases h with rfl | rfl | rfl
  · exact ⟨_, by simp, rfl⟩
  · exact ⟨_, by simp, rfl⟩
  · exact ⟨_, by simp, rfl⟩

theorem collisionFree_sample : CollisionFree sampleParse sampleHash {} sampleEvents := by
  intro v w seed price deposit seed' price' deposit' hv hw hcv hcw hhash
  obtain ⟨order, ho, rfl⟩ := sampleEvents_order hv
  obtain ⟨order', ho', rfl⟩ := sampleEvents_order hw
  rw [carried_sample order (List.mem_cons_of_mem _ ho), Except.ok.injEq, Prod.mk.injEq, Prod.mk.injEq] at hcv
  rw [carried_sample order' (List.mem_cons_of_mem _ ho'), Except.ok.injEq, Prod.mk.injEq, Prod.mk.injEq] at hcw
  obtain ⟨rfl, rfl, rfl⟩ := hcv
  obtain ⟨rfl, rfl, rfl⟩ := hcw
  clear hv hw
  revert order order'
  decide

/-- The third request is answered with the result of the first, whose order it names. -/
theorem unswallowed_run_iff_orders :
    Unswallowed sampleParse sampleHash {}
      [.purchase (sampleVisit (ascii "A-1")), .purchase (sampleVisit (ascii "A-2"))] (sampleVisit (ascii "A-1")) := by
  refine (unswallowed_run_iff sampleEvents (fun v hv => ?_) collisionFree_sample).mpr ?_ _ _ [] rfl
  · obtain ⟨order, -, rfl⟩ := sampleEvents_order hv
    rfl
  · intro before v after heq req _ hnone
    obtain ⟨order, ho, rfl⟩ := sampleEvents_order (v := v) (by rw [heq]; simp)
    rw [carried_sample order (List.mem_cons_of_mem _ ho)] at hnone
    obtain rfl := (Prod.mk.inj (Except.ok.inj hnone)).1
    exact absurd ho (by decide)

/-- Two customers pay 7.35 with a ten, and neither request names an order: the second gets the
first one's receipt, and no coin. -/
theorem orderless_purchase_swallowed :
    ¬ ∀ (parse : Bytes → Except Exn (Json Bytes)) (hash : Bytes → UInt64) (opt : Options) (events : List Event),
      (∀ v, Event.purchase v ∈ events → v.post.idemKey = []) → CollisionFree parse hash opt events →
      ∀ before v after, events = before ++ .purchase v :: after → Unswallowed parse hash opt before v := by
  intro hclaim
  have hmem : ∀ v, Event.purchase v ∈ [Event.purchase (sampleVisit []), .purchase (sampleVisit [])] → v = sampleVisit [] := by
    intro v hv
    simpa using hv
  have hcarried := carried_sample [] (by simp)
  have hbad := hclaim sampleParse sampleHash {} [.purchase (sampleVisit []), .purchase (sampleVisit [])]
    (fun v hv => by rw [hmem v hv]; rfl)
    (fun v w _ _ _ _ _ _ hv hw hcv hcw _ => by
      rw [hmem v hv, hcarried] at hcv
      rw [hmem w hw, hcarried] at hcw
      cases hcv
      cases hcw
      rfl)
    [.purchase (sampleVisit [])] (sampleVisit []) [] rfl
  obtain ⟨w, t, -, -, -, seed, price, deposit, hne, -, hv⟩ := hbad (successJson { id := [] }) ⟨_, rfl, rfl⟩
  rw [hcarried] at hv
  exact hne (Prod.mk.inj (Except.ok.inj hv)).1.symm

end HttpConnector
end Drawer.Pos
