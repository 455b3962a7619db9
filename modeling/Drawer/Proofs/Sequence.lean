import Drawer.Proofs.Busy
import Drawer.Spec.Reply

/-! Purchases one after another. As long as the engine returns, the store holds for
every key that came the first purchase with it, finished; so a key is run when it
first comes and answered from the store ever after. Once the engine throws, the flag
stays set, and no other purchase is run. -/

namespace Drawer.Pos.Router
open Text Effect Journal TxnEngine IdempotencyStore

/-! ### The engine's answer -/

/-- Every finished run of the program returns a transaction with this id. -/
def Names (id : Bytes) (p : Prog) : Prop := ∀ tr t, Runs p tr t → t.id = id

theorem Names.call {id : Bytes} {e : Eff} {k : Ans e → Prog} (h : ∀ r, Names id (k r)) : Names id (.call e k) := by
  intro tr t hruns
  obtain ⟨r, tr', -, hrest⟩ := runs_call.mp hruns
  exact h r tr' t hrest

theorem names_finish (t : Txn) : Names t.id (finish t) := by
  refine Names.call fun _ tr t' hruns => ?_
  obtain ⟨-, rfl⟩ := runs_ret.mp hruns
  rfl

theorem names_gate (e : Engine) (t : Txn) {k : Prog} (h : Names t.id k) : Names t.id (gate e t k) := by
  unfold gate
  split_ifs
  · refine Names.call fun allowed => ?_
    cases allowed with
    | true => exact h
    | false => exact names_finish _
  · exact h

theorem names_closeShutter (e : Engine) (t : Txn) : Names t.id (closeShutter e t) := by
  refine Names.call fun r => ?_
  dsimp only
  split_ifs
  · exact names_finish _
  · exact Names.call fun _ => names_finish _

theorem names_present (e : Engine) (t : Txn) : Names t.id (present e t) := by
  refine names_gate e t (Names.call fun r => ?_)
  dsimp only
  split_ifs
  · exact names_finish _
  · exact Names.call fun _ => names_gate e _ (names_closeShutter e _)

theorem names_continueTxn (e : Engine) (t : Txn) : Names t.id (continueTxn e t) := by
  unfold continueTxn
  dsimp only
  split_ifs
  · refine names_gate e t (Names.call fun st => Names.call fun _ => ?_)
    unfold afterPayout
    split
    · exact names_finish _
    · exact names_present e _
  · exact names_present e t

theorem valid_body {p : Purchase} {t : Txn} (ht : p.call.engine = .ok t) : validUtf8 (successJson t) = true := by
  have hid : t.id = makeId p.session.ns := by
    obtain ⟨r, tr', -, hrest⟩ := runs_call.mp (p.ran t ht)
    exact names_continueTxn p.session.engine _ tr' t hrest
  refine validUtf8_of_ascii fun b hb => ?_
  simp only [successJson, hid, makeId, List.mem_append] at hb
  rcases hb with ((((((hb | (hb | hb)) | hb) | hb) | hb) | hb) | hb) | hb
  all_goals first
    | exact lt_of_mem_decimal hb
    | (revert b; decide +kernel)

/-! ### One call -/

theorem executes_of_replied {c : Call} {sh : Shared} {status : Int} {body : Bytes}
    (h : step c sh .start = (sh, .replied status body)) : executes c sh = false := by
  rw [executes, List.any_eq_false]
  intro n _
  cases n with
  | zero => simp
  | succ n =>
    rw [Function.iterate_succ_apply, h, iterate_replied]
    simp

theorem executes_of_busy {c : Call} {sh : Shared} (h : step c sh .start = (sh, .passed)) (hbusy : sh.busy = true) :
    executes c sh = false := by
  have h2 : step c sh .passed = (sh, .replied 409 busyJson) := if_pos hbusy
  rw [executes, List.any_eq_false]
  intro n _
  match n with
  | 0 => simp
  | 1 => simp [h]
  | n + 2 =>
    rw [Function.iterate_succ_apply, h, Function.iterate_succ_apply, h2, iterate_replied]
    simp

/-- While the flag is set nothing changes and nothing is run. -/
theorem handle_frozen (c : Call) {sh : Shared} (hbusy : sh.busy = true) : (handle c sh).1 = sh ∧ executes c sh = false := by
  cases hc : (sh.store.check c.key c.hash).1 with
  | mismatch =>
    have hreply : step c sh .start = (sh, .replied 409 mismatchJson) := by
      obtain ⟨r, hr⟩ : ∃ r, sh.store.check c.key c.hash = (.mismatch, r) := ⟨_, Prod.ext hc rfl⟩
      simp only [step, hr]
    exact ⟨by rw [handle_of_mismatch hc], executes_of_replied hreply⟩
  | pending =>
    have hreply : step c sh .start = (sh, .replied 202 pendingJson) := by
      obtain ⟨r, hr⟩ : ∃ r, sh.store.check c.key c.hash = (.pending, r) := ⟨_, Prod.ext hc rfl⟩
      simp only [step, hr]
    exact ⟨by rw [handle_of_pending hc], executes_of_replied hreply⟩
  | matchDone =>
    obtain ⟨r, hr⟩ : ∃ r, sh.store.check c.key c.hash = (.matchDone, r) := ⟨_, Prod.ext hc rfl⟩
    have hreply : step c sh .start = (sh, .replied 200 (r.getD {}).resultJson) := by simp only [step, hr]
    exact ⟨by rw [handle_of_matchDone hr], executes_of_replied hreply⟩
  | new => exact ⟨by rw [handle_of_busy hc hbusy], executes_of_busy (start_of_new hc) hbusy⟩

/-- What the store keeps of a purchase that it has run. -/
def kept (p : Purchase) : Bytes × Bytes × Bytes :=
  match p.call.engine with
  | .ok t => (p.call.hash, ascii "DONE", successJson t)
  | .error _ => (p.call.hash, ascii "PENDING", [])

/-- What the answers depend on. -/
def told (r : IdemRec) : Bytes × Bytes × Bytes := (r.payloadHash, r.status, r.resultJson)

/-- A key that is new is run, answered and kept, and the flag is left set if the engine throws. -/
theorem handle_new {sh : Shared} {p : Purchase} (hvalid : validUtf8 p.key = true) (hbusy : sh.busy = false)
    (hnew : sh.store.map.lookup p.key = none) :
    executes p.call sh = true ∧
      (∀ t, p.call.engine = .ok t → (handle p.call sh).2 = .replied 200 (successJson t) ∧ (handle p.call sh).1.busy = false) ∧
      (∀ e, p.call.engine = .error e → (handle p.call sh).2 = .threw e ∧ (handle p.call sh).1.busy = true) ∧
      ∀ key, ((handle p.call sh).1.store.map.lookup key).map told =
        if key = p.key then some (kept p) else (sh.store.map.lookup key).map told := by
  have hcheck : (sh.store.check p.call.key p.call.hash).1 = .new := by
    rw [check, show p.call.key = p.key from rfl, hnew]
  have hkey : validUtf8 p.call.key = true := hvalid
  have hput : ∀ text ∈ [p.call.key, p.call.hash], validUtf8 text = true := by
    simp [hkey, valid_hash p.call]
  have hexecutes : executes p.call sh = true := by
    rw [executes, List.any_eq_true]
    have h2 : step p.call sh .passed = (⟨sh.store, true⟩, .acquired) := if_neg (by simp [hbusy])
    refine ⟨3, by simp, ?_⟩
    rw [Function.iterate_succ_apply, start_of_new hcheck, Function.iterate_succ_apply, h2, Function.iterate_succ_apply]
    simp [step, putPending, writeLine_of_valid _ _ hput]
  refine ⟨hexecutes, ?_⟩
  cases hengine : p.call.engine with
  | error e =>
    have hhandle := handle_of_free hcheck hbusy
    simp only [putPending, writeLine_of_valid _ _ hput, hengine] at hhandle
    refine ⟨by simp, fun e' he' => ?_, fun key => ?_⟩
    · obtain rfl := Except.error.inj he'
      rw [hhandle]
      exact ⟨rfl, rfl⟩
    · simp only [hhandle, Dict.lookup_insert_if, show p.call.key = p.key from rfl, kept, hengine]
      by_cases h : key = p.key
      · rw [if_pos h, if_pos h]
        rfl
      · rw [if_neg h, if_neg h]
  | ok t =>
    have hdone : ∀ text ∈ [p.call.key, p.call.hash, successJson t], validUtf8 text = true := by
      simp [hkey, valid_hash p.call, valid_body hengine]
    have hhandle := handle_of_free hcheck hbusy
    simp only [putPending, writeLine_of_valid _ _ hput, hengine, putDone, writeLine_of_valid _ _ hdone] at hhandle
    refine ⟨fun t' ht' => ?_, by simp, fun key => ?_⟩
    · obtain rfl := Except.ok.inj ht'
      rw [hhandle]
      exact ⟨rfl, rfl⟩
    · simp only [hhandle, Dict.lookup_insert_if, show p.call.key = p.key from rfl, kept, hengine]
      by_cases h : key = p.key
      · rw [if_pos h, if_pos h]
        rfl
      · rw [if_neg h, if_neg h, if_neg h]

/-- A key that was run is answered from the store, by whether the amounts are those of the purchase and it was finished. -/
theorem handle_known {sh : Shared} {p first : Purchase} (hknown : (sh.store.map.lookup p.key).map told = some (kept first)) :
    (handle p.call sh).1 = sh ∧ executes p.call sh = false ∧
      (p.call.hash ≠ first.call.hash → (handle p.call sh).2 = .replied 409 mismatchJson) ∧
      ∀ t, first.call.engine = .ok t → p.call.hash = first.call.hash → (handle p.call sh).2 = .replied 200 (successJson t) := by
  obtain ⟨r, hr, htold⟩ := Option.map_eq_some_iff.mp hknown
  have hget : sh.store.map.lookup p.call.key = some r := hr
  have hhash : r.payloadHash = first.call.hash := by
    have h := congrArg Prod.fst htold
    cases hengine : first.call.engine <;> simpa [told, kept, hengine] using h
  by_cases hsame : p.call.hash = first.call.hash
  · have hpending : ascii "DONE" ≠ ascii "PENDING" := by decide
    cases hengine : first.call.engine with
    | error e =>
      obtain ⟨-, hstatus, -⟩ : r.payloadHash = first.call.hash ∧ r.status = ascii "PENDING" ∧ r.resultJson = [] := by
        simpa [told, kept, hengine] using htold
      have hcheck : sh.store.check p.call.key p.call.hash = (.pending, some r) := by
        simp [check, hget, hhash, hsame, hstatus]
      have hreply : step p.call sh .start = (sh, .replied 202 pendingJson) := by simp only [step, hcheck]
      rw [handle_of_pending (by rw [hcheck])]
      exact ⟨rfl, executes_of_replied hreply, fun hne => absurd hsame hne, by simp⟩
    | ok t =>
      obtain ⟨-, hstatus, hresult⟩ : r.payloadHash = first.call.hash ∧ r.status = ascii "DONE" ∧
          r.resultJson = successJson t := by simpa [told, kept, hengine] using htold
      have hcheck : sh.store.check p.call.key p.call.hash = (.matchDone, some r) := by
        simp [check, hget, hhash, hsame, hstatus, hpending]
      have hreply : step p.call sh .start = (sh, .replied 200 r.resultJson) := by simp only [step, hcheck, Option.getD_some]
      rw [handle_of_matchDone hcheck, Option.getD_some, hresult]
      refine ⟨rfl, executes_of_replied hreply, fun hne => absurd hsame hne, fun t' ht' _ => ?_⟩
      rw [Except.ok.inj ht']
  · have hcheck : sh.store.check p.call.key p.call.hash = (.mismatch, some r) := by
      simp [check, hget, hhash, Ne.symm hsame]
    have hreply : step p.call sh .start = (sh, .replied 409 mismatchJson) := by simp only [step, hcheck]
    rw [handle_of_mismatch (by rw [hcheck])]
    exact ⟨rfl, executes_of_replied hreply, fun _ => rfl, fun t _ h => absurd h hsame⟩

theorem hash_eq_iff (p q : Purchase) : p.call.hash = q.call.hash ↔ p.SameAmounts q := by
  have hcolon : ascii ":" = [58] := rfl
  constructor
  · intro h
    simp only [Call.hash, payloadHash, hcolon, List.append_assoc, List.singleton_append] at h
    obtain ⟨hprice, hdeposit⟩ := append_cons_inj (notMem_decimal (by decide) _) (notMem_decimal (by decide) _) h
    exact ⟨decimal_injective hprice, decimal_injective hdeposit⟩
  · rintro ⟨hprice, hdeposit⟩
    simp only [Call.hash, hprice, hdeposit]

/-! ### The invariant -/

/-- The store keeps for each key the first purchase with it. -/
def Ledger (sh : Shared) (ps : List Purchase) : Prop :=
  ∀ key, (sh.store.map.lookup key).map told = (ps.find? fun p => p.key = key).map kept

variable {sh : Shared} {ps : List Purchase} {p : Purchase}

theorem find?_snoc (ps : List Purchase) (p : Purchase) (key : Bytes) : (ps ++ [p]).find? (fun q => q.key = key) =
    (ps.find? fun q => q.key = key).or (if p.key = key then some p else none) := by
  rw [List.find?_append, List.find?_singleton]
  by_cases h : p.key = key <;> simp [h]

theorem find?_eq_none_iff (key : Bytes) : ps.find? (fun p => p.key = key) = none ↔ key ∉ ps.map Purchase.key := by
  simp [List.find?_eq_none]

theorem Ledger.new (h : Ledger sh ps) (hp : p.key ∉ ps.map Purchase.key) : sh.store.map.lookup p.key = none := by
  have hkept := h p.key
  rw [(find?_eq_none_iff p.key).mpr hp] at hkept
  exact Option.map_eq_none_iff.mp hkept

theorem Ledger.known (h : Ledger sh ps) (hp : p.key ∈ ps.map Purchase.key) :
    ∃ first, ps.find? (fun q => q.key = p.key) = some first ∧ (sh.store.map.lookup p.key).map told = some (kept first) := by
  cases hfind : ps.find? fun q => q.key = p.key with
  | none => exact absurd hp ((find?_eq_none_iff p.key).mp hfind)
  | some first => exact ⟨first, rfl, by rw [h, hfind, Option.map_some]⟩

theorem Ledger.step (h : Ledger sh ps) (hbusy : sh.busy = false) (hvalid : validUtf8 p.key = true) :
    Ledger (handle p.call sh).1 (ps ++ [p]) := by
  intro key
  by_cases hp : p.key ∈ ps.map Purchase.key
  · obtain ⟨first, hfind, hknown⟩ := h.known hp
    rw [(handle_known hknown).1, h, find?_snoc]
    by_cases hkey : p.key = key
    · rw [← hkey, hfind, Option.some_or]
    · rw [if_neg hkey, Option.or_none]
  · rw [(handle_new hvalid hbusy (h.new hp)).2.2.2, find?_snoc]
    by_cases hkey : p.key = key
    · rw [if_pos hkey.symm, if_pos hkey, ← hkey, (find?_eq_none_iff p.key).mpr hp, Option.none_or, Option.map_some]
    · rw [if_neg (Ne.symm hkey), if_neg hkey, Option.or_none, h]

theorem after_append (sh : Shared) (before ps : List Purchase) : after sh (before ++ ps) = after (after sh before) ps :=
  List.foldl_append

theorem executions_append (key : Bytes) (sh : Shared) (before ps : List Purchase) :
    executions key sh (before ++ ps) = executions key sh before + executions key (after sh before) ps := by
  induction before generalizing sh with
  | nil => simp [executions, after]
  | cons p before ih => rw [List.cons_append, executions, executions, ih, add_assoc, after, after, List.foldl_cons]

theorem after_frozen (hbusy : sh.busy = true) (ps : List Purchase) : after sh ps = sh := by
  induction ps with
  | nil => rfl
  | cons p ps ih =>
    rw [after, List.foldl_cons, (handle_frozen p.call hbusy).1]
    exact ih

theorem executions_frozen (hbusy : sh.busy = true) (key : Bytes) (ps : List Purchase) : executions key sh ps = 0 := by
  induction ps with
  | nil => rfl
  | cons p ps ih => simp [executions, handle_frozen p.call hbusy, ih]

/-- The router before the first purchase. -/
def opened (ttlHours readAt sweptAt : Int) : Shared := ⟨openOn ttlHours [] readAt sweptAt, false⟩

theorem ledger_opened (ttlHours readAt sweptAt : Int) : Ledger (opened ttlHours readAt sweptAt) [] := by
  intro key
  have hempty : (openOn ttlHours [] readAt sweptAt).map.lookup key = none := by
    unfold openOn sweepExpired
    dsimp only
    split_ifs <;> simp [Dict.lookup_keep]
  rw [opened, hempty]
  rfl

/-! ### While the engine returns -/

/-- For no key does the purchase that is the first with it throw. -/
def Returns (ps : List Purchase) : Prop :=
  ∀ before p rest, ps = before ++ p :: rest → p.key ∉ before.map Purchase.key → ¬ p.Throws

theorem Returns.before {before rest : List Purchase} (h : Returns (before ++ rest)) : Returns before :=
  fun b p r heq => h b p (r ++ rest) (by rw [heq]; simp)

/-- The first purchase that throws, if one does. -/
theorem not_returns_iff : ¬ Returns ps ↔
    ∃ before p rest, ps = before ++ p :: rest ∧ p.key ∉ before.map Purchase.key ∧ p.Throws ∧ Returns before := by
  constructor
  · intro h
    induction ps using List.reverseRecOn with
    | nil => exact absurd (fun before p rest heq => by simp at heq) h
    | append_singleton ps q ih =>
      by_cases hps : Returns ps
      · refine ⟨ps, q, [], rfl, ?_⟩
        by_contra hq
        refine h fun before p rest heq hp hthrows => ?_
        rcases List.eq_nil_or_concat rest with rfl | ⟨rest, q', rfl⟩
        · obtain ⟨rfl, hlast⟩ := List.append_inj' heq rfl
          obtain rfl := List.singleton_injective hlast
          exact hq ⟨hp, hthrows, hps⟩
        · rw [List.concat_eq_append, ← List.cons_append, ← List.append_assoc] at heq
          exact hps before p rest (List.append_inj' heq rfl).1 hp hthrows
      · obtain ⟨before, p, rest, heq, hrest⟩ := ih hps
        exact ⟨before, p, rest ++ [q], by rw [heq]; simp, hrest⟩
  · rintro ⟨before, p, rest, heq, hp, hthrows, -⟩ h
    exact h before p rest heq hp hthrows

/-- As long as the engine returns, the router is free and its store is the ledger. -/
theorem ledger_after (h : Ledger sh []) (hbusy : sh.busy = false) (hreturns : Returns ps)
    (hvalid : ∀ p ∈ ps, validUtf8 p.key = true) : Ledger (after sh ps) ps ∧ (after sh ps).busy = false := by
  induction ps using List.reverseRecOn with
  | nil => exact ⟨h, hbusy⟩
  | append_singleton ps p ih =>
    obtain ⟨hledger, hfree⟩ := ih hreturns.before fun q hq => hvalid q (List.mem_append_left _ hq)
    have hp := hvalid p (by simp)
    rw [after_append]
    refine ⟨hledger.step hfree hp, ?_⟩
    by_cases hnew : p.key ∈ ps.map Purchase.key
    · obtain ⟨first, -, hknown⟩ := hledger.known hnew
      rw [after, List.foldl_cons, (handle_known hknown).1]
      exact hfree
    · cases hengine : p.call.engine with
      | error e => exact absurd ⟨e, hengine⟩ (hreturns ps p [] rfl hnew)
      | ok t => exact ((handle_new hp hfree (hledger.new hnew)).2.1 t hengine).2

theorem executions_returns (h : Ledger sh []) (hbusy : sh.busy = false) (hreturns : Returns ps)
    (hvalid : ∀ p ∈ ps, validUtf8 p.key = true) (key : Bytes) :
    executions key sh ps = if key ∈ ps.map Purchase.key then 1 else 0 := by
  induction ps using List.reverseRecOn with
  | nil => rfl
  | append_singleton ps p ih =>
    have hvalid' : ∀ q ∈ ps, validUtf8 q.key = true := fun q hq => hvalid q (List.mem_append_left _ hq)
    obtain ⟨hledger, hfree⟩ := ledger_after h hbusy hreturns.before hvalid'
    rw [executions_append, ih hreturns.before hvalid', executions, executions, Nat.add_zero]
    by_cases hnew : p.key ∈ ps.map Purchase.key
    · obtain ⟨first, -, hknown⟩ := hledger.known hnew
      rw [(handle_known hknown).2.1]
      by_cases hkey : p.key = key
      · subst hkey
        simp [hnew]
      · simp [Ne.symm hkey]
    · rw [(handle_new (hvalid p (by simp)) hfree (hledger.new hnew)).1]
      by_cases hkey : p.key = key
      · subst hkey
        simp [hnew]
      · simp [hkey, Ne.symm hkey]

theorem kept_first {before mid : List Purchase} {first : Purchase} (h : Ledger sh (before ++ first :: mid))
    (hfirst : first.key ∉ before.map Purchase.key) : (sh.store.map.lookup first.key).map told = some (kept first) := by
  have hfind : (before ++ first :: mid).find? (fun q => q.key = first.key) = some first := by
    rw [List.find?_append, (find?_eq_none_iff first.key).mpr hfirst, Option.none_or]
    simp
  rw [h, hfind, Option.map_some]

theorem idempotent_returns (h : Ledger sh []) (hbusy : sh.busy = false) (hreturns : Returns ps)
    (hvalid : ∀ p ∈ ps, validUtf8 p.key = true) : Idempotent sh ps := by
  have hknown : ∀ before first mid p rest, ps = before ++ first :: (mid ++ p :: rest) →
      first.key ∉ before.map Purchase.key → p.key = first.key →
      ((after sh (before ++ first :: mid)).store.map.lookup p.key).map told = some (kept first) := by
    intro before first mid p rest heq hfirst hkey
    have hsplit : ps = (before ++ first :: mid) ++ p :: rest := by rw [heq]; simp
    rw [hsplit] at hreturns hvalid
    rw [hkey]
    exact kept_first (ledger_after h hbusy hreturns.before fun q hq => hvalid q (List.mem_append_left _ hq)).1 hfirst
  refine ⟨fun key hkey => ?_, ?_, ?_⟩
  · rw [executions_returns h hbusy hreturns hvalid, if_pos hkey]
  · intro before first mid p rest heq hfirst hkey hsame
    have hreturned : Returns before := Returns.before (heq ▸ hreturns)
    obtain ⟨hledger, hfree⟩ := ledger_after h hbusy hreturned fun q hq =>
      hvalid q (by rw [heq]; exact List.mem_append_left _ hq)
    cases hengine : first.call.engine with
    | error e => exact absurd ⟨e, hengine⟩ (hreturns before first _ heq hfirst)
    | ok t =>
      refine ⟨successJson t, ?_, ?_⟩
      · exact ((handle_new (hvalid first (by simp [heq])) hfree (hledger.new hfirst)).2.1 t hengine).1
      · exact (handle_known (hknown before first mid p rest heq hfirst hkey)).2.2.2 t hengine ((hash_eq_iff p first).mpr hsame)
  · intro before first mid p rest heq hfirst hkey hdiffer
    obtain ⟨hsame, hexec, hreply, -⟩ := handle_known (hknown before first mid p rest heq hfirst hkey)
    exact ⟨hreply (mt (hash_eq_iff p first).mp hdiffer), hexec, hsame⟩

/-! ### Once the engine throws -/

/-- After a purchase that is the first with its key and throws there come only keys that came before it, and its own with
other amounts. -/
def Undisturbed (ps : List Purchase) : Prop :=
  ∀ before p rest, ps = before ++ p :: rest → p.key ∉ before.map Purchase.key → p.Throws →
    ∀ q ∈ rest, q.key ∈ before.map Purchase.key ∨ (q.key = p.key ∧ ¬ q.SameAmounts p)

/-- There is one place where a key comes first. -/
theorem first_unique {before before' rest rest' : List Purchase} {q : Purchase}
    (heq : before ++ p :: rest = before' ++ q :: rest') (hkey : p.key = q.key) (hp : p.key ∉ before.map Purchase.key)
    (hq : q.key ∉ before'.map Purchase.key) : before = before' ∧ p = q ∧ rest = rest' := by
  induction before generalizing before' with
  | nil =>
    cases before' with
    | nil => simpa using heq
    | cons r before' =>
      obtain ⟨rfl, -⟩ := List.cons.inj heq
      simp [hkey] at hq
  | cons r before ih =>
    cases before' with
    | nil =>
      obtain ⟨rfl, -⟩ := List.cons.inj heq
      simp [hkey] at hp
    | cons r' before' =>
      obtain ⟨rfl, htail⟩ := List.cons.inj heq
      simp only [List.map_cons, List.mem_cons, not_or] at hp hq
      obtain ⟨rfl, rfl, rfl⟩ := ih htail hp.2 hq.2
      exact ⟨rfl, rfl, rfl⟩

theorem exists_first {key : Bytes} (h : key ∈ ps.map Purchase.key) :
    ∃ before p rest, ps = before ++ p :: rest ∧ p.key = key ∧ p.key ∉ before.map Purchase.key := by
  cases hfind : ps.find? fun q => q.key = key with
  | none => exact absurd h ((find?_eq_none_iff key).mp hfind)
  | some p =>
    obtain ⟨hp, before, rest, heq, hbefore⟩ := List.find?_eq_some_iff_append.mp hfind
    obtain rfl : p.key = key := by simpa using hp
    refine ⟨before, p, rest, heq, rfl, fun hmem => ?_⟩
    obtain ⟨q, hq, hkey⟩ := List.mem_map.mp hmem
    simpa [hkey] using hbefore q hq

section Stuck
variable {before rest : List Purchase} (h : Ledger sh []) (hbusy : sh.busy = false) (hreturns : Returns before)
  (hnew : p.key ∉ before.map Purchase.key) (hthrows : p.Throws) (hvalid : ∀ q ∈ before ++ p :: rest, validUtf8 q.key = true)
include h hbusy hreturns hnew hthrows hvalid

/-- The purchase that throws is run, is kept and leaves the flag set. -/
theorem stuck : executes p.call (after sh before) = true ∧ (∀ body, (handle p.call (after sh before)).2 ≠ .replied 200 body) ∧
    Ledger (after sh (before ++ [p])) (before ++ [p]) ∧ (after sh (before ++ [p])).busy = true := by
  obtain ⟨hledger, hfree⟩ := ledger_after h hbusy hreturns fun q hq => hvalid q (List.mem_append_left _ hq)
  have hp := hvalid p (by simp)
  obtain ⟨e, hengine⟩ := hthrows
  obtain ⟨hexec, -, herror, -⟩ := handle_new hp hfree (hledger.new hnew)
  rw [after_append]
  refine ⟨hexec, fun body hbody => ?_, hledger.step hfree hp, (herror e hengine).2⟩
  rw [(herror e hengine).1] at hbody
  cases hbody

theorem after_stuck (l : List Purchase) : after sh (before ++ p :: l) = after sh (before ++ [p]) := by
  have hsplit : before ++ p :: l = (before ++ [p]) ++ l := by simp
  rw [hsplit, after_append, after_frozen (stuck h hbusy hreturns hnew hthrows hvalid).2.2.2]

theorem executions_stuck (key : Bytes) :
    executions key sh (before ++ p :: rest) = if key ∈ (before ++ [p]).map Purchase.key then 1 else 0 := by
  obtain ⟨hexec, -, -, hflag⟩ := stuck h hbusy hreturns hnew hthrows hvalid
  have hstate : (handle p.call (after sh before)).1.busy = true := by
    rw [after_append] at hflag
    exact hflag
  rw [executions_append, executions, executions_frozen hstate, hexec,
    executions_returns h hbusy hreturns fun q hq => hvalid q (List.mem_append_left _ hq)]
  by_cases hkey : p.key = key
  · subst hkey
    simp [hnew]
  · simp [hkey, Ne.symm hkey]

/-- What a later request with an old key finds. -/
theorem known_stuck {before' mid l : List Purchase} {first : Purchase} (heq : before' ++ first :: mid = before ++ p :: l)
    (hfirst : first.key ∉ before'.map Purchase.key) (hold : first.key ∈ (before ++ [p]).map Purchase.key) :
    ((after sh (before ++ [p])).store.map.lookup first.key).map told = some (kept first) := by
  obtain ⟨-, -, hledger, -⟩ := stuck h hbusy hreturns hnew hthrows hvalid
  have hfind : (before' ++ first :: mid).find? (fun q => q.key = first.key) = some first := by
    rw [List.find?_append, (find?_eq_none_iff first.key).mpr hfirst, Option.none_or]
    simp
  have hsplit : before ++ p :: l = (before ++ [p]) ++ l := by simp
  rw [heq, hsplit, List.find?_append] at hfind
  rw [hledger first.key]
  cases hget : (before ++ [p]).find? fun q => q.key = first.key with
  | none => exact absurd hold ((find?_eq_none_iff first.key).mp hget)
  | some q =>
    rw [hget, Option.some_or] at hfind
    rw [hfind, Option.map_some]

theorem idempotent_stuck_iff : Idempotent sh (before ++ p :: rest) ↔
    ∀ q ∈ rest, q.key ∈ before.map Purchase.key ∨ (q.key = p.key ∧ ¬ q.SameAmounts p) := by
  obtain ⟨-, hreply, -, -⟩ := stuck h hbusy hreturns hnew hthrows hvalid
  have hvalid' : ∀ q ∈ before, validUtf8 q.key = true := fun q hq => hvalid q (List.mem_append_left _ hq)
  constructor
  · intro hidem q hq
    obtain ⟨mid, rest', rfl⟩ := List.append_of_mem hq
    by_cases hold : q.key ∈ before.map Purchase.key
    · exact Or.inl hold
    · by_cases hkey : q.key = p.key
      · refine Or.inr ⟨hkey, fun hsame => ?_⟩
        obtain ⟨body, hbody, -⟩ := hidem.repeated before p mid q rest' rfl hnew hkey hsame
        exact hreply body hbody
      · have honce := hidem.once q.key (by simp)
        rw [executions_stuck h hbusy hreturns hnew hthrows hvalid] at honce
        simp [hold, hkey] at honce
  · intro hrest
    have hold : ∀ q ∈ before ++ p :: rest, q.key ∈ (before ++ [p]).map Purchase.key := by
      intro q hq
      simp only [List.map_append, List.mem_append, List.map_cons, List.map_nil, List.mem_cons, List.not_mem_nil,
        or_false] at hq ⊢
      rcases hq with hq | rfl | hq
      · exact Or.inl (List.mem_map_of_mem hq)
      · exact Or.inr rfl
      · exact (hrest q hq).imp_right And.left
    have hbefore := idempotent_returns h hbusy hreturns hvalid'
    -- A later request comes either before the purchase that throws or after it.
    have hplace : ∀ before' first mid q rest', before ++ p :: rest = before' ++ first :: (mid ++ q :: rest') →
        q.key = first.key → first.key ∉ before'.map Purchase.key →
        (∃ l, before = before' ++ first :: (mid ++ q :: l)) ∨
          ∃ l, before' ++ first :: mid = before ++ p :: l ∧ q ∈ rest := by
      intro before' first mid q rest' heq hkey hfirst
      have hsplit : (before' ++ first :: mid) ++ q :: rest' = before ++ p :: rest := by rw [heq]; simp
      rcases List.append_eq_append_iff.mp hsplit with ⟨l, hl, hl'⟩ | ⟨l, hl, hl'⟩
      · cases l with
        | nil =>
          obtain ⟨rfl, -⟩ := List.cons.inj hl'
          refine absurd ?_ hnew
          rw [hl, hkey]
          simp
        | cons q' l =>
          obtain ⟨rfl, -⟩ := List.cons.inj hl'
          exact Or.inl ⟨l, by rw [hl]; simp⟩
      · cases l with
        | nil =>
          obtain ⟨rfl, -⟩ := List.cons.inj hl'
          refine absurd ?_ hnew
          rw [List.append_nil] at hl
          rw [← hl, hkey]
          simp
        | cons p' l =>
          obtain ⟨rfl, htail⟩ := List.cons.inj hl'
          exact Or.inr ⟨l, hl, by rw [htail]; simp⟩
    have hanswer : ∀ before' first mid q l, before' ++ first :: mid = before ++ p :: l → q ∈ rest → q.key = first.key →
        first.key ∉ before'.map Purchase.key →
        (handle q.call (after sh (before' ++ first :: mid))).1 = after sh (before' ++ first :: mid) ∧
          executes q.call (after sh (before' ++ first :: mid)) = false ∧
          (q.call.hash ≠ first.call.hash →
            (handle q.call (after sh (before' ++ first :: mid))).2 = .replied 409 mismatchJson) ∧
          ∀ t, first.call.engine = .ok t → q.call.hash = first.call.hash →
            (handle q.call (after sh (before' ++ first :: mid))).2 = .replied 200 (successJson t) := by
      intro before' first mid q l hl hq hkey hfirst
      have hknown := known_stuck h hbusy hreturns hnew hthrows hvalid hl hfirst (by
        rw [← hkey]
        exact hold q (by simp [hq]))
      rw [hl, after_stuck h hbusy hreturns hnew hthrows hvalid l]
      exact handle_known (hkey ▸ hknown)
    refine ⟨fun key hkey => ?_, ?_, ?_⟩
    · obtain ⟨q, hq, rfl⟩ := List.mem_map.mp hkey
      rw [executions_stuck h hbusy hreturns hnew hthrows hvalid, if_pos (hold q hq)]
    · intro before' first mid q rest' heq hfirst hkey hsame
      rcases hplace before' first mid q rest' heq hkey hfirst with ⟨l, hl⟩ | ⟨l, hl, hq⟩
      · exact hbefore.repeated before' first mid q l hl hfirst hkey hsame
      · rcases hrest q hq with hq' | ⟨hq', hdiffer⟩
        · obtain ⟨b, f, b', hb, hf, hfnew⟩ := exists_first hq'
          obtain ⟨rfl, rfl, -⟩ := first_unique (show _ = b ++ f :: (b' ++ p :: l) by rw [hl, hb]; simp)
            (hkey.symm.trans hf.symm) hfirst hfnew
          have hreturned : Returns before' := Returns.before (hb ▸ hreturns)
          obtain ⟨hledger, hfree⟩ := ledger_after h hbusy hreturned fun r hr =>
            hvalid' r (by rw [hb]; exact List.mem_append_left _ hr)
          cases hengine : first.call.engine with
          | error e => exact absurd ⟨e, hengine⟩ (hreturns before' first b' hb hfirst)
          | ok t =>
            refine ⟨successJson t, ?_, ?_⟩
            · exact ((handle_new (hvalid' first (by simp [hb])) hfree (hledger.new hfirst)).2.1 t hengine).1
            · exact (hanswer before' first mid q l hl hq hkey hfirst).2.2.2 t hengine ((hash_eq_iff q first).mpr hsame)
        · obtain ⟨-, rfl, -⟩ := first_unique hl (hkey.symm.trans hq') hfirst hnew
          exact absurd hsame hdiffer
    · intro before' first mid q rest' heq hfirst hkey hdiffer
      rcases hplace before' first mid q rest' heq hkey hfirst with ⟨l, hl⟩ | ⟨l, hl, hq⟩
      · exact hbefore.conflicting before' first mid q l hl hfirst hkey hdiffer
      · obtain ⟨hsame, hexec, hmismatch, -⟩ := hanswer before' first mid q l hl hq hkey hfirst
        exact ⟨hmismatch (mt (hash_eq_iff q first).mp hdiffer), hexec, hsame⟩

end Stuck

/-- Over every sequence of purchases with keys that can be logged, on a store opened empty. -/
theorem idempotent_iff (ttlHours readAt sweptAt : Int) (ps : List Purchase) (hvalid : ∀ p ∈ ps, validUtf8 p.key = true) :
    Idempotent (opened ttlHours readAt sweptAt) ps ↔ Undisturbed ps := by
  have hledger := ledger_opened ttlHours readAt sweptAt
  by_cases hreturns : Returns ps
  · refine iff_of_true (idempotent_returns hledger rfl hreturns hvalid) fun before p rest heq hp hthrows => ?_
    exact absurd hthrows (hreturns before p rest heq hp)
  · obtain ⟨before, p, rest, rfl, hnew, hthrows, hbefore⟩ := not_returns_iff.mp hreturns
    rw [idempotent_stuck_iff hledger rfl hbefore hnew hthrows hvalid]
    refine ⟨fun hrest before' p' rest' heq hp' hthrows' => ?_, fun h => h before p rest rfl hnew hthrows⟩
    -- No other purchase is the first with its key and throws.
    rcases List.append_eq_append_iff.mp heq with ⟨l, hl, hl'⟩ | ⟨l, hl, hl'⟩
    · cases l with
      | nil =>
        rw [List.append_nil] at hl
        obtain ⟨rfl, rfl⟩ := List.cons.inj hl'
        rw [hl]
        exact hrest
      | cons q l =>
        obtain ⟨rfl, htail⟩ := List.cons.inj hl'
        have hp'' := hrest p' (by rw [htail]; simp)
        rw [hl] at hp'
        simp only [List.map_append, List.map_cons, List.mem_append, List.mem_cons, not_or] at hp'
        exact absurd hp'' (by tauto)
    · cases l with
      | nil =>
        rw [List.append_nil] at hl
        obtain ⟨rfl, rfl⟩ := List.cons.inj hl'
        rw [← hl]
        exact hrest
      | cons q l =>
        obtain ⟨rfl, -⟩ := List.cons.inj hl'
        exact absurd hthrows' (hbefore before' p' l hl hp')

/-- Devices that do what they are asked. -/
def obliging : ∀ e, Ans e
  | .checkAndBlockMotion => true
  | .dispenseCoins coins => { ok := true, requested := coins, dispensed := coins }
  | .append _ => true
  | .openMm _ => { ok := true }
  | .closeMm _ => { ok := true }

theorem ran_obliging {t t' : Txn} {tr : Trace} {prog : Prog} (htr : (perform obliging prog).1 = tr)
    (ht' : (perform obliging prog).2 = t') (ht : (Except.ok t' : Except Exn Txn) = .ok t) : Runs prog tr t := by
  obtain rfl := Except.ok.inj ht
  rw [← htr, ← ht']
  exact runs_perform obliging prog

def samplePurchase (key : Bytes) (price : Int) : Purchase where
  call := { req := { priceCents := price, depositCents := 200, idemKey := key }
            engine := .ok (perform obliging (runPurchase {} 0 price 200)).2 }
  session := { trace := (perform obliging (runPurchase {} 0 price 200)).1 }
  ran _ ht := ran_obliging rfl rfl ht

/-- A purchase, its repetition, another one, and the first key with another price. -/
def samplePurchases : List Purchase :=
  [samplePurchase (ascii "k-1") 100, samplePurchase (ascii "k-1") 100, samplePurchase (ascii "k-2") 75,
    samplePurchase (ascii "k-1") 75]

theorem idempotent_iff_sample : Idempotent (opened 24 0 0) samplePurchases := by
  refine (idempotent_iff 24 0 0 samplePurchases (by decide +kernel)).mpr ?_
  rintro before p rest heq - ⟨e, he⟩
  have hmem : p ∈ samplePurchases := by rw [heq]; simp
  have hok : ∀ key price, (samplePurchase key price).call.engine ≠ .error e := fun _ _ => by simp [samplePurchase]
  simp only [samplePurchases, List.mem_cons, List.not_mem_nil, or_false] at hmem
  rcases hmem with rfl | rfl | rfl | rfl <;> exact absurd he (hok _ _)

theorem unreturned {t : Txn} (h : (Except.error .other : Except Exn Txn) = .ok t) : False := by cases h

def brokenPurchase : Purchase where
  call := { req := { priceCents := 100, depositCents := 200, idemKey := ascii "k-1" }, engine := .error .other }
  session := {}
  ran _ ht := (unreturned ht).elim

/-- The repetition of a purchase that threw is not answered 200. -/
theorem broken_purchase_pending : ¬ ∀ ps : List Purchase, (∀ p ∈ ps, validUtf8 p.key = true) → Idempotent (opened 0 0 0) ps := by
  intro h
  have hidem := h [brokenPurchase, brokenPurchase] (by decide +kernel)
  obtain ⟨body, -, hbody⟩ := hidem.repeated [] brokenPurchase [] brokenPurchase [] rfl (by simp) rfl ⟨rfl, rfl⟩
  have hreply : (handle brokenPurchase.call (after (opened 0 0 0) [brokenPurchase])).2 = .replied 202 pendingJson := by
    decide +kernel
  rw [List.nil_append, hreply] at hbody
  cases hbody

end Drawer.Pos.Router
