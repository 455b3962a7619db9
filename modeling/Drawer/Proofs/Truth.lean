import Drawer.Sanity.Engine
import Drawer.Sanity.Router

/-! Which replies of the router are true. `success_json` is written from the plan
of a transaction however it ended, and the store repeats it for every retry; it
is true exactly if the devices did all they were asked. -/

namespace Drawer.Pos
open Text Effect Journal TxnEngine Transition IdempotencyStore Router SerialConnector

variable {ι : Type}

theorem Reported.mono {calls : ι → Call} {runs runs' : List ι} {key body : Bytes} (h : Reported calls runs key body)
    (hsub : runs ⊆ runs') : Reported calls runs' key body := by
  obtain ⟨j, hj, t, ht⟩ := h
  exact ⟨j, hsub hj, t, ht⟩

theorem Backed.mono {calls : ι → Call} {store : IdempotencyStore} {runs runs' : List ι}
    (h : Backed calls store runs) (hsub : runs ⊆ runs') : Backed calls store runs' :=
  fun key r hr hs => Reported.mono (h key r hr hs) hsub

theorem Backed.putPending {calls : ι → Call} {store : IdempotencyStore} {runs : List ι} (h : Backed calls store runs)
    (key hash : Bytes) (now : Int) : Backed calls (store.putPending key hash now).1 runs := by
  intro key' r hr hs
  rw [IdempotencyStore.putPending, writeLine_map, Dict.lookup_insert_if] at hr
  split_ifs at hr with hk
  · obtain rfl := Option.some.inj hr
    exact absurd hs (show ¬ ascii "PENDING" = ascii "DONE" by decide)
  · exact h key' r hr hs

theorem Backed.putDone {calls : ι → Call} {store : IdempotencyStore} {runs : List ι} (h : Backed calls store runs)
    {key body : Bytes} (hb : Reported calls runs key body) (hash : Bytes) (now : Int) :
    Backed calls (store.putDone key hash body now).1 runs := by
  intro key' r hr hs
  rw [IdempotencyStore.putDone, writeLine_map, Dict.lookup_insert_if] at hr
  by_cases hk : key' = key
  · rw [if_pos hk] at hr
    obtain rfl := Option.some.inj hr
    exact hk ▸ hb
  · rw [if_neg hk] at hr
    exact h key' r hr hs

theorem lookup_of_matchDone {s : IdempotencyStore} {key hash : Bytes} {o : Option IdemRec}
    (h : s.check key hash = (.matchDone, o)) : ∃ r, o = some r ∧ s.map.lookup key = some r ∧ r.status = ascii "DONE" := by
  unfold check at h
  cases hl : s.map.lookup key with
  | none => simp [hl] at h
  | some r =>
    simp only [hl] at h
    split_ifs at h with h1 h2 h3 <;> simp only [Prod.mk.injEq, reduceCtorEq, false_and, true_and] at h
    exact ⟨r, h.symm, rfl, h3⟩

/-- The call has run the engine, which returned `t`, and has not replied yet. -/
def Carries (p : Pc) (t : Txn) : Prop := p = .ran t ∨ p = .cleared t ∨ p = .published t

/-- What the router says is always the report of a purchase made for the key. -/
structure Honest (calls : ι → Call) (s : Sys ι) : Prop where
  backed : Backed calls s.shared.store s.runs
  carries : ∀ i t, Carries (s.pc i) t → i ∈ s.runs ∧ (calls i).engine = .ok t
  replied : ∀ i body, s.pc i = .replied 200 body → Reported calls s.runs (calls i).key body

variable [DecidableEq ι]

theorem Honest.update {calls : ι → Call} {s : Sys ι} (h : Honest calls s) (i : ι) (p : Pc) (sh : Shared)
    {runs : List ι} (hsub : s.runs ⊆ runs) (hback : Backed calls sh.store runs)
    (hc : ∀ t, Carries p t → i ∈ runs ∧ (calls i).engine = .ok t)
    (hr : ∀ body, p = .replied 200 body → Reported calls runs (calls i).key body) :
    Honest calls { shared := sh, pc := Function.update s.pc i p, runs } where
  backed := hback
  carries j t hj := by
    rcases update_cases (P := (Carries · t)) hj with ⟨rfl, hp⟩ | ⟨-, hj⟩
    · exact hc t hp
    · exact ⟨hsub (h.carries j t hj).1, (h.carries j t hj).2⟩
  replied j body hj := by
    rcases update_cases (P := (· = Pc.replied 200 body)) hj with ⟨rfl, hp⟩ | ⟨-, hj⟩
    · exact hr body hp
    · exact (h.replied j body hj).mono hsub

/-- A step that runs no purchase and after which the call neither carries one nor has replied OK. -/
theorem Honest.plain {calls : ι → Call} {s : Sys ι} (h : Honest calls s) (i : ι) (p : Pc) (sh : Shared)
    (hback : Backed calls sh.store s.runs) (hc : ∀ t, ¬ Carries p t) (hr : ∀ body, p ≠ .replied 200 body) :
    Honest calls { shared := sh, pc := Function.update s.pc i p, runs := s.runs } :=
  h.update i p sh (List.Subset.refl _) hback (fun t ht => absurd ht (hc t)) fun body hb => absurd hb (hr body)

theorem honest_advance {calls : ι → Call} {s : Sys ι} (h : Honest calls s) (i : ι) :
    Honest calls (advance calls s i) := by
  unfold advance
  cases hpc : s.pc i with
  | start =>
    dsimp only [step]
    split
    · exact h.plain i _ _ h.backed (by simp [Carries]) (by simp)
    · exact h.plain i _ _ h.backed (by simp [Carries]) (by simp)
    · rename_i o hcheck
      obtain ⟨r, rfl, hr, hs⟩ := lookup_of_matchDone hcheck
      refine h.update i _ _ (List.Subset.refl _) h.backed (by simp [Carries]) fun body hb => ?_
      obtain rfl : r.resultJson = body := (Pc.replied.inj hb).2
      exact h.backed _ r hr hs
    · exact h.plain i _ _ h.backed (by simp [Carries]) (by simp)
  | passed =>
    dsimp only [step]
    by_cases hb : s.shared.busy = true
    · rw [if_pos hb]
      exact h.plain i _ _ h.backed (by simp [Carries]) (by simp)
    · rw [if_neg hb]
      exact h.plain i _ _ h.backed (by simp [Carries]) (by simp)
  | acquired =>
    dsimp only [step]
    have hback := h.backed.putPending (calls i).key (calls i).hash (calls i).pendingAt
    split
    all_goals
      rename_i hput
      rw [hput] at hback
      exact h.plain i _ _ hback (by simp [Carries]) (by simp)
  | pended =>
    dsimp only [step]
    have hsub : s.runs ⊆ s.runs ++ [i] := List.subset_append_left _ _
    split
    · rename_i t heng
      refine h.update i _ _ hsub (h.backed.mono hsub) (fun t' ht => ?_) (by simp)
      obtain rfl : t = t' := by simpa [Carries] using ht
      exact ⟨by simp, heng⟩
    · exact h.update i _ _ hsub (h.backed.mono hsub) (by simp [Carries]) (by simp)
  | ran t =>
    dsimp only [step]
    refine h.update i _ _ (List.Subset.refl _) h.backed (fun t' ht => ?_) (by simp)
    obtain rfl : t = t' := by simpa [Carries] using ht
    exact h.carries i t (Or.inl hpc)
  | cleared t =>
    dsimp only [step]
    have hpub : afterPublish t (calls i).publisher = .published t := by cases (calls i).publisher <;> rfl
    rw [hpub]
    refine h.update i _ _ (List.Subset.refl _) h.backed (fun t' ht => ?_) (by simp)
    obtain rfl : t = t' := by simpa [Carries] using ht
    exact h.carries i t (Or.inr (Or.inl hpc))
  | published t =>
    dsimp only [step]
    obtain ⟨hi, heng⟩ := h.carries i t (Or.inr (Or.inr hpc))
    have hrep : Reported calls s.runs (calls i).key (successJson t) := ⟨i, hi, t, rfl, heng, rfl⟩
    have hback := h.backed.putDone hrep (calls i).hash (calls i).doneAt
    split
    · rename_i hput
      rw [hput] at hback
      refine h.update i _ _ (List.Subset.refl _) hback (by simp [Carries]) fun body hb => ?_
      obtain rfl : successJson t = body := (Pc.replied.inj hb).2
      exact hrep
    · rename_i hput
      rw [hput] at hback
      exact h.plain i _ _ hback (by simp [Carries]) (by simp)
  | replied status body =>
    refine h.update i _ _ (List.Subset.refl _) h.backed (by simp [step, Carries]) fun body' hb => ?_
    exact h.replied i body' (hpc.trans hb)
  | threw e => exact h.plain i _ _ h.backed (by simp [step, Carries]) (by simp [step])

theorem okLine_quarters {key : Bytes} {c q d n p c' q' d' n' p' : Int}
    (h : okLine key c q d n p = okLine key c' q' d' n' p') : q = q' := by
  have hblank : ∀ m : Int, (32 : UInt8) ∉ decimal m := notMem_decimal (by decide)
  simp only [okLine, List.append_assoc] at h
  have hchange := List.append_cancel_left (List.append_cancel_left (List.append_cancel_left h))
  have hq := (append_cons_inj (b := 32) (hblank c) (hblank c') hchange).2
  have hd := (append_cons_inj (b := 32) (hblank q) (hblank q') (@List.append_cancel_left _ (ascii "q=") _ _ hq)).1
  exact decimal_injective hd

section Report
variable {parse : Bytes → Except Exn (Json Bytes)} {t : Txn}
  (hparse : parse (successJson t) = .ok (successDoc t))
include hparse

/-- The body says exactly the planned count. -/
theorem says_successJson (q : Int) : Says parse (successJson t) q ↔ q = t.quarters := by
  constructor
  · rintro ⟨j, coins, hj, -, hcoins, hq⟩
    obtain rfl : successDoc t = j := Except.ok.inj (hparse.symm.trans hj)
    obtain rfl := Option.some.inj hcoins
    exact (Json.int.inj (Option.some.inj hq)).symm
  · rintro rfl
    exact ⟨_, _, hparse, rfl, rfl, rfl⟩

theorem truthful_successJson : Truthful parse t (successJson t) ↔ PaidAsPlanned t := by
  simp only [Truthful, says_successJson hparse, forall_eq, PaidAsPlanned]

theorem replyLine_successJson (key : Bytes) :
    replyLine parse key 200 (successJson t) = .ok (okLine key t.change t.quarters 0 0 0) := by
  simp only [replyLine, if_true, hparse]
  rfl

end Report

theorem truthfulLine_okLine (t : Txn) (key : Bytes) (change : Int) :
    TruthfulLine t key (okLine key change t.quarters 0 0 0) ↔ PaidAsPlanned t := by
  constructor
  · intro h
    exact h change t.quarters 0 0 0 rfl
  · intro h change' q d n p hline
    exact okLine_quarters hline ▸ h

/-- In every interleaving of any calls, a reply with status 200 reports a purchase made for its key, and it
and the serial line made of it are true exactly if the devices cooperated in that purchase. -/
theorem ok_reply_truthful_iff (parse : Bytes → Except Exn (Json Bytes)) (calls : ι → Call) (sessions : ι → Session)
    (hses : ∀ i, (sessions i).Of (calls i))
    (hparse : ∀ i t, (calls i).engine = .ok t → parse (successJson t) = .ok (successDoc t))
    (sh : Shared) (earlier : List ι) (hback : Backed calls sh.store earlier) (sched : List ι) (s : Sys ι)
    (hrun : Run (ofFun (advance calls)) { shared := sh, runs := earlier } sched s)
    (i : ι) (body : Bytes) (hrep : s.pc i = .replied 200 body) :
    ∃ j ∈ s.runs, ∃ t line, (calls j).key = (calls i).key ∧ (calls j).engine = .ok t ∧
      replyLine parse (calls i).key 200 body = .ok line ∧
      (Truthful parse t body ↔ (sessions j).Cooperative) ∧
      (TruthfulLine t (calls i).key line ↔ (sessions j).Cooperative) := by
  have hinit : Honest calls { shared := sh, runs := earlier } :=
    ⟨hback, by simp [Carries], by simp⟩
  have hhonest : Honest calls s := by
    refine hrun.invariant hinit ?_
    rintro s i s' hs rfl
    exact honest_advance hs i
  obtain ⟨j, hj, t, hkey, heng, rfl⟩ := hhonest.replied i body hrep
  have hplan : PaidAsPlanned t ↔ (sessions j).Cooperative := paidAsPlanned_iff (hses j t heng)
  have hread := hparse j t heng
  refine ⟨j, hj, t, _, hkey, heng, replyLine_successJson hread _, ?_, ?_⟩
  · rw [truthful_successJson hread, hplan]
  · rw [truthfulLine_okLine, hplan]

/-- Devices that do what they are asked, but for the dispenser, which pays out `pay n` of `n` coins. -/
def world (pay : Int → Int) : ∀ e, Ans e
  | .checkAndBlockMotion => true
  | .dispenseCoins n => { ok := decide (pay n = n), requested := n, dispensed := pay n }
  | .append _ => true
  | .openMm _ => ⟨true, none⟩
  | .closeMm _ => ⟨true, none⟩

/-- An item of 100 cents is paid with 150. -/
def trial (pay : Int → Int) : Trace × Txn := perform (world pay) (runPurchase {} 7 100 150)

def trialCall (pay : Int → Int) : Call := { req := ⟨100, 150, ascii "k"⟩, engine := .ok (trial pay).2 }

theorem trialCall_session (pay : Int → Int) : Session.Of { ns := 7, trace := (trial pay).1 } (trialCall pay) := by
  intro t ht
  obtain rfl := Except.ok.inj ht
  exact runs_perform _ _

/-- A reader of the one body `success_json` writes for `t`. -/
def readBack (t : Txn) (body : Bytes) : Except Exn (Json Bytes) :=
  if body = successJson t then .ok (successDoc t) else .error .other

theorem readBack_successJson (t : Txn) : readBack t (successJson t) = .ok (successDoc t) := if_pos rfl

theorem ok_reply_truthful_iff_paid_out :
    ∃ t, (trialCall id).engine = .ok t ∧ Truthful (readBack (trial id).2) t (successJson (trial id).2) := by
  obtain ⟨j, -, t, line, -, ht, -, hbody, -⟩ :=
    ok_reply_truthful_iff (readBack (trial id).2) (fun _ : Unit => trialCall id)
      (fun _ => { ns := 7, trace := (trial id).1 }) (fun _ => trialCall_session id)
      (by rintro - t ht; obtain rfl := Except.ok.inj ht; exact readBack_successJson _)
      ⟨{ ttlNs := 0 }, false⟩ [] (by rintro key r ⟨⟩) (List.replicate 7 ()) _ (run_foldl _ _ _) ()
      (successJson (trial id).2) (by decide)
  exact ⟨t, ht, hbody.mpr (by decide)⟩

/-- The dispenser pays nothing and reports it: the purchase ends VOID with no quarter paid, and the reply
says OK and two quarters. -/
theorem void_purchase_reported_ok :
    ¬ ∀ (parse : Bytes → Except Exn (Json Bytes)) (c : Call) (ses : Session) (t : Txn) (body : Bytes),
      ses.Of c → c.engine = .ok t → parse (successJson t) = .ok (successDoc t) →
      (handle c ⟨{ ttlNs := 0 }, false⟩).2 = .replied 200 body → Truthful parse t body := by
  intro hclaim
  have hbad := hclaim (readBack (trial fun _ => 0).2) (trialCall fun _ => 0) _ (trial fun _ => 0).2
    (successJson (trial fun _ => 0).2) (trialCall_session _) rfl (readBack_successJson _) (by decide)
  have hplan := (truthful_successJson (readBack_successJson _)).mp hbad
  exact absurd hplan.1 (by decide)

end Drawer.Pos
