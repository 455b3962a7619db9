import Drawer.Spec.Reply

/-! How a transaction ends: the phase and the counts `run_purchase` returns,
from the answers of the devices. -/

namespace Drawer.Pos
open Text Effect Journal TxnEngine

def SameCounts (r t : Txn) : Prop := r.quarters = t.quarters ∧ r.dispensed = t.dispensed

/-- From `t`, the effects `tr` ended in `t'`: the counts stay, and it is DONE exactly if the devices obliged. -/
def Delivered (t : Txn) (tr : Trace) (t' : Txn) : Prop :=
  SameCounts t' t ∧ (t'.phase = ascii "DONE" ↔ ∀ ev ∈ tr, obliged ev = true)

/-- Every finished run of `p` delivers from `t`. -/
def Settles (t : Txn) (p : Prog) : Prop := ∀ tr t', Runs p tr t' → Delivered t tr t'

theorem Delivered.cons {t t' : Txn} {tr : Trace} {ev : Sigma Ans} (hev : obliged ev = true)
    (h : Delivered t tr t') : Delivered t (ev :: tr) t' :=
  ⟨h.1, by simp [h.2, hev]⟩

theorem settles_append {t r : Txn} {k : Bool → Prog} (hk : ∀ b, Settles t (k b)) :
    Settles t (.call (.append r) k) := by
  intro tr t' h
  obtain ⟨b, tr', rfl, h'⟩ := runs_call.mp h
  exact (hk b tr' t' h').cons rfl

theorem runs_finish {r t' : Txn} {tr : Trace} (h : Runs (finish r) tr t') : t' = r ∧ ∀ ev ∈ tr, obliged ev = true := by
  obtain ⟨b, tr', rfl, h'⟩ := runs_call.mp h
  obtain ⟨rfl, rfl⟩ := runs_ret.mp h'
  exact ⟨rfl, by simp [obliged]⟩

/-- After a device that did not oblige, the void transaction is delivered. -/
theorem Delivered.void {t r t' : Txn} {tr : Trace} {ev : Sigma Ans} (hev : obliged ev = false)
    (hr : SameCounts r t) (h : Runs (finishVoid r) tr t') : Delivered t (ev :: tr) t' := by
  obtain ⟨rfl, -⟩ := runs_finish h
  refine ⟨hr, ?_⟩
  constructor
  · intro hd
    exact absurd hd (show ¬ ascii "VOID" = ascii "DONE" by decide)
  · intro ho
    exact absurd (ho ev List.mem_cons_self) (by simp [hev])

theorem settles_gate {t r : Txn} {e : Engine} {k : Prog} (hr : SameCounts r t) (hk : Settles t k) :
    Settles t (gate e r k) := by
  unfold gate
  split_ifs with hf
  · intro tr t' h
    obtain ⟨allowed, tr', rfl, h'⟩ := runs_call.mp h
    cases allowed with
    | true => exact (hk tr' t' h').cons rfl
    | false => exact Delivered.void (r := { r with reason := ascii "FAULT" }) rfl hr h'
  · exact hk

theorem settles_closeShutter {t r : Txn} (e : Engine) (hr : SameCounts r t) : Settles t (closeShutter e r) := by
  intro tr t' h
  obtain ⟨a, tr', rfl, h'⟩ := runs_call.mp h
  cases ha : a.ok with
  | false =>
    simp only [ha, Bool.not_false, if_true] at h'
    exact Delivered.void (r := { r with reason := a.reason.getD r.reason }) ha hr h'
  | true =>
    simp only [ha, Bool.not_true, Bool.false_eq_true, if_false] at h'
    refine Delivered.cons ha (settles_append (fun _ tr t' h => ?_) tr' t' h')
    obtain ⟨rfl, ho⟩ := runs_finish h
    exact ⟨hr, iff_of_true rfl ho⟩

theorem settles_present {t r : Txn} (e : Engine) (hr : SameCounts r t) : Settles t (present e r) := by
  refine settles_gate hr fun tr t' h => ?_
  obtain ⟨a, tr', rfl, h'⟩ := runs_call.mp h
  cases ha : a.ok with
  | false =>
    simp only [ha, Bool.not_false, if_true] at h'
    exact Delivered.void (r := { r with reason := a.reason.getD r.reason }) ha hr h'
  | true =>
    simp only [ha, Bool.not_true, Bool.false_eq_true, if_false] at h'
    refine Delivered.cons ha (settles_append (fun _ => ?_) tr' t' h')
    exact settles_gate hr (settles_closeShutter e hr)

/-- `t` ended DONE and paid just what was planned. -/
def PaidAsPlanned (t : Txn) : Prop := t.phase = ascii "DONE" ∧ t.quarters = t.dispensed

/-- The dispenser's answer and all that follows it. -/
theorem runs_dispense {e : Engine} {t t' : Txn} {tr : Trace} (h0 : t.dispensed = 0)
    (h : Runs (.call (.dispenseCoins (t.quarters - t.dispensed)) fun st =>
      .call (.append (withPayout t st)) fun _ => afterPayout e (withPayout t st) st) tr t') :
    PaidAsPlanned t' ↔ ∀ ev ∈ tr, obliged ev = true := by
  obtain ⟨st, tr', rfl, h'⟩ := runs_call.mp h
  obtain ⟨b, tr'', rfl, h''⟩ := runs_call.mp h'
  unfold afterPayout at h''
  have hd : (withPayout t st).dispensed = st.dispensed := by simp [withPayout, h0]
  have hq : (withPayout t st).quarters = t.quarters := rfl
  by_cases hshort : (!st.ok || (withPayout t st).dispensed < (withPayout t st).quarters) = true
  · rw [if_pos hshort] at h''
    obtain ⟨rfl, -⟩ := runs_finish h''
    constructor
    · rintro ⟨hp, -⟩
      exact absurd hp (show ¬ ascii "VOID" = ascii "DONE" by decide)
    · intro ho
      have hst := ho _ List.mem_cons_self
      simp only [hd, hq, Bool.or_eq_true, Bool.not_eq_true', decide_eq_true_eq] at hshort
      simp only [obliged, Bool.and_eq_true, decide_eq_true_eq] at hst
      rcases hshort with hk | hlt
      · simp [hst.1] at hk
      · omega
  · rw [if_neg hshort] at h''
    obtain ⟨⟨hq', hd'⟩, hp⟩ := settles_present e ⟨rfl, rfl⟩ tr'' t' h''
    simp only [Bool.or_eq_true, Bool.not_eq_true', decide_eq_true_eq, not_or, Bool.not_eq_false] at hshort
    rw [PaidAsPlanned, hp, hq', hd', hd, hq]
    simp only [List.forall_mem_cons, obliged, hshort.1, h0, sub_zero, Bool.true_and, decide_eq_true_eq, true_and]
    exact ⟨fun ⟨ho, he⟩ => ⟨he.symm, ho⟩, fun ⟨he, ho⟩ => ⟨ho, he.symm⟩⟩

theorem runs_continueTxn {e : Engine} {t t' : Txn} {tr : Trace} (h0 : t.dispensed = 0)
    (h : Runs (continueTxn e t) tr t') :
    PaidAsPlanned t' ↔ 0 ≤ t.quarters ∧ ∀ ev ∈ tr, obliged ev = true := by
  unfold continueTxn at h
  by_cases hq : t.quarters - t.dispensed > 0
  · rw [if_pos hq] at h
    have hq0 : 0 ≤ t.quarters := by omega
    simp only [hq0, true_and]
    unfold gate at h
    by_cases hf : e.fm = true
    · rw [if_pos hf] at h
      obtain ⟨allowed, tr', rfl, h'⟩ := runs_call.mp h
      cases allowed with
      | true =>
        rw [runs_dispense h0 h']
        simp [obliged]
      | false =>
        have hv : Delivered t (⟨.checkAndBlockMotion, false⟩ :: tr') t' :=
          Delivered.void (r := { t with reason := ascii "FAULT" }) rfl ⟨rfl, rfl⟩ h'
        have hbad : ¬ ∀ ev ∈ (⟨.checkAndBlockMotion, false⟩ :: tr' : Trace), obliged ev = true :=
          fun ho => absurd (ho _ List.mem_cons_self) (by simp [obliged])
        exact iff_of_false (fun hp => hbad (hv.2.mp hp.1)) hbad
    · rw [if_neg hf] at h
      exact runs_dispense h0 h
  · rw [if_neg hq] at h
    obtain ⟨⟨hq', hd'⟩, hp⟩ := settles_present e ⟨rfl, rfl⟩ tr t' h
    rw [PaidAsPlanned, hp, hq', hd', h0]
    constructor
    · rintro ⟨ho, he⟩
      exact ⟨he.ge, ho⟩
    · rintro ⟨hq0, ho⟩
      exact ⟨ho, by omega⟩

theorem newTxn_quarters_nonneg (e : Engine) (ns price deposit : Int) :
    0 ≤ (newTxn e ns price deposit).quarters ↔ 0 ≤ e.cfg.maxQuartersPerTxn := by
  have hc : 0 ≤ (max 0 (deposit - price)).tdiv 25 := Int.tdiv_nonneg (le_max_left _ _) (by decide)
  simp only [newTxn]
  omega

/-- A purchase is completed with just the planned quarters exactly if all devices cooperate. -/
theorem paidAsPlanned_iff {s : Session} {price deposit : Int} {t : Txn}
    (h : Runs (runPurchase s.engine s.ns price deposit) s.trace t) : PaidAsPlanned t ↔ s.Cooperative := by
  obtain ⟨b, tr', htr, h'⟩ := runs_call.mp h
  rw [runs_continueTxn rfl h', newTxn_quarters_nonneg, Session.Cooperative, htr]
  simp [obliged]

end Drawer.Pos
