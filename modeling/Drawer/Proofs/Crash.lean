import Drawer.Spec.Crash

/-! What a transaction pays out over crashes and restarts. `continue_txn` pays
before it records, so a crash between the two is paid again; where no crash falls
there, the last durable record always carries the coins paid so far. -/

namespace Drawer.TxnEngine
open Text Effect Journal Transition

@[simp] theorem paidOut_nil : paidOut [] = 0 := rfl

@[simp] theorem paidOut_cons (ev : Sigma Ans) (tr : Trace) : paidOut (ev :: tr) = paid ev + paidOut tr := by
  simp [paidOut]

@[simp] theorem paidOut_append (tr tr' : Trace) : paidOut (tr ++ tr') = paidOut tr + paidOut tr' := by
  simp [paidOut]

@[simp] theorem appended_nil : appended [] = [] := rfl

@[simp] theorem appended_cons_append (t : Txn) (b : Bool) (tr : Trace) :
    appended (⟨.append t, b⟩ :: tr) = t :: appended tr := rfl

@[simp] theorem appended_append (tr tr' : Trace) : appended (tr ++ tr') = appended tr ++ appended tr' := by
  simp [appended]

/-- The record a restart would find, `t` having been the last one before `tr`. -/
def lastRecord (t : Txn) (tr : Trace) : Txn := (appended tr).getLast?.getD t

@[simp] theorem lastRecord_nil (t : Txn) : lastRecord t [] = t := rfl

@[simp] theorem lastRecord_append (t r : Txn) (b : Bool) (tr : Trace) :
    lastRecord t (⟨.append r, b⟩ :: tr) = lastRecord r tr := by
  simp [lastRecord, List.getLast?_cons]

/-- Every way to stop `p` pays nothing and leaves the counts of `t` in every record. -/
def Quiet (t : Txn) (p : Prog) : Prop :=
  ∀ tr, Stops p tr → paidOut tr = 0 ∧
    ∀ r, r.quarters = t.quarters ∧ r.dispensed = t.dispensed →
      (lastRecord r tr).quarters = t.quarters ∧ (lastRecord r tr).dispensed = t.dispensed

theorem quiet_ret (t a : Txn) : Quiet t (.ret a) := by
  intro tr h
  obtain rfl := stops_ret.mp h
  exact ⟨rfl, fun r hr => hr⟩

theorem quiet_append {t r : Txn} {k : Bool → Prog} (hr : r.quarters = t.quarters ∧ r.dispensed = t.dispensed)
    (hk : ∀ b, Quiet t (k b)) : Quiet t (.call (.append r) k) := by
  intro tr h
  rcases stops_call.mp h with rfl | ⟨b, tr', rfl, h'⟩
  · exact ⟨rfl, fun r hr => hr⟩
  · obtain ⟨h0, h1⟩ := hk b tr' h'
    refine ⟨by simp [paid, h0], fun r' _ => ?_⟩
    rw [lastRecord_append]
    exact h1 r hr

/-- An effect that is neither a payout nor a record is quiet if what follows is. -/
theorem quiet_call {t : Txn} {f : Eff} {k : Ans f → Prog} (hp : ∀ r, paid ⟨f, r⟩ = 0)
    (hr : ∀ r, record ⟨f, r⟩ = none) (hk : ∀ r, Quiet t (k r)) : Quiet t (.call f k) := by
  intro tr h
  rcases stops_call.mp h with rfl | ⟨r, tr', rfl, h'⟩
  · exact ⟨rfl, fun r hr => hr⟩
  · obtain ⟨h0, h1⟩ := hk r tr' h'
    refine ⟨by simp [hp, h0], fun r' hr' => ?_⟩
    have : appended (⟨f, r⟩ :: tr') = appended tr' := by simp [appended, hr]
    simpa only [lastRecord, this] using h1 r' hr'

theorem quiet_finish {t r : Txn} (hr : r.quarters = t.quarters ∧ r.dispensed = t.dispensed) :
    Quiet t (finish r) :=
  quiet_append hr fun _ => quiet_ret t r

theorem quiet_finishVoid {t r : Txn} (hr : r.quarters = t.quarters ∧ r.dispensed = t.dispensed) :
    Quiet t (finishVoid r) :=
  quiet_finish hr

theorem quiet_gate {t r : Txn} {e : Engine} {k : Prog}
    (hr : r.quarters = t.quarters ∧ r.dispensed = t.dispensed) (hk : Quiet t k) : Quiet t (gate e r k) := by
  unfold gate
  split_ifs with hf
  · refine quiet_call (fun _ => rfl) (fun _ => rfl) fun allowed => ?_
    cases allowed with
    | true => exact hk
    | false => exact quiet_finishVoid hr
  · exact hk

theorem quiet_closeShutter {t r : Txn} (e : Engine)
    (hr : r.quarters = t.quarters ∧ r.dispensed = t.dispensed) : Quiet t (closeShutter e r) := by
  refine quiet_call (fun _ => rfl) (fun _ => rfl) fun a => ?_
  dsimp only
  split_ifs
  · exact quiet_finishVoid hr
  · exact quiet_append hr fun _ => quiet_finish hr

theorem quiet_present {t r : Txn} (e : Engine)
    (hr : r.quarters = t.quarters ∧ r.dispensed = t.dispensed) : Quiet t (present e r) := by
  refine quiet_gate hr (quiet_call (fun _ => rfl) (fun _ => rfl) fun a => ?_)
  dsimp only
  split_ifs
  · exact quiet_finishVoid hr
  · exact quiet_append hr fun _ => quiet_gate hr (quiet_closeShutter e hr)

theorem quiet_afterPayout {t : Txn} (e : Engine) (st : DispenseStats) : Quiet t (afterPayout e t st) := by
  unfold afterPayout
  by_cases hv : (!st.ok || decide (t.dispensed < t.quarters)) = true
  · rw [if_pos hv]
    exact quiet_finishVoid ⟨rfl, rfl⟩
  · rw [if_neg hv]
    exact quiet_present e ⟨rfl, rfl⟩

/-- How the coins paid and the records stand after `tr`, `t` being the last record before it. -/
structure Accounted (t : Txn) (tr : Trace) : Prop where
  quarters : (lastRecord t tr).quarters = t.quarters
  paid_le : paidOut tr ≤ max 0 (t.quarters - t.dispensed)
  recorded : Recorded tr → (lastRecord t tr).dispensed = t.dispensed + paidOut tr

theorem Quiet.accounted {t : Txn} {p : Prog} (hp : Quiet t p) {tr : Trace} (h : Stops p tr) : Accounted t tr := by
  obtain ⟨h0, h1⟩ := hp tr h
  obtain ⟨hq, hd⟩ := h1 t ⟨rfl, rfl⟩
  exact ⟨hq, by omega, fun _ => by omega⟩

theorem recorded_of_cons {ev : Sigma Ans} {tr : Trace} (h : Recorded (ev :: tr)) : Recorded tr := by
  intro n st hl
  apply h n st
  rw [List.getLast?_cons, hl]
  rfl

theorem accounted_gate {e : Engine} {t : Txn} {k : Prog}
    (hk : ∀ tr, Stops k tr → HonestDispenser tr → Accounted t tr) {tr : Trace}
    (h : Stops (gate e t k) tr) (hd : HonestDispenser tr) : Accounted t tr := by
  unfold gate at h
  split_ifs at h with hf
  · rcases stops_call.mp h with rfl | ⟨allowed, tr', rfl, h'⟩
    · exact (quiet_ret t t).accounted (.here _)
    -- the check itself neither pays nor records, so the rest accounts for the whole
    have hrest : Accounted t tr' := by
      cases allowed with
      | true => exact hk tr' h' fun n st hm => hd n st (List.mem_cons_of_mem _ hm)
      | false =>
        have hv : Quiet t (finishVoid { t with reason := ascii "FAULT" }) := quiet_finishVoid ⟨rfl, rfl⟩
        exact hv.accounted h'
    have hl : lastRecord t (⟨.checkAndBlockMotion, allowed⟩ :: tr') = lastRecord t tr' := rfl
    have hp : paidOut (⟨.checkAndBlockMotion, allowed⟩ :: tr') = paidOut tr' := by simp [paid]
    refine ⟨by rw [hl]; exact hrest.quarters, by rw [hp]; exact hrest.paid_le, fun hr => ?_⟩
    rw [hl, hp]
    exact hrest.recorded (recorded_of_cons hr)
  · exact hk tr h hd

/-- `continue_txn` pays at most what is left, and accounts for it once recorded. -/
theorem accounted_continueTxn (e : Engine) (t : Txn) {tr : Trace} (h : Stops (continueTxn e t) tr)
    (hd : HonestDispenser tr) : Accounted t tr := by
  unfold continueTxn at h
  dsimp only at h
  split_ifs at h with hrem
  · refine accounted_gate ?_ h hd
    intro tr h hd
    rcases stops_call.mp h with rfl | ⟨st, tr', rfl, h'⟩
    · exact (quiet_ret t t).accounted (.here _)
    obtain ⟨hnn, hle⟩ := hd _ st (by simp)
    rcases stops_call.mp h' with rfl | ⟨b, tr'', rfl, h''⟩
    · -- stopped between the payout and its record
      refine ⟨rfl, by simp [paid]; omega, fun hr => ?_⟩
      have h0 := hr _ st rfl
      simp [lastRecord, appended, record, paid, h0]
    · obtain ⟨h0, h1⟩ := quiet_afterPayout e st (t := withPayout t st) tr'' h''
      obtain ⟨hq1, hd1⟩ := h1 (withPayout t st) ⟨rfl, rfl⟩
      have hl : lastRecord t (⟨.dispenseCoins (t.quarters - t.dispensed), st⟩ ::
          ⟨.append (withPayout t st), b⟩ :: tr'') = lastRecord (withPayout t st) tr'' :=
        lastRecord_append t (withPayout t st) b tr''
      have hp : paidOut (⟨.dispenseCoins (t.quarters - t.dispensed), st⟩ ::
          ⟨.append (withPayout t st), b⟩ :: tr'') = st.dispensed := by
        simp [paid, h0]
      refine ⟨by rw [hl, hq1]; rfl, by rw [hp]; omega, fun _ => ?_⟩
      rw [hl, hp, hd1]
      rfl
  · exact (quiet_present e ⟨rfl, rfl⟩).accounted h

theorem accounted_resume (e : Engine) (t : Txn) {tr : Trace} (h : Stops (resumeIfNeeded e (some t)) tr)
    (hd : HonestDispenser tr) : Accounted t tr := by
  unfold resumeIfNeeded at h
  dsimp only at h
  split_ifs at h
  · exact accounted_continueTxn e t h hd
  · exact (quiet_closeShutter e ⟨rfl, rfl⟩).accounted h
  · exact (quiet_ret t t).accounted h

/-- The standing of the whole transaction after `tr`: `quarters` is the planned count. -/
structure Balanced (quarters : Int) (tr : Trace) : Prop where
  paid_le : paidOut tr ≤ quarters
  last : ∀ r, (appended tr).getLast? = some r →
    r.quarters = quarters ∧ (Recorded tr → r.dispensed = paidOut tr)

theorem balanced_purchase (e : Engine) (ns price deposit : Int) (hmax : 0 ≤ e.cfg.maxQuartersPerTxn)
    {tr : Trace} (h : Stops (runPurchase e ns price deposit) tr) (hd : HonestDispenser tr) :
    Balanced (newTxn e ns price deposit).quarters tr := by
  have hq : 0 ≤ (newTxn e ns price deposit).quarters := by
    refine le_min hmax (Int.tdiv_nonneg (le_max_left _ _) (by norm_num))
  rcases stops_call.mp h with rfl | ⟨b, tr', rfl, h'⟩
  · exact ⟨hq, by simp⟩
  have ha := accounted_continueTxn e _ h' fun n st hm => hd n st (List.mem_cons_of_mem _ hm)
  have h0 : (newTxn e ns price deposit).dispensed = 0 := rfl
  have hp : paidOut (⟨.append (newTxn e ns price deposit), b⟩ :: tr') = paidOut tr' := by simp [paid]
  refine ⟨?_, fun r hr => ?_⟩
  · rw [hp]
    have := ha.paid_le
    omega
  · have hl : r = lastRecord (newTxn e ns price deposit) tr' := by
      rw [appended_cons_append, List.getLast?_cons] at hr
      exact (Option.some.inj hr).symm
    subst hl
    refine ⟨ha.quarters, fun hrec => ?_⟩
    rw [hp, ha.recorded (recorded_of_cons hrec), h0, zero_add]

theorem balanced_restart {e : Engine} {old : List Txn} {q : Int} {tr seg tr' : Trace}
    (hrec : Recorded tr) (h : restart e old tr seg tr') (hb : Balanced q tr) (hd : HonestDispenser tr') :
    Balanced q tr' := by
  obtain ⟨hne, hs, rfl⟩ := h
  obtain ⟨r, hr⟩ : ∃ r, (appended tr).getLast? = some r :=
    Option.ne_none_iff_exists'.mp (by simpa using hne)
  obtain ⟨hrq, hrd⟩ := hb.last r hr
  have hload : loadLast (old ++ appended tr) = some r := by
    simp [loadLast, List.getLast?_append, hr]
  rw [hload] at hs
  have ha := accounted_resume e r hs fun n st hm => hd n st (List.mem_append_right _ hm)
  have hlast : ∀ r', (appended (tr ++ seg)).getLast? = some r' → r' = lastRecord r seg := by
    intro r' hr'
    rw [appended_append, List.getLast?_append, hr] at hr'
    rw [lastRecord]
    cases hseg : (appended seg).getLast? with
    | none => simpa [hseg] using hr'.symm
    | some r'' => simpa [hseg] using hr'.symm
  have hpaid := ha.paid_le
  have hold := hb.paid_le
  have hrd := hrd hrec
  refine ⟨by rw [paidOut_append]; omega, fun r' hr' => ?_⟩
  rw [hlast r' hr', ha.quarters]
  refine ⟨hrq, fun hrec' => ?_⟩
  have hseg : Recorded seg := by
    intro n st hl
    exact hrec' n st (by rw [List.getLast?_append, hl]; rfl)
  rw [ha.recorded hseg, paidOut_append, hrd]

theorem honest_of_append {tr tr' : Trace} (h : HonestDispenser (tr ++ tr')) : HonestDispenser tr :=
  fun n st hm => h n st (List.mem_append_left _ hm)

/-- Over any number of crashes and restarts the coins paid never exceed the planned quarters,
as long as no crash falls between a payout and the record of it. -/
theorem paidOut_le_quarters (e : Engine) (old : List Txn) (ns price deposit : Int)
    (hmax : 0 ≤ e.cfg.maxQuartersPerTxn) (first : Trace) (segs : List Trace) (tr : Trace)
    (hfirst : Stops (runPurchase e ns price deposit) first)
    (hrun : Run (guarded (fun tr _ => Recorded tr) (restart e old)) first segs tr)
    (hd : HonestDispenser tr) : paidOut tr ≤ (newTxn e ns price deposit).quarters := by
  have hinv : HonestDispenser tr → Balanced (newTxn e ns price deposit).quarters tr := by
    refine hrun.invariant (I := fun tr => HonestDispenser tr → Balanced _ tr)
      (fun hd => balanced_purchase e ns price deposit hmax hfirst hd) ?_
    rintro tr seg tr' ih ⟨hrec, hstep⟩ hd
    have htr : HonestDispenser (tr ++ seg) := by
      rw [← hstep.2.2]
      exact hd
    exact balanced_restart hrec hstep (ih (honest_of_append htr)) hd
  exact (hinv hd).paid_le

/-- A purchase of 100 cents against 200 with two answers of the dispenser, four coins each. -/
def payFour : Sigma Ans := ⟨.dispenseCoins 4, { ok := true, requested := 4, dispensed := 4 }⟩

def fourQuarters : Txn := newTxn { fm := false } 0 100 200

theorem paidOut_le_quarters_resumed :
    paidOut ([⟨.append fourQuarters, true⟩] ++ [payFour]) ≤ (newTxn { fm := false } 0 100 200).quarters := by
  refine paidOut_le_quarters { fm := false } [] 0 100 200 (by decide) [⟨.append fourQuarters, true⟩]
    [[payFour]] _ (stops_of_replay (by decide)) (.snoc .nil ⟨?_, ?_, ?_, rfl⟩) ?_
  · intro n st h
    simp at h
  · decide
  · exact stops_of_replay (by decide)
  · intro n st h
    simp only [List.cons_append, List.nil_append, List.mem_cons, List.not_mem_nil, or_false] at h
    rcases h with h | h
    · cases h
    · cases h
      decide

/-- A crash right after the payout, before its record: the restart pays all four coins again. -/
theorem crash_before_record_pays_twice :
    ¬ ∀ (e : Engine) (old : List Txn) (ns price deposit : Int) (first : Trace) (segs : List Trace) (tr : Trace),
      0 ≤ e.cfg.maxQuartersPerTxn → Stops (runPurchase e ns price deposit) first →
      Run (restart e old) first segs tr → HonestDispenser tr →
      paidOut tr ≤ (newTxn e ns price deposit).quarters := by
  intro hclaim
  have hbad := hclaim { fm := false } [] 0 100 200 [⟨.append fourQuarters, true⟩, payFour] [[payFour]]
    ([⟨.append fourQuarters, true⟩, payFour] ++ [payFour]) (by decide) (stops_of_replay (by decide))
    (.snoc .nil ⟨by decide, stops_of_replay (by decide), rfl⟩) ?_
  · revert hbad
    decide
  · intro n st h
    simp only [List.cons_append, List.nil_append, List.mem_cons, List.not_mem_nil, or_false] at h
    rcases h with h | h | h
    · cases h
    all_goals
      cases h
      decide

end Drawer.TxnEngine
