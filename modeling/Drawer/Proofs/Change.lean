import Drawer.Spec.ChangeMaker

/-! Change is planned within the stock and the plan is paid from it: nothing is lost
between the two. -/

namespace Drawer.Change
open Text Effect

theorem cents_pos (d : Denom) : 0 < cents d := by cases d <;> decide

/-! ### The plan -/

theorem usable_nonneg (inv : Inventory) (d : Denom) : 0 ≤ usable inv d := by
  unfold usable
  split
  · rfl
  · split_ifs
    · rfl
    · exact le_max_left _ _

/-- What is usable is in stock. -/
theorem usable_stock {inv : Inventory} {d : Denom} (h : 0 < usable inv d) :
    ∃ hs, inv d = some hs ∧ inv.low d = false ∧ usable inv d = hs.logicalCount := by
  unfold usable at h ⊢
  cases hd : inv d with
  | none => simp [hd] at h
  | some hs =>
    simp only [hd] at h ⊢
    cases hlow : inv.low d with
    | true => simp [hlow] at h
    | false =>
      simp only [hlow, Bool.false_eq_true, if_false] at h ⊢
      exact ⟨hs, rfl, by simp, by omega⟩

theorem planFrom_done (inv : Inventory) (ds : List Denom) {leftover : Int} (h : leftover ≤ 0) :
    planFrom inv ds leftover = ([], leftover) := by
  cases ds with
  | nil => rfl
  | cons d ds => rw [planFrom, if_pos h]

/-- How the loop takes a denomination: as often as it fits and can be used. -/
theorem planFrom_cons (inv : Inventory) (d : Denom) (ds : List Denom) {leftover : Int} (h : 0 < leftover) :
    planFrom inv (d :: ds) leftover =
      if 0 < min (leftover / cents d) (usable inv d) then
        ({ denom := d, count := min (leftover / cents d) (usable inv d) } ::
            (planFrom inv ds (leftover - min (leftover / cents d) (usable inv d) * cents d)).1,
          (planFrom inv ds (leftover - min (leftover / cents d) (usable inv d) * cents d)).2)
      else planFrom inv ds leftover := by
  have hneed : leftover.tdiv (cents d) = leftover / cents d := Int.tdiv_eq_ediv_of_nonneg h.le
  rw [planFrom, if_neg (by omega), hneed]
  unfold usable
  cases hd : inv d with
  | none => simp
  | some hs =>
    cases hlow : inv.low d with
    | true =>
      have hle : hs.logicalCount ≤ hs.spec.lowStockThreshold := by simpa [Inventory.low, hd] using hlow
      have husable : max 0 (hs.logicalCount - hs.spec.lowStockThreshold) = 0 := by omega
      simp [husable]
    | false =>
      simp only [Bool.false_eq_true, if_false]
      by_cases havail : hs.logicalCount ≤ 0
      · have hmax : max 0 hs.logicalCount = 0 := by omega
        simp [havail]
      · have hmax : max 0 hs.logicalCount = hs.logicalCount := by omega
        simp only [if_neg havail, hmax]
        by_cases hfits : leftover / cents d ≤ 0
        · rw [if_pos hfits, if_neg (by omega)]
        · rw [if_neg hfits, if_pos (by omega)]

theorem planFrom_denoms (inv : Inventory) (ds : List Denom) (leftover : Int) :
    ((planFrom inv ds leftover).1.map PlanItem.denom).Sublist ds := by
  induction ds generalizing leftover with
  | nil => exact List.Sublist.slnil
  | cons d ds ih =>
    by_cases hdone : leftover ≤ 0
    · rw [planFrom_done inv _ hdone]
      exact List.nil_sublist _
    · rw [planFrom_cons inv d ds (by omega)]
      split_ifs
      · exact (ih _).cons_cons d
      · exact (ih _).cons d

theorem planFrom_stock (inv : Inventory) (ds : List Denom) (leftover : Int) : ∀ i ∈ (planFrom inv ds leftover).1,
    0 ≤ i.count ∧ ∃ hs, inv i.denom = some hs ∧ i.count ≤ hs.logicalCount ∧ inv.low i.denom = false := by
  induction ds generalizing leftover with
  | nil => simp [planFrom]
  | cons d ds ih =>
    by_cases hdone : leftover ≤ 0
    · simp [planFrom_done inv _ hdone]
    · rw [planFrom_cons inv d ds (by omega)]
      split_ifs with huse
      · refine List.forall_mem_cons.mpr ⟨⟨huse.le, ?_⟩, ih _⟩
        obtain ⟨hs, hd, hlow, hcount⟩ := usable_stock (huse.trans_le (min_le_right _ _))
        exact ⟨hs, hd, hcount ▸ min_le_right _ _, hlow⟩
      · exact ih _

theorem planFrom_value (inv : Inventory) (ds : List Denom) (leftover : Int) :
    ((planFrom inv ds leftover).1.map fun i => i.count * cents i.denom).sum + (planFrom inv ds leftover).2 = leftover := by
  induction ds generalizing leftover with
  | nil => simp [planFrom]
  | cons d ds ih =>
    by_cases hdone : leftover ≤ 0
    · simp [planFrom_done inv _ hdone]
    · rw [planFrom_cons inv d ds (by omega)]
      split_ifs
      · have hrest := ih (leftover - min (leftover / cents d) (usable inv d) * cents d)
        simp only [List.map_cons, List.sum_cons]
        omega
      · exact ih leftover

theorem fits_plan (inv : Inventory) (change : Int) :
    Fits inv change (makePlanCents inv change).1 (makePlanCents inv change).2 where
  once := (planFrom_denoms inv order change).nodup (by decide)
  stock := planFrom_stock inv order change
  value := planFrom_value inv order change

/-! ### The execution -/

@[simp] theorem dispensed_nil (d : Denom) : dispensed d [] = 0 := rfl

@[simp] theorem dispensed_cons (d d' : Denom) (n : Int) (res : DispenseStats) (tr : Trace) :
    dispensed d (⟨.dispenseCoins d' n, res⟩ :: tr) = (if d' = d then res.dispensed else 0) + dispensed d tr := by
  simp [dispensed]

@[simp] theorem closed_ok (st : MultiDispenseStats) : st.closed.ok = st.ok := by
  unfold MultiDispenseStats.closed
  split_ifs <;> rfl

theorem answered_ok (st : MultiDispenseStats) (item : PlanItem) (res : DispenseStats) :
    (st.answered item res).ok = true ↔ st.ok = true ∧ res.ok = true ∧ item.count ≤ res.dispensed := by
  unfold MultiDispenseStats.answered
  by_cases hshort : (decide (res.dispensed < item.count) || !res.ok) = true
  · simp only [if_pos hshort]
    refine iff_of_false (by simp) ?_
    rintro ⟨-, hok, hcount⟩
    simp [hok, not_lt.mpr hcount] at hshort
  · simp only [if_neg hshort]
    simp at hshort
    simp [hshort]

/-- What the hoppers have for the items of a plan. -/
def Covered (inv : Inventory) (plan : List PlanItem) : Prop :=
  ∀ i ∈ plan, ∃ hs, inv i.denom = some hs ∧ i.count ≤ hs.logicalCount

theorem take_stock {inv : Inventory} {d : Denom} {n : Int} {hs : HopperStock} (hd : inv d = some hs) (hn : n ≤ hs.logicalCount) :
    inv.take d n = .ok (n, Function.update inv d (some { hs with logicalCount := hs.logicalCount - n })) := by
  simp [Inventory.take, hd, not_lt.mpr hn]

theorem Covered.update {inv : Inventory} {item : PlanItem} {plan : List PlanItem} (h : Covered inv (item :: plan))
    (hnodup : ((item :: plan).map PlanItem.denom).Nodup) (hs : Option HopperStock) :
    Covered (Function.update inv item.denom hs) plan := by
  intro i hi
  have hne : i.denom ≠ item.denom := by
    intro heq
    rw [List.map_cons, List.nodup_cons] at hnodup
    exact hnodup.1 (heq ▸ List.mem_map_of_mem hi)
  rw [Function.update_of_ne hne]
  exact h i (List.mem_cons_of_mem _ hi)

theorem Stocked.update {inv : Inventory} (h : Stocked inv) {hs : HopperStock} (hcount : 0 ≤ hs.logicalCount) (d : Denom) :
    Stocked (Function.update inv d (some hs)) := by
  intro d' hs' hd'
  by_cases heq : d' = d
  · subst heq
    rw [Function.update_self] at hd'
    obtain rfl := Option.some.inj hd'
    exact hcount
  · rw [Function.update_of_ne heq] at hd'
    exact h d' hs' hd'

section
variable {hoppers : Hoppers} {item : PlanItem} {plan : List PlanItem} {st : MultiDispenseStats} {inv : Inventory} {tr : Trace}
  {out : Except Exn MultiDispenseStats × Inventory}

/-- What the loop does at an item: without a driver it goes on, else the driver is called and what it dispensed is taken. -/
theorem executeFrom_cases (hruns : Runs (executeFrom hoppers (item :: plan) st inv) tr out) :
    (¬ (∃ h, hoppers item.denom = some h ∧ h.driver = true) ∧
      Runs (executeFrom hoppers plan (st.noHopper item.denom) inv) tr out) ∨
    ((∃ h, hoppers item.denom = some h ∧ h.driver = true) ∧
      ∃ res tr', tr = ⟨.dispenseCoins item.denom item.count, res⟩ :: tr' ∧
        ((∃ e, inv.take item.denom res.dispensed = .error e ∧ out = (.error e, inv) ∧ tr' = []) ∨
          ∃ n inv', inv.take item.denom res.dispensed = .ok (n, inv') ∧
            Runs (executeFrom hoppers plan (st.answered item res) inv') tr' out)) := by
  rw [executeFrom] at hruns
  cases hhopper : hoppers item.denom with
  | none =>
    simp only [hhopper] at hruns
    exact Or.inl ⟨by simp, hruns⟩
  | some h =>
    simp only [hhopper] at hruns
    cases hdriver : h.driver with
    | false =>
      simp only [hdriver, Bool.false_eq_true, if_false] at hruns
      exact Or.inl ⟨by simp [hdriver], hruns⟩
    | true =>
      simp only [hdriver, if_true] at hruns
      obtain ⟨res, tr', rfl, hrest⟩ := runs_call.mp hruns
      refine Or.inr ⟨⟨h, rfl, hdriver⟩, res, tr', rfl, ?_⟩
      rcases htake : inv.take item.denom res.dispensed with e | ⟨n, inv'⟩
      · rw [htake] at hrest
        obtain ⟨rfl, rfl⟩ := runs_ret.mp hrest
        exact Or.inl ⟨e, rfl, rfl, rfl⟩
      · rw [htake] at hrest
        exact Or.inr ⟨n, inv', rfl, hrest⟩

/-- Only hoppers of the plan are called. -/
theorem executeFrom_calls (hruns : Runs (executeFrom hoppers plan st inv) tr out) {d : Denom} {n : Int} {res : DispenseStats}
    (hmem : (⟨.dispenseCoins d n, res⟩ : Sigma Ans) ∈ tr) : d ∈ plan.map PlanItem.denom := by
  induction plan generalizing st inv tr with
  | nil =>
    obtain ⟨rfl, -⟩ := runs_ret.mp hruns
    simp at hmem
  | cons item plan ih =>
    rw [List.map_cons]
    rcases executeFrom_cases hruns with ⟨-, hrest⟩ | ⟨-, res', tr', rfl, hrest⟩
    · exact List.mem_cons_of_mem _ (ih hrest hmem)
    · rcases List.mem_cons.mp hmem with heq | hmem
      · cases heq
        exact List.mem_cons_self
      · rcases hrest with ⟨e, -, -, rfl⟩ | ⟨n', inv', -, hrest⟩
        · simp at hmem
        · exact List.mem_cons_of_mem _ (ih hrest hmem)

theorem dispensed_of_notMem {d : Denom} (h : ∀ n res, (⟨.dispenseCoins d n, res⟩ : Sigma Ans) ∉ tr) : dispensed d tr = 0 := by
  induction tr with
  | nil => rfl
  | cons ev tr ih =>
    obtain ⟨⟨d', n⟩, res⟩ := ev
    have hne : d' ≠ d := by
      rintro rfl
      exact h n res List.mem_cons_self
    rw [dispensed_cons, if_neg hne, ih fun n res hmem => h n res (List.mem_cons_of_mem _ hmem)]
    rfl

theorem served_cons {i : PlanItem} {n : Int} {res : DispenseStats} {d : Denom} (hne : i.denom ≠ d) :
    Served hoppers (⟨.dispenseCoins d n, res⟩ :: tr) i ↔ Served hoppers tr i := by
  unfold Served
  have hmem : ∀ a : DispenseStats, (⟨.dispenseCoins i.denom i.count, a⟩ : Sigma Ans) ∈ (⟨.dispenseCoins d n, res⟩ :: tr : Trace) ↔
      (⟨.dispenseCoins i.denom i.count, a⟩ : Sigma Ans) ∈ tr := by
    intro a
    simp [hne]
  simp only [hmem]

theorem served_head {res : DispenseStats} (hdriver : ∃ h, hoppers item.denom = some h ∧ h.driver = true)
    (honce : ∀ n a, (⟨.dispenseCoins item.denom n, a⟩ : Sigma Ans) ∉ tr) :
    Served hoppers (⟨.dispenseCoins item.denom item.count, res⟩ :: tr) item ↔ res.ok = true ∧ res.dispensed = item.count := by
  constructor
  · rintro ⟨-, a, hmem, hok, hcount⟩
    rcases List.mem_cons.mp hmem with heq | hmem
    · cases heq
      exact ⟨hok, hcount⟩
    · exact absurd hmem (honce _ _)
  · rintro ⟨hok, hcount⟩
    exact ⟨hdriver, res, List.mem_cons_self, hok, hcount⟩

/-- The loop over a plan that the inventory covers. -/
theorem executeFrom_settles {inv' : Inventory} {r : Except Exn MultiDispenseStats}
    (hruns : Runs (executeFrom hoppers plan st inv) tr (r, inv')) (hnodup : (plan.map PlanItem.denom).Nodup)
    (hcovered : Covered inv plan) (hstocked : Stocked inv) (hhonest : Honest tr) :
    ∃ st', r = .ok st' ∧
      (∀ d, inv' d = (inv d).map fun hs => { hs with logicalCount := hs.logicalCount - dispensed d tr }) ∧
      Stocked inv' ∧ (st'.ok = true ↔ st.ok = true ∧ ∀ i ∈ plan, Served hoppers tr i) := by
  induction plan generalizing st inv tr with
  | nil =>
    obtain ⟨rfl, hout⟩ := runs_ret.mp hruns
    obtain ⟨rfl, rfl⟩ := Prod.mk.inj hout
    exact ⟨_, rfl, by simp, hstocked, by simp⟩
  | cons item plan ih =>
    have hrest' : (plan.map PlanItem.denom).Nodup := (List.nodup_cons.mp hnodup).2
    have hne : ∀ i ∈ plan, i.denom ≠ item.denom := fun i hi heq =>
      (List.nodup_cons.mp hnodup).1 (heq ▸ List.mem_map_of_mem hi)
    rcases executeFrom_cases hruns with ⟨hdriver, hrest⟩ | ⟨hdriver, res, tr', rfl, hrest⟩
    · obtain ⟨st', rfl, hstock, hleft, hok⟩ := ih hrest hrest' (fun i hi => hcovered i (List.mem_cons_of_mem _ hi)) hstocked hhonest
      refine ⟨st', rfl, hstock, hleft, hok.trans (iff_of_false (by simp [MultiDispenseStats.noHopper]) ?_)⟩
      exact fun hall => hdriver (hall.2 item List.mem_cons_self).1
    · obtain ⟨hnonneg, hle⟩ := hhonest _ _ _ List.mem_cons_self
      obtain ⟨hs, hd, hcount⟩ := hcovered item List.mem_cons_self
      have htake := take_stock hd (hle.trans hcount)
      rcases hrest with ⟨e, htake', -, -⟩ | ⟨n, inv₁, htake', hrest⟩
      · rw [htake] at htake'
        cases htake'
      · rw [htake] at htake'
        obtain ⟨rfl, rfl⟩ := Prod.mk.inj (Except.ok.inj htake')
        have hhonest' : Honest tr' := fun d n a hmem => hhonest d n a (List.mem_cons_of_mem _ hmem)
        obtain ⟨st', rfl, hstock, hleft, hok⟩ := ih hrest hrest' (hcovered.update hnodup _)
          (hstocked.update (by show 0 ≤ hs.logicalCount - res.dispensed; omega) _) hhonest'
        have honce : ∀ n a, (⟨.dispenseCoins item.denom n, a⟩ : Sigma Ans) ∉ tr' := by
          intro n a hmem
          obtain ⟨i, hi, heq⟩ := List.mem_map.mp (executeFrom_calls hrest hmem)
          exact hne i hi heq
        have hfirst : dispensed item.denom tr' = 0 := dispensed_of_notMem honce
        refine ⟨st', rfl, fun d => ?_, hleft, ?_⟩
        · rw [hstock d, dispensed_cons]
          by_cases heq : d = item.denom
          · subst heq
            simp [hd, hfirst]
          · simp [Function.update_of_ne heq, Ne.symm heq]
        · have hlater : (∀ i ∈ plan, Served hoppers (⟨.dispenseCoins item.denom item.count, res⟩ :: tr') i) ↔
              ∀ i ∈ plan, Served hoppers tr' i :=
            forall₂_congr fun i hi => served_cons (hne i hi)
          rw [hok, answered_ok, List.forall_mem_cons, served_head hdriver honce, hlater]
          have hfull : item.count ≤ res.dispensed ↔ res.dispensed = item.count := by omega
          rw [hfull, and_assoc]

end

/-- A plan for change fits the inventory, and what is paid of it by honest drivers is taken off the inventory. -/
theorem change_conserved (inv : Inventory) (hstocked : Stocked inv) (change : Int) (hoppers : Hoppers) (tr : Trace)
    (r : Except Exn MultiDispenseStats) (inv' : Inventory)
    (hruns : Runs (execute hoppers inv (makePlanCents inv change).1) tr (r, inv')) (hhonest : Honest tr) :
    Fits inv change (makePlanCents inv change).1 (makePlanCents inv change).2 ∧
    ∃ st, r = .ok st ∧ Settled hoppers inv (makePlanCents inv change).1 tr st inv' := by
  have hfits := fits_plan inv change
  have hcovered : Covered inv (makePlanCents inv change).1 := by
    intro i hi
    obtain ⟨-, hs, hd, hcount, -⟩ := hfits.stock i hi
    exact ⟨hs, hd, hcount⟩
  obtain ⟨st, rfl, hstock, hleft, hok⟩ := executeFrom_settles hruns hfits.once hcovered hstocked hhonest
  exact ⟨hfits, st, rfl, hstock, hleft, by simpa using hok⟩

/-- Thirty coins of every kind but the dimes, which are low. -/
def sampleInventory : Inventory :=
  (((Inventory.empty.upsert { spec := { denom := .quarter }, logicalCount := 30 }).upsert
    { spec := { denom := .dime }, logicalCount := 20 }).upsert
    { spec := { denom := .nickel }, logicalCount := 30 }).upsert { spec := { denom := .penny }, logicalCount := 30 }

/-- A driver for every hopper but that of the nickels. -/
def sampleHoppers : Hoppers :=
  ((Hoppers.attach (fun _ => none) { spec := { denom := .quarter }, driver := true }).attach
    { spec := { denom := .nickel } }).attach { spec := { denom := .penny }, driver := true }

/-- The drivers dispense one coin too few. -/
def oneShort : ∀ f, Ans f
  | .dispenseCoins _ coins => { ok := false, requested := coins, dispensed := coins - 1 }

def samplePayout : Trace × Except Exn MultiDispenseStats × Inventory :=
  perform oneShort (execute sampleHoppers sampleInventory (makePlanCents sampleInventory 66).1)

theorem stocked_sample : Stocked sampleInventory := by
  have hempty : Stocked Inventory.empty := fun d hs h => by cases h
  exact (((hempty.update (by decide) _).update (by decide) _).update (by decide) _).update (by decide) _

theorem honest_sample : Honest samplePayout.1 := by
  intro d n res h
  have hall : ∀ ev ∈ samplePayout.1, 0 ≤ ev.2.dispensed ∧
      ev.2.dispensed ≤ match ev.1 with | .dispenseCoins _ n => n := by decide +kernel
  exact hall _ h

theorem change_conserved_sample :
    Fits sampleInventory 66 (makePlanCents sampleInventory 66).1 (makePlanCents sampleInventory 66).2 ∧
    ∃ st, samplePayout.2.1 = .ok st ∧
      Settled sampleHoppers sampleInventory (makePlanCents sampleInventory 66).1 samplePayout.1 st samplePayout.2.2 :=
  change_conserved sampleInventory stocked_sample 66 sampleHoppers samplePayout.1 samplePayout.2.1 samplePayout.2.2
    (runs_perform oneShort _) honest_sample

example : (makePlanCents sampleInventory 66) =
    ([{ denom := .quarter, count := 2 }, { denom := .nickel, count := 3 }, { denom := .penny, count := 1 }], 0) := by
  decide +kernel

end Drawer.Change
