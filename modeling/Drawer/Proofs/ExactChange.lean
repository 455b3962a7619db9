import Drawer.Lib.Coins
import Drawer.Proofs.Change

/-! When change that exists is found: the planner is greedy, and only between the
quarters and the dimes can greed go wrong, since twenty-five is no multiple of ten. -/

namespace Drawer.Change
open Coins

/-- The coins that can be planned, in the order of the planner. -/
def stock (inv : Inventory) (ds : List Denom) : List (ℤ × ℤ) := ds.map fun d => (cents d, usable inv d)

theorem greedy_zero {cs : List (ℤ × ℤ)} (hstock : ∀ c ∈ cs, 0 ≤ c.2) : greedy cs 0 = 0 := by
  induction cs with
  | nil => rfl
  | cons c cs ih =>
    have hc := hstock c List.mem_cons_self
    rw [greedy, Int.zero_ediv, min_eq_left hc, Int.zero_mul, Int.sub_zero]
    exact ih fun c' hc' => hstock c' (List.mem_cons_of_mem _ hc')

theorem stock_nonneg (inv : Inventory) (ds : List Denom) : ∀ c ∈ stock inv ds, 0 ≤ c.2 := by
  intro c hc
  obtain ⟨d, -, rfl⟩ := List.mem_map.mp hc
  exact usable_nonneg inv d

/-- The planner is greedy. -/
theorem planFrom_greedy (inv : Inventory) (ds : List Denom) {leftover : Int} (h : 0 ≤ leftover) :
    (planFrom inv ds leftover).2 = greedy (stock inv ds) leftover := by
  induction ds generalizing leftover with
  | nil => rfl
  | cons d ds ih =>
    by_cases hdone : leftover = 0
    · subst hdone
      rw [planFrom_done inv _ le_rfl, greedy_zero (stock_nonneg inv _)]
    · have hcents := cents_pos d
      have husable := usable_nonneg inv d
      have hdiv : leftover / cents d * cents d ≤ leftover := Int.ediv_mul_le leftover hcents.ne'
      have hdiv0 : 0 ≤ leftover / cents d := Int.ediv_nonneg h hcents.le
      have hfits : min (leftover / cents d) (usable inv d) * cents d ≤ leftover :=
        (mul_le_mul_of_nonneg_right (min_le_left _ _) hcents.le).trans hdiv
      rw [planFrom_cons inv d ds (by omega)]
      show _ = greedy (stock inv ds) (leftover - min (leftover / cents d) (usable inv d) * cents d)
      split_ifs with huse
      · exact ih (by omega)
      · have hnone : min (leftover / cents d) (usable inv d) = 0 := by omega
        rw [hnone, Int.zero_mul, Int.sub_zero]
        exact ih h

theorem exact_iff (inv : Inventory) (change : Int) : Exact inv change ↔ Payable (stock inv order) change := by
  constructor
  · rintro ⟨n, hn, hsum⟩
    have hle : ∀ d, 0 ≤ n d ∧ n d ≤ usable inv d := by
      intro d
      refine ⟨(hn d).1, ?_⟩
      rcases (hn d).1.eq_or_lt with hzero | hpos
      · rw [← hzero]
        exact usable_nonneg inv d
      · obtain ⟨hs, hd, hlow, hcount⟩ := (hn d).2 hpos
        unfold usable
        simp only [hd, hlow, Bool.false_eq_true, if_false]
        exact hcount.trans (le_max_right _ _)
    simp only [order, List.map_cons, List.map_nil, List.sum_cons, List.sum_nil] at hsum
    refine ⟨n .quarter, (hle _).1, (hle _).2, n .dime, (hle _).1, (hle _).2, n .nickel, (hle _).1, (hle _).2,
      n .penny, (hle _).1, (hle _).2, ?_⟩
    show _ = (0 : Int)
    omega
  · rintro ⟨q, hq, hq', d, hd, hd', n, hn, hn', p, hp, hp', hsum⟩
    have hzero : change - q * 25 - d * 10 - n * 5 - p * 1 = 0 := hsum
    refine ⟨fun | .quarter => q | .dime => d | .nickel => n | .penny => p, ?_, ?_⟩
    · have hfits : ∀ (x : Denom) (k : Int), 0 ≤ k → k ≤ usable inv x →
          0 ≤ k ∧ (0 < k → ∃ hs, inv x = some hs ∧ inv.low x = false ∧ k ≤ hs.logicalCount) := by
        refine fun x k hk hk' => ⟨hk, fun hpos => ?_⟩
        obtain ⟨hs, hx, hlow, hcount⟩ := usable_stock (hpos.trans_le hk')
        exact ⟨hs, hx, hlow, hcount ▸ hk'⟩
      rintro (_ | _ | _ | _)
      · exact hfits .penny p hp hp'
      · exact hfits .nickel n hn hn'
      · exact hfits .dime d hd hd'
      · exact hfits .quarter q hq hq'
    · simp only [order, List.map_cons, List.map_nil, List.sum_cons, List.sum_nil, cents]
      omega

/-! ### The coins below the quarter -/

def small : List Denom := [.dime, .nickel, .penny]

theorem chain_small (inv : Inventory) : Chain (stock inv small) where
  values c hc := by
    obtain ⟨d, -, rfl⟩ := List.mem_map.mp hc
    exact cents_pos d
  stock := stock_nonneg inv small
  divides := by
    simp [stock, small, cents]

theorem small_sub {inv : Inventory} {x : Int} (h : Payable (stock inv small) x) (hx : 50 ≤ x) :
    Payable (stock inv small) (x - 50) := by
  refine h.sub (chain_small inv).values (by decide) hx ?_ (chain_small inv).divides
  simp only [stock, small, List.map_cons, List.map_nil, cents, List.forall_mem_cons]
  decide

theorem small_sub_mul {inv : Inventory} {x : Int} (hx : 0 ≤ x) (k : ℕ) (h : Payable (stock inv small) (x + 50 * k)) :
    Payable (stock inv small) x := by
  induction k with
  | zero => simpa using h
  | succ k ih =>
    refine ih ?_
    have hsub := small_sub h (by push_cast; omega)
    have heq : x + 50 * ((k + 1 : ℕ) : Int) - 50 = x + 50 * k := by push_cast; ring
    rwa [heq] at hsub

/-- Whatever can be paid can be paid with as many quarters as fit, or with one fewer: for two quarters more fifty cents of
small coins are left out. -/
theorem payable_quarters {inv : Inventory} {change : Int} (hchange : 0 ≤ change) {g : Int}
    (hg : g = min (change / 25) (usable inv .quarter)) :
    Payable (stock inv order) change ↔
      Payable (stock inv small) (change - 25 * g) ∨ 0 < g ∧ Payable (stock inv small) (change - 25 * g + 25) := by
  have husable := usable_nonneg inv .quarter
  constructor
  · rintro ⟨q, hq, hq', hrest⟩
    replace hrest : Payable (stock inv small) (change - q * 25) := hrest
    have hnonneg := payable_nonneg (chain_small inv).values hrest
    replace hq' : q ≤ usable inv .quarter := hq'
    have hqg : q ≤ g := by omega
    rcases Int.even_or_odd' (g - q) with ⟨k, hk | hk⟩
    · left
      refine small_sub_mul (by omega) k.toNat ?_
      have heq : change - 25 * g + 50 * (k.toNat : Int) = change - q * 25 := by omega
      rwa [heq]
    · right
      refine ⟨by omega, small_sub_mul (by omega) k.toNat ?_⟩
      have heq : change - 25 * g + 25 + 50 * (k.toNat : Int) = change - q * 25 := by omega
      rwa [heq]
  · rintro (h | ⟨hpos, h⟩)
    · refine ⟨g, by omega, by show g ≤ usable inv .quarter; omega, ?_⟩
      rwa [Int.mul_comm] at h
    · refine ⟨g - 1, by omega, by show g - 1 ≤ usable inv .quarter; omega, ?_⟩
      have heq : change - 25 * g + 25 = change - (g - 1) * 25 := by ring
      rwa [heq] at h

theorem small_iff {inv : Inventory} {r : Int} (hr : 0 ≤ r) :
    Payable (stock inv small) r ↔
      r - min (r / 10) (usable inv .dime) * 10 -
        min ((r - min (r / 10) (usable inv .dime) * 10) / 5) (usable inv .nickel) * 5 ≤ usable inv .penny := by
  rw [← greedy_eq_zero_iff (chain_small inv) hr]
  have hd := usable_nonneg inv .dime
  have hn := usable_nonneg inv .nickel
  have hp := usable_nonneg inv .penny
  simp only [stock, small, List.map_cons, List.map_nil, cents, greedy, Int.ediv_one]
  omega

theorem stranded_iff (inv : Inventory) {r : Int} (hr : 0 ≤ r) :
    (¬ Payable (stock inv small) r ∧ Payable (stock inv small) (r + 25)) ↔
      r / 5 % 2 = 1 ∧ usable inv .nickel = 0 ∧ r % 5 ≤ usable inv .penny ∧ usable inv .penny < r % 5 + 5 ∧
        r - r % 5 + 25 ≤ 10 * usable inv .dime := by
  rw [small_iff hr, small_iff (by omega)]
  have hd := usable_nonneg inv .dime
  have hn := usable_nonneg inv .nickel
  have hp := usable_nonneg inv .penny
  omega

theorem plan_exact_iff (inv : Inventory) {change : Int} (hchange : 0 ≤ change) :
    (makePlanCents inv change).2 = 0 ↔
      Payable (stock inv small) (change - 25 * min (change / 25) (usable inv .quarter)) := by
  have husable := usable_nonneg inv .quarter
  rw [makePlanCents, planFrom_greedy inv order hchange, Int.mul_comm]
  exact greedy_eq_zero_iff (chain_small inv) (by show 0 ≤ change - min (change / 25) (usable inv .quarter) * 25; omega)

/-- Change that exists is found, unless the rest after the quarters is stranded. -/
theorem found_iff (inv : Inventory) (change : Int) (hchange : 0 ≤ change) :
    (Exact inv change → (makePlanCents inv change).2 = 0) ↔ ¬ Stranded inv change := by
  have husable := usable_nonneg inv .quarter
  have hstranded := stranded_iff inv (r := change - 25 * min (change / 25) (usable inv .quarter)) (by omega)
  rw [exact_iff, payable_quarters hchange rfl, plan_exact_iff inv hchange]
  simp only [Stranded, ← hstranded]
  tauto

/-- Thirty quarters and thirty dimes; the nickels and the pennies are low. -/
def lowNickels : Inventory :=
  (((Inventory.empty.upsert { spec := { denom := .quarter }, logicalCount := 30 }).upsert
    { spec := { denom := .dime }, logicalCount := 30 }).upsert
    { spec := { denom := .nickel }, logicalCount := 20 }).upsert { spec := { denom := .penny }, logicalCount := 20 }

theorem found_iff_lowNickels :
    (Exact lowNickels 60 → (makePlanCents lowNickels 60).2 = 0) ↔ ¬ Stranded lowNickels 60 :=
  found_iff lowNickels 60 (by decide)

/-- Three dimes are thirty cents, but the planner takes a quarter first. -/
theorem thirty_not_found :
    ¬ ∀ (inv : Inventory) (change : Int), 0 ≤ change → Exact inv change → (makePlanCents inv change).2 = 0 := by
  intro hclaim
  have hbad := hclaim lowNickels 30 (by decide) ⟨fun | .dime => 3 | _ => 0, ?_, by decide⟩
  · revert hbad
    decide +kernel
  · rintro (_ | _ | _ | _)
    · exact ⟨by decide, by decide⟩
    · exact ⟨by decide, by decide⟩
    · exact ⟨by decide, fun _ => ⟨_, rfl, by decide, by decide⟩⟩
    · exact ⟨by decide, by decide⟩

end Drawer.Change
