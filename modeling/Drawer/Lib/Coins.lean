import Mathlib.Tactic

/-! Paying an amount with coins of given values, each in limited number. Paying greedily
is as good as any other way when every value divides the values before it. -/

namespace Coins

/-- What is left of `x` after every value in turn has paid as often as it fits and is in stock. -/
def greedy : List (ℤ × ℤ) → ℤ → ℤ
  | [], x => x
  | (v, n) :: cs, x => greedy cs (x - min (x / v) n * v)

/-- The coins, or some of them, make up `x`. -/
def Payable : List (ℤ × ℤ) → ℤ → Prop
  | [], x => x = 0
  | (v, n) :: cs, x => ∃ k, 0 ≤ k ∧ k ≤ n ∧ Payable cs (x - k * v)

/-- There are no coins of negative number, and every value is positive and divides the ones before it. -/
structure Chain (cs : List (ℤ × ℤ)) : Prop where
  values : ∀ c ∈ cs, 0 < c.1
  stock : ∀ c ∈ cs, 0 ≤ c.2
  divides : cs.Pairwise fun c c' => c'.1 ∣ c.1

theorem Chain.tail {c : ℤ × ℤ} {cs : List (ℤ × ℤ)} (h : Chain (c :: cs)) : Chain cs where
  values c' hc' := h.values c' (List.mem_cons_of_mem _ hc')
  stock c' hc' := h.stock c' (List.mem_cons_of_mem _ hc')
  divides := h.divides.of_cons

theorem payable_nonneg {cs : List (ℤ × ℤ)} (hvalues : ∀ c ∈ cs, 0 < c.1) {x : ℤ} (h : Payable cs x) : 0 ≤ x := by
  induction cs generalizing x with
  | nil => exact le_of_eq (Eq.symm h)
  | cons c cs ih =>
    obtain ⟨k, hk, -, hrest⟩ := h
    have hv := hvalues c List.mem_cons_self
    have hle := ih (fun c' hc' => hvalues c' (List.mem_cons_of_mem _ hc')) hrest
    nlinarith

/-- Among coins that make up `x` are some that make up `y`, if every value divides `y` and the coins are worth it: the
others make up what is left. -/
theorem Payable.sub {cs : List (ℤ × ℤ)} (hvalues : ∀ c ∈ cs, 0 < c.1) {x y : ℤ} (h : Payable cs x) (hy : 0 ≤ y) (hyx : y ≤ x)
    (hdvd : ∀ c ∈ cs, c.1 ∣ y) (hchain : cs.Pairwise fun c c' => c'.1 ∣ c.1) : Payable cs (x - y) := by
  induction cs generalizing x y with
  | nil =>
    obtain rfl : x = 0 := h
    obtain rfl : y = 0 := by omega
    rfl
  | cons c cs ih =>
    obtain ⟨v, n⟩ := c
    obtain ⟨k, hk, hkn, hrest⟩ := h
    have hv : 0 < v := hvalues _ List.mem_cons_self
    obtain ⟨j, rfl⟩ : v ∣ y := hdvd _ List.mem_cons_self
    have hj : 0 ≤ j := by
      by_contra hneg
      nlinarith
    by_cases hjk : j ≤ k
    · -- coins of this value alone are enough
      refine ⟨k - j, by omega, by omega, ?_⟩
      have heq : x - v * j - (k - j) * v = x - k * v := by ring
      rwa [heq]
    · -- all of them are used, and the rest is found among the others
      refine ⟨0, le_rfl, by omega, ?_⟩
      have heq : x - v * j - 0 * v = x - k * v - (v * j - k * v) := by ring
      rw [heq]
      refine ih (fun c' hc' => hvalues c' (List.mem_cons_of_mem _ hc')) hrest (by nlinarith) (by omega) ?_ hchain.of_cons
      intro c' hc'
      have hcv : c'.1 ∣ v := (List.pairwise_cons.mp hchain).1 c' hc'
      exact dvd_sub (hcv.trans (dvd_mul_right v j)) (hcv.trans (dvd_mul_left v k))

/-- One more coin of the first value can be used as long as it fits. -/
theorem Payable.more {v x k : ℤ} {n : ℤ} {cs : List (ℤ × ℤ)} (hchain : Chain ((v, n) :: cs)) (h : Payable cs (x - k * v))
    (hfits : (k + 1) * v ≤ x) : Payable cs (x - (k + 1) * v) := by
  have hv : 0 < v := hchain.values _ List.mem_cons_self
  have heq : x - (k + 1) * v = x - k * v - v := by ring
  rw [heq]
  refine h.sub hchain.tail.values hv.le (by linarith) ?_ hchain.tail.divides
  exact (List.pairwise_cons.mp hchain.divides).1

/-- Greed pays in full whatever can be paid in full. -/
theorem greedy_eq_zero_iff {cs : List (ℤ × ℤ)} (hchain : Chain cs) {x : ℤ} (hx : 0 ≤ x) : greedy cs x = 0 ↔ Payable cs x := by
  induction cs generalizing x with
  | nil => rfl
  | cons c cs ih =>
    obtain ⟨v, n⟩ := c
    have hv : 0 < v := hchain.values _ List.mem_cons_self
    have hn : 0 ≤ n := hchain.stock _ List.mem_cons_self
    have hdiv : x / v * v ≤ x := Int.ediv_mul_le x hv.ne'
    have hdiv0 : 0 ≤ x / v := Int.ediv_nonneg hx hv.le
    have hfits : min (x / v) n * v ≤ x := (mul_le_mul_of_nonneg_right (min_le_left _ _) hv.le).trans hdiv
    rw [greedy, ih hchain.tail (by omega)]
    constructor
    · exact fun h => ⟨_, le_min hdiv0 hn, min_le_right _ _, h⟩
    · rintro ⟨k, hk, hkn, hrest⟩
      have hkx : k * v ≤ x := by
        have hnonneg := payable_nonneg hchain.tail.values hrest
        omega
      have hkmin : k ≤ min (x / v) n := le_min (Int.le_ediv_of_mul_le hv hkx) hkn
      -- from `k` up to as many as fit
      refine Int.leInduction (motive := fun m _ => m ≤ min (x / v) n → Payable cs (x - m * v)) (fun _ => hrest) ?_ _ hkmin le_rfl
      intro m _ hm hle
      refine (hm (by omega)).more hchain ?_
      exact (mul_le_mul_of_nonneg_right hle hv.le).trans hfits

end Coins
