import Mathlib.Tactic

/-! Counters that processes raise one by one. Where each process has added what its own state says,
a counter is the sum over the processes, and a step of one of them changes one term. -/

namespace Census

variable {ι κ : Type*} [Fintype ι]

theorem sum_update [DecidableEq ι] (f : ι → κ → ℤ) (pc : ι → κ) (i : ι) (x : κ) :
    ∑ k, f k (Function.update pc i x k) = ∑ k, f k (pc k) + (f i x - f i (pc i)) := by
  have hrest : ∑ k ∈ Finset.univ.erase i, f k (Function.update pc i x k) = ∑ k ∈ Finset.univ.erase i, f k (pc k) :=
    Finset.sum_congr rfl fun k hk => by rw [Function.update_of_ne (Finset.ne_of_mem_erase hk)]
  rw [← Finset.add_sum_erase _ _ (Finset.mem_univ i), ← Finset.add_sum_erase _ (fun k => f k (pc k)) (Finset.mem_univ i),
    Function.update_self, hrest]
  ring

/-- A counter to which each process adds one or nothing. -/
theorem sum_ite (p : ι → Prop) [DecidablePred p] : ∑ i, (if p i then 1 else 0 : ℤ) = (Finset.univ.filter p).card := by
  rw [Finset.sum_boole]

/-! ### Slots -/

variable {α β : Type*} (le : α → β → Bool)

/-- The first bound that a value does not exceed, or the number of bounds. -/
def slot (bounds : List β) (v : α) : ℕ := bounds.findIdx (le v)

theorem slot_le_length (bounds : List β) (v : α) : slot le bounds v ≤ bounds.length := List.findIdx_le_length

theorem slot_le_iff {bounds : List β} {v : α} {j : ℕ} (hj : j < bounds.length) :
    slot le bounds v ≤ j ↔ ∃ i, ∃ hi : i < bounds.length, i ≤ j ∧ le v bounds[i] = true := by
  refine ⟨fun h => ⟨slot le bounds v, h.trans_lt hj, h, ?_⟩, fun ⟨i, _, hi, hle⟩ => ?_⟩
  · exact List.findIdx_getElem
  · by_contra hlt
    have hbefore : i < bounds.findIdx (le v) := hi.trans_lt (not_le.mp hlt)
    exact absurd hle (by simpa using List.not_of_lt_findIdx hbefore)

/-- With the bounds in order, a value is in no later slot just if it does not exceed the bound. -/
theorem slot_le_iff_of_sorted (leq : β → β → Bool) (htrans : ∀ v b b', le v b = true → leq b b' = true → le v b' = true)
    {bounds : List β} (hsorted : bounds.Pairwise fun b b' => leq b b' = true) {v : α} {j : ℕ} (hj : j < bounds.length) :
    slot le bounds v ≤ j ↔ le v bounds[j] = true := by
  rw [slot_le_iff le hj]
  refine ⟨fun ⟨i, _, hi, hle⟩ => ?_, fun h => ⟨j, hj, le_rfl, h⟩⟩
  rcases hi.lt_or_eq with hlt | rfl
  · exact htrans v _ _ hle (List.pairwise_iff_getElem.mp hsorted i j _ hj hlt)
  · exact hle

end Census
