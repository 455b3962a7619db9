import Mathlib.Tactic

/-! Registers that keep the newest of what is put into them. Values come with a key, and one replaces
what is held just if its key is greater. -/

namespace Newest

variable {α κ : Type*} [LinearOrder κ] (key : α → κ)

/-- What is held after a value has been put. -/
def put (held : Option α) (a : α) : Option α := if held.all fun b => key b < key a then some a else held

def putAll (held : Option α) (l : List α) : Option α := l.foldl (put key) held

variable {key}

theorem putAll_snoc (held : Option α) (l : List α) (a : α) : putAll key held (l ++ [a]) = put key (putAll key held l) a := by
  rw [putAll, List.foldl_append]
  rfl

theorem put_some {a b : α} : put key (some b) a = if key b < key a then some a else some b := by
  simp [put]

/-- Only what has been put is held, and nothing that is newer has been put. -/
theorem putAll_spec (key : α → κ) (l : List α) :
    (putAll key none l = none ∧ l = []) ∨ ∃ a, putAll key none l = some a ∧ a ∈ l ∧ ∀ b ∈ l, key b ≤ key a := by
  induction l using List.reverseRecOn with
  | nil => exact Or.inl ⟨rfl, rfl⟩
  | append_singleton l c ih =>
    right
    rw [putAll_snoc]
    rcases ih with ⟨hnone, rfl⟩ | ⟨a, ha, hmem, hle⟩
    · rw [hnone]
      exact ⟨c, rfl, List.mem_concat_self, fun b hb => by rw [List.mem_singleton.mp hb]⟩
    · rw [ha, put_some]
      split_ifs with hlt
      · refine ⟨c, rfl, List.mem_concat_self, fun b hb => ?_⟩
        rcases List.mem_append.mp hb with hb | hb
        · exact (hle b hb).trans hlt.le
        · rw [List.mem_singleton.mp hb]
      · refine ⟨a, rfl, List.mem_append_left _ hmem, fun b hb => ?_⟩
        rcases List.mem_append.mp hb with hb | hb
        · exact hle b hb
        · rw [List.mem_singleton.mp hb]
          exact not_lt.mp hlt

end Newest
