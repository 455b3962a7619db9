import Mathlib.Tactic

/-! Programs that change a state and may throw, and what holds when they end.
What was stored before a throw stays stored, so there are two postconditions,
one for a program that returns and one for a program that throws. -/

namespace Outcome

variable {σ α β : Type}

theorem bind_eq_ok {ε : Type} {x : Except ε α} {f : α → Except ε β} {b : β} (h : x.bind f = .ok b) :
    ∃ a, x = .ok a ∧ f a = .ok b := by
  cases x with
  | error e => cases h
  | ok a => exact ⟨a, rfl, h⟩

/-- `Ends m s Q E`: begun in `s`, the program returns in a state that meets `Q` or throws in one that meets `E`. -/
def Ends (m : OptionT (StateM σ) α) (s : σ) (Q : α → σ → Prop) (E : σ → Prop) : Prop :=
  match m.run s with
  | (some a, s') => Q a s'
  | (none, s') => E s'

theorem ends_pure {a : α} {s : σ} {Q : α → σ → Prop} {E : σ → Prop} (h : Q a s) :
    Ends (pure a : OptionT (StateM σ) α) s Q E := h

theorem ends_bind {m : OptionT (StateM σ) α} {f : α → OptionT (StateM σ) β} {s : σ} {Q : β → σ → Prop} {E : σ → Prop}
    (h : Ends m s (fun a s' => Ends (f a) s' Q E) E) : Ends (m >>= f) s Q E := by
  unfold Ends at h ⊢
  simp only [bind, OptionT.bind, OptionT.mk, OptionT.run, StateT.bind] at h ⊢
  generalize m s = r at h ⊢
  obtain ⟨_ | a, s'⟩ := r
  · exact h
  · exact h

theorem Ends.mono {m : OptionT (StateM σ) α} {s : σ} {Q Q' : α → σ → Prop} {E E' : σ → Prop} (h : Ends m s Q E)
    (hQ : ∀ a s', Q a s' → Q' a s') (hE : ∀ s', E s' → E' s') : Ends m s Q' E' := by
  unfold Ends at h ⊢
  generalize m.run s = r at h ⊢
  obtain ⟨_ | a, s'⟩ := r
  · exact hE s' h
  · exact hQ a s' h

theorem Ends.of_run {m : OptionT (StateM σ) α} {s s' : σ} {r : Option α} {Q : α → σ → Prop} {E : σ → Prop}
    (h : Ends m s Q E) (hrun : m.run s = (r, s')) : (∃ a, r = some a ∧ Q a s') ∨ (r = none ∧ E s') := by
  rw [Ends, hrun] at h
  cases r with
  | none => exact Or.inr ⟨rfl, h⟩
  | some a => exact Or.inl ⟨a, rfl, h⟩

end Outcome
