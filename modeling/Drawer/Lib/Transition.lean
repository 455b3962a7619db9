import Mathlib.Tactic

/-! Runs of a labelled transition relation. A property of every run is obtained
from what one step keeps; restricting the steps to those taken in states that
meet a guard is again a transition relation, so the same rule serves runs
whose steps all meet a condition. -/

namespace Transition

variable {σ ε : Type*}

/-- `Run step s₀ es s`: the labels `es`, taken in order, lead from `s₀` to `s`. -/
inductive Run (step : σ → ε → σ → Prop) (s₀ : σ) : List ε → σ → Prop
  | nil : Run step s₀ [] s₀
  | snoc {es : List ε} {s : σ} {e : ε} {s' : σ} :
      Run step s₀ es s → step s e s' → Run step s₀ (es ++ [e]) s'

/-- The relation of a step function. -/
def ofFun (f : σ → ε → σ) : σ → ε → σ → Prop := fun s e s' => f s e = s'

/-- The steps of `step` whose state and label before the step meet `guard`. -/
def guarded (guard : σ → ε → Prop) (step : σ → ε → σ → Prop) : σ → ε → σ → Prop :=
  fun s e s' => guard s e ∧ step s e s'

/-- Where a list with one more label is cut: before the last label, or at it. -/
theorem split_snoc {es l r : List ε} {x e : ε} (hs : es ++ [x] = l ++ e :: r) :
    (∃ r', es = l ++ e :: r' ∧ r = r' ++ [x]) ∨ (es = l ∧ x = e ∧ r = []) := by
  rcases List.eq_nil_or_concat r with rfl | ⟨r', y, rfl⟩
  · obtain ⟨hl, hx⟩ := List.append_inj' hs rfl
    exact Or.inr ⟨hl, (List.cons.inj hx).1, rfl⟩
  · have hs' : es ++ [x] = (l ++ e :: r') ++ [y] := by simpa using hs
    obtain ⟨hl, hx⟩ := List.append_inj' hs' rfl
    exact Or.inl ⟨r', hl, by simp [(List.cons.inj hx).1]⟩

theorem Run.invariant {step : σ → ε → σ → Prop} {s₀ : σ} {I : σ → Prop} (h0 : I s₀)
    (hstep : ∀ s e s', I s → step s e s' → I s') {es : List ε} {s : σ}
    (h : Run step s₀ es s) : I s := by
  induction h with
  | nil => exact h0
  | snoc _ hs ih => exact hstep _ _ _ ih hs

theorem Run.snoc_inv {step : σ → ε → σ → Prop} {s₀ s' : σ} {es : List ε} {e : ε} (h : Run step s₀ (es ++ [e]) s') :
    ∃ s, Run step s₀ es s ∧ step s e s' := by
  generalize hes : es ++ [e] = all at h
  cases h with
  | nil => simp at hes
  | snoc hrun hstep =>
    obtain ⟨rfl, hlast⟩ := List.append_inj' hes rfl
    obtain rfl := (List.cons.inj hlast).1
    exact ⟨_, hrun, hstep⟩

theorem Run.append {step : σ → ε → σ → Prop} {s₀ s s' : σ} {es es' : List ε} (h : Run step s₀ es s)
    (h' : Run step s es' s') : Run step s₀ (es ++ es') s' := by
  induction h' with
  | nil => rwa [List.append_nil]
  | snoc _ hstep ih =>
    rw [← List.append_assoc]
    exact Run.snoc ih hstep

/-- A run can be cut wherever its labels are. -/
theorem Run.split {step : σ → ε → σ → Prop} {s₀ s' : σ} {es es' : List ε} (h : Run step s₀ (es ++ es') s') :
    ∃ s, Run step s₀ es s ∧ Run step s es' s' := by
  induction es' using List.reverseRecOn generalizing s' with
  | nil => exact ⟨s', by rwa [List.append_nil] at h, Run.nil⟩
  | append_singleton es' e ih =>
    rw [← List.append_assoc] at h
    obtain ⟨s₁, hrun, hstep⟩ := h.snoc_inv
    obtain ⟨s, hbefore, hafter⟩ := ih hrun
    exact ⟨s, hbefore, Run.snoc hafter hstep⟩

theorem Run.cut {step : σ → ε → σ → Prop} {s₀ s' : σ} {l r : List ε} {e : ε} (h : Run step s₀ (l ++ e :: r) s') :
    ∃ s s₁, Run step s₀ l s ∧ step s e s₁ ∧ Run step s₁ r s' := by
  rw [List.append_cons] at h
  obtain ⟨s₁, hbefore, hafter⟩ := h.split
  obtain ⟨s, hrun, hstep⟩ := hbefore.snoc_inv
  exact ⟨s, s₁, hrun, hstep, hafter⟩

/-- A step function takes every list of labels to the state it folds to. -/
theorem run_foldl (f : σ → ε → σ) (s₀ : σ) (es : List ε) : Run (ofFun f) s₀ es (es.foldl f s₀) := by
  induction es using List.reverseRecOn with
  | nil => exact Run.nil
  | append_singleton es e ih =>
    rw [List.foldl_append]
    exact Run.snoc ih rfl

/-- Every step of a step function along `es` is taken in a state that meets the guard. -/
def Meets (guard : σ → ε → Prop) (f : σ → ε → σ) : σ → List ε → Prop
  | _, [] => True
  | s, e :: es => guard s e ∧ Meets guard f (f s e) es

instance Meets.decidable (guard : σ → ε → Prop) [∀ s e, Decidable (guard s e)] (f : σ → ε → σ) :
    ∀ s es, Decidable (Meets guard f s es)
  | _, [] => isTrue trivial
  | s, e :: es =>
    haveI := Meets.decidable guard f (f s e) es
    inferInstanceAs (Decidable (guard s e ∧ Meets guard f (f s e) es))

theorem meets_append {guard : σ → ε → Prop} {f : σ → ε → σ} {s : σ} {es es' : List ε} :
    Meets guard f s (es ++ es') ↔ Meets guard f s es ∧ Meets guard f (es.foldl f s) es' := by
  induction es generalizing s with
  | nil => simp [Meets]
  | cons e es ih => simp [Meets, ih, and_assoc]

/-- A guard is met along a list just if it is met wherever the list is cut. -/
theorem meets_iff {guard : σ → ε → Prop} {f : σ → ε → σ} {s : σ} {es : List ε} :
    Meets guard f s es ↔ ∀ before e after, es = before ++ e :: after → guard (before.foldl f s) e := by
  induction es generalizing s with
  | nil => simp [Meets]
  | cons e es ih =>
    rw [Meets, ih]
    refine ⟨fun ⟨h, hrest⟩ before e' after hes => ?_, fun h => ⟨h [] e es rfl, fun before e' after hes => ?_⟩⟩
    · cases before with
      | nil =>
        obtain ⟨rfl, -⟩ := List.cons.inj hes
        exact h
      | cons b before =>
        obtain ⟨rfl, htail⟩ := List.cons.inj hes
        exact hrest before e' after htail
    · exact h (e :: before) e' after (by rw [hes]; rfl)

/-- What holds of `d` at some point of a run holds of it from then on, just if no step takes it away. -/
theorem meets_keeps_iff {δ : Type*} {P : σ → δ → Prop} {f : σ → ε → σ} {s : σ} {es : List ε} :
    Meets (fun s e => ∀ d, P s d → P (f s e) d) f s es ↔
      ∀ before mid after, es = before ++ mid ++ after → ∀ d, P (before.foldl f s) d → P ((before ++ mid).foldl f s) d := by
  refine ⟨fun h before mid => ?_, fun h => ?_⟩
  · induction mid using List.reverseRecOn with
    | nil => exact fun _ _ _ hd => by simpa using hd
    | append_singleton mid e ih =>
      intro after hes d hd
      have hprev := ih (e :: after) (by simpa using hes) d hd
      rw [hes, List.append_assoc, meets_append] at h
      have hrest := h.2
      rw [List.append_assoc, meets_append] at hrest
      have hstep := hrest.2.1 d (by rwa [List.foldl_append] at hprev)
      rwa [← List.append_assoc, List.foldl_append, List.foldl_append]
  · induction es generalizing s with
    | nil => exact trivial
    | cons e es ih =>
      refine ⟨fun d hd => h [] [e] es rfl d hd, ih fun before mid after hes d hd => ?_⟩
      exact h (e :: before) mid after (by rw [hes]; rfl) d hd

/-- Guards that agree in every state that can be reached while they are met are met by the same runs. -/
theorem meets_congr_of {guard guard' : σ → ε → Prop} {f : σ → ε → σ} {I : σ → Prop}
    (hstep : ∀ s e, I s → guard s e → I (f s e)) (hiff : ∀ s e, I s → (guard s e ↔ guard' s e)) {s : σ} (hs : I s)
    (es : List ε) : Meets guard f s es ↔ Meets guard' f s es := by
  induction es generalizing s with
  | nil => exact Iff.rfl
  | cons e es ih =>
    rw [Meets, Meets, ← hiff s e hs]
    exact and_congr_right fun hg => ih (hstep s e hs hg)

/-- Guards that agree in every state that can be reached are met by the same runs. -/
theorem meets_congr {guard guard' : σ → ε → Prop} {f : σ → ε → σ} {I : σ → Prop} (hstep : ∀ s e, I s → I (f s e))
    (hiff : ∀ s e, I s → (guard s e ↔ guard' s e)) {s : σ} (hs : I s) (es : List ε) :
    Meets guard f s es ↔ Meets guard' f s es :=
  meets_congr_of (fun s e h _ => hstep s e h) hiff hs es

theorem Run.extend {guard : σ → ε → Prop} {f : σ → ε → σ} {s₀ s : σ} {es : List ε} (es' : List ε)
    (h : Run (guarded guard (ofFun f)) s₀ es s) (hm : Meets guard f s es') :
    Run (guarded guard (ofFun f)) s₀ (es ++ es') (es'.foldl f s) := by
  induction es' generalizing es s with
  | nil => simpa using h
  | cons e es' ih =>
    have hnext := ih (Run.snoc h ⟨hm.1, rfl⟩) hm.2
    rwa [List.append_assoc, List.singleton_append] at hnext

theorem Meets.run {guard : σ → ε → Prop} {f : σ → ε → σ} {s₀ : σ} {es : List ε} (h : Meets guard f s₀ es) :
    Run (guarded guard (ofFun f)) s₀ es (es.foldl f s₀) :=
  Run.nil.extend es h

end Transition
