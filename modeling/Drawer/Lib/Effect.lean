import Mathlib.Tactic

/-! Programs that act on the world through effects. The world answers each
effect; nothing is assumed about the answers. A finished run and a run that was
stopped between two effects are both described by the list of effects performed
so far, each with its answer. -/

namespace Effect

variable {E : Type} {R : E → Type} {α : Type}

/-- A program whose effects are `E`; the effect `e` is answered by an `R e`. -/
inductive Program (E : Type) (R : E → Type) (α : Type) where
  | ret (a : α)
  | call (e : E) (k : R e → Program E R α)

/-- `Runs p tr a`: `p` ends with `a` after exactly the answered effects `tr`. -/
inductive Runs : Program E R α → List (Sigma R) → α → Prop
  | ret (a : α) : Runs (.ret a) [] a
  | call {e : E} {k : R e → Program E R α} (r : R e) {tr : List (Sigma R)} {a : α} :
      Runs (k r) tr a → Runs (.call e k) (⟨e, r⟩ :: tr) a

/-- `Stops p tr`: `p` was stopped, at some point, after exactly the effects `tr`. -/
inductive Stops : Program E R α → List (Sigma R) → Prop
  | here (p : Program E R α) : Stops p []
  | call {e : E} {k : R e → Program E R α} (r : R e) {tr : List (Sigma R)} :
      Stops (k r) tr → Stops (.call e k) (⟨e, r⟩ :: tr)

theorem runs_ret {a b : α} {tr : List (Sigma R)} :
    Runs (.ret a : Program E R α) tr b ↔ tr = [] ∧ b = a := by
  refine ⟨fun h => ?_, fun h => ?_⟩
  · cases h
    exact ⟨rfl, rfl⟩
  · obtain ⟨rfl, rfl⟩ := h
    exact .ret _

theorem runs_call {e : E} {k : R e → Program E R α} {tr : List (Sigma R)} {a : α} :
    Runs (.call e k) tr a ↔ ∃ r tr', tr = ⟨e, r⟩ :: tr' ∧ Runs (k r) tr' a := by
  refine ⟨fun h => ?_, fun h => ?_⟩
  · cases h with
    | call r h => exact ⟨r, _, rfl, h⟩
  · obtain ⟨r, tr', rfl, h⟩ := h
    exact .call r h

theorem stops_ret {a : α} {tr : List (Sigma R)} :
    Stops (.ret a : Program E R α) tr ↔ tr = [] := by
  refine ⟨fun h => ?_, fun h => ?_⟩
  · cases h
    rfl
  · subst h
    exact .here _

theorem stops_call {e : E} {k : R e → Program E R α} {tr : List (Sigma R)} :
    Stops (.call e k) tr ↔ tr = [] ∨ ∃ r tr', tr = ⟨e, r⟩ :: tr' ∧ Stops (k r) tr' := by
  refine ⟨fun h => ?_, fun h => ?_⟩
  · cases h with
    | here => exact Or.inl rfl
    | call r h => exact Or.inr ⟨r, _, rfl, h⟩
  · rcases h with rfl | ⟨r, tr', rfl, h⟩
    · exact .here _
    · exact .call r h

/-- A finished run was also a run that could have been stopped at its end. -/
theorem Runs.stops {p : Program E R α} {tr : List (Sigma R)} {a : α} (h : Runs p tr a) : Stops p tr := by
  induction h with
  | ret a => exact .here _
  | call r _ ih => exact .call r ih

/-- Run a program to its end in a world that answers each effect always alike. -/
def perform (world : ∀ e, R e) : Program E R α → List (Sigma R) × α
  | .ret a => ([], a)
  | .call e k =>
    let p := perform world (k (world e))
    (⟨e, world e⟩ :: p.1, p.2)

theorem runs_perform (world : ∀ e, R e) (p : Program E R α) : Runs p (perform world p).1 (perform world p).2 := by
  induction p with
  | ret a => exact .ret a
  | call e k ih => exact .call _ (ih _)

/-- Replay answered effects on a program: what is left of it, if it performs just these. -/
def replay [DecidableEq E] : Program E R α → List (Sigma R) → Option (Program E R α)
  | p, [] => some p
  | .ret _, _ :: _ => none
  | .call e k, ev :: tr => if h : ev.1 = e then replay (k (h ▸ ev.2)) tr else none

theorem stops_of_replay [DecidableEq E] {p : Program E R α} {tr : List (Sigma R)}
    (h : (replay p tr).isSome = true) : Stops p tr := by
  induction tr generalizing p with
  | nil => exact .here p
  | cons ev tr ih =>
    cases p with
    | ret b => cases h
    | call e k =>
      obtain ⟨e', r⟩ := ev
      by_cases he : e' = e
      · subst he
        simp only [replay, dite_true] at h
        exact .call r (ih h)
      · simp [replay, he] at h

variable {β σ : Type}

/-- What is made of the result of a program. -/
def Program.map (f : α → β) : Program E R α → Program E R β
  | .ret a => .ret (f a)
  | .call e k => .call e fun r => (k r).map f

/-- Run a program to its end in a world with a state. -/
def performFrom (world : σ → ∀ e, σ × R e) : σ → Program E R α → σ × α
  | s, .ret a => (s, a)
  | s, .call e k => performFrom world (world s e).1 (k (world s e).2)

theorem performFrom_map (world : σ → ∀ e, σ × R e) (f : α → β) (s : σ) (p : Program E R α) :
    performFrom world s (p.map f) = ((performFrom world s p).1, f (performFrom world s p).2) := by
  induction p generalizing s with
  | ret a => rfl
  | call e k ih => exact ih _ _

/-! ### Invariants and postconditions -/

/-- Started in `s`, the program keeps `I` after each of its effects and ends in `Q`, where effects lead from state to state by
`after` and only those that are `ok` happen. -/
def Safe (after : σ → Sigma R → σ) (ok : Sigma R → Prop) (I : σ → Prop) (Q : σ → α → Prop) : Program E R α → σ → Prop
  | .ret a, s => Q s a
  | .call e k, s => ∀ r, ok ⟨e, r⟩ → I (after s ⟨e, r⟩) ∧ Safe after ok I Q (k r) (after s ⟨e, r⟩)

variable {after : σ → Sigma R → σ} {ok : Sigma R → Prop} {I : σ → Prop} {Q : σ → α → Prop} {p : Program E R α} {s : σ}
  {tr : List (Sigma R)}

theorem Safe.stops (h : Safe after ok I Q p s) (hs : I s) (htr : Stops p tr) (hok : ∀ ev ∈ tr, ok ev) : I (tr.foldl after s) := by
  induction htr generalizing s with
  | here => exact hs
  | call r _ ih =>
    obtain ⟨hnow, hlater⟩ := List.forall_mem_cons.mp hok
    obtain ⟨hI, hrest⟩ := h r hnow
    exact ih hrest hI hlater

theorem Safe.runs (h : Safe after ok I Q p s) {a : α} (htr : Runs p tr a) (hok : ∀ ev ∈ tr, ok ev) : Q (tr.foldl after s) a := by
  induction htr generalizing s with
  | ret => exact h
  | call r _ ih =>
    obtain ⟨hnow, hlater⟩ := List.forall_mem_cons.mp hok
    exact ih (h r hnow).2 hlater

end Effect
