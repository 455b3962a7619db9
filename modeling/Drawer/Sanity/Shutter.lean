import Drawer.Spec.Shutter

/-! One tick of the shutter's state machine: it ends the motion, or the motion goes
on by a step. -/

namespace Drawer.Shutter
open ShutterFSM

variable {s : ShutterFSM}

/-- The switch that ends the motion of `s`. -/
def switch (s : ShutterFSM) (l : Limits) : Bool := if s.state = .opening then l.atOpen else l.atClosed

def counter (s : ShutterFSM) : ℕ := if s.state = .opening then s.debOpen else s.debClosed

/-- After how many steps the motion of `s` ends at the latest. -/
def bound (s : ShutterFSM) : Int := if s.state = .homing then s.targetSteps else min s.targetSteps s.maxSteps

/-- Where the motion of `s` is to end. -/
def goal (s : ShutterFSM) : ShutterState := if s.state = .opening then .open else .closed

/-- The tick ends the motion. -/
def Over (s : ShutterFSM) (l : Limits) : Prop :=
  debounced (switch s l) (counter s) ≥ debounceReads ∨ s.stepsDone + 1 ≥ bound s

structure Stopped (s s' : ShutterFSM) : Prop where
  enabled : s'.stepper.enabled = false
  state : s'.state = goal s ∨ s'.state = .fault

structure GoesOn (s : ShutterFSM) (l : Limits) (s' : ShutterFSM) : Prop where
  enabled : s'.stepper.enabled = s.stepper.enabled
  state : s'.state = s.state
  stepsDone : s'.stepsDone = s.stepsDone + 1
  counter : counter s' = debounced (switch s l) (counter s)
  bound : bound s' = bound s

@[simp] theorem advance_state : s.advance.state = s.state := rfl

@[simp] theorem advance_targetSteps : s.advance.targetSteps = s.targetSteps := rfl

/-- A motion that neither its target nor the limit ends has not gone as far as either. -/
theorem not_over {done target limit : Int} (h1 : ¬ done ≥ target) (h2 : ¬ done ≥ limit) : ¬ done ≥ min target limit := by
  omega

theorem tick_over (hm : s.moving = true) {l : Limits} (h : Over s l) : Stopped s (s.tick l) := by
  simp only [moving, Bool.or_eq_true, decide_eq_true_eq] at hm
  rcases hm with (hs | hs) | hs
  · simp only [Over, switch, counter, bound, hs, if_true, reduceCtorEq, if_false] at h
    simp only [tick, hs]
    split_ifs with h1 h2
    · exact ⟨rfl, Or.inl (by simp only [goal, hs]; rfl)⟩
    · exact ⟨rfl, Or.inr rfl⟩
    · exact absurd h (not_or.mpr ⟨h1, h2⟩)
  · simp only [Over, switch, counter, bound, hs, if_true, reduceCtorEq, if_false] at h
    simp only [tick, hs]
    split_ifs with h1 h2 h3
    · exact ⟨rfl, Or.inl (by simp only [goal, hs]; rfl)⟩
    · exact ⟨rfl, Or.inl (by simp only [goal, hs]; rfl)⟩
    · exact ⟨rfl, Or.inr rfl⟩
    · exact absurd h (not_or.mpr ⟨h1, not_over h2 h3⟩)
  · simp only [Over, switch, counter, bound, hs, reduceCtorEq, if_false] at h
    simp only [tick, hs]
    split_ifs with h1 h2 h3
    · exact ⟨rfl, Or.inl (by simp only [goal, hs]; rfl)⟩
    · exact ⟨rfl, Or.inl (by simp only [goal, hs]; rfl)⟩
    · exact ⟨rfl, Or.inr rfl⟩
    · exact absurd h (not_or.mpr ⟨h1, not_over h2 h3⟩)

theorem tick_goesOn (hm : s.moving = true) {l : Limits} (h : ¬ Over s l) : GoesOn s l (s.tick l) := by
  obtain ⟨hdeb, hsteps⟩ := not_or.mp h
  simp only [moving, Bool.or_eq_true, decide_eq_true_eq] at hm
  rcases hm with (hs | hs) | hs
  · simp only [switch, counter, bound, hs, if_true, reduceCtorEq, if_false] at hdeb hsteps
    simp only [tick, hs]
    split_ifs with h2
    · exact absurd h2 hsteps
    · exact ⟨rfl, rfl, rfl, by simp [counter, switch, hs], by simp [bound, hs]⟩
  · simp only [switch, counter, bound, hs, if_true, reduceCtorEq, if_false] at hdeb hsteps
    have htarget : ¬ s.stepsDone + 1 ≥ s.targetSteps := by omega
    have hmax : ¬ s.stepsDone + 1 ≥ s.maxSteps := by omega
    simp only [tick, hs]
    split_ifs with h2 h3
    · exact absurd h2 htarget
    · exact absurd h3 hmax
    · exact ⟨rfl, rfl, rfl, by simp [counter, switch, hs], by simp only [bound, advance_state, hs]; rfl⟩
  · simp only [switch, counter, bound, hs, reduceCtorEq, if_false] at hdeb hsteps
    have htarget : ¬ s.stepsDone + 1 ≥ s.targetSteps := by omega
    have hmax : ¬ s.stepsDone + 1 ≥ s.maxSteps := by omega
    simp only [tick, hs]
    split_ifs with h2 h3
    · exact absurd h2 htarget
    · exact absurd h3 hmax
    · exact ⟨rfl, rfl, rfl, by simp [counter, switch, hs], by simp only [bound, advance_state, hs]; rfl⟩

theorem tick_idle (hm : s.moving = false) (l : Limits) : s.tick l = s := by
  simp only [moving, Bool.or_eq_false_iff, decide_eq_false_iff_not] at hm
  unfold tick
  split
  · exact absurd ‹_› hm.1.1
  · exact absurd ‹_› hm.1.2
  · exact absurd ‹_› hm.2
  · rfl

/-- Whether or not it ends the motion, a tick of it makes one step. -/
theorem tick_stepper (hm : s.moving = true) (l : Limits) :
    (s.tick l).stepper.position = s.stepper.step.position ∧
      (s.tick l).stepper.openDir = s.stepper.openDir ∧ (s.tick l).stepper.stepsPerMm = s.stepper.stepsPerMm ∧
      (s.tick l).maxMm = s.maxMm := by
  simp only [moving, Bool.or_eq_true, decide_eq_true_eq] at hm
  rcases hm with (hs | hs) | hs
  all_goals
    simp only [tick, hs]
    split_ifs <;> exact ⟨rfl, rfl, rfl, rfl⟩

end Drawer.Shutter
