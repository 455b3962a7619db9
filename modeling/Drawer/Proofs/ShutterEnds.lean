import Drawer.Lib.Casts
import Drawer.Proofs.ShutterMotor
import Drawer.Proofs.ShutterTravel

/-! Every motion of the shutter ends: its steps are counted from the command on, and
the switch, or else the target, ends it. -/

namespace Drawer.Shutter
open ShutterFSM

variable {s : ShutterFSM} {limits : ℕ → Limits}

/-- A motion that began in `s₀` still goes on after `n` ticks. -/
structure Going (limits : ℕ → Limits) (s₀ : ShutterFSM) (n : ℕ) (s : ShutterFSM) : Prop where
  state : s.state = s₀.state
  stepsDone : s.stepsDone = n
  counter : counter s = streak (fun i => switch s₀ (limits i)) 0 n
  bound : bound s = bound s₀
  short : n = 0 ∨ (n : Int) < Shutter.bound s₀

theorem Going.moving {s₀ : ShutterFSM} {n : ℕ} (h : Going limits s₀ n s) (hm : s₀.moving = true) : s.moving = true := by
  rw [ShutterFSM.moving, h.state]
  exact hm

theorem Going.tick {s₀ : ShutterFSM} {n : ℕ} (h : Going limits s₀ n s) (hm : s₀.moving = true) (hnot : ¬ Over s (limits n)) :
    Going limits s₀ (n + 1) (s.tick (limits n)) := by
  have hon := tick_goesOn (h.moving hm) hnot
  have hswitch : switch s (limits n) = switch s₀ (limits n) := by rw [switch, h.state, switch]
  refine ⟨hon.state.trans h.state, ?_, ?_, hon.bound.trans h.bound, Or.inr ?_⟩
  · rw [hon.stepsDone, h.stepsDone]
    push_cast
    rfl
  · rw [hon.counter, h.counter, hswitch, streak]
  · have hsteps := (not_or.mp hnot).2
    rw [h.stepsDone, h.bound] at hsteps
    push_cast
    omega

/-- A motion that has just begun is over at some tick, the first at which it is not still going. -/
theorem over_at (limits : ℕ → Limits) (hm : s.moving = true) (hsteps : s.stepsDone = 0) (hcounter : counter s = 0) :
    ∃ n : ℕ, (n : Int) + 1 ≤ max 1 (bound s) ∧ (∀ k ≤ n, Going limits s k (ticked limits s k)) ∧
      Over (ticked limits s n) (limits n) := by
  have hbegin : Going limits s 0 (ticked limits s 0) := ⟨rfl, hsteps, hcounter, rfl, Or.inl rfl⟩
  by_contra hnever
  have hgoing : ∀ n : ℕ, ∀ k ≤ n, Going limits s k (ticked limits s k) := by
    intro n
    induction n with
    | zero =>
      intro k hk
      obtain rfl : k = 0 := by omega
      exact hbegin
    | succ n ih =>
      intro k hk
      rcases Nat.le_succ_iff.mp hk with hle | rfl
      · exact ih k hle
      · refine (ih n le_rfl).tick hm fun hover => hnever ⟨n, ?_, ih, hover⟩
        have hshort := (ih n le_rfl).short
        omega
  -- a motion cannot go on past its bound
  have hlast := (hgoing (max 1 (bound s)).toNat _ le_rfl).short
  omega

theorem tick_counted (hm : s.moving = true) (l : Limits) :
    (s.tick l).stepsDone = s.stepsDone + 1 ∧ (s.tick l).targetSteps = s.targetSteps := by
  simp only [moving, Bool.or_eq_true, decide_eq_true_eq] at hm
  rcases hm with (hs | hs) | hs
  all_goals
    simp only [tick, hs]
    split_ifs <;> exact ⟨rfl, rfl⟩

/-- The tick that ends a move arrives by the switch or at the target; else the move came to the limit. -/
theorem tick_arrives_iff (hm : s.state = .opening ∨ s.state = .closing) {l : Limits} (hover : Over s l) :
    (s.tick l).state = goal s ↔
      debounceReads ≤ debounced (switch s l) (counter s) ∨ s.targetSteps ≤ s.stepsDone + 1 := by
  rcases hm with hs | hs
  · simp only [Over, switch, counter, bound, hs, if_true, reduceCtorEq, if_false] at hover
    simp only [tick, hs, switch, counter, goal, if_true]
    split_ifs with h1 h2 h3
    · exact iff_of_true rfl (Or.inl h1)
    · exact iff_of_true rfl (Or.inr h2)
    · exact iff_of_false (by rintro ⟨⟩) (not_or.mpr ⟨h1, h2⟩)
    · exact absurd hover (not_or.mpr ⟨h1, not_over h2 h3⟩)
  · simp only [Over, switch, counter, bound, hs, reduceCtorEq, if_false] at hover
    simp only [tick, hs, switch, counter, goal, reduceCtorEq, if_false]
    split_ifs with h1 h2 h3
    · exact iff_of_true rfl (Or.inl h1)
    · exact iff_of_true rfl (Or.inr h2)
    · exact iff_of_false (by rintro ⟨⟩) (not_or.mpr ⟨h1, h2⟩)
    · exact absurd hover (not_or.mpr ⟨h1, not_over h2 h3⟩)

theorem tick_homed (hs : s.state = .homing) {l : Limits} (hclosed : (s.tick l).state = .closed) :
    debounceReads ≤ debounced (switch s l) (counter s) := by
  simp only [tick, hs] at hclosed
  simp only [switch, counter, hs, reduceCtorEq, if_false]
  split_ifs at hclosed with h1 h2
  · exact h1
  · cases hclosed
  · rw [advance_state, hs] at hclosed
    cases hclosed

/-- While a motion goes on, and at the tick that ends it, each tick makes one step. -/
theorem ticked_steps (hm : s.moving = true) (hsteps : s.stepsDone = 0) {n : ℕ}
    (hgoing : ∀ k < n, (ticked limits s k).state = s.state) : ∀ k ≤ n,
      (ticked limits s k).stepsDone = k ∧ (ticked limits s k).targetSteps = s.targetSteps ∧
      (ticked limits s k).maxSteps = s.maxSteps ∧ (ticked limits s k).stepper.openDir = s.stepper.openDir ∧
      (ticked limits s k).stepper.position = s.stepper.position + k * if s.stepper.openDir then 1 else -1 := by
  intro k
  induction k with
  | zero => exact fun _ => ⟨hsteps, rfl, rfl, rfl, by simp [ticked]⟩
  | succ k ih =>
    intro hk
    obtain ⟨hdone, htarget, hmax, hdir, hposition⟩ := ih (by omega)
    have hmoving : (ticked limits s k).moving = true := by
      rw [moving, hgoing k (by omega)]
      exact hm
    obtain ⟨hdone', htarget'⟩ := tick_counted hmoving (limits k)
    obtain ⟨hposition', hdir', hscale, hmm⟩ := tick_stepper hmoving (limits k)
    have hmax' : ((ticked limits s k).tick (limits k)).maxSteps = (ticked limits s k).maxSteps := by
      rw [maxSteps, maxSteps, hscale, hmm]
    refine ⟨?_, htarget'.trans htarget, hmax'.trans hmax, hdir'.trans hdir, ?_⟩
    · rw [ticked, hdone', hdone]
      push_cast
      rfl
    · rw [ticked, hposition', Stepper.step, hdir, hposition]
      push_cast
      ring

theorem ticked_idle {n : ℕ} (hm : (ticked limits s n).moving = false) (k : ℕ) : ticked limits s (n + k) = ticked limits s n := by
  induction k with
  | zero => rfl
  | succ k ih => rw [← Nat.add_assoc, ticked, ih, tick_idle hm]

theorem bound_le_targetSteps (s : ShutterFSM) : bound s ≤ s.targetSteps := by
  unfold bound
  split_ifs
  · exact le_rfl
  · exact min_le_left _ _

/-- A motion that is over at the tick `n`, and arrives there, is over in time. -/
theorem over_after {m : Motion} (hm : s.moving = true) (hsteps : s.stepsDone = 0) {n : ℕ}
    (hwithin : (n : Int) + 1 ≤ max 1 (bound s)) (hgoing : ∀ k ≤ n, Going limits s k (ticked limits s k))
    (hover : Over (ticked limits s n) (limits n)) (harrives : m.Arrives (ticked limits s (n + 1)).state) :
    OverAfter limits m s (n + 1) := by
  have hstates : ∀ k < n + 1, (ticked limits s k).state = s.state := fun k hk => (hgoing k (by omega)).state
  have hrun := ticked_steps hm hsteps hstates
  have hlast := hgoing n le_rfl
  refine ⟨hm, Nat.succ_pos n, ?_, hstates, fun k hk => (hrun k hk).2.2.2.2, fun k hk => (hrun k hk).1, harrives, ?_, ?_⟩
  · have hbound := bound_le_targetSteps s
    push_cast
    omega
  · intro hs hclosed
    have hdeb := tick_homed (hlast.state.trans hs) hclosed
    have hread : switch (ticked limits s n) (limits n) = (limits n).atClosed := by
      rw [switch, hlast.state, hs]
      rfl
    have hreads : (fun i => switch s (limits i)) = fun i => (limits i).atClosed := by
      funext i
      rw [switch, hs]
      rfl
    rw [hlast.counter, hreads, hread] at hdeb
    obtain ⟨k, rfl, hk⟩ := (streak_ge_three (fun i => (limits i).atClosed) n).mp hdeb
    exact ⟨k, rfl, hk⟩
  · exact ticked_idle (tick_over (hlast.moving hm) hover).idle

theorem Motion.Arrives.idle {m : Motion} (h : m.Arrives s.state) : s.moving = false := by
  unfold ShutterFSM.moving
  cases m with
  | home => rcases h with h | h <;> rw [h] <;> rfl
  | openMm mm =>
    rw [show s.state = .open from h]
    rfl
  | closeMm mm =>
    rw [show s.state = .closed from h]
    rfl

theorem OverAfter.unique {m : Motion} {n n' : ℕ} (h : OverAfter limits m s n') (hm : s.moving = true)
    (hgoing : ∀ k ≤ n, Going limits s k (ticked limits s k)) (hover : Over (ticked limits s n) (limits n)) :
    n' = n + 1 := by
  rcases Nat.lt_trichotomy n' (n + 1) with hlt | heq | hgt
  · have hmoving := (hgoing n' (by omega)).moving hm
    rw [h.arrives.idle] at hmoving
    cases hmoving
  · exact heq
  · have hidle : (ticked limits s (n + 1)).moving = false := (tick_over ((hgoing n le_rfl).moving hm) hover).idle
    rw [moving, h.moves (n + 1) hgt] at hidle
    exact absurd (hm.symm.trans hidle) (by decide)

theorem Going.not_over {k : ℕ} (h : Going limits s k (ticked limits s k)) (hm : s.moving = true)
    (hnext : Going limits s (k + 1) (ticked limits s (k + 1))) : ¬ Over (ticked limits s k) (limits k) := by
  intro hover
  have hidle : (ticked limits s (k + 1)).moving = false := (tick_over (h.moving hm) hover).idle
  rw [hnext.moving hm] at hidle
  cases hidle

theorem Going.switched {n : ℕ} {s' : ShutterFSM} (h : Going limits s n s') :
    debounced (switch s' (limits n)) (Shutter.counter s') = streak (fun i => switch s (limits i)) 0 (n + 1) := by
  have hswitch : switch s' (limits n) = switch s (limits n) := by rw [switch, h.state, switch]
  rw [h.counter, hswitch, streak]

/-- A move that has just begun ends where it should unless it comes to the limit first. -/
theorem move_over_iff (limits : ℕ → Limits) {m : Motion} (hs : s.state = .opening ∨ s.state = .closing)
    (hsteps : s.stepsDone = 0) (hcounter : counter s = 0) (hgoal : ∀ state, m.Arrives state ↔ state = goal s) :
    (∃ n, OverAfter limits m s n) ↔ s.targetSteps ≤ max 1 s.maxSteps ∨
      ∃ k : ℕ, (k : Int) + 3 ≤ max 1 s.maxSteps ∧
        switch s (limits k) = true ∧ switch s (limits (k + 1)) = true ∧ switch s (limits (k + 2)) = true := by
  have hm : s.moving = true := by
    unfold moving
    rcases hs with hs | hs <;> rw [hs] <;> rfl
  have hbound : bound s = min s.targetSteps s.maxSteps := by
    unfold bound
    rcases hs with hs | hs <;> rw [hs] <;> rfl
  obtain ⟨n, hwithin, hgoing, hover⟩ := over_at limits hm hsteps hcounter
  have hlast := hgoing n le_rfl
  obtain ⟨hdone, htarget, -, -, -⟩ := ticked_steps hm hsteps (fun k hk => (hgoing k (by omega)).state) n le_rfl
  -- the motion is over after the tick `n`, and nowhere else
  have hends : (∃ n, OverAfter limits m s n) ↔ (ticked limits s (n + 1)).state = goal s := by
    constructor
    · rintro ⟨n', h⟩
      obtain rfl := h.unique hm hgoing hover
      exact (hgoal _).mp h.arrives
    · exact fun harrived => ⟨n + 1, over_after hm hsteps hwithin hgoing hover ((hgoal _).mpr harrived)⟩
  have hgoals : goal (ticked limits s n) = goal s := by rw [goal, hlast.state, goal]
  have harrives := tick_arrives_iff (hlast.state.symm ▸ hs) hover
  rw [hgoals, hlast.switched, hdone, htarget, debounceReads, streak_ge_three] at harrives
  refine (hends.trans harrives).trans ?_
  clear hends harrives
  rw [hbound] at hwithin
  constructor
  · rintro (⟨k, rfl, hreads⟩ | hreached)
    · refine Or.inr ⟨k, ?_, hreads⟩
      push_cast at hwithin
      omega
    · exact Or.inl (by omega)
  · intro h
    by_contra hnot
    obtain ⟨hnever, hshort⟩ := not_or.mp hnot
    have hlimit : s.maxSteps ≤ n + 1 := by
      rcases hover with hdeb | hfar
      · rw [hlast.switched] at hdeb
        exact absurd ((streak_ge_three _ n).mp hdeb) hnever
      · rw [hlast.bound, hdone, hbound] at hfar
        omega
    rcases h with hfit | ⟨k, hk, hreads⟩
    · omega
    · rcases Nat.lt_or_ge (k + 2) n with hlt | hge
      · -- the switch would have ended the move before
        refine (hgoing (k + 2) (by omega)).not_over hm (hgoing (k + 3) (by omega)) (Or.inl ?_)
        rw [(hgoing (k + 2) (by omega)).switched]
        exact (streak_ge_three _ (k + 2)).mpr ⟨k, rfl, hreads⟩
      · exact hnever ⟨k, by omega, hreads⟩

theorem home_over (s : ShutterFSM) (limits : ℕ → Limits) : ∃ n, OverAfter limits .home s.cmdHome n := by
  obtain ⟨n, hwithin, hgoing, hover⟩ := over_at (s := s.cmdHome) limits rfl rfl rfl
  have hlast := hgoing n le_rfl
  have hgoal : goal (ticked limits s.cmdHome n) = .closed := by
    rw [goal, hlast.state]
    rfl
  have hstate := (tick_over (hlast.moving rfl) hover).state
  rw [hgoal] at hstate
  exact ⟨n + 1, over_after rfl rfl hwithin hgoing hover hstate⟩

theorem openMm_over_iff (s : ShutterFSM) {mm : Int} (hmm : mm ≤ s.maxMm) (limits : ℕ → Limits) :
    (∃ n, OverAfter limits (.openMm mm) (s.cmdOpenMm mm) n) ↔ Unhindered s mm fun i => (limits i).atOpen := by
  rw [cmdOpenMm, if_neg (not_lt.mpr hmm)]
  exact move_over_iff limits (Or.inl rfl) rfl rfl fun _ => Iff.rfl

theorem closeMm_over_iff (s : ShutterFSM) {mm : Int} (hmm : mm ≤ s.maxMm) (limits : ℕ → Limits) :
    (∃ n, OverAfter limits (.closeMm mm) (s.cmdCloseMm mm) n) ↔ Unhindered s mm fun i => (limits i).atClosed := by
  rw [cmdCloseMm, if_neg (not_lt.mpr hmm)]
  exact move_over_iff limits (Or.inr rfl) rfl rfl fun _ => Iff.rfl

/-- Nothing hinders a move whose product, and that of the limit, are `int`s. -/
theorem unhindered_of_fits {mm : Int} (hspm : 0 ≤ s.stepper.stepsPerMm) (hmm : mm ≤ s.maxMm)
    (hmove : -2147483648 ≤ mm * s.stepper.stepsPerMm) (hlimit : s.travelLimit ≤ 2147483647) (reads : ℕ → Bool) :
    Unhindered s mm reads := by
  have hle : mm * s.stepper.stepsPerMm ≤ s.travelLimit := mul_le_mul_of_nonneg_right hmm hspm
  have hmoved : product mm s.stepper.stepsPerMm = mm * s.stepper.stepsPerMm := (Casts.int32_kept_iff _).mpr ⟨hmove, by omega⟩
  have hlimited : s.maxSteps = s.travelLimit := (Casts.int32_kept_iff _).mpr ⟨by unfold travelLimit at *; omega, hlimit⟩
  refine Or.inl ?_
  rw [hmoved, hlimited]
  omega

/-- Every motion that is not refused ends within its target, one step a tick, where it should, unless it is a move whose
product is past that of the limit and the switch does not end it before. -/
theorem motion_ends_iff (s : ShutterFSM) (m : Motion) (haccepted : m.Accepted s) (limits : ℕ → Limits) :
    (∃ n, OverAfter limits m (s.apply m.cmd) n) ↔ m.Unhindered s limits := by
  cases m with
  | home => exact iff_of_true (home_over s limits) trivial
  | openMm mm => exact openMm_over_iff s haccepted limits
  | closeMm mm => exact closeMm_over_iff s haccepted limits

/-- A switch that bounces before it settles. -/
def bouncing : ℕ → Limits := fun i => { atOpen := false, atClosed := decide (i = 1 ∨ 3 ≤ i) }

theorem motion_ends_iff_bouncing : ∃ n, OverAfter bouncing (.closeMm 10) ((built 40 10).apply (Motion.closeMm 10).cmd) n :=
  (motion_ends_iff (built 40 10) (.closeMm 10) (show (10 : Int) ≤ 10 by decide) bouncing).mpr (Or.inl (by decide))

/-- An opening move whose product wraps comes to the limit, and ends in a fault. -/
theorem move_overflows : ¬ ∀ (s : ShutterFSM), 0 ≤ s.stepper.stepsPerMm → ∀ m : Motion, m.Accepted s →
    ∀ limits, ∃ n, OverAfter limits m (s.apply m.cmd) n := by
  intro hclaim
  have hends := hclaim (built 40 80) (by decide) (.openMm (-80000000)) (show (-80000000 : Int) ≤ 80 by decide) fun _ => ⟨false, false⟩
  rcases (openMm_over_iff (built 40 80) (by decide) _).mp hends with hfit | ⟨k, -, hread, -⟩
  · exact absurd hfit (by decide)
  · cases hread

end Drawer.Shutter
