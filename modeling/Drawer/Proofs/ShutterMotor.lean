import Drawer.Lib.Transition
import Drawer.Sanity.Shutter

/-! The shutter's motor. Every motion enables the driver and every way a tick ends
a motion disables it; a refused command changes the state alone, and the adapter
gives up on a motion without stopping it. -/

namespace Drawer.Shutter
open ShutterFSM ShutterAdapter Transition

variable {s : ShutterFSM}

/-! ### What the adapter waits for -/

def streak (reads : ℕ → Bool) (c : ℕ) : ℕ → ℕ
  | 0 => c
  | n + 1 => debounced (reads n) (streak reads c n)

theorem streak_tail (reads : ℕ → Bool) (c n : ℕ) :
    streak (fun i => reads (i + 1)) (debounced (reads 0) c) n = streak reads c (n + 1) := by
  induction n with
  | zero => rfl
  | succ n ih => rw [streak, ih, ← streak]

/-- Three in a row. -/
theorem streak_ge_three (reads : ℕ → Bool) (n : ℕ) :
    3 ≤ streak reads 0 (n + 1) ↔ ∃ k, n = k + 2 ∧ reads k = true ∧ reads (k + 1) = true ∧ reads (k + 2) = true := by
  match n with
  | 0 => simp [streak, debounced]; split_ifs <;> omega
  | 1 =>
    simp only [streak, debounced]
    split_ifs <;> simp
  | n + 2 =>
    simp only [streak, debounced]
    constructor
    · intro h
      refine ⟨n, rfl, ?_⟩
      split_ifs at h <;> simp_all
    · rintro ⟨k, hk, h1, h2, h3⟩
      obtain rfl : n = k := by omega
      simp [h1, h2, h3]

theorem waitFor_enabled (limits : ℕ → Limits) (n : ℕ) (hm : s.moving = true) (hen : s.stepper.enabled = true) :
    (waitFor (goal s) limits n s).1.stepper.enabled = true ↔
      ∀ i < n, streak (fun i => switch s (limits i)) (counter s) (i + 1) < debounceReads ∧ s.stepsDone + (i + 1) < bound s := by
  induction n generalizing s limits with
  | zero => simp [waitFor, hen]
  | succ n ih =>
    by_cases hover : Over s (limits 0)
    · -- the first tick ends the motion, and the loop with it
      have hstop := tick_over hm hover
      have hfirst : (waitFor (goal s) limits (n + 1) s).1 = s.tick (limits 0) := by
        rw [waitFor]
        rcases hstop.state with hgoal | hfault
        · rw [if_pos hgoal]
        · split_ifs <;> rfl
      rw [hfirst, hstop.enabled]
      refine iff_of_false (by simp) fun hall => ?_
      have h0 := hall 0 (Nat.succ_pos n)
      simp only [streak, CharP.cast_eq_zero, zero_add] at h0
      rcases hover with h | h <;> omega
    · have hon := tick_goesOn hm hover
      have hswitch : switch (s.tick (limits 0)) = switch s := by
        funext l
        rw [switch, hon.state, switch]
      have hgoal : goal (s.tick (limits 0)) = goal s := by rw [goal, hon.state, goal]
      have hm' : (s.tick (limits 0)).moving = true := by rw [moving, hon.state]; exact hm
      have hnot : (s.tick (limits 0)).state ≠ goal s ∧ (s.tick (limits 0)).state ≠ .fault := by
        rw [hon.state]
        simp only [moving, Bool.or_eq_true, decide_eq_true_eq] at hm
        rcases hm with (hs | hs) | hs <;> simp [goal, hs]
      rw [waitFor, if_neg hnot.1, if_neg hnot.2, ← hgoal, ih _ hm' (hon.enabled.trans hen), hswitch, hon.counter, hon.bound,
        hon.stepsDone]
      obtain ⟨hdeb, hsteps⟩ := not_or.mp hover
      constructor
      · intro hall i hi
        cases i with
        | zero => exact ⟨not_le.mp hdeb, by simpa using not_le.mp hsteps⟩
        | succ i =>
          obtain ⟨h1, h2⟩ := hall i (by omega)
          rw [streak_tail (fun i => switch s (limits i))] at h1
          exact ⟨h1, by push_cast; omega⟩
      · intro hall i hi
        obtain ⟨h1, h2⟩ := hall (i + 1) (by omega)
        rw [streak_tail (fun i => switch s (limits i))]
        exact ⟨h1, by push_cast at h2; omega⟩

/-- A motion that starts now is stopped by the adapter's ticks just if it ends within them. -/
theorem waitFor_stopped (limits : ℕ → Limits) (hm : s.moving = true) (hen : s.stepper.enabled = true)
    (hsteps : s.stepsDone = 0) (hcounter : counter s = 0) :
    (waitFor (goal s) limits attempts s).1.stepper.enabled = false ↔ Ends (fun i => switch s (limits i)) (bound s) := by
  rw [← Bool.not_eq_true, waitFor_enabled limits attempts hm hen, hcounter, hsteps]
  simp only [debounceReads, zero_add, Ends]
  constructor
  · intro h
    push Not at h
    obtain ⟨i, hi, hend⟩ := h
    by_cases hstreak : streak (fun i => switch s (limits i)) 0 (i + 1) < 3
    · have := hend hstreak
      exact Or.inl (by omega)
    · obtain ⟨k, rfl, hk⟩ := (streak_ge_three _ i).mp (not_lt.mp hstreak)
      exact Or.inr ⟨k, hi, hk⟩
  · rintro (hshort | ⟨k, hk, hreads⟩) hall
    · have hlast := (hall (attempts - 1) (by decide)).2
      have : ((attempts - 1 : ℕ) : Int) + 1 = attempts := rfl
      omega
    · exact absurd (hall (k + 2) hk).1 (not_lt.mpr ((streak_ge_three _ _).mpr ⟨k, rfl, hreads⟩))

/-! ### The driver follows the state -/

/-- The driver is enabled just while the shutter moves. -/
def Follows (s : ShutterFSM) : Prop := s.stepper.enabled = s.moving

theorem Follows.tick (h : Follows s) (l : Limits) : Follows (s.tick l) := by
  cases hm : s.moving with
  | false => rwa [tick_idle hm]
  | true =>
    by_cases hover : Over s l
    · have hstop := tick_over hm hover
      rw [Follows, hstop.enabled]
      rcases hstop.state with hgoal | hfault
      · unfold moving
        rw [hgoal, goal]
        split_ifs <;> rfl
      · unfold moving
        rw [hfault]
        rfl
    · have hon := tick_goesOn hm hover
      rw [Follows, hon.enabled, h, moving, moving, hon.state]

theorem Follows.waitFor (target : ShutterState) (limits : ℕ → Limits) (n : ℕ) (h : Follows s) :
    Follows (waitFor target limits n s).1 := by
  induction n generalizing s limits with
  | zero => exact h
  | succ n ih =>
    rw [ShutterAdapter.waitFor]
    split_ifs
    · exact h.tick _
    · exact h.tick _
    · exact ih _ (h.tick _)

theorem cmdHome_follows (s : ShutterFSM) : Follows s.cmdHome := rfl

theorem cmdOpenMm_follows (h : Follows s) (mm : Int) : Follows (s.cmdOpenMm mm) ↔ Clear s mm := by
  unfold cmdOpenMm Clear
  split_ifs with hmm
  · rw [or_iff_right (not_le.mpr hmm), ← h]
    exact Iff.rfl
  · exact iff_of_true rfl (Or.inl (not_lt.mp hmm))

theorem cmdCloseMm_follows (h : Follows s) (mm : Int) : Follows (s.cmdCloseMm mm) ↔ Clear s mm := by
  unfold cmdCloseMm Clear
  split_ifs with hmm
  · rw [or_iff_right (not_le.mpr hmm), ← h]
    exact Iff.rfl
  · exact iff_of_true rfl (Or.inl (not_lt.mp hmm))

theorem waitFor_fault (target : ShutterState) (limits : ℕ → Limits) (n : ℕ) (hs : s.state = .fault) :
    (waitFor target limits (n + 1) s).1 = s := by
  have hidle : s.tick (limits 0) = s := tick_idle (by rw [moving, hs]; rfl) _
  rw [waitFor, hidle]
  split_ifs
  · rfl
  · rfl

/-- What the adapter's move by `mm` leaves of the driver: `s'` is the state after the command. -/
theorem move_stopped (s' : ShutterFSM) (target : ShutterState) (limits : ℕ → Limits) (mm : Int) (h : Follows s)
    (hrefused : mm > s.maxMm → s' = s.setState .fault)
    (hbegun : mm ≤ s.maxMm → s'.moving = true ∧ s'.stepper.enabled = true ∧ s'.stepsDone = 0 ∧ counter s' = 0 ∧
      goal s' = target ∧ bound s' = min (product mm s.stepper.stepsPerMm) s.maxSteps) :
    (waitFor target limits attempts s').1.stepper.enabled = false ↔
      Clear s mm ∧ InTime s mm fun i => switch s' (limits i) := by
  unfold Clear InTime
  by_cases hmm : mm ≤ s.maxMm
  · obtain ⟨hm, hen, hsteps, hcounter, rfl, hbound⟩ := hbegun hmm
    rw [waitFor_stopped limits hm hen hsteps hcounter, hbound]
    exact ⟨fun hends => ⟨Or.inl hmm, fun _ => hends⟩, fun hboth => hboth.2 hmm⟩
  · have hs' := hrefused (not_le.mp hmm)
    rw [attempts, waitFor_fault target limits 9999 (by rw [hs']; rfl), hs']
    change s.stepper.enabled = false ↔ _
    rw [h]
    exact ⟨fun hidle => ⟨Or.inr hidle, fun hle => absurd hle hmm⟩, fun hboth => hboth.1.resolve_left hmm⟩

theorem driven_motion {m : Motion} {limits : ℕ → Limits} {s' : ShutterFSM} :
    Driven (.motion m limits) s' ↔ Follows s' ∧ s'.stepper.enabled = false :=
  ⟨fun h => ⟨h.enabled, h.returned m limits rfl⟩, fun h => ⟨h.1, fun _ _ _ => h.2⟩⟩

theorem driven_cmd {c : Cmd} {s' : ShutterFSM} : Driven (.cmd c) s' ↔ Follows s' :=
  ⟨fun h => h.enabled, fun h => ⟨h, fun _ _ he => nomatch he⟩⟩

/-- A motion whose call leaves the driver disabled leaves it as the state says. -/
theorem follows_move (limits : ℕ → Limits) (m : Motion) (h : Follows s) (hstop : (s.move limits m).1.stepper.enabled = false) :
    Follows (s.move limits m).1 := by
  cases m with
  | home => exact (cmdHome_follows s).waitFor _ _ _
  | openMm mm =>
    by_cases hmm : mm ≤ s.maxMm
    · exact ((cmdOpenMm_follows h mm).mpr (Or.inl hmm)).waitFor _ _ _
    · have hs : s.cmdOpenMm mm = s.setState .fault := if_pos (not_le.mp hmm)
      have hmove : (s.move limits (.openMm mm)).1 = s.setState .fault := by
        rw [move, openMm, hs]
        exact waitFor_fault _ _ _ rfl
      rw [hmove] at hstop ⊢
      exact hstop
  | closeMm mm =>
    by_cases hmm : mm ≤ s.maxMm
    · exact ((cmdCloseMm_follows h mm).mpr (Or.inl hmm)).waitFor _ _ _
    · have hs : s.cmdCloseMm mm = s.setState .fault := if_pos (not_le.mp hmm)
      have hmove : (s.move limits (.closeMm mm)).1 = s.setState .fault := by
        rw [move, closeMm, hs]
        exact waitFor_fault _ _ _ rfl
      rw [hmove] at hstop ⊢
      exact hstop

theorem driven_iff (h : Follows s) (e : Event) : Driven e (s.handle e) ↔ Proper s e := by
  cases e with
  | cmd c =>
    rw [driven_cmd]
    cases c with
    | home => exact iff_of_true (cmdHome_follows s) trivial
    | openMm mm => exact cmdOpenMm_follows h mm
    | closeMm mm => exact cmdCloseMm_follows h mm
    | tick l => exact iff_of_true (h.tick l) trivial
  | motion m limits =>
    have hends : (s.move limits m).1.stepper.enabled = false ↔ Proper s (.motion m limits) := by
      cases m with
      | home => exact waitFor_stopped (s := s.cmdHome) limits rfl rfl rfl rfl
      | openMm mm =>
        have hmove := move_stopped (s.cmdOpenMm mm) .open limits mm h (fun hmm => if_pos hmm) fun hmm => by
          rw [cmdOpenMm, if_neg (not_lt.mpr hmm)]
          exact ⟨rfl, rfl, rfl, rfl, rfl, rfl⟩
        rw [move, openMm, hmove, Proper]
        refine and_congr_right fun _ => ?_
        unfold InTime
        refine forall_congr' fun hmm => ?_
        rw [cmdOpenMm, if_neg (not_lt.mpr hmm)]
        rfl
      | closeMm mm =>
        have hmove := move_stopped (s.cmdCloseMm mm) .closed limits mm h (fun hmm => if_pos hmm) fun hmm => by
          rw [cmdCloseMm, if_neg (not_lt.mpr hmm)]
          exact ⟨rfl, rfl, rfl, rfl, rfl, rfl⟩
        rw [move, closeMm, hmove, Proper]
        refine and_congr_right fun _ => ?_
        unfold InTime
        refine forall_congr' fun hmm => ?_
        rw [cmdCloseMm, if_neg (not_lt.mpr hmm)]
        rfl
    rw [driven_motion, ← hends]
    exact ⟨fun hboth => hboth.2, fun hstop => ⟨follows_move limits m h hstop, hstop⟩⟩

/-- The shutter as it is built. -/
def built (stepsPerMm maxMm : Int) : ShutterFSM := { stepper := { stepsPerMm }, maxMm }

/-- Along every run the driver is enabled exactly while the shutter moves, and disabled whenever the adapter returns, if
and only if no move is refused while the shutter moves and the adapter's motions end within its ticks. -/
theorem driven_run_iff (stepsPerMm maxMm : Int) (events : List Event) :
    (∀ before e after, events = before ++ e :: after →
      Driven e ((before.foldl handle (built stepsPerMm maxMm)).handle e)) ↔
    Meets Proper handle (built stepsPerMm maxMm) events := by
  have hruns := @meets_iff _ _ (fun s e => Driven e (s.handle e)) handle (built stepsPerMm maxMm) events
  have hstep : ∀ (s : ShutterFSM) (e : Event), Follows s → Driven e (s.handle e) → Follows (s.handle e) :=
    fun _ _ _ hdriven => hdriven.enabled
  have hinit : Follows (built stepsPerMm maxMm) := rfl
  exact hruns.symm.trans (meets_congr_of hstep (fun _ e h => driven_iff h e) hinit events)

/-- A move past the limit is refused while the shutter opens, and the motor stays on. -/
theorem motor_left_on : ¬ ∀ (stepsPerMm maxMm : Int) (events : List Event) (before : List Event) (e : Event)
    (after : List Event), events = before ++ e :: after →
      Driven e ((before.foldl handle (built stepsPerMm maxMm)).handle e) := by
  intro hclaim
  have hdriven := (hclaim 40 80 _ [.cmd (.openMm 10)] (.cmd (.openMm 200)) [] rfl).enabled
  revert hdriven
  decide

end Drawer.Shutter
