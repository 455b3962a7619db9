import Drawer.Lib.Transition
import Drawer.Sanity.Shutter

/-! The shutter's travel. Each opening move is kept to the limit by itself, from
wherever it begins: the shutter keeps to its limit if every opening move has room
for all of its steps. -/

namespace Drawer.Shutter
open ShutterFSM Transition

variable {s : ShutterFSM} {limit : Int}

/-- How many steps an opening motion takes if its switch stays silent. -/
def travel (s : ShutterFSM) : Int := max 1 (bound s)

structure Inside (limit : Int) (s : ShutterFSM) : Prop where
  far : s.travelLimit = limit
  below : s.stepper.position ≤ limit
  /-- What is left of an opening motion stays within the limit. -/
  opening : s.state = .opening → s.stepper.openDir = true ∧ s.stepsDone < travel s ∧
    s.stepper.position + (travel s - s.stepsDone) ≤ limit
  others : s.state = .homing ∨ s.state = .closing → s.stepper.openDir = false

theorem inside_idle (hmax : s.travelLimit = limit) (hbelow : s.stepper.position ≤ limit) (hm : s.moving = false) :
    Inside limit s := by
  simp only [moving, Bool.or_eq_false_iff, decide_eq_false_iff_not] at hm
  exact ⟨hmax, hbelow, fun hs => absurd hs hm.1.2, fun hs => (hs.elim hm.1.1 hm.2).elim⟩

theorem Stopped.idle {s' : ShutterFSM} (h : Stopped s s') : s'.moving = false := by
  unfold moving
  rcases h.state with hgoal | hfault
  · rw [hgoal, goal]
    split_ifs <;> rfl
  · rw [hfault]
    rfl

theorem Inside.tick (h : Inside limit s) (l : Limits) : Inside limit (s.tick l) := by
  cases hm : s.moving with
  | false => rwa [tick_idle hm]
  | true =>
    obtain ⟨hposition, hdir, hscale, hmm⟩ := tick_stepper hm l
    have hmax : (s.tick l).travelLimit = s.travelLimit := by rw [travelLimit, travelLimit, hscale, hmm]
    -- a step in the open direction is one of those that were left
    have hbelow : (s.tick l).stepper.position ≤ limit := by
      rw [hposition]
      by_cases hs : s.state = .opening
      · obtain ⟨hopen, hleft, hroom⟩ := h.opening hs
        simp only [Stepper.step, hopen, if_true]
        omega
      · have hclose : s.stepper.openDir = false := by
          simp only [moving, Bool.or_eq_true, decide_eq_true_eq] at hm
          exact h.others (hm.imp_left fun hm => hm.resolve_right hs)
        have := h.below
        simp only [Stepper.step, hclose, Bool.false_eq_true, if_false]
        omega
    by_cases hover : Over s l
    · exact inside_idle (hmax.trans h.far) hbelow (tick_over hm hover).idle
    · have hon := tick_goesOn hm hover
      have htravel : travel (s.tick l) = travel s := by rw [travel, hon.bound, travel]
      refine ⟨hmax.trans h.far, hbelow, fun hs => ?_, fun hs => ?_⟩
      · rw [hon.state] at hs
        obtain ⟨hopen, -, hroom⟩ := h.opening hs
        have hsteps := (not_or.mp hover).2
        simp only [hdir, htravel, hon.stepsDone, hposition, hopen, Stepper.step, if_true]
        refine ⟨trivial, ?_, ?_⟩
        · unfold travel
          omega
        · omega
      · rw [hon.state] at hs
        rw [hdir]
        exact h.others hs

theorem Inside.apply (h : Inside limit s) {c : Cmd} (hroom : Room s c) : Inside limit (s.apply c) := by
  have hmax := h.far
  cases c with
  | home => exact ⟨h.far, h.below, fun hs => (nomatch hs), fun _ => rfl⟩
  | openMm mm =>
    rw [ShutterFSM.apply, cmdOpenMm]
    split_ifs with hmm
    · exact inside_idle h.far h.below rfl
    · have hfit := hroom (not_lt.mp hmm)
      refine ⟨h.far, h.below, fun _ => ⟨rfl, ?_, ?_⟩, fun hs => (nomatch hs)⟩
      · exact lt_of_lt_of_le zero_lt_one (le_max_left _ _)
      · rw [hmax] at hfit
        have htravel : s.stepper.position + (max 1 (min (product mm s.stepper.stepsPerMm) s.maxSteps) - 0) ≤ limit := by
          omega
        exact htravel
  | closeMm mm =>
    rw [ShutterFSM.apply, cmdCloseMm]
    split_ifs
    · exact inside_idle h.far h.below rfl
    · exact ⟨h.far, h.below, fun hs => (nomatch hs), fun _ => rfl⟩
  | tick l => exact h.tick l

/-! ### Opening moves that go too far -/

/-- The shutter opens, with its switch silent so far. -/
structure Opening (s : ShutterFSM) : Prop where
  state : s.state = .opening
  openDir : s.stepper.openDir = true
  silent : s.debOpen = 0

theorem Opening.moving (h : Opening s) : s.moving = true := by
  rw [ShutterFSM.moving, h.state]
  rfl

theorem Opening.tick (h : Opening s) {l : Limits} (hl : l.atOpen = false) (hn : s.stepsDone + 1 < bound s) :
    Opening (s.tick l) ∧ (s.tick l).stepsDone = s.stepsDone + 1 ∧ bound (s.tick l) = bound s ∧
      (s.tick l).stepper.position = s.stepper.position + 1 := by
  have hsilent : debounced (switch s l) (counter s) = 0 := by
    rw [switch, if_pos h.state, hl]
    rfl
  have hon := tick_goesOn h.moving (l := l) (not_or.mpr ⟨by rw [hsilent]; decide, not_le.mpr hn⟩)
  obtain ⟨hposition, hdir, -⟩ := tick_stepper h.moving l
  have hcounter := hon.counter
  rw [hsilent, counter, if_pos (hon.state.trans h.state)] at hcounter
  refine ⟨⟨hon.state.trans h.state, hdir.trans h.openDir, hcounter⟩, hon.stepsDone, hon.bound, ?_⟩
  rw [hposition, Stepper.step, h.openDir]
  rfl

/-- While its switch stays silent, the motion goes on to its last step. -/
theorem Opening.ticks (h : Opening s) {l : Limits} (hl : l.atOpen = false) (n : ℕ)
    (hn : ∀ k < n, s.stepsDone + k + 1 < bound s) :
    Opening ((List.replicate n l).foldl ShutterFSM.tick s) ∧
      ((List.replicate n l).foldl ShutterFSM.tick s).stepper.position = s.stepper.position + n := by
  induction n generalizing s with
  | zero => exact ⟨h, by simp⟩
  | succ n ih =>
    obtain ⟨hopen, hsteps, hbound, hposition⟩ := h.tick hl (by simpa using hn 0 (Nat.succ_pos n))
    have hrest := ih hopen fun k hk => by
      have := hn (k + 1) (by omega)
      rw [hsteps, hbound]
      push_cast at this
      omega
    rw [List.replicate_succ, List.foldl_cons]
    refine ⟨hrest.1, hrest.2.trans ?_⟩
    rw [hposition]
    push_cast
    ring

/-- After an opening move whose switch stays silent, the shutter stands further open by all of the move's steps. -/
theorem open_travels (s : ShutterFSM) {mm : Int} (hmm : mm ≤ s.maxMm) {l : Limits} (hl : l.atOpen = false) :
    ∃ n : ℕ, ((List.replicate n l).foldl ShutterFSM.tick (s.cmdOpenMm mm)).stepper.position =
      s.stepper.position + max 1 (min (product mm s.stepper.stepsPerMm) s.maxSteps) := by
  obtain ⟨n, hn⟩ := Int.eq_ofNat_of_zero_le (a := max 1 (min (product mm s.stepper.stepsPerMm) s.maxSteps) - 1) (by omega)
  have hcmd : Opening (s.cmdOpenMm mm) ∧ (s.cmdOpenMm mm).stepsDone = 0 ∧
      bound (s.cmdOpenMm mm) = min (product mm s.stepper.stepsPerMm) s.maxSteps ∧
      (s.cmdOpenMm mm).stepper.position = s.stepper.position := by
    rw [cmdOpenMm, if_neg (not_lt.mpr hmm)]
    exact ⟨⟨rfl, rfl, rfl⟩, rfl, rfl, rfl⟩
  obtain ⟨hopen, hsteps, hbound, hposition⟩ := hcmd
  -- all steps but the last leave the motion going, and the last one counts too
  obtain ⟨hgoing, hfar⟩ := hopen.ticks hl n fun k hk => by rw [hsteps, hbound]; omega
  refine ⟨n + 1, ?_⟩
  rw [List.replicate_succ', List.foldl_append, List.foldl_cons, List.foldl_nil, (tick_stepper hgoing.moving l).1,
    Stepper.step, hgoing.openDir, if_pos rfl, hfar, hposition]
  change s.stepper.position + n + 1 = _
  omega

/-! ### Runs -/

theorem Inside.ticks (h : Inside limit s) (ticks : List Limits) : Inside limit (ticks.foldl ShutterFSM.tick s) := by
  induction ticks generalizing s with
  | nil => exact h
  | cons l ticks ih => exact ih (h.tick l)

theorem apply_travelLimit (s : ShutterFSM) (c : Cmd) : (s.apply c).travelLimit = s.travelLimit := by
  cases c with
  | home => rfl
  | openMm mm => rw [ShutterFSM.apply, cmdOpenMm]; split_ifs <;> rfl
  | closeMm mm => rw [ShutterFSM.apply, cmdCloseMm]; split_ifs <;> rfl
  | tick l =>
    cases hm : s.moving with
    | false => rw [ShutterFSM.apply, tick_idle hm]
    | true =>
      obtain ⟨-, -, hscale, hmm⟩ := tick_stepper hm l
      rw [ShutterFSM.apply, travelLimit, hscale, hmm, travelLimit]

theorem foldl_travelLimit (s : ShutterFSM) (cmds : List Cmd) :
    (cmds.foldl ShutterFSM.apply s).travelLimit = s.travelLimit := by
  induction cmds generalizing s with
  | nil => rfl
  | cons c cmds ih => rw [List.foldl_cons, ih, apply_travelLimit]

/-- A closed shutter at its origin keeps to its limit along a run, and however long it is ticked with a silent switch, if
and only if the limit is not behind it and every opening move has room for its steps. -/
theorem confined_iff (s : ShutterFSM) (hclosed : s.state = .closed) (horigin : s.stepper.position = 0) (cmds : List Cmd) :
    Confined s cmds ↔ 0 ≤ s.travelLimit ∧ Meets Room ShutterFSM.apply s cmds := by
  constructor
  · intro h
    refine ⟨horigin ▸ h [] cmds rfl [] (by simp), meets_iff.mpr fun before c after hcut => ?_⟩
    cases c with
    | openMm mm =>
      intro hmm
      obtain ⟨n, hn⟩ := open_travels (before.foldl ShutterFSM.apply s) hmm (l := ⟨false, false⟩) rfl
      have hin := h (before ++ [.openMm mm]) after (by simpa using hcut) (List.replicate n ⟨false, false⟩) fun l hl => by
        rw [List.eq_of_mem_replicate hl]
      rw [List.foldl_append, List.foldl_cons, List.foldl_nil, ShutterFSM.apply, hn] at hin
      have hmax := foldl_travelLimit s before
      omega
    | home => trivial
    | closeMm mm => trivial
    | tick l => trivial
  · rintro ⟨hzero, hroom⟩ before after hcut ticks -
    have hidle : Inside s.travelLimit s := inside_idle rfl (by rw [horigin]; exact hzero) (by rw [moving, hclosed]; rfl)
    have hall : ∀ (cmds : List Cmd) (s' : ShutterFSM), Inside s.travelLimit s' → Meets Room ShutterFSM.apply s' cmds →
        Inside s.travelLimit (cmds.foldl ShutterFSM.apply s') := by
      intro cmds
      induction cmds with
      | nil => exact fun s' hs' _ => hs'
      | cons c cmds ih => exact fun s' hs' hmeets => ih _ (hs'.apply hmeets.1) hmeets.2
    rw [hcut, meets_append] at hroom
    exact ((hall before s hidle hroom.1).ticks ticks).below

/-- A closed shutter with a step of a millimetre and a limit of two. -/
def twoSteps : ShutterFSM := { stepper := { stepsPerMm := 1 }, maxMm := 2, state := .closed }

/-- The shutter opens by one step at a time, and has room for two. -/
theorem confined_twoSteps : Confined twoSteps [.openMm 1, .tick ⟨false, false⟩, .openMm 1] :=
  (confined_iff twoSteps rfl rfl _).mpr (by decide)

/-- The shutter is opened to its limit, and then once more. -/
theorem opened_twice : ¬ ∀ (s : ShutterFSM), s.state = .closed → s.stepper.position = 0 → ∀ cmds : List Cmd,
    (∀ c ∈ cmds, Unasserted c) → (cmds.foldl ShutterFSM.apply s).stepper.position ≤ s.travelLimit := by
  intro hclaim
  have hopened := hclaim twoSteps rfl rfl
    [.openMm 2, .tick ⟨false, false⟩, .tick ⟨false, false⟩, .openMm 2, .tick ⟨false, false⟩] (by simp [Unasserted])
  revert hopened
  decide

end Drawer.Shutter
