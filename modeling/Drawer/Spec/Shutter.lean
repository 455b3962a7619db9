import Mathlib.Tactic

/-! The shutter: its stepper driver, the state machine that is ticked, and the
adapter that issues a command and ticks until the motion has ended. Whatever the
limit switches read at a tick is given with the tick. Millimetres are multiplied as `int`s. -/

namespace Drawer.Shutter

inductive ShutterState where
  | init
  | homing
  | closed
  | opening
  | open
  | closing
  | fault
  deriving DecidableEq, Repr

/-- The stepper driver. `position` counts the steps in the open direction less those in the other. -/
structure Stepper where
  stepsPerMm : Int
  enabled : Bool := false
  openDir : Bool := false
  position : Int := 0
  deriving DecidableEq, Repr

def Stepper.enable (d : Stepper) (en : Bool) : Stepper := { d with enabled := en }

def Stepper.setDir (d : Stepper) (openDir : Bool) : Stepper := { d with openDir }

def Stepper.step (d : Stepper) : Stepper := { d with position := d.position + if d.openDir then 1 else -1 }

/-- What the limit switches read. -/
structure Limits where
  atOpen : Bool
  atClosed : Bool
  deriving DecidableEq, Repr

structure ShutterFSM where
  stepper : Stepper
  maxMm : Int
  state : ShutterState := .init
  targetSteps : Int := 0
  stepsDone : Int := 0
  debOpen : ℕ := 0
  debClosed : ℕ := 0
  deriving DecidableEq, Repr

def debounceReads : ℕ := 3

/-- The product of two `int`s. -/
def product (a b : Int) : Int := (Int32.ofInt (a * b)).toInt

/-- The next value of a debounce counter. -/
def debounced (level : Bool) (counter : ℕ) : ℕ := if level then counter + 1 else 0

namespace ShutterFSM

def setState (s : ShutterFSM) (target : ShutterState) : ShutterFSM := { s with state := target }

/-- The furthest a motion may go, as the code computes it. -/
def maxSteps (s : ShutterFSM) : Int := product s.maxMm s.stepper.stepsPerMm

/-- The limit of the shutter's travel. -/
def travelLimit (s : ShutterFSM) : Int := s.maxMm * s.stepper.stepsPerMm

def cmdHome (s : ShutterFSM) : ShutterFSM :=
  { s with
    stepsDone := 0, targetSteps := s.maxSteps, debClosed := 0
    stepper := (s.stepper.enable true).setDir false }.setState .homing

def cmdOpenMm (s : ShutterFSM) (mm : Int) : ShutterFSM :=
  if mm > s.maxMm then s.setState .fault
  else
    { s with
      stepsDone := 0, targetSteps := product mm s.stepper.stepsPerMm, debOpen := 0
      stepper := (s.stepper.enable true).setDir true }.setState .opening

def cmdCloseMm (s : ShutterFSM) (mm : Int) : ShutterFSM :=
  if mm > s.maxMm then s.setState .fault
  else
    { s with
      stepsDone := 0, targetSteps := product mm s.stepper.stepsPerMm, debClosed := 0
      stepper := (s.stepper.enable true).setDir false }.setState .closing

/-- The end of a motion. -/
def stop (s : ShutterFSM) (target : ShutterState) : ShutterFSM :=
  { s with stepper := s.stepper.enable false }.setState target

/-- One step of the motor, counted. -/
def advance (s : ShutterFSM) : ShutterFSM := { s with stepper := s.stepper.step, stepsDone := s.stepsDone + 1 }

def tick (s : ShutterFSM) (l : Limits) : ShutterFSM :=
  match s.state with
  | .homing =>
    let s := { s.advance with debClosed := debounced l.atClosed s.debClosed }
    if s.debClosed ≥ debounceReads then s.stop .closed
    else if s.stepsDone ≥ s.targetSteps then s.stop .fault
    else s
  | .opening =>
    let s := { s.advance with debOpen := debounced l.atOpen s.debOpen }
    if s.debOpen ≥ debounceReads then s.stop .open
    else if s.stepsDone ≥ s.targetSteps then s.stop .open
    else if s.stepsDone ≥ s.maxSteps then s.stop .fault
    else s
  | .closing =>
    let s := { s.advance with debClosed := debounced l.atClosed s.debClosed }
    if s.debClosed ≥ debounceReads then s.stop .closed
    else if s.stepsDone ≥ s.targetSteps then s.stop .closed
    else if s.stepsDone ≥ s.maxSteps then s.stop .fault
    else s
  | _ => s

end ShutterFSM

/-! ### The adapter -/

/-- How a call of the adapter ends: well, or for a reason. -/
inductive Outcome where
  | ok
  | failed (reason : String)
  deriving DecidableEq, Repr

namespace ShutterAdapter
open ShutterFSM

/-- `wait_for` with `n` attempts left; `limits i` are the readings at the `i`-th tick from here. -/
def waitFor (target : ShutterState) (limits : ℕ → Limits) : ℕ → ShutterFSM → ShutterFSM × Outcome
  | 0, s => (s, .failed "TIMEOUT")
  | n + 1, s =>
    let s := s.tick (limits 0)
    if s.state = target then (s, .ok)
    else if s.state = .fault then (s, .failed "FAULT")
    else waitFor target (fun i => limits (i + 1)) n s

def attempts : ℕ := 10000

def home (s : ShutterFSM) (limits : ℕ → Limits) : ShutterFSM × Outcome := waitFor .closed limits attempts s.cmdHome

def openMm (s : ShutterFSM) (mm : Int) (limits : ℕ → Limits) : ShutterFSM × Outcome :=
  waitFor .open limits attempts (s.cmdOpenMm mm)

def closeMm (s : ShutterFSM) (mm : Int) (limits : ℕ → Limits) : ShutterFSM × Outcome :=
  waitFor .closed limits attempts (s.cmdCloseMm mm)

end ShutterAdapter

/-! ### Runs -/

/-- What the state machine is asked to do. -/
inductive Cmd where
  | home
  | openMm (mm : Int)
  | closeMm (mm : Int)
  | tick (l : Limits)

def ShutterFSM.apply (s : ShutterFSM) : Cmd → ShutterFSM
  | .home => s.cmdHome
  | .openMm mm => s.cmdOpenMm mm
  | .closeMm mm => s.cmdCloseMm mm
  | .tick l => s.tick l

/-- A call of the adapter, with the readings of the switches during it. -/
inductive Motion where
  | home
  | openMm (mm : Int)
  | closeMm (mm : Int)

def ShutterFSM.move (s : ShutterFSM) (limits : ℕ → Limits) : Motion → ShutterFSM × Outcome
  | .home => ShutterAdapter.home s limits
  | .openMm mm => ShutterAdapter.openMm s mm limits
  | .closeMm mm => ShutterAdapter.closeMm s mm limits

/-- What happens to a shutter. -/
inductive Event where
  | cmd (c : Cmd)
  | motion (m : Motion) (limits : ℕ → Limits)

def ShutterFSM.handle (s : ShutterFSM) : Event → ShutterFSM
  | .cmd c => s.apply c
  | .motion m limits => (s.move limits m).1

/-- The state machine means the motor to run. -/
def ShutterFSM.moving (s : ShutterFSM) : Bool := s.state = .homing || s.state = .opening || s.state = .closing

/-- What is wanted after an event: the driver is enabled exactly while the shutter moves, and it is disabled when a
call of the adapter has returned. -/
structure Driven (e : Event) (s : ShutterFSM) : Prop where
  enabled : s.stepper.enabled = s.moving
  returned : ∀ m limits, e = .motion m limits → s.stepper.enabled = false

/-- A motion of `steps` steps is over within the adapter's ticks: it is short enough, or its switch is read as
asserted at three ticks in a row. -/
def Ends (reads : ℕ → Bool) (steps : Int) : Prop :=
  steps ≤ ShutterAdapter.attempts ∨
    ∃ k, k + 2 < ShutterAdapter.attempts ∧ reads k = true ∧ reads (k + 1) = true ∧ reads (k + 2) = true

/-- A move by `mm` is possible, or it is refused while nothing moves. -/
def Clear (s : ShutterFSM) (mm : Int) : Prop := mm ≤ s.maxMm ∨ s.moving = false

/-- A move by `mm` that the adapter makes is over in time. -/
def InTime (s : ShutterFSM) (mm : Int) (reads : ℕ → Bool) : Prop :=
  mm ≤ s.maxMm → Ends reads (min (product mm s.stepper.stepsPerMm) s.maxSteps)

/-- No move is refused while the shutter moves, and every motion of the adapter is over within its ticks. -/
def Proper (s : ShutterFSM) : Event → Prop
  | .cmd (.openMm mm) | .cmd (.closeMm mm) => Clear s mm
  | .cmd _ => True
  | .motion .home limits => Ends (fun i => (limits i).atClosed) s.maxSteps
  | .motion (.openMm mm) limits => Clear s mm ∧ InTime s mm fun i => (limits i).atOpen
  | .motion (.closeMm mm) limits => Clear s mm ∧ InTime s mm fun i => (limits i).atClosed

/-- The open-limit switch is not asserted. -/
def Unasserted : Cmd → Prop
  | .tick l => l.atOpen = false
  | _ => True

/-- An opening move ends, with its switch silent, before the shutter is past its limit. -/
def Room (s : ShutterFSM) : Cmd → Prop
  | .openMm mm =>
    mm ≤ s.maxMm → s.stepper.position + max 1 (min (product mm s.stepper.stepsPerMm) s.maxSteps) ≤ s.travelLimit
  | _ => True

instance (s : ShutterFSM) : (c : Cmd) → Decidable (Room s c)
  | .openMm _ => inferInstanceAs (Decidable (_ → _))
  | .home | .closeMm _ | .tick _ => isTrue trivial

/-- The shutter stays within its limit along `cmds`, and after any part of them however long it is only ticked. -/
def Confined (s : ShutterFSM) (cmds : List Cmd) : Prop :=
  ∀ before after, cmds = before ++ after → ∀ ticks : List Limits, (∀ l ∈ ticks, l.atOpen = false) →
    (ticks.foldl ShutterFSM.tick (before.foldl ShutterFSM.apply s)).stepper.position ≤ s.travelLimit

/-! ### How a motion ends -/

/-- The command that begins a motion. -/
def Motion.cmd : Motion → Cmd
  | .home => .home
  | .openMm mm => .openMm mm
  | .closeMm mm => .closeMm mm

/-- The command is not refused. -/
def Motion.Accepted (s : ShutterFSM) : Motion → Prop
  | .home => True
  | .openMm mm | .closeMm mm => mm ≤ s.maxMm

/-- Where a motion may end. -/
def Motion.Arrives : Motion → ShutterState → Prop
  | .home, state => state = .closed ∨ state = .fault
  | .openMm _, state => state = .open
  | .closeMm _, state => state = .closed

/-- The state machine after its first `n` ticks. -/
def ticked (limits : ℕ → Limits) (s : ShutterFSM) : ℕ → ShutterFSM
  | 0 => s
  | n + 1 => (ticked limits s n).tick (limits n)

/-- The motion `m`, begun in `s`, is over after exactly `n` ticks. -/
structure OverAfter (limits : ℕ → Limits) (m : Motion) (s : ShutterFSM) (n : ℕ) : Prop where
  begun : s.moving = true
  some : 1 ≤ n
  within : (n : Int) ≤ max 1 s.targetSteps
  moves : ∀ k < n, (ticked limits s k).state = s.state
  steps : ∀ k ≤ n, (ticked limits s k).stepper.position = s.stepper.position + k * if s.stepper.openDir then 1 else -1
  counted : ∀ k ≤ n, (ticked limits s k).stepsDone = k
  arrives : m.Arrives (ticked limits s n).state
  homed : s.state = .homing → (ticked limits s n).state = .closed →
    ∃ k, n = k + 3 ∧ (limits k).atClosed = true ∧ (limits (k + 1)).atClosed = true ∧ (limits (k + 2)).atClosed = true
  stays : ∀ k, ticked limits s (n + k) = ticked limits s n

/-- A move by `mm` meets its target no later than the limit, or its switch ends it by then. -/
def Unhindered (s : ShutterFSM) (mm : Int) (reads : ℕ → Bool) : Prop :=
  product mm s.stepper.stepsPerMm ≤ max 1 s.maxSteps ∨
    ∃ k : ℕ, (k : Int) + 3 ≤ max 1 s.maxSteps ∧ reads k = true ∧ reads (k + 1) = true ∧ reads (k + 2) = true

def Motion.Unhindered (s : ShutterFSM) (limits : ℕ → Limits) : Motion → Prop
  | .home => True
  | .openMm mm => Shutter.Unhindered s mm fun i => (limits i).atOpen
  | .closeMm mm => Shutter.Unhindered s mm fun i => (limits i).atClosed

end Drawer.Shutter
