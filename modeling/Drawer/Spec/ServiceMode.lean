import Drawer.Lib.Lines
import Drawer.Spec.Faults

/-! Service mode on an appliance whose safety lines are polled. The poll thread, the technician's calls
and whoever else raises faults take turns; only the poll thread and the clearing of jams clear any. Faults
and what is done in service mode are logged in one file, a line at a time. -/

namespace Drawer
open Text

/-! ### The log -/

/-- The members of a line of the log, in the order of `std::map`. -/
abbrev LogEntry := List (Bytes × Bytes)

/-- What `Logger::append` writes. -/
def LogEntry.line (kv : LogEntry) : Bytes :=
  ascii "\x7b" ++ commas (kv.map fun p => ascii "\"" ++ p.1 ++ ascii "\":\"" ++ p.2 ++ ascii "\"") ++ ascii "\x7d\n"

/-- How a call of `append` comes out: the file opens and takes the line, or it does not open, or it takes only so many bytes
(`append` does not look). Nothing is made of its answer. -/
inductive Append where
  | whole
  | refused
  | cut (n : ℕ)
  deriving DecidableEq

/-- `fault_code_str`. -/
def FaultCode.str : FaultCode → Bytes
  | .estop => ascii "ESTOP"
  | .lidTamper => ascii "LID_TAMPER"
  | .overcurrent => ascii "OVERCURRENT"
  | .jamShutter => ascii "JAM_SHUTTER"
  | .jamHopper => ascii "JAM_HOPPER"
  | .limitTimeout => ascii "LIMIT_TIMEOUT"
  | .sensorFail => ascii "SENSOR_FAIL"
  | .configError => ascii "CONFIG_ERROR"
  | .none => ascii "NONE"

/-- What is logged as a fault is raised. -/
def FaultCode.entry (code : FaultCode) (reason : Bytes) (nowNs : ℕ) : LogEntry :=
  [(ascii "code", code.str), (ascii "reason", reason), (ascii "ts", decimal nowNs)]

/-! ### The poll thread -/

/-- The inputs that stop all motion. -/
inductive SafetyLine where
  | estop
  | lid
  | overcurrent
  deriving DecidableEq

def SafetyLine.code : SafetyLine → FaultCode
  | .estop => .estop
  | .lid => .lidTamper
  | .overcurrent => .overcurrent

def SafetyLine.reason : SafetyLine → Bytes
  | .estop => ascii "estop"
  | .lid => ascii "lid"
  | .overcurrent => ascii "overcurrent"

/-- `cfg::Safety`: a line whose pin is negative is not there. -/
structure SafetyConfig where
  pin : SafetyLine → Int32 := fun _ => -1
  activeHigh : Bool := true

/-- `read_line`, for the level of the line. -/
def SafetyConfig.readLine (cfg : SafetyConfig) (line : SafetyLine) (level : Bool) : Bool :=
  if cfg.pin line < 0 then false else if cfg.activeHigh then level else !level

namespace FaultManager

def safetyBlocking (fm : FaultManager) : Bool :=
  (fm.faults.lookup .estop).isSome || (fm.faults.lookup .lidTamper).isSome || (fm.faults.lookup .overcurrent).isSome

/-- What a round does about a line: a fault is raised as the line becomes active, and cleared as it ceases to be. -/
def settle (fm : FaultManager) (line : SafetyLine) (prev active : Bool) (nowNs : ℕ) : FaultManager :=
  if active && !prev then fm.raise line.code line.reason true nowNs
  else if !active && prev then fm.clear line.code
  else fm

end FaultManager

/-- What the thread holds: the lines as they were, and those it has read in this round and not yet dealt with. -/
structure PollThread where
  prev : SafetyLine → Bool := fun _ => false
  todo : List (SafetyLine × Bool) := []

/-! ### Service mode -/

structure ServiceConfig where
  enable : Bool := true
  pinCode : Bytes := ascii "1234"

inductive ServiceCommand where
  | openShutter (mm : Int32)
  | closeShutter (mm : Int32)
  | dispense (coins : Int32)
  | jamClearShutter
  | jamClearHopper
  deriving DecidableEq

/-- Whether the command moves anything. The clearing of the shutter does not. -/
def ServiceCommand.moves : ServiceCommand → Bool
  | .jamClearShutter => false
  | _ => true

/-- The fault that the command clears when it has moved what it moves. -/
def ServiceCommand.clears : ServiceCommand → Option FaultCode
  | .jamClearShutter => some .jamShutter
  | .jamClearHopper => some .jamHopper
  | _ => none

def flagText (ok : Bool) : Bytes := ascii (if ok then "true" else "false")

/-- What is logged of a session. -/
def sessionEntry (action user : Bytes) (ts : ℕ) : LogEntry :=
  [(ascii "action", action), (ascii "ok", ascii "true"), (ascii "ts", decimal ts), (ascii "user", user)]

def ServiceCommand.action : ServiceCommand → Bytes
  | .openShutter _ => ascii "open"
  | .closeShutter _ => ascii "close"
  | .dispense _ => ascii "dispense"
  | .jamClearShutter => ascii "jam_clear_shutter"
  | .jamClearHopper => ascii "jam_clear_hopper"

/-- What is logged of how far or how much. -/
def ServiceCommand.amount : ServiceCommand → LogEntry
  | .openShutter mm => [(ascii "mm", decimal mm.toInt)]
  | .closeShutter mm => [(ascii "mm", decimal mm.toInt)]
  | .dispense coins => [(ascii "coins", decimal coins.toInt)]
  | _ => []

/-- What is logged of a command. -/
def ServiceCommand.entry (c : ServiceCommand) (ok : Bool) (user : Bytes) (ts : ℕ) : LogEntry :=
  (ascii "action", c.action) :: c.amount ++ [(ascii "ok", flagText ok), (ascii "ts", decimal ts), (ascii "user", user)]

/-- Where a command stands. -/
inductive ServicePc where
  | idle
  | guarded (c : ServiceCommand)
  | moved (c : ServiceCommand) (ok : Bool)
  | cleared (c : ServiceCommand)

structure Site where
  faults : FaultManager := {}
  poll : PollThread := {}
  active : Bool := false
  user : Bytes := []
  pc : ServicePc := .idle
  /-- The entries that the log file has taken. -/
  log : List LogEntry := []
  file : Bytes := []

/-- `Logger::append`. -/
def Site.append (s : Site) (kv : LogEntry) : Append → Site
  | .whole => { s with log := s.log ++ [kv], file := s.file ++ kv.line }
  | .refused => s
  | .cut n => { s with file := s.file ++ kv.line.take n }

section
variable (s : Site) (kv : LogEntry) (w : Append)

@[simp] theorem Site.append_faults : (s.append kv w).faults = s.faults := by cases w <;> rfl
@[simp] theorem Site.append_poll : (s.append kv w).poll = s.poll := by cases w <;> rfl
@[simp] theorem Site.append_active : (s.append kv w).active = s.active := by cases w <;> rfl
@[simp] theorem Site.append_user : (s.append kv w).user = s.user := by cases w <;> rfl
@[simp] theorem Site.append_pc : (s.append kv w).pc = s.pc := by cases w <;> rfl

end

def Site.guard (s : Site) : Bool := if !s.active then false else if s.faults.safetyBlocking then false else true

/-- What happens, with how the line it logs, if it logs one, comes out. -/
inductive SiteEvent where
  /-- The poll thread reads the levels of the lines. -/
  | read (level : SafetyLine → Bool)
  | settle (line : SafetyLine) (active : Bool) (nowNs : ℕ) (w : Append)
  /-- Someone else raises a fault. -/
  | raise (code : FaultCode) (reason : Bytes) (latch : Bool) (nowNs : ℕ) (w : Append)
  | enter (pin user : Bytes) (ts : ℕ) (w : Append)
  | exit (ts : ℕ) (w : Append)
  /-- A command comes to its guard. -/
  | call (c : ServiceCommand) (passed : Bool)
  | move (c : ServiceCommand) (ok : Bool)
  | clear (c : ServiceCommand) (code : FaultCode)
  /-- The command is logged, and is over. -/
  | logged (c : ServiceCommand) (ok : Bool) (ts : ℕ) (w : Append)

variable (safety : SafetyConfig) (service : ServiceConfig)

def Site.Step (s : Site) : SiteEvent → Site → Prop
  | .read level, s' => s.poll.todo = [] ∧
      { s with poll := { s.poll with todo := [.estop, .lid, .overcurrent].map fun l => (l, safety.readLine l (level l)) } } = s'
  | .settle line active nowNs w, s' => ∃ rest, s.poll.todo = (line, active) :: rest ∧
      { (if active && !s.poll.prev line then s.append (line.code.entry line.reason nowNs) w else s) with
        faults := s.faults.settle line (s.poll.prev line) active nowNs
        poll := { prev := Function.update s.poll.prev line active, todo := rest } } = s'
  | .raise code reason latch nowNs w, s' =>
      { s.append (code.entry reason nowNs) w with faults := s.faults.raise code reason latch nowNs } = s'
  | .enter pin user ts w, s' => s.pc = .idle ∧
      (if service.enable && pin = service.pinCode then
        { s.append (sessionEntry (ascii "enter") user ts) w with active := true, user } else s) = s'
  | .exit ts w, s' => s.pc = .idle ∧
      { (if s.active then s.append (sessionEntry (ascii "exit") s.user ts) w else s) with active := false, user := [] } = s'
  | .call c passed, s' => s.pc = .idle ∧ s.guard = passed ∧ (if passed then { s with pc := .guarded c } else s) = s'
  | .move c ok, s' => s.pc = .guarded c ∧ c.moves = true ∧ { s with pc := .moved c ok } = s'
  | .clear c code, s' => c.clears = some code ∧ (s.pc = .guarded c ∧ c.moves = false ∨ ∃ ok, s.pc = .moved c ok) ∧
      { s with faults := s.faults.clear code, pc := .cleared c } = s'
  | .logged c ok ts w, s' => (s.pc = .moved c ok ∧ c.clears = none ∨ s.pc = .cleared c ∧ ok = true) ∧
      { s.append (c.entry ok s.user ts) w with pc := .idle } = s'

/-- How the line that is logged comes out. -/
def SiteEvent.write : SiteEvent → Append
  | .settle _ _ _ w => w
  | .raise _ _ _ _ w => w
  | .enter _ _ _ w => w
  | .exit _ w => w
  | .logged _ _ _ w => w
  | _ => .whole

end Drawer
