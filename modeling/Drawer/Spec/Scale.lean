import Drawer.Lib.Effect
import Drawer.Lib.Rounding
import Drawer.Spec.Dispense

/-! The scale, and the audit of what was dispensed. The driver clocks a conversion out of the converter bit by
bit; the audit weighs twice, and compares the difference with what the coins should weigh. A `long` has 64 bits.
Sleeping has no effect but on what is read afterwards. -/

namespace Drawer.Scale
open Effect Decimal

/-! ### The driver -/

/-- What the driver does with its lines. -/
inductive LineCall where
  | readDt
  | writeSck (level : Bool)
  deriving DecidableEq

abbrev Answer : LineCall → Type
  | .readDt => Bool
  | .writeSck _ => Unit

/-- A call of the driver: it ends with a value, or with the error that it throws. -/
abbrev Driving (α : Type) := Program LineCall Answer (Except String α)

variable {α : Type}

/-- The loop that waits for the data line to go low. -/
def awaitReady : ℕ → Driving α → Driving α
  | 0, k => .call .readDt fun high => if high then .ret (.error "HX711 data not ready") else k
  | left + 1, k => .call .readDt fun high => if high then awaitReady left k else k

/-- The loop over the bits, of which the first is the most significant. -/
def shiftIn : ℕ → BitVec 64 → (BitVec 64 → Driving α) → Driving α
  | 0, val, k => k val
  | n + 1, val, k =>
    .call (.writeSck true) fun _ =>
    .call .readDt fun high =>
    .call (.writeSck false) fun _ => shiftIn n (val <<< 1 ||| if high then 1 else 0) k

/-- The loop over the pulses that set the gain. -/
def pulse : ℕ → Driving α → Driving α
  | 0, k => k
  | n + 1, k =>
    .call (.writeSck true) fun _ =>
    .call (.writeSck false) fun _ => pulse n k

/-- `if (val & 0x800000) val |= ~0xFFFFFF`. -/
def signExtended (val : BitVec 64) : BitVec 64 := if val &&& 0x800000#64 ≠ 0 then val ||| ~~~0xFFFFFF#64 else val

structure HX711 where
  gain : Int := 128

def HX711.pulses (hx : HX711) : ℕ := if hx.gain = 128 then 1 else if hx.gain = 64 then 3 else 2

def HX711.readRaw (hx : HX711) (k : BitVec 64 → Driving α) : Driving α :=
  awaitReady 500000 (shiftIn 24 0 fun val => pulse hx.pulses (k (signExtended val)))

def HX711.sumRaw (hx : HX711) : ℕ → BitVec 64 → (BitVec 64 → Driving α) → Driving α
  | 0, sum, k => k sum
  | n + 1, sum, k => hx.readRaw fun raw => hx.sumRaw n (sum + raw) k

/-- A division by zero is left undefined by the code, and gives zero here. -/
def HX711.readAverage (hx : HX711) (samples : Int32) (k : BitVec 64 → Driving α) : Driving α :=
  hx.sumRaw samples.toInt.toNat 0 fun sum => k (sum.sdiv (BitVec.ofInt 64 samples.toInt))

/-! ### The audit -/

/-- `audit::Config`, with the coin and the calibration in it. -/
structure AuditConfig where
  massG : Double
  tolPerCoinG : Double
  gramsPerRaw : Double
  samplesPre : Int32 := 8
  samplesPost : Int32 := 8
  stuckEpsilonRaw : BitVec 64 := 3

structure AuditResult where
  ok : Bool := false
  skipped : Bool := false
  expectedG : Double := .finite false 0
  measuredG : Double := .finite false 0
  deltaG : Double := .finite false 0
  flags : List String := []
  deriving DecidableEq

/-- A loop over the samples: their sum, and all samples so far. -/
def HX711.weigh (hx : HX711) : ℕ → BitVec 64 → List (BitVec 64) → (BitVec 64 → List (BitVec 64) → Driving α) → Driving α
  | 0, sum, samples, k => k sum samples
  | n + 1, sum, samples, k => hx.readAverage 1 fun v => hx.weigh n (sum + v) (samples ++ [v]) k

def greatest (v : BitVec 64) (l : List (BitVec 64)) : BitVec 64 := l.foldl (fun m v => if m.slt v then v else m) v

def least (v : BitVec 64) (l : List (BitVec 64)) : BitVec 64 := l.foldl (fun m v => if v.slt m then v else m) v

/-- Whether all samples are so near to each other that the sensor may be stuck. -/
def AuditConfig.stuck (cfg : AuditConfig) : List (BitVec 64) → Bool
  | v :: v' :: l => (greatest v (v' :: l) - least v (v' :: l)).slt cfg.stuckEpsilonRaw
  | _ => false

/-- The mean that is taken of a number of samples. -/
def meanOf (sum : BitVec 64) (samples : Int32) : BitVec 64 := sum.sdiv (BitVec.ofInt 64 (max 1 samples.toInt))

/-- What the difference of the weighings says about the coins. -/
def AuditConfig.compare (cfg : AuditConfig) (deltaRaw coins : Int) (stuck : Bool) : AuditResult :=
  let measuredG := (Double.ofInt deltaRaw).mul cfg.gramsPerRaw
  let expectedG := (Double.ofInt coins).mul cfg.massG
  let tolG := (Double.ofInt coins).mul cfg.tolPerCoinG
  let flags := (if stuck then ["SENSOR_STUCK"] else []) ++
    (if measuredG.lt (expectedG.sub tolG) then ["UNDERPAY"] else []) ++
    (if (expectedG.add tolG).lt measuredG then ["OVERPAY"] else [])
  { ok := flags.isEmpty, expectedG, measuredG, deltaG := measuredG.sub expectedG, flags }

/-- The second weighing, after the sum of the first. -/
def AuditConfig.weighAgain (cfg : AuditConfig) (hx : HX711) (coins : Int) (sumPre : BitVec 64) (samples : List (BitVec 64)) :
    Driving AuditResult :=
  hx.weigh cfg.samplesPost.toInt.toNat 0 samples fun sumPost samples =>
    let deltaRaw := meanOf sumPost cfg.samplesPost - meanOf sumPre cfg.samplesPre
    .ret (.ok (cfg.compare deltaRaw.toInt coins (cfg.stuck samples)))

/-- The part of `run` that may throw. -/
def AuditConfig.weighings (cfg : AuditConfig) (hx : HX711) (coins : Int) : Driving AuditResult :=
  if cfg.samplesPre.toInt + cfg.samplesPost.toInt < 0 then .ret (.error "vector::reserve")
  else hx.weigh cfg.samplesPre.toInt.toNat 0 [] (cfg.weighAgain hx coins)

/-- What is caught skips the audit. -/
def caught : Except String AuditResult → AuditResult
  | .ok r => r
  | .error _ => { skipped := true }

/-- `audit::run`. -/
def AuditConfig.run (cfg : AuditConfig) (scale : Option HX711) (coins : Int) : Program LineCall Answer AuditResult :=
  match scale with
  | none => .ret { skipped := true }
  | some hx => (cfg.weighings hx coins).map caught

/-- `runDispense`: the coins are dispensed, and then both weighings are made. -/
def runDispense (dcfg : Dispense.DispenseConfig) (hopper : Dispense.HopperParallel) (coins : Int) (readings : Dispense.Readings)
    (scale : Option HX711) (acfg : AuditConfig) : Option (Dispense.DispenseResult × Program LineCall Answer AuditResult) :=
  (Dispense.dispenseCoins dcfg hopper coins readings).result.map fun res => (res, acfg.run scale res.dispensed)

/-! ### The converter -/

/-- What is at the other end of the lines. A conversion is ready when the data line has been found high as often as it is
said here. It is then clocked out, each rising edge of the clock showing its next bit; after the last the next is under way,
made with the gain that is set by the pulses that follow. -/
structure Converter where
  conversions : List (ℕ × BitVec 24)
  clock : Bool := false
  /-- The rising edges since the last conversion was found ready. -/
  rises : ℕ := 0

def Converter.readDt (s : Converter) : Converter × Bool :=
  match s.conversions with
  | [] => (s, true)
  | (busy, v) :: rest =>
    if 0 < s.rises ∧ s.rises ≤ 24 then (s, v.getMsbD (s.rises - 1))
    else
      match busy with
      | 0 => ({ s with rises := 0 }, false)
      | busy + 1 => ({ s with conversions := (busy, v) :: rest }, true)

def Converter.writeSck (s : Converter) (level : Bool) : Converter :=
  if level && !s.clock then
    { s with clock := level, rises := s.rises + 1
             conversions := if s.rises = 24 then s.conversions.tail else s.conversions }
  else { s with clock := level }

def Converter.world (s : Converter) : (c : LineCall) → Converter × Answer c
  | .readDt => s.readDt
  | .writeSck level => (s.writeSck level, ())

end Drawer.Scale
