import Drawer.Lib.Dict
import Drawer.Spec.Crash

/-! The fault manager attached to the transaction engine. Its poll thread and its
other users raise and clear faults at any time between two effects of the
engine; a motion check is answered from the faults of that moment. -/

namespace Drawer
open Text

inductive FaultCode where
  | none
  | estop
  | lidTamper
  | overcurrent
  | jamShutter
  | jamHopper
  | limitTimeout
  | sensorFail
  | configError
  deriving DecidableEq, Repr

structure Fault where
  code : FaultCode := .none
  reason : Bytes := []
  tsNs : ℕ := 0
  latched : Bool := false
  deriving DecidableEq, Repr

structure FaultManager where
  faults : Dict FaultCode Fault := ∅

namespace FaultManager

def raise (fm : FaultManager) (code : FaultCode) (reason : Bytes) (latch : Bool) (nowNs : ℕ) : FaultManager :=
  { faults := fm.faults.insert code { code, reason, tsNs := nowNs, latched := latch } }

def clear (fm : FaultManager) (code : FaultCode) : FaultManager := { faults := fm.faults.erase code }

def anyActive (fm : FaultManager) : Bool := !fm.faults.entries.isEmpty

def checkAndBlockMotion (fm : FaultManager) : Bool := !fm.anyActive

end FaultManager

namespace TxnEngine
open Effect Journal Transition

/-- An effect of the engine, or a change of the faults. -/
inductive Happening where
  | effect (ev : Sigma Ans)
  | raise (code : FaultCode) (reason : Bytes) (latch : Bool) (nowNs : ℕ)
  | clear (code : FaultCode)

/-- The engine's part of a history. -/
def effectOf : Happening → Option (Sigma Ans)
  | .effect ev => some ev
  | _ => none

def effects (h : List Happening) : Trace := h.filterMap effectOf

def change (fm : FaultManager) : Happening → FaultManager
  | .effect _ => fm
  | .raise code reason latch nowNs => fm.raise code reason latch nowNs
  | .clear code => fm.clear code

/-- Each motion check is answered by the manager as it is then. -/
def Answered (fm : FaultManager) (h : List Happening) : Prop :=
  ∀ before allowed after, h = before ++ .effect ⟨.checkAndBlockMotion, allowed⟩ :: after →
    allowed = (before.foldl change fm).checkAndBlockMotion

def isMotion : Sigma Ans → Bool
  | ⟨.dispenseCoins _, _⟩ => true
  | ⟨.openMm _, _⟩ => true
  | ⟨.closeMm _, _⟩ => true
  | _ => false

def isCheck : Sigma Ans → Bool
  | ⟨.checkAndBlockMotion, _⟩ => true
  | _ => false

/-- Before each motion the last motion or check was a check that allowed motion, at a moment without faults. -/
def FaultGated (fm : FaultManager) (h : List Happening) : Prop :=
  ∀ before motion after, h = before ++ .effect motion :: after → isMotion motion = true →
    ∃ b₁ b₂, before = b₁ ++ .effect ⟨.checkAndBlockMotion, true⟩ :: b₂ ∧
      (∀ ev, Happening.effect ev ∈ b₂ → isMotion ev = false ∧ isCheck ev = false) ∧
      (b₁.foldl change fm).faults = ∅

/-- A call of the engine. -/
inductive EngineCall where
  | runPurchase (ns price deposit : Int)
  | resumeIfNeeded

/-- The program of a call, with the journal as it is at the call. -/
def EngineCall.program (e : Engine) (journal : List Txn) : EngineCall → Prog
  | .runPurchase ns price deposit => TxnEngine.runPurchase e ns price deposit
  | .resumeIfNeeded => TxnEngine.resumeIfNeeded e (loadLast journal)

/-- A call after the effects `tr`: it goes on to its end, or to a crash. -/
def called (e : Engine) (old : List Txn) (tr : Trace) (c : EngineCall) (tr' : Trace) : Prop :=
  ∃ seg, Stops (c.program e (old ++ appended tr)) seg ∧ tr' = tr ++ seg

/-- The call resumes a transaction whose last record says that the coins are being presented. -/
def resumesPresenting (journal : List Txn) : EngineCall → Bool
  | .runPurchase _ _ _ => false
  | .resumeIfNeeded => (loadLast journal).any fun t => t.phase = ascii "PRESENTING"

end TxnEngine
end Drawer
