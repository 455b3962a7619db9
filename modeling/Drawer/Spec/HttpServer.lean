import Drawer.Lib.JsonRecord
import Drawer.Spec.TxnEngine

/-! The device API: `POST /txn` and `POST /command`, one atomic step at a time.
Handlers run in threads of their own and share the flag `in_progress_` and the
devices. A purchase is the engine's program, and each of its effects is a step. A
body is the JSON value it parses to, if it is JSON. -/

namespace Drawer.Server
open Text Effect Journal TxnEngine

structure Response where
  status : Int := 200
  body : Bytes

inductive Request where
  | txn (body : Except Exn (Json String)) (ns : Int)
  | command (body : Except Exn (Json String))

def Request.isCommand : Request → Bool
  | .txn _ _ => false
  | .command _ => true

/-- `j.at(key).get<int>()`. -/
def readInt (key : String) (j : Json String) : Except Exn Int32 :=
  match j.member key with
  | some v => v.getInt32
  | none => .error .other

def clamp (v : Int32) (lo hi : Int) : Int := max lo (min hi v.toInt)

def busyReply : Response := ⟨409, ascii "\x7b\"error\":\"busy\"\x7d"⟩

def badTxn : Response := ⟨400, ascii "\x7b\"error\":\"bad\"\x7d"⟩

def badCommand : Response := ⟨400, ascii "\x7b\"ok\":false,\"reason\":\"bad\"\x7d"⟩

def okCommand : Response := { body := ascii "\x7b\"ok\":true\x7d" }

/-- The reply to a purchase. -/
def txnReply (t : Txn) : Response where
  body := ascii "\x7b\"id\":\"" ++ t.id ++ ascii "\",\"price\":" ++ decimal t.price ++ ascii ",\"deposit\":" ++ decimal t.deposit ++
    ascii ",\"change\":" ++ decimal t.change ++ ascii ",\"quarters\":" ++ decimal t.quarters ++ ascii ",\"status\":\"" ++
    (if t.phase = ascii "DONE" then ascii "OK" else ascii "VOID") ++ ascii "\",\"reason\":\"" ++ t.reason ++ ascii "\"\x7d"

/-- Price and deposit. -/
def purchaseOf (body : Except Exn (Json String)) : Except Exn (Int × Int) := do
  let j ← body
  let price ← readInt "price" j
  let deposit ← readInt "deposit" j
  return (clamp price 0 100000, clamp deposit 0 100000)

/-- What a command that found the device idle moves, if it moves anything. -/
def motionOf (j : Json String) : Option Eff :=
  if (j.member "open").isSome then (readInt "open" j).toOption.map fun v => .openMm (clamp v 0 1000)
  else if (j.member "dispense").isSome then (readInt "dispense" j).toOption.map fun v => .dispenseCoins (clamp v 0 1000)
  else none

/-- Where a handler stands. -/
inductive Pc where
  | start
  /-- `/txn` has set the flag. -/
  | acquired
  | purchasing (p : Prog)
  /-- The handler has returned, and its guard is about to clear the flag. -/
  | releasing (res : Response)
  /-- `/command` has found the flag clear. -/
  | passed
  | replied (res : Response)

inductive Act where
  | acquire
  | release
  | effect (f : Eff)

/-- One step: the flag, where the handler stands then, and what it did that others can see. The step from `passed` to
`replied` is the return of the blocking call that moves: while the motion lasts, the command stands at `passed`. -/
def step (e : Engine) (req : Request) (answer : ∀ f, Ans f) (busy : Bool) : Pc → Bool × Pc × Option Act
  | .start =>
    match req with
    | .txn _ _ => if busy then (busy, .replied busyReply, none) else (true, .acquired, some .acquire)
    | .command (.error _) => (busy, .replied badCommand, none)
    | .command (.ok j) =>
      if (j.member "close").isSome then
        -- closing is allowed at any time
        match readInt "close" j with
        | .error _ => (busy, .replied badCommand, none)
        | .ok v => (busy, .replied okCommand, some (.effect (.closeMm (clamp v 0 1000))))
      else if busy then (busy, .replied busyReply, none)
      else (busy, .passed, none)
  | .acquired =>
    match req with
    | .txn body ns =>
      match purchaseOf body with
      | .error _ => (busy, .releasing badTxn, none)
      | .ok (price, deposit) => (busy, .purchasing (runPurchase e ns price deposit), none)
    | .command _ => (busy, .acquired, none)
  | .purchasing (.ret t) => (busy, .releasing (txnReply t), none)
  | .purchasing (.call f k) => (busy, .purchasing (k (answer f)), some (.effect f))
  | .releasing res => (false, .replied res, some .release)
  | .passed =>
    match req with
    | .command (.ok j) =>
      match motionOf j with
      | some f => (busy, .replied okCommand, some (.effect f))
      | none => (busy, .replied badCommand, none)
    | _ => (busy, .passed, none)
  | .replied res => (busy, .replied res, none)

/-- Any number of requests `ι` at work; `log` lists what they did, in order. -/
structure Sys (ι : Type) where
  inProgress : Bool := false
  pc : ι → Pc := fun _ => .start
  log : List (ι × Act) := []

variable {ι : Type} [DecidableEq ι]

/-- One step of the request `i`; the devices answer `l.2`. -/
def advance (e : Engine) (requests : ι → Request) (s : Sys ι) (l : ι × (∀ f, Ans f)) : Sys ι :=
  let next := step e (requests l.1) l.2 s.inProgress (s.pc l.1)
  { inProgress := next.1
    pc := Function.update s.pc l.1 next.2.1
    log := s.log ++ (next.2.2.map fun act => (l.1, act)).toList }

/-- The effect opens the shutter or dispenses. -/
def handsOut : Eff → Bool
  | .openMm _ => true
  | .dispenseCoins _ => true
  | _ => false

/-- No command opens or dispenses between the moment a `/txn` request takes the flag and the moment it clears it. -/
def Exclusive (requests : ι → Request) (log : List (ι × Act)) : Prop :=
  ∀ before j f after, log = before ++ (j, .effect f) :: after → (requests j).isCommand = true → handsOut f = true →
    ∀ i, (i, Act.acquire) ∈ before → (i, Act.release) ∈ before

/-- The request is a command that has found the flag clear and is about to move. -/
def Moving (requests : ι → Request) (s : Sys ι) (j : ι) : Prop :=
  s.pc j = .passed ∧ ∃ body f, requests j = .command (.ok body) ∧ motionOf body = some f

/-- If this step takes the flag, no command is about to move. -/
def Settled (requests : ι → Request) (s : Sys ι) (l : ι × (∀ f, Ans f)) : Prop :=
  s.pc l.1 = .start → (requests l.1).isCommand = false → s.inProgress = false → ∀ j, ¬ Moving requests s j

end Drawer.Server
