import Drawer.Spec.Crash
import Drawer.Spec.SerialPos

/-! What a reply of the router says and when it is true. A reply reports on a
transaction, the one its own call ran or, when it is repeated from the store, the
one an earlier call of the key ran. A purchase is a call with what the engine does
if the router runs it: it may meet any answers of its devices, and throw if one of
them does. -/

namespace Drawer.Pos
open Text Effect Journal TxnEngine SerialConnector

/-- What the engine did for a call: its configuration, the time in the transaction's
id, and the effects with the devices' answers. -/
structure Session where
  engine : Engine := {}
  ns : Int := 0
  trace : Trace := []

/-- If the engine returned to `c`, it had run the purchase of `c` as `s` tells. -/
def Session.Of (s : Session) (c : Call) : Prop :=
  ∀ t, c.engine = .ok t → Runs (runPurchase s.engine s.ns c.req.priceCents c.req.depositCents) s.trace t

/-- The device did what it was asked: motion allowed, exactly the coins asked for, the shutter moved. -/
def obliged : Sigma Ans → Bool
  | ⟨.checkAndBlockMotion, allowed⟩ => allowed
  | ⟨.dispenseCoins n, st⟩ => st.ok && st.dispensed = n
  | ⟨.append _, _⟩ => true
  | ⟨.openMm _, r⟩ => r.ok
  | ⟨.closeMm _, r⟩ => r.ok

/-- The configured limit is no negative number and every device did what it was asked. -/
def Session.Cooperative (s : Session) : Prop :=
  0 ≤ s.engine.cfg.maxQuartersPerTxn ∧ ∀ ev ∈ s.trace, obliged ev = true

instance (s : Session) : Decidable s.Cooperative := inferInstanceAs (Decidable (_ ∧ _))

/-- The value of the body `success_json` writes for `t`. -/
def successDoc (t : Txn) : Json Bytes :=
  .obj [(ascii "status", .str (ascii "OK")), (ascii "txn_id", .str t.id), (ascii "change_cents", .int t.change),
    (ascii "coins", .obj [(ascii "quarter", .int t.quarters), (ascii "dime", .int 0), (ascii "nickel", .int 0),
      (ascii "penny", .int 0)])]

/-- The JSON text `body` says status OK and `q` quarters. -/
def Says (parse : Bytes → Except Exn (Json Bytes)) (body : Bytes) (q : Int) : Prop :=
  ∃ j coins, parse body = .ok j ∧ j.member (ascii "status") = some (.str (ascii "OK")) ∧
    j.member (ascii "coins") = some coins ∧ coins.member (ascii "quarter") = some (.int q)

/-- Whatever OK the body says, `t` was completed and paid just the quarters it says. -/
def Truthful (parse : Bytes → Except Exn (Json Bytes)) (t : Txn) (body : Bytes) : Prop :=
  ∀ q, Says parse body q → t.phase = ascii "DONE" ∧ q = t.dispensed

/-- The same for a serial reply line. -/
def TruthfulLine (t : Txn) (key line : Bytes) : Prop :=
  ∀ change q d n p, line = okLine key change q d n p → t.phase = ascii "DONE" ∧ q = t.dispensed

variable {ι : Type}

/-- One of `runs` bought for `key`, and `body` reports that purchase. -/
def Reported (calls : ι → Call) (runs : List ι) (key body : Bytes) : Prop :=
  ∃ j ∈ runs, ∃ t, (calls j).key = key ∧ (calls j).engine = .ok t ∧ body = successJson t

/-- Every DONE record reports a purchase that one of `runs` made for its key. -/
def Backed (calls : ι → Call) (store : IdempotencyStore) (runs : List ι) : Prop :=
  ∀ key r, store.map.lookup key = some r → r.status = ascii "DONE" → Reported calls runs key r.resultJson

/-! ### Purchases one after another -/

/-- A call, and the run of the engine behind what it answers. -/
structure Purchase where
  call : Call
  session : Session
  ran : session.Of call

namespace Purchase

def key (p : Purchase) : Bytes := p.call.key

def SameAmounts (p q : Purchase) : Prop :=
  p.call.req.priceCents = q.call.req.priceCents ∧ p.call.req.depositCents = q.call.req.depositCents

/-- `run_purchase` throws. -/
def Throws (p : Purchase) : Prop := ∃ e, p.call.engine = .error e

end Purchase

namespace Router

/-- The call gets to `run_purchase`. -/
def executes (c : Call) (sh : Shared) : Bool :=
  (List.range 7).any fun n => ((fun p : Shared × Pc => step c p.1 p.2)^[n] (sh, .start)).2 = .pended

/-- What the purchases leave, one handled after the other. -/
def after (sh : Shared) (ps : List Purchase) : Shared := ps.foldl (fun sh p => (handle p.call sh).1) sh

/-- How often `run_purchase` is executed for the key along the purchases. -/
def executions (key : Bytes) : Shared → List Purchase → ℕ
  | _, [] => 0
  | sh, p :: ps =>
    (if p.key = key ∧ executes p.call sh = true then 1 else 0) + executions key (handle p.call sh).1 ps

/-- One execution for each key; who comes again with the same amounts gets the first answer, who comes with others gets
409 and changes nothing. -/
structure Idempotent (sh : Shared) (ps : List Purchase) : Prop where
  once : ∀ key ∈ ps.map Purchase.key, executions key sh ps = 1
  repeated : ∀ before first mid p rest, ps = before ++ first :: (mid ++ p :: rest) → first.key ∉ before.map Purchase.key →
    p.key = first.key → p.SameAmounts first → ∃ body, (handle first.call (after sh before)).2 = .replied 200 body ∧
      (handle p.call (after sh (before ++ first :: mid))).2 = .replied 200 body
  conflicting : ∀ before first mid p rest, ps = before ++ first :: (mid ++ p :: rest) → first.key ∉ before.map Purchase.key →
    p.key = first.key → ¬ p.SameAmounts first →
      (handle p.call (after sh (before ++ first :: mid))).2 = .replied 409 mismatchJson ∧
      executes p.call (after sh (before ++ first :: mid)) = false ∧
      (handle p.call (after sh (before ++ first :: mid))).1 = after sh (before ++ first :: mid)

end Router
end Drawer.Pos
