import Drawer.Lib.Dict
import Drawer.Lib.Json
import Drawer.Lib.Transition

/-! Square webhooks: deliveries of payment events, and the sweep of a part of
each payment into the merchant's drawer. The database is the tables the handlers
use. Rows with generated ids are known by their unique keys, so a drawer goes by
the Square id of its merchant. Any call on the database may fail, and then
changes nothing. -/

namespace Drawer.Sweep

/-! ### The database -/

inductive RuleType where
  | percent
  | flat
  deriving DecidableEq, Repr

inductive LedgerType where
  | sweep
  | payout
  | adjustment
  | investment
  deriving DecidableEq, Repr

structure DrawerRow where
  currency : String
  balanceCents : Int := 0
  deriving DecidableEq, Repr

structure SweepRule where
  drawer : String
  type : RuleType
  value : Int
  active : Bool := true
  deriving DecidableEq, Repr

structure Transaction where
  merchant : String
  amountCents : Int
  currency : String
  deriving DecidableEq, Repr

structure LedgerEntry where
  drawer : String
  type : LedgerType
  amountCents : Int
  refId : String
  deriving DecidableEq, Repr

structure Db where
  merchants : List String := []
  drawers : Dict String DrawerRow := ∅
  rules : List SweepRule := []
  transactions : Dict String Transaction := ∅
  ledger : List LedgerEntry := []
  webhookEvents : Dict String String := ∅

/-- The database in the course of a delivery; `faults` tells which of the coming calls fail. -/
structure Session where
  db : Db
  faults : List Bool := []

/-- A handler: it returns or throws, and what it stored before it threw stays. -/
abbrev Prisma := OptionT (StateM Session)

/-- A call on the database. It is refused if it fails or if `run` gives nothing. -/
def query {α : Type} (run : Db → Option (α × Db)) : Prisma α := OptionT.mk fun s =>
  match s.faults.headD false, run s.db with
  | false, some (a, db) => (some a, ⟨db, s.faults.tail⟩)
  | _, _ => (none, ⟨s.db, s.faults.tail⟩)

namespace Db

/-- `merchant.upsert`. -/
def upsertMerchant (db : Db) (merchant : String) : Db := { db with merchants := db.merchants.insert merchant }

/-- `drawer.upsert`. -/
def upsertDrawer (db : Db) (merchant currency : String) : Db :=
  if (db.drawers.lookup merchant).isSome then db else { db with drawers := db.drawers.insert merchant { currency } }

/-- `transaction.upsert`. -/
def upsertTransaction (db : Db) (paymentId : String) (t : Transaction) : Db :=
  if (db.transactions.lookup paymentId).isSome then db
  else { db with transactions := db.transactions.insert paymentId t }

/-- `sweepRule.findFirst` for the active rules of a drawer. -/
def activeRule (db : Db) (drawer : String) : Option SweepRule :=
  db.rules.find? fun r => r.drawer = drawer && r.active

/-- The ledger entry and the new balance, both or neither. -/
def recordSweep (db : Db) (drawer paymentId : String) (cents : Int) : Option Db :=
  (db.drawers.lookup drawer).map fun d =>
    { db with
      ledger := db.ledger ++ [{ drawer, type := .sweep, amountCents := cents, refId := paymentId }]
      drawers := db.drawers.insert drawer { d with balanceCents := d.balanceCents + cents } }

end Db

/-! ### Reading an event -/

/-- What counts as true in a condition. -/
def truthy : Json String → Bool
  | .null => false
  | .bool b => b
  | .int n => n ≠ 0
  | .float q => q ≠ 0
  | .str s => s ≠ ""
  | .arr _ => true
  | .obj _ => true

/-- `a || b`. -/
def either (a b : Option (Json String)) : Option (Json String) := if a.any truthy then a else b

/-- `j?.key`. -/
def prop (j : Option (Json String)) (key : String) : Option (Json String) := j.bind (Json.member key)

/-- The text of a value that is one; a column for texts takes nothing else. -/
def text (j : Option (Json String)) : Option String := j.bind fun v => v.getStr.toOption

def eventId (event : Json String) : Option (Json String) :=
  either (either (prop event "event_id") (prop event "id")) (prop (prop event "metadata") "event_id")

def paymentOf (event : Json String) : Option (Json String) :=
  either (prop (prop (prop event "data") "object") "payment") (prop (prop event "data") "payment")

def currencyOf (payment : Json String) : Option (Json String) :=
  either (prop (prop payment "amount_money") "currency") (some (.str "USD"))

/-- `payment?.amount_money?.amount ?? 0`. -/
def rawAmount (payment : Json String) : Json String :=
  match prop (prop payment "amount_money") "amount" with
  | none | some .null => .int 0
  | some v => v

/-- `number` is the value of `Number(..)` where it is an integer; a column for integers takes nothing else. -/
def amountOf (number : Json String → Option Int) (payment : Json String) : Option Int := number (rawAmount payment)

/-! ### The handlers -/

def defaultRule (drawer : String) : SweepRule := { drawer, type := .percent, value := 100 }

/-- What a rule takes of an amount. Fractions of a cent are dropped. -/
def sweepCents (r : SweepRule) (amountCents : Int) : Int :=
  match r.type with
  | .percent => amountCents * r.value / 10000
  | .flat => min amountCents r.value

variable (number : Json String → Option Int)

def findRule (drawer : String) : Prisma SweepRule := do
  let found ← query fun db => some (db.activeRule drawer, db)
  match found with
  | some rule => return rule
  | none => query fun db => some (defaultRule drawer, { db with rules := db.rules ++ [defaultRule drawer] })

/-- The rows that must be there before the sweep: merchant, drawer and transaction. -/
def ensureRows (merchantId payment : Json String) : Prisma (String × String × Int) := do
  let merchant ← query fun db => (text merchantId).map fun m => (m, db.upsertMerchant m)
  let currency ← query fun db => (text (currencyOf payment)).map fun c => (c, db.upsertDrawer merchant c)
  query fun db => do
    let paymentId ← text (prop payment "id")
    let amountCents ← amountOf number payment
    return ((merchant, paymentId, amountCents),
      db.upsertTransaction paymentId { merchant, amountCents, currency })

/-- The sweep of an amount by the drawer's rule. -/
def sweep (drawer paymentId : String) (amountCents : Int) : Prisma Unit := do
  let rule ← findRule drawer
  let cents := sweepCents rule amountCents
  if cents ≤ 0 then return
  query fun db => (db.recordSweep drawer paymentId cents).map fun db => ((), db)

def handlePaymentEvent (event : Json String) : Prisma Unit := do
  match prop event "merchant_id", paymentOf event with
  | some merchantId, some payment =>
    if !truthy merchantId || !truthy payment then return
    let (drawer, paymentId, amountCents) ← ensureRows number merchantId payment
    sweep drawer paymentId amountCents
  | _, _ => return

structure Answer where
  status : ℕ
  body : String
  deriving DecidableEq, Repr

/-- `event?.type?.startsWith(..)` for one of the two beginnings; `none` if the type has no such method. -/
def isPayment (event : Json String) : Option Bool :=
  match prop event "type" with
  | none | some .null => some false
  | some (.str s) => some ("payment.".isPrefixOf s || "payments.".isPrefixOf s)
  | some _ => none

/-- The handling of an event that has got its row. -/
def handleStored (event : Json String) : Prisma Answer := do
  let payment ← OptionT.mk (pure (isPayment event))
  if payment then handlePaymentEvent number event
  return ⟨200, "ok"⟩

def processSquareWebhookEvent (event : Json String) : Prisma Answer := do
  match eventId event with
  | none => return ⟨400, "missing event_id"⟩
  | some id =>
    if !truthy id then return ⟨400, "missing event_id"⟩
    let existing ← query fun db => (text id).map fun i => ((db.webhookEvents.lookup i).isSome, db)
    if existing then return ⟨200, "ok"⟩
    query fun db => do
      let i ← text id
      let type ← text (either (prop event "type") (some (.str "unknown")))
      return ((), { db with webhookEvents := db.webhookEvents.insert i type })
    handleStored number event

/-- A request to the webhook: whether its signature is right, its JSON if the body has any, and the calls on the
database that fail while it is handled. -/
structure Delivery where
  signed : Bool := true
  payload : Option (Json String)
  faults : List Bool := []

def post (db : Db) (d : Delivery) : Db × Answer :=
  if !d.signed then (db, ⟨401, "invalid signature"⟩)
  else
    match d.payload with
    | none => (db, ⟨400, "malformed payload"⟩)
    | some event =>
      match processSquareWebhookEvent number event ⟨db, d.faults⟩ with
      | (some answer, s) => (s.db, answer)
      | (none, s) => (s.db, ⟨500, "error"⟩)

/-- The database after the deliveries, in order. -/
def deliver (db : Db) (ds : List Delivery) : Db := ds.foldl (fun db d => (post number db d).1) db

/-! ### What is wanted -/

/-- A sweep that is to be made: of which payment, into which drawer, and how much. -/
structure Due where
  drawer : String
  paymentId : String
  cents : Int
  deriving DecidableEq, Repr

namespace Db

/-- The rule a drawer's sweeps follow; the default one is stored with the first sweep. -/
def ruleOf (db : Db) (drawer : String) : SweepRule := (db.activeRule drawer).getD (defaultRule drawer)

def balanceOf (db : Db) (drawer : String) : Int := ((db.drawers.lookup drawer).map DrawerRow.balanceCents).getD 0

/-- The sweeps in a drawer's ledger. -/
def sweepsOf (db : Db) (drawer : String) : List LedgerEntry :=
  db.ledger.filter fun e => e.drawer = drawer && e.type = .sweep

/-- Nothing was delivered yet: no events, no entries, and the drawers are empty. Rules there may be any. -/
structure Fresh (db : Db) : Prop where
  ledger : db.ledger = []
  balance : ∀ m, db.balanceOf m = 0
  events : db.webhookEvents = ∅

end Db

/-- The merchant, payment id and amount an event gives the database, if it takes them. -/
def paymentArgs (event : Json String) : Option (String × String × Int) :=
  match prop event "merchant_id", paymentOf event with
  | some merchantId, some payment => do
    let merchant ← text merchantId
    let _ ← text (currencyOf payment)
    let paymentId ← text (prop payment "id")
    let amountCents ← amountOf number payment
    if !truthy merchantId || !truthy payment then none else return (merchant, paymentId, amountCents)
  | _, _ => none

/-- The sweep of an amount, if the drawer's rule takes anything of it. -/
def dueOf (db : Db) (drawer paymentId : String) (amountCents : Int) : Option Due :=
  let cents := sweepCents (db.ruleOf drawer) amountCents
  if 0 < cents then some ⟨drawer, paymentId, cents⟩ else none

/-- The sweep a payment event calls for. -/
def due (db : Db) (event : Json String) : Option Due :=
  if isPayment event = some true then (paymentArgs number event).bind fun p => dueOf db p.1 p.2.1 p.2.2 else none

def Due.entry (x : Due) : LedgerEntry :=
  { drawer := x.drawer, type := .sweep, amountCents := x.cents, refId := x.paymentId }

/-- The id an event is stored under, if it can be stored. -/
def storedId (event : Json String) : Option String := do
  let id ← eventId event
  let i ← text id
  let _ ← text (either (prop event "type") (some (.str "unknown")))
  if truthy id then some i else none

/-- The event of a delivery, with its id, if it can be stored. -/
def accepted (d : Delivery) : Option (String × Json String) :=
  if d.signed then d.payload.bind fun event => (storedId event).map fun i => (i, event) else none

/-- The sweeps that the deliveries of events with ids not in `seen` call for, one for each id. -/
def called (db : Db) : List String → List Delivery → List Due
  | _, [] => []
  | seen, d :: ds =>
    match accepted d with
    | none => called db seen ds
    | some (i, event) =>
      if i ∈ seen then called db seen ds else (due number db event).toList ++ called db (i :: seen) ds

/-- What a sweep is of: two events about one payment of a merchant call for one sweep. -/
def Due.payment (x : Due) : String × String := (x.drawer, x.paymentId)

/-- Of the sweeps of one payment, the first. -/
def distinct : List Due → List Due
  | [] => []
  | x :: l => x :: (distinct l).filter fun y => y.payment ≠ x.payment

/-- After the deliveries every drawer has at most one sweep for each payment, and holds the sweeps of the distinct
payments. -/
def NoDoubleSweep (db : Db) (ds : List Delivery) : Prop :=
  ∀ drawer, (((deliver number db ds).sweepsOf drawer).map LedgerEntry.refId).Nodup ∧
    (deliver number db ds).balanceOf drawer =
      (((distinct (called number db [] ds)).filter fun x => x.drawer = drawer).map Due.cents).sum

/-- The sweep is in the ledger, and the drawer holds all that its ledger says. -/
def Recorded (db : Db) (x : Due) : Prop :=
  x.entry ∈ db.ledger ∧ db.balanceOf x.drawer = ((db.sweepsOf x.drawer).map LedgerEntry.amountCents).sum

/-- Whenever a delivery is answered 200, the sweep its event calls for has been recorded. -/
def NoLostSweep (db : Db) (ds : List Delivery) : Prop :=
  ∀ before d after, ds = before ++ d :: after → (post number (deliver number db before) d).2.status = 200 →
    ∀ i event, accepted d = some (i, event) → ∀ x, due number db event = some x →
      Recorded (post number (deliver number db before) d).1 x

/-- How often `handlePaymentEvent` calls the database for a sweep that is due. -/
def handlerCalls (db : Db) (drawer : String) : ℕ := if (db.activeRule drawer).isSome then 5 else 6

/-- The delivery stores an event that calls for a sweep, and then a call on the database fails: the event is known
from now on, and the sweep has not been made. -/
def interrupted (db : Db) (d : Delivery) : Bool :=
  match accepted d with
  | none => false
  | some (i, event) =>
    match due number db event with
    | none => false
    | some x =>
      (db.webhookEvents.lookup i).isNone && !(d.faults.take 2).contains true &&
        ((d.faults.drop 2).take (handlerCalls db x.drawer)).contains true

end Drawer.Sweep
