import Drawer.Lib.JsonRecord
import Drawer.Lib.Numeral
import Drawer.Spec.Router

/-! The vendor adapters and the purchase route of `HttpConnector`, and what the
amounts of a vendor's body say. The JSON library that reads a request body is the
parameter `parse`, `std::hash` the parameter `hash`. Everything an adapter raises
makes the request a bad one. -/

namespace Drawer.Pos
open Text Journal

/-- `j.at(key)`. -/
def memberAt (j : Json Bytes) (key : String) : Except Exn (Json Bytes) :=
  match j with
  | .obj _ => (j.member (ascii key)).elim (.error .outOfRange) .ok
  | _ => .error (.typeError 304)

namespace Vendors

variable (parse : Bytes → Except Exn (Json Bytes)) (hash : Bytes → UInt64)

/-- What `derive_key` hashes. -/
def keyBase (seed : Bytes) (price deposit : Int) : Bytes :=
  seed ++ ascii "|" ++ decimal price ++ ascii "|" ++ decimal deposit

def deriveKey (seed : Bytes) (price deposit : Int) : Bytes :=
  ascii "idem-" ++ hexadecimal (hash (keyBase seed price deposit)).toNat

/-- The amounts are refused. -/
def outside (price deposit : Int) : Bool :=
  price < 0 || deposit < 0 || price > 100000 || deposit > 100000 || deposit < price

/-- Where a vendor keeps the amounts and what it seeds a key with. -/
structure Adapter where
  amounts : Json Bytes → Except Exn (Int × Int)
  seed : Json Bytes → Except Exn Bytes

/-- An adapter at work: `none` is a body it refuses. The seed is read only when there is no header. -/
def Adapter.request (a : Adapter) (body idemHdr : Bytes) : Except Exn (Option PurchaseRequest) := do
  let j ← parse body
  let (price, deposit) ← a.amounts j
  if outside price deposit then return none
  if idemHdr ≠ [] then return some ⟨price, deposit, idemHdr⟩
  let seed ← a.seed j
  return some ⟨price, deposit, deriveKey hash seed price deposit⟩

def vendorA : Adapter where
  amounts j := do
    let price ← (← memberAt j "price_cents").getInt32
    let deposit ← (← memberAt j "deposit_cents").getInt32
    return (price.toInt, deposit.toInt)
  seed j := j.value (ascii "order_id") Json.getStr []

/-- An amount is a number, or a text that starts with one. -/
def toInt : Json Bytes → Except Exn Int
  | .str s => stoi s
  | j => j.getInt32.map Int32.toInt

def vendorB : Adapter where
  amounts j := do
    let amount ← memberAt j "amount"
    let price ← toInt (← memberAt amount "price")
    let deposit ← toInt (← memberAt amount "deposit")
    return (price, deposit)
  -- a body without `meta` gets a null one, which has no members to ask for
  seed j := do (← IdempotencyStore.index j "meta").value (ascii "ticket") Json.getStr []

/-- Whatever is raised is caught, and the body refused. -/
def caught (r : Except Exn (Option PurchaseRequest)) : Option PurchaseRequest :=
  match r with
  | .ok req => req
  | .error _ => none

def parseVendorA (body idemHdr : Bytes) : Option PurchaseRequest := caught (vendorA.request parse hash body idemHdr)
def parseVendorB (body idemHdr : Bytes) : Option PurchaseRequest := caught (vendorB.request parse hash body idemHdr)

end Vendors

/-- What a request carries of its own: the seed of its key and its amounts. -/
def Vendors.Adapter.carried (a : Vendors.Adapter) (parse : Bytes → Except Exn (Json Bytes)) (body : Bytes) :
    Except Exn (Bytes × Int × Int) := do
  let j ← parse body
  let (price, deposit) ← a.amounts j
  return (← a.seed j, price, deposit)

structure Options where
  sharedKey : Bytes := []
  vendorMode : Bytes := ascii "A"

/-- A request to `/pos/purchase`; a header that is not sent reads as the empty text. -/
structure PurchasePost where
  posKey : Bytes := []
  idemKey : Bytes := []
  body : Bytes
  deriving DecidableEq

namespace HttpConnector

def unauthorizedJson : Bytes := ascii "\x7b\"error\":\"unauthorized\"\x7d"

/-- The adapter of the vendor mode. -/
def adapter (opt : Options) : Vendors.Adapter := if opt.vendorMode = ascii "B" then Vendors.vendorB else Vendors.vendorA

variable (parse : Bytes → Except Exn (Json Bytes)) (hash : Bytes → UInt64) (opt : Options)

/-- What reaches the router, or the reply to what does not. -/
def accept (post : PurchasePost) : Except (Int × Bytes) PurchaseRequest :=
  if opt.sharedKey ≠ [] ∧ post.posKey ≠ opt.sharedKey then .error (401, unauthorizedJson)
  else
    let read := if opt.vendorMode = ascii "B" then Vendors.parseVendorB parse hash post.body post.idemKey
      else Vendors.parseVendorA parse hash post.body post.idemKey
    match read with
    | none => .error (400, badRequestJson)
    | some req => if req.idemKey = [] then .error (400, badRequestJson) else .ok req

/-- A request, with everything its surroundings answer it. -/
structure Visit where
  post : PurchasePost
  pendingAt : Int := 0
  engine : Except Exn Txn
  publisher : Except Exn Unit := .ok ()
  doneAt : Int := 0

def Visit.call (v : Visit) (req : PurchaseRequest) : Call :=
  { req, pendingAt := v.pendingAt, engine := v.engine, publisher := v.publisher, doneAt := v.doneAt }

/-- The reply, when the request is over; what the router throws is for the server. -/
def purchase (v : Visit) (sh : Shared) : Shared × Router.Pc :=
  match accept parse hash opt v.post with
  | .error (status, body) => (sh, .replied status body)
  | .ok req => Router.handle (v.call req) sh

/-- One request after another, and the register started again on its log. -/
inductive Event where
  | purchase (v : Visit)
  | restart (ttlHours readAt sweptAt : Int)

def step (sh : Shared) : Event → Shared
  | .purchase v => (purchase parse hash opt v sh).1
  | .restart ttlHours readAt sweptAt => { store := .openOn ttlHours sh.store.file readAt sweptAt }

/-- The register after `events`, begun with an empty log. -/
def run (events : List Event) : Shared := events.foldl (step parse hash opt) { store := { ttlNs := 0 } }

end HttpConnector
end Drawer.Pos

/-! ### What the amounts of a body say, and what the adapters take for an amount besides -/

namespace Drawer.Pos.Vendors
open Text

/-- The value is the integer `n`: as a JSON integer or, where `texts` may be sent, as a decimal text. -/
inductive Denotes (texts : Bool) : Json Bytes → Int → Prop where
  | int (n : Int) : Denotes texts (.int n) n
  | text {s : Bytes} {n : Int} (hsent : texts = true) (hplain : Plain s n) : Denotes texts (.str s) n

/-- The value is no such integer, but is read as `n`. -/
inductive Loose (texts : Bool) : Json Bytes → Int → Prop where
  /-- Of an integer that is no `int`, the low 32 bits are kept. -/
  | wrapped {n : Int} (hout : n < -2147483648 ∨ 2147483647 < n) : Loose texts (.int n) (n.bmod 4294967296)
  /-- A fraction is cut to an integer first. -/
  | cut (q : ℚ) : Loose texts (.float q) ((q.num.tdiv q.den).bmod 4294967296)
  | truth (b : Bool) : Loose texts (.bool b) (if b then 1 else 0)
  /-- A text that only starts with a number. -/
  | text {s : Bytes} {n : Int} (hsent : texts = true) (hread : stoi s = .ok n) (hplain : ¬ Plain s n) : Loose texts (.str s) n

/-- The value is taken for the amount `n`. -/
def TakenFor (texts : Bool) (v : Json Bytes) (n : Int) : Prop := Denotes texts v n ∨ Loose texts v n

/-- Amounts of a purchase. -/
def Payable (price deposit : Int) : Prop := 0 ≤ price ∧ price ≤ deposit ∧ deposit ≤ 100000

/-- The price and the deposit of a body, where the vendors put them. -/
def placesA (j : Json Bytes) : Option (Json Bytes × Json Bytes) := do
  let price ← j.member (ascii "price_cents")
  let deposit ← j.member (ascii "deposit_cents")
  return (price, deposit)

def placesB (j : Json Bytes) : Option (Json Bytes × Json Bytes) := do
  let amount ← j.member (ascii "amount")
  let price ← amount.member (ascii "price")
  let deposit ← amount.member (ascii "deposit")
  return (price, deposit)

section
variable (texts : Bool) (places : Json Bytes → Option (Json Bytes × Json Bytes)) (parse : Bytes → Except Exn (Json Bytes))
  (body : Bytes)

/-- Whatever request was made of the body has exactly its amounts, and they are in range. -/
def Mapped (out : Option PurchaseRequest) : Prop :=
  ∀ req, out = some req → ∃ j price deposit, parse body = .ok j ∧ places j = some (price, deposit) ∧
    Denotes texts price req.priceCents ∧ Denotes texts deposit req.depositCents ∧ Payable req.priceCents req.depositCents

/-- If the body has its seed, or needs none, no pair of amounts in range is made of a loose one. -/
def Tight (seed : Json Bytes → Except Exn Bytes) (idemHdr : Bytes) : Prop :=
  ∀ j price deposit p d, parse body = .ok j → places j = some (price, deposit) →
    (idemHdr = [] → ∃ text, seed j = .ok text) → TakenFor texts price p → TakenFor texts deposit d → Payable p d →
    ¬ Loose texts price p ∧ ¬ Loose texts deposit d

end
end Drawer.Pos.Vendors
