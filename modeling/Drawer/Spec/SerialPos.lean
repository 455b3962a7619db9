import Drawer.Lib.Numeral
import Drawer.Lib.Words
import Drawer.Spec.Router

/-! `SerialConnector::handle_line`: one request line in, one reply line out. The
JSON library that reads the router's body back is the parameter `parse`. The
protocol documents which lines ask for a purchase, and the forms of a reply. -/

namespace Drawer.Pos.SerialConnector
open Text

/-- The tokens of a line, in order. -/
def tokens : ℕ → Bytes → List Bytes
  | 0, _ => []
  | n + 1, s =>
    match token s with
    | none => []
    | some (w, rest) => w :: tokens n rest

/-- The field `k` set to `v`; other names are ignored. -/
def setField (req : PurchaseRequest) (k v : Bytes) : Except Exn PurchaseRequest :=
  if k = ascii "id" then .ok { req with idemKey := v }
  else if k = ascii "price" then (stoi v).map fun n => { req with priceCents := n }
  else if k = ascii "deposit" then (stoi v).map fun n => { req with depositCents := n }
  else .ok req

/-- One token of `parse_req`; the flag says whether a field was seen. -/
def readToken (acc : PurchaseRequest × Bool) (w : Bytes) : Except Exn (PurchaseRequest × Bool) :=
  match find (ascii "=") w with
  | none => .ok acc
  | some (k, v) => (setField acc.1 k (v.drop 1)).map fun req => (req, true)

/-- The fields are usable. -/
def accepts (req : PurchaseRequest) : Bool :=
  !(req.idemKey = [] || req.priceCents < 0 || req.depositCents < 0 || req.priceCents > 100000 ||
    req.depositCents > 100000 || req.depositCents < req.priceCents)

def parseReq (line : Bytes) : Except Exn (Bool × PurchaseRequest) := do
  let (req, seen) ← (tokens (line.length + 1) line).foldlM readToken ({}, false)
  return (seen && accepts req, req)

def okLine (key : Bytes) (change q d n p : Int) : Bytes :=
  ascii "OK id=" ++ key ++ ascii " change=" ++ decimal change ++ ascii " q=" ++ decimal q ++
  ascii " d=" ++ decimal d ++ ascii " n=" ++ decimal n ++ ascii " p=" ++ decimal p

/-- `get<int>()`: a truth value counts as a number. -/
def readCount : Json Bytes → Except Exn Int
  | .bool b => .ok (if b then 1 else 0)
  | j => j.getInt

/-- `j[k].get<int>()`. -/
def indexInt (j : Json Bytes) (k : String) : Except Exn Int := do readCount (← IdempotencyStore.index j k)

/-- The reply line for what the router returned. -/
def replyLine (parse : Bytes → Except Exn (Json Bytes)) (key : Bytes) (status : Int) (body : Bytes) :
    Except Exn Bytes :=
  if status = 200 then do
    let j ← parse body
    let change ← indexInt j "change_cents"
    let coins ← IdempotencyStore.index j "coins"
    let q ← indexInt coins "quarter"
    let d ← indexInt coins "dime"
    let n ← indexInt coins "nickel"
    let p ← indexInt coins "penny"
    return okLine key change q d n p
  else if status = 409 then
    if (find (ascii "busy") body).isSome then .ok (ascii "BUSY id=" ++ key)
    else .ok (ascii "CONFLICT id=" ++ key)
  else if status = 202 then .ok (ascii "PENDING id=" ++ key)
  else .ok (ascii "BAD id=" ++ key)

/-- `call` is the call the router makes of the request. -/
def handleLine (parse : Bytes → Except Exn (Json Bytes)) (call : PurchaseRequest → Call) (sh : Shared)
    (line : Bytes) : Shared × Except Exn Bytes :=
  match parseReq line with
  | .error e => (sh, .error e)
  | .ok (false, req) => (sh, .ok (ascii "BAD id=" ++ req.idemKey))
  | .ok (true, req) =>
    match Router.handle (call req) sh with
    | (sh, .replied status body) => (sh, replyLine parse req.idemKey status body)
    | (sh, .threw e) => (sh, .error e)
    | (sh, _) => (sh, .error .other)

/-! ### The documented protocol: a field given more than once counts as given last -/

/-- The value of the word `name=value`. -/
def fieldOf (name w : Bytes) : Option Bytes :=
  if (name ++ ascii "=").isPrefixOf w then some (w.drop (name.length + 1)) else none

def values (line name : Bytes) : List Bytes := (words line).filterMap (fieldOf name)

def lineValue (line name : Bytes) : Option Bytes := (values line name).getLast?

/-- The fields that are amounts. -/
def amounts : List Bytes := [ascii "price", ascii "deposit"]

/-- The line asks for the purchase `req`: it has the three fields, a key and two decimal integers in range. -/
structure Asks (line : Bytes) (req : PurchaseRequest) : Prop where
  key : lineValue line (ascii "id") = some req.idemKey ∧ req.idemKey ≠ []
  price : ∃ v, lineValue line (ascii "price") = some v ∧ Plain v req.priceCents
  deposit : ∃ v, lineValue line (ascii "deposit") = some v ∧ Plain v req.depositCents
  range : 0 ≤ req.priceCents ∧ req.priceCents ≤ req.depositCents ∧ req.depositCents ≤ 100000

/-- The documented replies to a request with this key. -/
def Documented (key reply : Bytes) : Prop :=
  (∃ change q d n p, reply = okLine key change q d n p) ∨
    ∃ word ∈ ["BUSY id=", "PENDING id=", "BAD id=", "CONFLICT id="], reply = ascii word ++ key

/-- The request the router is called with, if it is called. -/
def routed (line : Bytes) : Option PurchaseRequest :=
  match parseReq line with
  | .ok (true, req) => some req
  | _ => none

/-- The connector keeps to the protocol on this line: a documented reply, and the router called for what is asked. -/
structure Conforms (parse : Bytes → Except Exn (Json Bytes)) (call : PurchaseRequest → Call) (sh : Shared) (line : Bytes) :
    Prop where
  replies : ∃ reply, (handleLine parse call sh line).2 = .ok reply ∧ Documented ((lineValue line (ascii "id")).getD []) reply
  routes : ∀ req, routed line = some req ↔ Asks line req

/-! ### When it does -/

/-- The number a text starts with, 0 if `std::stoi` refuses it. -/
def number (v : Bytes) : Int :=
  match stoi v with
  | .ok n => n
  | .error _ => 0

/-- A missing amount counts as 0. -/
def amount (line name : Bytes) : Int := ((lineValue line name).map number).getD 0

/-- Every amount starts with a number, and a key with amounts in range comes with both of them, given as plain integers. -/
structure Clean (line : Bytes) : Prop where
  numeric : ∀ name ∈ amounts, ∀ v ∈ values line name, ∃ n, stoi v = .ok n
  plain : (lineValue line (ascii "id")).getD [] ≠ [] → 0 ≤ amount line (ascii "price") →
    amount line (ascii "price") ≤ amount line (ascii "deposit") → amount line (ascii "deposit") ≤ 100000 →
    ∀ name ∈ amounts, ∃ v n, lineValue line name = some v ∧ Plain v n

/-- The change and the coins can be read of the body. -/
def Legible (parse : Bytes → Except Exn (Json Bytes)) (body : Bytes) : Prop :=
  ∃ j coins change, parse body = .ok j ∧ indexInt j "change_cents" = .ok change ∧
    IdempotencyStore.index j "coins" = .ok coins ∧ ∀ k ∈ ["quarter", "dime", "nickel", "penny"], ∃ n, indexInt coins k = .ok n

/-- The purchase gets through the router: a finished one has a legible result, and a new one that
finds the register free has a key that can be logged, and the engine ends it with a result that can be logged and read. -/
def Answerable (parse : Bytes → Except Exn (Json Bytes)) (c : Call) (sh : Shared) : Prop :=
  match sh.store.check c.key c.hash with
  | (.matchDone, r) => Legible parse (r.getD {}).resultJson
  | (.new, _) => sh.busy = false → validUtf8 c.key = true ∧
      ∃ t, c.engine = .ok t ∧ validUtf8 (successJson t) = true ∧ Legible parse (successJson t)
  | _ => True

end Drawer.Pos.SerialConnector
