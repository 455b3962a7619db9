import Drawer.Lib.Text

/-! The transaction journal and the POS contract texts. A completed append is one
durable record; the journal is the list of them, oldest first. -/

namespace Drawer
open Text

namespace Journal

structure Txn where
  id : Bytes := []
  price : Int := 0
  deposit : Int := 0
  change : Int := 0
  quarters : Int := 0
  dispensed : Int := 0
  phase : Bytes := []
  reason : Bytes := []
  deriving DecidableEq, Repr

def loadLast (records : List Txn) : Option Txn := records.getLast?

end Journal

/-! ### The POS contract texts -/

open Journal

namespace Pos

structure PurchaseRequest where
  priceCents : Int := 0
  depositCents : Int := 0
  idemKey : Bytes := []
  deriving DecidableEq, Repr

def payloadHash (priceCents depositCents : Int) : Bytes :=
  decimal priceCents ++ ascii ":" ++ decimal depositCents

def successJson (t : Txn) : Bytes :=
  ascii "\x7b\"status\":\"OK\",\"txn_id\":\"" ++ t.id ++ ascii "\"" ++
  ascii ",\"change_cents\":" ++ decimal t.change ++
  ascii ",\"coins\":\x7b\"quarter\":" ++ decimal t.quarters ++
  ascii ",\"dime\":0,\"nickel\":0,\"penny\":0\x7d\x7d"

def busyJson : Bytes := ascii "\x7b\"error\":\"busy\"\x7d"
def badRequestJson : Bytes := ascii "\x7b\"error\":\"bad_request\"\x7d"
def mismatchJson : Bytes := ascii "\x7b\"error\":\"idempotency_mismatch\"\x7d"
def pendingJson : Bytes := ascii "\x7b\"status\":\"processing\"\x7d"

end Pos
end Drawer
