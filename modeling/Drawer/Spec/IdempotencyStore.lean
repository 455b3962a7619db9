import Drawer.Lib.Dict
import Drawer.Lib.Json
import Drawer.Lib.Text

/-! The idempotency store: a map guarded by a mutex and the log file it is read
back from. A line of the log is the JSON value that was dumped into it; dumping
a string that is not UTF-8 raises, after the map was updated and before the line
is written. Times are nanoseconds of the system clock. -/

namespace Drawer.Pos
open Text

structure IdemRec where
  key : Bytes := []
  payloadHash : Bytes := []
  resultJson : Bytes := []
  status : Bytes := []
  firstNs : Int := 0
  lastNs : Int := 0
  deriving DecidableEq, Repr

structure IdempotencyStore where
  ttlNs : Int
  map : Dict Bytes IdemRec := ∅
  file : List (Json Bytes) := []

namespace IdempotencyStore

inductive Check where
  | new
  | pending
  | matchDone
  | mismatch
  deriving DecidableEq, Repr

/-- `hours(ttl_hours).count() * 1000000000LL`. -/
def ttlNsOf (ttlHours : Int) : Int := ttlHours * 1000000000

/-- `j[key]`, which turns a missing member of an object or of null into null. -/
def index (j : Json Bytes) (key : String) : Except Exn (Json Bytes) :=
  match j with
  | .null => .ok .null
  | .obj _ => .ok ((j.member (ascii key)).getD .null)
  | _ => .error (.typeError 305)

def readRec (j : Json Bytes) : Except Exn IdemRec := do
  let key ← (← index j "key").getStr
  let payloadHash ← (← index j "payload_hash").getStr
  let resultJson ← j.value (ascii "result") Json.getStr []
  let status ← (← index j "status").getStr
  let firstNs ← j.value (ascii "first_ns") Json.getInt 0
  let lastNs ← j.value (ascii "last_ns") Json.getInt 0
  return { key, payloadHash, resultJson, status, firstNs, lastNs }

/-- One line of the loop in `open`: malformed and expired lines are skipped. -/
def readLine (ttlNs now : Int) (m : Dict Bytes IdemRec) (line : Json Bytes) : Dict Bytes IdemRec :=
  match readRec line with
  | .ok r => if ttlNs > 0 ∧ now - r.lastNs > ttlNs then m else m.insert r.key r
  | .error _ => m

def sweepExpired (s : IdempotencyStore) (now : Int) : IdempotencyStore :=
  if s.ttlNs ≤ 0 then s
  else { s with map := Dict.keep (fun r => !decide (now - r.lastNs > s.ttlNs)) s.map }

/-- A store opened on the log `file`; the clock is read once for the log and once
for the sweep. -/
def openOn (ttlHours : Int) (file : List (Json Bytes)) (readAt sweptAt : Int) : IdempotencyStore :=
  let ttlNs := ttlNsOf ttlHours
  sweepExpired { ttlNs, map := file.foldl (readLine ttlNs readAt) ∅, file } sweptAt

def check (s : IdempotencyStore) (key payloadHash : Bytes) : Check × Option IdemRec :=
  match s.map.lookup key with
  | none => (.new, none)
  | some r =>
    if r.payloadHash ≠ payloadHash then (.mismatch, some r)
    else if r.status = ascii "PENDING" then (.pending, some r)
    else if r.status = ascii "DONE" then (.matchDone, some r)
    else (.new, some r)

/-- `out << j.dump() << "\n"`, for an object whose strings are `texts`. -/
def writeLine (s : IdempotencyStore) (texts : List Bytes) (line : Json Bytes) : IdempotencyStore × Except Exn Unit :=
  if texts.all validUtf8 then ({ s with file := s.file ++ [line] }, .ok ())
  else (s, .error (.typeError 316))

def pendingLine (r : IdemRec) : Json Bytes :=
  .obj [(ascii "key", .str r.key), (ascii "payload_hash", .str r.payloadHash), (ascii "status", .str (ascii "PENDING")),
    (ascii "first_ns", .int r.firstNs), (ascii "last_ns", .int r.lastNs)]

def doneLine (r : IdemRec) : Json Bytes :=
  .obj [(ascii "key", .str r.key), (ascii "payload_hash", .str r.payloadHash), (ascii "status", .str (ascii "DONE")),
    (ascii "result", .str r.resultJson), (ascii "first_ns", .int r.firstNs), (ascii "last_ns", .int r.lastNs)]

def putPending (s : IdempotencyStore) (key payloadHash : Bytes) (now : Int) : IdempotencyStore × Except Exn Unit :=
  let r : IdemRec := { key, payloadHash, status := ascii "PENDING", firstNs := now, lastNs := now }
  writeLine { s with map := s.map.insert key r } [key, payloadHash] (pendingLine r)

def putDone (s : IdempotencyStore) (key payloadHash resultJson : Bytes) (now : Int) :
    IdempotencyStore × Except Exn Unit :=
  let slot := (s.map.lookup key).getD {}
  let firstNs := if slot.firstNs ≠ 0 then slot.firstNs else now
  let r : IdemRec := { key, payloadHash, resultJson, status := ascii "DONE", firstNs, lastNs := now }
  writeLine { s with map := s.map.insert key r } [key, payloadHash, resultJson] (doneLine r)

/-- A call of `put_pending` (no result) or of `put_done`, at the time `now`. -/
structure Put where
  key : Bytes
  payloadHash : Bytes
  result : Option Bytes := none
  now : Int
  deriving DecidableEq, Repr

/-- What a store's directory sees: puts, and the store being opened again. -/
inductive Op where
  | put (p : Put)
  | reopen (ttlHours readAt sweptAt : Int)

def apply (s : IdempotencyStore) : Op → IdempotencyStore
  | .put p =>
    match p.result with
    | none => (s.putPending p.key p.payloadHash p.now).1
    | some result => (s.putDone p.key p.payloadHash result p.now).1
  | .reopen ttlHours readAt sweptAt => openOn ttlHours s.file readAt sweptAt

/-- The answer a duplicate of the request behind `p` should get. -/
def Put.answer (p : Put) : Check :=
  match p.result with
  | none => .pending
  | some _ => .matchDone

/-- The call wrote its line: every string in it could be dumped. -/
def Put.Recorded (p : Put) : Prop := ∀ text ∈ p.key :: p.payloadHash :: p.result.toList, validUtf8 text = true

instance (p : Put) : Decidable p.Recorded := by
  unfold Put.Recorded
  infer_instance

end IdempotencyStore
end Drawer.Pos
