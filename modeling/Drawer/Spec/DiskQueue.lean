import Mathlib.Data.UInt
import Drawer.Lib.Dict
import Drawer.Lib.Lexical
import Drawer.Lib.Lines
import Drawer.Lib.Numeral

/-! The disk queue for messages to the broker: one file a message, in a directory
that outlives the process. The directory is a map from the names of its regular
files to the files. -/

namespace Drawer.Iot
open Text

structure MqttMessage where
  topic : Bytes := []
  payload : Bytes := []
  qos : Int32 := 1
  retain : Bool := false
  deriving DecidableEq

structure File where
  data : Bytes
  /-- An `ifstream` can open it. -/
  opens : Bool := true

/-- What becomes of a file that is being written. -/
inductive Write where
  | done
  | refused
  /-- It breaks off after `n` bytes. -/
  | cut (n : ℕ)
  /-- It breaks off after `n` bytes in the flush at its end, when the stream has been asked whether it is good. -/
  | lost (n : ℕ)

/-- Nothing breaks off. -/
def Write.Whole : Write → Prop
  | .done | .refused => True
  | .cut _ | .lost _ => False

instance : DecidablePred Write.Whole
  | .done | .refused => isTrue trivial
  | .cut _ | .lost _ => isFalse id

structure DiskQueue where
  maxBytes : UInt64 := 8388608
  bytes : UInt64 := 0
  seq : UInt64 := 0
  files : List Bytes := []
  /-- What is in the directory `dir_`. -/
  dir : Dict Bytes File := ∅

/-- The header line, with its line's end. -/
def header (m : MqttMessage) : Bytes :=
  m.topic ++ [9] ++ decimal m.qos.toInt ++ [9] ++ ascii (if m.retain then "1" else "0") ++ [10]

/-- What `write_file_` writes. -/
def fileText (m : MqttMessage) : Bytes := header m ++ m.payload ++ [10]

/-- `need` in `enqueue`. -/
def need (m : MqttMessage) : UInt64 := UInt64.ofNat ((header m).length + m.payload.length + 1)

/-- The three fields of a header line. -/
def headerFields (line : Bytes) : Option (Bytes × Bytes × Bytes) := do
  let (topic, rest) ← getline 9 line
  let (qos, rest) ← getline 9 rest
  let (retain, _) ← getline 9 rest
  return (topic, qos, retain)

/-- `read_file_`; `none` is a file that is not there. -/
def readFile (file : Option File) : Except Exn (Option MqttMessage) :=
  match file with
  | none => .ok none
  | some file =>
    if file.opens then
      let (line, rest) := (getline 10 file.data).getD ([], [])
      match headerFields line with
      | none => .ok none
      | some (topic, qos, retain) => do
        let payload := ((getline 10 rest).map Prod.fst).getD []
        let qos ← stoi qos
        let retain ← stoi retain
        return some { topic, payload, qos := Int32.ofInt qos, retain := retain ≠ 0 }
    else .ok none

/-- `file_size`. -/
def fileSize (file : Option File) : ℕ := (file.map fun file => file.data.length).getD 0

namespace DiskQueue

/-- The order `std::sort` puts the names in. -/
def nameLe (a b : Bytes) : Bool := !Lexical.less (b.map UInt8.toNat) (a.map UInt8.toNat)

def init (q : DiskQueue) : DiskQueue :=
  { q with
    files := q.dir.keys.insertionSort fun a b => nameLe a b = true
    bytes := (q.dir.keys.map fun name => UInt64.ofNat (fileSize (q.dir.lookup name))).sum }

/-- A new process starts on the same directory. -/
def restart (q : DiskQueue) : DiskQueue := init { maxBytes := q.maxBytes, dir := q.dir }

def fileName (ts : Int) (seq : UInt64) : Bytes :=
  ascii "q-" ++ decimal ts ++ ascii "-" ++ decimal seq.toNat ++ ascii ".msg"

/-- `enqueue` at `ts` milliseconds since the epoch. -/
def enqueue (ts : Int) (w : Write) (m : MqttMessage) (q : DiskQueue) : Bool × DiskQueue :=
  if q.maxBytes < q.bytes + need m then (false, q)
  else
    let name := fileName ts q.seq
    let q := { q with seq := q.seq + 1 }
    match w with
    | .done => (true, { q with
        files := q.files ++ [name], bytes := q.bytes + need m, dir := q.dir.insert name { data := fileText m } })
    | .refused => (false, q)
    | .cut n => (false, { q with dir := q.dir.insert name { data := (fileText m).take n } })
    | .lost n => (true, { q with
        files := q.files ++ [name], bytes := q.bytes + need m
        dir := q.dir.insert name { data := (fileText m).take n } })

/-- What a flush leaves, and what it handed to `publish` successfully. -/
structure Flushed where
  result : Except Exn Unit := .ok ()
  queue : DiskQueue
  published : List MqttMessage

/-- The head of the queue goes, with its file. -/
def removeHead (name : Bytes) (q : DiskQueue) : DiskQueue := { q with files := q.files.tail, dir := q.dir.erase name }

/-- The loop of `try_flush`, by the names still listed; `answer n` is the answer of `publish` after `n` successes. -/
def flushLoop (answer : ℕ → Bool) (maxMsgs : Int32) : List Bytes → List MqttMessage → DiskQueue → Flushed
  | [], published, q => { queue := q, published }
  | name :: rest, published, q =>
    if published.length < maxMsgs.toInt then
      match readFile (q.dir.lookup name) with
      | .error e => { result := .error e, queue := q, published }
      | .ok none => flushLoop answer maxMsgs rest published (q.removeHead name)
      | .ok (some m) =>
        if answer published.length then
          flushLoop answer maxMsgs rest (published ++ [m])
            { q.removeHead name with bytes := q.bytes - UInt64.ofNat (fileSize (q.dir.lookup name)) }
        else { queue := q, published }
    else { queue := q, published }

def tryFlush (answer : ℕ → Bool) (maxMsgs : Int32) (q : DiskQueue) : Flushed := flushLoop answer maxMsgs q.files [] q

/-- What `try_flush` returns. -/
def Flushed.drained (f : Flushed) : Except Exn Bool := f.result.map fun _ => f.queue.files.isEmpty

end DiskQueue

/-! ### Runs -/

inductive QueueOp where
  | init
  | restart
  | enqueue (ts : Int) (w : Write) (m : MqttMessage)
  | tryFlush (answer : ℕ → Bool) (maxMsgs : Int32)

/-- A queue, the messages `enqueue` has accepted and those published, in order. -/
structure QueueRun where
  queue : DiskQueue := {}
  enqueued : List MqttMessage := []
  published : List MqttMessage := []

namespace QueueRun
open DiskQueue

def step (r : QueueRun) : QueueOp → QueueRun
  | .init => { r with queue := r.queue.init }
  | .restart => { r with queue := r.queue.restart }
  | .enqueue ts w m =>
    let (ok, queue) := r.queue.enqueue ts w m
    { r with queue, enqueued := if ok then r.enqueued ++ [m] else r.enqueued }
  | .tryFlush answer maxMsgs =>
    let f := r.queue.tryFlush answer maxMsgs
    { r with queue := f.queue, published := r.published ++ f.published }

/-- The messages still queued, in the order of the names. -/
def queued (r : QueueRun) : List MqttMessage :=
  r.queue.files.filterMap fun name => (readFile (r.queue.dir.lookup name)).toOption.join

/-- What has been published is a prefix of what was enqueued, and the rest is still queued. -/
def Fifo (r : QueueRun) : Prop :=
  ∃ rest, r.enqueued = r.published ++ rest ∧ rest.Subperm r.queued

end QueueRun
end Drawer.Iot
