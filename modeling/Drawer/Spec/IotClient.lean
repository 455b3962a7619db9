import Drawer.Spec.DiskQueue
import Drawer.Spec.JournalText

/-! The IoT client: reports go to the broker while it is connected and takes them, and into the disk
queue otherwise; a thread of the client flushes the queue. The calls do not overlap. -/

namespace Drawer.Iot
open Text Journal

structure IoTOptions where
  topicPrefix : Bytes
  thingName : Bytes
  qos : Int32 := 1
  maxQueueBytes : UInt64 := 8388608

/-- What is handed to `publish_txn`, at some time on some host, to `publish_health`, and, as `build_reported` writes it,
to `publish_reported`. -/
inductive Report where
  | txn (ts host : Bytes) (t : Txn)
  | health (json : Bytes)
  | reported (json : Bytes)

def topicUpdate (thing : Bytes) : Bytes := ascii "$aws/things/" ++ thing ++ ascii "/shadow/update"

def IoTOptions.message (opt : IoTOptions) : Report → MqttMessage
  | .txn ts host t => { topic := opt.topicPrefix ++ ascii "/telemetry", qos := opt.qos, payload := toJson ts host t }
  | .health json => { topic := opt.topicPrefix ++ ascii "/telemetry", qos := opt.qos, payload := json }
  | .reported json => { topic := topicUpdate opt.thingName, qos := opt.qos, payload := json }

namespace DiskQueue

/-- The process ends in a flush: `n` messages are published and gone, and one more is published whose file is still
there. -/
def killedFlush (answer : ℕ → Bool) (n : Fin 100) (q : DiskQueue) : Flushed :=
  let f := q.tryFlush answer (Int32.ofNat n)
  let last := if answer f.published.length then (f.queue.files.head?.bind fun name =>
    (readFile (f.queue.dir.lookup name)).toOption.join) else none
  { f with published := f.published ++ last.toList }

end DiskQueue

/-! ### Runs -/

inductive IotOp where
  /-- A report, while the broker is connected or not and would take it or not; if it is queued, then at `ts`. -/
  | publish (r : Report) (connected taken : Bool) (ts : Int) (w : Write)
  /-- A round of `bg_flush_loop_`. -/
  | round (connected : Bool) (answer : ℕ → Bool)
  /-- The process ends, and a new one starts on the same directory. -/
  | restart
  | killed (answer : ℕ → Bool) (n : Fin 100)

/-- The client's queue, the messages it has accepted and those it has published. -/
structure IotRun where
  queue : DiskQueue := {}
  accepted : List MqttMessage := []
  published : List MqttMessage := []
  /-- When the last message was queued, and that as the process began. -/
  clock : Int := -1
  begun : Int := -1

namespace IotRun

def publish (r : IotRun) (m : MqttMessage) (connected taken : Bool) (ts : Int) (w : Write) : IotRun :=
  if connected && taken then { r with published := r.published ++ [m], accepted := r.accepted ++ [m] }
  else
    let (ok, queue) := r.queue.enqueue ts w m
    { r with queue, accepted := if ok then r.accepted ++ [m] else r.accepted, clock := ts }

def restart (r : IotRun) : IotRun := { r with queue := r.queue.restart, begun := r.clock }

def step (opt : IoTOptions) (r : IotRun) : IotOp → IotRun
  | .publish report connected taken ts w => r.publish (opt.message report) connected taken ts w
  | .round connected answer =>
    if connected then
      let f := r.queue.tryFlush answer 100
      { r with queue := f.queue, published := r.published ++ f.published }
    else r
  | .restart => r.restart
  | .killed answer n =>
    let f := r.queue.killedFlush answer n
    { r with queue := f.queue, published := r.published ++ f.published }.restart

/-- The messages that are queued. -/
def queued (r : IotRun) : List MqttMessage :=
  r.queue.files.filterMap fun name => (readFile (r.queue.dir.lookup name)).toOption.join

end IotRun
end Drawer.Iot
