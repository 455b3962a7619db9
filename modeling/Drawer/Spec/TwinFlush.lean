import Drawer.Lib.Transition
import Drawer.Spec.ContractServer
import Drawer.Spec.TwinClient

/-! Replay of the offline queue: `flush_offline_queue` on its own, and its locked
sections among those of other calls. The queue file is a copy of the queue that
only a new client reads. -/

namespace Drawer.Twin

/-- A push, as the client sees it answered. -/
def TwinContractServer.answerPost (s : TwinContractServer) (req : Request) : Option HttpResponse × TwinContractServer :=
  let (s, res) := s.postTwin req
  (some { status := res.status, body := .text (.ok res.body) }, s)

namespace HttpDeviceTwinClient

variable {ν : Type}

/-- The body of a push. -/
def pushBody (twin : DrawerTwin) : Json String := .obj [("twin", twin.toJson), ("revision", .int twin.revision.toInt)]

/-- The last locked section of `push_twin`. -/
def recordPush (now : String) (twin : DrawerTwin) (out : SyncResult) (c : HttpDeviceTwinClient ν) : HttpDeviceTwinClient ν :=
  let queue := if out.ok || out.conflict then c.offlineQueue else c.enqueue twin
  let status :=
    if out.ok then { c.status with cloudSyncStatus := "synced", lastSuccessfulSyncAt := now }
    else { c.status with
      cloudSyncStatus := if out.conflict then "conflict" else "sync_failed"
      lastFailedSyncAt := now, lastError := out.reason }
  { c with offlineQueue := queue, status := { status with offlineQueueDepth := queue.length } }

/-- The locked section of `flush_offline_queue` after a push that was accepted. -/
def popFront (now : String) (c : HttpDeviceTwinClient ν) : HttpDeviceTwinClient ν :=
  { c with
    offlineQueue := c.offlineQueue.tail
    status := { c.status with
      cloudSyncStatus := "synced", lastSuccessfulSyncAt := now, offlineQueueDepth := c.offlineQueue.tail.length } }

/-- The loop of `flush_offline_queue`, by the twins still queued; `now` gives the time of each removal. -/
def flushLoop (network : Network ν) (now : ℕ → String) :
    List DrawerTwin → ℕ → HttpDeviceTwinClient ν → Except Exn ℕ × HttpDeviceTwinClient ν
  | [], flushed, c => (.ok flushed, c)
  | next :: rest, flushed, c =>
    match c.pushNow network next with
    | (.error e, c) => (.error e, c)
    | (.ok out, c) => if out.ok then flushLoop network now rest (flushed + 1) (c.popFront (now flushed)) else (.ok flushed, c)

def flushOfflineQueue (network : Network ν) (now : ℕ → String) (c : HttpDeviceTwinClient ν) :
    Except Exn ℕ × HttpDeviceTwinClient ν :=
  flushLoop network now c.offlineQueue 0 c

/-- The contract server can be reached with the queued twins, and takes the client's token. -/
structure Reaches (network : Network TwinContractServer) (c : HttpDeviceTwinClient TwinContractServer) : Prop where
  endpoint : ∃ ep, parseBaseUrl c.config.baseUrl = .ok (some ep)
  authorized : ∀ id body, c.net.authorized ⟨c.authHeaders.getD "", id, body⟩ = true
  posts : ∀ s ep auth, ∀ twin ∈ c.offlineQueue,
    network.send s ep ⟨"/control-plane/v1/twins/" ++ twin.drawerId, auth, some (pushBody twin)⟩ =
      s.answerPost ⟨auth.getD "", twin.drawerId, .ok (pushBody twin)⟩

/-! ### Calls side by side -/

inductive ClientCall where
  | flush
  | push (twin : DrawerTwin)

/-- Where a call stands. A queued twin is numbered by how many left the queue at its front before it became the
first. -/
inductive CallPc where
  | start
  /-- The flush has copied the head of the queue. -/
  | copied (k : ℕ) (twin : DrawerTwin)
  /-- The server has accepted the copy. -/
  | accepted (k : ℕ) (twin : DrawerTwin)
  /-- The push of `push_twin` has been answered. -/
  | answered (out : SyncResult)
  | done

inductive QueueEvent where
  | pushed (k : ℕ) (twin : DrawerTwin)
  /-- A flush removed the head of the queue. -/
  | removed (k : ℕ) (twin : DrawerTwin)

/-- Any number of calls `ι` on one client; `log` lists what the flushes did. -/
structure Calls (ι ν : Type) where
  client : HttpDeviceTwinClient ν
  /-- How many twins have left the queue at its front. -/
  gone : ℕ := 0
  pc : ι → CallPc := fun _ => .start
  log : List QueueEvent := []

/-- How many twins `recordPush` drops from the front of the queue. -/
def displaced (out : SyncResult) (c : HttpDeviceTwinClient ν) : ℕ :=
  if !(out.ok || out.conflict) && c.config.maxQueueDepth.toInt ≤ c.offlineQueue.length then (c.offlineQueue.take 1).length else 0

/-- What a step has to go by: the time, and what `push_now` returns if it is called. -/
structure Moment where
  now : String
  answer : Except Exn SyncResult

/-- One step: a locked section or a request. -/
def callStep (call : ClientCall) (m : Moment) (c : HttpDeviceTwinClient ν) (gone : ℕ) :
    CallPc → HttpDeviceTwinClient ν × ℕ × CallPc × Option QueueEvent
  | .start =>
    match call with
    | .flush =>
      match c.offlineQueue with
      | [] => (c, gone, .done, none)
      | next :: _ => (c, gone, .copied gone next, none)
    | .push _ =>
      match m.answer with
      | .error _ => (c, gone, .done, none)
      | .ok out => (c, gone, .answered out, none)
  | .copied k twin =>
    match m.answer with
    | .error _ => (c, gone, .done, none)
    | .ok out => if out.ok then (c, gone, .accepted k twin, some (.pushed k twin)) else (c, gone, .done, none)
  | .accepted _ _ =>
    -- `pop_front` of whatever is the head by now; the source leaves it undefined for an empty queue
    (c.popFront m.now, gone + (c.offlineQueue.take 1).length, .start, c.offlineQueue.head?.map (.removed gone))
  | .answered out =>
    match call with
    | .flush => (c, gone, .done, none)
    | .push twin => (c.recordPush m.now twin out, gone + c.displaced out, .done, none)
  | .done => (c, gone, .done, none)

/-- One step of the call `l.1`. -/
def Calls.advance {ι : Type} [DecidableEq ι] (calls : ι → ClientCall) (s : Calls ι ν) (l : ι × Moment) : Calls ι ν :=
  let (client, gone, pc, event) := callStep (calls l.1) l.2 s.client s.gone (s.pc l.1)
  { client, gone, pc := Function.update s.pc l.1 pc, log := s.log ++ event.toList }

/-- What a flush removes from the queue, the server has accepted. -/
def NoLostUpdate (log : List QueueEvent) : Prop :=
  ∀ before k twin after, log = before ++ .removed k twin :: after → .pushed k twin ∈ before

/-- If this step removes the head of the queue, nothing has left the queue since the flush copied its head. -/
def HeadKept {ι : Type} (s : Calls ι ν) (l : ι × Moment) : Prop :=
  ∀ k twin, s.pc l.1 = .accepted k twin → s.gone = k

end HttpDeviceTwinClient
end Drawer.Twin
