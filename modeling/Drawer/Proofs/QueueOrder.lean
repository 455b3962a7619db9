import Drawer.Lib.Transition
import Drawer.Sanity.DiskQueue

/-! The order of the disk queue. In memory it is that of insertion, after a restart
that of the file names. Where the names still queued are in order at every
restart, no name is used while it is queued, and messages keep to their lines,
what is published is what was enqueued, in that order. -/

namespace Drawer.Iot
open Text Transition DiskQueue

/-- The queue holds exactly these messages. -/
structure Holds (q : DiskQueue) (msgs : List MqttMessage) : Prop where
  nodup : q.files.Nodup
  listed : ∀ name, name ∈ q.dir ↔ name ∈ q.files
  reads : q.files.map (fun name => readFile (q.dir.lookup name)) = msgs.map fun m => .ok (some m)

theorem Holds.congr {q q' : DiskQueue} {msgs : List MqttMessage} (h : Holds q msgs) (hfiles : q'.files = q.files)
    (hdir : q'.dir = q.dir) : Holds q' msgs := by
  refine ⟨hfiles ▸ h.nodup, fun name => ?_, ?_⟩
  · rw [hdir, hfiles]
    exact h.listed name
  · rw [hdir, hfiles]
    exact h.reads

theorem holds_new (maxBytes : UInt64) : Holds { maxBytes } [] where
  nodup := List.nodup_nil
  listed name := by simp
  reads := rfl

theorem Holds.perm {q : DiskQueue} {msgs : List MqttMessage} (h : Holds q msgs) : q.files.Perm q.dir.keys := by
  refine (List.perm_ext_iff_of_nodup h.nodup q.dir.nodupKeys).mpr fun name => ?_
  rw [← h.listed name]
  exact Iff.rfl

theorem Holds.init {q : DiskQueue} {msgs : List MqttMessage} (h : Holds q msgs)
    (horder : q.files.Pairwise fun a b => nameLe a b = true) : Holds q.init msgs :=
  h.congr (init_files horder h.perm) rfl

theorem Holds.restart {q : DiskQueue} {msgs : List MqttMessage} (h : Holds q msgs)
    (horder : q.files.Pairwise fun a b => nameLe a b = true) : Holds q.restart msgs :=
  h.congr (init_files (q := { maxBytes := q.maxBytes, dir := q.dir }) horder h.perm) rfl

/-- The head is the first message, and it goes with its file. -/
theorem Holds.removeHead {q : DiskQueue} {name : Bytes} {rest : List Bytes} {msgs : List MqttMessage}
    (hfiles : q.files = name :: rest) (h : Holds q msgs) :
    ∃ m msgs', msgs = m :: msgs' ∧ readFile (q.dir.lookup name) = .ok (some m) ∧ Holds (q.removeHead name) msgs' := by
  have hreads := h.reads
  rw [hfiles, List.map_cons] at hreads
  cases msgs with
  | nil => simp at hreads
  | cons m msgs' =>
    obtain ⟨hm, hrest⟩ := List.cons.inj hreads
    have hnodup : name ∉ rest ∧ rest.Nodup := List.nodup_cons.mp (hfiles ▸ h.nodup)
    refine ⟨m, msgs', rfl, hm, ?_, fun other => ?_, ?_⟩
    · simpa [DiskQueue.removeHead, hfiles] using hnodup.2
    · simp only [DiskQueue.removeHead, hfiles, List.tail_cons, AList.mem_erase, h.listed other, List.mem_cons]
      refine ⟨fun ⟨hne, hor⟩ => hor.resolve_left hne, fun hother => ⟨?_, Or.inr hother⟩⟩
      rintro rfl
      exact hnodup.1 hother
    · simp only [DiskQueue.removeHead, hfiles, List.tail_cons]
      rw [← hrest]
      refine List.map_congr_left fun other hother => ?_
      rw [AList.lookup_erase_ne]
      rintro rfl
      exact hnodup.1 hother

theorem flushLoop_holds (answer : ℕ → Bool) (maxMsgs : Int32) {names : List Bytes} {q : DiskQueue} {msgs : List MqttMessage}
    (hfiles : q.files = names) (h : Holds q msgs) (published : List MqttMessage) :
    ∃ sent left, msgs = sent ++ left ∧ (flushLoop answer maxMsgs names published q).published = published ++ sent ∧
      Holds (flushLoop answer maxMsgs names published q).queue left := by
  have hstay : ∃ sent left, msgs = sent ++ left ∧ published = published ++ sent ∧ Holds q left :=
    ⟨[], msgs, rfl, (List.append_nil _).symm, h⟩
  induction names generalizing q msgs published with
  | nil => exact hstay
  | cons name rest ih =>
    obtain ⟨m, msgs', rfl, hm, hnext⟩ := h.removeHead hfiles
    simp only [flushLoop, hm]
    split_ifs
    · set q' : DiskQueue := { q.removeHead name with bytes := q.bytes - UInt64.ofNat (fileSize (q.dir.lookup name)) } with hq'
      have hnext' : Holds q' msgs' := hnext.congr rfl rfl
      have hfiles' : q'.files = rest := by simp [hq', DiskQueue.removeHead, hfiles]
      obtain ⟨sent, left, hsplit, hsent, hleft⟩ := ih hfiles' hnext' (published ++ [m])
        ⟨[], msgs', rfl, (List.append_nil _).symm, hnext'⟩
      exact ⟨m :: sent, left, by rw [hsplit]; rfl, by rw [hsent, List.append_assoc]; rfl, hleft⟩
    · exact hstay
    · exact hstay

/-- A message under a new name goes to the end. -/
theorem Holds.enqueue {q : DiskQueue} {msgs : List MqttMessage} (h : Holds q msgs) {ts : Int} {w : Write} {m : MqttMessage}
    (hok : (q.enqueue ts w m).1 = true) (hwhole : w.Whole) (hname : fileName ts q.seq ∉ q.files) (hm : Framed m) :
    Holds (q.enqueue ts w m).2 (msgs ++ [m]) := by
  unfold DiskQueue.enqueue at hok ⊢
  split_ifs at hok ⊢ with hfull
  cases w with
  | refused => cases hok
  | cut n => cases hok
  | lost n => exact hwhole.elim
  | done =>
    have hnodup : (q.files ++ [fileName ts q.seq]).Nodup := List.concat_eq_append ▸ h.nodup.concat hname
    refine ⟨hnodup, fun other => ?_, ?_⟩
    · simp only [AList.mem_insert, h.listed other, List.mem_append, List.mem_singleton, or_comm]
    · simp only [List.map_append, List.map_cons, List.map_nil, AList.lookup_insert, readFile_fileText hm]
      rw [← h.reads]
      congr 1
      refine List.map_congr_left fun other hother => ?_
      rw [AList.lookup_insert_ne]
      rintro rfl
      exact hname hother

theorem Holds.enqueue_failed {q : DiskQueue} {msgs : List MqttMessage} (h : Holds q msgs) {ts : Int} {w : Write}
    {m : MqttMessage} (hfailed : (q.enqueue ts w m).1 = false) (hwhole : w.Whole) :
    Holds (q.enqueue ts w m).2 msgs := by
  unfold DiskQueue.enqueue at hfailed ⊢
  split_ifs at hfailed ⊢ with hfull
  · exact h
  · cases w with
    | refused => exact h.congr rfl rfl
    | cut n => exact hwhole.elim
    | lost n => exact hwhole.elim
    | done => cases hfailed

namespace QueueRun

/-- No file is left broken. -/
def Whole : QueueOp → Prop
  | .enqueue _ w _ => w.Whole
  | _ => True

/-- At a restart the names still queued are in order; a message that is accepted comes under a name that is not queued,
and keeps to its lines and fields. -/
def Orderly (r : QueueRun) : QueueOp → Prop
  | .init => r.queue.files.Pairwise fun a b => nameLe a b = true
  | .restart => r.queue.files.Pairwise fun a b => nameLe a b = true
  | .enqueue ts w m => (r.queue.enqueue ts w m).1 = true → fileName ts r.queue.seq ∉ r.queue.files ∧ Framed m
  | .tryFlush _ _ => True

instance : DecidablePred Whole
  | .enqueue _ w _ => inferInstanceAs (Decidable w.Whole)
  | .init => isTrue trivial
  | .restart => isTrue trivial
  | .tryFlush _ _ => isTrue trivial

instance (r : QueueRun) : DecidablePred (Orderly r)
  | .init => inferInstanceAs (Decidable (List.Pairwise _ _))
  | .restart => inferInstanceAs (Decidable (List.Pairwise _ _))
  | .enqueue _ _ _ => inferInstanceAs (Decidable (_ → _ ∧ _))
  | .tryFlush _ _ => isTrue trivial

/-- The queue holds what has been enqueued and not yet published. -/
def Inv (r : QueueRun) : Prop := ∃ rest, r.enqueued = r.published ++ rest ∧ Holds r.queue rest

theorem Inv.step {r : QueueRun} (h : Inv r) {op : QueueOp} (hwhole : Whole op) (hop : Orderly r op) : Inv (r.step op) := by
  obtain ⟨rest, hrest, hholds⟩ := h
  cases op with
  | init => exact ⟨rest, hrest, hholds.init hop⟩
  | restart => exact ⟨rest, hrest, hholds.restart hop⟩
  | enqueue ts w m =>
    cases hok : (r.queue.enqueue ts w m).1 with
    | true =>
      obtain ⟨hname, hm⟩ := hop hok
      refine ⟨rest ++ [m], ?_, hholds.enqueue hok hwhole hname hm⟩
      simp [QueueRun.step, hok, hrest]
    | false =>
      refine ⟨rest, ?_, hholds.enqueue_failed hok hwhole⟩
      simp [QueueRun.step, hok, hrest]
  | tryFlush answer maxMsgs =>
    obtain ⟨sent, left, rfl, hsent, hleft⟩ := flushLoop_holds answer maxMsgs rfl hholds []
    refine ⟨left, ?_, hleft⟩
    simp only [QueueRun.step, tryFlush, hrest, hsent, List.nil_append, List.append_assoc]

theorem Inv.fifo {r : QueueRun} (h : Inv r) : r.Fifo := by
  obtain ⟨rest, hrest, hholds⟩ := h
  have hqueued : r.queued = rest := by
    have hmap := congrArg (List.filterMap fun e : Except Exn (Option MqttMessage) => e.toOption.join) hholds.reads
    rw [List.filterMap_map, List.filterMap_map] at hmap
    exact hmap.trans (by simp [Function.comp_def, Except.toOption])
  exact ⟨rest, hrest, hqueued ▸ List.Subperm.refl _⟩

/-- What is published is a prefix of what was enqueued, and the rest is still queued, in every run whose writes do not break
off, whose restarts find the names in order, and whose messages come under new names and keep to their lines. -/
theorem fifo_run {maxBytes : UInt64} {ops : List QueueOp} {r : QueueRun}
    (h : Run (guarded (fun r op => Whole op ∧ Orderly r op) (ofFun step)) { queue := { maxBytes } } ops r) : r.Fifo := by
  refine (Run.invariant (I := Inv) ⟨[], rfl, holds_new maxBytes⟩ ?_ h).fifo
  rintro t op t' ht ⟨⟨hwhole, hop⟩, rfl⟩
  exact ht.step hwhole hop

/-- A message numbered `i`. -/
def numbered (i : ℕ) : MqttMessage := { topic := ascii "register/REG-01/telemetry", payload := decimal i }

/-- `n` messages in one millisecond, a restart, and a flush. -/
def burst (n : ℕ) : List QueueOp :=
  (List.range n).map (fun i => .enqueue 1700000000000 .done (numbered i)) ++ [.restart, .tryFlush (fun _ => true) 100]

theorem fifo_run_ten : ((burst 10).foldl step {}).Fifo :=
  fifo_run (Meets.run (by decide +kernel))

/-- The times of the calls of `enqueue`. -/
def times (ops : List QueueOp) : List Int :=
  ops.filterMap fun op =>
    match op with
    | .enqueue ts _ _ => some ts
    | _ => none

/-- The eleventh message of a millisecond is listed before the third. -/
theorem eleventh_overtakes : ¬ ∀ ops : List QueueOp, (∀ op ∈ ops, Whole op) → (times ops).Pairwise (· ≤ ·) →
    (ops.foldl step {}).Fifo := by
  intro hclaim
  obtain ⟨rest, hrest, -⟩ := hclaim (burst 11) (by decide +kernel) (by decide +kernel)
  have hprefix : ((burst 11).foldl step {}).published <+: ((burst 11).foldl step {}).enqueued := ⟨rest, hrest.symm⟩
  revert hprefix
  decide +kernel

end QueueRun
end Drawer.Iot
