import Drawer.Proofs.QueueOrder
import Drawer.Spec.IotClient

/-! The client loses nothing. A message that it has accepted has been published or is queued, through
restarts and wherever the process ends in a flush; only there can a message be published twice. The
names of the files are new as long as the clock does not go back and, from one process to the next,
moves on. -/

namespace Drawer.Iot
open Text Transition DiskQueue

/-! ### Names -/

theorem minus_notMem_decimal (n : ℕ) : 45 ∉ decimal n := by
  intro h
  rw [decimal_eq, if_pos (Int.natCast_nonneg n)] at h
  have hdigit := isDigit_of_mem_digits h
  revert hdigit
  decide

theorem fileName_inj {ts ts' : Int} {seq seq' : UInt64} (h : fileName ts seq = fileName ts' seq') : ts = ts' ∧ seq = seq' := by
  have hmark : ascii "-" = [45] := rfl
  have hclean : ∀ seq : UInt64, 45 ∉ decimal seq.toNat ++ ascii ".msg" := fun seq hmem => by
    rcases List.mem_append.mp hmem with hmem | hmem
    · exact minus_notMem_decimal _ hmem
    · revert hmem
      decide
  simp only [fileName, hmark, List.append_assoc, List.singleton_append] at h
  obtain ⟨hts, hseq⟩ := append_cons_inj_right (hclean seq) (hclean seq') (List.append_cancel_left h)
  exact ⟨decimal_injective hts, UInt64.toNat_inj.mp (Int.ofNat.inj (decimal_injective (List.append_cancel_right hseq)))⟩

/-! ### The queue -/

theorem Holds.queued {q : DiskQueue} {msgs : List MqttMessage} (h : Holds q msgs) :
    q.files.filterMap (fun name => (readFile (q.dir.lookup name)).toOption.join) = msgs := by
  have hmap := congrArg (List.filterMap fun e : Except Exn (Option MqttMessage) => e.toOption.join) h.reads
  rw [List.filterMap_map, List.filterMap_map] at hmap
  exact hmap.trans (by simp [Function.comp_def, Except.toOption])

/-- A new process finds what is queued, in the order of the names. -/
theorem Holds.restarted {q : DiskQueue} {msgs : List MqttMessage} (h : Holds q msgs) :
    ∃ msgs', msgs'.Perm msgs ∧ Holds q.restart msgs' := by
  have hfiles : q.restart.files.Perm q.files := (List.perm_insertionSort _ _).trans h.perm.symm
  have hreads : ∀ name ∈ q.restart.files, ∃ m, readFile (q.dir.lookup name) = .ok (some m) := by
    intro name hname
    have hmem : readFile (q.dir.lookup name) ∈ q.files.map fun name => readFile (q.dir.lookup name) :=
      List.mem_map_of_mem (hfiles.mem_iff.mp hname)
    rw [h.reads] at hmem
    obtain ⟨m, -, hm⟩ := List.mem_map.mp hmem
    exact ⟨m, hm.symm⟩
  set read := fun name => (readFile (q.dir.lookup name)).toOption.join with hread
  refine ⟨q.restart.files.filterMap read, ?_, ?_, fun name => ?_, ?_⟩
  · rw [← h.queued]
    exact hfiles.filterMap read
  · exact hfiles.nodup_iff.mpr h.nodup
  · rw [hfiles.mem_iff]
    exact h.listed name
  · change q.restart.files.map (fun name => readFile (q.dir.lookup name)) = _
    revert hreads
    induction q.restart.files with
    | nil => exact fun _ => rfl
    | cons name names ih =>
      intro hreads
      obtain ⟨m, hm⟩ := hreads name List.mem_cons_self
      have hone : read name = some m := by rw [hread]; dsimp only; rw [hm]; rfl
      rw [List.filterMap_cons_some hone, List.map_cons, List.map_cons, hm, ih fun n hn => hreads n (List.mem_cons_of_mem _ hn)]

theorem tryFlush_holds (answer : ℕ → Bool) (maxMsgs : Int32) {q : DiskQueue} {msgs : List MqttMessage} (h : Holds q msgs) :
    ∃ left, msgs = (q.tryFlush answer maxMsgs).published ++ left ∧ Holds (q.tryFlush answer maxMsgs).queue left := by
  obtain ⟨sent, left, hsplit, hsent, hleft⟩ := flushLoop_holds answer maxMsgs rfl h []
  rw [List.nil_append] at hsent
  refine ⟨left, ?_, hleft⟩
  rw [hsplit, tryFlush, hsent]

/-- Of the flush that the process does not survive, the last message may be both published and queued. -/
theorem killedFlush_holds (answer : ℕ → Bool) (n : Fin 100) {q : DiskQueue} {msgs : List MqttMessage} (h : Holds q msgs) :
    ∃ sent left last, msgs = sent ++ left ∧ (q.killedFlush answer n).published = sent ++ last ∧ (∀ m ∈ last, m ∈ left) ∧
      Holds (q.killedFlush answer n).queue left := by
  obtain ⟨left, hsplit, hleft⟩ := tryFlush_holds answer (Int32.ofNat n) h
  refine ⟨_, left, _, hsplit, rfl, fun m hm => ?_, hleft⟩
  rw [← hleft.queued]
  split_ifs at hm with hanswer
  · obtain ⟨name, hname, hread⟩ := Option.bind_eq_some_iff.mp (Option.mem_toList.mp hm)
    exact List.mem_filterMap.mpr ⟨name, List.mem_of_mem_head? hname, hread⟩
  · cases hm

/-! ### Runs -/

namespace IotRun

/-- A message that may have to be queued keeps to its lines and fields, and its file is written whole or not at all. It
comes no earlier than the last, and later than all that the last process queued; fewer than `2 ^ 64` are queued. -/
def Timely (opt : IoTOptions) (r : IotRun) : IotOp → Prop
  | .publish report _ _ ts w => Framed (opt.message report) ∧ w.Whole ∧ r.clock ≤ ts ∧ r.begun < ts ∧
      r.queue.seq.toNat + 1 < 2 ^ 64
  | _ => True

/-- The files were named when this process or one before it queued their messages. -/
structure Named (r : IotRun) : Prop where
  names : ∀ name ∈ r.queue.dir, ∃ ts seq, name = fileName ts seq ∧ ts ≤ r.clock ∧ (r.begun < ts → seq < r.queue.seq)
  begun : r.begun ≤ r.clock

theorem Named.fresh {r : IotRun} (h : Named r) {ts : Int} (hts : r.begun < ts) : fileName ts r.queue.seq ∉ r.queue.dir := by
  intro hmem
  obtain ⟨ts', seq', hname, -, hseq⟩ := h.names _ hmem
  obtain ⟨rfl, hsame⟩ := fileName_inj hname
  have hlt := hseq hts
  rw [hsame] at hlt
  exact UInt64.lt_irrefl _ hlt

theorem Named.fewer {r r' : IotRun} (h : Named r) (hdir : ∀ name ∈ r'.queue.dir, name ∈ r.queue.dir)
    (hseq : r'.queue.seq = r.queue.seq) (hclock : r'.clock = r.clock) (hbegun : r'.begun = r.begun) : Named r' where
  names name hname := by
    obtain ⟨ts, seq, heq, hts, hold⟩ := h.names name (hdir name hname)
    exact ⟨ts, seq, heq, by rw [hclock]; exact hts, fun hnew => by rw [hseq]; exact hold (by rw [← hbegun]; exact hnew)⟩
  begun := by
    rw [hbegun, hclock]
    exact h.begun

/-- What the client owes: what it has accepted has been published or is queued, and nothing else has been or is. -/
structure Owes (r : IotRun) (waiting : List MqttMessage) : Prop where
  holds : Holds r.queue waiting
  named : Named r
  kept : r.accepted.Subperm (r.published ++ waiting)
  known : ∀ m ∈ r.published ++ waiting, m ∈ r.accepted

theorem flushLoop_kept (answer : ℕ → Bool) (maxMsgs : Int32) (names : List Bytes) (published : List MqttMessage) (q : DiskQueue) :
    (∀ name ∈ (flushLoop answer maxMsgs names published q).queue.dir, name ∈ q.dir) ∧
      (flushLoop answer maxMsgs names published q).queue.seq = q.seq := by
  induction names generalizing published q with
  | nil => exact ⟨fun _ h => h, rfl⟩
  | cons name rest ih =>
    have hremoved : ∀ other ∈ (q.removeHead name).dir, other ∈ q.dir := fun other h => (AList.mem_erase.mp h).2
    rw [flushLoop]
    by_cases hmax : published.length < maxMsgs.toInt
    · rw [if_pos hmax]
      cases readFile (q.dir.lookup name) with
      | error e => exact ⟨fun _ h => h, rfl⟩
      | ok read =>
        cases read with
        | none => exact ⟨fun other h => hremoved other ((ih _ _).1 other h), (ih _ _).2⟩
        | some m =>
          dsimp only
          by_cases hanswer : answer published.length = true
          · rw [if_pos hanswer]
            obtain ⟨hdir, hseq⟩ := ih (published ++ [m])
              { q.removeHead name with bytes := q.bytes - UInt64.ofNat (fileSize (q.dir.lookup name)) }
            exact ⟨fun other h => hremoved other (hdir other h), hseq⟩
          · rw [if_neg hanswer]
            exact ⟨fun _ h => h, rfl⟩
    · rw [if_neg hmax]
      exact ⟨fun _ h => h, rfl⟩

theorem enqueue_kept {q : DiskQueue} (ts : Int) (m : MqttMessage) {w : Write} (hwhole : w.Whole)
    (hseq : q.seq.toNat + 1 < 2 ^ 64) :
    (∀ name ∈ (q.enqueue ts w m).2.dir, name ∈ q.dir ∨ name = fileName ts q.seq ∧ q.seq < (q.enqueue ts w m).2.seq) ∧
      q.seq ≤ (q.enqueue ts w m).2.seq := by
  have hnext : q.seq < q.seq + 1 := by
    rw [UInt64.lt_iff_toNat_lt, UInt64.toNat_add, UInt64.toNat_one, Nat.mod_eq_of_lt hseq]
    exact Nat.lt_succ_self _
  unfold DiskQueue.enqueue
  split_ifs with hfull
  · exact ⟨fun _ h => Or.inl h, UInt64.le_refl _⟩
  · cases w with
    | refused => exact ⟨fun _ h => Or.inl h, UInt64.le_of_lt hnext⟩
    | cut n => exact hwhole.elim
    | lost n => exact hwhole.elim
    | done =>
      refine ⟨fun name h => ?_, UInt64.le_of_lt hnext⟩
      rcases (AList.mem_insert _).mp h with rfl | hold
      · exact Or.inr ⟨rfl, hnext⟩
      · exact Or.inl hold

theorem Named.enqueue {r : IotRun} (h : Named r) {ts : Int} {w : Write} {m : MqttMessage} (hwhole : w.Whole)
    (hclock : r.clock ≤ ts) (hseq : r.queue.seq.toNat + 1 < 2 ^ 64) {accepted : List MqttMessage} :
    Named { r with queue := (r.queue.enqueue ts w m).2, accepted, clock := ts } where
  names name hname := by
    obtain ⟨hdir, hle⟩ := enqueue_kept ts m hwhole hseq
    rcases hdir name hname with hold | ⟨rfl, hlt⟩
    · obtain ⟨ts', seq', heq, hts', hnew⟩ := h.names name hold
      exact ⟨ts', seq', heq, hts'.trans hclock, fun hlater => UInt64.lt_of_lt_of_le (hnew hlater) hle⟩
    · exact ⟨ts, r.queue.seq, rfl, le_rfl, fun _ => hlt⟩
  begun := h.begun.trans hclock

theorem Named.restart {r : IotRun} (h : Named r) : Named r.restart where
  names name hname := by
    obtain ⟨ts, seq, heq, hts, -⟩ := h.names name hname
    exact ⟨ts, seq, heq, hts, fun hlater => absurd hts (not_le.mpr hlater)⟩
  begun := le_rfl

variable {r : IotRun} {waiting : List MqttMessage}

theorem Owes.publish (h : Owes r waiting) {m : MqttMessage} (connected taken : Bool) {ts : Int} {w : Write} (hm : Framed m)
    (hwhole : w.Whole) (hclock : r.clock ≤ ts) (hbegun : r.begun < ts) (hseq : r.queue.seq.toNat + 1 < 2 ^ 64) :
    ∃ waiting', Owes (r.publish m connected taken ts w) waiting' ∧
      (r.accepted.Perm (r.published ++ waiting) →
        (r.publish m connected taken ts w).accepted.Perm ((r.publish m connected taken ts w).published ++ waiting')) := by
  unfold IotRun.publish
  have hswap : (r.published ++ [m] ++ waiting).Perm (r.published ++ waiting ++ [m]) := by
    rw [List.append_assoc, List.append_assoc]
    exact List.perm_append_comm.append_left _
  split_ifs with htaken
  · refine ⟨waiting, ⟨h.holds, h.named.fewer (fun _ h => h) rfl rfl rfl, ?_, fun x hx => ?_⟩, fun hperm => ?_⟩
    · exact ((List.subperm_append_right [m]).mpr h.kept).trans hswap.symm.subperm
    · rcases List.mem_append.mp (hswap.mem_iff.mp hx) with hx | hx
      · exact List.mem_append_left _ (h.known x hx)
      · exact List.mem_append_right _ hx
    · exact (hperm.append_right [m]).trans hswap.symm
  · dsimp only
    cases hok : (r.queue.enqueue ts w m).1 with
    | true =>
      have hfresh : fileName ts r.queue.seq ∉ r.queue.files := fun hmem =>
        h.named.fresh hbegun ((h.holds.listed _).mpr hmem)
      refine ⟨waiting ++ [m], ⟨h.holds.enqueue hok hwhole hfresh hm, h.named.enqueue hwhole hclock hseq, ?_, fun x hx => ?_⟩,
        fun hperm => ?_⟩
      · rw [← List.append_assoc]
        exact (List.subperm_append_right [m]).mpr h.kept
      · rw [← List.append_assoc] at hx
        rcases List.mem_append.mp hx with hx | hx
        · exact List.mem_append_left _ (h.known x hx)
        · exact List.mem_append_right _ hx
      · rw [← List.append_assoc]
        exact hperm.append_right [m]
    | false =>
      exact ⟨waiting, ⟨h.holds.enqueue_failed hok hwhole, h.named.enqueue hwhole hclock hseq, h.kept, h.known⟩, fun hperm => hperm⟩

theorem Owes.restart (h : Owes r waiting) : ∃ waiting', waiting'.Perm waiting ∧ Owes r.restart waiting' := by
  obtain ⟨waiting', hperm, hholds⟩ := h.holds.restarted
  have hall := hperm.append_left r.published
  exact ⟨waiting', hperm, hholds, h.named.restart, h.kept.trans hall.symm.subperm, fun m hm => h.known m (hall.mem_iff.mp hm)⟩

theorem Owes.round (h : Owes r waiting) (answer : ℕ → Bool) (maxMsgs : Int32) :
    ∃ waiting', Owes { r with queue := (r.queue.tryFlush answer maxMsgs).queue
                              published := r.published ++ (r.queue.tryFlush answer maxMsgs).published } waiting' ∧
      r.published ++ waiting = r.published ++ (r.queue.tryFlush answer maxMsgs).published ++ waiting' := by
  obtain ⟨left, hsplit, hleft⟩ := tryFlush_holds answer maxMsgs h.holds
  have hall : r.published ++ waiting = r.published ++ (r.queue.tryFlush answer maxMsgs).published ++ left := by
    rw [List.append_assoc, ← hsplit]
  obtain ⟨hdir, hseq⟩ := flushLoop_kept answer maxMsgs r.queue.files [] r.queue
  exact ⟨left, ⟨hleft, h.named.fewer hdir hseq rfl rfl, by rw [← hall]; exact h.kept,
    fun m hm => h.known m (by rw [hall]; exact hm)⟩, hall⟩

theorem Owes.killed (h : Owes r waiting) (answer : ℕ → Bool) (n : Fin 100) :
    ∃ waiting', Owes { r with queue := (r.queue.killedFlush answer n).queue
                              published := r.published ++ (r.queue.killedFlush answer n).published } waiting' := by
  obtain ⟨sent, left, last, hsplit, hpublished, hlast, hleft⟩ := killedFlush_holds answer n h.holds
  obtain ⟨hdir, hseq⟩ := flushLoop_kept answer (Int32.ofNat n) r.queue.files [] r.queue
  refine ⟨left, hleft, h.named.fewer hdir hseq rfl rfl, ?_, fun m hm => ?_⟩
  · refine h.kept.trans ?_
    dsimp only
    rw [hpublished, hsplit, List.append_assoc, List.append_assoc]
    exact ((List.sublist_append_right last left).append_left sent).append_left r.published |>.subperm
  · dsimp only at hm
    rw [hpublished] at hm
    refine h.known m ?_
    rw [hsplit]
    simp only [List.mem_append] at hm ⊢
    rcases hm with (hm | hm | hm) | hm
    · exact Or.inl hm
    · exact Or.inr (Or.inl hm)
    · exact Or.inr (Or.inr (hlast m hm))
    · exact Or.inr (Or.inr hm)

/-- The process is not killed in the middle of a flush. -/
def Unkilled : IotOp → Prop
  | .killed _ _ => False
  | _ => True

theorem Owes.step (opt : IoTOptions) (h : Owes r waiting) {op : IotOp} (hop : Timely opt r op) :
    ∃ waiting', Owes (r.step opt op) waiting' ∧
      (Unkilled op → r.accepted.Perm (r.published ++ waiting) →
        (r.step opt op).accepted.Perm ((r.step opt op).published ++ waiting')) := by
  cases op with
  | publish report connected taken ts w =>
    obtain ⟨hm, hwhole, hclock, hbegun, hseq⟩ := hop
    obtain ⟨waiting', howes, hperm⟩ := h.publish connected taken hm hwhole hclock hbegun hseq
    exact ⟨waiting', howes, fun _ => hperm⟩
  | round connected answer =>
    cases connected with
    | false => exact ⟨waiting, h, fun _ hperm => hperm⟩
    | true =>
      obtain ⟨waiting', howes, hall⟩ := h.round answer 100
      exact ⟨waiting', howes, fun _ hperm => hperm.trans (.of_eq hall)⟩
  | restart =>
    obtain ⟨waiting', hsame, howes⟩ := h.restart
    exact ⟨waiting', howes, fun _ hperm => hperm.trans (hsame.symm.append_left _)⟩
  | killed answer n =>
    obtain ⟨left, hkilled⟩ := h.killed answer n
    obtain ⟨waiting', -, howes⟩ := hkilled.restart
    exact ⟨waiting', howes, fun hno => hno.elim⟩

/-- Every accepted message has been published or is queued, and no other; and each of them once, if the process was never
killed between publishing a message and removing its file. -/
theorem nothing_lost {opt : IoTOptions} {ops : List IotOp}
    (h : Run (guarded (Timely opt) (ofFun (step opt))) { queue := { maxBytes := opt.maxQueueBytes } } ops r) :
    r.accepted.Subperm (r.published ++ r.queued) ∧ (∀ m ∈ r.published ++ r.queued, m ∈ r.accepted) ∧
      ((∀ op ∈ ops, Unkilled op) → r.accepted.Perm (r.published ++ r.queued)) := by
  have hinv : ∃ waiting, Owes r waiting ∧ ((∀ op ∈ ops, Unkilled op) → r.accepted.Perm (r.published ++ waiting)) := by
    induction h with
    | nil =>
      refine ⟨[], ⟨holds_new _, ⟨fun name hname => ?_, le_rfl⟩, List.Subperm.refl _, fun m hm => hm⟩, fun _ => List.Perm.refl _⟩
      exact absurd hname (AList.notMem_empty name)
    | @snoc ops s op s' _ hstep ih =>
      obtain ⟨hop, rfl⟩ := hstep
      obtain ⟨waiting, howes, hperm⟩ := ih
      obtain ⟨waiting', howes', hperm'⟩ := howes.step opt hop
      exact ⟨waiting', howes', fun hall =>
        hperm' (hall op List.mem_concat_self) (hperm fun o ho => hall o (List.mem_append_left _ ho))⟩
  obtain ⟨waiting, howes, hperm⟩ := hinv
  have hqueued : r.queued = waiting := howes.holds.queued
  rw [hqueued]
  exact ⟨howes.kept, howes.known, hperm⟩

def sampleOptions : IoTOptions := { topicPrefix := ascii "register/REG-01", thingName := ascii "REG-01" }

/-- A report that is queued, a process that ends as it publishes it, and the round of the next one. -/
def sampleOps : List IotOp :=
  [.publish (.health (ascii "ok")) false false 1700000000000 .done, .killed (fun _ => true) 0, .round true fun _ => true]

/-- The report is published twice. -/
theorem nothing_lost_sample : ((sampleOps.foldl (step sampleOptions) {}).published.length = 2) ∧
    (sampleOps.foldl (step sampleOptions) {}).accepted.Subperm
      ((sampleOps.foldl (step sampleOptions) {}).published ++ (sampleOps.foldl (step sampleOptions) {}).queued) := by
  have hmeets : Meets (Timely sampleOptions) (step sampleOptions) {} sampleOps :=
    ⟨⟨by decide, trivial, by decide, by decide, by decide⟩, trivial, trivial, trivial⟩
  exact ⟨by decide +kernel, (nothing_lost hmeets.run).1⟩

end IotRun
end Drawer.Iot
