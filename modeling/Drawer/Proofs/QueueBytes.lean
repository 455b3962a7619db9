import Drawer.Lib.Transition
import Drawer.Sanity.DiskQueue

/-! The byte count of the disk queue. A file that leaves the queue delivered is
taken off the count, one that leaves it unread is not, and a file written under a
listed name is counted twice. -/

namespace Drawer.Iot
open Text Transition

namespace DiskQueue

/-- The sizes of the files listed, together. -/
def total (q : DiskQueue) : ℕ := (q.files.map fun name => fileSize (q.dir.lookup name)).sum

/-- The count is right, and a queue that is empty takes any message that fits. -/
structure Accounts (q : DiskQueue) : Prop where
  bytes : q.bytes = UInt64.ofNat q.total
  accepts : q.files = [] → ∀ ts m, need m ≤ q.maxBytes → (q.enqueue ts .done m).1 = true

theorem accounts_iff {q : DiskQueue} : q.Accounts ↔ q.bytes = UInt64.ofNat q.total := by
  refine ⟨Accounts.bytes, fun h => ⟨h, fun hempty ts m hm => ?_⟩⟩
  have hzero : q.bytes = 0 := by simp [h, total, hempty]
  have hfits : ¬ q.maxBytes < q.bytes + need m := by simpa [hzero] using hm
  simp [enqueue, hfits]

/-- How many of these files a flush can read. -/
def readable (dir : Dict Bytes File) (names : List Bytes) : ℕ :=
  names.countP fun name => (readFile (dir.lookup name)).toOption.join.isSome

/-- A flush that has already sent `sent` messages gets past these files. -/
structure GetsPast (answer : ℕ → Bool) (maxMsgs : Int32) (sent : ℕ) (dir : Dict Bytes File) (names : List Bytes) : Prop where
  read : ∀ name ∈ names, ∃ m, readFile (dir.lookup name) = .ok m
  room : ((sent + readable dir names : ℕ) : Int) < maxMsgs.toInt
  taken : ∀ k, sent ≤ k → k < sent + readable dir names → answer k = true

/-- Every file that the flush drops unread is empty. -/
def DropsEmpty (answer : ℕ → Bool) (maxMsgs : Int32) (sent : ℕ) (dir : Dict Bytes File) (names : List Bytes) : Prop :=
  ∀ before name after, names = before ++ name :: after → GetsPast answer maxMsgs sent dir before →
    readFile (dir.lookup name) = .ok none → fileSize (dir.lookup name) = 0

theorem sum_ofNat (l : List ℕ) : (l.map UInt64.ofNat).sum = UInt64.ofNat l.sum := by
  induction l with
  | nil => rfl
  | cons n l ih => rw [List.map_cons, List.sum_cons, List.sum_cons, ih, UInt64.ofNat_add]

theorem init_accounts (q : DiskQueue) : q.init.bytes = UInt64.ofNat q.init.total := by
  have hperm : q.init.files.Perm q.dir.keys := List.perm_insertionSort _ _
  have htotal : q.init.total = (q.dir.keys.map fun name => fileSize (q.dir.lookup name)).sum :=
    (hperm.map fun name => fileSize (q.dir.lookup name)).sum_eq
  rw [htotal, ← sum_ofNat, List.map_map]
  rfl

theorem init_nodup (q : DiskQueue) : q.init.files.Nodup :=
  (List.perm_insertionSort _ _).nodup_iff.mpr q.dir.nodupKeys

/-! ### A flush -/

section Head
variable {q : DiskQueue} {name : Bytes} {rest : List Bytes} (hfiles : q.files = name :: rest) (hnodup : q.files.Nodup)
include hfiles hnodup

theorem lookup_removeHead {other : Bytes} (h : other ∈ rest) : (q.removeHead name).dir.lookup other = q.dir.lookup other := by
  have hname : name ∉ rest := (List.nodup_cons.mp (hfiles ▸ hnodup)).1
  refine AList.lookup_erase_ne ?_
  rintro rfl
  exact hname h

theorem total_removeHead : q.total = (q.removeHead name).total + fileSize (q.dir.lookup name) := by
  have hrest : (q.removeHead name).files = rest := by simp [removeHead, hfiles]
  have hmap : rest.map (fun other => fileSize ((q.removeHead name).dir.lookup other)) =
      rest.map fun other => fileSize (q.dir.lookup other) :=
    List.map_congr_left fun other hother => by rw [lookup_removeHead hfiles hnodup hother]
  rw [total, total, hrest, hmap, hfiles, List.map_cons, List.sum_cons, Nat.add_comm]

theorem readable_removeHead {before : List Bytes} (h : before ⊆ rest) :
    readable (q.removeHead name).dir before = readable q.dir before :=
  List.countP_congr fun other hother => by rw [lookup_removeHead hfiles hnodup (h hother)]

/-- What a flush gets past after its first file, it gets past from the start. -/
theorem GetsPast.cons {answer : ℕ → Bool} {maxMsgs : Int32} {sent sent' : ℕ} {m : Option MqttMessage}
    (hread : readFile (q.dir.lookup name) = .ok m) (hsent : sent' = sent + if m.isSome then 1 else 0)
    (hanswer : m.isSome → answer sent = true) {before : List Bytes} (hsub : before ⊆ rest)
    (h : GetsPast answer maxMsgs sent' (q.removeHead name).dir before) : GetsPast answer maxMsgs sent q.dir (name :: before) := by
  have hcount : sent + readable q.dir (name :: before) = sent' + readable (q.removeHead name).dir before := by
    rw [readable_removeHead hfiles hnodup hsub, hsent, readable, List.countP_cons, hread]
    cases m with
    | none => simp [Except.toOption, readable]
    | some m =>
      simp [Except.toOption, readable]
      omega
  refine ⟨fun other hother => ?_, ?_, fun k hk hlt => ?_⟩
  · rcases List.mem_cons.mp hother with rfl | hother
    · exact ⟨m, hread⟩
    · obtain ⟨m', hm'⟩ := h.read other hother
      exact ⟨m', by rwa [lookup_removeHead hfiles hnodup (hsub hother)] at hm'⟩
  · rw [hcount]
    exact h.room
  · rw [hcount] at hlt
    by_cases hfirst : k < sent'
    · have hm : m.isSome = true := by
        by_contra hm
        rw [if_neg hm] at hsent
        omega
      rw [if_pos hm] at hsent
      obtain rfl : k = sent := by omega
      exact hanswer hm
    · exact h.taken k (by omega) hlt

theorem DropsEmpty.tail {answer : ℕ → Bool} {maxMsgs : Int32} {sent sent' : ℕ} {m : Option MqttMessage}
    (hread : readFile (q.dir.lookup name) = .ok m) (hsent : sent' = sent + if m.isSome then 1 else 0)
    (hanswer : m.isSome → answer sent = true) (h : DropsEmpty answer maxMsgs sent q.dir (name :: rest)) :
    DropsEmpty answer maxMsgs sent' (q.removeHead name).dir rest := by
  rintro before other after rfl hpast hunread
  rw [lookup_removeHead hfiles hnodup (by simp)] at hunread ⊢
  refine h (name :: before) other after rfl (GetsPast.cons hfiles hnodup hread hsent hanswer ?_ hpast) hunread
  exact List.subset_append_left _ _

end Head

/-- A flush that drops only empty files keeps the count right. -/
theorem flushLoop_accounts (answer : ℕ → Bool) (maxMsgs : Int32) {names : List Bytes} {q : DiskQueue} (hfiles : q.files = names)
    (hnodup : q.files.Nodup) (hbytes : q.bytes = UInt64.ofNat q.total) (published : List MqttMessage)
    (hdrops : DropsEmpty answer maxMsgs published.length q.dir names) :
    (flushLoop answer maxMsgs names published q).queue.files.Nodup ∧
      (flushLoop answer maxMsgs names published q).queue.bytes =
        UInt64.ofNat (flushLoop answer maxMsgs names published q).queue.total := by
  induction names generalizing q published with
  | nil => exact ⟨hnodup, hbytes⟩
  | cons name rest ih =>
    have hrest : (q.removeHead name).files = rest := by simp [removeHead, hfiles]
    have hnodup' : (q.removeHead name).files.Nodup := hrest ▸ (List.nodup_cons.mp (hfiles ▸ hnodup)).2
    have htotal := total_removeHead hfiles hnodup
    by_cases hroom : (published.length : Int) < maxMsgs.toInt
    · cases hread : readFile (q.dir.lookup name) with
      | error e => simpa only [flushLoop, hroom, hread, if_true] using ⟨hnodup, hbytes⟩
      | ok m =>
        cases m with
        | none =>
          simp only [flushLoop, hroom, hread, if_true]
          have hempty : fileSize (q.dir.lookup name) = 0 :=
            hdrops [] name rest rfl ⟨by simp, by simpa [readable] using hroom, by simp [readable]; omega⟩ hread
          have hbytes' : (q.removeHead name).bytes = UInt64.ofNat (q.removeHead name).total := by
            rw [← Nat.add_zero (q.removeHead name).total, ← hempty, ← htotal]
            exact hbytes
          exact ih hrest hnodup' hbytes' published (hdrops.tail hfiles hnodup hread (by simp) (by simp))
        | some m =>
          by_cases hanswer : answer published.length = true
          · simp only [flushLoop, hroom, hread, hanswer, if_true]
            set q' : DiskQueue :=
              { q.removeHead name with bytes := q.bytes - UInt64.ofNat (fileSize (q.dir.lookup name)) } with hq'
            have hbytes' : q'.bytes = UInt64.ofNat q'.total := by
              rw [hq', hbytes, htotal, UInt64.ofNat_add, UInt64.add_sub_cancel]
              rfl
            have hdrops' : DropsEmpty answer maxMsgs (published ++ [m]).length q'.dir rest :=
              hdrops.tail hfiles hnodup hread (by simp) fun _ => hanswer
            exact ih (q := q') hrest hnodup' hbytes' (published ++ [m]) hdrops'
          · simpa only [flushLoop, hroom, hread, hanswer, if_true, if_false] using ⟨hnodup, hbytes⟩
    · simpa only [flushLoop, hroom, if_false] using ⟨hnodup, hbytes⟩

theorem dropsEmpty_of_forall {answer : ℕ → Bool} {maxMsgs : Int32} {sent : ℕ} {dir : Dict Bytes File} {names : List Bytes}
    (h : ∀ name ∈ names, readFile (dir.lookup name) = .ok none → fileSize (dir.lookup name) = 0) :
    DropsEmpty answer maxMsgs sent dir names := by
  rintro before name after rfl - hunread
  exact h name (by simp) hunread

/-- A file written under a name that is not listed counts once it is listed. -/
theorem enqueue_accounts {q : DiskQueue} (hnodup : q.files.Nodup) (hbytes : q.bytes = UInt64.ofNat q.total) {ts : Int} {w : Write}
    {m : MqttMessage}
    (hname : w = .refused ∨ q.maxBytes < q.bytes + need m ∨ fileName ts q.seq ∉ q.files ∧ ∀ n, w ≠ .lost n) :
    (q.enqueue ts w m).2.files.Nodup ∧ (q.enqueue ts w m).2.bytes = UInt64.ofNat (q.enqueue ts w m).2.total := by
  by_cases hfull : q.maxBytes < q.bytes + need m
  · simp only [enqueue, hfull, if_true]
    exact ⟨hnodup, hbytes⟩
  · simp only [enqueue, hfull, if_false]
    -- a file that is not listed can become anything
    have hold : ∀ file, fileName ts q.seq ∉ q.files →
        (q.files.map fun name => fileSize ((q.dir.insert (fileName ts q.seq) file).lookup name)).sum = q.total := by
      intro file hnew
      have hmap : (q.files.map fun name => fileSize ((q.dir.insert (fileName ts q.seq) file).lookup name)) =
          q.files.map fun name => fileSize (q.dir.lookup name) := by
        refine List.map_congr_left fun name hmem => ?_
        rw [AList.lookup_insert_ne]
        rintro rfl
        exact hnew hmem
      rw [hmap, total]
    cases w with
    | refused => exact ⟨hnodup, hbytes⟩
    | cut n =>
      have hnew := ((hname.resolve_left nofun).resolve_left hfull).1
      refine ⟨hnodup, ?_⟩
      rw [total, hold _ hnew]
      exact hbytes
    | lost n => exact absurd rfl (((hname.resolve_left nofun).resolve_left hfull).2 n)
    | done =>
      have hnew := ((hname.resolve_left nofun).resolve_left hfull).1
      have hsize : fileSize (some { data := fileText m }) = (header m).length + m.payload.length + 1 := by
        simp [fileSize, fileText, Nat.add_assoc]
      refine ⟨List.concat_eq_append ▸ hnodup.concat hnew, ?_⟩
      dsimp only
      rw [total, List.map_append, List.sum_append, hold _ hnew, List.map_singleton, List.sum_singleton, AList.lookup_insert,
        hsize, UInt64.ofNat_add, hbytes]
      rfl

end DiskQueue

namespace QueueRun
open DiskQueue

/-- A message that is written comes under a name that is not listed, and its file does not break off unnoticed; a flush
drops only empty files unread. -/
def KeepsCount (r : QueueRun) : QueueOp → Prop
  | .enqueue ts w m => w = .refused ∨ r.queue.maxBytes < r.queue.bytes + need m ∨
      fileName ts r.queue.seq ∉ r.queue.files ∧ ∀ n, w ≠ .lost n
  | .tryFlush answer maxMsgs => DropsEmpty answer maxMsgs 0 r.queue.dir r.queue.files
  | _ => True

/-- The count is right in every run that writes under new names and drops only empty files, over any directory. -/
theorem accounts_run {maxBytes : UInt64} {dir : Dict Bytes File} {ops : List QueueOp} {r : QueueRun}
    (h : Run (guarded KeepsCount (ofFun step)) { queue := { maxBytes, dir } } ops r) : r.queue.Accounts := by
  have hinv := Run.invariant (I := fun r : QueueRun => r.queue.files.Nodup ∧ r.queue.bytes = UInt64.ofNat r.queue.total)
    ⟨List.nodup_nil, rfl⟩ ?_ h
  · exact accounts_iff.mpr hinv.2
  · rintro t op t' ⟨hnodup, hbytes⟩ ⟨hop, rfl⟩
    cases op with
    | init => exact ⟨init_nodup _, init_accounts _⟩
    | restart => exact ⟨init_nodup _, init_accounts _⟩
    | enqueue ts w m => exact enqueue_accounts hnodup hbytes hop
    | tryFlush answer maxMsgs => exact flushLoop_accounts answer maxMsgs rfl hnodup hbytes [] hop

def littered (data : Bytes) : Dict Bytes File := (∅ : Dict Bytes File).insert (ascii "q-0-0.msg") { data }

theorem accounts_run_littered :
    ([.init, .enqueue 1 .done {}, .tryFlush (fun _ => true) 100].foldl step { queue := { dir := littered [] } }).queue.Accounts :=
  accounts_run (Meets.run ⟨trivial, Or.inr (Or.inr ⟨by decide +kernel, fun _ => Write.noConfusion⟩),
    dropsEmpty_of_forall (by decide +kernel), trivial⟩)

/-- The file is dropped and its bytes stay on the count: the empty queue refuses a message that fits. -/
theorem unread_file_counted : ¬ ∀ (maxBytes : UInt64) (dir : Dict Bytes File) (ops : List QueueOp),
    (ops.foldl step { queue := { maxBytes, dir } }).queue.Accounts := by
  intro hclaim
  have hempty := (hclaim 8 (littered (ascii "junk")) [.init, .tryFlush (fun _ => true) 100]).accepts (by decide +kernel) 0 {}
    (by decide +kernel)
  revert hempty
  decide +kernel

end QueueRun
end Drawer.Iot
