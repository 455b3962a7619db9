import Drawer.Proofs.Grammar
import Drawer.Proofs.LogReplay
import Drawer.Proofs.Race
import Drawer.Spec.Till

/-! What the till pays over calls that race and processes that are killed. The busy flag keeps purchases apart, the
journal brings each to its end before the next, and the log remembers what has been bought. -/

namespace Drawer.Pos.Till
open Text Effect Journal Transition TxnEngine IdempotencyStore Router

variable {ι : Type} [DecidableEq ι] {calls : ι → Call} {e : Engine} {ttlHours : Int} {s s' : Till ι} {ev : TillEvent ι}
  {es : List (TillEvent ι)} {key : Bytes} {paid : List (ι × Int)}

/-! ### The busy flag -/

theorem gone_outside (p : Pc) : ¬ Inside (gone p) := by
  cases p <;> exact id

/-- At most one call holds the flag, while it is set; none outlives its process. -/
structure Flagged (s : Till ι) : Prop where
  excl : ∀ i j, Inside (s.pc i) → Inside (s.pc j) → i = j
  busy : ∀ i, Inside (s.pc i) → s.shared.busy = true
  down : s.serving = false → ∀ i, ¬ Inside (s.pc i)

def pendingPut (c : Call) : Put := { key := c.key, payloadHash := c.hash, now := c.pendingAt }

def donePut (c : Call) (t : Txn) : Put :=
  { key := c.key, payloadHash := c.hash, result := some (successJson t), now := c.doneAt }

/-- What a step of a call can do. -/
inductive Moves (c : Call) (sh : Shared) : Pc → Shared → Pc → Prop where
  | idle {p q : Pc} (hp : ¬ Inside p) (hq : ¬ Inside q) : Moves c sh p sh q
  | take (hfree : sh.busy = false) : Moves c sh .passed { sh with busy := true } .acquired
  | pend {q : Pc} (hq : q = .pended ∧ (pendingPut c).Recorded ∨ ¬ Inside q) :
      Moves c sh .acquired { sh with store := apply sh.store (.put (pendingPut c)) } q
  | buy {q : Pc} (hq : ¬ Buying q) : Moves c sh .pended sh q
  | release (t : Txn) : Moves c sh (.ran t) { sh with busy := false } (.cleared t)
  | record {t : Txn} {q : Pc} (hq : ¬ Inside q) :
      Moves c sh (.published t) { sh with store := apply sh.store (.put (donePut c t)) } q

theorem moves_step (c : Call) (sh : Shared) (p : Pc) : Moves c sh p (step c sh p).1 (step c sh p).2 := by
  cases p with
  | start =>
    unfold step
    dsimp only
    split <;> exact .idle id id
  | passed =>
    unfold step
    dsimp only
    split_ifs with hb
    · exact .idle id id
    · exact .take (by simpa using hb)
  | acquired =>
    unfold step
    dsimp only
    split
    · rename_i store hput
      obtain rfl : apply sh.store (.put (pendingPut c)) = store := congrArg Prod.fst hput
      exact .pend (Or.inl ⟨rfl, (writeLine_result _ _ _).mp (congrArg Prod.snd hput)⟩)
    · rename_i store ex hput
      obtain rfl : apply sh.store (.put (pendingPut c)) = store := congrArg Prod.fst hput
      exact .pend (Or.inr id)
  | pended =>
    unfold step
    dsimp only
    split <;> exact .buy (by simp [Buying])
  | ran t => exact .release t
  | cleared t =>
    unfold step
    dsimp only
    cases c.publisher <;> exact .idle id id
  | published t =>
    unfold step
    dsimp only
    split
    all_goals
      rename_i store hput
      obtain rfl : apply sh.store (.put (donePut c t)) = _ := congrArg Prod.fst hput
      exact .record id
  | replied status body => exact .idle id id
  | threw ex => exact .idle id id

theorem step_pended (c : Call) (sh : Shared) : (step c sh .pended).1 = sh := by
  unfold step
  dsimp only
  split <;> rfl

/-- What a step does about the flag: the call takes it, or it had it, or it has nothing to do with it. -/
theorem flag_step (c : Call) (sh : Shared) (p : Pc) :
    (sh.busy = false ∧ (step c sh p).1.busy = true) ∨
    (Inside p ∧ (Inside (step c sh p).2 → (step c sh p).1.busy = sh.busy)) ∨
    (¬ Inside p ∧ ¬ Inside (step c sh p).2 ∧ (step c sh p).1.busy = sh.busy) := by
  have hmoves := moves_step c sh p
  generalize (step c sh p).1 = sh', (step c sh p).2 = q at hmoves
  cases hmoves with
  | idle hp hq => exact Or.inr (Or.inr ⟨hp, hq, rfl⟩)
  | take hfree => exact Or.inl ⟨hfree, rfl⟩
  | pend hq =>
    exact Or.inr (Or.inl ⟨trivial, fun _ => rfl⟩)
  | buy hq => exact Or.inr (Or.inl ⟨trivial, fun _ => rfl⟩)
  | release t => exact Or.inr (Or.inl ⟨trivial, fun hin => absurd hin id⟩)
  | record hq => exact Or.inr (Or.inr ⟨id, hq, rfl⟩)

variable (calls) in
theorem flagged_step (h : Flagged s) (hserving : s.serving = true) (i : ι) (journal : List Txn) :
    Flagged { s with
      shared := (step (calls i) s.shared (s.pc i)).1
      pc := Function.update s.pc i (step (calls i) s.shared (s.pc i)).2
      journal } := by
  have hdown : s.serving = false → ∀ j, ¬ Inside (Function.update s.pc i (step (calls i) s.shared (s.pc i)).2 j) :=
    fun hdown => absurd (hdown.symm.trans hserving) Bool.false_ne_true
  rcases flag_step (calls i) s.shared (s.pc i) with ⟨hfree, hset⟩ | ⟨hin, hsame⟩ | ⟨-, hout, hsame⟩
  · -- nobody was inside
    have hself : ∀ j, Inside (Function.update s.pc i (step (calls i) s.shared (s.pc i)).2 j) → j = i := by
      intro j hj
      rcases update_cases (P := Inside) hj with ⟨hji, -⟩ | ⟨-, hj⟩
      · exact hji
      · exact absurd (hfree.symm.trans (h.busy j hj)) Bool.false_ne_true
    exact ⟨fun j k hj hk => (hself j hj).trans (hself k hk).symm, fun _ _ => hset, hdown⟩
  · have hself : ∀ j, Inside (Function.update s.pc i (step (calls i) s.shared (s.pc i)).2 j) → j = i := by
      intro j hj
      rcases update_cases (P := Inside) hj with ⟨hji, -⟩ | ⟨-, hj⟩
      · exact hji
      · exact h.excl j i hj hin
    refine ⟨fun j k hj hk => (hself j hj).trans (hself k hk).symm, fun j hj => ?_, hdown⟩
    obtain rfl := hself j hj
    dsimp only at hj
    rw [Function.update_self] at hj
    exact (hsame hj).trans (h.busy j hin)
  · have hother : ∀ j, Inside (Function.update s.pc i (step (calls i) s.shared (s.pc i)).2 j) → Inside (s.pc j) := by
      intro j hj
      rcases update_cases (P := Inside) hj with ⟨-, hp⟩ | ⟨-, hj⟩
      · exact absurd hp hout
      · exact hj
    exact ⟨fun j k hj hk => h.excl j k (hother j hj) (hother k hk), fun j hj => hsame.trans (h.busy j (hother j hj)), hdown⟩

omit [DecidableEq ι] in
theorem flagged_gone {pc : ι → Pc} {sh : Shared} {journal : List Txn} :
    Flagged ({ shared := sh, pc := fun i => gone (pc i), journal, serving := false } : Till ι) where
  excl i _ hi := absurd hi (gone_outside (pc i))
  busy i hi := absurd hi (gone_outside (pc i))
  down _ i := gone_outside (pc i)

theorem Flagged.next (h : Flagged s) (hstep : Can calls e s ev ∧ next calls ttlHours s ev = s') : Flagged s' := by
  cases ev with
  | advance i =>
    obtain ⟨⟨hserving, -⟩, rfl⟩ := hstep
    exact flagged_step calls h hserving i s.journal
  | purchase i ns tr =>
    obtain ⟨⟨hserving, hpc, -⟩, rfl⟩ := hstep
    have hnext := flagged_step calls h hserving i (s.journal ++ appended tr)
    have hshared : (step (calls i) s.shared (s.pc i)).1 = s.shared := by rw [hpc, step_pended]
    rwa [hshared] at hnext
  | kill =>
    obtain ⟨-, rfl⟩ := hstep
    exact flagged_gone
  | killIn i ns tr =>
    obtain ⟨-, rfl⟩ := hstep
    exact flagged_gone
  | resumeCut tr =>
    obtain ⟨⟨hdown, -⟩, rfl⟩ := hstep
    exact ⟨h.excl, h.busy, h.down⟩
  | restart tr readAt sweptAt =>
    obtain ⟨⟨hdown, -⟩, rfl⟩ := hstep
    exact ⟨h.excl, fun i hi => absurd hi (h.down hdown i), fun _ i => h.down hdown i⟩

/-! ### What the journal leaves to do -/

/-- A new process would find nothing to resume. -/
def Rested (e : Engine) (journal : List Txn) : Prop := ∃ t, resumeIfNeeded e (loadLast journal) = .ret t

theorem rested_of_ended {journal : List Txn} {t : Txn} (h : loadLast journal = some t) (ht : Ended t) : Rested e journal :=
  ⟨t, by rw [h, resume_ended ht]⟩

theorem Rested.stops {journal : List Txn} {seg : Trace} (h : Rested e journal)
    (hseg : Stops (resumeIfNeeded e (loadLast journal)) seg) : seg = [] := by
  obtain ⟨t, ht⟩ := h
  rw [ht] at hseg
  exact stops_ret.mp hseg

theorem loadLast_of_last {old : List Txn} {tr : Trace} {t : Txn} (h : (appended tr).getLast? = some t) :
    loadLast (old ++ appended tr) = some t := by
  rw [loadLast, List.getLast?_append, h]
  rfl

theorem ended_continueTxn {t t' : Txn} {tr : Trace} (h : Runs (continueTxn e t) tr t') :
    (appended tr).getLast? = some t' ∧ Ended t' := by
  obtain ⟨⟨d, -, w, hw, hphases⟩, -, hlast⟩ := whole_continueTxn h
  exact ⟨hlast, ended_of_word hw hphases hlast⟩

theorem ended_closeShutter {r t : Txn} {tr : Trace} (h : Runs (closeShutter e r) tr t) :
    (appended tr).getLast? = some t ∧ Ended t := by
  obtain ⟨hphases, hlast⟩ := (appends_closeShutter e ⟨rfl, rfl, rfl⟩).runs tr t h
  have hphase : (phases tr).getLast? = some t.phase := by
    rw [phases, List.getLast?_map, hlast]
    rfl
  refine ⟨hlast, ?_⟩
  rw [List.mem_pair] at hphases
  rcases hphases with hword | hword
  · rw [hword] at hphase
    exact Or.inl (Option.some.inj hphase).symm
  · rw [hword] at hphase
    exact Or.inr (Or.inr (Option.some.inj hphase).symm)

theorem rested_purchase {c : Call} {ns : Int} {tr : Trace} {t : Txn} (h : Runs (program e c ns) tr t) (old : List Txn) :
    Rested e (old ++ appended tr) := by
  obtain ⟨b, tr', rfl, h'⟩ := runs_call.mp h
  obtain ⟨hlast, hended⟩ := ended_continueTxn h'
  refine rested_of_ended (loadLast_of_last ?_) hended
  rw [appended_cons_append, List.getLast?_cons, hlast]
  rfl

theorem rested_resume {journal : List Txn} {tr : Trace} {t : Txn} (h : Runs (resumeIfNeeded e (loadLast journal)) tr t) :
    Rested e (journal ++ appended tr) := by
  cases hlast : loadLast journal with
  | none =>
    rw [hlast] at h
    obtain ⟨rfl, rfl⟩ := runs_ret.mp h
    exact ⟨{}, by rw [appended_nil, List.append_nil, hlast]; rfl⟩
  | some r =>
    rw [hlast, resumeIfNeeded] at h
    split_ifs at h with hpaying hshown
    · obtain ⟨hend, hended⟩ := ended_continueTxn h
      exact rested_of_ended (loadLast_of_last hend) hended
    · obtain ⟨hend, hended⟩ := ended_closeShutter h
      exact rested_of_ended (loadLast_of_last hend) hended
    · obtain ⟨rfl, rfl⟩ := runs_ret.mp h
      exact ⟨t, by rw [appended_nil, List.append_nil, hlast, resumeIfNeeded]; exact (if_neg hpaying).trans (if_neg hshown)⟩

/-! ### The purchase that was begun last -/

/-- Since a purchase of `q` quarters was begun `n` coins were paid, and the journal is so. -/
inductive Chapter (e : Engine) (q : Int) : Int → List Txn → Prop where
  | mk (old : List Txn) (tr : Trace) (balanced : Balanced q tr) (recorded : Recorded tr) (honest : HonestDispenser tr)
      (unwritten : appended tr = [] → tr = [] ∧ Rested e old) : Chapter e q (paidOut tr) (old ++ appended tr)

theorem Chapter.within {q n : Int} {journal : List Txn} (h : Chapter e q n journal) : n ≤ q := by
  obtain ⟨old, tr, hbalanced, -, -, -⟩ := h
  exact hbalanced.paid_le

theorem chapter_begin (hmax : 0 ≤ e.cfg.maxQuartersPerTxn) {c : Call} {ns : Int} {tr : Trace} {journal : List Txn}
    (h : Stops (program e c ns) tr) (hhonest : HonestDispenser tr) (hrecorded : Recorded tr) (hrested : Rested e journal) :
    Chapter e (owed e c) (paidOut tr) (journal ++ appended tr) := by
  refine .mk journal tr (balanced_purchase e ns _ _ hmax h hhonest) hrecorded hhonest fun hnone => ⟨?_, hrested⟩
  rcases stops_call.mp h with rfl | ⟨b, tr', rfl, -⟩
  · rfl
  · cases hnone

theorem recorded_append {tr seg : Trace} (htr : Recorded tr) (hseg : Recorded seg) : Recorded (tr ++ seg) := by
  intro n st hlast
  rw [List.getLast?_append] at hlast
  cases hl : seg.getLast? with
  | none =>
    rw [hl] at hlast
    exact htr n st hlast
  | some ev =>
    rw [hl] at hlast
    exact hseg n st (hl.trans hlast)

/-- A new process goes on with it. -/
theorem Chapter.resume {q n : Int} {journal : List Txn} {seg : Trace} (h : Chapter e q n journal)
    (hseg : Stops (resumeIfNeeded e (loadLast journal)) seg) (hhonest : HonestDispenser seg) (hrecorded : Recorded seg) :
    Chapter e q (n + paidOut seg) (journal ++ appended seg) := by
  obtain ⟨old, tr, hbalanced, hrec, hhon, hunwritten⟩ := h
  by_cases hnone : appended tr = []
  · -- nothing of the purchase was written, and what was before it is over
    obtain ⟨rfl, hrested⟩ := hunwritten hnone
    rw [appended_nil, List.append_nil] at hseg ⊢
    obtain rfl := hrested.stops hseg
    exact .mk old [] hbalanced hrec hhon hunwritten
  · have hall : HonestDispenser (tr ++ seg) := fun k st hm => (List.mem_append.mp hm).elim (hhon k st) (hhonest k st)
    have hnext := balanced_restart hrec ⟨hnone, hseg, rfl⟩ hbalanced hall
    rw [← paidOut_append, List.append_assoc, ← appended_append]
    refine .mk old (tr ++ seg) hnext (recorded_append hrec hrecorded) hall fun hnil => absurd ?_ hnone
    rw [appended_append] at hnil
    exact (List.append_eq_nil_iff.mp hnil).1

/-! ### What has been paid -/

/-- The last purchase stands as the journal says, and none was paid more than it was owed. -/
structure Account (calls : ι → Call) (e : Engine) (journal : List Txn) (paid : List (ι × Int)) : Prop where
  current : ∀ i n rest, paid = (i, n) :: rest → Chapter e (owed e (calls i)) n journal
  within : ∀ p ∈ paid, p.2 ≤ owed e (calls p.1)

omit [DecidableEq ι] in
theorem Account.begins {journal : List Txn} (h : Account calls e journal paid) {i : ι} {n : Int} {journal' : List Txn}
    (hnew : Chapter e (owed e (calls i)) n journal') : Account calls e journal' ((i, n) :: paid) where
  current j m rest heq := by
    obtain ⟨hhead, -⟩ := List.cons.inj heq
    obtain ⟨rfl, rfl⟩ := Prod.mk.inj hhead
    exact hnew
  within p hp := by
    rcases List.mem_cons.mp hp with rfl | hp
    · exact hnew.within
    · exact h.within p hp

omit [DecidableEq ι] in
theorem Account.resumes {journal : List Txn} (h : Account calls e journal paid) (hev : ev.begins = none)
    (hseg : Stops (resumeIfNeeded e (loadLast journal)) ev.trace) (hhonest : HonestDispenser ev.trace)
    (hrecorded : Recorded ev.trace) : Account calls e (journal ++ appended ev.trace) (paidBy paid ev) := by
  unfold paidBy
  rw [hev]
  cases paid with
  | nil => exact ⟨fun _ _ _ heq => (List.cons_ne_nil _ _ heq.symm).elim, fun p hp => absurd hp List.not_mem_nil⟩
  | cons p rest =>
    have hnext := (h.current p.1 p.2 rest rfl).resume hseg hhonest hrecorded
    refine ⟨fun i n rest' heq => ?_, fun q hq => ?_⟩
    · obtain ⟨hhead, -⟩ := List.cons.inj heq
      obtain ⟨rfl, rfl⟩ := Prod.mk.inj hhead
      exact hnext
    · rcases List.mem_cons.mp hq with rfl | hq
      · exact hnext.within
      · exact h.within q (List.mem_cons_of_mem p hq)

omit [DecidableEq ι] in
theorem paidBy_begins {i : ι} (hev : ev.begins = some i) : paidBy paid ev = (i, paidOut ev.trace) :: paid := by
  unfold paidBy
  rw [hev]

omit [DecidableEq ι] in
theorem paidBy_quiet (hev : ev.begins = none) (htr : ev.trace = []) : paidBy paid ev = paid := by
  unfold paidBy
  rw [hev, htr]
  cases paid with
  | nil => rfl
  | cons p rest =>
    rw [paidOut_nil]
    dsimp only
    rw [add_zero]

/-- Nothing is left to resume where the next purchase may begin. -/
def Ready (e : Engine) (s : Till ι) : Prop :=
  s.serving = true → (s.shared.busy = false ∨ ∃ i, Inside (s.pc i)) → Rested e s.journal

theorem ready_advance (h : Ready e s) {i : ι} (hserving : s.serving = true) :
    Ready e { s with
      shared := (step (calls i) s.shared (s.pc i)).1
      pc := Function.update s.pc i (step (calls i) s.shared (s.pc i)).2 } := by
  refine fun _ hfree => h hserving ?_
  rcases flag_step (calls i) s.shared (s.pc i) with ⟨hbefore, -⟩ | ⟨hin, -⟩ | ⟨-, hout, hsame⟩
  · exact Or.inl hbefore
  · exact Or.inr ⟨i, hin⟩
  · rcases hfree with hbusy | ⟨j, hj⟩
    · exact Or.inl (hsame.symm.trans hbusy)
    · rcases update_cases (P := Inside) hj with ⟨-, hp⟩ | ⟨-, hj⟩
      · exact absurd hp hout
      · exact Or.inr ⟨j, hj⟩

theorem ready_purchase (hflagged : Flagged s) {i : ι} {ns : Int} {tr : Trace} (hpc : s.pc i = .pended)
    (htr : Performs e (calls i) ns tr) :
    Ready e { s with
      pc := Function.update s.pc i (step (calls i) s.shared (s.pc i)).2
      journal := s.journal ++ appended tr } := by
  have hin : Inside (s.pc i) := by
    rw [hpc]
    trivial
  intro _ hfree
  unfold Performs at htr
  cases hengine : (calls i).engine with
  | ok t =>
    rw [hengine] at htr
    exact rested_purchase htr s.journal
  | error ex =>
    -- the call is out, and has left the flag set
    exfalso
    rcases hfree with hbusy | ⟨j, hj⟩
    · exact Bool.false_ne_true (hbusy.symm.trans (hflagged.busy i hin))
    · rcases update_cases (P := Inside) hj with ⟨-, hp⟩ | ⟨hji, hj⟩
      · rw [hpc, step, hengine] at hp
        exact hp
      · exact hji (hflagged.excl j i hj hin)

omit [DecidableEq ι] in
theorem Performs.stops {c : Call} {ns : Int} {tr : Trace} (h : Performs e c ns tr) : Stops (program e c ns) tr := by
  unfold Performs at h
  split at h
  · exact h.stops
  · exact h

/-- The till's books: where a purchase may begin nothing is left to resume, and the accounts are in order. -/
structure Books (calls : ι → Call) (e : Engine) (s : Till ι) (paid : List (ι × Int)) : Prop where
  ready : Ready e s
  account : Account calls e s.journal paid

theorem Books.next (hmax : 0 ≤ e.cfg.maxQuartersPerTxn) (h : Books calls e s paid) (hflagged : Flagged s)
    (hstep : Can calls e s ev ∧ next calls ttlHours s ev = s') (hhonest : HonestDispenser ev.trace) (hrecorded : Recorded ev.trace) :
    Books calls e s' (paidBy paid ev) := by
  have hdown : ∀ sh pc journal, Ready e ({ shared := sh, pc, journal, serving := false } : Till ι) :=
    fun _ _ _ hserving => absurd hserving Bool.false_ne_true
  cases ev with
  | advance i =>
    obtain ⟨⟨hserving, -⟩, rfl⟩ := hstep
    rw [paidBy_quiet rfl rfl]
    exact ⟨ready_advance h.ready hserving, h.account⟩
  | purchase i ns tr =>
    obtain ⟨⟨hserving, hpc, htr⟩, rfl⟩ := hstep
    have hrested := h.ready hserving (Or.inr ⟨i, by rw [hpc]; trivial⟩)
    rw [paidBy_begins rfl]
    exact ⟨ready_purchase hflagged hpc htr, h.account.begins (chapter_begin hmax htr.stops hhonest hrecorded hrested)⟩
  | kill =>
    obtain ⟨-, rfl⟩ := hstep
    rw [paidBy_quiet rfl rfl]
    exact ⟨hdown _ _ _, h.account⟩
  | killIn i ns tr =>
    obtain ⟨⟨hserving, hpc, htr⟩, rfl⟩ := hstep
    have hrested := h.ready hserving (Or.inr ⟨i, by rw [hpc]; trivial⟩)
    rw [paidBy_begins rfl]
    exact ⟨hdown _ _ _, h.account.begins (chapter_begin hmax htr hhonest hrecorded hrested)⟩
  | resumeCut tr =>
    obtain ⟨⟨hoff, htr⟩, rfl⟩ := hstep
    refine ⟨fun hserving => absurd (hoff.symm.trans hserving) Bool.false_ne_true, ?_⟩
    exact h.account.resumes (show (TillEvent.resumeCut tr).begins = none from rfl) htr hhonest hrecorded
  | restart tr readAt sweptAt =>
    obtain ⟨⟨hoff, t, htr⟩, rfl⟩ := hstep
    refine ⟨fun _ _ => rested_resume htr, ?_⟩
    exact h.account.resumes (show (TillEvent.restart tr readAt sweptAt).begins = none from rfl) htr.stops hhonest hrecorded

/-! ### What the log remembers -/

def Remembered (r : IdemRec) : Prop := r.status = ascii "PENDING" ∨ r.status = ascii "DONE"

/-- The last line of the key in the log says that a purchase was begun. -/
def Logged (key : Bytes) (file : List (Json Bytes)) : Prop :=
  ∃ r, (file.foldl (readLine 0 0) ∅).lookup key = some r ∧ Remembered r

theorem logged_snoc {key : Bytes} {file : List (Json Bytes)} {line : Json Bytes} {r : IdemRec} (hread : readRec line = .ok r)
    (hr : Remembered r) : Logged key (file ++ [line]) ↔ r.key = key ∨ Logged key file := by
  unfold Logged
  rw [List.foldl_append, List.foldl_cons, List.foldl_nil, readLine_of_ok hread, Dict.lookup_insert_if]
  by_cases hkey : key = r.key
  · rw [if_pos hkey]
    exact iff_of_true ⟨r, rfl, hr⟩ (Or.inl hkey.symm)
  · rw [if_neg hkey]
    exact ⟨Or.inr, fun h => h.resolve_left fun heq => hkey heq.symm⟩

/-- Of a key whose lines have not expired everything is read back. -/
theorem lookup_fresh {key : Bytes} (ttlNs now : Int) {file : List (Json Bytes)}
    (hfresh : ∀ line ∈ file, ∀ r, readRec line = .ok r → r.key = key → 0 < ttlNs → now - r.lastNs ≤ ttlNs)
    (m : Dict Bytes IdemRec) :
    (file.foldl (readLine ttlNs now) m).lookup key = (file.foldl (readLine 0 0) m).lookup key := by
  induction file using List.reverseRecOn with
  | nil => rfl
  | append_singleton file line ih =>
    have hprev := ih fun l hl => hfresh l (List.mem_append_left _ hl)
    rw [List.foldl_append, List.foldl_append, List.foldl_cons, List.foldl_cons, List.foldl_nil, List.foldl_nil]
    cases hread : readRec line with
    | error ex =>
      rw [readLine, readLine, hread]
      exact hprev
    | ok r =>
      rw [readLine_of_ok hread, Dict.lookup_insert_if, ← hprev, readLine, hread]
      dsimp only
      by_cases hkey : key = r.key
      · have hkept := hfresh line (by simp) r hread hkey.symm
        rw [if_pos hkey, if_neg (by omega), hkey, AList.lookup_insert]
      · rw [if_neg hkey]
        split_ifs
        · rfl
        · exact AList.lookup_insert_ne hkey

/-- What is read back of a key stands in a line. -/
theorem written_of_lookup {key : Bytes} {file : List (Json Bytes)} {r : IdemRec}
    (h : (file.foldl (readLine 0 0) ∅).lookup key = some r) : ∃ line ∈ file, readRec line = .ok r ∧ r.key = key := by
  induction file using List.reverseRecOn with
  | nil => cases h
  | append_singleton file line ih =>
    have hlater : ∀ {r'}, (∃ line ∈ file, readRec line = .ok r' ∧ r'.key = key) →
        ∃ l ∈ file ++ [line], readRec l = .ok r' ∧ r'.key = key := fun ⟨l, hl, hread⟩ => ⟨l, List.mem_append_left _ hl, hread⟩
    rw [List.foldl_append, List.foldl_cons, List.foldl_nil] at h
    cases hread : readRec line with
    | error ex =>
      rw [readLine, hread] at h
      exact hlater (ih h)
    | ok r' =>
      rw [readLine_of_ok hread, Dict.lookup_insert_if] at h
      split_ifs at h with hkey
      · obtain rfl := Option.some.inj h
        exact ⟨line, by simp, hread, hkey.symm⟩
      · exact hlater (ih h)

theorem held_openOn {key : Bytes} {file : List (Json Bytes)} {readAt sweptAt : Int} (h : Logged key file)
    (hfresh : ∀ line ∈ file, ∀ r, readRec line = .ok r → r.key = key → 0 < ttlNsOf ttlHours →
      readAt - r.lastNs ≤ ttlNsOf ttlHours ∧ sweptAt - r.lastNs ≤ ttlNsOf ttlHours) :
    (openOn ttlHours file readAt sweptAt).Held key := by
  obtain ⟨r, hr, hremembered⟩ := h
  have hwritten := written_of_lookup hr
  rw [← lookup_fresh (ttlNsOf ttlHours) readAt fun line hl r hread hkey hpos =>
    (hfresh line hl r hread hkey hpos).1] at hr
  refine ⟨r, ?_, hremembered⟩
  by_cases hpos : 0 < ttlHours
  · obtain ⟨line, hline, hread⟩ := hwritten
    have hpos' : 0 < ttlNsOf ttlHours := by
      unfold ttlNsOf
      omega
    have hkept := (hfresh line hline r hread.1 hread.2 hpos').2
    rw [lookup_openOn hpos, hr]
    simp only [Option.filter_some]
    rw [if_pos (by simpa using hkept)]
  · have hforever : ttlNsOf ttlHours ≤ 0 := by
      unfold ttlNsOf
      omega
    rw [openOn, sweepExpired, if_pos hforever]
    exact hr

/-- What becomes of a key as the store goes from `s` to `t`. -/
structure Recalls (key : Bytes) (s t : IdempotencyStore) : Prop where
  logged : Logged key s.file → Logged key t.file
  held : s.Held key → t.Held key
  either : Logged key t.file → Logged key s.file ∨ t.Held key

theorem recalls_refl (key : Bytes) (s : IdempotencyStore) : Recalls key s s := ⟨id, id, Or.inl⟩

theorem held_put (s : IdempotencyStore) (p : Put) : (apply s (.put p)).Held p.key := by
  obtain ⟨key, payloadHash, _ | result, now⟩ := p
  · exact held_putPending s key payloadHash now
  · change (s.putDone key payloadHash result now).1.Held key
    exact ⟨_, by rw [putDone, writeLine_map]; exact AList.lookup_insert _, Or.inr rfl⟩

theorem Held.put {store : IdempotencyStore} (h : store.Held key) (p : Put) : (apply store (.put p)).Held key := by
  obtain ⟨key', payloadHash, _ | result, now⟩ := p
  · exact h.putPending key' payloadHash now
  · exact h.putDone key' payloadHash result now

theorem remembered_record (p : Put) (firstNs : Int) : Remembered (p.record firstNs) := by
  obtain ⟨key, payloadHash, _ | result, now⟩ := p
  · exact Or.inl rfl
  · exact Or.inr rfl

theorem recalls_put (key : Bytes) (s : IdempotencyStore) (p : Put) : Recalls key s (apply s (.put p)) := by
  obtain ⟨line, firstNs, hread, hin, hout⟩ := apply_put_file s p
  have hkey : (p.record firstNs).key = p.key := rfl
  by_cases hp : p.Recorded
  · have hfile : Logged key (apply s (.put p)).file ↔ p.key = key ∨ Logged key s.file := by
      rw [hin hp, logged_snoc hread (remembered_record p firstNs), hkey]
    refine ⟨fun h => hfile.mpr (Or.inr h), fun h => Held.put h p, fun h => ?_⟩
    rcases hfile.mp h with rfl | h
    · exact Or.inr (held_put s p)
    · exact Or.inl h
  · have hfile : Logged key (apply s (.put p)).file ↔ Logged key s.file := by rw [hout hp]
    exact ⟨hfile.mpr, fun h => Held.put h p, fun h => Or.inl (hfile.mp h)⟩

theorem Moves.recalls {c : Call} {sh sh' : Shared} {p q : Pc} (h : Moves c sh p sh' q) (key : Bytes) :
    Recalls key sh.store sh'.store := by
  cases h with
  | idle hp hq => exact recalls_refl key sh.store
  | take hfree => exact recalls_refl key sh.store
  | pend hq => exact recalls_put key sh.store (pendingPut c)
  | buy hq => exact recalls_refl key sh.store
  | release t => exact recalls_refl key sh.store
  | @record t q hq => exact recalls_put key sh.store (donePut c t)

/-- A call comes to its purchase by a line in the log. -/
theorem Moves.logged {c : Call} {sh sh' : Shared} {p : Pc} (h : Moves c sh p sh' .pended) : Logged c.key sh'.store.file := by
  cases h with
  | idle hp hq => exact absurd trivial hq
  | pend hq =>
    obtain ⟨line, firstNs, hread, hin, -⟩ := apply_put_file sh.store (pendingPut c)
    rcases hq with ⟨-, hrecorded⟩ | hout
    · dsimp only
      rw [hin hrecorded, logged_snoc hread (remembered_record _ firstNs)]
      exact Or.inl rfl
    · exact absurd trivial hout
  | buy hq => exact absurd (Or.inr rfl) hq
  | record hq => exact absurd trivial hq

/-- A call that is to buy has just taken the flag, or was to buy before. -/
theorem Moves.buying {c : Call} {sh sh' : Shared} {p q : Pc} (h : Moves c sh p sh' q) (hq : Buying q) :
    (p = .passed ∧ sh.busy = false) ∨ p = .acquired := by
  cases h with
  | idle hp hout => exact absurd hq.inside hout
  | take hfree => exact Or.inl ⟨rfl, hfree⟩
  | pend _ => exact Or.inr rfl
  | buy hnot => exact absurd hq hnot
  | release t => exact absurd hq.inside id
  | record hout => exact absurd hq.inside hout

/-- What is remembered of a key for which `begun` purchases were begun. -/
structure Memory (calls : ι → Call) (key : Bytes) (s : Till ι) (begun : ℕ) : Prop where
  once : begun ≤ 1
  logged : 0 < begun → Logged key s.shared.store.file
  held : s.serving = true → Logged key s.shared.store.file → s.shared.store.Held key
  unbought : ∀ i, (calls i).key = key → Buying (s.pc i) → begun = 0
  pended : ∀ i, (calls i).key = key → s.pc i = .pended → Logged key s.shared.store.file

theorem Memory.advance {begun : ℕ} (h : Memory calls key s begun) {i : ι} (hserving : s.serving = true)
    (hpc : s.pc i ≠ .pended) (hnew : Remembers calls ttlHours key s (.advance i)) :
    Memory calls key { s with
      shared := (step (calls i) s.shared (s.pc i)).1
      pc := Function.update s.pc i (step (calls i) s.shared (s.pc i)).2 } begun := by
  have hmoves := moves_step (calls i) s.shared (s.pc i)
  have hrecalls := hmoves.recalls key
  refine ⟨h.once, fun hbegun => hrecalls.logged (h.logged hbegun), fun _ hlogged => ?_, fun j hj hbuying => ?_,
    fun j hj hpended => ?_⟩
  · rcases hrecalls.either hlogged with hbefore | hheld
    · exact hrecalls.held (h.held hserving hbefore)
    · exact hheld
  · rcases update_cases (P := Buying) hbuying with ⟨rfl, hq⟩ | ⟨-, hold⟩
    · rcases hmoves.buying hq with ⟨hpassed, hfree⟩ | hacquired
      · -- the key is still new, so nothing was begun for it
        by_contra hne
        have hheld := h.held hserving (h.logged (Nat.pos_of_ne_zero hne))
        exact hheld.check_ne_new _ (hnew hj hpassed hfree)
      · exact h.unbought j hj (Or.inl hacquired)
    · exact h.unbought j hj hold
  · rcases update_cases (P := (· = Pc.pended)) hpended with ⟨rfl, hq⟩ | ⟨-, hold⟩
    · rw [hq] at hmoves
      exact hj ▸ hmoves.logged
    · exact hrecalls.logged (h.pended j hj hold)

omit [DecidableEq ι] in
/-- The purchase of a call is begun: whatever comes of it, no call is to buy any more. -/
theorem Memory.begins {begun : ℕ} (h : Memory calls key s begun) {i : ι} (hpc : s.pc i = .pended) {s' : Till ι}
    (hshared : s'.shared = s.shared) (hserving : s'.serving = true → s.serving = true) (hout : ∀ j, ¬ Buying (s'.pc j)) :
    Memory calls key s' (if (calls i).key = key then begun + 1 else begun) := by
  have hpended : ∀ j, s'.pc j ≠ .pended := fun j hj => hout j (Or.inr hj)
  refine ⟨?_, fun hbegun => ?_, fun hup hlogged => ?_, fun j _ hj => absurd hj (hout j), fun j _ hj => absurd hj (hpended j)⟩
  · split_ifs with hkey
    · rw [h.unbought i hkey (Or.inr hpc)]
    · exact h.once
  · rw [hshared]
    split_ifs at hbegun with hkey
    · exact h.pended i hkey hpc
    · exact h.logged hbegun
  · rw [hshared] at hlogged ⊢
    exact h.held (hserving hup) hlogged

/-- How many purchases were begun for the key. -/
def begun (calls : ι → Call) (key : Bytes) (paid : List (ι × Int)) : ℕ := paid.countP fun p => (calls p.1).key = key

omit [DecidableEq ι] in
theorem begun_begins {i : ι} (hev : ev.begins = some i) :
    begun calls key (paidBy paid ev) = if (calls i).key = key then begun calls key paid + 1 else begun calls key paid := by
  rw [paidBy_begins hev, begun, List.countP_cons]
  by_cases hkey : (calls i).key = key
  · rw [if_pos (by simpa using hkey), if_pos hkey]
    rfl
  · rw [if_neg (by simpa using hkey), if_neg hkey]
    rfl

omit [DecidableEq ι] in
theorem begun_goes_on (hev : ev.begins = none) : begun calls key (paidBy paid ev) = begun calls key paid := by
  unfold paidBy
  rw [hev]
  cases paid with
  | nil => rfl
  | cons p rest => rfl

theorem openOn_file (file : List (Json Bytes)) (readAt sweptAt : Int) : (openOn ttlHours file readAt sweptAt).file = file := by
  simp only [openOn, sweepExpired]
  split_ifs <;> rfl

theorem Memory.next (h : Memory calls key s (begun calls key paid)) (hflagged : Flagged s)
    (hremembers : Remembers calls ttlHours key s ev) (hstep : Can calls e s ev ∧ next calls ttlHours s ev = s') :
    Memory calls key s' (begun calls key (paidBy paid ev)) := by
  have hgone : ∀ (pc : ι → Pc) j, ¬ Buying (gone (pc j)) := fun pc j hj => gone_outside (pc j) hj.inside
  cases ev with
  | advance i =>
    obtain ⟨⟨hserving, hpc⟩, rfl⟩ := hstep
    rw [begun_goes_on rfl]
    exact h.advance hserving hpc hremembers
  | purchase i ns tr =>
    obtain ⟨⟨hserving, hpc, -⟩, rfl⟩ := hstep
    rw [begun_begins rfl]
    refine h.begins hpc rfl id fun j hj => ?_
    rcases update_cases (P := Buying) hj with ⟨-, hq⟩ | ⟨hji, hold⟩
    · rcases (moves_step (calls i) s.shared (s.pc i)).buying hq with ⟨hp, -⟩ | hp <;> cases hpc.symm.trans hp
    · exact hji (hflagged.excl j i hold.inside (by rw [hpc]; trivial))
  | kill =>
    obtain ⟨-, rfl⟩ := hstep
    rw [begun_goes_on rfl]
    exact ⟨h.once, h.logged, fun hup => absurd hup Bool.false_ne_true, fun j _ hj => absurd hj (hgone _ j),
      fun j _ hj => absurd (Or.inr hj) (hgone s.pc j)⟩
  | killIn i ns tr =>
    obtain ⟨⟨hserving, hpc, -⟩, rfl⟩ := hstep
    rw [begun_begins rfl]
    exact h.begins hpc rfl (fun hup => absurd hup Bool.false_ne_true) (hgone s.pc)
  | resumeCut tr =>
    obtain ⟨-, rfl⟩ := hstep
    rw [begun_goes_on rfl]
    exact ⟨h.once, h.logged, h.held, h.unbought, h.pended⟩
  | restart tr readAt sweptAt =>
    obtain ⟨⟨hdown, -⟩, rfl⟩ := hstep
    rw [begun_goes_on rfl]
    have hout := hflagged.down hdown
    refine ⟨h.once, fun hbegun => ?_, fun _ hlogged => ?_, fun j _ hj => absurd hj.inside (hout j),
      fun j _ hj => absurd (Buying.inside (Or.inr hj)) (hout j)⟩
    · change Logged key (openOn ttlHours s.shared.store.file readAt sweptAt).file
      rw [openOn_file]
      exact h.logged hbegun
    · change Logged key (openOn ttlHours s.shared.store.file readAt sweptAt).file at hlogged
      rw [openOn_file] at hlogged
      exact held_openOn hlogged hremembers

/-! ### Runs -/

def honest : Sigma Ans → Bool
  | ⟨.dispenseCoins n, st⟩ => 0 ≤ st.dispensed && st.dispensed ≤ n
  | _ => true

end Drawer.Pos.Till
