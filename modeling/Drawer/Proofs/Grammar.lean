import Drawer.Proofs.Crash
import Drawer.Spec.Crash

/-! The records of a transaction follow one grammar, over any number of crashes and
restarts: what each part of the engine appends is read off its effects, and a resumed
part starts where the last record stands. -/

namespace Drawer.TxnEngine
open Text Effect Journal Transition

@[simp] theorem phases_nil : phases [] = [] := rfl

@[simp] theorem phases_append (tr tr' : Trace) : phases (tr ++ tr') = phases tr ++ phases tr' := by
  simp [phases]

@[simp] theorem phases_cons_append (t : Txn) (b : Bool) (tr : Trace) :
    phases (⟨.append t, b⟩ :: tr) = t.phase :: phases tr := rfl

theorem Opened.append_left {tr : Trace} (h : Opened tr) (tr' : Trace) : Opened (tr ++ tr') := by
  obtain ⟨mm, a, hm, ha⟩ := h
  exact ⟨mm, a, List.mem_append_left _ hm, ha⟩

theorem Opened.append_right {tr' : Trace} (h : Opened tr') (tr : Trace) : Opened (tr ++ tr') := by
  obtain ⟨mm, a, hm, ha⟩ := h
  exact ⟨mm, a, List.mem_append_right _ hm, ha⟩

theorem Closed.append_right {tr' : Trace} (h : Closed tr') (tr : Trace) : Closed (tr ++ tr') := by
  obtain ⟨mm, a, hm, ha⟩ := h
  exact ⟨mm, a, List.mem_append_right _ hm, ha⟩

/-! ### What each part appends -/

/-- The records of `tr` are those of `t`, but for the phase and the reason. -/
def Keeps (t : Txn) (tr : Trace) : Prop :=
  ∀ r ∈ appended tr, r.id = t.id ∧ r.quarters = t.quarters ∧ r.dispensed = t.dispensed

/-- What closing the shutter appends, with what stands behind it. -/
inductive Shut (tr : Trace) : List Bytes → Prop where
  | void : Shut tr [ascii "VOID"]
  | closed (h : Closed tr) : Shut tr [ascii "CLOSED"]
  | done (h : Closed tr) : Shut tr [ascii "CLOSED", ascii "DONE"]

/-- What presenting the coins appends, with what stands behind it. -/
inductive Shown (tr : Trace) : List Bytes → Prop where
  | void : Shown tr [ascii "VOID"]
  | shown (h : Opened tr) : Shown tr [ascii "PRESENTING"]
  | shut (h : Opened tr) {w : List Bytes} (hw : Shut tr w) : Shown tr (ascii "PRESENTING" :: w)

theorem Shut.append_right {tr' : Trace} {w : List Bytes} (h : Shut tr' w) (tr : Trace) : Shut (tr ++ tr') w := by
  cases h with
  | void => exact .void
  | closed h => exact .closed (h.append_right tr)
  | done h => exact .done (h.append_right tr)

theorem Shown.append_right {tr' : Trace} {w : List Bytes} (h : Shown tr' w) (tr : Trace) : Shown (tr ++ tr') w := by
  cases h with
  | void => exact .void
  | shown h => exact .shown (h.append_right tr)
  | shut h hw => exact .shut (h.append_right tr) (hw.append_right tr)

theorem Shut.cons {tr : Trace} {w : List Bytes} (h : Shut tr w) (ev : Sigma Ans) : Shut (ev :: tr) w := h.append_right [ev]

theorem Shown.cons {tr : Trace} {w : List Bytes} (h : Shown tr w) (ev : Sigma Ans) : Shown (ev :: tr) w := h.append_right [ev]

theorem Shut.prefix {tr : Trace} {w : List Bytes} (h : Shut tr w) :
    ∃ w' ∈ [[ascii "VOID"], [ascii "CLOSED", ascii "DONE"]], w <+: w' := by
  cases h with
  | void => exact ⟨_, by simp, List.prefix_refl _⟩
  | closed _ => exact ⟨[ascii "CLOSED", ascii "DONE"], by simp, ⟨[ascii "DONE"], rfl⟩⟩
  | done _ => exact ⟨_, by simp, List.prefix_refl _⟩

theorem Shown.prefix {tr : Trace} {w : List Bytes} (h : Shown tr w) : ∃ w' ∈ endings, w <+: w' := by
  cases h with
  | void => exact ⟨[ascii "VOID"], by decide, List.prefix_refl _⟩
  | shown _ => exact ⟨[ascii "PRESENTING", ascii "VOID"], by decide, ⟨[ascii "VOID"], rfl⟩⟩
  | shut _ hw =>
    obtain ⟨w', hmem, hpre⟩ := hw.prefix
    refine ⟨ascii "PRESENTING" :: w', ?_, (List.cons_prefix_cons).mpr ⟨rfl, hpre⟩⟩
    simp only [List.mem_cons, List.not_mem_nil, or_false] at hmem
    rcases hmem with rfl | rfl <;> decide

/-- What a part of the engine has appended when it is stopped, and when it has ended. -/
structure Appends (t : Txn) (p : Prog) (W : Trace → List Bytes → Prop) (full : List (List Bytes)) : Prop where
  stops : ∀ tr, Stops p tr → Keeps t tr ∧ (phases tr = [] ∨ W tr (phases tr))
  runs : ∀ tr t', Runs p tr t' → phases tr ∈ full ∧ (appended tr).getLast? = some t'

section
variable {t : Txn} {W W' : Trace → List Bytes → Prop} {full : List (List Bytes)}

/-- The record is one of `t`, but for the phase and the reason. -/
def Kin (r t : Txn) : Prop := r.id = t.id ∧ r.quarters = t.quarters ∧ r.dispensed = t.dispensed

theorem appends_finish {r : Txn} (hr : Kin r t) (hW : ∀ tr, W tr [r.phase]) : Appends t (finish r) W [[r.phase]] := by
  refine ⟨fun tr h => ?_, fun tr t' h => ?_⟩
  · rcases stops_call.mp h with rfl | ⟨b, tr', rfl, h'⟩
    · exact ⟨fun r hr => by simp at hr, Or.inl rfl⟩
    · obtain rfl := stops_ret.mp h'
      refine ⟨fun r' hr' => ?_, Or.inr (hW _)⟩
      obtain rfl := List.mem_singleton.mp hr'
      exact hr
  · obtain ⟨b, tr', rfl, h'⟩ := runs_call.mp h
    obtain ⟨rfl, rfl⟩ := runs_ret.mp h'
    exact ⟨by simp, rfl⟩

/-- An effect that is no record adds nothing. -/
theorem appends_call {f : Eff} {k : Ans f → Prog} (hf : ∀ a, record ⟨f, a⟩ = none)
    (hk : ∀ a, Appends t (k a) (fun tr w => W (⟨f, a⟩ :: tr) w) full) : Appends t (.call f k) W full := by
  have happended : ∀ a tr, appended (⟨f, a⟩ :: tr) = appended tr := fun a tr => by simp [appended, hf]
  have hphases : ∀ a tr, phases (⟨f, a⟩ :: tr) = phases tr := fun a tr => by rw [phases, phases, happended]
  refine ⟨fun tr h => ?_, fun tr t' h => ?_⟩
  · rcases stops_call.mp h with rfl | ⟨a, tr', rfl, h'⟩
    · exact ⟨fun r hr => by simp at hr, Or.inl rfl⟩
    · rw [Keeps, happended, hphases]
      exact (hk a).stops tr' h'
  · obtain ⟨a, tr', rfl, h'⟩ := runs_call.mp h
    rw [happended, hphases]
    exact (hk a).runs tr' t' h'

/-- A record, and what is appended after it. -/
theorem appends_append {r : Txn} {k : Bool → Prog} (hr : Kin r t) (hW : ∀ tr, W tr [r.phase])
    (hcons : ∀ b tr w, W' tr w → W (⟨.append r, b⟩ :: tr) (r.phase :: w)) (hk : ∀ b, Appends t (k b) W' full) :
    Appends t (.call (.append r) k) W (full.map (r.phase :: ·)) := by
  refine ⟨fun tr h => ?_, fun tr t' h => ?_⟩
  · rcases stops_call.mp h with rfl | ⟨b, tr', rfl, h'⟩
    · exact ⟨fun r hr => by simp at hr, Or.inl rfl⟩
    · obtain ⟨hkeeps, hword⟩ := (hk b).stops tr' h'
      refine ⟨List.forall_mem_cons.mpr ⟨hr, hkeeps⟩, Or.inr ?_⟩
      rw [phases_cons_append]
      rcases hword with hnil | hword
      · rw [hnil]
        exact hW _
      · exact hcons b tr' _ hword
  · obtain ⟨b, tr', rfl, h'⟩ := runs_call.mp h
    obtain ⟨hword, hlast⟩ := (hk b).runs tr' t' h'
    refine ⟨List.mem_map.mpr ⟨_, hword, rfl⟩, ?_⟩
    rw [appended_cons_append, List.getLast?_cons, hlast]
    rfl

theorem Appends.mono {p : Prog} {full' : List (List Bytes)} (h : Appends t p W full) (hW : ∀ tr w, W tr w → W' tr w)
    (hfull : ∀ w ∈ full, w ∈ full') : Appends t p W' full' :=
  ⟨fun tr ht => ⟨(h.stops tr ht).1, (h.stops tr ht).2.imp id (hW tr _)⟩,
    fun tr t' ht => ⟨hfull _ (h.runs tr t' ht).1, (h.runs tr t' ht).2⟩⟩

theorem appends_void {r : Txn} (hr : Kin r t) (hW : ∀ tr, W tr [ascii "VOID"]) (hfull : [ascii "VOID"] ∈ full) :
    Appends t (finishVoid r) W full :=
  (appends_finish (r := { r with phase := ascii "VOID" }) hr hW).mono (fun _ _ h => h) (by simpa using hfull)

theorem appends_gate {e : Engine} {r : Txn} {k : Prog} (hr : Kin r t) (hW : ∀ tr, W tr [ascii "VOID"])
    (hfull : [ascii "VOID"] ∈ full) (hcons : ∀ ev tr w, W tr w → W (ev :: tr) w) (hk : Appends t k W full) :
    Appends t (gate e r k) W full := by
  unfold gate
  split_ifs
  · refine appends_call (fun _ => rfl) fun allowed => ?_
    cases allowed with
    | true => exact hk.mono (fun tr w => hcons _ tr w) fun _ h => h
    | false => exact appends_void hr (fun tr => hW _) hfull
  · exact hk

end

theorem appends_closeShutter {t r : Txn} (e : Engine) (hr : Kin r t) :
    Appends t (closeShutter e r) Shut [[ascii "VOID"], [ascii "CLOSED", ascii "DONE"]] := by
  refine appends_call (fun _ => rfl) fun a => ?_
  cases ha : a.ok with
  | false => exact appends_void hr (fun tr => .void) (by decide)
  | true =>
    have hclosed : ∀ tr, Closed (⟨.closeMm e.cfg.openMm, a⟩ :: tr) := fun tr => ⟨_, a, List.mem_cons_self, ha⟩
    have hdone : Bool → Appends t (finish { r with reason := a.reason.getD r.reason, phase := ascii "DONE" })
        (fun _ w => w = [ascii "DONE"]) [[ascii "DONE"]] := fun _ => appends_finish hr fun _ => rfl
    have hrest : Appends t (.call (.append { r with reason := a.reason.getD r.reason, phase := ascii "CLOSED" }) _)
        (fun tr w => Shut (⟨.closeMm e.cfg.openMm, a⟩ :: tr) w) _ :=
      appends_append hr (fun tr => .closed (hclosed tr)) (fun b tr w (hw : w = _) => hw ▸ .done (hclosed _)) hdone
    exact hrest.mono (fun _ _ h => h) (by simp)

theorem appends_present {t r : Txn} (e : Engine) (hr : Kin r t) : Appends t (present e r) Shown endings := by
  refine appends_gate hr (fun tr => .void) (by decide) (fun ev tr w h => h.cons ev) ?_
  refine appends_call (fun _ => rfl) fun a => ?_
  cases ha : a.ok with
  | false => exact appends_void hr (fun tr => .void) (by decide)
  | true =>
    have hopened : ∀ tr, Opened (⟨.openMm e.cfg.openMm, a⟩ :: tr) := fun tr => ⟨_, a, List.mem_cons_self, ha⟩
    have hclose : Bool → Appends t (gate e { r with reason := a.reason.getD r.reason, phase := ascii "PRESENTING" }
        (closeShutter e { r with reason := a.reason.getD r.reason, phase := ascii "PRESENTING" }))
        Shut [[ascii "VOID"], [ascii "CLOSED", ascii "DONE"]] :=
      fun _ => appends_gate hr (fun tr => .void) (by decide) (fun ev tr w h => h.cons ev) (appends_closeShutter e hr)
    have hrest : Appends t (.call (.append { r with reason := a.reason.getD r.reason, phase := ascii "PRESENTING" }) _)
        (fun tr w => Shown (⟨.openMm e.cfg.openMm, a⟩ :: tr) w) _ :=
      appends_append hr (fun tr => .shown (hopened tr)) (fun b tr w hw => .shut (hopened _) ((hw.cons _).cons _)) hclose
    exact hrest.mono (fun _ _ h => h) (by simp [endings])

/-! ### What `continue_txn` appends -/

/-- What is appended after the record `t` without a payout: nothing says that the coins are out before they are. -/
structure Tail (t : Txn) (tr : Trace) : Prop where
  keeps : Keeps t tr
  enough : ∀ r ∈ appended tr, r.phase ∈ [ascii "PRESENTING", ascii "CLOSED", ascii "DONE"] → r.quarters ≤ r.dispensed
  word : phases tr = [] ∨ Shown tr (phases tr)

theorem Appends.tail {t : Txn} {p : Prog} {full : List (List Bytes)} (hp : Appends t p Shown full)
    (henough : t.quarters ≤ t.dispensed) {tr : Trace} (h : Stops p tr) : Tail t tr := by
  obtain ⟨hkeeps, hword⟩ := hp.stops tr h
  refine ⟨hkeeps, fun r hr _ => ?_, hword⟩
  obtain ⟨-, hquarters, hdispensed⟩ := hkeeps r hr
  omega

theorem tail_void {t r : Txn} (hr : Kin r t) {tr : Trace} (h : Stops (finishVoid r) tr) : Tail t tr := by
  have hvoid : Appends t (finishVoid r) (fun _ w => w = [ascii "VOID"]) [[ascii "VOID"]] :=
    appends_void hr (fun _ => rfl) (by simp)
  obtain ⟨hkeeps, hword⟩ := hvoid.stops tr h
  refine ⟨hkeeps, fun r hr hphase => ?_, hword.imp id fun hw => by rw [hw]; exact .void⟩
  have hmem : r.phase ∈ phases tr := List.mem_map_of_mem hr
  rcases hword with hnil | hword
  · simp [hnil] at hmem
  · rw [hword, List.mem_singleton] at hmem
    rw [hmem] at hphase
    exact absurd hphase (by decide)

theorem tail_afterPayout {e : Engine} {t : Txn} {st : DispenseStats} {tr : Trace} (h : Stops (afterPayout e t st) tr) :
    Tail t tr := by
  unfold afterPayout at h
  by_cases hshort : (!st.ok || t.dispensed < t.quarters) = true
  · rw [if_pos hshort] at h
    obtain ⟨reason, h⟩ : ∃ reason, Stops (finishVoid { t with reason }) tr := ⟨_, h⟩
    exact tail_void (by exact ⟨rfl, rfl, rfl⟩) h
  · rw [if_neg hshort] at h
    simp only [Bool.or_eq_true, decide_eq_true_eq, not_or, not_lt] at hshort
    exact (appends_present e ⟨rfl, rfl, rfl⟩).tail hshort.2 h

/-- What is appended after the record `t`, with one payout at most. -/
structure Segment (t : Txn) (tr : Trace) : Prop where
  kin : ∀ r ∈ appended tr, r.id = t.id ∧ r.quarters = t.quarters
  level : ∃ n, t.dispensed ≤ n ∧ ∀ r ∈ appended tr, r.dispensed = n
  enough : ∀ r ∈ appended tr, r.phase ∈ [ascii "PRESENTING", ascii "CLOSED", ascii "DONE"] → r.quarters ≤ r.dispensed
  word : ∃ d ∈ [[], [ascii "DISPENSING"]], ∃ w, phases tr = d ++ w ∧ (w = [] ∨ Shown tr w)

theorem Tail.segment {t : Txn} {tr : Trace} (h : Tail t tr) : Segment t tr where
  kin r hr := ⟨(h.keeps r hr).1, (h.keeps r hr).2.1⟩
  level := ⟨t.dispensed, le_rfl, fun r hr => (h.keeps r hr).2.2⟩
  enough := h.enough
  word := ⟨[], by simp, phases tr, rfl, h.word⟩

theorem segment_nil (t : Txn) : Segment t [] :=
  Tail.segment ⟨fun r hr => by simp at hr, fun r hr => by simp at hr, Or.inl rfl⟩

theorem Segment.cons {t : Txn} {tr : Trace} (h : Segment t tr) {ev : Sigma Ans} (hev : record ev = none) :
    Segment t (ev :: tr) := by
  have happended : appended (ev :: tr) = appended tr := by simp [appended, hev]
  obtain ⟨d, hd, w, hphases, hw⟩ := h.word
  exact
    { kin := by rw [happended]; exact h.kin
      level := by rw [happended]; exact h.level
      enough := by rw [happended]; exact h.enough
      word := ⟨d, hd, w, by rw [phases, happended, ← hphases, phases], hw.imp id fun hw => hw.cons ev⟩ }

theorem segment_payout {t : Txn} {st : DispenseStats} {b : Bool} {tr : Trace} (hst : 0 ≤ st.dispensed)
    (h : Tail (withPayout t st) tr) : Segment t (⟨.append (withPayout t st), b⟩ :: tr) := by
  refine ⟨?_, ⟨t.dispensed + st.dispensed, by omega, ?_⟩, ?_, [ascii "DISPENSING"], by simp, phases tr, rfl,
    h.word.imp id fun hw => hw.cons _⟩
  · exact List.forall_mem_cons.mpr ⟨⟨rfl, rfl⟩, fun r hr => ⟨(h.keeps r hr).1, (h.keeps r hr).2.1⟩⟩
  · exact List.forall_mem_cons.mpr ⟨rfl, fun r hr => (h.keeps r hr).2.2⟩
  · refine List.forall_mem_cons.mpr ⟨fun hphase => ?_, h.enough⟩
    exact absurd hphase (show ascii "DISPENSING" ∉ [ascii "PRESENTING", ascii "CLOSED", ascii "DONE"] by decide)

theorem segment_pay {e : Engine} {t : Txn} {tr : Trace} (hnn : NonNegative tr)
    (h : Stops (.call (.dispenseCoins (t.quarters - t.dispensed)) fun st =>
      .call (.append (withPayout t st)) fun _ => afterPayout e (withPayout t st) st) tr) : Segment t tr := by
  rcases stops_call.mp h with rfl | ⟨st, tr', rfl, h'⟩
  · exact segment_nil t
  · refine Segment.cons ?_ rfl
    rcases stops_call.mp h' with rfl | ⟨b, tr'', rfl, h''⟩
    · exact segment_nil t
    · exact segment_payout (hnn _ st List.mem_cons_self) (tail_afterPayout h'')

theorem segment_continueTxn {e : Engine} {t : Txn} {tr : Trace} (hnn : NonNegative tr) (h : Stops (continueTxn e t) tr) :
    Segment t tr := by
  unfold continueTxn at h
  by_cases hremain : t.quarters - t.dispensed > 0
  · rw [if_pos hremain, gate] at h
    split_ifs at h
    · rcases stops_call.mp h with rfl | ⟨allowed, tr', rfl, h'⟩
      · exact segment_nil t
      · refine Segment.cons ?_ rfl
        cases allowed with
        | true => exact segment_pay (fun n st hm => hnn n st (List.mem_cons_of_mem _ hm)) h'
        | false => exact (tail_void (t := t) (by exact ⟨rfl, rfl, rfl⟩) h').segment
    · exact segment_pay hnn h
  · rw [if_neg hremain] at h
    exact ((appends_present e ⟨rfl, rfl, rfl⟩).tail (by omega) h).segment

theorem not_dispensing : ∀ w ∈ endings, ascii "DISPENSING" ∉ w := by decide

theorem Shown.not_dispensing {tr : Trace} {w : List Bytes} (h : w = [] ∨ Shown tr w) : ascii "DISPENSING" ∉ w := by
  rcases h with rfl | h
  · exact List.not_mem_nil
  · obtain ⟨w', hw', hpre⟩ := h.prefix
    exact fun hmem => TxnEngine.not_dispensing w' hw' (hpre.subset hmem)

/-- A payout is recorded only where coins are owed and the motion is allowed. -/
theorem stops_pays {e : Engine} {t : Txn} {tr : Trace} (h : Stops (continueTxn e t) tr)
    (hmem : ascii "DISPENSING" ∈ phases tr) : t.dispensed < t.quarters ∧ motionAllowed e tr := by
  unfold continueTxn at h
  by_cases hremain : t.quarters - t.dispensed > 0
  · rw [if_pos hremain, gate] at h
    refine ⟨by omega, fun hfm => ?_⟩
    rw [if_pos hfm] at h
    rcases stops_call.mp h with rfl | ⟨allowed, tr', rfl, h'⟩
    · cases hmem
    · cases allowed with
      | true => simp [permission]
      | false =>
        have htail : Tail t tr' := tail_void (by exact ⟨rfl, rfl, rfl⟩) h'
        exact absurd hmem (Shown.not_dispensing htail.word)
  · rw [if_neg hremain] at h
    have htail : Tail t tr := (appends_present e ⟨rfl, rfl, rfl⟩).tail (by omega) h
    exact absurd hmem (Shown.not_dispensing htail.word)

/-! ### What a whole run of it appends -/

/-- A run that ends: its phases, whether coins were paid out, and the record it returns. -/
structure Whole (e : Engine) (t : Txn) (tr : Trace) (t' : Txn) : Prop where
  word : ∃ d ∈ [[], [ascii "DISPENSING"]], ∃ w ∈ endings, phases tr = d ++ w
  paid : ascii "DISPENSING" ∈ phases tr ↔ t.dispensed < t.quarters ∧ motionAllowed e tr
  last : (appended tr).getLast? = some t'

theorem runs_void {r t' : Txn} {tr : Trace} (h : Runs (finishVoid r) tr t') :
    phases tr ∈ endings ∧ (appended tr).getLast? = some t' := by
  have hvoid : Appends r (finishVoid r) (fun _ w => w = [ascii "VOID"]) endings :=
    appends_void ⟨rfl, rfl, rfl⟩ (fun _ => rfl) (by decide)
  exact hvoid.runs tr t' h

theorem runs_afterPayout {e : Engine} {t t' : Txn} {st : DispenseStats} {tr : Trace} (h : Runs (afterPayout e t st) tr t') :
    phases tr ∈ endings ∧ (appended tr).getLast? = some t' := by
  unfold afterPayout at h
  by_cases hshort : (!st.ok || t.dispensed < t.quarters) = true
  · rw [if_pos hshort] at h
    obtain ⟨reason, h⟩ : ∃ reason, Runs (finishVoid { t with reason }) tr t' := ⟨_, h⟩
    exact runs_void h
  · rw [if_neg hshort] at h
    exact (appends_present e ⟨rfl, rfl, rfl⟩).runs tr t' h

theorem whole_tail {e : Engine} {t t' : Txn} {tr : Trace} (h : phases tr ∈ endings ∧ (appended tr).getLast? = some t')
    (hnot : ¬ (t.dispensed < t.quarters ∧ motionAllowed e tr)) : Whole e t tr t' where
  word := ⟨[], by simp, phases tr, h.1, rfl⟩
  paid := iff_of_false (not_dispensing _ h.1) hnot
  last := h.2

/-- With one. -/
theorem whole_pay {e : Engine} {t t' : Txn} {tr : Trace} (pre : Trace) (hremain : t.dispensed < t.quarters)
    (h : Runs (.call (.dispenseCoins (t.quarters - t.dispensed)) fun st =>
      .call (.append (withPayout t st)) fun _ => afterPayout e (withPayout t st) st) tr t')
    (hpre : appended pre = []) (hallowed : motionAllowed e (pre ++ tr)) : Whole e t (pre ++ tr) t' := by
  obtain ⟨st, tr', rfl, h'⟩ := runs_call.mp h
  obtain ⟨b, tr'', rfl, h''⟩ := runs_call.mp h'
  obtain ⟨hword, hlast⟩ := runs_afterPayout h''
  have happended : appended (pre ++ ⟨.dispenseCoins (t.quarters - t.dispensed), st⟩ :: ⟨.append (withPayout t st), b⟩ :: tr'') =
      withPayout t st :: appended tr'' := by
    rw [appended_append, hpre]
    rfl
  have hphases : phases (pre ++ ⟨.dispenseCoins (t.quarters - t.dispensed), st⟩ :: ⟨.append (withPayout t st), b⟩ :: tr'') =
      ascii "DISPENSING" :: phases tr'' := by
    rw [phases, happended]
    rfl
  refine ⟨⟨[ascii "DISPENSING"], by simp, phases tr'', hword, hphases⟩, ?_, ?_⟩
  · rw [hphases]
    exact iff_of_true List.mem_cons_self ⟨hremain, hallowed⟩
  · rw [happended, List.getLast?_cons, hlast]
    rfl

theorem whole_continueTxn {e : Engine} {t t' : Txn} {tr : Trace} (h : Runs (continueTxn e t) tr t') : Whole e t tr t' := by
  unfold continueTxn at h
  by_cases hremain : t.quarters - t.dispensed > 0
  · rw [if_pos hremain, gate] at h
    have hlt : t.dispensed < t.quarters := by omega
    by_cases hfm : e.fm = true
    · rw [if_pos hfm] at h
      obtain ⟨allowed, tr', rfl, h'⟩ := runs_call.mp h
      cases allowed with
      | true => exact whole_pay [⟨.checkAndBlockMotion, true⟩] hlt h' rfl fun _ => by simp [permission]
      | false =>
        have hvoid : Runs (finishVoid { t with reason := ascii "FAULT" }) tr' t' := h'
        have hend := runs_void hvoid
        refine whole_tail hend fun hpaid => hpaid.2 hfm ?_
        simp [permission]
    · rw [if_neg hfm] at h
      exact whole_pay [] hlt h rfl fun hfm' => absurd hfm' hfm
  · rw [if_neg hremain] at h
    exact whole_tail ((appends_present e ⟨rfl, rfl, rfl⟩).runs tr t' h) fun hpaid => hremain (by omega)

/-! ### The journal of a purchase -/

/-- The journal after the effects `tr` of a purchase that began with `t`, its first record made. -/
structure Kept (t : Txn) (tr : Trace) : Prop where
  ids : ∀ r ∈ appended tr, r.id = t.id
  counts : (appended tr).Pairwise fun r s => r.dispensed ≤ s.dispensed
  enough : ∀ r ∈ appended tr, r.phase ∈ [ascii "PRESENTING", ascii "CLOSED", ascii "DONE"] → r.quarters ≤ r.dispensed
  word : ∃ n w, phases tr = ascii "PENDING" :: List.replicate n (ascii "DISPENSING") ++ w ∧ (w = [] ∨ Shown tr w)

theorem Kept.sound {t : Txn} {tr : Trace} (h : Kept t tr) : Sound t tr := by
  refine ⟨h.ids, h.counts, fun r hr hdone => ⟨h.enough r hr (by rw [hdone]; decide), ?_⟩⟩
  obtain ⟨n, w, hphases, hw⟩ := h.word
  have hmem : ascii "DONE" ∈ phases tr := hdone ▸ List.mem_map_of_mem hr
  have hdistinct : ascii "DONE" ≠ ascii "PENDING" ∧ ascii "DONE" ≠ ascii "DISPENSING" ∧ ascii "DONE" ≠ ascii "VOID" ∧
      ascii "DONE" ≠ ascii "PRESENTING" ∧ ascii "DONE" ≠ ascii "CLOSED" := by decide
  obtain ⟨hpending, hdispensing, hvoid, hpresenting, hclosed⟩ := hdistinct
  have hmem' : ascii "DONE" ∈ w := by
    rw [hphases] at hmem
    simpa [hpending, hdispensing, List.mem_replicate] using hmem
  rcases hw with rfl | hw
  · cases hmem'
  · cases hw with
    | void => simp [hvoid] at hmem'
    | shown => simp [hpresenting] at hmem'
    | shut hopened hshut =>
      cases hshut with
      | void => simp [hpresenting, hvoid] at hmem'
      | closed => simp [hpresenting, hclosed] at hmem'
      | done hclose => exact ⟨hopened, hclose⟩

/-- Where the journal stands when `r` is its last record: before the coins are shown, while they are, or at an end. -/
inductive Stands (tr : Trace) (r : Txn) (n : ℕ) : Prop where
  | paying (hword : phases tr = ascii "PENDING" :: List.replicate n (ascii "DISPENSING"))
    (hphase : r.phase = ascii "PENDING" ∨ r.phase = ascii "DISPENSING")
  | shown (hword : phases tr = ascii "PENDING" :: List.replicate n (ascii "DISPENSING") ++ [ascii "PRESENTING"])
    (hopened : Opened tr) (hphase : r.phase = ascii "PRESENTING")
  | ended (w : List Bytes) (hw : w ∈ [ascii "PRESENTING", ascii "CLOSED"] :: endings)
    (hword : phases tr = ascii "PENDING" :: List.replicate n (ascii "DISPENSING") ++ w) (hended : Ended r)

theorem Kept.stands {t r : Txn} {tr : Trace} (h : Kept t tr) (hr : (appended tr).getLast? = some r) : ∃ n, Stands tr r n := by
  obtain ⟨n, w, hphases, hw⟩ := h.word
  have hlast : (phases tr).getLast? = some r.phase := by rw [phases, List.getLast?_map, hr]; rfl
  rw [hphases] at hlast
  refine ⟨n, ?_⟩
  rcases hw with rfl | hw
  · rw [List.append_nil] at hphases hlast
    refine .paying hphases ?_
    cases n with
    | zero => exact Or.inl (by simpa using hlast.symm)
    | succ n => exact Or.inr (by simpa [List.replicate_succ', List.getLast?_cons] using hlast.symm)
  · cases hw with
    | void => exact .ended _ (by decide) hphases (Or.inl (by simpa [List.getLast?_cons] using hlast.symm))
    | shown hopened => exact .shown hphases hopened (by simpa [List.getLast?_cons] using hlast.symm)
    | shut _ hshut =>
      cases hshut with
      | void => exact .ended _ (by decide) hphases (Or.inl (by simpa [List.getLast?_cons] using hlast.symm))
      | closed => exact .ended _ (by decide) hphases (Or.inr (Or.inl (by simpa [List.getLast?_cons] using hlast.symm)))
      | done => exact .ended _ (by decide) hphases (Or.inr (Or.inr (by simpa [List.getLast?_cons] using hlast.symm)))

/-- More records of the transaction, all with one count that is not below the last. -/
theorem Kept.extend {t r : Txn} {tr seg : Trace} (h : Kept t tr) (hr : (appended tr).getLast? = some r)
    (hids : ∀ x ∈ appended seg, x.id = r.id) (hlevel : ∃ n, r.dispensed ≤ n ∧ ∀ x ∈ appended seg, x.dispensed = n)
    (henough : ∀ x ∈ appended seg, x.phase ∈ [ascii "PRESENTING", ascii "CLOSED", ascii "DONE"] → x.quarters ≤ x.dispensed)
    (hword : ∃ n w, phases (tr ++ seg) = ascii "PENDING" :: List.replicate n (ascii "DISPENSING") ++ w ∧
      (w = [] ∨ Shown (tr ++ seg) w)) : Kept t (tr ++ seg) := by
  obtain ⟨old, hold⟩ := List.getLast?_eq_some_iff.mp hr
  obtain ⟨n, hn, hseg⟩ := hlevel
  have hmem : r ∈ appended tr := by rw [hold]; simp
  refine ⟨?_, ?_, ?_, hword⟩
  · rw [appended_append]
    exact List.forall_mem_append.mpr ⟨h.ids, fun x hx => (hids x hx).trans (h.ids r hmem)⟩
  · rw [appended_append, List.pairwise_append]
    refine ⟨h.counts, List.pairwise_of_forall_mem_list fun x hx y hy => by rw [hseg x hx, hseg y hy], fun x hx y hy => ?_⟩
    have hx' : x.dispensed ≤ r.dispensed := by
      have hcounts := h.counts
      rw [hold] at hx hcounts
      rcases List.mem_append.mp hx with hx | hx
      · exact (List.pairwise_append.mp hcounts).2.2 x hx r (by simp)
      · rw [List.mem_singleton.mp hx]
    rw [hseg y hy]
    omega
  · rw [appended_append]
    exact List.forall_mem_append.mpr ⟨h.enough, henough⟩

/-- A payout more, or none, and what comes after it. -/
theorem phases_paying {tr seg : Trace} {n : ℕ} {d w : List Bytes}
    (hword : phases tr = ascii "PENDING" :: List.replicate n (ascii "DISPENSING")) (hd : d ∈ [[], [ascii "DISPENSING"]])
    (hphases : phases seg = d ++ w) :
    ∃ n, phases (tr ++ seg) = ascii "PENDING" :: List.replicate n (ascii "DISPENSING") ++ w := by
  simp only [List.mem_cons, List.not_mem_nil, or_false] at hd
  rcases hd with rfl | rfl
  · exact ⟨n, by rw [phases_append, hword, hphases]; rfl⟩
  · exact ⟨n + 1, by rw [phases_append, hword, hphases, List.replicate_succ']; simp⟩

theorem last_append {tr seg : Trace} {t : Txn} (hlast : (appended seg).getLast? = some t) :
    (appended (tr ++ seg)).getLast? = some t := by
  rw [appended_append, List.getLast?_append, hlast]
  rfl

/-- The journal goes on with what `continue_txn` appends. -/
theorem Kept.segment {t r : Txn} {tr seg : Trace} (h : Kept t tr) (hr : (appended tr).getLast? = some r) {n : ℕ}
    (hword : phases tr = ascii "PENDING" :: List.replicate n (ascii "DISPENSING")) (hseg : Segment r seg) :
    Kept t (tr ++ seg) := by
  refine h.extend hr (fun x hx => (hseg.kin x hx).1) hseg.level hseg.enough ?_
  obtain ⟨d, hd, w, hphases, hw⟩ := hseg.word
  have hw' : w = [] ∨ Shown (tr ++ seg) w := hw.imp id fun hw => hw.append_right tr
  obtain ⟨n', hword'⟩ := phases_paying hword hd hphases
  exact ⟨n', w, hword', hw'⟩

/-- The journal goes on with what closing the shutter appends. -/
theorem Kept.shut {e : Engine} {t r : Txn} {tr seg : Trace} (h : Kept t tr) (hr : (appended tr).getLast? = some r) {n : ℕ}
    (hword : phases tr = ascii "PENDING" :: List.replicate n (ascii "DISPENSING") ++ [ascii "PRESENTING"])
    (hopened : Opened tr) (hphase : r.phase = ascii "PRESENTING") (hstops : Stops (closeShutter e r) seg) :
    Kept t (tr ++ seg) := by
  obtain ⟨hkeeps, hphases⟩ := (appends_closeShutter e ⟨rfl, rfl, rfl⟩).stops seg hstops
  have henough : r.quarters ≤ r.dispensed := by
    have hmem : r ∈ appended tr := List.mem_of_getLast? hr
    exact h.enough r hmem (by rw [hphase]; decide)
  refine h.extend hr (fun x hx => (hkeeps x hx).1) ⟨r.dispensed, le_rfl, fun x hx => (hkeeps x hx).2.2⟩ (fun x hx _ => ?_)
    ⟨n, ascii "PRESENTING" :: phases seg, by rw [phases_append, hword]; simp, Or.inr ?_⟩
  · obtain ⟨-, hquarters, hdispensed⟩ := hkeeps x hx
    omega
  · rcases hphases with hnil | hshut
    · rw [hnil]
      exact .shown (hopened.append_left seg)
    · exact .shut (hopened.append_left seg) (hshut.append_right tr)

/-! ### Purchases, restarts and what follows them -/

/-- A purchase up to any point after its first record. -/
theorem kept_purchase {e : Engine} {ns price deposit : Int} {tr : Trace} (hnn : NonNegative tr)
    (h : Stops (runPurchase e ns price deposit) tr) (hne : appended tr ≠ []) : Kept (newTxn e ns price deposit) tr := by
  rcases stops_call.mp h with rfl | ⟨b, tr', rfl, h'⟩
  · exact absurd rfl hne
  · have hfirst : Kept (newTxn e ns price deposit) [⟨.append (newTxn e ns price deposit), b⟩] := by
      refine ⟨by simp, by simp, ?_, 0, [], rfl, Or.inl rfl⟩
      intro r hr hphase
      obtain rfl := List.mem_singleton.mp hr
      exact absurd hphase (show ascii "PENDING" ∉ [ascii "PRESENTING", ascii "CLOSED", ascii "DONE"] by decide)
    have hseg := segment_continueTxn (fun n st hm => hnn n st (List.mem_cons_of_mem _ hm)) h'
    exact hfirst.segment (n := 0) rfl rfl hseg

theorem resume_paying {e : Engine} {r : Txn} (h : r.phase = ascii "PENDING" ∨ r.phase = ascii "DISPENSING") :
    resumeIfNeeded e (some r) = continueTxn e r := if_pos h

theorem resume_shown {e : Engine} {r : Txn} (h : r.phase = ascii "PRESENTING") :
    resumeIfNeeded e (some r) = closeShutter e r := by
  have hnot : ¬ (r.phase = ascii "PENDING" ∨ r.phase = ascii "DISPENSING") := by
    rw [h]
    decide
  exact (if_neg hnot).trans (if_pos h)

theorem resume_ended {e : Engine} {r : Txn} (h : Ended r) : resumeIfNeeded e (some r) = .ret r := by
  have hnot : ¬ (r.phase = ascii "PENDING" ∨ r.phase = ascii "DISPENSING") ∧ r.phase ≠ ascii "PRESENTING" := by
    rcases h with h | h | h <;> rw [h] <;> decide
  exact (if_neg hnot.1).trans (if_neg hnot.2)

/-- A restart keeps the journal, wherever it is stopped. -/
theorem Kept.resume {e : Engine} {t r : Txn} {tr seg : Trace} (h : Kept t tr) (hr : (appended tr).getLast? = some r)
    (hnn : NonNegative seg) (hstops : Stops (resumeIfNeeded e (some r)) seg) : Kept t (tr ++ seg) := by
  obtain ⟨n, hstands⟩ := h.stands hr
  cases hstands with
  | paying hword hphase =>
    rw [resume_paying hphase] at hstops
    exact h.segment hr hword (segment_continueTxn hnn hstops)
  | shown hword hopened hphase =>
    rw [resume_shown hphase] at hstops
    exact h.shut hr hword hopened hphase hstops
  | ended w _ _ hended =>
    rw [resume_ended hended] at hstops
    obtain rfl := stops_ret.mp hstops
    rw [List.append_nil]
    exact h

theorem loadLast_append {old : List Txn} {tr : Trace} {r : Txn} (hne : appended tr ≠ [])
    (hr : loadLast (old ++ appended tr) = some r) : (appended tr).getLast? = some r := by
  rwa [loadLast, List.getLast?_append_of_ne_nil _ hne] at hr

/-- A purchase stopped and restarted any number of times. -/
theorem kept_run {e : Engine} {old : List Txn} {ns price deposit : Int} {first tr : Trace} {segs : List Trace}
    (hfirst : Stops (runPurchase e ns price deposit) first) (hrun : Run (restart e old) first segs tr)
    (hne : appended tr ≠ []) (hnn : NonNegative tr) : Kept (newTxn e ns price deposit) tr := by
  have hinv : appended tr ≠ [] → NonNegative tr → Kept (newTxn e ns price deposit) tr := by
    refine hrun.invariant (I := fun tr => appended tr ≠ [] → NonNegative tr → Kept _ tr)
      (fun hne hnn => kept_purchase hnn hfirst hne) ?_
    rintro tr seg _ ih ⟨hne, hstops, rfl⟩ - hnn
    obtain ⟨r, hr⟩ : ∃ r, loadLast (old ++ appended tr) = some r := by
      rw [loadLast, List.getLast?_append_of_ne_nil _ hne]
      exact Option.ne_none_iff_exists'.mp (by simpa using hne)
    rw [hr] at hstops
    exact (ih hne fun n st hm => hnn n st (List.mem_append_left _ hm)).resume (loadLast_append hne hr)
      (fun n st hm => hnn n st (List.mem_append_right _ hm)) hstops
  exact hinv hne hnn

theorem ended_of_word {tr : Trace} {t : Txn} {pre w : List Bytes} (hw : w ∈ endings) (hphases : phases tr = pre ++ w)
    (hlast : (appended tr).getLast? = some t) : Ended t := by
  have hphase : (phases tr).getLast? = some t.phase := by rw [phases, List.getLast?_map, hlast]; rfl
  rw [hphases] at hphase
  simp only [endings, List.mem_cons, List.not_mem_nil, or_false] at hw
  rcases hw with rfl | rfl | rfl
  · exact Or.inl (by simpa [List.getLast?_append] using hphase.symm)
  · exact Or.inl (by simpa [List.getLast?_append] using hphase.symm)
  · exact Or.inr (Or.inr (by simpa [List.getLast?_append] using hphase.symm))

theorem remainders_paying {phase : Bytes} (h : phase = ascii "PENDING" ∨ phase = ascii "DISPENSING") :
    remainders phase = endings := if_pos h

/-- A restart that is stopped. -/
theorem Kept.interrupted {e : Engine} {t r : Txn} {tr seg : Trace} (h : Kept t tr) (hr : (appended tr).getLast? = some r)
    (hnn : NonNegative seg) (hstops : Stops (resumeIfNeeded e (some r)) seg) : Interrupted e t r tr seg := by
  have hsound := (h.resume hr hnn hstops).sound
  obtain ⟨n, hstands⟩ := h.stands hr
  cases hstands with
  | paying _ hphase =>
    rw [resume_paying hphase] at hstops
    obtain ⟨d, hd, w, hphases, hw⟩ := (segment_continueTxn hnn hstops).word
    obtain ⟨w', hw', hpre⟩ : ∃ w' ∈ endings, w <+: w' := by
      rcases hw with rfl | hw
      · exact ⟨_, List.mem_cons_self, List.nil_prefix⟩
      · exact hw.prefix
    exact { hsound with
      part := ⟨d, hd, w', by rw [remainders_paying hphase]; exact hw', w, hpre, hphases⟩
      paid := fun hmem => ⟨hphase, stops_pays hstops hmem⟩ }
  | shown _ _ hphase =>
    rw [resume_shown hphase] at hstops
    obtain ⟨-, hphases⟩ := (appends_closeShutter e ⟨rfl, rfl, rfl⟩).stops seg hstops
    have hrest : ∃ w ∈ remainders r.phase, phases seg <+: w := by
      rw [hphase]
      rcases hphases with hnil | hshut
      · rw [hnil]
        exact ⟨[ascii "VOID"], by decide, List.nil_prefix⟩
      · obtain ⟨w, hw, hpre⟩ := hshut.prefix
        exact ⟨w, hw, hpre⟩
    obtain ⟨w, hw, hpre⟩ := hrest
    have hpaid : ascii "DISPENSING" ∉ phases seg := by
      have hnot : ∀ w ∈ remainders (ascii "PRESENTING"), ascii "DISPENSING" ∉ w := by decide
      exact fun hmem => hnot w (hphase ▸ hw) (hpre.subset hmem)
    exact { hsound with part := ⟨[], by simp, w, hw, phases seg, hpre, rfl⟩, paid := fun hmem => absurd hmem hpaid }
  | ended _ _ _ hended =>
    rw [resume_ended hended] at hstops
    obtain rfl := stops_ret.mp hstops
    have hrest : [] ∈ remainders r.phase := by
      rcases hended with h | h | h <;> rw [h] <;> decide
    exact { hsound with part := ⟨[], by simp, [], hrest, [], List.nil_prefix, rfl⟩, paid := fun hmem => by cases hmem }

/-- A restart that runs to its end. -/
theorem Kept.recovered {e : Engine} {t r t' : Txn} {tr seg : Trace} (h : Kept t tr) (hr : (appended tr).getLast? = some r)
    (hnn : NonNegative seg) (hruns : Runs (resumeIfNeeded e (some r)) seg t') : Recovered e t r tr seg t' := by
  have hsound := (h.resume hr hnn hruns.stops).sound
  obtain ⟨n, hstands⟩ := h.stands hr
  cases hstands with
  | paying hword hphase =>
    rw [resume_paying hphase] at hruns
    obtain ⟨⟨d, hd, w, hw, hphases⟩, hpaid, hlast⟩ := whole_continueTxn hruns
    have hlast' : (appended (tr ++ seg)).getLast? = some t' := last_append hlast
    obtain ⟨n', hword'⟩ := phases_paying hword hd hphases
    exact { hsound with
      word := ⟨n', w, List.mem_cons_of_mem _ hw, hword'⟩
      part := ⟨d, hd, w, by rw [remainders_paying hphase]; exact hw, hphases⟩
      paid := by rw [hpaid]; simp [Pays, hphase]
      last := hlast'
      ended := ended_of_word hw hword' hlast' }
  | shown hword _ hphase =>
    rw [resume_shown hphase] at hruns
    obtain ⟨hphases, hlast⟩ := (appends_closeShutter e ⟨rfl, rfl, rfl⟩).runs seg t' hruns
    have hlast' : (appended (tr ++ seg)).getLast? = some t' := last_append hlast
    have hword' : phases (tr ++ seg) =
        (ascii "PENDING" :: List.replicate n (ascii "DISPENSING")) ++ (ascii "PRESENTING" :: phases seg) := by
      rw [phases_append, hword]
      simp
    have hend : ascii "PRESENTING" :: phases seg ∈ endings := by
      simp only [List.mem_cons, List.not_mem_nil, or_false] at hphases
      rcases hphases with h | h <;> rw [h] <;> decide
    have hpaid : ¬ ascii "DISPENSING" ∈ phases seg := fun hmem =>
      not_dispensing _ hend (List.mem_cons_of_mem _ hmem)
    have hnot : ¬ (r.phase = ascii "PENDING" ∨ r.phase = ascii "DISPENSING") := by
      rw [hphase]
      decide
    exact { hsound with
      word := ⟨n, _, List.mem_cons_of_mem _ hend, hword'⟩
      part := ⟨[], by simp, phases seg, by rw [hphase]; exact hphases, rfl⟩
      paid := iff_of_false hpaid fun hpay => hnot hpay.1
      last := hlast'
      ended := ended_of_word hend hword' hlast' }
  | ended w hw hword hended =>
    rw [resume_ended hended] at hruns
    obtain ⟨rfl, rfl⟩ := runs_ret.mp hruns
    have hnot : ¬ (t'.phase = ascii "PENDING" ∨ t'.phase = ascii "DISPENSING") ∧ [] ∈ remainders t'.phase := by
      rcases hended with h | h | h <;> rw [h] <;> decide
    exact { hsound with
      word := ⟨n, w, hw, by rw [List.append_nil]; exact hword⟩
      part := ⟨[], by simp, [], hnot.2, rfl⟩
      paid := iff_of_false (by simp) fun hpay => hnot.1 hpay.1
      last := by rw [List.append_nil]; exact hr
      ended := hended }

/-! ### The journal on disk -/

theorem Durable.left {tr tr' : Trace} (h : Durable (tr ++ tr')) : Durable tr := fun ev hm => h ev (List.mem_append_left _ hm)

theorem Durable.journaled {tr : Trace} (h : Durable tr) : journaled tr = appended tr := by
  refine List.filterMap_congr fun ev hev => ?_
  obtain ⟨f, a⟩ := ev
  cases f with
  | append t =>
    cases a with
    | true => rfl
    | false => exact absurd (h _ hev) Bool.false_ne_true
  | _ => rfl

theorem Durable.restart {e : Engine} {old : List Txn} {first tr : Trace} {segs : List Trace}
    (h : Run (reopen e old) first segs tr) (hd : Durable tr) : Run (restart e old) first segs tr := by
  induction h with
  | nil => exact .nil
  | snoc _ hstep ih =>
    obtain ⟨hne, hstops, rfl⟩ := hstep
    have hdurable := hd.left.journaled
    rw [hdurable] at hne hstops
    exact .snoc (ih hd.left) ⟨hne, hstops, rfl⟩

end Drawer.TxnEngine
