import Drawer.Spec.Faults

/-! Motions and the fault gate. `continue_txn` checks before each of its three
motions; the recovery of a transaction that was presenting closes the shutter
without a check. -/

namespace Drawer.TxnEngine
open Text Effect Journal Transition

/-! ### The gate as a flag -/

/-- Every motion of `tr` uses up a permission; `allowed` says whether there is one at the start. -/
def gatedFrom : Bool → Trace → Bool
  | _, [] => true
  | _, ⟨.checkAndBlockMotion, r⟩ :: tr => gatedFrom r tr
  | allowed, ⟨.append _, _⟩ :: tr => gatedFrom allowed tr
  | allowed, ⟨.dispenseCoins _, _⟩ :: tr => allowed && gatedFrom false tr
  | allowed, ⟨.openMm _, _⟩ :: tr => allowed && gatedFrom false tr
  | allowed, ⟨.closeMm _, _⟩ :: tr => allowed && gatedFrom false tr

/-- However `p` is stopped, it has moved nothing without a permission. -/
def Permitted (allowed : Bool) (p : Prog) : Prop := ∀ tr, Stops p tr → gatedFrom allowed tr = true

theorem permitted_ret (allowed : Bool) (t : Txn) : Permitted allowed (.ret t) := by
  intro tr h
  obtain rfl := stops_ret.mp h
  rfl

theorem permitted_append {allowed : Bool} {t : Txn} {k : Bool → Prog} (hk : ∀ b, Permitted allowed (k b)) :
    Permitted allowed (.call (.append t) k) := by
  intro tr h
  rcases stops_call.mp h with rfl | ⟨b, tr', rfl, h'⟩
  · rfl
  · exact hk b tr' h'

theorem permitted_finish (allowed : Bool) (t : Txn) : Permitted allowed (finish t) :=
  permitted_append fun _ => permitted_ret allowed t

theorem permitted_motion {f : Eff} (hf : ∀ r, isMotion ⟨f, r⟩ = true) {k : Ans f → Prog} (hk : ∀ r, Permitted false (k r)) :
    Permitted true (.call f k) := by
  intro tr h
  rcases stops_call.mp h with rfl | ⟨r, tr', rfl, h'⟩
  · rfl
  · have hrest := hk r tr' h'
    cases f with
    | checkAndBlockMotion => exact absurd (hf r) (by simp [isMotion])
    | append t => exact absurd (hf r) (by simp [isMotion])
    | dispenseCoins n => simpa [gatedFrom] using hrest
    | openMm mm => simpa [gatedFrom] using hrest
    | closeMm mm => simpa [gatedFrom] using hrest

section Gates
variable {e : Engine} (hfm : e.fm = true)
include hfm

theorem permitted_gate {t : Txn} {k : Prog} (allowed : Bool) (hk : Permitted true k) : Permitted allowed (gate e t k) := by
  rw [gate, if_pos hfm]
  intro tr h
  rcases stops_call.mp h with rfl | ⟨r, tr', rfl, h'⟩
  · rfl
  · cases r with
    | true => exact hk tr' h'
    | false => exact permitted_finish false _ tr' h'

omit hfm in
theorem permitted_closeShutter (e : Engine) (t : Txn) : Permitted true (closeShutter e t) := by
  refine permitted_motion (fun _ => rfl) fun r => ?_
  dsimp only
  split_ifs
  · exact permitted_finish false _
  · exact permitted_append fun _ => permitted_finish false _

theorem permitted_present (t : Txn) (allowed : Bool) : Permitted allowed (present e t) := by
  refine permitted_gate hfm allowed (permitted_motion (fun _ => rfl) fun r => ?_)
  dsimp only
  split_ifs
  · exact permitted_finish false _
  · exact permitted_append fun _ => permitted_gate hfm false (permitted_closeShutter e _)

theorem permitted_afterPayout (t : Txn) (st : DispenseStats) : Permitted false (afterPayout e t st) := by
  unfold afterPayout
  by_cases hshort : (!st.ok || decide (t.dispensed < t.quarters)) = true
  · rw [if_pos hshort]
    exact permitted_finish false _
  · rw [if_neg hshort]
    exact permitted_present hfm t false

theorem permitted_continueTxn (t : Txn) (allowed : Bool) : Permitted allowed (continueTxn e t) := by
  unfold continueTxn
  dsimp only
  split_ifs
  · refine permitted_gate hfm allowed (permitted_motion (fun _ => rfl) fun st => permitted_append fun _ => ?_)
    exact permitted_afterPayout hfm _ st
  · exact permitted_present hfm t allowed

/-- Every call but the recovery of a presenting transaction moves by permission alone. -/
theorem permitted_program {journal : List Txn} {c : EngineCall} (hc : resumesPresenting journal c = false)
    (allowed : Bool) : Permitted allowed (c.program e journal) := by
  cases c with
  | runPurchase ns price deposit => exact permitted_append fun _ => permitted_continueTxn hfm _ allowed
  | resumeIfNeeded =>
    unfold EngineCall.program TxnEngine.resumeIfNeeded
    cases hlast : loadLast journal with
    | none => exact permitted_ret allowed _
    | some t =>
      dsimp only
      split_ifs with h1 h2
      · exact permitted_continueTxn hfm t allowed
      · simp [resumesPresenting, hlast, h2] at hc
      · exact permitted_ret allowed t

end Gates

/-- A call moves by permission alone just if it does not resume a presenting transaction. -/
theorem permitted_iff {e : Engine} (hfm : e.fm = true) (journal : List Txn) (c : EngineCall) :
    Permitted false (c.program e journal) ↔ resumesPresenting journal c = false := by
  refine ⟨fun h => ?_, fun hc => permitted_program hfm hc false⟩
  rw [← Bool.not_eq_true]
  intro hc
  cases c with
  | runPurchase ns price deposit => cases hc
  | resumeIfNeeded =>
    cases hlast : loadLast journal with
    | none => simp [resumesPresenting, hlast] at hc
    | some t =>
      have hphase : t.phase = ascii "PRESENTING" := by simpa [resumesPresenting, hlast] using hc
      have hpending : ¬ (t.phase = ascii "PENDING" ∨ t.phase = ascii "DISPENSING") := by
        rw [hphase]
        decide
      have hprog : EngineCall.program e journal .resumeIfNeeded = closeShutter e t := by
        simp only [EngineCall.program, TxnEngine.resumeIfNeeded, hlast, if_neg hpending, if_pos hphase]
      rw [hprog] at h
      have hclose := h [⟨.closeMm e.cfg.openMm, { ok := true }⟩] (.call _ (.here _))
      cases hclose

theorem gatedFrom_append {tr seg : Trace} (hseg : ∀ allowed, gatedFrom allowed seg = true) (allowed : Bool)
    (htr : gatedFrom allowed tr = true) : gatedFrom allowed (tr ++ seg) = true := by
  fun_induction gatedFrom allowed tr with
  | case1 allowed => exact hseg allowed
  | case2 _ r tr ih => exact ih htr
  | case3 allowed t b tr ih => exact ih htr
  | case4 allowed n st tr ih =>
    obtain ⟨hallowed, hrest⟩ := Bool.and_eq_true_iff.mp htr
    exact Bool.and_eq_true_iff.mpr ⟨hallowed, ih hrest⟩
  | case5 allowed mm r tr ih =>
    obtain ⟨hallowed, hrest⟩ := Bool.and_eq_true_iff.mp htr
    exact Bool.and_eq_true_iff.mpr ⟨hallowed, ih hrest⟩
  | case6 allowed mm r tr ih =>
    obtain ⟨hallowed, hrest⟩ := Bool.and_eq_true_iff.mp htr
    exact Bool.and_eq_true_iff.mpr ⟨hallowed, ih hrest⟩

/-! ### The gate in a history -/

theorem gatedFrom_motion {allowed : Bool} {motion : Sigma Ans} (hm : isMotion motion = true) {tr : Trace} :
    gatedFrom allowed (motion :: tr) = (allowed && gatedFrom false tr) := by
  obtain ⟨f, r⟩ := motion
  cases f with
  | checkAndBlockMotion => simp [isMotion] at hm
  | append t => simp [isMotion] at hm
  | dispenseCoins n => rfl
  | openMm mm => rfl
  | closeMm mm => rfl

/-- Where the permission for a motion comes from. -/
theorem permission_source {allowed : Bool} {before after : Trace} {motion : Sigma Ans} (hm : isMotion motion = true)
    (h : gatedFrom allowed (before ++ motion :: after) = true) :
    (∃ t₁ t₂, before = t₁ ++ ⟨.checkAndBlockMotion, true⟩ :: t₂ ∧ ∀ ev ∈ t₂, isMotion ev = false ∧ isCheck ev = false) ∨
      (allowed = true ∧ ∀ ev ∈ before, isMotion ev = false ∧ isCheck ev = false) := by
  induction before generalizing allowed with
  | nil =>
    rw [List.nil_append, gatedFrom_motion hm, Bool.and_eq_true_iff] at h
    exact Or.inr ⟨h.1, by simp⟩
  | cons ev before ih =>
    have hfirst : ∀ b, gatedFrom b (before ++ motion :: after) = true → (b = true → ev = ⟨.checkAndBlockMotion, true⟩) →
        ∃ t₁ t₂, ev :: before = t₁ ++ ⟨.checkAndBlockMotion, true⟩ :: t₂ ∧
          ∀ ev ∈ t₂, isMotion ev = false ∧ isCheck ev = false := by
      intro b hb hev
      rcases ih hb with ⟨t₁, t₂, rfl, hquiet⟩ | ⟨hallowed, hquiet⟩
      · exact ⟨ev :: t₁, t₂, rfl, hquiet⟩
      · exact ⟨[], before, by rw [hev hallowed]; rfl, hquiet⟩
    by_cases hmotion : isMotion ev = true
    · rw [List.cons_append, gatedFrom_motion hmotion, Bool.and_eq_true_iff] at h
      exact Or.inl (hfirst false h.2 (by simp))
    · obtain ⟨f, r⟩ := ev
      cases f with
      | checkAndBlockMotion => exact Or.inl (hfirst r h fun hr => by rw [hr])
      | append t =>
        rcases ih h with ⟨t₁, t₂, rfl, hquiet⟩ | ⟨hallowed, hquiet⟩
        · exact Or.inl ⟨⟨.append t, r⟩ :: t₁, t₂, rfl, hquiet⟩
        · exact Or.inr ⟨hallowed, List.forall_mem_cons.mpr ⟨⟨rfl, rfl⟩, hquiet⟩⟩
      | dispenseCoins n => exact absurd rfl hmotion
      | openMm mm => exact absurd rfl hmotion
      | closeMm mm => exact absurd rfl hmotion

theorem effects_append (h h' : List Happening) : effects (h ++ h') = effects h ++ effects h' := List.filterMap_append

theorem effects_split {h : List Happening} {t₁ t₂ : Trace} {ev : Sigma Ans} (heq : effects h = t₁ ++ ev :: t₂) :
    ∃ b₁ b₂, h = b₁ ++ .effect ev :: b₂ ∧ effects b₂ = t₂ := by
  obtain ⟨b₁, rest, rfl, -, hrest⟩ := List.filterMap_eq_append_iff.mp heq
  obtain ⟨skipped, x, b₂, rfl, hskip, hx, hb₂⟩ := List.filterMap_eq_cons_iff.mp hrest
  have hev : x = .effect ev := by
    cases x with
    | effect ev' => exact congrArg Happening.effect (Option.some.inj hx)
    | raise code reason latch nowNs => cases hx
    | clear code => cases hx
  exact ⟨b₁ ++ skipped, b₂, by rw [hev, List.append_assoc], hb₂⟩

theorem faults_of_allowed {fm : FaultManager} (h : fm.checkAndBlockMotion = true) : fm.faults = ∅ := by
  have hnil : fm.faults.entries = [] := by
    simpa [FaultManager.checkAndBlockMotion, FaultManager.anyActive] using h
  exact AList.ext hnil

theorem faultGated_of_gatedFrom {fm : FaultManager} {h : List Happening} (hans : Answered fm h)
    (hgate : gatedFrom false (effects h) = true) : FaultGated fm h := by
  rintro before motion after rfl hm
  have hcut : effects (before ++ .effect motion :: after) = effects before ++ motion :: effects after := by
    rw [effects_append]
    rfl
  rw [hcut] at hgate
  rcases permission_source hm hgate with ⟨t₁, t₂, ht, hquiet⟩ | ⟨hfalse, -⟩
  · obtain ⟨b₁, b₂, rfl, hb₂⟩ := effects_split ht
    refine ⟨b₁, b₂, rfl, fun ev hev => hquiet ev ?_, faults_of_allowed ?_⟩
    · rw [← hb₂]
      exact List.mem_filterMap.mpr ⟨_, hev, rfl⟩
    · exact (hans b₁ true (b₂ ++ .effect motion :: after) (by simp)).symm
  · cases hfalse

/-- Along every run in which no call resumes a presenting transaction, each motion is gated, however faults come
and go. -/
theorem faultGated_run (e : Engine) (hfm : e.fm = true) (old : List Txn) (calls : List EngineCall) (fm : FaultManager)
    (h : List Happening) (hans : Answered fm h)
    (hrun : Run (guarded (fun tr c => resumesPresenting (old ++ appended tr) c = false) (called e old)) [] calls (effects h)) :
    FaultGated fm h := by
  refine faultGated_of_gatedFrom hans ?_
  refine hrun.invariant (I := fun tr => gatedFrom false tr = true) rfl ?_
  rintro tr c tr' htr ⟨hc, seg, hseg, rfl⟩
  exact gatedFrom_append (fun allowed => permitted_program hfm hc allowed seg hseg) false htr

theorem answered_nil (fm : FaultManager) : Answered fm [] := by
  intro before allowed after heq
  exact absurd heq (by simp)

theorem answered_cons {fm : FaultManager} {x : Happening} {h : List Happening} :
    Answered fm (x :: h) ↔
      (∀ allowed, x = .effect ⟨.checkAndBlockMotion, allowed⟩ → allowed = fm.checkAndBlockMotion) ∧
        Answered (change fm x) h := by
  refine ⟨fun hans => ⟨?_, ?_⟩, fun ⟨hx, hans⟩ before allowed after heq => ?_⟩
  · rintro allowed rfl
    exact hans [] allowed h rfl
  · rintro before allowed after rfl
    exact hans (x :: before) allowed after rfl
  · cases before with
    | nil => exact hx allowed (List.cons.inj heq).1
    | cons y before =>
      obtain ⟨rfl, htail⟩ := List.cons.inj heq
      exact hans before allowed after htail

/-- A purchase without change: the shutter opens, then the lid is opened, and the shutter stays as it is. -/
def lidOpened : List Happening :=
  let t := newTxn {} 0 100 100
  [.effect ⟨.append t, true⟩, .effect ⟨.checkAndBlockMotion, true⟩, .effect ⟨.openMm 40, { ok := true }⟩,
   .effect ⟨.append { t with phase := ascii "PRESENTING" }, true⟩, .raise .lidTamper (ascii "lid") true 0,
   .effect ⟨.checkAndBlockMotion, false⟩]

theorem faultGated_run_lid : FaultGated {} lidOpened := by
  refine faultGated_run {} rfl [] [.runPurchase 0 100 100] {} lidOpened ?_ (.snoc .nil ⟨rfl, _, stops_of_replay ?_, rfl⟩)
  · simp only [lidOpened, answered_cons, answered_nil, and_true, Happening.effect.injEq]
    simp [change, FaultManager.checkAndBlockMotion, FaultManager.anyActive, FaultManager.raise]
  · decide

/-- Under an emergency stop, the recovery of a presenting transaction closes the shutter. -/
theorem closed_under_estop :
    ¬ ∀ (e : Engine) (old : List Txn) (calls : List EngineCall) (fm : FaultManager) (h : List Happening),
      e.fm = true → Answered fm h → Run (called e old) [] calls (effects h) → FaultGated fm h := by
  intro hclaim
  let close : Sigma Ans := ⟨.closeMm 40, { ok := true }⟩
  have hbad := hclaim {} [{ phase := ascii "PRESENTING" }] [.resumeIfNeeded] {}
    [.raise .estop (ascii "estop") true 0, .effect close] rfl
    (by simp [answered_cons, answered_nil, close]) (.snoc .nil ⟨[close], stops_of_replay (by decide), rfl⟩)
  obtain ⟨b₁, b₂, heq, -⟩ := hbad [.raise .estop (ascii "estop") true 0] close [] rfl rfl
  cases b₁ with
  | nil => cases heq
  | cons x b₁ => simp at heq

end Drawer.TxnEngine
