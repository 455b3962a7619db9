import Drawer.Lib.Transition
import Drawer.Spec.HttpServer

/-! Motions of commands while a transaction runs. A command reads the flag and
moves in a later step, and a transaction can take the flag in between. Where no
transaction takes the flag while a command is about to move, the two never
overlap. -/

namespace Drawer.Server
open Text Effect TxnEngine Transition

variable {ι : Type} [DecidableEq ι]

/-- The request holds the flag. -/
def Holding : Pc → Prop
  | .acquired | .purchasing _ | .releasing _ => True
  | _ => False

structure Inv (requests : ι → Request) (s : Sys ι) : Prop where
  flag : ∀ i, Holding (s.pc i) → s.inProgress = true
  alone : ∀ i j, Holding (s.pc i) → Holding (s.pc j) → i = j
  still : ∀ i j, Holding (s.pc i) → ¬ Moving requests s j
  txn : ∀ i, Holding (s.pc i) → (requests i).isCommand = false
  held : ∀ i, (i, Act.acquire) ∈ s.log → Holding (s.pc i) ∨ (i, Act.release) ∈ s.log
  exclusive : Exclusive requests s.log

omit [DecidableEq ι] in
theorem inv_init (requests : ι → Request) : Inv requests ({} : Sys ι) where
  flag _ h := h.elim
  alone _ _ h := h.elim
  still _ _ h := h.elim
  txn _ h := h.elim
  held _ h := absurd h List.not_mem_nil
  exclusive before j f after h := by simp at h

omit [DecidableEq ι] in
theorem exclusive_snoc {requests : ι → Request} {log : List (ι × Act)} (h : Exclusive requests log) (i : ι) (act : Act)
    (hact : ∀ f, act = .effect f → (requests i).isCommand = true → handsOut f = true →
      ∀ j, (j, Act.acquire) ∈ log → (j, Act.release) ∈ log) : Exclusive requests (log ++ [(i, act)]) := by
  intro before j f after hlog hcmd hf
  rcases split_snoc hlog with ⟨after', hlog', -⟩ | ⟨rfl, hev, -⟩
  · exact h before j f after' hlog' hcmd hf
  · obtain ⟨rfl, rfl⟩ := Prod.mk.inj hev
    exact hact f rfl hcmd hf

omit [DecidableEq ι] in
theorem Inv.none_holding {requests : ι → Request} {s : Sys ι} (h : Inv requests s) (hidle : s.inProgress = false) (i : ι) :
    ¬ Holding (s.pc i) := fun hi => by simp [h.flag i hi] at hidle

theorem holding_update {pc : ι → Pc} {i j : ι} {p : Pc} (h : Holding (Function.update pc i p j)) :
    (j = i ∧ Holding p) ∨ (j ≠ i ∧ Holding (pc j)) := by
  by_cases hji : j = i
  · subst hji
    exact Or.inl ⟨rfl, by rwa [Function.update_self] at h⟩
  · exact Or.inr ⟨hji, by rwa [Function.update_of_ne hji] at h⟩

/-- A step of `i` to `p` keeps the invariant if it leaves the flag set for whoever else holds it, takes it only
when no command is about to move, and tells the truth in the log. -/
theorem Inv.update {requests : ι → Request} {s : Sys ι} (h : Inv requests s) (i : ι) {p : Pc} {b : Bool}
    {log : List (ι × Act)} (hothers : ∀ j, j ≠ i → Holding (s.pc j) → b = true ∧ ¬ Holding p ∧ p ≠ .passed)
    (htake : Holding p → b = true ∧ (requests i).isCommand = false ∧ ∀ j, ¬ Moving requests s j)
    (hold : s.log ⊆ log) (hacq : ∀ j, (j, Act.acquire) ∈ log → (j, Act.acquire) ∈ s.log ∨ (j = i ∧ Holding p))
    (hrel : Holding (s.pc i) → Holding p ∨ (i, Act.release) ∈ log) (hexcl : Exclusive requests log) :
    Inv requests { inProgress := b, pc := Function.update s.pc i p, log := log } where
  flag j hj := by
    rcases holding_update hj with ⟨-, hp⟩ | ⟨hji, hj⟩
    · exact (htake hp).1
    · exact (hothers j hji hj).1
  alone j k hj hk := by
    rcases holding_update hj with ⟨hji, hp⟩ | ⟨hji, hj⟩
    · rcases holding_update hk with ⟨hki, -⟩ | ⟨hki, hk⟩
      · rw [hji, hki]
      · exact absurd hp (hothers k hki hk).2.1
    · rcases holding_update hk with ⟨-, hp⟩ | ⟨-, hk⟩
      · exact absurd hp (hothers j hji hj).2.1
      · exact h.alone j k hj hk
  still j k hj hmoving := by
    obtain ⟨hpc, hbody⟩ := hmoving
    dsimp only at hpc
    by_cases hki : k = i
    · subst hki
      rw [Function.update_self] at hpc
      subst hpc
      rcases holding_update hj with ⟨-, hp⟩ | ⟨hjk, hj⟩
      · exact hp
      · exact (hothers j hjk hj).2.2 rfl
    · rw [Function.update_of_ne hki] at hpc
      rcases holding_update hj with ⟨-, hp⟩ | ⟨-, hj⟩
      · exact (htake hp).2.2 k ⟨hpc, hbody⟩
      · exact h.still j k hj ⟨hpc, hbody⟩
  txn j hj := by
    rcases holding_update hj with ⟨rfl, hp⟩ | ⟨-, hj⟩
    · exact (htake hp).2.1
    · exact h.txn j hj
  held j hj := by
    dsimp only
    rcases hacq j hj with hj | ⟨rfl, hp⟩
    · rcases h.held j hj with hj' | hj'
      · by_cases hji : j = i
        · subst hji
          rw [Function.update_self]
          exact hrel hj'
        · rw [Function.update_of_ne hji]
          exact Or.inl hj'
      · exact Or.inr (hold hj')
    · rw [Function.update_self]
      exact Or.inl hp
  exclusive := hexcl

theorem Inv.outside {requests : ι → Request} {s : Sys ι} (h : Inv requests s) (i : ι) {p : Pc} (hi : ¬ Holding (s.pc i))
    (hp : ¬ Holding p) (hpassed : p = .passed → s.inProgress = false) :
    Inv requests { inProgress := s.inProgress, pc := Function.update s.pc i p, log := s.log } := by
  refine h.update i (fun j _ hj => ⟨h.flag j hj, hp, fun hpp => ?_⟩) (fun hh => absurd hh hp) (List.Subset.refl _)
    (fun j hj => Or.inl hj) (fun hh => absurd hh hi) h.exclusive
  exact h.none_holding (hpassed hpp) j hj

theorem Inv.moved {requests : ι → Request} {s : Sys ι} (h : Inv requests s) (i : ι) {p : Pc} {f : Eff}
    (hi : ¬ Holding (s.pc i)) (hp : ¬ Holding p) (hpassed : p ≠ .passed)
    (hidle : handsOut f = true → ∀ j, ¬ Holding (s.pc j)) :
    Inv requests { inProgress := s.inProgress, pc := Function.update s.pc i p, log := s.log ++ [(i, .effect f)] } := by
  refine h.update i (fun j _ hj => ⟨h.flag j hj, hp, hpassed⟩) (fun hh => absurd hh hp) (List.subset_append_left _ _)
    (fun j hj => Or.inl (by simpa using hj)) (fun hh => absurd hh hi) (exclusive_snoc h.exclusive i _ ?_)
  rintro g hg - hhands j hj
  obtain rfl := Act.effect.inj hg
  exact (h.held j hj).resolve_left (hidle hhands j)

theorem Inv.inside {requests : ι → Request} {s : Sys ι} (h : Inv requests s) (i : ι) {p : Pc} (hi : Holding (s.pc i))
    (hp : Holding p) : Inv requests { inProgress := s.inProgress, pc := Function.update s.pc i p, log := s.log } := by
  refine h.update i (fun j hj hhold => absurd (h.alone j i hhold hi) hj)
    (fun _ => ⟨h.flag i hi, h.txn i hi, fun j => h.still i j hi⟩) (List.Subset.refl _) (fun j hj => Or.inl hj)
    (fun _ => Or.inl hp) h.exclusive

theorem Inv.purchased {requests : ι → Request} {s : Sys ι} (h : Inv requests s) (i : ι) {p : Pc} (f : Eff)
    (hi : Holding (s.pc i)) (hp : Holding p) :
    Inv requests { inProgress := s.inProgress, pc := Function.update s.pc i p, log := s.log ++ [(i, .effect f)] } := by
  refine h.update i (fun j hj hhold => absurd (h.alone j i hhold hi) hj)
    (fun _ => ⟨h.flag i hi, h.txn i hi, fun j => h.still i j hi⟩) (List.subset_append_left _ _)
    (fun j hj => Or.inl (by simpa using hj)) (fun _ => Or.inl hp) (exclusive_snoc h.exclusive i _ ?_)
  intro g _ hcmd
  simp [h.txn i hi] at hcmd

theorem Inv.acquired {requests : ι → Request} {s : Sys ι} (h : Inv requests s) (i : ι) (hidle : s.inProgress = false)
    (htxn : (requests i).isCommand = false) (hstill : ∀ j, ¬ Moving requests s j) :
    Inv requests { inProgress := true, pc := Function.update s.pc i .acquired, log := s.log ++ [(i, .acquire)] } := by
  refine h.update i (fun j _ hj => absurd hj (h.none_holding hidle j)) (fun _ => ⟨rfl, htxn, hstill⟩)
    (List.subset_append_left _ _) (fun j hj => ?_) (fun hh => absurd hh (h.none_holding hidle i))
    (exclusive_snoc h.exclusive i _ nofun)
  rcases List.mem_append.mp hj with hj | hj
  · exact Or.inl hj
  · obtain rfl : j = i := by simpa using hj
    exact Or.inr ⟨rfl, trivial⟩

theorem Inv.released {requests : ι → Request} {s : Sys ι} (h : Inv requests s) (i : ι) (res : Response)
    (hi : Holding (s.pc i)) :
    Inv requests { inProgress := false, pc := Function.update s.pc i (.replied res), log := s.log ++ [(i, .release)] } := by
  refine h.update i (fun j hj hhold => absurd (h.alone j i hhold hi) hj) (fun hh => hh.elim)
    (List.subset_append_left _ _) (fun j hj => Or.inl (by simpa using hj)) (fun _ => Or.inr (by simp))
    (exclusive_snoc h.exclusive i _ nofun)

/-- A command's first step. -/
theorem Inv.command_start (e : Engine) {requests : ι → Request} {s : Sys ι} {i : ι} {answer : ∀ f, Ans f} (h : Inv requests s)
    {body : Except Exn (Json String)} (hp : s.pc i = .start) (hreq : requests i = .command body) :
    Inv requests (advance e requests s (i, answer)) := by
  have hi : ¬ Holding (s.pc i) := by simp [hp, Holding]
  cases body with
  | error _ => simpa [advance, step, hp, hreq] using h.outside i hi (p := .replied badCommand) (by simp [Holding]) nofun
  | ok j =>
    by_cases hclose : (j.member "close").isSome = true
    · cases hv : readInt "close" j with
      | error _ =>
        simpa [advance, step, hp, hreq, hclose, hv] using h.outside i hi (p := .replied badCommand) (by simp [Holding]) nofun
      | ok v =>
        have := h.moved i (p := .replied okCommand) (f := .closeMm (clamp v 0 1000)) hi (by simp [Holding]) nofun nofun
        simpa [advance, step, hp, hreq, hclose, hv] using this
    · cases hbusy : s.inProgress with
      | true =>
        simpa [advance, step, hp, hreq, hclose, hbusy] using
          h.outside i hi (p := .replied busyReply) (by simp [Holding]) nofun
      | false =>
        simpa [advance, step, hp, hreq, hclose, hbusy] using
          h.outside i hi (p := .passed) (by simp [Holding]) fun _ => hbusy

/-- The step of a command that has found the flag clear. -/
theorem Inv.command_passed (e : Engine) {requests : ι → Request} {s : Sys ι} {i : ι} {answer : ∀ f, Ans f} (h : Inv requests s)
    (hp : s.pc i = .passed) : Inv requests (advance e requests s (i, answer)) := by
  have hi : ¬ Holding (s.pc i) := by simp [hp, Holding]
  have hstay : Inv requests { s with pc := Function.update s.pc i .passed } := by
    rwa [← hp, Function.update_eq_self]
  rcases hreq : requests i with ⟨body, ns⟩ | _ | j
  · simpa [advance, step, hp, hreq] using hstay
  · simpa [advance, step, hp, hreq] using hstay
  · cases hf : motionOf j with
    | none => simpa [advance, step, hp, hreq, hf] using h.outside i hi (p := .replied badCommand) (by simp [Holding]) nofun
    | some f =>
      -- nobody holds the flag, or this command could not have got here
      have hnone : ∀ k, ¬ Holding (s.pc k) := fun k hk => h.still k i hk ⟨hp, j, f, hreq, hf⟩
      simpa [advance, step, hp, hreq, hf] using
        h.moved i (p := .replied okCommand) (f := f) hi (by simp [Holding]) nofun fun _ => hnone

/-- A step taken while the guard holds keeps the invariant. -/
theorem inv_advance (e : Engine) {requests : ι → Request} {s : Sys ι} {l : ι × (∀ f, Ans f)} (h : Inv requests s)
    (hset : Settled requests s l) : Inv requests (advance e requests s l) := by
  obtain ⟨i, answer⟩ := l
  cases hp : s.pc i with
  | start =>
    cases hreq : requests i with
    | txn body ns =>
      have htxn : (requests i).isCommand = false := by rw [hreq]; rfl
      cases hbusy : s.inProgress with
      | true =>
        simpa [advance, step, hp, hreq, hbusy] using
          h.outside i (by simp [hp, Holding]) (p := .replied busyReply) (by simp [Holding]) nofun
      | false => simpa [advance, step, hp, hreq, hbusy] using h.acquired i hbusy htxn (hset hp htxn hbusy)
    | command body => exact h.command_start e hp hreq
  | acquired =>
    have hi : Holding (s.pc i) := by simp [hp, Holding]
    cases hreq : requests i with
    | txn body ns =>
      cases hbody : purchaseOf body with
      | error _ => simpa [advance, step, hp, hreq, hbody] using h.inside i hi (p := .releasing badTxn) trivial
      | ok prices =>
        simpa [advance, step, hp, hreq, hbody] using
          h.inside i hi (p := .purchasing (runPurchase e ns prices.1 prices.2)) trivial
    | command body => simpa [advance, step, hp, hreq] using h.inside i hi (p := .acquired) trivial
  | purchasing prog =>
    have hi : Holding (s.pc i) := by simp [hp, Holding]
    cases prog with
    | ret t => simpa [advance, step, hp] using h.inside i hi (p := .releasing (txnReply t)) trivial
    | call f k => simpa [advance, step, hp] using h.purchased i f hi (p := .purchasing (k (answer f))) trivial
  | releasing res => simpa [advance, step, hp] using h.released i res (by simp [hp, Holding])
  | passed => exact h.command_passed e hp
  | replied res =>
    simpa [advance, step, hp] using h.outside i (by simp [hp, Holding]) (p := .replied res) (by simp [Holding]) nofun

/-- Where no transaction takes the flag while a command is about to move, none moves while a transaction holds it. -/
theorem exclusive_run (e : Engine) {requests : ι → Request} {sched : List (ι × (∀ f, Ans f))} {s : Sys ι}
    (h : Run (guarded (Settled requests) (ofFun (advance e requests))) {} sched s) : Exclusive requests s.log := by
  refine (Run.invariant (I := Inv requests) (inv_init requests) ?_ h).exclusive
  rintro t l t' ht ⟨hset, rfl⟩
  exact inv_advance e ht hset

theorem handsOut_motionOf {j : Json String} {f : Eff} (h : motionOf j = some f) : handsOut f = true := by
  unfold motionOf at h
  split at h
  · obtain ⟨v, -, rfl⟩ := Option.map_eq_some_iff.mp h
    rfl
  · split at h
    · obtain ⟨v, -, rfl⟩ := Option.map_eq_some_iff.mp h
      rfl
    · cases h

/-- Otherwise the command that was about to move need only take its next step. -/
theorem not_exclusive_of_moving (e : Engine) {requests : ι → Request} {s : Sys ι} {i j : ι} {a b : ∀ f, Ans f}
    (hi : s.pc i = .start) (htxn : (requests i).isCommand = false) (hidle : s.inProgress = false)
    (hfresh : (i, Act.release) ∉ s.log) (hj : Moving requests s j) :
    ¬ Exclusive requests (advance e requests (advance e requests s (i, a)) (j, b)).log := by
  obtain ⟨hpassed, body, f, hreq, hf⟩ := hj
  have hji : j ≠ i := by
    rintro rfl
    rw [hi] at hpassed
    cases hpassed
  have hlog : (advance e requests (advance e requests s (i, a)) (j, b)).log =
      (s.log ++ [(i, .acquire)]) ++ (j, .effect f) :: [] := by
    cases hr : requests i with
    | command body => simp [hr, Request.isCommand] at htxn
    | txn body ns => simp [advance, step, hi, hr, hidle, hji, hpassed, hreq, hf]
  intro hexcl
  have hrel := hexcl _ j f [] hlog (by simp [hreq, Request.isCommand]) (handsOut_motionOf hf) i (by simp)
  simp [hfresh] at hrel

/-- Devices that do what they are told. -/
def obliging : ∀ f, Ans f
  | .checkAndBlockMotion => true
  | .dispenseCoins n => { ok := true, requested := n, dispensed := n }
  | .append _ => true
  | .openMm _ => { ok := true }
  | .closeMm _ => { ok := true }

/-- A purchase and an opening. -/
def twoRequests : Fin 2 → Request
  | 0 => .txn (.ok (.obj [("price", .int 100), ("deposit", .int 200)])) 0
  | 1 => .command (.ok (.obj [("open", .int 40)]))

/-- The command opens, then the transaction takes the flag. -/
def openedBefore : List (Fin 2 × (∀ f, Ans f)) := [(1, obliging), (1, obliging), (0, obliging)]

theorem exclusive_run_openedBefore :
    Exclusive twoRequests (openedBefore.foldl (advance {} twoRequests) {}).log := by
  refine exclusive_run {} (Meets.run ⟨fun _ h => ?_, fun _ h => ?_, fun _ _ _ j hj => ?_, trivial⟩)
  · cases h
  · cases h
  · fin_cases j <;> cases hj.1

/-- The transaction takes the flag after the command has read it and before it opens. -/
theorem opened_during_txn :
    ¬ ∀ (e : Engine) (requests : Fin 2 → Request) (sched : List (Fin 2 × (∀ f, Ans f))),
      Exclusive requests (sched.foldl (advance e requests) {}).log := by
  intro hclaim
  have hbad := hclaim {} twoRequests [(1, obliging), (0, obliging), (1, obliging)]
  have hrel := hbad [(0, .acquire)] 1 (.openMm 40) [] rfl rfl rfl 0 (by simp)
  simp at hrel

end Drawer.Server
