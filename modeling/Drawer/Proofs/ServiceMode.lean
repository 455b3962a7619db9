import Drawer.Lib.Transition
import Drawer.Spec.ServiceMode

/-! What service mode is allowed to move. Its guard looks at the session and at the faults of the
moment; a line that the poll thread has last found active has its fault then, whatever else raises
and clears faults in the meantime. -/

namespace Drawer
open Text Transition

variable {safety : SafetyConfig} {service : ServiceConfig} {s s' : Site} {es : List SiteEvent} {e : SiteEvent}

namespace FaultManager

theorem lookup_raise (fm : FaultManager) (code code' : FaultCode) (reason : Bytes) (latch : Bool) (nowNs : ℕ)
    (h : (fm.faults.lookup code').isSome = true) : ((fm.raise code reason latch nowNs).faults.lookup code').isSome = true := by
  rw [raise, Dict.lookup_insert_if]
  split_ifs
  · rfl
  · exact h

theorem lookup_clear {fm : FaultManager} {code code' : FaultCode} (hne : code' ≠ code)
    (h : (fm.faults.lookup code').isSome = true) : ((fm.clear code).faults.lookup code').isSome = true := by
  rw [clear, AList.lookup_erase_ne hne]
  exact h

theorem safetyBlocking_iff (fm : FaultManager) :
    fm.safetyBlocking = true ↔ ∃ line : SafetyLine, (fm.faults.lookup line.code).isSome = true := by
  unfold safetyBlocking
  rw [Bool.or_eq_true, Bool.or_eq_true]
  constructor
  · rintro ((h | h) | h)
    · exact ⟨.estop, h⟩
    · exact ⟨.lid, h⟩
    · exact ⟨.overcurrent, h⟩
  · rintro ⟨line, h⟩
    cases line with
    | estop => exact Or.inl (Or.inl h)
    | lid => exact Or.inl (Or.inr h)
    | overcurrent => exact Or.inr h

end FaultManager

theorem SafetyLine.code_inj {l l' : SafetyLine} (h : l.code = l'.code) : l = l' := by
  cases l <;> cases l' <;> first | rfl | cases h

/-! ### The poll thread -/

/-- What the last poll of a line found, if there was one. -/
def lastFound (safety : SafetyConfig) (line : SafetyLine) (es : List SiteEvent) : Option Bool :=
  es.foldl (fun last e => match e with
    | .read level => some (safety.readLine line (level line))
    | _ => last) none

theorem lastFound_snoc (line : SafetyLine) (es : List SiteEvent) (e : SiteEvent) :
    lastFound safety line (es ++ [e]) = match e with
      | .read level => some (safety.readLine line (level line))
      | _ => lastFound safety line es := by
  rw [lastFound, List.foldl_append]
  cases e <;> rfl

/-- What the thread holds of the lines: those that it has yet to deal with as it has last found them, and the others as it
has last dealt with them, which is how it has last found them. -/
structure Polled (safety : SafetyConfig) (es : List SiteEvent) (poll : PollThread) : Prop where
  nodup : (poll.todo.map Prod.fst).Nodup
  todo : ∀ line active, (line, active) ∈ poll.todo → lastFound safety line es = some active
  settled : ∀ line, line ∉ poll.todo.map Prod.fst → (lastFound safety line es).getD false = poll.prev line

theorem Polled.congr {es' : List SiteEvent} {poll : PollThread} (h : Polled safety es poll)
    (hfound : ∀ line, lastFound safety line es' = lastFound safety line es) : Polled safety es' poll where
  nodup := h.nodup
  todo line active hmem := (hfound line).trans (h.todo line active hmem)
  settled line hmem := by rw [hfound]; exact h.settled line hmem

theorem Polled.read (level : SafetyLine → Bool) (prev : SafetyLine → Bool) : Polled safety (es ++ [.read level])
    { prev, todo := [.estop, .lid, .overcurrent].map fun l => (l, safety.readLine l (level l)) } where
  nodup := by
    rw [List.map_map]
    exact (by decide : [SafetyLine.estop, SafetyLine.lid, SafetyLine.overcurrent].Nodup)
  todo line active hmem := by
    rw [lastFound_snoc]
    obtain ⟨l, -, heq⟩ := List.mem_map.mp hmem
    obtain ⟨rfl, rfl⟩ := Prod.mk.inj heq
    rfl
  settled line hmem := by
    refine absurd ?_ hmem
    cases line <;> simp

theorem Polled.settle {poll : PollThread} (h : Polled safety es poll) {line : SafetyLine} {active : Bool} {nowNs : ℕ} {w : Append}
    {rest : List (SafetyLine × Bool)} (htodo : poll.todo = (line, active) :: rest) :
    Polled safety (es ++ [.settle line active nowNs w]) { prev := Function.update poll.prev line active, todo := rest } := by
  have hnodup := h.nodup
  rw [htodo, List.map_cons, List.nodup_cons] at hnodup
  have hfound : ∀ l, lastFound safety l (es ++ [.settle line active nowNs w]) = lastFound safety l es := fun l => lastFound_snoc l _ _
  refine ⟨hnodup.2, fun l a hmem => ?_, fun l hmem => ?_⟩
  · rw [hfound]
    exact h.todo l a (htodo ▸ List.mem_cons_of_mem _ hmem)
  · rw [hfound]
    by_cases hl : l = line
    · subst hl
      rw [h.todo l active (htodo ▸ List.mem_cons_self)]
      dsimp only
      rw [Function.update_self]
      rfl
    · dsimp only
      rw [Function.update_of_ne hl]
      refine h.settled l ?_
      rw [htodo, List.map_cons]
      exact fun hmem' => (List.mem_cons.mp hmem').elim hl hmem

/-- A line that was active when the thread dealt with it has its fault. -/
def Latched (s : Site) : Prop := ∀ line, s.poll.prev line = true → (s.faults.faults.lookup line.code).isSome = true

theorem clears_ne {c : ServiceCommand} {code : FaultCode} (h : c.clears = some code) (line : SafetyLine) : line.code ≠ code := by
  cases c <;> simp only [ServiceCommand.clears, Option.some.injEq, reduceCtorEq] at h <;> subst h <;> cases line <;> decide

theorem FaultManager.lookup_settle {fm : FaultManager} {prev : SafetyLine → Bool} {line : SafetyLine} {active : Bool} {nowNs : ℕ}
    (h : ∀ l, prev l = true → (fm.faults.lookup l.code).isSome = true) (l : SafetyLine)
    (hprev : Function.update prev line active l = true) :
    ((fm.settle line (prev line) active nowNs).faults.lookup l.code).isSome = true := by
  by_cases hl : l = line
  · subst hl
    rw [Function.update_self] at hprev
    subst hprev
    unfold FaultManager.settle
    cases hbefore : prev l with
    | true => exact h l hbefore
    | false =>
      change ((fm.raise l.code l.reason true nowNs).faults.lookup l.code).isSome = true
      rw [FaultManager.raise, AList.lookup_insert]
      rfl
  · rw [Function.update_of_ne hl] at hprev
    have hold := h l hprev
    unfold FaultManager.settle
    split_ifs
    · exact FaultManager.lookup_raise _ _ _ _ _ _ hold
    · exact FaultManager.lookup_clear (fun hcode => hl (SafetyLine.code_inj hcode)) hold
    · exact hold

/-- What a step does to the poll thread and to the faults of the lines. -/
theorem Site.Step.poll_faults (es : List SiteEvent) (hstep : s.Step safety service e s') :
    (∃ level, e = .read level ∧ s'.faults = s.faults ∧ s'.poll =
      { s.poll with todo := [.estop, .lid, .overcurrent].map fun l => (l, safety.readLine l (level l)) }) ∨
    (∃ line active nowNs w rest, e = .settle line active nowNs w ∧ s.poll.todo = (line, active) :: rest ∧
      s'.faults = s.faults.settle line (s.poll.prev line) active nowNs ∧
      s'.poll = { prev := Function.update s.poll.prev line active, todo := rest }) ∨
    s'.poll = s.poll ∧ (∀ line, lastFound safety line (es ++ [e]) = lastFound safety line es) ∧
      ∀ line : SafetyLine, (s.faults.faults.lookup line.code).isSome = true → (s'.faults.faults.lookup line.code).isSome = true := by
  cases e with
  | read level =>
    obtain ⟨-, rfl⟩ := hstep
    exact Or.inl ⟨level, rfl, rfl, rfl⟩
  | settle line active nowNs w =>
    obtain ⟨rest, htodo, rfl⟩ := hstep
    exact Or.inr (Or.inl ⟨line, active, nowNs, w, rest, rfl, htodo, rfl, rfl⟩)
  | raise code reason latch nowNs w =>
    obtain rfl := hstep
    exact Or.inr (Or.inr ⟨s.append_poll _ w, fun line => lastFound_snoc line _ _,
      fun _ hf => FaultManager.lookup_raise _ _ _ _ _ _ hf⟩)
  | enter pin user ts w =>
    obtain ⟨-, rfl⟩ := hstep
    refine Or.inr (Or.inr ⟨?_, fun line => lastFound_snoc line _ _, fun line hf => ?_⟩)
    · split_ifs <;> simp
    · split_ifs <;> simpa using hf
  | exit ts w =>
    obtain ⟨-, rfl⟩ := hstep
    refine Or.inr (Or.inr ⟨?_, fun line => lastFound_snoc line _ _, fun line hf => ?_⟩)
    · dsimp only
      split_ifs <;> simp
    · dsimp only
      split_ifs <;> simpa using hf
  | call c passed =>
    obtain ⟨-, -, rfl⟩ := hstep
    refine Or.inr (Or.inr ⟨?_, fun line => lastFound_snoc line _ _, fun line hf => ?_⟩)
    · split_ifs <;> rfl
    · split_ifs <;> exact hf
  | move c ok =>
    obtain ⟨-, -, rfl⟩ := hstep
    exact Or.inr (Or.inr ⟨rfl, fun line => lastFound_snoc line _ _, fun _ hf => hf⟩)
  | clear c code =>
    obtain ⟨hclears, -, rfl⟩ := hstep
    exact Or.inr (Or.inr ⟨rfl, fun line => lastFound_snoc line _ _,
      fun line hf => FaultManager.lookup_clear (clears_ne hclears line) hf⟩)
  | logged c ok ts w =>
    obtain ⟨-, rfl⟩ := hstep
    exact Or.inr (Or.inr ⟨s.append_poll _ w, fun line => lastFound_snoc line _ _, fun _ hf => by simpa using hf⟩)

theorem polled_run (h : Run (Site.Step safety service) {} es s) : Polled safety es s.poll ∧ Latched s := by
  induction h with
  | nil => exact ⟨⟨List.nodup_nil, fun line active hmem => absurd hmem List.not_mem_nil, fun _ _ => rfl⟩, fun _ hline => nomatch hline⟩
  | @snoc es s e s' _ hstep ih =>
    obtain ⟨hpolled, hlatched⟩ := ih
    rcases hstep.poll_faults es with ⟨level, rfl, hfaults, hpoll⟩ |
      ⟨line, active, nowNs, w, rest, rfl, htodo, hfaults, hpoll⟩ | ⟨hpoll, hfound, hfaults⟩
    · rw [Latched, hpoll, hfaults]
      exact ⟨Polled.read level s.poll.prev, hlatched⟩
    · rw [Latched, hpoll, hfaults]
      exact ⟨hpolled.settle htodo, FaultManager.lookup_settle hlatched⟩
    · rw [Latched, hpoll]
      exact ⟨hpolled.congr hfound, fun line hline => hfaults line (hlatched line hline)⟩

/-! ### Sessions -/

def isExit : SiteEvent → Bool
  | .exit _ _ => true
  | _ => false

/-- Service mode is enabled, and someone has entered it with its pin and has not left it since. -/
def Entered (service : ServiceConfig) (es : List SiteEvent) : Prop :=
  service.enable = true ∧ ∃ l user ts w r, es = l ++ .enter service.pinCode user ts w :: r ∧ ∀ e ∈ r, isExit e = false

theorem Entered.snoc (h : Entered service es) (he : isExit e = false) : Entered service (es ++ [e]) := by
  obtain ⟨henable, l, user, ts, w, r, rfl, hr⟩ := h
  refine ⟨henable, l, user, ts, w, r ++ [e], by simp, fun e' he' => ?_⟩
  rcases List.mem_append.mp he' with he' | he'
  · exact hr e' he'
  · rwa [List.mem_singleton.mp he']

theorem entered_run (h : Run (Site.Step safety service) {} es s) (hactive : s.active = true) : Entered service es := by
  induction h with
  | nil => cases hactive
  | @snoc es s e s' _ hstep ih =>
    cases e with
    | enter pin user ts w =>
      obtain ⟨-, rfl⟩ := hstep
      split_ifs at hactive with hpin
      · simp only [Bool.and_eq_true, decide_eq_true_eq] at hpin
        obtain ⟨henable, rfl⟩ := hpin
        exact ⟨henable, es, user, ts, w, [], rfl, fun e he => by cases he⟩
      · exact (ih hactive).snoc rfl
    | exit ts w =>
      obtain ⟨-, rfl⟩ := hstep
      cases hactive
    | call c passed =>
      obtain ⟨-, -, rfl⟩ := hstep
      refine (ih ?_).snoc rfl
      split_ifs at hactive <;> exact hactive
    | read level =>
      obtain ⟨-, rfl⟩ := hstep
      exact (ih hactive).snoc rfl
    | settle line active nowNs w =>
      obtain ⟨rest, -, rfl⟩ := hstep
      refine (ih ?_).snoc rfl
      dsimp only at hactive
      split_ifs at hactive <;> simpa using hactive
    | raise code reason latch nowNs w =>
      obtain rfl := hstep
      exact (ih (by simpa using hactive)).snoc rfl
    | move c ok =>
      obtain ⟨-, -, rfl⟩ := hstep
      exact (ih hactive).snoc rfl
    | clear c code =>
      obtain ⟨-, -, rfl⟩ := hstep
      exact (ih hactive).snoc rfl
    | logged c ok ts w =>
      obtain ⟨-, rfl⟩ := hstep
      exact (ih (by simpa using hactive)).snoc rfl

/-! ### Commands -/

/-- The technician's part of what happens. -/
def isService : SiteEvent → Bool
  | .read _ | .settle .. | .raise .. => false
  | _ => true

/-- A command that has passed its guard did so at the last thing the technician did. -/
theorem guarded_run (h : Run (Site.Step safety service) {} es s) {c : ServiceCommand} (hpc : s.pc = .guarded c) :
    ∃ before after s₁, es = before ++ .call c true :: after ∧ (∀ e ∈ after, isService e = false) ∧
      Run (Site.Step safety service) {} before s₁ ∧ s₁.guard = true := by
  induction h with
  | nil => cases hpc
  | @snoc es s e s' hrun hstep ih =>
    have hwait : isService e = false → s.pc = .guarded c → ∃ before after s₁, es ++ [e] = before ++ .call c true :: after ∧
        (∀ e ∈ after, isService e = false) ∧ Run (Site.Step safety service) {} before s₁ ∧ s₁.guard = true := by
      intro he hsame
      obtain ⟨before, after, s₁, rfl, hafter, hbefore, hguard⟩ := ih hsame
      refine ⟨before, after ++ [e], s₁, by simp, fun e' he' => ?_, hbefore, hguard⟩
      rcases List.mem_append.mp he' with he' | he'
      · exact hafter e' he'
      · rwa [List.mem_singleton.mp he']
    cases e with
    | read level =>
      obtain ⟨-, rfl⟩ := hstep
      exact hwait rfl hpc
    | settle line active nowNs w =>
      obtain ⟨rest, -, rfl⟩ := hstep
      refine hwait rfl ?_
      dsimp only at hpc
      split_ifs at hpc <;> simpa using hpc
    | raise code reason latch nowNs w =>
      obtain rfl := hstep
      exact hwait rfl (by simpa using hpc)
    | call c' passed =>
      obtain ⟨hidle, hguard, rfl⟩ := hstep
      cases passed with
      | true =>
        obtain rfl := ServicePc.guarded.inj hpc
        exact ⟨es, [], s, rfl, fun e he => absurd he List.not_mem_nil, hrun, hguard⟩
      | false => exact absurd (hidle.symm.trans hpc) ServicePc.noConfusion
    | enter pin user ts w =>
      obtain ⟨hidle, rfl⟩ := hstep
      have hsame : s.pc = .guarded c := by split_ifs at hpc <;> simpa using hpc
      exact absurd (hidle.symm.trans hsame) ServicePc.noConfusion
    | exit ts w =>
      obtain ⟨hidle, rfl⟩ := hstep
      have hsame : s.pc = .guarded c := by
        dsimp only at hpc
        split_ifs at hpc <;> simpa using hpc
      exact absurd (hidle.symm.trans hsame) ServicePc.noConfusion
    | move c' ok =>
      obtain ⟨-, -, rfl⟩ := hstep
      cases hpc
    | clear c' code =>
      obtain ⟨-, -, rfl⟩ := hstep
      cases hpc
    | logged c' ok ts w =>
      obtain ⟨-, rfl⟩ := hstep
      cases hpc

/-- Nothing is moved in service mode unless the command before it, with nothing else done in between, was let pass in a
session that had been entered with the pin, with no fault of a safety line and every line inactive when the poll thread last
dealt with it; if the last poll of a line found it active, the thread had yet to raise its fault. -/
theorem service_motion_guarded (h : Run (Site.Step safety service) {} es s) {before after : List SiteEvent} {c : ServiceCommand}
    {ok : Bool} (hes : es = before ++ .move c ok :: after) :
    ∃ b₁ b₂ s₁, before = b₁ ++ .call c true :: b₂ ∧ (∀ e ∈ b₂, isService e = false) ∧
      Run (Site.Step safety service) {} b₁ s₁ ∧ s₁.faults.safetyBlocking = false ∧ Entered service b₁ ∧
      ∀ line, s₁.poll.prev line = false ∧ (lastFound safety line b₁ = some true → (line, true) ∈ s₁.poll.todo) := by
  subst hes
  obtain ⟨s₀, s₁, hbefore, hstep, -⟩ := h.cut
  obtain ⟨b₁, b₂, s₂, hsplit, hquiet, hrun, hguard⟩ := guarded_run hbefore hstep.1
  unfold Site.guard at hguard
  split_ifs at hguard with hactive hblocking
  have hclear := Bool.eq_false_of_not_eq_true hblocking
  refine ⟨b₁, b₂, s₂, hsplit, hquiet, hrun, hclear, entered_run hrun (by simpa using hactive), fun line => ?_⟩
  obtain ⟨hpolled, hlatched⟩ := polled_run hrun
  have hprev : s₂.poll.prev line = false := by
    by_contra hfound
    have hfault := hlatched line (Bool.eq_true_of_not_eq_false hfound)
    exact hblocking ((FaultManager.safetyBlocking_iff _).mpr ⟨line, hfault⟩)
  refine ⟨hprev, fun hlast => ?_⟩
  by_cases hmem : line ∈ s₂.poll.todo.map Prod.fst
  · obtain ⟨⟨l, active⟩, htodo, rfl⟩ := List.mem_map.mp hmem
    have hactive := (hpolled.todo _ _ htodo).symm.trans hlast
    rwa [← Option.some.inj hactive]
  · have hsettled := hpolled.settled line hmem
    rw [hlast, hprev] at hsettled
    cases hsettled

def sampleEvents : List SiteEvent :=
  [.enter (ascii "1234") (ascii "tech") 1 .whole, .read fun _ => false, .settle .estop false 2 .whole, .settle .lid false 3 .whole,
    .settle .overcurrent false 4 .whole, .call (.dispense 2) true]

/-- A technician enters, the lines are read, and coins are dispensed. -/
theorem service_motion_guarded_sample : ∃ b₁ b₂ s₁, sampleEvents = b₁ ++ .call (.dispense 2) true :: b₂ ∧
    (∀ e ∈ b₂, isService e = false) ∧ Run (Site.Step {} {}) {} b₁ s₁ ∧ s₁.faults.safetyBlocking = false ∧
    Entered {} b₁ ∧ ∀ line, s₁.poll.prev line = false ∧ (lastFound {} line b₁ = some true → (line, true) ∈ s₁.poll.todo) := by
  have hentered : Run (Site.Step {} {}) {} [.enter (ascii "1234") (ascii "tech") 1 .whole] _ := Run.snoc Run.nil ⟨rfl, rfl⟩
  have hread := Run.snoc hentered (e := SiteEvent.read fun _ => false) ⟨rfl, rfl⟩
  have hestop := Run.snoc hread (e := SiteEvent.settle .estop false 2 .whole) ⟨_, rfl, rfl⟩
  have hlid := Run.snoc hestop (e := SiteEvent.settle .lid false 3 .whole) ⟨_, rfl, rfl⟩
  have hovercurrent := Run.snoc hlid (e := SiteEvent.settle .overcurrent false 4 .whole) ⟨_, rfl, rfl⟩
  have hcall := Run.snoc hovercurrent (e := SiteEvent.call (.dispense 2) true) ⟨rfl, rfl, rfl⟩
  have hmove := Run.snoc hcall (e := SiteEvent.move (.dispense 2) true) ⟨rfl, rfl, rfl⟩
  exact service_motion_guarded hmove (List.append_nil (sampleEvents ++ [SiteEvent.move (.dispense 2) true])).symm

end Drawer
