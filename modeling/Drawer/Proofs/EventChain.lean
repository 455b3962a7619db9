import Drawer.Sanity.EventLog
import Drawer.Proofs.CommandPath

/-! The event log over whole runs. Every request appends to it and every restart
from the store gives back what was saved of it last, so a tenant's replay is
always valid and shows all of the tenant's events. -/

namespace Drawer.FleetOps
open FleetOperationsService HashChain Transition

variable {ω : Type} {env : Env ω}

/-! ### Replay -/

theorem replayFrom_cons {tenantId previous : String} {expected : Int} {e : FleetOperationEvent}
    (h : (eventChain env).Follows expected previous e) (rest : List FleetOperationEvent) :
    replayFrom env tenantId previous expected (e :: rest) =
      ((replayFrom env tenantId e.eventHash (expected + 1) rest).1,
        if e.tenantId = tenantId then e :: (replayFrom env tenantId e.eventHash (expected + 1) rest).2
        else (replayFrom env tenantId e.eventHash (expected + 1) rest).2) := by
  obtain ⟨hnumber, hprevious, hhash⟩ := h
  simp only [eventChain] at hnumber hprevious hhash
  rw [replayFrom, if_neg (by simp [hnumber, hprevious, ← hhash])]

theorem replayFrom_stops {tenantId previous : String} {expected : Int} {e : FleetOperationEvent}
    (h : ¬(eventChain env).Follows expected previous e) (rest : List FleetOperationEvent) :
    replayFrom env tenantId previous expected (e :: rest) = (false, []) := by
  rw [replayFrom, if_pos]
  by_contra hgood
  simp only [Bool.not_eq_true, Bool.or_eq_false_iff, decide_eq_false_iff_not, not_not, and_assoc] at hgood
  exact h hgood

/-- The loop gets to the end of a log just if the log is linked. -/
theorem replayFrom_valid (tenantId previous : String) (expected : Int) (log : List FleetOperationEvent) :
    (replayFrom env tenantId previous expected log).1 = true ↔ (eventChain env).Linked expected previous log := by
  induction log generalizing previous expected with
  | nil => simp [replayFrom, Linked]
  | cons e rest ih =>
    rw [Linked]
    by_cases hfollows : (eventChain env).Follows expected previous e
    · rw [replayFrom_cons hfollows, and_iff_right hfollows]
      exact ih _ _
    · rw [replayFrom_stops hfollows]
      exact iff_of_false (by simp) fun h => hfollows h.1

/-- A loop that gets to the end has collected all of the tenant's events. -/
theorem replayFrom_events (tenantId previous : String) (expected : Int) (log : List FleetOperationEvent)
    (h : (eventChain env).Linked expected previous log) :
    (replayFrom env tenantId previous expected log).2 = eventsOf log tenantId := by
  induction log generalizing previous expected with
  | nil => rfl
  | cons e rest ih =>
    have hrest : (replayFrom env tenantId e.eventHash (expected + 1) rest).2 = eventsOf rest tenantId := ih _ _ h.2
    rw [replayFrom_cons h.1, hrest]
    by_cases htenant : e.tenantId = tenantId <;> simp [eventsOf, htenant]

theorem replay_valid_iff {log : List FleetOperationEvent} {tenantId : String} :
    (replay env log tenantId).valid = true ↔ Intact env log := replayFrom_valid tenantId "" 1 log

theorem replayable_of_intact {log : List FleetOperationEvent} (h : Intact env log) : Replayable env log :=
  fun tenantId => ⟨replay_valid_iff.mpr h, replayFrom_events tenantId "" 1 log h⟩

/-! ### The store -/

/-- The log is intact, and the file, if any, has the first part of it. -/
structure Logged (env : Env ω) (r : Registry ω) : Prop where
  intact : Intact env r.service.events
  stored : r.storePath ≠ "" → ∀ j, r.file = some j → ∃ s₀ : FleetOperationsService ω, j = s₀.saved ∧ Intact env s₀.events ∧
    s₀.events <+: r.service.events

theorem Logged.request {r : Registry ω} (h : Logged env r) (op : Op ω) : Logged env (r.request env op) := by
  have hextends := (apply_recorded env (s := r.service) op).1
  have hintact := hextends.intact h.intact
  refine ⟨hintact, fun hne j hj => ?_⟩
  dsimp only [Registry.request] at hne hj ⊢
  split_ifs at hj
  · exact ⟨_, (Option.some.inj hj).symm, hintact, List.prefix_rfl⟩
  · obtain ⟨s₀, hsaved, hintact₀, hprefix⟩ := h.stored hne j hj
    exact ⟨s₀, hsaved, hintact₀, hprefix.trans hextends.kept⟩

theorem restart_empty {r : Registry ω} (h : r.storePath = "" ∨ r.file = none) (world : ω) :
    (r.restart world).service.events = [] := by
  unfold Registry.restart
  split_ifs with hpath
  · rfl
  · rw [h.resolve_left hpath]

theorem restart_saved {r : Registry ω} {s₀ : FleetOperationsService ω} (hpath : r.storePath ≠ "")
    (hfile : r.file = some s₀.saved) (world : ω) : (r.restart world).service.events = s₀.events := by
  obtain ⟨s', hload, hreloaded⟩ := load_saved s₀ world
  rw [Registry.restart, if_neg hpath, hfile]
  simp only [hload, hreloaded.events]

theorem Logged.restart {r : Registry ω} (h : Logged env r) (world : ω) :
    Logged env (r.restart world) ∧ (r.restart world).service.events <+: r.service.events := by
  obtain ⟨hpath, hfile⟩ := restart_file r world
  by_cases hempty : r.storePath = "" ∨ r.file = none
  · have hlog := restart_empty hempty world
    refine ⟨⟨by rw [hlog]; exact trivial, fun hne j hj => ?_⟩, by rw [hlog]; exact List.nil_prefix⟩
    rw [hfile, hempty.resolve_left (hpath ▸ hne)] at hj
    cases hj
  · push Not at hempty
    obtain ⟨hne, hsome⟩ := hempty
    obtain ⟨j, hj⟩ := Option.ne_none_iff_exists'.mp hsome
    obtain ⟨s₀, rfl, hintact₀, hprefix⟩ := h.stored hne j hj
    have hlog := restart_saved hne hj world
    refine ⟨⟨hlog ▸ hintact₀, fun _ j' hj' => ?_⟩, hlog ▸ hprefix⟩
    rw [hfile, hj] at hj'
    exact ⟨s₀, (Option.some.inj hj').symm, hintact₀, by rw [hlog]⟩

/-! ### Every event -/

theorem Logged.step {r : Registry ω} (h : Logged env r) (e : Event ω) : Logged env (r.step env e) := by
  cases e with
  | request op => exact h.request op
  | restart world => exact (h.restart world).1

theorem Logged.appends {r : Registry ω} (h : Logged env r) (e : Event ω) : Appends env r e where
  replayable := replayable_of_intact (h.step e).intact
  request op he := by
    subst he
    exact (apply_recorded env (s := r.service) op).1.kept
  restart world he := by
    subst he
    exact (h.restart world).2

/-- Along every run of requests and restarts, every tenant's replay is valid and shows all of the tenant's events, every
request appends to the log, and every restart has a first part of it. -/
theorem appends_run (env : Env ω) (storePath : String) (world : ω) (events : List (Event ω)) :
    Meets (Appends env) (Registry.step env) { storePath, service := { world } } events := by
  have hall : ∀ (events : List (Event ω)) (r : Registry ω), Logged env r → Meets (Appends env) (Registry.step env) r events := by
    intro events
    induction events with
    | nil => exact fun r _ => trivial
    | cons e events ih => exact fun r hr => ⟨hr.appends e, ih _ (hr.step e)⟩
  exact hall events _ ⟨trivial, fun _ _ hj => nomatch hj⟩

/-! ### Restarts -/

/-- The file has all of the log. -/
def Kept (r : Registry ω) : Prop :=
  (r.file = none ∧ r.service.events = []) ∨
    ∃ s₀ : FleetOperationsService ω, r.file = some s₀.saved ∧ s₀.events = r.service.events

theorem Kept.request {r : Registry ω} (h : Kept r) (hpath : r.storePath ≠ "") {op : Op ω}
    (hop : ¬RaisesMidway env r.service op) : Kept (r.request env op) := by
  unfold Kept
  dsimp only [Registry.request]
  by_cases hsaves : saves env r.service op = true
  · rw [if_pos ⟨hpath, hsaves⟩]
    exact Or.inr ⟨_, rfl, rfl⟩
  · -- nothing is saved, but nothing was appended either
    have hsame := (apply_recorded env (s := r.service) op).2.resolve_left (not_or.mpr ⟨hsaves, hop⟩)
    rw [if_neg fun hboth => hsaves hboth.2, hsame]
    exact h

theorem Kept.restart {r : Registry ω} (h : Kept r) (hpath : r.storePath ≠ "") (world : ω) :
    Kept (r.restart world) ∧ (r.restart world).service.events = r.service.events := by
  obtain ⟨-, hfile⟩ := restart_file r world
  have hlog : (r.restart world).service.events = r.service.events := by
    rcases h with ⟨hnone, hempty⟩ | ⟨s₀, hsome, hsaved⟩
    · rw [restart_empty (Or.inr hnone), hempty]
    · rw [restart_saved hpath hsome, hsaved]
  refine ⟨?_, hlog⟩
  rw [Kept, hfile, hlog]
  exact h

theorem step_storePath (r : Registry ω) (e : Event ω) : (r.step env e).storePath = r.storePath := by
  cases e with
  | request op => rfl
  | restart world => exact (restart_file r world).1

/-- With a store, a restart loses no event either, as long as no fleet risk query raises. -/
theorem kept_run {storePath : String} (hpath : storePath ≠ "") (world : ω) {events : List (Event ω)}
    (h : Meets (fun r e => ∀ op, e = .request op → ¬RaisesMidway env r.service op) (Registry.step env)
      { storePath, service := { world } } events) :
    Meets (fun r e => r.service.events <+: (r.step env e).service.events) (Registry.step env)
      { storePath, service := { world } } events := by
  have hall : ∀ (events : List (Event ω)) (r : Registry ω), r.storePath ≠ "" → Kept r →
      Meets (fun r e => ∀ op, e = .request op → ¬RaisesMidway env r.service op) (Registry.step env) r events →
      Meets (fun r e => r.service.events <+: (r.step env e).service.events) (Registry.step env) r events := by
    intro events
    induction events with
    | nil => exact fun r _ _ _ => trivial
    | cons e events ih =>
      intro r hpath hkept hmeets
      have hstep : Kept (r.step env e) ∧ r.service.events <+: (r.step env e).service.events := by
        cases e with
        | request op =>
          exact ⟨hkept.request hpath (hmeets.1 op rfl), (apply_recorded env (s := r.service) op).1.kept⟩
        | restart world =>
          obtain ⟨hkept', hsame⟩ := hkept.restart hpath world
          exact ⟨hkept', by rw [Registry.step, hsame]⟩
      exact ⟨hstep.2, ih _ (by rwa [step_storePath]) hstep.1 hmeets.2⟩
  exact hall events _ hpath (Or.inl ⟨rfl, rfl⟩) h

end Drawer.FleetOps
