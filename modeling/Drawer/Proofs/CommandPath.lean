import Drawer.Lib.Transition
import Drawer.Sanity.Commands

/-! The life of a command. Every request and every restart takes what is stored
under an id along an edge of the automaton, or leaves it. The store keeps up: a
request that does not save has not touched a command. -/

namespace Drawer.FleetOps
open FleetOperationsService Transition

variable {ω : Type} {env : Env ω} {s : FleetOperationsService ω} {storePath : String}

/-! ### One request -/

theorem moves_insert {e : Event ω} {commands : Dict String FleetCommand} {id : String} {c : FleetCommand}
    (h : Moves storePath e id (commands.lookup id) (some c)) (id' : String) :
    Moves storePath e id' (commands.lookup id') ((commands.insert id c).lookup id') := by
  rw [Dict.lookup_insert_if]
  split_ifs with hid
  · subst hid
    exact h
  · exact Moves.same _

/-- The states a stored command can be in. -/
def storedStates : List String :=
  ["failed", "policy_checking", "dispatched", "cancelled", "expired", "acknowledged", "completed"]

def Known (commands : Dict String FleetCommand) : Prop := ∀ id c, commands.lookup id = some c → c.state ∈ storedStates

theorem waiting_of_pending {c : FleetCommand} (hpending : c.state ∈ pending) (hknown : c.state ∈ storedStates) :
    c.state = "policy_checking" ∨ c.state = "dispatched" := by
  simp only [pending, List.mem_cons, List.not_mem_nil, or_false] at hpending
  rcases hpending with h | h | h | h
  · simp [h, storedStates] at hknown
  · exact Or.inl h
  · simp [h, storedStates] at hknown
  · exact Or.inr h

/-- What a request owes the stored commands: each makes a move and keeps its id, and none moves without being saved. -/
structure Turned (env : Env ω) (storePath : String) (s : FleetOperationsService ω) (op : Op ω) : Prop where
  moves : ∀ id, Moves storePath (.request op) id (s.commands.lookup id) ((apply env s op).commands.lookup id)
  ids : ∀ id c', (apply env s op).commands.lookup id = some c' →
    c'.commandId = id ∨ ∃ c, s.commands.lookup id = some c ∧ c'.commandId = c.commandId
  saved : saves env s op = true ∨ (apply env s op).commands = s.commands

theorem turned_same {op : Op ω} (h : (apply env s op).commands = s.commands) : Turned env storePath s op where
  moves id := by
    rw [h]
    exact Moves.same _
  ids id c' hc' := by
    rw [h] at hc'
    exact Or.inr ⟨c', hc', rfl⟩
  saved := Or.inr h

theorem turned_insert {op : Op ω} {id : String} {c' : FleetCommand} (h : (apply env s op).commands = s.commands.insert id c')
    (hmoves : Moves storePath (.request op) id (s.commands.lookup id) (some c'))
    (hid : c'.commandId = id ∨ ∃ c, s.commands.lookup id = some c ∧ c'.commandId = c.commandId)
    (hsaves : saves env s op = true) : Turned env storePath s op where
  moves id' := by
    rw [h]
    exact moves_insert hmoves id'
  ids id' c'' hc'' := by
    rw [h, Dict.lookup_insert_if] at hc''
    split_ifs at hc'' with heq
    · subst heq
      obtain rfl := Option.some.inj hc''
      exact hid
    · exact Or.inr ⟨c'', hc'', rfl⟩
  saved := Or.inl hsaves

theorem turned_createCommand (c : FleetCommand) (now : Int) : Turned env storePath s (.createCommand c now) := by
  have hcreate := createCommand_commands env (s := s) c now
  split_ifs at hcreate with htaken
  · exact turned_same hcreate
  · obtain ⟨c', hstate, hid, hstored⟩ := hcreate
    refine turned_insert hstored ?_ (Or.inl hid) rfl
    rw [Option.not_isSome_iff_eq_none.mp htaken]
    exact Moves.stored c' hstate

theorem turned_cancelCommand (hknown : Known s.commands) (tenantId id : String) (now : Int) :
    Turned env storePath s (.cancelCommand tenantId id now) := by
  rcases cancelCommand_commands env (s := s) tenantId id now with hkept | ⟨c, hc, hpending, hok, hstored⟩
  · exact turned_same hkept
  · refine turned_insert hstored ?_ (Or.inr ⟨c, hc, rfl⟩) (by simp [saves, hok])
    rw [hc]
    exact Moves.givenUp _ _ (waiting_of_pending hpending (hknown _ _ hc)) (Or.inl rfl)

theorem turned_acknowledgeCommand (tenantId id : String) (now : Int) :
    Turned env storePath s (.acknowledgeCommand tenantId id now) := by
  rcases acknowledgeCommand_commands env (s := s) tenantId id now with
    hkept | ⟨c, hc, hstate, ⟨hlate, hreply, hstored⟩ | ⟨htimely, hreply, hstored⟩⟩
  · exact turned_same hkept
  · refine turned_insert hstored ?_ (Or.inr ⟨c, hc, rfl⟩) (by simp [saves, hreply])
    rw [hc]
    exact Moves.givenUp _ _ (Or.inr hstate) (Or.inr rfl)
  · refine turned_insert hstored ?_ (Or.inr ⟨c, hc, rfl⟩) (by simp [saves, hreply])
    rw [hc]
    exact Moves.acknowledged _ _ tenantId now rfl htimely hstate rfl

theorem turned_completeCommand (tenantId id : String) (success : Bool) (result : String) (now : Int) :
    Turned env storePath s (.completeCommand tenantId id success result now) := by
  rcases completeCommand_commands env (s := s) tenantId id success result now with
    hkept | ⟨c, hc, hstate, hok, hstored⟩
  · exact turned_same hkept
  · refine turned_insert hstored ?_ (Or.inr ⟨c, hc, rfl⟩) (by simp [saves, hok])
    rw [hc]
    refine Moves.finished _ _ hstate ?_
    cases success
    · exact Or.inr rfl
    · exact Or.inl rfl

theorem turned_expireCommands (hknown : Known s.commands) (now : Int) : Turned env storePath s (.expireCommands now) where
  moves id := by
    rcases swept_expireCommands env (s := s) now id with hsame | ⟨c, hc, hpending, hafter⟩
    · rw [apply, hsame]
      exact Moves.same _
    · rw [apply, hafter, hc]
      exact Moves.givenUp _ _ (waiting_of_pending hpending (hknown _ _ hc)) (Or.inr rfl)
  ids id c' hc' := by
    rcases swept_expireCommands env (s := s) now id with hsame | ⟨c, hc, -, hafter⟩
    · exact Or.inr ⟨c', hsame ▸ hc', rfl⟩
    · rw [apply, hafter] at hc'
      obtain rfl := Option.some.inj hc'
      exact Or.inr ⟨c, hc, rfl⟩
  saved := Or.inl rfl

theorem turned_apply (hknown : Known s.commands) (op : Op ω) : Turned env storePath s op := by
  cases op with
  | enroll d actorId now => exact turned_same (enroll_commands ..)
  | updateDevice tenantId key patch now => exact turned_same (updateDevice_commands ..)
  | retireDevice tenantId key now => exact turned_same (retireDevice_commands ..)
  | receiveHeartbeat hb now => exact turned_same (receiveHeartbeat_commands ..)
  | createCommand c now => exact turned_createCommand c now
  | cancelCommand tenantId id now => exact turned_cancelCommand hknown tenantId id now
  | acknowledgeCommand tenantId id now => exact turned_acknowledgeCommand tenantId id now
  | completeCommand tenantId id success result now => exact turned_completeCommand tenantId id success result now
  | expireCommands now => exact turned_expireCommands hknown now
  | deviceRisk tenantId key now => exact turned_same (sameRecords_deviceRisk ..).commands
  | fleetRisk tenantId now => exact turned_same (sameRecords_fleetRisk ..).commands
  | locationRisk tenantId location now => exact turned_same (sameRecords_locationRisk ..).commands
  | quarantine tenantId key reason now => exact turned_same (quarantine_commands ..)
  | recover tenantId key now => exact turned_same (recover_commands ..)
  | outside world => exact turned_same rfl

/-- A move leads to a state that a stored command can be in. -/
theorem Moves.known {e : Event ω} {id : String} {before after : Option FleetCommand} (h : Moves storePath e id before after)
    (hbefore : ∀ c, before = some c → c.state ∈ storedStates) : ∀ c, after = some c → c.state ∈ storedStates := by
  intro c hc
  cases h with
  | same _ => exact hbefore c hc
  | stored c' hstate =>
    obtain rfl := Option.some.inj hc
    simp only [List.mem_cons, List.not_mem_nil, or_false] at hstate
    rcases hstate with h | h | h <;> simp [h, storedStates]
  | givenUp _ c' _ hstate =>
    obtain rfl := Option.some.inj hc
    rcases hstate with h | h <;> simp [h, storedStates]
  | acknowledged _ c' _ _ _ _ _ hstate =>
    obtain rfl := Option.some.inj hc
    simp [hstate, storedStates]
  | finished _ c' _ hstate =>
    obtain rfl := Option.some.inj hc
    rcases hstate with h | h <;> simp [h, storedStates]
  | forgotten _ _ _ _ => cases hc

/-! ### The store -/

/-- A new process finds the commands in the file. -/
def Stored (file : Option (Json String)) (commands : Dict String FleetCommand) : Prop :=
  (file = none ∧ ∀ id, commands.lookup id = none) ∨
    ∃ s₀ : FleetOperationsService ω, file = some s₀.saved ∧ Filed FleetCommand.commandId s₀.commands ∧
      ∀ id, s₀.commands.lookup id = commands.lookup id

structure Consistent (r : Registry ω) : Prop where
  filed : Filed FleetCommand.commandId r.service.commands
  known : Known r.service.commands
  stored : r.storePath ≠ "" → @Stored ω r.file r.service.commands

/-- Only the commands' lookups count. -/
theorem Consistent.congr {r r' : Registry ω} (h : Consistent r) (hpath : r'.storePath = r.storePath) (hfile : r'.file = r.file)
    (hcommands : ∀ id, r'.service.commands.lookup id = r.service.commands.lookup id) : Consistent r' where
  filed id c hc := h.filed id c (hcommands id ▸ hc)
  known id c hc := h.known id c (hcommands id ▸ hc)
  stored hne := by
    rcases h.stored (hpath ▸ hne) with ⟨hnone, hempty⟩ | ⟨s₀, hsome, hfiled, hlook⟩
    · exact Or.inl ⟨hfile.trans hnone, fun id => (hcommands id).trans (hempty id)⟩
    · exact Or.inr ⟨s₀, hfile.trans hsome, hfiled, fun id => (hlook id).trans (hcommands id).symm⟩

theorem consistent_empty {r : Registry ω} (hcommands : ∀ id, r.service.commands.lookup id = none)
    (hfile : r.storePath ≠ "" → r.file = none) : Consistent r where
  filed id c hc := by simp [hcommands id] at hc
  known id c hc := by simp [hcommands id] at hc
  stored hne := Or.inl ⟨hfile hne, hcommands⟩

theorem Consistent.request {r : Registry ω} (h : Consistent r) (op : Op ω) : Consistent (r.request env op) := by
  have hturned : Turned env r.storePath r.service op := turned_apply h.known op
  have hfiled : Filed FleetCommand.commandId (apply env r.service op).commands := by
    intro id c' hc'
    rcases hturned.ids id c' hc' with hid | ⟨c, hc, hid⟩
    · exact hid
    · exact hid.trans (h.filed id c hc)
  refine ⟨hfiled, fun id c' hc' => (hturned.moves id).known (h.known id) c' hc', fun hne => ?_⟩
  dsimp only [Registry.request] at hne ⊢
  by_cases hsaves : saves env r.service op = true
  · rw [if_pos ⟨hne, hsaves⟩]
    exact Or.inr ⟨_, rfl, hfiled, fun _ => rfl⟩
  · rw [if_neg fun hboth => hsaves hboth.2, hturned.saved.resolve_left hsaves]
    exact h.stored hne

/-- With a store, a new process has the commands of the old one. -/
theorem restart_lookup {r : Registry ω} (h : Consistent r) (hne : r.storePath ≠ "") (world : ω) (id : String) :
    (r.restart world).service.commands.lookup id = r.service.commands.lookup id := by
  rw [Registry.restart, if_neg hne]
  rcases h.stored hne with ⟨hnone, hempty⟩ | ⟨s₀, hsome, hfiled, hlook⟩
  · rw [hnone, hempty id]
    rfl
  · obtain ⟨s', hload, hreloaded⟩ := load_saved s₀ world
    rw [hsome]
    simp only [hload, hreloaded.commands]
    rw [lookup_refiled hfiled, hlook id]

theorem Consistent.restart {r : Registry ω} (h : Consistent r) (world : ω) : Consistent (r.restart world) := by
  obtain ⟨hpath, hfile⟩ := restart_file r world
  by_cases hne : r.storePath = ""
  · refine consistent_empty (fun id => ?_) fun hne' => absurd (hpath.trans hne) hne'
    rw [Registry.restart, if_pos hne]
    rfl
  · exact h.congr hpath hfile fun id => restart_lookup h hne world id

theorem Consistent.step {r : Registry ω} (h : Consistent r) (e : Event ω) : Consistent (r.step env e) := by
  cases e with
  | request op => exact h.request op
  | restart world => exact h.restart world

/-! ### Every event -/

def finalStates : List String := ["completed", "failed", "expired", "cancelled"]

theorem Moves.final {e : Event ω} {id : String} {c : FleetCommand} {after : Option FleetCommand}
    (h : Moves storePath e id (some c) after) (hc : c.state ∈ finalStates) (hpath : storePath ≠ "") : after = some c := by
  cases h with
  | same _ => rfl
  | givenUp _ c' hstate _ => rcases hstate with hs | hs <;> simp [hs, finalStates] at hc
  | acknowledged _ c' _ _ _ _ hstate _ => simp [hstate, finalStates] at hc
  | finished _ c' hstate _ => simp [hstate, finalStates] at hc
  | forgotten _ _ _ hempty => exact absurd hempty hpath

end Drawer.FleetOps
