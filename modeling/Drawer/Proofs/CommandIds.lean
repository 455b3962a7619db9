import Drawer.Lib.Json
import Drawer.Lib.Sha256
import Drawer.Proofs.CommandPath
import Drawer.Proofs.DeviceChain

/-! The ids that the registry gives to commands. It counts its commands, and
callers may choose ids of the same shape: an id that runs ahead of the count is
met by the count later. -/

namespace Drawer.FleetOps
open FleetOperationsService Transition
open Veil (idFor idFor_injective)

variable {ω : Type} {env : Env ω} {s : FleetOperationsService ω}

/-- A command without an id is not answered as a duplicate; an answer that says so is of a command that was dispatched
and brought the text itself. -/
def OwnId (env : Env ω) (r : Registry ω) (e : Event ω) : Prop :=
  ∀ c now, e = .request (.createCommand c now) → c.commandId = "" →
    (r.service.createCommand env c now).2.failureReason = "duplicate_command_id" →
      (r.service.createCommand env c now).2.state = "dispatched" ∧ c.failureReason = "duplicate_command_id"

/-- No caller chooses an id that the count has yet to reach, other than the next one. -/
def NotAhead (r : Registry ω) (e : Event ω) : Prop :=
  ∀ c now n, e = .request (.createCommand c now) → c.commandId = idFor "fleet-command" n →
    n ≤ r.service.commands.entries.length

/-! ### Answers -/

/-- Why a command can be refused, or has to wait. -/
def refusals : List String :=
  ["tenant_or_device_mismatch", "device_unavailable", "stale_heartbeat", "device_offline", "unknown_capability_state",
    "unsupported_capability", "policy_denied", "approval_required"]

/-- The command was dispatched, and its reason was not touched, or it says why not. -/
def Answered (c a : FleetCommand) : Prop :=
  (a.state = "dispatched" ∧ a.failureReason = c.failureReason) ∨ a.failureReason ∈ refusals

theorem answered_checkPolicy (d : FleetDevice) (c : FleetCommand) (now : Int) :
    Answered c (s.checkPolicy env d c now).2 := by
  simp only [checkPolicy]
  split_ifs
  · exact Or.inr (by simp [failCommand, refusals])
  · exact Or.inr (by simp [refusals])
  · exact Or.inl ⟨rfl, rfl⟩

theorem unavailable_refusal {d : FleetDevice} {tenantId reason : String} {now : Int}
    (h : unavailable env d tenantId now = some reason) : reason ∈ refusals := by
  unfold unavailable at h
  split_ifs at h <;> obtain rfl := Option.some.inj h <;> simp [refusals]

variable (env) in
theorem answered_checkDevice (c : FleetCommand) (now : Int) : Answered c (s.checkDevice env c now).2 := by
  unfold checkDevice
  split
  · exact Or.inr (by simp [failCommand, refusals])
  · split
    · rename_i hreason
      exact Or.inr (unavailable_refusal hreason)
    · simp only [checkCapability]
      split
      · exact Or.inr (by simp [failCommand, refusals])
      · exact answered_checkPolicy _ _ now

theorem createCommand_answer {c : FleetCommand} {now : Int}
    (h : s.commands.lookup (s.queued c now).commandId = none)
    (hreason : (s.createCommand env c now).2.failureReason = "duplicate_command_id") :
    (s.createCommand env c now).2.state = "dispatched" ∧ c.failureReason = "duplicate_command_id" := by
  simp only [createCommand, h, Option.isSome_none, Bool.false_eq_true, if_false] at hreason ⊢
  rcases answered_checkDevice env (s := s.appendEventLocked env (s.queued c now).tenantId
      (s.queued c now).deviceId "command_queued" now (.obj [("command_id", .str (s.queued c now).commandId),
        ("command", .str (s.queued c now).command)])) { s.queued c now with state := "queued" } now with
    ⟨hstate, hkept⟩ | hrefused
  · exact ⟨hstate, hkept.symm.trans hreason⟩
  · rw [hreason] at hrefused
    simp [refusals] at hrefused

variable (env) in
theorem createCommand_taken {c : FleetCommand} {now : Int}
    (h : (s.commands.lookup (s.queued c now).commandId).isSome = true) :
    (s.createCommand env c now).2.state = "failed" ∧
      (s.createCommand env c now).2.failureReason = "duplicate_command_id" := by
  simp [createCommand, h]

/-! ### The count -/

/-- No id runs ahead of the count. -/
abbrev Counted (commands : Dict String FleetCommand) : Prop := Dict.Numbered (idFor "fleet-command") commands

theorem queued_blank {c : FleetCommand} (h : c.commandId = "") (now : Int) :
    (s.queued c now).commandId = idFor "fleet-command" s.commands.entries.length := by
  simp [queued, h]

theorem queued_named {c : FleetCommand} (h : c.commandId ≠ "") (now : Int) : (s.queued c now).commandId = c.commandId := by
  simp [queued, h]

theorem counted_createCommand (h : Counted s.commands) {c : FleetCommand} {now : Int}
    (hahead : ∀ n, c.commandId = idFor "fleet-command" n → n ≤ s.commands.entries.length) :
    Counted (s.createCommand env c now).1.commands := by
  have hcreate := createCommand_commands env (s := s) c now
  split_ifs at hcreate with htaken
  · rwa [hcreate]
  · obtain ⟨c', -, -, hstored⟩ := hcreate
    rw [hstored]
    refine h.insert (Option.not_isSome_iff_eq_none.mp htaken) (fun n hn => ?_) c'
    -- the id is new: the next one, or one that was chosen
    by_cases hblank : c.commandId = ""
    · rw [queued_blank hblank] at hn
      exact (idFor_injective _ hn).ge
    · rw [queued_named hblank] at hn
      exact hahead n hn

theorem counted_step {r : Registry ω} (hr : Consistent r) (h : Counted r.service.commands) {e : Event ω}
    (hahead : NotAhead r e) : Counted (r.step env e).service.commands := by
  cases e with
  | request op =>
    by_cases hop : ∃ c now, op = .createCommand c now
    · obtain ⟨c, now, rfl⟩ := hop
      exact counted_createCommand h fun n hn => hahead c now n rfl hn
    · push Not at hop
      exact h.congr fun id => (rewritten_apply env op hop id).isSome
  | restart world =>
    by_cases hne : r.storePath = ""
    · rw [Registry.step, Registry.restart, if_pos hne]
      exact Dict.numbered_empty _
    · exact h.congr fun id => by rw [Registry.step, restart_lookup hr hne]

/-- As long as no caller chooses an id ahead of the count, no command without an id is answered as a duplicate. -/
theorem ownId_run (env : Env ω) (storePath : String) (world : ω) {events : List (Event ω)}
    (h : Meets NotAhead (Registry.step env) { storePath, service := { world } } events) :
    Meets (OwnId env) (Registry.step env) { storePath, service := { world } } events := by
  have hall : ∀ (events : List (Event ω)) (r : Registry ω), Consistent r → Counted r.service.commands →
      Meets NotAhead (Registry.step env) r events → Meets (OwnId env) (Registry.step env) r events := by
    intro events
    induction events with
    | nil => exact fun r _ _ _ => trivial
    | cons e events ih =>
      intro r hr hcounted hmeets
      refine ⟨fun c now _ hblank => createCommand_answer ?_, ?_⟩
      · rw [queued_blank hblank]
        exact hcounted.fresh
      · exact ih _ (hr.step e) (counted_step hr hcounted hmeets.1) hmeets.2
  exact hall events _ (consistent_empty (fun _ => rfl) fun _ => rfl) (Dict.numbered_empty _) h

/-! ### An id ahead of the count -/

/-- The request for a command without an id, and without anything else. -/
def blank : Event ω := .request (.createCommand {} 0)

variable (env) in
/-- An id that is taken ahead of the count is met by it, once enough commands without an id have come. -/
theorem collides {r : Registry ω} {n : ℕ} (htaken : (r.service.commands.lookup (idFor "fleet-command" n)).isSome = true)
    (k : ℕ) (hk : n = r.service.commands.entries.length + k) :
    ¬Meets (OwnId env) (Registry.step env) r (List.replicate (k + 1) blank) := by
  induction k generalizing r with
  | zero =>
    intro h
    have hid : (r.service.queued {} 0).commandId = idFor "fleet-command" n := by
      rw [queued_blank rfl, hk, Nat.add_zero]
    obtain ⟨hfailed, hreason⟩ := createCommand_taken env (hid ▸ htaken)
    have hstate := (h.1 {} 0 rfl rfl hreason).1
    rw [hfailed] at hstate
    exact absurd hstate (by decide)
  | succ k ih =>
    intro h
    rw [List.replicate_succ] at h
    have hcreate := createCommand_commands env (s := r.service) {} 0
    split_ifs at hcreate with hnow
    · obtain ⟨hfailed, hreason⟩ := createCommand_taken env hnow
      have hstate := (h.1 {} 0 rfl rfl hreason).1
      rw [hfailed] at hstate
      exact absurd hstate (by decide)
    · -- the count goes up by one
      obtain ⟨c', -, -, hstored⟩ := hcreate
      refine ih (r := r.step env blank) ?_ ?_ h.2
      · change ((r.service.createCommand env {} 0).1.commands.lookup _).isSome = true
        rw [hstored, Dict.lookup_insert_if]
        split_ifs
        · rfl
        · exact htaken
      · change n = (r.service.createCommand env {} 0).1.commands.entries.length + k
        rw [hstored, Dict.length_insert (Option.not_isSome_iff_eq_none.mp hnow), hk]
        omega

/-- The condition is exact: where a run breaks it, some number of commands without an id brings a collision. -/
theorem ownId_iff (env : Env ω) (storePath : String) (world : ω) (events : List (Event ω)) :
    Meets NotAhead (Registry.step env) { storePath, service := { world } } events ↔
      ∀ before, before <+: events → ∀ n, Meets (OwnId env) (Registry.step env) { storePath, service := { world } }
        (before ++ List.replicate n blank) := by
  refine ⟨fun h before hbefore n => ownId_run env storePath world ?_, fun h => ?_⟩
  · obtain ⟨after, rfl⟩ := hbefore
    refine meets_append.mpr ⟨(meets_append.mp h).1, ?_⟩
    have hblank : ∀ (n : ℕ) (r : Registry ω), Meets NotAhead (Registry.step env) r (List.replicate n blank) := by
      intro n
      induction n with
      | zero => exact fun r => trivial
      | succ n ih =>
        refine fun r => ⟨fun c now k hc hname => ?_, ih _⟩
        obtain ⟨rfl, rfl⟩ := Op.createCommand.inj (Event.request.inj hc)
        exact absurd hname.symm (by simp [idFor])
    exact hblank n _
  · have hall : ∀ (events : List (Event ω)) (r : Registry ω), Consistent r → Counted r.service.commands →
        (∀ before, before <+: events → ∀ n, Meets (OwnId env) (Registry.step env) r (before ++ List.replicate n blank)) →
        Meets NotAhead (Registry.step env) r events := by
      intro events
      induction events with
      | nil => exact fun r _ _ _ => trivial
      | cons e events ih =>
        intro r hr hcounted hown
        have hahead : NotAhead r e := by
          intro c now n he hname
          by_contra hlate
          push Not at hlate
          have hnew : r.service.commands.lookup (idFor "fleet-command" n) = none := by
            by_contra hne
            exact absurd (hcounted n (Option.isSome_iff_ne_none.mpr hne)) hlate.le.not_gt
          have hid : (r.service.queued c now).commandId = idFor "fleet-command" n := by
            rw [queued_named (by simp [hname, idFor]), hname]
          have hcreate := createCommand_commands env (s := r.service) c now
          rw [hid, hnew] at hcreate
          obtain ⟨c', -, -, hstored⟩ := hcreate
          have hstep : (r.step env e).service.commands = r.service.commands.insert (idFor "fleet-command" n) c' := by
            rw [he]
            exact hstored
          refine collides env (r := r.step env e) (n := n) ?_ (n - (r.service.commands.entries.length + 1)) ?_
            (hown [e] ⟨events, rfl⟩ _).2
          · rw [hstep, AList.lookup_insert]
            rfl
          · rw [hstep, Dict.length_insert hnew]
            omega
        refine ⟨hahead, ih _ (hr.step e) (counted_step hr hcounted hahead) fun before hbefore n => ?_⟩
        obtain ⟨after, rfl⟩ := hbefore
        exact (hown (e :: before) ⟨after, rfl⟩ n).2
    exact hall events _ (consistent_empty (fun _ => rfl) fun _ => rfl) (Dict.numbered_empty _) h

/-! ### A chosen id -/

/-- A registry with nothing attached. -/
def bareEnv : Env Unit := { digest := ⟨sha256Hex, Json.dump fun _ => ""⟩ }

theorem ownId_run_chosen :
    Meets (OwnId bareEnv) (Registry.step bareEnv) { storePath := "fleet.json", service := { world := () } }
      [.request (.createCommand { commandId := "fleet-command-1" } 100), .restart (), blank] := by
  refine ownId_run bareEnv "fleet.json" () ⟨fun c now n he hname => ?_, ⟨fun c now n he _ => ?_, ⟨?_, trivial⟩⟩⟩
  · obtain ⟨rfl, rfl⟩ := Op.createCommand.inj (Event.request.inj he)
    exact (idFor_injective "fleet-command" (show idFor "fleet-command" 0 = idFor "fleet-command" n from hname)).ge
  · cases he
  · intro c now n he hname
    obtain ⟨rfl, rfl⟩ := Op.createCommand.inj (Event.request.inj he)
    exact absurd hname.symm (by simp [idFor])

/-- One caller chooses the id that the count reaches with the next command, which then has none. -/
theorem second_id_taken :
    ¬Meets (OwnId bareEnv) (Registry.step bareEnv) { storePath := "", service := { world := () } }
      [.request (.createCommand { commandId := "fleet-command-2", tenantId := "org-1" } 100),
       .request (.createCommand { tenantId := "org-2" } 101)] := by
  intro h
  have hreason : (((Registry.step bareEnv { storePath := "", service := { world := () } }
      (.request (.createCommand { commandId := "fleet-command-2", tenantId := "org-1" } 100))).service.createCommand bareEnv
        { tenantId := "org-2" } 101).2.failureReason) = "duplicate_command_id" := by decide +kernel
  have hown := (h.2.1 { tenantId := "org-2" } 101 rfl rfl hreason).2
  exact absurd hown (by decide)

end Drawer.FleetOps
