import Drawer.Sanity.Fleet
import Drawer.Sanity.FleetStore

/-! What a request does to the stored commands: a request about commands writes one
of them, a sweep of the expired ones any number, and no other request writes any. -/

namespace Drawer.FleetOps
open FleetOperationsService

variable {ω : Type} {env : Env ω} {s s' : FleetOperationsService ω}

/-! ### Requests that are not about commands -/

theorem insertDevice_commands (d : FleetDevice) (actorId : String) (now : Int) :
    (s.insertDevice d actorId now).commands = s.commands := rfl

theorem enroll_commands (d : FleetDevice) (actorId : String) (now : Int) :
    (s.enroll env d actorId now).1.commands = s.commands := by
  unfold enroll
  split_ifs
  · rfl
  · rfl
  · rfl
  · split
    · rfl
    · dsimp only
      split_ifs
      · rfl
      · simp [insertDevice_commands]

theorem updateDevice_commands (tenantId key : String) (patch : Json String) (now : Int) :
    (s.updateDevice env tenantId key patch now).1.commands = s.commands := by
  unfold updateDevice
  split
  · rfl
  · split_ifs
    · rfl
    · rfl
    · split
      · rfl
      · split_ifs
        · rfl
        · split
          · rfl
          · rfl
          · split
            · rfl
            · simp only [finishUpdate]
              split_ifs <;> rfl

theorem retireDevice_commands (tenantId key : String) (now : Int) :
    (s.retireDevice env tenantId key now).1.commands = s.commands := by
  unfold retireDevice
  split
  · rfl
  · split_ifs
    · rfl
    · rfl
    · simp

theorem receiveHeartbeat_commands (hb : FleetHeartbeat) (now : Int) :
    (s.receiveHeartbeat env hb now).1.commands = s.commands := by
  unfold receiveHeartbeat
  split
  · rfl
  · dsimp only
    split_ifs
    · exact quarantineLocked_commands ..
    · rfl
    · exact quarantineLocked_commands ..
    · rfl
    · exact quarantineLocked_commands ..
    · exact quarantineLocked_commands ..
    · exact quarantineLocked_commands ..
    · split
      · rfl
      · exact quarantineLocked_commands ..
      · simp

theorem quarantine_commands (tenantId key reason : String) (now : Int) :
    (s.quarantine env tenantId key reason now).1.commands = s.commands := by
  unfold quarantine
  split
  · rfl
  · split
    · rfl
    · exact quarantineLocked_commands ..

theorem recover_commands (tenantId key : String) (now : Int) : (s.recover env tenantId key now).1.commands = s.commands := by
  unfold recover
  split
  · rfl
  · split_ifs
    · rfl
    · rfl
    · rfl
    · split
      · rfl
      · rfl
      · split
        · rfl
        · dsimp only
          split_ifs
          · rfl
          · rfl
          · simp

/-! ### New commands -/

/-- The states a command is first stored in. -/
def firstStates : List String := ["failed", "policy_checking", "dispatched"]

/-- A command is stored, in one of its first states, under its id. -/
def Enters (s s' : FleetOperationsService ω) (id : String) : Prop :=
  ∃ c : FleetCommand, c.state ∈ firstStates ∧ c.commandId = id ∧ s'.commands = s.commands.insert id c

variable (env) in
theorem enters_failCommand (c : FleetCommand) (reason : String) (denied : Bool) (now : Int) :
    Enters s (s.failCommand env c reason denied now).1 c.commandId :=
  ⟨{ c with state := "failed", failureReason := reason }, by simp [firstStates], rfl, rfl⟩

theorem enters_dispatch (d : FleetDevice) (c : FleetCommand) (now : Int) :
    Enters s (s.dispatch env d c now).1 c.commandId :=
  ⟨{ c with state := "dispatched", dispatchedAt := now }, by simp [firstStates], rfl, by simp [dispatch]⟩

theorem enters_checkPolicy (d : FleetDevice) {c : FleetCommand} (hc : c.state = "policy_checking") (now : Int) :
    Enters s (s.checkPolicy env d c now).1 c.commandId := by
  simp only [checkPolicy]
  split_ifs
  · obtain ⟨c', hstate, hid, hstored⟩ := enters_failCommand env (s := quarantineLocked env _ c.deviceId d
      "failed_veil_trust_check" now) c "policy_denied" true now
    exact ⟨c', hstate, hid, by rw [hstored, quarantineLocked_commands]⟩
  · exact ⟨{ c with failureReason := "approval_required" }, by simp [firstStates, hc], rfl, rfl⟩
  · exact enters_dispatch d c now

theorem enters_checkDevice (c : FleetCommand) (now : Int) : Enters s (s.checkDevice env c now).1 c.commandId := by
  unfold checkDevice
  split
  · exact enters_failCommand ..
  · split
    · exact enters_failCommand ..
    · simp only [checkCapability]
      split
      · exact enters_failCommand ..
      · exact enters_checkPolicy _ (by rfl) now

variable (env) in
/-- A command with a taken id writes nothing, one with a new id is stored. -/
theorem createCommand_commands (c : FleetCommand) (now : Int) :
    if (s.commands.lookup (s.queued c now).commandId).isSome then (s.createCommand env c now).1.commands = s.commands
    else Enters s (s.createCommand env c now).1 (s.queued c now).commandId := by
  simp only [createCommand]
  split_ifs
  · rfl
  · exact enters_checkDevice { s.queued c now with state := "queued" } now

/-! ### Requests about one command -/

variable (env) in
theorem cancelCommand_commands (tenantId id : String) (now : Int) :
    (s.cancelCommand env tenantId id now).1.commands = s.commands ∨
      ∃ c, s.commands.lookup id = some c ∧ c.state ∈ pending ∧ (s.cancelCommand env tenantId id now).2 = .ok ∧
        (s.cancelCommand env tenantId id now).1.commands = s.commands.insert id { c with state := "cancelled" } := by
  unfold cancelCommand
  cases hc : s.commands.lookup id with
  | none => exact Or.inl rfl
  | some c =>
    dsimp only
    split_ifs with htenant hstate
    · exact Or.inl rfl
    · exact Or.inr ⟨c, rfl, hstate, rfl, rfl⟩
    · exact Or.inl rfl

variable (env) in
/-- A command that waits for its device is acknowledged in time, or expires. -/
theorem acknowledgeCommand_commands (tenantId id : String) (now : Int) :
    (s.acknowledgeCommand env tenantId id now).1.commands = s.commands ∨
      ∃ c, s.commands.lookup id = some c ∧ c.state = "dispatched" ∧
        ((now > c.expiresAt ∧ (s.acknowledgeCommand env tenantId id now).2 = .failed "command_expired" ∧
            (s.acknowledgeCommand env tenantId id now).1.commands =
              s.commands.insert id { c with state := "expired", failureReason := "expired" }) ∨
          (now ≤ c.expiresAt ∧ (s.acknowledgeCommand env tenantId id now).2 = .ok ∧
            (s.acknowledgeCommand env tenantId id now).1.commands =
              s.commands.insert id { c with state := "acknowledged", acknowledgedAt := now })) := by
  unfold acknowledgeCommand
  cases hc : s.commands.lookup id with
  | none => exact Or.inl rfl
  | some c =>
    dsimp only
    split_ifs with htenant hstate hlate
    · exact Or.inl rfl
    · exact Or.inl rfl
    · exact Or.inr ⟨c, rfl, not_not.mp hstate, Or.inl ⟨hlate, rfl, rfl⟩⟩
    · exact Or.inr ⟨c, rfl, not_not.mp hstate, Or.inr ⟨not_lt.mp hlate, rfl, rfl⟩⟩

theorem quarantineIf_commands (b : Bool) (key reason : String) (now : Int) :
    (s.quarantineIf env b key reason now).commands = s.commands := by
  unfold quarantineIf
  split
  · split_ifs
    · exact quarantineLocked_commands ..
    · rfl
  · rfl

theorem afterReport_commands (c : FleetCommand) (success : Bool) (result : String) (now : Int) :
    (s.afterReport env c success result now).commands = s.commands := by
  unfold afterReport
  split
  · rfl
  · dsimp only
    split_ifs
    · exact emitEvidenceLocked_commands ..
    · simp only [afterFailure, quarantineIf_commands, emitEvidenceLocked_commands]

variable (env) in
theorem completeCommand_commands (tenantId id : String) (success : Bool) (result : String) (now : Int) :
    (s.completeCommand env tenantId id success result now).1.commands = s.commands ∨
      ∃ c, s.commands.lookup id = some c ∧ c.state = "acknowledged" ∧
        (s.completeCommand env tenantId id success result now).2 = .ok ∧
        (s.completeCommand env tenantId id success result now).1.commands =
          s.commands.insert id (reported c success result now) := by
  unfold completeCommand
  cases hc : s.commands.lookup id with
  | none => exact Or.inl rfl
  | some c =>
    dsimp only
    split_ifs with htenant hstate
    · exact Or.inl rfl
    · exact Or.inl rfl
    · exact Or.inr ⟨c, rfl, not_not.mp hstate, rfl, by rw [afterReport_commands, appendEventLocked_commands]⟩

/-! ### The sweep -/

/-- The command as the sweep leaves it. -/
def expiredAs (c : FleetCommand) : FleetCommand := { c with state := "expired", failureReason := "expired" }

/-- What a sweep may do to what is stored under an id. -/
def Swept (before after : Option FleetCommand) : Prop :=
  after = before ∨ ∃ c, before = some c ∧ c.state ∈ pending ∧ after = some (expiredAs c)

theorem swept_expireOne {s₀ : FleetOperationsService ω} {p : FleetOperationsService ω × ℕ} (now : Int) (key : String)
    (h : ∀ id, Swept (s₀.commands.lookup id) (p.1.commands.lookup id)) (id : String) :
    Swept (s₀.commands.lookup id) ((expireOne env now p key).1.commands.lookup id) := by
  unfold expireOne
  cases hc : p.1.commands.lookup key with
  | none => exact h id
  | some c =>
    dsimp only
    split_ifs with hdue
    · simp only [appendEventLocked_commands, Dict.lookup_insert_if]
      split_ifs with hid
      · subst hid
        rcases h id with hsame | ⟨c₀, -, -, hafter⟩
        · exact Or.inr ⟨c, by rw [← hsame, hc], hdue.1, rfl⟩
        · -- a command that was swept is no longer pending
          rw [hc] at hafter
          rw [Option.some.inj hafter] at hdue
          exact absurd hdue.1 (by simp [expiredAs, pending])
      · exact h id
    · exact h id

variable (env) in
theorem swept_expireCommands (now : Int) (id : String) :
    Swept (s.commands.lookup id) ((s.expireCommands env now).1.commands.lookup id) := by
  unfold expireCommands
  have hrun : ∀ (keys : List String) (p : FleetOperationsService ω × ℕ),
      (∀ id, Swept (s.commands.lookup id) (p.1.commands.lookup id)) →
      ∀ id, Swept (s.commands.lookup id) ((keys.foldl (expireOne env now) p).1.commands.lookup id) := by
    intro keys
    induction keys with
    | nil => exact fun p hp => hp
    | cons key keys ih => exact fun p hp => ih _ fun id => swept_expireOne now key hp id
  exact hrun _ (s, 0) (fun id => Or.inl rfl) id

/-! ### Every request but a new command -/

/-- The states a stored command can be taken to. -/
def laterStates : List String := ["cancelled", "expired", "acknowledged", "completed", "failed"]

/-- What is stored under an id is as it was, or was taken to a later state. -/
def Rewritten (before after : Option FleetCommand) : Prop :=
  after = before ∨ ∃ c c', before = some c ∧ after = some c' ∧ c'.state ∈ laterStates

theorem Rewritten.isSome {before after : Option FleetCommand} (h : Rewritten before after) :
    after.isSome = before.isSome := by
  rcases h with rfl | ⟨c, c', rfl, rfl, -⟩ <;> rfl

theorem rewritten_insert {id : String} {c c' : FleetCommand} (hc : s.commands.lookup id = some c)
    (hstate : c'.state ∈ laterStates) (id' : String) :
    Rewritten (s.commands.lookup id') ((s.commands.insert id c').lookup id') := by
  rw [Dict.lookup_insert_if]
  split_ifs with hid
  · subst hid
    exact Or.inr ⟨c, c', hc, rfl, hstate⟩
  · exact Or.inl rfl

variable (env) in
theorem rewritten_apply (op : Op ω) (hop : ∀ c now, op ≠ .createCommand c now) (id : String) :
    Rewritten (s.commands.lookup id) ((apply env s op).commands.lookup id) := by
  have hsame : ∀ {s' : FleetOperationsService ω}, s'.commands = s.commands →
      Rewritten (s.commands.lookup id) (s'.commands.lookup id) := fun heq => Or.inl (by rw [heq])
  cases op with
  | enroll d actorId now => exact hsame (enroll_commands ..)
  | updateDevice tenantId key patch now => exact hsame (updateDevice_commands ..)
  | retireDevice tenantId key now => exact hsame (retireDevice_commands ..)
  | receiveHeartbeat hb now => exact hsame (receiveHeartbeat_commands ..)
  | createCommand c now => exact absurd rfl (hop c now)
  | cancelCommand tenantId key now =>
    rcases cancelCommand_commands env (s := s) tenantId key now with heq | ⟨c, hc, -, -, heq⟩
    · exact hsame heq
    · rw [apply, heq]
      exact rewritten_insert hc (by simp [laterStates]) id
  | acknowledgeCommand tenantId key now =>
    rcases acknowledgeCommand_commands env (s := s) tenantId key now with
      heq | ⟨c, hc, -, ⟨-, -, heq⟩ | ⟨-, -, heq⟩⟩
    · exact hsame heq
    · rw [apply, heq]
      exact rewritten_insert hc (by simp [laterStates]) id
    · rw [apply, heq]
      exact rewritten_insert hc (by simp [laterStates]) id
  | completeCommand tenantId key success result now =>
    rcases completeCommand_commands env (s := s) tenantId key success result now with heq | ⟨c, hc, -, -, heq⟩
    · exact hsame heq
    · rw [apply, heq]
      exact rewritten_insert hc (by cases success <;> simp [reported, laterStates]) id
  | expireCommands now =>
    rcases swept_expireCommands env (s := s) now id with heq | ⟨c, hc, -, hafter⟩
    · exact Or.inl heq
    · exact Or.inr ⟨c, _, hc, hafter, by simp [expiredAs, laterStates]⟩
  | deviceRisk tenantId key now => exact hsame (sameRecords_deviceRisk ..).commands
  | fleetRisk tenantId now => exact hsame (sameRecords_fleetRisk ..).commands
  | locationRisk tenantId location now => exact hsame (sameRecords_locationRisk ..).commands
  | quarantine tenantId key reason now => exact hsame (quarantine_commands ..)
  | recover tenantId key now => exact hsame (recover_commands ..)
  | outside world => exact hsame rfl

end Drawer.FleetOps
