import Drawer.Proofs.CommandPath
import Drawer.Proofs.Dispatch
import Drawer.Spec.EdgeCommands

/-! A policy that fails closed. Whatever the registry and the edge platform ask
about is on the policy's list of actions of high risk, so without an answer
nothing is dispatched, recovered or executed. -/

namespace Drawer.FleetOps
open FleetOperationsService Transition
open Veil (PolicyConfig PolicyDecision VeilTrustService Digest)

/-! ### The lists -/

def guardedActions : List String := ({} : PolicyConfig).highRiskActions

theorem policyAction_guarded (command : String) : policyAction command ∈ guardedActions := by
  have hsubset : ∀ command ∈ ["lock", "unlock", "open", "dispense_cash", "accept_cash", "rotate_keys", "export_evidence",
      "disable_device", "enable_device", "pause_transactions", "resume_transactions", "enter_maintenance_mode"],
      command ∈ guardedActions := by decide
  unfold policyAction
  split_ifs with hrisk
  · exact hsubset command (by simpa [highRiskCommand] using hrisk)
  · decide

theorem edgeCommand_guarded {command : String} (h : EdgePlatformService.highRiskCommand command = true) :
    command ∈ guardedActions := by
  have hsubset : ∀ command ∈ ["lock", "unlock", "open", "dispense_cash", "accept_cash", "rotate_keys", "export_evidence",
      "enter_maintenance_mode"], command ∈ guardedActions := by decide
  exact hsubset command (by simpa [EdgePlatformService.highRiskCommand] using h)

/-! ### The policy -/

/-- A policy for production that fails closed and does not name its own actions of high risk. -/
def closedPolicy (localAllowWhenUnavailable : Bool) : PolicyConfig :=
  { productionMode := true, failClosed := true, localAllowWhenUnavailable }

theorem policyAllowsOrFailClosed_closed {s : VeilTrustService} {locally : Bool} (hs : s.policy = closedPolicy locally)
    {answer : PolicyDecision} (hanswer : answer.unavailable = true) {action : String} (haction : action ∈ guardedActions)
    (tenantId deviceId : String) (context : Json String) (now : Int) :
    (s.policyAllowsOrFailClosed answer tenantId deviceId action context now).2 = false := by
  have hrisk : action ∈ s.policy.highRiskActions := by
    rw [hs]
    exact haction
  have hclosed : s.policy.productionMode = true ∧ s.policy.failClosed = true := by
    rw [hs]
    exact ⟨rfl, rfl⟩
  simp [VeilTrustService.policyAllowsOrFailClosed, VeilTrustService.verifyPolicy, hanswer, hrisk, hclosed]

/-- The service says no to every action on the list. -/
def Denies {ω : Type} (trust : TrustApi ω) : Prop :=
  ∀ w tenantId deviceId context now, ∀ action ∈ guardedActions,
    (trust.policyAllowsOrFailClosed w tenantId deviceId action context now).2 = false

theorem guardedTrust_denies {κ : Type} {locally : Bool} (h : Digest) {verify : PolicyClient κ}
    (hverify : ∀ k tenantId deviceId action context, (verify k tenantId deviceId action context).2.unavailable = true) :
    Denies (guardedTrust (p := closedPolicy locally) h verify) := fun w tenantId deviceId context now action haction =>
  policyAllowsOrFailClosed_closed w.configured (hverify w.client tenantId deviceId action context) haction tenantId deviceId
    context now

/-! ### The registry -/

section
variable {ω : Type} {env : Env ω} {trust : TrustApi ω} {s : FleetOperationsService ω}

theorem policyAllows_denied (henv : env.trust = some trust) (h : Denies trust) {action : String}
    (haction : action ∈ guardedActions) (tenantId deviceId : String) (context : Json String) (now : Int) :
    (s.policyAllows env tenantId deviceId action context now).2 = false := by
  simp only [policyAllows, henv]
  exact h _ _ _ _ _ _ haction

def Undispatched (commands : Dict String FleetCommand) : Prop :=
  ∀ id c, commands.lookup id = some c → c.state ≠ "dispatched"

theorem undispatched_createCommand (henv : env.trust = some trust) (htrust : Denies trust) (h : Undispatched s.commands)
    (c : FleetCommand) (now : Int) : Undispatched (s.createCommand env c now).1.commands := by
  intro id c' hc' hstate
  have hnew : s.commands.lookup id ≠ some c' := fun hold => h id c' hold hstate
  obtain ⟨⟨d, hpassed⟩, -⟩ := adds_createCommand c now id c' hc' hnew hstate
  have hallowed := hpassed.allowed
  rw [policyAllows_denied henv htrust (policyAction_guarded c'.command)] at hallowed
  cases hallowed

theorem undispatched_apply (henv : env.trust = some trust) (htrust : Denies trust) (h : Undispatched s.commands)
    (op : Op ω) : Undispatched (apply env s op).commands := by
  by_cases hop : ∃ c now, op = .createCommand c now
  · obtain ⟨c, now, rfl⟩ := hop
    exact undispatched_createCommand henv htrust h c now
  · push Not at hop
    intro id c' hc'
    rcases rewritten_apply env op hop id with hsame | ⟨c, c'', -, hafter, hstate⟩
    · exact h id c' (hsame ▸ hc')
    · obtain rfl := Option.some.inj (hafter.symm.trans hc')
      rintro heq
      simp [heq, laterStates] at hstate

theorem recover_denied (henv : env.trust = some trust) (htrust : Denies trust) (tenantId key : String) (now : Int) :
    (s.recover env tenantId key now).2 ≠ .ok .ok := by
  have hpolicy : ∀ context, (s.policyAllows env tenantId key "device_recovery" context now).2 = false := fun context =>
    policyAllows_denied henv htrust (by decide) tenantId key context now
  unfold recover
  split
  · simp
  · split_ifs
    · simp
    · simp
    · simp
    · split
      · simp
      · simp
      · split
        · simp
        · simp only [hpolicy, Bool.not_false, if_true]
          split_ifs <;> simp

theorem undispatched_restart {r : Registry ω} (hr : Consistent r) (h : Undispatched r.service.commands) (world : ω) :
    Undispatched (r.restart world).service.commands := by
  intro id c hc
  by_cases hne : r.storePath = ""
  · rw [Registry.restart, if_pos hne] at hc
    cases hc
  · exact h id c ((restart_lookup hr hne world id).symm.trans hc)

theorem undispatched_step (henv : env.trust = some trust) (htrust : Denies trust) {r : Registry ω} (hr : Consistent r)
    (h : Undispatched r.service.commands) (e : Event ω) : Undispatched (r.step env e).service.commands := by
  cases e with
  | request op => exact undispatched_apply henv htrust h op
  | restart world => exact undispatched_restart hr h world

end

/-! ### The edge platform -/

section
variable {τ : Type} {c : Wiring τ} {trust : TrustApi τ}

/-- A command of high risk that gets as far as the policy is rejected there. -/
theorem executeAllowed_denied (hc : c.edgeTrust = some trust) (htrust : Denies trust) (request : EdgeCommandRequest)
    (hrisk : EdgePlatformService.highRiskCommand request.command = true) (w : Site τ) (k : EdgeCommands) (d : EdgeDevice)
    (capability : String) :
    ∃ w' reason eventType, c.executeAllowed w k d capability request =
      rejectCommand w' k (some d) request reason eventType := by
  have hdenied : (c.edgeAllows w d capability request).2 = false := by
    simp only [Wiring.edgeAllows, hc, hrisk, if_true]
    exact htrust _ _ _ _ _ _ (edgeCommand_guarded hrisk)
  rcases hanswer : c.edgeAllows w d capability request with ⟨w', allowed⟩
  rw [hanswer] at hdenied
  obtain rfl : allowed = false := hdenied
  rw [Wiring.executeAllowed, hanswer]
  exact ⟨_, _, _, rfl⟩

theorem executeCommand_denied (hc : c.edgeTrust = some trust) (htrust : Denies trust) {request : EdgeCommandRequest}
    (hrisk : EdgePlatformService.highRiskCommand request.command = true) (w : Site τ) (k : EdgeCommands) :
    ∃ result, (c.executeCommand w k request).2.2 = .ok result ∧ result.executed = false ∧ result.status = "rejected" := by
  have hreject : ∀ (w : Site τ) (d : Option EdgeDevice) (request : EdgeCommandRequest) (reason eventType : String),
      ∃ result, (rejectCommand w k d request reason eventType).2.2 = .ok result ∧ result.executed = false ∧
        result.status = "rejected" := fun w d request reason eventType => ⟨_, rfl, rfl, rfl⟩
  have hrisk' : EdgePlatformService.highRiskCommand (k.named request).command = true := hrisk
  unfold Wiring.executeCommand
  dsimp only
  generalize k.named request = request' at hrisk' ⊢
  split
  · exact hreject ..
  · split_ifs
    · exact hreject ..
    · exact hreject ..
    · obtain ⟨w', reason, eventType, heq⟩ := executeAllowed_denied hc htrust request' hrisk' _ k _ _
      rw [heq]
      exact hreject ..
    · exact hreject ..

/-! ### The system -/

/-- No stored command was ever dispatched. -/
structure Quiet (s : Plant τ) : Prop where
  consistent : Consistent s.registry
  undispatched : Undispatched s.registry.service.commands

theorem Quiet.step (hc : c.trust = some trust) (htrust : Denies trust) {s : Plant τ} (h : Quiet s) (e : PlantEvent τ) :
    Quiet (s.step c e) := by
  have henv : c.env.trust = some (siteTrust trust) := by simp [Wiring.env, hc]
  have hsite : Denies (siteTrust trust) := fun w => htrust w.trust
  cases e with
  | fleet e => exact ⟨h.consistent.step e, undispatched_step henv hsite h.consistent h.undispatched e⟩
  | execute request => exact ⟨h.consistent.congr rfl rfl fun _ => rfl, h.undispatched⟩
  | edgeRestart results => exact ⟨h.consistent, h.undispatched⟩

theorem Quiet.failsClosed (hc : c.trust = some trust) (hedge : c.edgeTrust = some trust) (htrust : Denies trust)
    {s : Plant τ} (h : Quiet s) (e : PlantEvent τ) : FailsClosed c s e where
  undispatched := (h.step hc htrust e).undispatched
  unrecovered tenantId deviceId now _ := by
    have henv : c.env.trust = some (siteTrust trust) := by simp [Wiring.env, hc]
    exact recover_denied henv (fun w => htrust w.trust) tenantId deviceId now
  unexecuted _ _ hrisk := executeCommand_denied hedge htrust hrisk _ _

end

/-- With a policy that fails closed and a client that is never available, along every run no command is dispatched, no
device recovers and no command of high risk is executed. -/
theorem failsClosed_run {κ : Type} {locally : Bool} {verify : PolicyClient κ}
    (hverify : ∀ k tenantId deviceId action context, (verify k tenantId deviceId action context).2.unavailable = true)
    (digest : Digest) (edgeFleet : Bool) (heartbeatTimeoutSeconds : Int) (storePath : String)
    (world : Site (GuardedTrust (closedPolicy locally) κ)) (commands : EdgeCommands)
    (events : List (PlantEvent (GuardedTrust (closedPolicy locally) κ))) :
    let c : Wiring (GuardedTrust (closedPolicy locally) κ) :=
      { digest, trust := some (guardedTrust digest verify), edgeTrust := some (guardedTrust digest verify), edgeFleet
        heartbeatTimeoutSeconds }
    Meets (FailsClosed c) (Plant.step c) { registry := { storePath, service := { world } }, commands } events := by
  intro c
  have htrust : Denies (guardedTrust (p := closedPolicy locally) digest verify) := guardedTrust_denies digest hverify
  have hall : ∀ (events : List (PlantEvent (GuardedTrust (closedPolicy locally) κ)))
      (s : Plant (GuardedTrust (closedPolicy locally) κ)), Quiet s → Meets (FailsClosed c) (Plant.step c) s events := by
    intro events
    induction events with
    | nil => exact fun s _ => trivial
    | cons e events ih => exact fun s hs => ⟨hs.failsClosed rfl rfl htrust e, ih _ (hs.step rfl htrust e)⟩
  exact hall events _ ⟨consistent_empty (fun _ => rfl) fun _ => rfl, fun id v hv => nomatch hv⟩

def absentClient : PolicyClient Unit := fun k tenantId deviceId action context =>
  (k, { tenantId, deviceId, action, context, allowed := true, unavailable := true })

def sampleOrders : List (PlantEvent (GuardedTrust (closedPolicy true) Unit)) :=
  [.fleet (.request (.enroll sampleDevice "operator" 100)), .fleet (.request (.receiveHeartbeat sampleHeartbeat 105)),
   .fleet (.request (.createCommand sampleCommand 110)),
   .execute { deviceId := "dev-1", command := "open", requestedAt := 120 }]

theorem failsClosed_run_absent :
    Meets (FailsClosed
        { digest := sampleEnv.digest, trust := some (guardedTrust sampleEnv.digest absentClient)
          edgeTrust := some (guardedTrust sampleEnv.digest absentClient), edgeFleet := true })
      (Plant.step
        { digest := sampleEnv.digest, trust := some (guardedTrust sampleEnv.digest absentClient)
          edgeTrust := some (guardedTrust sampleEnv.digest absentClient), edgeFleet := true })
      { registry := { storePath := "fleet.json"
                      service := { world := { trust := ⟨{ policy := closedPolicy true }, (), rfl⟩ } } } } sampleOrders :=
  failsClosed_run (fun _ _ _ _ _ => rfl) sampleEnv.digest true 90 "fleet.json" _ {} sampleOrders

end Drawer.FleetOps
