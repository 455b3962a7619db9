import Drawer.Proofs.Lifecycle

/-! The dispatch gate. The checks of `create_command` are read off stage by
stage; that they mean what they should is the invariant of the registry. -/

namespace Drawer.FleetOps
open FleetOperationsService Transition

variable {ω : Type} {env : Env ω} {s : FleetOperationsService ω}

/-! ### What is stored -/

/-- Every command that the call adds and that is dispatched meets `P`. -/
def Adds (s s' : FleetOperationsService ω) (P : FleetCommand → Prop) : Prop :=
  ∀ id c, s'.commands.lookup id = some c → s.commands.lookup id ≠ some c → c.state = "dispatched" → P c

theorem adds_of_insert {s' : FleetOperationsService ω} {P : FleetCommand → Prop} {key : String} {c : FleetCommand}
    (hcmd : s'.commands = s.commands.insert key c) (hc : c.state = "dispatched" → P c) : Adds s s' P := by
  intro id c' hlookup hnew hstate
  rw [hcmd, Dict.lookup_insert_if] at hlookup
  split_ifs at hlookup with hid
  · obtain rfl := Option.some.inj hlookup
    exact hc hstate
  · exact absurd hlookup hnew

theorem adds_failCommand {s₀ : FleetOperationsService ω} {P : FleetCommand → Prop} {c : FleetCommand}
    {reason : String} {denied : Bool} {now : Int} (hcmd : s.commands = s₀.commands) :
    Adds s₀ (s.failCommand env c reason denied now).1 P := by
  have hins : (s.failCommand env c reason denied now).1.commands =
      s₀.commands.insert c.commandId { c with state := "failed", failureReason := reason } := by
    rw [← hcmd]
    rfl
  exact adds_of_insert hins fun hstate => absurd hstate (by simp)

/-! ### The stages of the gate -/

/-- The policy answered yes, and a command of high risk was approved. -/
structure Cleared (env : Env ω) (s : FleetOperationsService ω) (now : Int) (c : FleetCommand) : Prop where
  allowed : (s.policyAllows env c.tenantId c.deviceId (policyAction c.command) (policyContext c) now).2 = true
  approved : c.highRisk = true → c.approvalId ≠ "" ∧ c.approvedBy ≠ ""

theorem adds_checkPolicy (d : FleetDevice) (c : FleetCommand) (hc : c.state ≠ "dispatched") (now : Int) :
    Adds s (s.checkPolicy env d c now).1 fun c' => c' = { c with state := "dispatched", dispatchedAt := now } ∧
      Cleared env s now c ∧ SameView s (s.checkPolicy env d c now).1 := by
  simp only [checkPolicy]
  split_ifs with h1 h2
  · exact adds_failCommand (quarantineLocked_commands ..)
  · exact adds_of_insert rfl fun hstate => absurd hstate hc
  · have hins : ((FleetOperationsService.dispatch env { s with
        world := (s.policyAllows env c.tenantId c.deviceId (policyAction c.command) (policyContext c) now).1 }
        d c now).1).commands = s.commands.insert c.commandId { c with state := "dispatched", dispatchedAt := now } := by
      simp [dispatch]
    have hsame : SameView s (FleetOperationsService.dispatch env { s with
        world := (s.policyAllows env c.tenantId c.deviceId (policyAction c.command) (policyContext c) now).1 }
        d c now).1 := SameView.trans ⟨rfl, rfl⟩ (dispatch_same ..)
    refine adds_of_insert hins fun _ => ⟨rfl, ⟨by simpa using h1, fun hrisk => ?_⟩, hsame⟩
    simpa [hrisk] using h2

/-- What the checks before the policy let through. -/
structure Able (env : Env ω) (d : FleetDevice) (tenantId : String) (now : Int) : Prop where
  tenant : d.tenantId = tenantId
  unmarked : d.retired = false
  free : d.lifecycleState ≠ "quarantined"
  fresh : heartbeatFreshLocked env d now = true
  online : d.connectivityStatus = "online"

theorem able_of_unavailable {d : FleetDevice} {tenantId : String} {now : Int}
    (h : unavailable env d tenantId now = none) : Able env d tenantId now := by
  unfold unavailable at h
  split_ifs at h with h1 h2 h3 h4 h5
  rw [Bool.or_eq_true, decide_eq_true_eq, not_or] at h2
  exact ⟨by simpa using h1, by simpa using h2.1, h2.2, by simpa using h3, by simpa using h4⟩

/-- What `create_command` has checked, in state `s`, of a command it stores as dispatched. -/
structure Passed (env : Env ω) (s : FleetOperationsService ω) (now : Int) (c : FleetCommand) (d : FleetDevice) : Prop where
  device : s.devices.lookup c.deviceId = some d
  able : Able env d c.tenantId now
  capable : capabilityForCommand c.command ∈ d.capabilities
  allowed : (s.policyAllows env c.tenantId c.deviceId (policyAction c.command) (policyContext c) now).2 = true
  approved : highRiskCommand c.command = true → c.approvalId ≠ "" ∧ c.approvedBy ≠ ""

theorem adds_checkDevice (c : FleetCommand) (now : Int) : Adds s (s.checkDevice env c now).1 fun c' =>
    (∃ d, Passed env s now c' d) ∧ SameView s (s.checkDevice env c now).1 := by
  unfold checkDevice
  split
  · exact adds_failCommand rfl
  · rename_i d hd
    split
    · exact adds_failCommand rfl
    · rename_i hnone
      have hable := able_of_unavailable hnone
      simp only [checkCapability]
      split
      · exact adds_failCommand rfl
      · rename_i hcap
        intro id c' hlookup hnew hstate
        obtain ⟨rfl, hclear, hsame⟩ := adds_checkPolicy d _ (by simp) now id c' hlookup hnew hstate
        rw [Bool.or_eq_true, not_or] at hcap
        exact ⟨⟨d, hd, hable, by simpa using hcap.2, hclear.allowed, hclear.approved⟩, hsame⟩

theorem adds_createCommand (c : FleetCommand) (now : Int) : Adds s (s.createCommand env c now).1 fun c' =>
    (∃ d, Passed env s now c' d) ∧ SameView s (s.createCommand env c now).1 := by
  simp only [createCommand]
  split
  · intro id c' hlookup hnew
    exact absurd hlookup hnew
  · intro id c' hlookup hnew hstate
    obtain ⟨⟨d, hpassed⟩, hsame⟩ := adds_checkDevice _ now id c' hlookup hnew hstate
    -- the event of queueing leaves the devices and the attached services as they were
    exact ⟨⟨d, hpassed.device, hpassed.able, hpassed.capable, hpassed.allowed, hpassed.approved⟩,
      SameView.trans ⟨rfl, rfl⟩ hsame⟩

/-! ### The gate -/

theorem gate_of_passed {s' : FleetOperationsService ω} {now : Int} {c : FleetCommand} {d : FleetDevice} (hs : Sound s)
    (hp : Passed env s now c d) (hsame : SameView s s') : Gate env s s' c now d := by
  have hsound := hs c.deviceId d hp.device
  have hfresh := hp.able.fresh
  simp only [heartbeatFreshLocked, Bool.and_eq_true, decide_eq_true_eq] at hfresh
  refine
    { enrolled := ⟨by rw [hsame.1, hp.device], hp.able.tenant⟩
      available := ⟨fun hr => ?_, hp.able.free⟩
      heard := ?_
      fresh := ⟨hfresh.1.1, hfresh.1.2, hfresh.2⟩
      online := hp.able.online
      capable := hp.capable
      allowed := hp.allowed
      approved := hp.approved }
  · have hmark := hp.able.unmarked
    rw [hsound.marked hr] at hmark
    cases hmark
  · rw [hsame.2]
    refine hsound.heard.resolve_left fun hoff => ?_
    exact absurd (hoff.symm.trans hp.able.online) (by decide)

/-- As long as no device is retired by a patch, every command that is stored as dispatched has passed the gate. -/
theorem dispatch_gated (env : Env ω) (w : ω) (ops : List (Op ω)) (h : RetiredProperly env w ops) :
    Gated env w ops := by
  intro before command now after hops id c hlookup hnew hstate
  rw [RetiredProperly, hops, meets_append] at h
  obtain ⟨⟨d, hpassed⟩, hsame⟩ := adds_createCommand command now id c hlookup hnew hstate
  exact ⟨d, gate_of_passed (sound_run h.1) hpassed hsame⟩

/-! ### The gate on a run -/

def sampleHeartbeat : FleetHeartbeat :=
  { deviceId := "dev-1", tenantId := "org-1", firmwareVersion := "1.0.0", driverVersion := "1.0.0", timestamp := 105 }

def sampleCommand : FleetCommand :=
  { commandId := "cmd-1", tenantId := "org-1", deviceId := "dev-1", command := "restart" }

/-- The sample device is enrolled and reports; then comes `rest`. -/
def sampleReport (rest : List (Op Veil.VeilTrustService)) : List (Op Veil.VeilTrustService) :=
  .enroll sampleDevice "operator" 100 :: .receiveHeartbeat sampleHeartbeat 105 :: rest

theorem dispatch_gated_sample :
    ((run sampleEnv {} (sampleReport [.createCommand sampleCommand 110])).commands.lookup "cmd-1").map
      FleetCommand.state = some "dispatched" ∧
    Gated sampleEnv {} (sampleReport [.createCommand sampleCommand 110]) :=
  ⟨by decide +kernel, dispatch_gated sampleEnv {} _ (by decide +kernel)⟩

def samplePatch : Op Veil.VeilTrustService :=
  .updateDevice "org-1" "dev-1" (.obj [("lifecycle_state", .str "retired")]) 106

/-- A device that a patch retired is sent a command: the gate looks at the mark and at quarantine alone. -/
theorem dispatched_to_retired : ¬ Gated sampleEnv {} (sampleReport [samplePatch, .createCommand sampleCommand 110]) := by
  intro h
  have hstored : ((apply sampleEnv (run sampleEnv {} (sampleReport [samplePatch]))
      (.createCommand sampleCommand 110)).commands.lookup "cmd-1").map (fun c => (c.state, c.deviceId)) =
      some ("dispatched", "dev-1") := by decide +kernel
  have hretired : stateOf (apply sampleEnv (run sampleEnv {} (sampleReport [samplePatch]))
      (.createCommand sampleCommand 110)) "dev-1" = some "retired" := by decide +kernel
  have hnone : ((run sampleEnv {} (sampleReport [samplePatch])).commands.lookup "cmd-1").isNone = true := by
    decide +kernel
  obtain ⟨c, hc, heq⟩ := Option.map_eq_some_iff.mp hstored
  obtain ⟨hstate, hdevice⟩ := Prod.mk.inj heq
  have hnew : (run sampleEnv {} (sampleReport [samplePatch])).commands.lookup "cmd-1" ≠ some c := by
    rw [Option.isNone_iff_eq_none.mp hnone]
    exact Option.some_ne_none c |>.symm
  obtain ⟨d, hgate⟩ := h (sampleReport [samplePatch]) sampleCommand 110 [] rfl "cmd-1" c hc hnew hstate
  obtain ⟨d', hd', hret⟩ := stateOf_eq_some.mp hretired
  have hd := hgate.enrolled.1
  rw [hdevice, hd'] at hd
  obtain rfl := Option.some.inj hd
  exact hgate.available.1 hret

end Drawer.FleetOps
