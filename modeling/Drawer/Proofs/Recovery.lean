import Drawer.Proofs.FleetEvidence
import Drawer.Proofs.RiskTotal
import Drawer.Spec.Recovery

/-! Recovery decides its gate. The score it looks at was cut off at a hundred before the
points of the quarantine were taken away; that makes no difference below the limit. -/

namespace Drawer.FleetOps
open FleetOperationsService
open Veil (VeilTrustService PolicyDecision)

variable {ω : Type} {env : Env ω} {s : FleetOperationsService ω} {d : FleetDevice} {hb : FleetHeartbeat} {now : Int}

/-! ### The heartbeat -/

theorem value_affirms {j : Json String} {key : String} (hj : ∃ members, j = .obj members) (h : HasBool j key) :
    j.value key Json.getBool false = .ok (affirms j key) := by
  obtain ⟨members, rfl⟩ := hj
  rw [Json.value_obj, affirms]
  cases hv : (Json.obj members).member key with
  | none => rfl
  | some v =>
    obtain ⟨b, rfl⟩ := h v hv
    rfl

theorem value_numberOr {j : Json String} {key : String} (dflt : ℚ) (hj : ∃ members, j = .obj members)
    (h : HasNumber j key) : j.value key Json.getNum dflt = .ok (numberOr j key dflt) := by
  obtain ⟨members, rfl⟩ := hj
  rw [Json.value_obj, numberOr]
  cases hv : (Json.obj members).member key with
  | none => rfl
  | some v =>
    rcases h v hv with ⟨n, rfl⟩ | ⟨q, rfl⟩
    · rfl
    · rfl

/-- The points of factors, and those of them that are for the quarantine. -/
def points (fs : List RiskFactor) : Int := (fs.map RiskFactor.points).sum

def quarantinePoints (fs : List RiskFactor) : Int := points (fs.filter fun f => f.factor = "quarantined")

@[simp] theorem points_append (fs gs : List RiskFactor) : points (fs ++ gs) = points fs + points gs := by
  simp [points]

@[simp] theorem quarantinePoints_append (fs gs : List RiskFactor) :
    quarantinePoints (fs ++ gs) = quarantinePoints fs + quarantinePoints gs := by
  simp [quarantinePoints]

@[simp] theorem points_ite (c : Prop) [Decidable c] (f : RiskFactor) :
    points (if c then [f] else []) = if c then f.points else 0 := by
  split_ifs <;> simp [points]

@[simp] theorem points_ite_not (c : Prop) [Decidable c] (f : RiskFactor) :
    points (if c then [] else [f]) = if c then 0 else f.points := by
  split_ifs <;> simp [points]

theorem quarantinePoints_ite (c : Prop) [Decidable c] {f : RiskFactor} (hf : f.factor ≠ "quarantined") :
    quarantinePoints (if c then [f] else []) = 0 := by
  split_ifs <;> simp [quarantinePoints, points, hf]

theorem quarantinePoints_ite_not (c : Prop) [Decidable c] {f : RiskFactor} (hf : f.factor ≠ "quarantined") :
    quarantinePoints (if c then [] else [f]) = 0 := by
  split_ifs <;> simp [quarantinePoints, points, hf]

theorem reportedFactors_points (h : RiskTyped hb) :
    ∃ fs, reportedFactors hb = .ok fs ∧ points fs = reportedPoints hb ∧ quarantinePoints fs = 0 := by
  simp only [reportedFactors, value_numberOr 0 h.inventory h.drift, value_affirms h.health h.movement,
    value_affirms h.health h.missing, value_numberOr 1 h.health h.stability, Json.ok_bind, Json.pure_ok]
  refine ⟨_, rfl, by simp [reportedPoints, add_assoc], ?_⟩
  simp [quarantinePoints_ite]

/-! ### The risk -/

/-- The factors of a device whose heartbeat adds `reported`. -/
def factorsWith (env : Env ω) (s : FleetOperationsService ω) (d : FleetDevice) (now : Int) (reported : List RiskFactor) :
    List RiskFactor :=
  let total := s.commands.entries.countP fun e => e.2.deviceId = d.deviceId
  let failures := s.countCommands d.deviceId ["failed", "expired"]
  let violations := (s.policyViolations.lookup d.deviceId).getD 0
  (if heartbeatFreshLocked env d now then []
    else [⟨"stale_heartbeat", 30, "heartbeat exceeds freshness threshold"⟩]) ++
  (if failures ≥ 3 then [⟨"repeated_command_failures", 25, "three or more commands failed"⟩] else []) ++
  (if total > 0 ∧ failures * 2 ≥ total then
    [⟨"command_failure_rate", 15, "at least half of commands failed"⟩] else []) ++
  reported ++
  (if violations > 0 then
    [⟨"policy_violations", min 30 (violations * 10).toInt, "VEIL policy checks were denied"⟩] else []) ++
  (if d.lifecycleState = "quarantined" then [⟨"quarantined", 20, d.quarantineReason⟩] else [])

def heartbeatFactors (s : FleetOperationsService ω) (d : FleetDevice) : Except Exn (List RiskFactor) :=
  match s.heartbeats.lookup d.deviceId with
  | none => .ok []
  | some hb => reportedFactors hb

theorem deviceRiskLocked_of (env : Env ω) (now : Int) {reported : List RiskFactor} (h : heartbeatFactors s d = .ok reported) :
    ∃ risk, s.deviceRiskLocked env d now = .ok risk ∧ risk.factors = factorsWith env s d now reported ∧
      risk.score = min 100 (points (factorsWith env s d now reported)) := by
  unfold deviceRiskLocked heartbeatFactors at *
  cases hhb : s.heartbeats.lookup d.deviceId with
  | none =>
    simp only [hhb] at h
    obtain rfl := Except.ok.inj h
    exact ⟨_, rfl, rfl, rfl⟩
  | some hb =>
    simp only [hhb] at h
    simp only [h]
    exact ⟨_, rfl, rfl, rfl⟩

theorem heartbeatFactors_points (htyped : WellTyped s) (d : FleetDevice) :
    ∃ fs, heartbeatFactors s d = .ok fs ∧ quarantinePoints fs = 0 ∧
      points fs = (match s.heartbeats.lookup d.deviceId with
        | none => 0
        | some hb => reportedPoints hb) := by
  unfold heartbeatFactors
  cases hhb : s.heartbeats.lookup d.deviceId with
  | none => exact ⟨[], rfl, rfl, rfl⟩
  | some hb =>
    obtain ⟨fs, hfs, hpoints, hquarantine⟩ := reportedFactors_points (htyped _ hb hhb).toRiskTyped
    exact ⟨fs, hfs, hquarantine, hpoints⟩

/-- What the score of a quarantined device comes to without its quarantine. -/
theorem unresolved_points (env : Env ω) (htyped : WellTyped s) (hquarantined : d.lifecycleState = "quarantined") (now : Int) :
    ∃ risk, s.deviceRiskLocked env d now = .ok risk ∧ unresolvedScore risk = min 100 (openPoints env s d now + 20) - 20 := by
  obtain ⟨reported, hreported, hquarantine, hpoints⟩ := heartbeatFactors_points htyped d
  obtain ⟨risk, hrisk, hfactors, hscore⟩ := deviceRiskLocked_of env now hreported
  have hall : points (factorsWith env s d now reported) = openPoints env s d now + 20 := by
    simp only [factorsWith, openPoints, points_append, points_ite, points_ite_not, hpoints, hquarantined, if_true]
    rfl
  have hown : quarantinePoints (factorsWith env s d now reported) = 20 := by
    simp only [factorsWith, quarantinePoints_append, hquarantine, hquarantined, if_true]
    rw [quarantinePoints_ite_not _ (by decide), quarantinePoints_ite _ (by decide), quarantinePoints_ite _ (by decide),
      quarantinePoints_ite _ (by simp)]
    simp [quarantinePoints, points]
  refine ⟨risk, hrisk, ?_⟩
  have hunresolved : unresolvedScore risk = risk.score - quarantinePoints risk.factors := rfl
  rw [hunresolved, hfactors, hscore, hall, hown]

/-! ### The gate -/

/-- The heartbeat shows nothing that is in the way. -/
theorem recoveryBlocked_none (htyped : Typed hb) : recoveryBlocked d (some hb) = .ok none ↔
    affirms hb.healthMetrics "self_test_passed" = true ∧ hb.connectivityStatus = "online" ∧
      knownVersion hb.firmwareVersion = true ∧ knownVersion hb.driverVersion = true ∧
      affirms hb.inventorySummary "contradiction" = false ∧ capabilityKnownLocked d = true := by
  have hpassed := value_affirms htyped.health htyped.selfTest
  simp only [recoveryBlocked, hpassed, Json.ok_bind]
  cases htested : affirms hb.healthMetrics "self_test_passed" with
  | false => simp [Json.pure_ok]
  | true =>
    simp only [Bool.not_true, Bool.false_eq_true, if_false]
    split_ifs with hunfit
    · refine iff_of_false (by simp [Json.pure_ok]) ?_
      rintro ⟨-, honline, hfirmware, hdriver, -⟩
      simp [honline, hfirmware, hdriver] at hunfit
    · simp only [Bool.or_eq_true, decide_eq_true_eq, Bool.not_eq_true', not_or, not_not, Bool.not_eq_false] at hunfit
      obtain ⟨⟨honline, hfirmware⟩, hdriver⟩ := hunfit
      have hcontradiction := value_affirms htyped.inventory
        (htyped.contradiction (member_of_value_true (hpassed.trans (by rw [htested]))) honline hfirmware hdriver)
      simp only [hcontradiction, Json.ok_bind, Json.pure_ok]
      cases affirms hb.inventorySummary "contradiction" <;> cases capabilityKnownLocked d <;>
        simp [honline, hfirmware, hdriver]

/-- How an attempt to recover ends. -/
inductive Attempt (env : Env ω) (s : FleetOperationsService ω) (tenantId deviceId : String) (now : Int) :
    FleetOperationsService ω × Except Exn Reply → Prop where
  | refused (error : String) (hnot : ¬ RecoveryOpen env s tenantId deviceId now) :
    Attempt env s tenantId deviceId now (s, .ok (.failed error))
  | denied (error : String) (context : Json String) (hnot : ¬ RecoveryOpen env s tenantId deviceId now) :
    Attempt env s tenantId deviceId now
      ({ s with world := (s.policyAllows env tenantId deviceId "device_recovery" context now).1 }, .ok (.failed error))
  | recovered (s' : FleetOperationsService ω) (h : RecoveryOpen env s tenantId deviceId now) :
    Attempt env s tenantId deviceId now (s', .ok .ok)

theorem attempt (env : Env ω) (htyped : WellTyped s) (tenantId deviceId : String) (now : Int) :
    Attempt env s tenantId deviceId now (s.recover env tenantId deviceId now) := by
  unfold recover
  cases hd : s.devices.lookup deviceId with
  | none => exact .refused _ (by rintro ⟨d, hb, hd', -⟩; simp [hd] at hd')
  | some d =>
    have hgate : ∀ P : Prop, (∀ hb, s.heartbeats.lookup deviceId = some hb → MayRecover env s tenantId deviceId now d hb → P) →
        RecoveryOpen env s tenantId deviceId now → P := by
      rintro P hP ⟨d', hb, hd', hhb, hmay⟩
      obtain rfl := Option.some.inj (hd.symm.trans hd')
      exact hP hb hhb hmay
    dsimp only
    split_ifs with htenant hstate hfresh
    · exact .refused _ (hgate _ fun hb _ hmay => htenant hmay.tenant)
    · refine .refused _ (hgate _ fun hb _ hmay => ?_)
      simp [hmay.quarantined, hmay.present] at hstate
    · refine .refused _ (hgate _ fun hb _ hmay => ?_)
      simp [hmay.fresh] at hfresh
    · simp only [ne_eq, not_not, Bool.or_eq_true, decide_eq_true_eq, not_or, Bool.not_eq_true, Bool.not_eq_true',
        Bool.not_eq_false] at htenant hstate hfresh
      obtain ⟨hquarantined, hpresent⟩ := hstate
      obtain ⟨risk, hrisk, hunresolved⟩ := unresolved_points env htyped hquarantined now
      cases hhb : s.heartbeats.lookup deviceId with
      | none => exact .refused _ (hgate _ fun hb hhb' _ => by simp [hhb] at hhb')
      | some hb =>
        have hgate' : ∀ P : Prop, (MayRecover env s tenantId deviceId now d hb → P) →
            RecoveryOpen env s tenantId deviceId now → P := fun P hP => hgate P fun hb' hhb' hmay => by
          obtain rfl := Option.some.inj (hhb.symm.trans hhb')
          exact hP hmay
        obtain ⟨blocked, hblocked⟩ := recoveryBlocked_ok d (htyped _ hb hhb)
        have hnone := recoveryBlocked_none (d := d) (htyped _ hb hhb)
        rw [hblocked] at hnone ⊢
        cases blocked with
        | some error =>
          refine .refused _ (hgate' _ fun hmay => ?_)
          have := hnone.mpr ⟨hmay.tested, hmay.online, hmay.firmware, hmay.driver, hmay.consistent, hmay.capable⟩
          cases this
        | none =>
          obtain ⟨htested, honline, hfirmware, hdriver, hconsistent, hcapable⟩ := hnone.mp rfl
          simp only [hrisk, hunresolved]
          by_cases hcritical : min 100 (openPoints env s d now + 20) - 20 ≥ 75
          · rw [if_pos hcritical]
            refine .refused _ (hgate' _ fun hmay => ?_)
            have := hmay.risk
            omega
          · rw [if_neg hcritical]
            -- below the limit nothing was cut off
            have hexact : min 100 (openPoints env s d now + 20) - 20 = openPoints env s d now := by omega
            rw [hexact]
            cases hallowed : (s.policyAllows env tenantId deviceId "device_recovery"
                (recoveryContext d (openPoints env s d now)) now).2 with
            | false =>
              simp only [recoveryContext] at hallowed
              simp only [hallowed, Bool.not_false, if_true]
              refine .denied _ _ (hgate' _ fun hmay => ?_)
              have := hmay.allowed
              simp only [recoveryContext, hallowed] at this
              cases this
            | true =>
              have hmay : MayRecover env s tenantId deviceId now d hb :=
                ⟨htenant, hquarantined, hpresent, hfresh, htested, honline, hfirmware, hdriver, hconsistent, hcapable,
                  by omega, hallowed⟩
              simp only [recoveryContext] at hallowed
              simp only [hallowed, Bool.not_true, Bool.false_eq_true, if_false]
              exact .recovered _ ⟨d, hb, hd, hhb, hmay⟩

/-! ### Attempts that fail -/

variable {ε : Type}

/-- Asking the policy of the VEIL trust service makes no evidence. -/
theorem policyAllows_evidence {env : Env (VeilTrustService × ε)} (henv : Veiled env)
    (s : FleetOperationsService (VeilTrustService × ε)) (tenantId deviceId action : String) (context : Json String) (now : Int) :
    (s.policyAllows env tenantId deviceId action context now).1.1.evidence = s.world.1.evidence := by
  unfold policyAllows
  rcases henv with hnone | ⟨h, client, hveil⟩
  · rw [hnone]
  · rw [hveil]
    rfl

/-- An attempt to recover succeeds if and only if the gate is open, and one that fails changes nothing but what the trust
service notes of its decisions. -/
theorem recovery_gate {env : Env (VeilTrustService × ε)} (henv : Veiled env)
    (s : FleetOperationsService (VeilTrustService × ε)) (htyped : WellTyped s) (tenantId deviceId : String) (now : Int) :
    ((s.recover env tenantId deviceId now).2 = .ok .ok ↔ RecoveryOpen env s tenantId deviceId now) ∧
    ((s.recover env tenantId deviceId now).2 ≠ .ok .ok →
      (∃ error, (s.recover env tenantId deviceId now).2 = .ok (.failed error)) ∧
      ∃ w : VeilTrustService × ε, (s.recover env tenantId deviceId now).1 = { s with world := w } ∧
        w.1.evidence = s.world.1.evidence) := by
  have hattempt := attempt env htyped tenantId deviceId now
  generalize s.recover env tenantId deviceId now = p at hattempt ⊢
  cases hattempt with
  | refused error hnot => exact ⟨iff_of_false (by simp) hnot, fun _ => ⟨⟨error, rfl⟩, s.world, rfl, rfl⟩⟩
  | denied error context hnot =>
    exact ⟨iff_of_false (by simp) hnot, fun _ => ⟨⟨error, rfl⟩, _, rfl, policyAllows_evidence henv s ..⟩⟩
  | recovered s' h => exact ⟨iff_of_true rfl h, fun hne => absurd rfl hne⟩

/-- The sample device is quarantined, and its last heartbeat passed the self-test. -/
def sampleQuarantine : FleetOperationsService (VeilTrustService × Unit) where
  devices := (∅ : Dict String FleetDevice).insert "dev-1" { sampleDevice with
    lifecycleState := "quarantined", quarantineReason := "operator_quarantine", lastHeartbeatEpoch := 105 }
  heartbeats := (∅ : Dict String FleetHeartbeat).insert "dev-1" { sampleHeartbeat with
    healthMetrics := .obj [("self_test_passed", .bool true)] }
  world := ({}, ())

theorem wellTyped_sample : WellTyped sampleQuarantine := by
  intro id hb hhb
  have hinsert : ((∅ : Dict String FleetHeartbeat).insert "dev-1" { sampleHeartbeat with
      healthMetrics := .obj [("self_test_passed", .bool true)] }).lookup id = some hb := hhb
  rw [Dict.lookup_insert_if] at hinsert
  split_ifs at hinsert
  · obtain rfl := Option.some.inj hinsert
    exact
      { inventory := ⟨_, rfl⟩
        health := ⟨_, rfl⟩
        drift := fun v hv => nomatch hv
        movement := fun v hv => nomatch hv
        missing := fun v hv => nomatch hv
        stability := fun v hv => nomatch hv
        selfTest := fun v hv => ⟨true, (Option.some.inj hv).symm⟩
        contradiction := fun _ _ _ _ v hv => nomatch hv }
  · cases hinsert

theorem veiled_sample : Veiled sampleVeil := Or.inr ⟨_, _, rfl⟩

theorem recovery_gate_sample :
    ((sampleQuarantine.recover sampleVeil "org-1" "dev-1" 120).2 = .ok .ok ↔
      RecoveryOpen sampleVeil sampleQuarantine "org-1" "dev-1" 120) ∧
    ((sampleQuarantine.recover sampleVeil "org-1" "dev-1" 120).2 ≠ .ok .ok →
      (∃ error, (sampleQuarantine.recover sampleVeil "org-1" "dev-1" 120).2 = .ok (.failed error)) ∧
      ∃ w : VeilTrustService × Unit, (sampleQuarantine.recover sampleVeil "org-1" "dev-1" 120).1 =
        { sampleQuarantine with world := w } ∧ w.1.evidence = sampleQuarantine.world.1.evidence) :=
  recovery_gate veiled_sample sampleQuarantine wellTyped_sample "org-1" "dev-1" 120

example : (sampleQuarantine.recover sampleVeil "org-1" "dev-1" 120).2 = .ok .ok := by decide +kernel

end Drawer.FleetOps
