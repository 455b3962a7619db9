import Drawer.Proofs.CommandIds
import Drawer.Proofs.Dispatch
import Drawer.Sanity.Heartbeats

/-! Risk queries that return. A heartbeat's summaries are any JSON, and three
functions read them later; as long as every stored heartbeat can be read, all of
them return. -/

namespace Drawer.FleetOps
open FleetOperationsService Transition

variable {ω : Type} {env : Env ω} {s : FleetOperationsService ω}

/-! ### Reads -/

theorem value_bool {j : Json String} {key : String} (dflt : Bool) (hj : ∃ members, j = .obj members) (h : HasBool j key) :
    ∃ b, j.value key Json.getBool dflt = .ok b := by
  obtain ⟨members, rfl⟩ := hj
  rw [Json.value_obj]
  cases hv : (Json.obj members).member key with
  | none => exact ⟨dflt, rfl⟩
  | some v =>
    obtain ⟨b, rfl⟩ := h v hv
    exact ⟨b, rfl⟩

theorem value_number {j : Json String} {key : String} (dflt : ℚ) (hj : ∃ members, j = .obj members)
    (h : HasNumber j key) : ∃ q, j.value key Json.getNum dflt = .ok q := by
  obtain ⟨members, rfl⟩ := hj
  rw [Json.value_obj]
  cases hv : (Json.obj members).member key with
  | none => exact ⟨dflt, rfl⟩
  | some v =>
    rcases h v hv with ⟨n, rfl⟩ | ⟨q, rfl⟩
    · exact ⟨n, rfl⟩
    · exact ⟨q, rfl⟩

theorem reportedFactors_ok {hb : FleetHeartbeat} (h : RiskTyped hb) : ∃ factors, reportedFactors hb = .ok factors := by
  obtain ⟨drift, hdrift⟩ := value_number 0 h.inventory h.drift
  obtain ⟨movement, hmovement⟩ := value_bool false h.health h.movement
  obtain ⟨missing, hmissing⟩ := value_bool false h.health h.missing
  obtain ⟨stability, hstability⟩ := value_number 1 h.health h.stability
  simp only [reportedFactors, hdrift, hmovement, hmissing, hstability, Json.ok_bind, Json.pure_ok]
  exact ⟨_, rfl⟩

/-- A member that is read as true is there. -/
theorem member_of_value_true {j : Json String} {key : String} (h : j.value key Json.getBool false = .ok true) :
    j.member key = some (.bool true) := by
  cases j with
  | obj members =>
    rw [Json.value_obj] at h
    cases hv : (Json.obj members).member key with
    | none => simp [hv] at h
    | some v =>
      rw [hv] at h
      cases v with
      | bool b =>
        obtain rfl : b = true := Except.ok.inj h
        rfl
      | _ => cases h
  | _ => cases h

theorem recoveryBlocked_ok (d : FleetDevice) {hb : FleetHeartbeat} (h : Typed hb) :
    ∃ blocked, recoveryBlocked d (some hb) = .ok blocked := by
  obtain ⟨passed, hpassed⟩ := value_bool false h.health h.selfTest
  simp only [recoveryBlocked, hpassed, Json.ok_bind]
  cases passed with
  | false => exact ⟨_, rfl⟩
  | true =>
    simp only [Bool.not_true, Bool.false_eq_true, if_false]
    split_ifs with hunfit
    · exact ⟨_, rfl⟩
    · simp only [Bool.or_eq_true, decide_eq_true_eq, Bool.not_eq_true', not_or, not_not, Bool.not_eq_false] at hunfit
      obtain ⟨contradiction, hcontradiction⟩ := value_bool false h.inventory
        (h.contradiction (member_of_value_true hpassed) hunfit.1.1 hunfit.1.2 hunfit.2)
      simp only [hcontradiction, Json.ok_bind, Json.pure_ok]
      split_ifs <;> exact ⟨_, rfl⟩

/-! ### Queries -/

/-- Every stored heartbeat can be read. -/
def AllTyped (heartbeats : Dict String FleetHeartbeat) : Prop := ∀ id hb, heartbeats.lookup id = some hb → Typed hb

variable (env) in
theorem deviceRiskLocked_ok (h : AllTyped s.heartbeats) (d : FleetDevice) (now : Int) :
    ∃ risk, s.deviceRiskLocked env d now = .ok risk := by
  unfold deviceRiskLocked
  dsimp only
  cases hhb : s.heartbeats.lookup d.deviceId with
  | none => exact ⟨_, rfl⟩
  | some hb =>
    obtain ⟨factors, hfactors⟩ := reportedFactors_ok (h _ hb hhb).toRiskTyped
    simp only [hfactors]
    exact ⟨_, rfl⟩

theorem deviceRisk_returns (h : AllTyped s.heartbeats) (tenantId deviceId : String) (now : Int) :
    returned (s.deviceRisk env tenantId deviceId now).2 = true := by
  unfold deviceRisk
  dsimp only
  split
  · rfl
  · split_ifs
    · rfl
    · obtain ⟨risk, hrisk⟩ := deviceRiskLocked_ok env h _ now
      rw [hrisk]
      rfl

variable (env) in
theorem fleetRiskOne_returns {p : FleetOperationsService ω × Except Exn (List FleetRisk)} (h : AllTyped p.1.heartbeats)
    (hp : returned p.2 = true) (tenantId : String) (now : Int) (d : FleetDevice) :
    AllTyped (fleetRiskOne env tenantId now p d).1.heartbeats ∧ returned (fleetRiskOne env tenantId now p d).2 = true := by
  unfold fleetRiskOne
  split
  · exact ⟨h, hp⟩
  · split_ifs
    · exact ⟨h, hp⟩
    · obtain ⟨risk, hrisk⟩ := deviceRiskLocked_ok env h d now
      rw [hrisk]
      exact ⟨by rw [(sameRecords_recordRiskChangeLocked risk now).heartbeats]; exact h, rfl⟩

theorem fleetRisk_returns (h : AllTyped s.heartbeats) (tenantId : String) (now : Int) :
    returned (s.fleetRisk env tenantId now).2 = true := by
  have hall : ∀ (l : List FleetDevice) (p : FleetOperationsService ω × Except Exn (List FleetRisk)),
      AllTyped p.1.heartbeats → returned p.2 = true → returned (l.foldl (fleetRiskOne env tenantId now) p).2 = true := by
    intro l
    induction l with
    | nil => exact fun p _ hp => hp
    | cons d l ih =>
      intro p hh hp
      obtain ⟨hh', hp'⟩ := fleetRiskOne_returns env hh hp tenantId now d
      exact ih _ hh' hp'
  have hloop := hall (s.devices.entries.map Sigma.snd) (s, .ok []) h rfl
  simp only [fleetRisk]
  cases hout : ((s.devices.entries.map Sigma.snd).foldl (fleetRiskOne env tenantId now) (s, .ok [])).2 with
  | error e => rw [hout] at hloop; cases hloop
  | ok out => rfl

theorem locationRisk_returns (h : AllTyped s.heartbeats) (tenantId locationId : String) (now : Int) :
    returned (s.locationRisk env tenantId locationId now).2 = true := by
  choose risk hrisk using fun d => deviceRiskLocked_ok env h d now
  simp only [locationRisk]
  rw [Json.mapM_ok fun d _ => hrisk d]
  rfl

theorem recover_returns (h : AllTyped s.heartbeats) (tenantId deviceId : String) (now : Int) :
    returned (s.recover env tenantId deviceId now).2 = true := by
  unfold recover
  split
  · rfl
  · rename_i d hd
    split_ifs
    · rfl
    · rfl
    · rfl
    · have hblocked : ∃ blocked, recoveryBlocked d (s.heartbeats.lookup deviceId) = .ok blocked := by
        cases hhb : s.heartbeats.lookup deviceId with
        | none => exact ⟨_, rfl⟩
        | some hb => exact recoveryBlocked_ok d (h _ hb hhb)
      obtain ⟨blocked, hblocked⟩ := hblocked
      obtain ⟨risk, hrisk⟩ := deviceRiskLocked_ok env h d now
      rw [hblocked, hrisk]
      cases blocked with
      | some error => rfl
      | none =>
        dsimp only
        split_ifs <;> rfl

theorem bind_of_returned {α β : Type} {x : Except Exn α} (h : returned x = true) (y : Except Exn β) :
    (x >>= fun _ => y) = y := by
  cases x with
  | error e => cases h
  | ok a => rfl

/-- A legible query returns once it is saved. -/
theorem AllTyped.returns (h : AllTyped s.heartbeats) {query : RiskQuery} (hquery : query.Legible) :
    Returns env (.ok ()) s query := by
  intro now
  cases query with
  | device tenantId deviceId =>
    dsimp only [ask]
    split
    · split
      · rfl
      · exact bind_of_returned (deviceRisk_returns h _ _ now) _
    · rfl
  | fleet tenantId =>
    dsimp only [ask]
    split
    · exact bind_of_returned (fleetRisk_returns h _ now) _
    · rfl
  | location tenantId locationId =>
    obtain ⟨⟨tenant, htenant⟩, location, hlocation⟩ := hquery
    simp only [ask, htenant, hlocation, Json.ok_bind]
    exact bind_of_returned (locationRisk_returns h _ _ now) _
  | recover tenantId deviceId =>
    dsimp only [ask]
    split
    · rename_i tenant device _ _
      have hreturned : returned (s.recover env tenant device now).2 = true := recover_returns h tenant device now
      cases hreply : (s.recover env tenant device now).2 with
      | error e => rw [hreply] at hreturned; cases hreturned
      | ok reply =>
        rw [Json.ok_bind]
        split_ifs <;> rfl
    · rfl

/-! ### Runs -/

/-- Every heartbeat can be read, in the registry and in its store. -/
structure Readable (r : Registry ω) : Prop where
  typed : AllTyped r.service.heartbeats
  stored : r.storePath ≠ "" → ∀ j, r.file = some j →
    ∃ s₀ : FleetOperationsService ω, j = s₀.saved ∧ AllTyped s₀.heartbeats

theorem Readable.request {r : Registry ω} (h : Readable r) {op : Op ω} (hop : StoresTyped env r (.request op)) :
    Readable (r.request env op) := by
  have htyped : AllTyped (apply env r.service op).heartbeats := by
    rcases heartbeats_apply env (s := r.service) op with hsame | ⟨hb, now, d, rfl, hstores, -, hinsert⟩
    · rw [hsame]
      exact h.typed
    · intro id' hb' hhb'
      rw [hinsert, Dict.lookup_insert_if] at hhb'
      split_ifs at hhb'
      · obtain rfl := Option.some.inj hhb'
        exact hop hb now rfl hstores
      · exact h.typed id' hb' hhb'
  refine ⟨htyped, fun hne j hj => ?_⟩
  dsimp only [Registry.request] at hne hj
  split_ifs at hj
  · exact ⟨_, (Option.some.inj hj).symm, htyped⟩
  · exact h.stored hne j hj

theorem Readable.restart {r : Registry ω} (h : Readable r) (world : ω) : Readable (r.restart world) := by
  obtain ⟨hpath, hfile⟩ := restart_file r world
  refine ⟨?_, fun hne j hj => h.stored (hpath ▸ hne) j (hfile ▸ hj)⟩
  have hempty : AllTyped (∅ : Dict String FleetHeartbeat) := fun id hb hhb => nomatch hhb
  unfold Registry.restart
  split_ifs with hne
  · exact hempty
  · cases hj : r.file with
    | none => exact hempty
    | some j =>
      obtain ⟨s₀, rfl, htyped⟩ := h.stored hne j hj
      obtain ⟨s', hload, hreloaded⟩ := load_saved s₀ world
      simp only [hload, hreloaded.heartbeats]
      intro id hb hhb
      obtain ⟨id', hhb'⟩ := lookup_refiled_some hhb
      exact htyped id' hb hhb'

theorem Readable.step {r : Registry ω} (h : Readable r) {e : Event ω} (he : StoresTyped env r e) :
    Readable (r.step env e) := by
  cases e with
  | request op => exact h.request he
  | restart world => exact h.restart world

theorem hasBool_of_value {j : Json String} {key : String} {dflt b : Bool} (h : j.value key Json.getBool dflt = .ok b) :
    (∃ members, j = .obj members) ∧ HasBool j key := by
  cases j with
  | obj members =>
    refine ⟨⟨members, rfl⟩, fun v hv => ?_⟩
    rw [Json.value_obj, hv] at h
    cases v with
    | bool b' => exact ⟨b', rfl⟩
    | _ => cases h
  | _ => cases h

theorem hasNumber_of_value {j : Json String} {key : String} {dflt q : ℚ} (h : j.value key Json.getNum dflt = .ok q) :
    (∃ members, j = .obj members) ∧ HasNumber j key := by
  cases j with
  | obj members =>
    refine ⟨⟨members, rfl⟩, fun v hv => ?_⟩
    rw [Json.value_obj, hv] at h
    cases v with
    | int n => exact Or.inl ⟨n, rfl⟩
    | float q' => exact Or.inr ⟨q', rfl⟩
    | _ => cases h
  | _ => cases h

/-- A heartbeat is read without an exception just if it can be read. -/
theorem reportedFactors_returns {hb : FleetHeartbeat} : returned (reportedFactors hb) = true ↔ RiskTyped hb := by
  refine ⟨fun h => ?_, fun h => ?_⟩
  · unfold reportedFactors at h
    cases hdrift : hb.inventorySummary.value "drift" Json.getNum 0 with
    | error e => rw [hdrift] at h; cases h
    | ok drift =>
      cases hmovement : hb.healthMetrics.value "unusual_cash_movement" Json.getBool false with
      | error e => rw [hdrift, hmovement] at h; cases h
      | ok movement =>
        cases hmissing : hb.healthMetrics.value "missing_trust_evidence" Json.getBool false with
        | error e => rw [hdrift, hmovement, hmissing] at h; cases h
        | ok missing =>
          cases hstability : hb.healthMetrics.value "driver_stability" Json.getNum 1 with
          | error e => rw [hdrift, hmovement, hmissing, hstability] at h; cases h
          | ok stability =>
            exact ⟨(hasNumber_of_value hdrift).1, (hasBool_of_value hmovement).1, (hasNumber_of_value hdrift).2,
              (hasBool_of_value hmovement).2, (hasBool_of_value hmissing).2, (hasNumber_of_value hstability).2⟩
  · obtain ⟨factors, hfactors⟩ := reportedFactors_ok h
    rw [hfactors]
    rfl

/-- The risk of a device returns just if its stored heartbeat can be read. -/
theorem deviceRisk_returns_iff {tenantId deviceId : String} {d : FleetDevice} (hd : s.devices.lookup deviceId = some d)
    (htenant : d.tenantId = tenantId) {hb : FleetHeartbeat} (hhb : s.heartbeats.lookup d.deviceId = some hb) (now : Int) :
    returned (s.deviceRisk env tenantId deviceId now).2 = true ↔ RiskTyped hb := by
  rw [← reportedFactors_returns]
  simp only [deviceRisk, hd, htenant, ne_eq, not_true_eq_false, if_false, deviceRiskLocked, hhb]
  cases reportedFactors hb with
  | error e => exact Iff.rfl
  | ok factors => exact iff_of_true rfl rfl

/-! ### A drift that is a text -/

/-- A location whose name is the byte 255 raises, in the empty registry too. -/
example : ask bareEnv (.ok ()) { world := () } 0 (.location (Text.ascii "org-1") [255]) = .error (.typeError 316) := by
  decide +kernel

end Drawer.FleetOps
