import Drawer.Sanity.Fleet
import Drawer.Spec.EdgePlatform
import Drawer.Spec.FleetEvidence

/-! What a request writes, as a sequence of edits. An edit is made on behalf of
some tenants, writes at most one device, and stamps its evidence with one time.
Enrolment makes a record of its own and is described apart. -/

namespace Drawer.FleetOps
open FleetOperationsService

variable {ω : Type} {env : Env ω} {s s' s'' : FleetOperationsService ω} {who : String → Prop} {key : String} {stamp : Int}

/-! ### Edits -/

/-- The command waits for its device. -/
def Live (c : FleetCommand) : Prop := c.state = "dispatched" ∨ c.state = "acknowledged"

/-- Whose the device is. -/
def tenantOf (s : FleetOperationsService ω) (k : String) : Option String := (s.devices.lookup k).map FleetDevice.tenantId

theorem tenantOf_of_lookup {k : String} {d : FleetDevice} (hd : s.devices.lookup k = some d) :
    tenantOf s k = some d.tenantId := by rw [tenantOf, hd, Option.map_some]

/-- One write, on behalf of tenants `who`, of the device `key`, with evidence stamped `stamp`. -/
inductive Edit (env : Env ω) (who : String → Prop) (key : String) (stamp : Int) :
    FleetOperationsService ω → FleetOperationsService ω → Prop
  | note {s s' : FleetOperationsService ω} (h : SameRecords s s') : Edit env who key stamp s s'
  | hear {s : FleetOperationsService ω} (heartbeats : Dict String FleetHeartbeat) :
      Edit env who key stamp s { s with heartbeats := heartbeats }
  | write {s : FleetOperationsService ω} {d d' : FleetDevice} (hd : s.devices.lookup key = some d)
      (hwho : who d.tenantId) (hid : d'.deviceId = d.deviceId) (htenant : d'.tenantId = d.tenantId) :
      Edit env who key stamp s { s with devices := s.devices.insert key d' }
  | place {s : FleetOperationsService ω} {a : DeviceAssignment} (hwho : who a.tenantId)
      (ha : tenantOf s key = some a.tenantId) :
      Edit env who key stamp s { s with assignments := s.assignments.insert key a }
  | store {s : FleetOperationsService ω} {id : String} {c : FleetCommand} (hwho : who c.tenantId)
      (hold : ∀ c₀, s.commands.lookup id = some c₀ → c₀.tenantId = c.tenantId)
      (hlive : Live c → tenantOf s c.deviceId = some c.tenantId) :
      Edit env who key stamp s { s with commands := s.commands.insert id c }
  | ask {s : FleetOperationsService ω} (tenantId deviceId action : String) (context : Json String) (now : Int) :
      Edit env who key stamp s { s with world := (s.policyAllows env tenantId deviceId action context now).1 }
  | record {s : FleetOperationsService ω} {d : FleetDevice} (hd : s.devices.lookup key = some d)
      (eventType : String) (payload : Json String) :
      Edit env who key stamp s (s.emitEvidenceLocked env d eventType stamp payload)

def Edits (env : Env ω) (who : String → Prop) (key : String) (stamp : Int) :
    FleetOperationsService ω → FleetOperationsService ω → Prop := Relation.ReflTransGen (Edit env who key stamp)

theorem Edits.refl (s : FleetOperationsService ω) : Edits env who key stamp s s := Relation.ReflTransGen.refl

theorem Edits.trans (h : Edits env who key stamp s s') (h' : Edits env who key stamp s' s'') :
    Edits env who key stamp s s'' := Relation.ReflTransGen.trans h h'

theorem Edit.edits (h : Edit env who key stamp s s') : Edits env who key stamp s s' := Relation.ReflTransGen.single h

theorem SameRecords.edits (h : SameRecords s s') : Edits env who key stamp s s' := (Edit.note h).edits

theorem Edits.note (h : Edits env who key stamp s s') {t d e : String} {n : Int} {p : Json String} :
    Edits env who key stamp s (s'.appendEventLocked env t d e n p) :=
  h.trans (sameRecords_appendEventLocked t d e n p).edits

theorem Edits.record (h : Edits env who key stamp s s') {d : FleetDevice} (hd : s'.devices.lookup key = some d)
    {eventType : String} {payload : Json String} :
    Edits env who key stamp s (s'.emitEvidenceLocked env d eventType stamp payload) :=
  h.trans (Edit.record hd eventType payload).edits

/-- An event is logged and the device recorded in evidence. -/
theorem Edits.noteRecord (h : Edits env who key stamp s s') {d : FleetDevice} (hd : s'.devices.lookup key = some d)
    {t k e eventType : String} {n : Int} {p payload : Json String} :
    Edits env who key stamp s ((s'.appendEventLocked env t k e n p).emitEvidenceLocked env d eventType stamp payload) := by
  refine h.note.record ?_
  rw [appendEventLocked_devices, hd]

/-- No edit changes whose a device is. -/
theorem Edit.tenantOf_eq (h : Edit env who key stamp s s') (k : String) : tenantOf s' k = tenantOf s k := by
  cases h with
  | note h => rw [tenantOf, h.devices, tenantOf]
  | hear => rfl
  | write hd _ _ htenant =>
    rw [tenantOf, Dict.lookup_insert_if]
    split_ifs with hk
    · rw [hk, tenantOf_of_lookup hd, Option.map_some, htenant]
    · rfl
  | place => rfl
  | store => rfl
  | ask => rfl
  | record => rw [tenantOf, emitEvidenceLocked_devices, tenantOf]

theorem Edits.tenantOf_eq (h : Edits env who key stamp s s') (k : String) : tenantOf s' k = tenantOf s k := by
  induction h with
  | refl => rfl
  | tail _ hstep ih => rw [hstep.tenantOf_eq, ih]

/-! ### Ownership -/

/-- Devices are kept under their own ids, and what refers to one is of its tenant. -/
structure Owned (s : FleetOperationsService ω) : Prop where
  keyed : Keyed s
  named : ∀ k t, tenantOf s k = some t → k ≠ "" ∧ t ≠ ""
  placed : ∀ k a, s.assignments.lookup k = some a → tenantOf s k = some a.tenantId
  live : ∀ id c, s.commands.lookup id = some c → Live c → tenantOf s c.deviceId = some c.tenantId

/-- Ownership looks at devices, assignments and commands alone. -/
theorem Owned.of_same (hs : Owned s) (hdev : s'.devices = s.devices) (hassign : s'.assignments = s.assignments)
    (hcmd : s'.commands = s.commands) : Owned s' where
  keyed := by
    rw [Keyed, hdev]
    exact hs.keyed
  named := by
    simp only [tenantOf, hdev]
    exact hs.named
  placed := by
    simp only [tenantOf, hdev, hassign]
    exact hs.placed
  live := by
    simp only [tenantOf, hdev, hcmd]
    exact hs.live

theorem Edit.keyed (h : Edit env who key stamp s s') (hs : Keyed s) : Keyed s' := by
  cases h with
  | note h =>
    rw [Keyed, h.devices]
    exact hs
  | hear => exact hs
  | write hd _ hid _ =>
    intro k d hk
    rw [Dict.lookup_insert_if] at hk
    split_ifs at hk with hkey
    · obtain rfl := Option.some.inj hk
      rw [hid, hs key _ hd, hkey]
    · exact hs k d hk
  | place => exact hs
  | store => exact hs
  | ask => exact hs
  | record =>
    rw [Keyed, emitEvidenceLocked_devices]
    exact hs

@[simp] theorem emitEvidenceLocked_assignments (d : FleetDevice) (e : String) (n : Int) (p : Json String) :
    (s.emitEvidenceLocked env d e n p).assignments = s.assignments := by
  unfold emitEvidenceLocked
  split <;> rfl

theorem Edit.owned (h : Edit env who key stamp s s') (hs : Owned s) : Owned s' := by
  have htenant := h.tenantOf_eq
  refine ⟨h.keyed hs.keyed, fun k t hk => hs.named k t (htenant k ▸ hk), fun k a ha => ?_, fun id c hc hlive => ?_⟩
  · rw [htenant]
    cases h with
    | note h => exact hs.placed k a (h.assignments ▸ ha)
    | hear => exact hs.placed k a ha
    | write => exact hs.placed k a ha
    | place _ hplace =>
      rw [Dict.lookup_insert_if] at ha
      split_ifs at ha with hk
      · obtain rfl := Option.some.inj ha
        rw [hk, hplace]
      · exact hs.placed k a ha
    | store => exact hs.placed k a ha
    | ask => exact hs.placed k a ha
    | record =>
      rw [emitEvidenceLocked_assignments] at ha
      exact hs.placed k a ha
  · rw [htenant]
    cases h with
    | note h => exact hs.live id c (h.commands ▸ hc) hlive
    | hear => exact hs.live id c hc hlive
    | write => exact hs.live id c hc hlive
    | place => exact hs.live id c hc hlive
    | store _ _ hstore =>
      rw [Dict.lookup_insert_if] at hc
      split_ifs at hc with hid
      · obtain rfl := Option.some.inj hc
        exact hstore hlive
      · exact hs.live id c hc hlive
    | ask => exact hs.live id c hc hlive
    | record =>
      rw [emitEvidenceLocked_commands] at hc
      exact hs.live id c hc hlive

theorem Edits.owned (h : Edits env who key stamp s s') (hs : Owned s) : Owned s' := by
  induction h with
  | refl => exact hs
  | tail _ hstep ih => exact hstep.owned ih

/-! ### Each request -/

theorem edits_quarantineLocked {d : FleetDevice} (hd : s.devices.lookup key = some d) (hwho : who d.tenantId)
    (reason : String) (now : Int) : Edits env who key now s (s.quarantineLocked env key d reason now) := by
  unfold quarantineLocked
  split_ifs
  · exact Edits.refl s
  · dsimp only
    refine Edits.noteRecord (Edit.write hd hwho ?_ ?_).edits (AList.lookup_insert _)
    · rfl
    · rfl

theorem PatchOf.owner {d d' : FleetDevice} (h : PatchOf d d') : d'.deviceId = d.deviceId ∧ d'.tenantId = d.tenantId := by
  obtain ⟨_, _, _, _, _, rfl⟩ := h
  exact ⟨rfl, rfl⟩

theorem edits_finishUpdate {d d' : FleetDevice} (hd : s.devices.lookup key = some d) (hid : d'.deviceId = d.deviceId)
    (htenant : d'.tenantId = d.tenantId) (hwho : who d.tenantId) (prior : String) (now : Int) :
    Edits env who key now s (s.finishUpdate env d.tenantId key prior d' now) := by
  have hplace : ∀ s₁ : FleetOperationsService ω, s₁.devices.lookup key = some d' →
      Edit env who key now s₁ { s₁ with assignments := s₁.assignments.insert key (assignmentOf d' d.tenantId key now) } :=
    fun s₁ hs₁ => Edit.place hwho ((tenantOf_of_lookup hs₁).trans (congrArg some htenant))
  have hwrite : Edits env who key now s { s with devices := s.devices.insert key d' } :=
    (Edit.write hd hwho hid htenant).edits
  simp only [finishUpdate]
  split_ifs
  · exact hwrite.trans (hplace _ (AList.lookup_insert _)).edits
  · refine hwrite.note.trans (hplace _ ?_).edits
    rw [appendEventLocked_devices]
    exact AList.lookup_insert _

theorem edits_updateDevice (tenant : String) (patch : Json String) (now : Int) :
    Edits env (· = tenant) key now s (s.updateDevice env tenant key patch now).1 := by
  unfold updateDevice
  split
  · exact Edits.refl s
  · rename_i d hd
    split_ifs with h1 h2
    · exact Edits.refl s
    · exact Edits.refl s
    · split
      · exact Edits.refl s
      · rename_i next _
        split_ifs
        · exact Edits.refl s
        · split
          · exact Edits.refl s
          · exact Edits.refl s
          · obtain rfl : d.tenantId = tenant := by simpa using h1
            have hleaves := leaves_patchFields patch { d with lifecycleState := next }
            split
            · rename_i d' e hp
              rw [hp] at hleaves
              refine Edit.edits (Edit.write hd ?_ hleaves.owner.1 hleaves.owner.2)
              rfl
            · rename_i d' hp
              rw [hp] at hleaves
              refine edits_finishUpdate hd hleaves.owner.1 hleaves.owner.2 ?_ _ now
              rfl

theorem edits_retireDevice (tenant : String) (now : Int) :
    Edits env (· = tenant) key now s (s.retireDevice env tenant key now).1 := by
  unfold retireDevice
  split
  · exact Edits.refl s
  · rename_i d hd
    split_ifs with h1 h2
    · exact Edits.refl s
    · exact Edits.refl s
    · dsimp only
      refine Edits.noteRecord (Edit.write hd ?_ ?_ ?_).edits (AList.lookup_insert _)
      · simpa using h1
      · rfl
      · rfl

/-! ### Commands -/

theorem edit_store_new {id : String} {c : FleetCommand} (hwho : who c.tenantId) (hnew : s.commands.lookup id = none)
    (hlive : Live c → tenantOf s c.deviceId = some c.tenantId) :
    Edit env who key stamp s { s with commands := s.commands.insert id c } := by
  refine Edit.store hwho (fun c₀ hc₀ => ?_) hlive
  rw [hnew] at hc₀
  cases hc₀

theorem edits_failCommand {c : FleetCommand} (hwho : who c.tenantId) (hnew : s.commands.lookup c.commandId = none)
    (reason : String) (denied : Bool) (now : Int) :
    Edits env who key stamp s (s.failCommand env c reason denied now).1 := by
  refine Edits.note (edit_store_new ?_ hnew fun hlive => ?_).edits
  · exact hwho
  · exact absurd hlive (by simp [Live])

theorem edits_dispatch {d : FleetDevice} {c : FleetCommand} (hd : s.devices.lookup c.deviceId = some d)
    (htenant : d.tenantId = c.tenantId) (hwho : who c.tenantId) (hnew : s.commands.lookup c.commandId = none)
    (now : Int) : Edits env who c.deviceId now s (s.dispatch env d c now).1 := by
  simp only [dispatch]
  refine Edits.record (Edits.note (Edits.trans (Edits.note (Edits.refl s)) (edit_store_new ?_ ?_ fun _ => ?_).edits)) hd
  · exact hwho
  · exact hnew
  · rw [tenantOf, appendEventLocked_devices, hd, Option.map_some, htenant]

theorem edits_checkPolicy {d : FleetDevice} {c : FleetCommand} (hd : s.devices.lookup c.deviceId = some d)
    (htenant : d.tenantId = c.tenantId) (hwho : who c.tenantId) (hnew : s.commands.lookup c.commandId = none)
    (hwait : ¬ Live c) (now : Int) : Edits env who c.deviceId now s (s.checkPolicy env d c now).1 := by
  have hask : Edits env who c.deviceId now s { s with
      world := (s.policyAllows env c.tenantId c.deviceId (policyAction c.command) (policyContext c) now).1 } :=
    (Edit.ask _ _ _ _ _).edits
  simp only [checkPolicy]
  refine hask.trans ?_
  split_ifs
  · -- the violation is counted, the device quarantined, and the command stored as failed
    have hcount : ∀ s₁ : FleetOperationsService ω, ∀ m, Edits env who c.deviceId now s₁ { s₁ with policyViolations := m } :=
      fun s₁ m => SameRecords.edits ⟨rfl, rfl, rfl, rfl, rfl, rfl, rfl, rfl⟩
    refine (hcount _ _).trans ((edits_quarantineLocked ?_ (htenant ▸ hwho) _ now).trans (edits_failCommand hwho ?_ _ _ now))
    · exact hd
    · rw [quarantineLocked_commands]
      exact hnew
  · refine (edit_store_new ?_ ?_ fun hlive => ?_).edits
    · exact hwho
    · exact hnew
    · exact absurd hlive hwait
  · refine edits_dispatch ?_ htenant hwho ?_ now
    · exact hd
    · exact hnew

theorem tenant_of_unavailable {d : FleetDevice} {tenantId : String} {now : Int}
    (h : unavailable env d tenantId now = none) : d.tenantId = tenantId := by
  unfold unavailable at h
  split_ifs at h with h1
  simpa using h1

theorem edits_checkDevice {c : FleetCommand} (hwho : who c.tenantId) (hnew : s.commands.lookup c.commandId = none)
    (now : Int) : Edits env who c.deviceId now s (s.checkDevice env c now).1 := by
  unfold checkDevice
  split
  · exact edits_failCommand hwho hnew _ _ now
  · rename_i d hd
    split
    · exact edits_failCommand hwho hnew _ _ now
    · rename_i hnone
      simp only [checkCapability]
      split
      · refine edits_failCommand ?_ ?_ _ _ now
        · exact hwho
        · exact hnew
      · refine edits_checkPolicy (c := { c with
          requiredCapability := capabilityForCommand c.command, state := "policy_checking"
          highRisk := highRiskCommand c.command }) hd (tenant_of_unavailable hnone) hwho hnew ?_ now
        simp [Live]

theorem edits_createCommand (c : FleetCommand) (now : Int) :
    Edits env (· = c.tenantId) c.deviceId now s (s.createCommand env c now).1 := by
  simp only [createCommand]
  split_ifs with hdup
  · exact (Edits.refl s).note
  · refine Edits.trans (Edits.note (Edits.refl s)) (edits_checkDevice (c := { s.queued c now with state := "queued" }) ?_ ?_ now)
    · rfl
    · simpa using hdup

/-- A command that is stored again under its id, for its tenant. -/
theorem edit_store_again {id : String} {c c' : FleetCommand} (hc : s.commands.lookup id = some c) (hwho : who c.tenantId)
    (htenant : c'.tenantId = c.tenantId) (hlive : Live c' → tenantOf s c'.deviceId = some c.tenantId) :
    Edit env who key stamp s { s with commands := s.commands.insert id c' } := by
  refine Edit.store (htenant ▸ hwho) (fun c₀ hc₀ => ?_) (htenant ▸ hlive)
  rw [hc] at hc₀
  rw [htenant, Option.some.inj hc₀]

theorem edits_cancelCommand (tenant id k : String) (now : Int) :
    Edits env (· = tenant) k now s (s.cancelCommand env tenant id now).1 := by
  unfold cancelCommand
  split
  · exact Edits.refl s
  · rename_i c hc
    split_ifs with h1 h2
    · exact Edits.refl s
    · refine Edits.note (edit_store_again hc ?_ ?_ fun hlive => ?_).edits
      · simpa using h1
      · rfl
      · exact absurd hlive (by simp [Live])
    · exact Edits.refl s

theorem edits_acknowledgeCommand (hs : Owned s) (tenant id k : String) (now : Int) :
    Edits env (· = tenant) k now s (s.acknowledgeCommand env tenant id now).1 := by
  unfold acknowledgeCommand
  split
  · exact Edits.refl s
  · rename_i c hc
    split_ifs with h1 h2 h3
    · exact Edits.refl s
    · exact Edits.refl s
    · refine Edits.note (edit_store_again hc ?_ ?_ fun hlive => ?_).edits
      · simpa using h1
      · rfl
      · exact absurd hlive (by simp [Live])
    · refine Edits.note (edit_store_again hc ?_ ?_ fun _ => ?_).edits
      · simpa using h1
      · rfl
      · exact hs.live id c hc (Or.inl (by simpa using h2))

theorem edits_quarantineIf {tenant : String} (hkey : tenantOf s key = some tenant) (hwho : who tenant) (c : Bool)
    (reason : String) (now : Int) : Edits env who key now s (s.quarantineIf env c key reason now) := by
  unfold quarantineIf
  split
  · rename_i d hd
    split_ifs
    · refine edits_quarantineLocked hd ?_ reason now
      rw [tenantOf_of_lookup hd] at hkey
      rwa [Option.some.inj hkey]
    · exact Edits.refl s
  · exact Edits.refl s

theorem edits_afterFailure {tenant : String} (hkey : tenantOf s key = some tenant) (hwho : who tenant)
    (result : String) (now : Int) : Edits env who key now s (s.afterFailure env key result now) := by
  have hfirst : Edits env who key now s (s.quarantineIf env ("suspicious".toList <:+: result.toList) key
      "suspicious_command_result" now) := edits_quarantineIf hkey hwho _ _ now
  exact hfirst.trans (edits_quarantineIf ((hfirst.tenantOf_eq key).trans hkey) hwho _ _ now)

theorem edits_afterReport {c : FleetCommand} (hdevice : tenantOf s c.deviceId = some c.tenantId) (hwho : who c.tenantId)
    (success : Bool) (result : String) (now : Int) :
    Edits env who c.deviceId now s (s.afterReport env c success result now) := by
  unfold afterReport
  split
  · exact Edits.refl s
  · rename_i d hd
    have hrecord : Edits env who c.deviceId now s (s.emitEvidenceLocked env d (reportEvent success) now c.toJson) :=
      (Edit.record hd _ _).edits
    dsimp only
    split_ifs
    · exact hrecord
    · exact hrecord.trans (edits_afterFailure ((hrecord.tenantOf_eq c.deviceId).trans hdevice) hwho result now)

theorem edits_completeCommand (hs : Owned s) (tenant id : String) (success : Bool) (result : String) (now : Int) :
    ∃ k, Edits env (· = tenant) k now s (s.completeCommand env tenant id success result now).1 := by
  unfold completeCommand
  split
  · exact ⟨"", Edits.refl s⟩
  · rename_i c hc
    refine ⟨c.deviceId, ?_⟩
    split_ifs with h1 h2
    · exact Edits.refl s
    · exact Edits.refl s
    · have hdevice := hs.live id c hc (Or.inr (by simpa using h2))
      have hstored : ¬ Live (reported c success result now) := by cases success <;> simp [Live, reported]
      refine Edits.trans (Edits.note (edit_store_again hc ?_ ?_ fun hlive => absurd hlive hstored).edits)
        (edits_afterReport (c := reported c success result now) ?_ ?_ success result now)
      · simpa using h1
      · rfl
      · exact hdevice
      · simpa [reported] using h1

theorem edits_expireCommands (k : String) (now : Int) : Edits env (fun _ => True) k now s (s.expireCommands env now).1 := by
  unfold expireCommands
  generalize s.commands.keys = keys
  have hrun : ∀ p : FleetOperationsService ω × ℕ,
      Edits env (fun _ => True) k now p.1 (keys.foldl (expireOne env now) p).1 := by
    induction keys with
    | nil => exact fun p => Edits.refl p.1
    | cons k keys ih =>
      intro p
      refine Edits.trans ?_ (ih _)
      unfold expireOne
      split
      · exact Edits.refl p.1
      · rename_i c hc
        split_ifs
        · refine Edits.note (edit_store_again hc trivial ?_ fun hlive => ?_).edits
          · rfl
          · exact absurd hlive (by simp [Live])
        · exact Edits.refl p.1
  exact hrun (s, 0)

/-! ### Quarantine, recovery and heartbeats -/

theorem edits_quarantine (tenant reason : String) (now : Int) :
    Edits env (· = tenant) key now s (s.quarantine env tenant key reason now).1 := by
  unfold quarantine
  split
  · exact Edits.refl s
  · rename_i d hd
    split
    · exact Edits.refl s
    · rename_i h1
      rw [Bool.or_eq_true, not_or] at h1
      exact edits_quarantineLocked hd (by simpa using h1.1) _ now

theorem edits_recover (tenant : String) (now : Int) :
    Edits env (· = tenant) key now s (s.recover env tenant key now).1 := by
  unfold recover
  split
  · exact Edits.refl s
  · rename_i d hd
    split_ifs with h1 h2 h3
    · exact Edits.refl s
    · exact Edits.refl s
    · exact Edits.refl s
    · split
      · exact Edits.refl s
      · exact Edits.refl s
      · split
        · exact Edits.refl s
        · dsimp only
          have hask : ∀ context, Edits env (· = tenant) key now s
              { s with world := (s.policyAllows env tenant key "device_recovery" context now).1 } :=
            fun context => (Edit.ask _ _ _ _ _).edits
          split_ifs
          · exact Edits.refl s
          · exact hask _
          · refine Edits.trans (hask _) (Edits.noteRecord (Edit.write (d := d) ?_ ?_ ?_ ?_).edits (AList.lookup_insert _))
            · exact hd
            · simpa using h1
            · rfl
            · rfl

theorem edits_heard {d d' : FleetDevice} (hd : s.devices.lookup key = some d) (hid : d'.deviceId = d.deviceId)
    (htenant : d'.tenantId = d.tenantId) (heartbeats : Dict String FleetHeartbeat) :
    Edits env (fun _ => True) key stamp s
      { s with heartbeats := heartbeats, devices := s.devices.insert key d' } := by
  refine (Edit.hear heartbeats).edits.trans (Edit.write ?_ trivial hid htenant).edits
  exact hd

/-- The evidence of an accepted heartbeat carries the heartbeat's own time. -/
theorem edits_receiveHeartbeat (hb : FleetHeartbeat) (now : Int) :
    (Accepted env s hb now ∧
      Edits env (fun _ => True) hb.deviceId hb.timestamp s (s.receiveHeartbeat env hb now).1) ∨
    (¬ Accepted env s hb now ∧
      Edits env (fun _ => True) hb.deviceId now s (s.receiveHeartbeat env hb now).1) := by
  unfold Accepted receiveHeartbeat
  split
  · exact Or.inr ⟨by simp, Edits.refl s⟩
  · rename_i d hd
    have hreject : ∀ reason, Edits env (fun _ => True) hb.deviceId now s
        (s.quarantineLocked env hb.deviceId d reason now) := fun reason => edits_quarantineLocked hd trivial reason now
    split_ifs
    · exact Or.inr ⟨by simp, hreject _⟩
    · exact Or.inr ⟨by simp, Edits.refl s⟩
    · exact Or.inr ⟨by simp, hreject _⟩
    · refine Or.inr ⟨by simp, Edits.note (edits_heard hd ?_ ?_ _)⟩
      · rfl
      · rfl
    · exact Or.inr ⟨by simp, hreject _⟩
    · exact Or.inr ⟨by simp, hreject _⟩
    · exact Or.inr ⟨by simp, hreject _⟩
    · split
      · exact Or.inr ⟨by simp, Edits.refl s⟩
      · exact Or.inr ⟨by simp, hreject _⟩
      · refine Or.inl ⟨rfl, Edits.noteRecord (edits_heard hd ?_ ?_ _) (AList.lookup_insert _)⟩
        · rfl
        · rfl

/-- What acceptance comes to: the device is there and not retired, and the heartbeat is recorded with its own time. -/
theorem accepted_cases {hb : FleetHeartbeat} {now : Int} (hacc : Accepted env s hb now) :
    ∃ s₁ d payload, s₁.devices.lookup hb.deviceId = some d ∧ d.retired = false ∧ s₁.world = s.world ∧
      (s.receiveHeartbeat env hb now).1 =
        FleetOperationsService.emitEvidenceLocked env s₁ d "device_heartbeat" hb.timestamp payload := by
  unfold Accepted at hacc
  generalize hr : s.receiveHeartbeat env hb now = r at hacc ⊢
  unfold receiveHeartbeat at hr
  split at hr
  · simp [← hr] at hacc
  · rename_i d hd
    split_ifs at hr with h1 h2
    · simp [← hr] at hacc
    · simp [← hr] at hacc
    · simp [← hr] at hacc
    · simp [← hr] at hacc
    · simp [← hr] at hacc
    · simp [← hr] at hacc
    · simp [← hr] at hacc
    · split at hr
      · simp [← hr] at hacc
      · simp [← hr] at hacc
      · subst hr
        refine ⟨_, _, _, ?_, ?_, ?_, rfl⟩
        · rw [appendEventLocked_devices, Dict.lookup_insert_if, if_pos rfl]
        · simpa using h2
        · rfl

/-! ### Enrolment -/

/-- The registry with the device `d` entered. -/
def entered (env : Env ω) (s : FleetOperationsService ω) (d : FleetDevice) (actorId : String) (now : Int) :
    FleetOperationsService ω :=
  let s := (s.insertDevice d actorId now).appendEventLocked env d.tenantId d.deviceId "device_enrolled" now
    (.obj [("location_id", .str d.locationId), ("fleet_id", .str d.fleetId), ("lifecycle_state", .str d.lifecycleState)])
  s.emitEvidenceLocked env d "device_enrollment" now
    (.obj [("location_id", .str d.locationId), ("fleet_id", .str d.fleetId)])

/-- The device that enrolment enters, with what the edge platform told of it; `none` if it is refused after the
first checks. -/
def enrolled (env : Env ω) (w : ω) (d : FleetDevice) : Option FleetDevice :=
  (registerEdge env w d).2.bind fun d =>
    if d.capabilities = [] then none else some { d with connectivityStatus := "offline" }

/-- What enrolment leaves after it asked the edge platform: `w` is the platform's world then, `d` the device. -/
def concluded (env : Env ω) (s : FleetOperationsService ω) (w : ω) (d : Option FleetDevice) (actorId : String) (now : Int) :
    FleetOperationsService ω :=
  match d with
  | none => { s with world := w }
  | some d => entered env { s with world := w } d actorId now

/-- Enrolment is refused at once, or the edge platform is asked and the device entered or not. -/
theorem enroll_cases (s : FleetOperationsService ω) (d : FleetDevice) (actorId : String) (now : Int) :
    (¬ Enrollable s d ∧ (s.enroll env d actorId now).1 = s) ∨
    (Enrollable s d ∧ (s.enroll env d actorId now).1 =
      concluded env s (registerEdge env s.world d).1 (enrolled env s.world d) actorId now) := by
  unfold enroll enrolled
  split_ifs with h1 h2 h3
  · refine Or.inl ⟨fun h => ?_, rfl⟩
    obtain ⟨hp1, hp2, hp3, hp4, hp5⟩ := h.placed
    simp [hp1, hp2, hp3, hp4, hp5] at h1
  · refine Or.inl ⟨fun h => ?_, rfl⟩
    rcases h.initial with hi | hi <;> simp [hi] at h2
  · refine Or.inl ⟨fun h => ?_, rfl⟩
    simp [h.new] at h3
  · have henroll : Enrollable s d := by
      refine ⟨by simpa [and_assoc] using h1, ?_, by simpa using h3⟩
      simpa [Classical.or_iff_not_imp_left] using h2
    refine Or.inr ⟨henroll, ?_⟩
    rcases hreg : registerEdge env s.world d with ⟨w, _ | d'⟩
    · rfl
    · by_cases hcap : d'.capabilities = []
      · simp [hcap, concluded]
      · simp [hcap, concluded, entered]

theorem enrolled_eq {w : ω} {d d' : FleetDevice} (h : enrolled env w d = some d') :
    ∃ capabilities driver, d' = { d with
      capabilities := capabilities, driverId := driver, connectivityStatus := "offline" } := by
  unfold enrolled at h
  obtain ⟨d₁, hreg, hd₁⟩ := Option.bind_eq_some_iff.mp h
  split_ifs at hd₁
  have hpair : registerEdge env w d = ((registerEdge env w d).1, some d₁) := Prod.ext rfl hreg
  obtain ⟨capabilities, driver, rfl⟩ := registerEdge_spec hpair
  exact ⟨_, _, (Option.some.inj hd₁).symm⟩

/-- Enrolment changes the attached services, if anything, and then enters a device that may be enrolled, or does not. -/
theorem enroll_outcome (s : FleetOperationsService ω) (d : FleetDevice) (actorId : String) (now : Int) :
    ∃ w, (w = s.world ∨ w = (registerEdge env s.world d).1) ∧
      ((s.enroll env d actorId now).1 = { s with world := w } ∨
        ∃ d', Enrollable { s with world := w } d' ∧
          (s.enroll env d actorId now).1 = entered env { s with world := w } d' actorId now) := by
  rcases enroll_cases s d actorId now with ⟨-, heq⟩ | ⟨henroll, heq⟩
  · exact ⟨s.world, Or.inl rfl, Or.inl heq⟩
  · refine ⟨_, Or.inr rfl, ?_⟩
    cases hd' : enrolled env s.world d with
    | none =>
      rw [hd'] at heq
      exact Or.inl heq
    | some d' =>
      rw [hd'] at heq
      refine Or.inr ⟨d', ?_, heq⟩
      obtain ⟨_, _, rfl⟩ := enrolled_eq hd'
      exact ⟨henroll.placed, henroll.initial, henroll.new⟩

theorem tenantOf_insertDevice {d : FleetDevice} (actorId : String) (now : Int) (k : String) :
    tenantOf (s.insertDevice d actorId now) k = if k = d.deviceId then some d.tenantId else tenantOf s k := by
  rw [tenantOf, insertDevice, Dict.lookup_insert_if]
  split_ifs <;> rfl

/-- A new device takes no id that an assignment or a command refers to. -/
theorem owned_insertDevice (hs : Owned s) {d : FleetDevice} (hd : Enrollable s d) (actorId : String) (now : Int) :
    Owned (s.insertDevice d actorId now) := by
  have hkeep : ∀ k t, tenantOf s k = some t → tenantOf (s.insertDevice d actorId now) k = some t := by
    intro k t hk
    rw [tenantOf_insertDevice, if_neg, hk]
    rintro rfl
    rw [tenantOf, hd.new] at hk
    cases hk
  refine ⟨fun k v hv => ?_, fun k t hk => ?_, fun k a ha => ?_, fun id c hc hlive => ?_⟩
  · rw [insertDevice, Dict.lookup_insert_if] at hv
    split_ifs at hv with hk
    · rw [← Option.some.inj hv, hk]
    · exact hs.keyed k v hv
  · rw [tenantOf_insertDevice] at hk
    split_ifs at hk with hkey
    · rw [hkey, ← Option.some.inj hk]
      exact ⟨hd.placed.1, hd.placed.2.1⟩
    · exact hs.named k t hk
  · rw [insertDevice, Dict.lookup_insert_if] at ha
    split_ifs at ha with hk
    · rw [tenantOf_insertDevice, if_pos hk, ← Option.some.inj ha]
      rfl
    · exact hkeep k _ (hs.placed k a ha)
  · exact hkeep _ _ (hs.live id c hc hlive)

theorem edits_entered (who : String → Prop) (d : FleetDevice) (actorId : String) (now : Int) :
    Edits env who d.deviceId now (s.insertDevice d actorId now) (entered env s d actorId now) := by
  refine Edits.record (Edits.note (Edits.refl _)) ?_
  rw [appendEventLocked_devices, insertDevice, Dict.lookup_insert_if, if_pos rfl]

theorem owned_enroll (hs : Owned s) (d : FleetDevice) (actorId : String) (now : Int) :
    Owned (s.enroll env d actorId now).1 := by
  obtain ⟨w, -, heq | ⟨d', henroll, heq⟩⟩ := enroll_outcome (s := s) d actorId now
  · rw [heq]
    exact hs.of_same rfl rfl rfl
  · rw [heq]
    have howned : Owned { s with world := w } := hs.of_same rfl rfl rfl
    exact (edits_entered (fun _ => True) d' actorId now).owned (owned_insertDevice howned henroll actorId now)

/-! ### All requests -/

/-- The tenants a request may write records of. -/
def Op.behalf (op : Op ω) (tenantId : String) : Prop := ∀ t, op.tenant = some t → tenantId = t

/-- The evidence of the request, if there is any, is of the device `key` and carries the time `stamp`. -/
def Stamped (env : Env ω) (s : FleetOperationsService ω) (key : String) (stamp : Int) : Op ω → Prop
  | .receiveHeartbeat hb now =>
    key = hb.deviceId ∧ (Accepted env s hb now ∧ stamp = hb.timestamp ∨ ¬ Accepted env s hb now ∧ stamp = now)
  | op => op.clock = some stamp

/-- What a request does to the registry. -/
inductive Writes (env : Env ω) (s : FleetOperationsService ω) : Op ω → FleetOperationsService ω → Prop
  | edits {op : Op ω} {s' : FleetOperationsService ω} (key : String) (stamp : Int)
      (h : Edits env op.behalf key stamp s s') (hop : ∀ d actorId now, op ≠ .enroll d actorId now)
      (hstamp : Stamped env s key stamp op) : Writes env s op s'
  | enrolled (d : FleetDevice) (actorId : String) (now : Int) :
      Writes env s (.enroll d actorId now) (s.enroll env d actorId now).1
  | outside (w : ω) : Writes env s (.outside w) { s with world := w }

theorem Edits.mono {who' : String → Prop} (h : Edits env who key stamp s s') (hwho : ∀ t, who t → who' t) :
    Edits env who' key stamp s s' := by
  refine Relation.ReflTransGen.mono (fun s s' hstep => ?_) _ _ h
  cases hstep with
  | note h => exact Edit.note h
  | hear heartbeats => exact Edit.hear heartbeats
  | write hd h1 h2 h3 => exact Edit.write hd (hwho _ h1) h2 h3
  | place h1 h2 => exact Edit.place (hwho _ h1) h2
  | store h1 h2 h3 => exact Edit.store (hwho _ h1) h2 h3
  | ask => exact Edit.ask _ _ _ _ _
  | record hd => exact Edit.record hd _ _

theorem writes_of_tenant {op : Op ω} {tenant k : String} {now : Int} (h : Edits env (· = tenant) k now s s')
    (htenant : op.tenant = some tenant) (hop : ∀ d actorId now, op ≠ .enroll d actorId now)
    (hstamp : Stamped env s k now op) : Writes env s op s' := by
  refine Writes.edits k now (h.mono fun t ht t' ht' => ?_) hop hstamp
  rw [ht, ← Option.some.inj (htenant.symm.trans ht')]

theorem writes_apply (hs : Owned s) (op : Op ω) : Writes env s op (apply env s op) := by
  cases op with
  | enroll d actorId now => exact Writes.enrolled d actorId now
  | updateDevice tenant k patch now => exact writes_of_tenant (edits_updateDevice tenant patch now) rfl nofun rfl
  | retireDevice tenant k now => exact writes_of_tenant (edits_retireDevice tenant now) rfl nofun rfl
  | receiveHeartbeat hb now =>
    rcases edits_receiveHeartbeat (s := s) hb now with ⟨hacc, h⟩ | ⟨hacc, h⟩
    · exact Writes.edits _ _ (h.mono fun t _ t' ht' => nomatch ht') nofun ⟨rfl, Or.inl ⟨hacc, rfl⟩⟩
    · exact Writes.edits _ _ (h.mono fun t _ t' ht' => nomatch ht') nofun ⟨rfl, Or.inr ⟨hacc, rfl⟩⟩
  | createCommand c now => exact writes_of_tenant (edits_createCommand c now) rfl nofun rfl
  | cancelCommand tenant id now => exact writes_of_tenant (edits_cancelCommand tenant id "" now) rfl nofun rfl
  | acknowledgeCommand tenant id now => exact writes_of_tenant (edits_acknowledgeCommand hs tenant id "" now) rfl nofun rfl
  | completeCommand tenant id success result now =>
    obtain ⟨k, h⟩ := edits_completeCommand hs tenant id success result now
    exact writes_of_tenant h rfl nofun rfl
  | expireCommands now =>
    exact Writes.edits _ _ ((edits_expireCommands "" now).mono fun t _ t' ht' => nomatch ht') nofun rfl
  | deviceRisk tenant k now => exact Writes.edits k now (sameRecords_deviceRisk tenant k now).edits nofun rfl
  | fleetRisk tenant now => exact Writes.edits "" now (sameRecords_fleetRisk tenant now).edits nofun rfl
  | locationRisk tenant location now => exact Writes.edits "" now (sameRecords_locationRisk tenant location now).edits nofun rfl
  | quarantine tenant k reason now => exact writes_of_tenant (edits_quarantine tenant reason now) rfl nofun rfl
  | recover tenant k now => exact writes_of_tenant (edits_recover tenant now) rfl nofun rfl
  | outside world => exact Writes.outside world

/-- Every request keeps what refers to a device of the device's tenant. -/
theorem owned_apply (hs : Owned s) (op : Op ω) : Owned (apply env s op) := by
  have hwrites : Writes env s op (apply env s op) := writes_apply hs op
  generalize apply env s op = s' at hwrites ⊢
  cases hwrites with
  | edits key stamp h => exact h.owned hs
  | enrolled d actorId now => exact owned_enroll hs d actorId now
  | outside w => exact hs.of_same rfl rfl rfl

theorem owned_empty (w : ω) : Owned ({ world := w } : FleetOperationsService ω) := by
  refine ⟨fun k d hd => ?_, fun k t hk => ?_, fun k a ha => ?_, fun id c hc => ?_⟩
  · cases hd
  · cases hk
  · cases ha
  · cases hc

theorem owned_run (env : Env ω) (w : ω) (ops : List (Op ω)) : Owned (run env w ops) := by
  refine (Transition.run_foldl (apply env) { world := w } ops).invariant (owned_empty w) fun s op s' hs hstep => ?_
  obtain rfl : apply env s op = s' := hstep
  exact owned_apply hs op

end Drawer.FleetOps
