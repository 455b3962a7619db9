import Drawer.Sanity.Fleet
import Drawer.Spec.EventLog

/-! What a request does to the event log: it appends events that follow the log's
last one. Whatever it appends it saves, unless a risk query raises on the way. -/

namespace Drawer.FleetOps
open FleetOperationsService HashChain

variable {ω : Type} {env : Env ω} {s s' : FleetOperationsService ω}

/-- Every event of the log follows the one before it. -/
def Intact (env : Env ω) (log : List FleetOperationEvent) : Prop := (eventChain env).Linked 1 "" log

structure Extends (env : Env ω) (log log' : List FleetOperationEvent) : Prop where
  kept : log <+: log'
  intact : Intact env log → Intact env log'

theorem Extends.refl (log : List FleetOperationEvent) : Extends env log log := ⟨List.prefix_rfl, id⟩

theorem Extends.trans {a b c : List FleetOperationEvent} (h : Extends env a b) (h' : Extends env b c) : Extends env a c :=
  ⟨h.kept.trans h'.kept, fun ha => h'.intact (h.intact ha)⟩

theorem Extends.of_eq (h : s'.events = s.events) : Extends env s.events s'.events := by
  rw [h]
  exact Extends.refl _

theorem extends_appendEventLocked (h : s'.events = s.events) (t d e : String) (n : Int) (p : Json String) :
    Extends env s.events (s'.appendEventLocked env t d e n p).events := by
  rw [← h]
  refine ⟨List.prefix_append _ _, fun hintact => linked_append_singleton.mpr ⟨hintact, ?_, rfl, rfl⟩⟩
  simp only [eventChain]
  ring

@[simp] theorem emitEvidenceLocked_events (d : FleetDevice) (e : String) (n : Int) (p : Json String) :
    (s.emitEvidenceLocked env d e n p).events = s.events := by
  unfold emitEvidenceLocked
  split <;> rfl

/-- An event and its evidence. -/
theorem extends_emit (h : s'.events = s.events) (t d e : String) (n n' : Int) (p p' : Json String) (dev : FleetDevice)
    (e' : String) :
    Extends env s.events ((s'.appendEventLocked env t d e n p).emitEvidenceLocked env dev e' n' p').events := by
  rw [emitEvidenceLocked_events]
  exact extends_appendEventLocked h t d e n p

theorem extends_quarantineLocked (h : s'.events = s.events) (key : String) (d : FleetDevice) (reason : String) (now : Int) :
    Extends env s.events (s'.quarantineLocked env key d reason now).events := by
  unfold quarantineLocked
  split
  · exact Extends.of_eq h
  · exact extends_emit (by exact h) ..

theorem extends_recordRiskChangeLocked (s : FleetOperationsService ω) (risk : FleetRisk) (now : Int) :
    Extends env s.events (s.recordRiskChangeLocked env risk now).events := by
  unfold recordRiskChangeLocked
  dsimp only
  split
  · exact Extends.refl _
  · exact extends_appendEventLocked rfl ..

/-! ### One request -/

/-- The log grows, and if it changed at all the request gets as far as saving it. -/
def Logs (env : Env ω) (s s' : FleetOperationsService ω) (saved : Prop) : Prop :=
  Extends env s.events s'.events ∧ (saved ∨ s'.events = s.events)

theorem Logs.same {saved : Prop} (h : s'.events = s.events) : Logs env s s' saved := ⟨Extends.of_eq h, Or.inr h⟩

theorem Logs.saved {saved : Prop} (h : Extends env s.events s'.events) (hsaved : saved) : Logs env s s' saved :=
  ⟨h, Or.inl hsaved⟩

theorem enroll_recorded (d : FleetDevice) (actorId : String) (now : Int) :
    Logs env s (s.enroll env d actorId now).1 ((s.enroll env d actorId now).2 = .ok) := by
  unfold enroll
  split_ifs
  · exact Logs.same rfl
  · exact Logs.same rfl
  · exact Logs.same rfl
  · split
    · exact Logs.same rfl
    · dsimp only
      split_ifs
      · exact Logs.same rfl
      · exact Logs.saved (extends_emit (by rfl) ..) rfl

theorem updateDevice_recorded (tenantId key : String) (patch : Json String) (now : Int) :
    Logs env s (s.updateDevice env tenantId key patch now).1 ((s.updateDevice env tenantId key patch now).2 = .ok .ok) := by
  unfold updateDevice
  split
  · exact Logs.same rfl
  · split_ifs
    · exact Logs.same rfl
    · exact Logs.same rfl
    · split
      · exact Logs.same rfl
      · split_ifs
        · exact Logs.same rfl
        · split
          · exact Logs.same rfl
          · exact Logs.same rfl
          · split
            · exact Logs.same rfl
            · refine Logs.saved ?_ rfl
              simp only [finishUpdate]
              split_ifs
              · exact Extends.refl _
              · exact extends_appendEventLocked (by rfl) ..

theorem retireDevice_recorded (tenantId key : String) (now : Int) :
    Logs env s (s.retireDevice env tenantId key now).1 ((s.retireDevice env tenantId key now).2 = .ok) := by
  unfold retireDevice
  split
  · exact Logs.same rfl
  · split_ifs
    · exact Logs.same rfl
    · exact Logs.same rfl
    · exact Logs.saved (extends_emit (by rfl) ..) rfl

/-- The heartbeat's device is known and not retired, and reading the heartbeat does not raise. -/
def Heard (reply : Except Exn Reply) : Prop :=
  ∃ r, reply = .ok r ∧ r ≠ .failed "unknown_device" ∧ r ≠ .failed "device_retired"

theorem receiveHeartbeat_recorded (hb : FleetHeartbeat) (now : Int) :
    Logs env s (s.receiveHeartbeat env hb now).1 (Heard (s.receiveHeartbeat env hb now).2) := by
  have hheard : ∀ e ≠ "unknown_device", e ≠ "device_retired" → Heard (.ok (.failed e)) := by
    intro e h h'
    exact ⟨_, rfl, by simpa using h, by simpa using h'⟩
  unfold receiveHeartbeat
  split
  · exact Logs.same rfl
  · dsimp only
    split_ifs
    · exact Logs.saved (extends_quarantineLocked rfl ..) (hheard _ (by decide) (by decide))
    · exact Logs.same rfl
    · exact Logs.saved (extends_quarantineLocked rfl ..) (hheard _ (by decide) (by decide))
    · exact Logs.saved (extends_appendEventLocked (by rfl) ..)
        (hheard _ (by decide) (by decide))
    · exact Logs.saved (extends_quarantineLocked rfl ..) (hheard _ (by decide) (by decide))
    · exact Logs.saved (extends_quarantineLocked rfl ..) (hheard _ (by decide) (by decide))
    · exact Logs.saved (extends_quarantineLocked rfl ..) (hheard _ (by decide) (by decide))
    · split
      · exact Logs.same rfl
      · exact Logs.saved (extends_quarantineLocked rfl ..) (hheard _ (by decide) (by decide))
      · exact Logs.saved (extends_emit (by rfl) ..) ⟨.ok, rfl, by decide, by decide⟩

/-! ### Requests about commands -/

theorem extends_failCommand (h : s'.events = s.events) (c : FleetCommand) (reason : String) (denied : Bool) (now : Int) :
    Extends env s.events (s'.failCommand env c reason denied now).1.events :=
  extends_appendEventLocked (by exact h) ..

theorem extends_dispatch (h : s'.events = s.events) (d : FleetDevice) (c : FleetCommand) (now : Int) :
    Extends env s.events (s'.dispatch env d c now).1.events :=
  (extends_appendEventLocked h ..).trans (extends_emit (by rfl) ..)

theorem extends_checkPolicy (d : FleetDevice) (c : FleetCommand) (now : Int) :
    Extends env s.events (s.checkPolicy env d c now).1.events := by
  simp only [checkPolicy]
  split_ifs
  · exact Extends.trans (extends_quarantineLocked (by rfl) ..) (extends_failCommand rfl ..)
  · exact Extends.refl _
  · exact extends_dispatch (by rfl) ..

theorem extends_checkDevice (c : FleetCommand) (now : Int) : Extends env s.events (s.checkDevice env c now).1.events := by
  unfold checkDevice
  split
  · exact extends_failCommand rfl ..
  · split
    · exact extends_failCommand rfl ..
    · simp only [checkCapability]
      split
      · exact extends_failCommand rfl ..
      · exact extends_checkPolicy ..

theorem createCommand_recorded (c : FleetCommand) (now : Int) : Logs env s (s.createCommand env c now).1 True := by
  refine Logs.saved ?_ trivial
  unfold createCommand
  dsimp only
  split_ifs
  · exact extends_appendEventLocked rfl ..
  · exact (extends_appendEventLocked rfl ..).trans (extends_checkDevice ..)

theorem cancelCommand_recorded (tenantId id : String) (now : Int) :
    Logs env s (s.cancelCommand env tenantId id now).1 ((s.cancelCommand env tenantId id now).2 = .ok) := by
  unfold cancelCommand
  split
  · exact Logs.same rfl
  · split_ifs
    · exact Logs.same rfl
    · exact Logs.saved (extends_appendEventLocked (by rfl) ..) rfl
    · exact Logs.same rfl

theorem acknowledgeCommand_recorded (tenantId id : String) (now : Int) :
    Logs env s (s.acknowledgeCommand env tenantId id now).1
      ((s.acknowledgeCommand env tenantId id now).2 = .ok ∨
        (s.acknowledgeCommand env tenantId id now).2 = .failed "command_expired") := by
  unfold acknowledgeCommand
  split
  · exact Logs.same rfl
  · split_ifs
    · exact Logs.same rfl
    · exact Logs.same rfl
    · exact Logs.saved (extends_appendEventLocked (by rfl) ..) (Or.inr rfl)
    · exact Logs.saved (extends_appendEventLocked (by rfl) ..) (Or.inl rfl)

theorem extends_quarantineIf (s : FleetOperationsService ω) (b : Bool) (key reason : String) (now : Int) :
    Extends env s.events (s.quarantineIf env b key reason now).events := by
  unfold quarantineIf
  split
  · split_ifs
    · exact extends_quarantineLocked rfl ..
    · exact Extends.refl _
  · exact Extends.refl _

theorem extends_afterReport (s : FleetOperationsService ω) (c : FleetCommand) (success : Bool) (result : String) (now : Int) :
    Extends env s.events (s.afterReport env c success result now).events := by
  unfold afterReport
  split
  · exact Extends.refl _
  · dsimp only
    split_ifs
    · exact Extends.of_eq (emitEvidenceLocked_events ..)
    · exact (Extends.of_eq (emitEvidenceLocked_events ..)).trans
        ((extends_quarantineIf _ _ _ _ _).trans (extends_quarantineIf _ _ _ _ _))

theorem completeCommand_recorded (tenantId id : String) (success : Bool) (result : String) (now : Int) :
    Logs env s (s.completeCommand env tenantId id success result now).1
      ((s.completeCommand env tenantId id success result now).2 = .ok) := by
  unfold completeCommand
  split
  · exact Logs.same rfl
  · split_ifs
    · exact Logs.same rfl
    · exact Logs.same rfl
    · exact Logs.saved ((extends_appendEventLocked (by rfl) ..).trans (extends_afterReport ..)) rfl

theorem extends_expireOne (now : Int) (p : FleetOperationsService ω × ℕ) (key : String) :
    Extends env p.1.events (expireOne env now p key).1.events := by
  unfold expireOne
  split
  · exact Extends.refl _
  · split_ifs
    · exact extends_appendEventLocked (by rfl) ..
    · exact Extends.refl _

/-- A loop grows the log if each of its rounds does. -/
theorem extends_foldl {α β : Type} {f : FleetOperationsService ω × β → α → FleetOperationsService ω × β}
    (hf : ∀ p a, Extends env p.1.events (f p a).1.events) (l : List α) (p : FleetOperationsService ω × β) :
    Extends env p.1.events (l.foldl f p).1.events := by
  induction l generalizing p with
  | nil => exact Extends.refl _
  | cons a l ih => exact (hf p a).trans (ih _)

theorem expireCommands_recorded (now : Int) : Logs env s (s.expireCommands env now).1 True :=
  Logs.saved (extends_foldl (extends_expireOne now) s.commands.keys (s, 0)) trivial

/-! ### Risk, quarantine and recovery -/

theorem deviceRisk_recorded (tenantId key : String) (now : Int) :
    Logs env s (s.deviceRisk env tenantId key now).1
      ((s.devices.lookup key).any (fun d => d.tenantId = tenantId) = true ∧
        returned (s.deviceRisk env tenantId key now).2 = true) := by
  unfold deviceRisk
  cases hd : s.devices.lookup key with
  | none => exact Logs.same rfl
  | some d =>
    dsimp only
    split_ifs with htenant
    · exact Logs.same rfl
    · split
      · exact Logs.same rfl
      · exact Logs.saved (extends_recordRiskChangeLocked ..) ⟨by simpa using htenant, rfl⟩

theorem extends_fleetRiskOne (tenantId : String) (now : Int) (p : FleetOperationsService ω × Except Exn (List FleetRisk))
    (d : FleetDevice) : Extends env p.1.events (fleetRiskOne env tenantId now p d).1.events := by
  unfold fleetRiskOne
  split
  · exact Extends.refl _
  · split_ifs
    · exact Extends.refl _
    · split
      · exact Extends.refl _
      · exact extends_recordRiskChangeLocked ..

/-- A fleet risk query that raises may have recorded changes before, which are not saved. -/
theorem fleetRisk_extends (tenantId : String) (now : Int) : Extends env s.events (s.fleetRisk env tenantId now).1.events :=
  extends_foldl (extends_fleetRiskOne tenantId now) (s.devices.entries.map Sigma.snd) (s, .ok [])

theorem locationRisk_recorded (tenantId locationId : String) (now : Int) :
    Logs env s (s.locationRisk env tenantId locationId now).1
      (returned (s.locationRisk env tenantId locationId now).2 = true) := by
  simp only [locationRisk]
  split
  · exact Logs.same rfl
  · exact Logs.saved (extends_recordRiskChangeLocked ..) rfl

theorem quarantine_recorded (tenantId key reason : String) (now : Int) :
    Logs env s (s.quarantine env tenantId key reason now).1 ((s.quarantine env tenantId key reason now).2 = .ok) := by
  unfold quarantine
  split
  · exact Logs.same rfl
  · split
    · exact Logs.same rfl
    · exact Logs.saved (extends_quarantineLocked rfl ..) rfl

theorem recover_recorded (tenantId key : String) (now : Int) :
    Logs env s (s.recover env tenantId key now).1 ((s.recover env tenantId key now).2 = .ok .ok) := by
  unfold recover
  split
  · exact Logs.same rfl
  · split_ifs
    · exact Logs.same rfl
    · exact Logs.same rfl
    · exact Logs.same rfl
    · split
      · exact Logs.same rfl
      · exact Logs.same rfl
      · split
        · exact Logs.same rfl
        · dsimp only
          split_ifs
          · exact Logs.same rfl
          · exact Logs.same rfl
          · exact Logs.saved (extends_emit (by rfl) ..) rfl

/-! ### Every request -/

/-- The request is a fleet risk query that raises. -/
def RaisesMidway (env : Env ω) (s : FleetOperationsService ω) : Op ω → Prop
  | .fleetRisk tenantId now => returned (s.fleetRisk env tenantId now).2 = false
  | _ => False

variable (env) in
theorem apply_recorded (op : Op ω) :
    Logs env s (apply env s op) (saves env s op = true ∨ RaisesMidway env s op) := by
  have hsaves : ∀ {s' : FleetOperationsService ω} {saved : Prop}, Logs env s s' saved → (saved → saves env s op = true) →
      Logs env s s' (saves env s op = true ∨ RaisesMidway env s op) :=
    fun h hsaved => ⟨h.1, h.2.imp_left fun hs => Or.inl (hsaved hs)⟩
  cases op with
  | enroll d actorId now => exact hsaves (enroll_recorded d actorId now) fun h => by simp [saves, h]
  | updateDevice tenantId key patch now =>
    exact hsaves (updateDevice_recorded tenantId key patch now) fun h => by simp [saves, h]
  | retireDevice tenantId key now => exact hsaves (retireDevice_recorded tenantId key now) fun h => by simp [saves, h]
  | receiveHeartbeat hb now =>
    refine hsaves (receiveHeartbeat_recorded hb now) ?_
    rintro ⟨r, hr, hknown, hretired⟩
    simp [saves, hr, hknown, hretired]
  | createCommand c now => exact hsaves (createCommand_recorded c now) fun _ => rfl
  | cancelCommand tenantId id now => exact hsaves (cancelCommand_recorded tenantId id now) fun h => by simp [saves, h]
  | acknowledgeCommand tenantId id now =>
    exact hsaves (acknowledgeCommand_recorded tenantId id now) fun h => by simpa [saves] using h
  | completeCommand tenantId id success result now =>
    exact hsaves (completeCommand_recorded tenantId id success result now) fun h => by simp [saves, h]
  | expireCommands now => exact hsaves (expireCommands_recorded now) fun _ => rfl
  | deviceRisk tenantId key now => exact hsaves (deviceRisk_recorded tenantId key now) fun h => by simp [saves, h]
  | fleetRisk tenantId now =>
    refine ⟨fleetRisk_extends tenantId now, Or.inl ?_⟩
    cases h : returned (s.fleetRisk env tenantId now).2 <;> simp [saves, RaisesMidway, h]
  | locationRisk tenantId location now =>
    exact hsaves (locationRisk_recorded tenantId location now) fun h => by simp [saves, h]
  | quarantine tenantId key reason now => exact hsaves (quarantine_recorded tenantId key reason now) fun h => by simp [saves, h]
  | recover tenantId key now => exact hsaves (recover_recorded tenantId key now) fun h => by simp [saves, h]
  | outside world => exact Logs.same rfl

variable (env) in
theorem intact_run (w : ω) (ops : List (Op ω)) : Intact env (run env w ops).events := by
  induction ops using List.reverseRecOn with
  | nil => exact trivial
  | append_singleton ops op ih =>
    rw [run, List.foldl_append]
    exact (apply_recorded env op).1.intact ih

end Drawer.FleetOps
