import Drawer.Sanity.FleetStore
import Drawer.Sanity.Fleet
import Drawer.Spec.RiskQueries

/-! What a request does to the stored heartbeats: a heartbeat may be stored, and no
other request writes any. -/

namespace Drawer.FleetOps
open FleetOperationsService

variable {ω : Type} {env : Env ω} {s : FleetOperationsService ω}

theorem enroll_heartbeats (d : FleetDevice) (actorId : String) (now : Int) :
    (s.enroll env d actorId now).1.heartbeats = s.heartbeats := by
  unfold enroll
  split_ifs
  · rfl
  · rfl
  · rfl
  · split
    · rfl
    · dsimp only
      split_ifs
      · rfl
      · simp [insertDevice]

theorem updateDevice_heartbeats (tenantId key : String) (patch : Json String) (now : Int) :
    (s.updateDevice env tenantId key patch now).1.heartbeats = s.heartbeats := by
  unfold updateDevice
  split
  · rfl
  · split_ifs
    · rfl
    · rfl
    · split
      · rfl
      · split_ifs
        · rfl
        · split
          · rfl
          · rfl
          · split
            · rfl
            · simp only [finishUpdate]
              split_ifs <;> rfl

theorem retireDevice_heartbeats (tenantId key : String) (now : Int) :
    (s.retireDevice env tenantId key now).1.heartbeats = s.heartbeats := by
  unfold retireDevice
  split
  · rfl
  · split_ifs
    · rfl
    · rfl
    · simp

theorem checkPolicy_heartbeats (d : FleetDevice) (c : FleetCommand) (now : Int) :
    (s.checkPolicy env d c now).1.heartbeats = s.heartbeats := by
  simp only [checkPolicy]
  split_ifs
  · simp [failCommand]
  · rfl
  · simp [dispatch]

theorem createCommand_heartbeats (c : FleetCommand) (now : Int) :
    (s.createCommand env c now).1.heartbeats = s.heartbeats := by
  simp only [createCommand]
  split_ifs
  · rfl
  · unfold checkDevice
    split
    · rfl
    · split
      · rfl
      · simp only [checkCapability]
        split
        · rfl
        · exact checkPolicy_heartbeats ..

theorem quarantineIf_heartbeats (b : Bool) (key reason : String) (now : Int) :
    (s.quarantineIf env b key reason now).heartbeats = s.heartbeats := by
  unfold quarantineIf
  split
  · split_ifs
    · exact quarantineLocked_heartbeats ..
    · rfl
  · rfl

theorem afterReport_heartbeats (c : FleetCommand) (success : Bool) (result : String) (now : Int) :
    (s.afterReport env c success result now).heartbeats = s.heartbeats := by
  unfold afterReport
  split
  · rfl
  · dsimp only
    split_ifs
    · exact emitEvidenceLocked_heartbeats ..
    · simp [afterFailure, quarantineIf_heartbeats]

theorem completeCommand_heartbeats (tenantId id : String) (success : Bool) (result : String) (now : Int) :
    (s.completeCommand env tenantId id success result now).1.heartbeats = s.heartbeats := by
  unfold completeCommand
  split
  · rfl
  · split_ifs
    · rfl
    · rfl
    · exact afterReport_heartbeats ..

theorem quarantine_heartbeats (tenantId key reason : String) (now : Int) :
    (s.quarantine env tenantId key reason now).1.heartbeats = s.heartbeats := by
  unfold quarantine
  split
  · rfl
  · split
    · rfl
    · exact quarantineLocked_heartbeats ..

theorem recover_heartbeats (tenantId key : String) (now : Int) :
    (s.recover env tenantId key now).1.heartbeats = s.heartbeats := by
  unfold recover
  split
  · rfl
  · split_ifs
    · rfl
    · rfl
    · rfl
    · split
      · rfl
      · rfl
      · split
        · rfl
        · dsimp only
          split_ifs
          · rfl
          · rfl
          · simp

variable (env) in
/-- What the store has of a device's heartbeats after one was received. -/
theorem receiveHeartbeat_heartbeats (hb : FleetHeartbeat) (now : Int) :
    (s.receiveHeartbeat env hb now).1.heartbeats = s.heartbeats ∨
      Stores env s hb now ∧ ∃ d, s.devices.lookup hb.deviceId = some d ∧
        (s.receiveHeartbeat env hb now).1.heartbeats = s.heartbeats.insert d.deviceId hb := by
  unfold receiveHeartbeat
  split
  · exact Or.inl rfl
  · rename_i d hd
    dsimp only
    split_ifs with htenant hretired htimely hstate hcapability hfirmware hdriver
    · exact Or.inl (quarantineLocked_heartbeats ..)
    · exact Or.inl rfl
    · exact Or.inl (quarantineLocked_heartbeats ..)
    · refine Or.inr ⟨⟨d, hd, not_not.mp htenant, by simpa using hretired, ?_⟩, d, hd, rfl⟩
      simp only [Bool.or_eq_true, decide_eq_true_eq, not_or, not_le, not_lt] at htimely
      exact ⟨htimely.1.1, htimely.1.2, htimely.2, Or.inl hstate⟩
    · exact Or.inl (quarantineLocked_heartbeats ..)
    · exact Or.inl (quarantineLocked_heartbeats ..)
    · exact Or.inl (quarantineLocked_heartbeats ..)
    · split
      · exact Or.inl rfl
      · exact Or.inl (quarantineLocked_heartbeats ..)
      · rename_i hcontradiction
        refine Or.inr ⟨⟨d, hd, not_not.mp htenant, by simpa using hretired, ?_⟩, d, hd, by simp⟩
        simp only [Bool.or_eq_true, decide_eq_true_eq, not_or, not_le, not_lt] at htimely
        exact ⟨htimely.1.1, htimely.1.2, htimely.2,
          Or.inr ⟨by simpa using hcapability, by simpa using hfirmware, by simpa using hdriver, hcontradiction⟩⟩

variable (env) in
/-- Only a heartbeat that is stored changes the stored heartbeats. -/
theorem heartbeats_apply (op : Op ω) :
    (apply env s op).heartbeats = s.heartbeats ∨
      ∃ hb now d, op = .receiveHeartbeat hb now ∧ Stores env s hb now ∧ s.devices.lookup hb.deviceId = some d ∧
        (apply env s op).heartbeats = s.heartbeats.insert d.deviceId hb := by
  cases op with
  | enroll d actorId now => exact Or.inl (enroll_heartbeats ..)
  | updateDevice tenantId key patch now => exact Or.inl (updateDevice_heartbeats ..)
  | retireDevice tenantId key now => exact Or.inl (retireDevice_heartbeats ..)
  | receiveHeartbeat hb now =>
    rcases receiveHeartbeat_heartbeats env (s := s) hb now with hsame | ⟨hstores, d, hd, hinsert⟩
    · exact Or.inl hsame
    · exact Or.inr ⟨hb, now, d, rfl, hstores, hd, hinsert⟩
  | createCommand c now => exact Or.inl (createCommand_heartbeats ..)
  | cancelCommand tenantId id now => exact Or.inl (cancelCommand_same ..).2
  | acknowledgeCommand tenantId id now => exact Or.inl (acknowledgeCommand_same ..).2
  | completeCommand tenantId id success result now => exact Or.inl (completeCommand_heartbeats ..)
  | expireCommands now => exact Or.inl (expireCommands_same ..).2
  | deviceRisk tenantId key now => exact Or.inl (sameRecords_deviceRisk ..).heartbeats
  | fleetRisk tenantId now => exact Or.inl (sameRecords_fleetRisk ..).heartbeats
  | locationRisk tenantId location now => exact Or.inl (sameRecords_locationRisk ..).heartbeats
  | quarantine tenantId key reason now => exact Or.inl (quarantine_heartbeats ..)
  | recover tenantId key now => exact Or.inl (recover_heartbeats ..)
  | outside world => exact Or.inl rfl

/-- What a new process finds under an id was stored under some id. -/
theorem lookup_refiled_some {α : Type} {key : α → String} {m : Dict String α} {id : String} {a : α}
    (h : (refiled key m).lookup id = some a) : ∃ id', m.lookup id' = some a := by
  have hall : ∀ (l : List α) (m' : Dict String α), (∀ a ∈ l, ∃ id', m.lookup id' = some a) →
      (∀ id a, m'.lookup id = some a → ∃ id', m.lookup id' = some a) →
      ∀ id a, (l.foldl (fun m a => m.insert (key a) a) m').lookup id = some a → ∃ id', m.lookup id' = some a := by
    intro l
    induction l with
    | nil => exact fun m' _ hm' => hm'
    | cons b l ih =>
      intro m' hl hm'
      refine ih _ (fun a ha => hl a (List.mem_cons_of_mem _ ha)) fun id a ha => ?_
      rw [Dict.lookup_insert_if] at ha
      split_ifs at ha
      · obtain rfl := Option.some.inj ha
        exact hl b List.mem_cons_self
      · exact hm' id a ha
  refine hall _ ∅ (fun a ha => ?_) (fun id a ha => nomatch ha) id a h
  obtain ⟨e, he, rfl⟩ := List.mem_map.mp ha
  exact ⟨e.1, AList.mem_lookup_iff.mpr he⟩

end Drawer.FleetOps
