import Drawer.Sanity.FleetStore
import Drawer.Spec.EdgeStore

/-! Two states of the edge platform that have the same entries answer every request
alike; the store gives back a state with the same entries. -/

namespace Drawer.FleetOps
open Json

/-! ### Records -/

theorem edgeDevice_read (v : EdgeDevice) : EdgeDevice.fromJson v.toJson = .ok v := by
  simp only [EdgeDevice.fromJson, EdgeDevice.toJson, value_obj, member_cons, String.reduceEq, if_false, if_true, getStr_str,
    texts_read, labels_read, ok_bind, pure_ok]

theorem capability_read (v : CapabilityMetadata) : CapabilityMetadata.fromJson v.toJson = .ok v := by
  simp [CapabilityMetadata.fromJson, CapabilityMetadata.toJson, value_obj, member_cons, ok_bind, pure_ok]

theorem compartment_read (v : EdgeInventoryCompartment) : EdgeInventoryCompartment.fromJson v.toJson = .ok v := by
  have hdenominations : getObj getInt (.obj (v.denominations.map fun m => (m.1, Json.int m.2)) : Json String) =
      .ok v.denominations := getObj_map getInt_int v.denominations
  simp [EdgeInventoryCompartment.fromJson, EdgeInventoryCompartment.toJson, value_obj, member_cons, hdenominations, ok_bind,
    pure_ok]

theorem inventory_read (v : EdgeInventoryView) : EdgeInventoryView.fromJson v.toJson = .ok v := by
  simp [EdgeInventoryView.fromJson, EdgeInventoryView.toJson, value_obj, member_cons, getArr_map compartment_read, ok_bind,
    pure_ok]

theorem simulator_read (v : SimulatorState) : SimulatorState.fromJson v.toJson = .ok v := by
  simp [SimulatorState.fromJson, SimulatorState.toJson, value_obj, member_cons, ok_bind, pure_ok]

theorem result_read (v : EdgeCommandResult) : EdgeCommandResult.fromJson v.toJson = .ok v := by
  simp [EdgeCommandResult.fromJson, EdgeCommandResult.toJson, value_obj, member_cons, ok_bind, pure_ok]

theorem edgeEvent_read (v : EdgeEvent) : EdgeEvent.fromJson v.toJson = .ok v := by
  simp [EdgeEvent.fromJson, EdgeEvent.toJson, value_obj, member_cons, ok_bind, pure_ok]

/-! ### The same entries -/

structure SameEdge (e e' : EdgePlatformService) : Prop where
  devices : Dict.Same e.devices e'.devices
  capabilities : Dict.Same e.capabilities e'.capabilities
  inventories : Dict.Same e.inventories e'.inventories
  simulator : Dict.Same e.simulator e'.simulator
  events : e.events = e'.events

theorem SameEdge.refl (e : EdgePlatformService) : SameEdge e e := ⟨fun _ => rfl, fun _ => rfl, fun _ => rfl, fun _ => rfl, rfl⟩

theorem SameEdge.symm {e e' : EdgePlatformService} (h : SameEdge e e') : SameEdge e' e :=
  ⟨h.devices.symm, h.capabilities.symm, h.inventories.symm, h.simulator.symm, h.events.symm⟩

theorem SameEdge.trans {e e' e'' : EdgePlatformService} (h : SameEdge e e') (h' : SameEdge e' e'') : SameEdge e e'' :=
  ⟨h.devices.trans h'.devices, h.capabilities.trans h'.capabilities, h.inventories.trans h'.inventories,
    h.simulator.trans h'.simulator, h.events.trans h'.events⟩

/-- The sites have the same entries in the platform, and the same attached services. -/
structure SameSite {τ : Type} (w w' : Site τ) : Prop where
  edge : SameEdge w.edge w'.edge
  plane : w.plane = w'.plane
  trust : w.trust = w'.trust

/-- The results are the same, and the counters of every device that has an id. -/
structure SameCommands (k k' : EdgeCommands) : Prop where
  results : k.results = k'.results
  count : ∀ d, d ≠ "" → (k.count.lookup d).getD 0 = (k'.count.lookup d).getD 0
  failures : ∀ d, d ≠ "" → (k.failures.lookup d).getD 0 = (k'.failures.lookup d).getD 0

section

variable {τ : Type} {e e' : EdgePlatformService} {w w' : Site τ} {k k' : EdgeCommands}

theorem SameEdge.emitEventLocked (h : SameEdge e e') (tenantId deviceId eventType : String) (now : Int)
    (metadata : Json String) : SameEdge (e.emitEventLocked tenantId deviceId eventType now metadata)
      (e'.emitEventLocked tenantId deviceId eventType now metadata) := by
  refine ⟨h.devices, h.capabilities, h.inventories, h.simulator, ?_⟩
  simp only [EdgePlatformService.emitEventLocked, h.events]

theorem SameEdge.insertDevice (h : SameEdge e e') (d : EdgeDevice) : SameEdge (e.insertDevice d) (e'.insertDevice d) := by
  refine ⟨h.devices.insert _ _, h.capabilities.insert _ _, h.inventories.insert _ _, h.simulator.insert _ _, ?_⟩
  simp only [EdgePlatformService.insertDevice, h.events]

theorem SameEdge.enterDevice (h : SameEdge e e') (d : EdgeDevice) : SameEdge (e.enterDevice d) (e'.enterDevice d) :=
  ⟨h.devices.insert _ _, h.capabilities, h.inventories, h.simulator, h.events⟩

theorem SameEdge.simulatorAt (h : SameEdge e e') (deviceId : String) :
    SameEdge (e.simulatorAt deviceId).1 (e'.simulatorAt deviceId).1 ∧
    (e.simulatorAt deviceId).2 = (e'.simulatorAt deviceId).2 := by
  have hstate : (e.simulatorAt deviceId).2 = (e'.simulatorAt deviceId).2 := by
    simp only [EdgePlatformService.simulatorAt, h.simulator deviceId]
  refine ⟨⟨h.devices, h.capabilities, h.inventories, ?_, h.events⟩, hstate⟩
  simp only [EdgePlatformService.simulatorAt, h.simulator deviceId]
  exact h.simulator.insert _ _

theorem SameEdge.inventoryAt (h : SameEdge e e') (deviceId : String) :
    SameEdge (e.inventoryAt deviceId).1 (e'.inventoryAt deviceId).1 ∧
    (e.inventoryAt deviceId).2 = (e'.inventoryAt deviceId).2 := by
  have hview : (e.inventoryAt deviceId).2 = (e'.inventoryAt deviceId).2 := by
    simp only [EdgePlatformService.inventoryAt, h.inventories deviceId]
  refine ⟨⟨h.devices, h.capabilities, ?_, h.simulator, h.events⟩, hview⟩
  simp only [EdgePlatformService.inventoryAt, h.inventories deviceId]
  exact h.inventories.insert _ _

theorem SameEdge.withSimulator (h : SameEdge e e') (deviceId : String) (state : SimulatorState) :
    SameEdge { e with simulator := e.simulator.insert deviceId state }
      { e' with simulator := e'.simulator.insert deviceId state } :=
  ⟨h.devices, h.capabilities, h.inventories, h.simulator.insert _ _, h.events⟩

theorem SameEdge.withInventory (h : SameEdge e e') (deviceId : String) (inventory : EdgeInventoryView) :
    SameEdge { e with inventories := e.inventories.insert deviceId inventory }
      { e' with inventories := e'.inventories.insert deviceId inventory } :=
  ⟨h.devices, h.capabilities, h.inventories.insert _ _, h.simulator, h.events⟩

theorem SameEdge.withCapabilities (h : SameEdge e e') (deviceId : String) (l : List CapabilityMetadata) :
    SameEdge { e with capabilities := e.capabilities.insert deviceId l }
      { e' with capabilities := e'.capabilities.insert deviceId l } :=
  ⟨h.devices, h.capabilities.insert _ _, h.inventories, h.simulator, h.events⟩

theorem SameSite.withEdge (h : SameSite w w') (he : SameEdge e e') : SameSite { w with edge := e } { w' with edge := e' } :=
  ⟨he, h.plane, h.trust⟩

theorem SameCommands.named (h : SameCommands k k') (request : EdgeCommandRequest) : k.named request = k'.named request := by
  simp only [EdgeCommands.named, h.results]

theorem SameCommands.record (h : SameCommands k k') (deviceId : String) (result : EdgeCommandResult) :
    SameCommands (k.record deviceId result) (k'.record deviceId result) := by
  refine ⟨by simp only [EdgeCommands.record, h.results], fun d hd => ?_, fun d hd => ?_⟩
  · simp only [EdgeCommands.record, Dict.lookup_insert_if]
    split_ifs with hid
    · rw [← hid, h.count d hd]
    · exact h.count d hd
  · simp only [EdgeCommands.record]
    split_ifs with hexecuted
    · exact h.failures d hd
    · rw [Dict.lookup_insert_if, Dict.lookup_insert_if]
      split_ifs with hid
      · rw [← hid, h.failures d hd]
      · exact h.failures d hd

/-! ### Requests -/

theorem SameEdge.registerCapability (h : SameEdge e e') (deviceId : String) (capability : CapabilityMetadata) :
    SameEdge (e.registerCapability deviceId capability).1 (e'.registerCapability deviceId capability).1 ∧
    (e.registerCapability deviceId capability).2 = (e'.registerCapability deviceId capability).2 := by
  unfold EdgePlatformService.registerCapability
  rw [← h.devices deviceId]
  cases e.devices.lookup deviceId with
  | none => exact ⟨h, rfl⟩
  | some d =>
    simp only
    split_ifs with hempty hknown
    · exact ⟨h, rfl⟩
    · rw [← h.capabilities deviceId]
      exact ⟨(h.withCapabilities _ _).emitEventLocked _ _ _ _ _, rfl⟩
    · have henter := h.enterDevice { d with capabilities := d.capabilities ++ [capability.capability] }
      rw [← henter.capabilities deviceId]
      exact ⟨(henter.withCapabilities _ _).emitEventLocked _ _ _ _ _, rfl⟩

theorem SameEdge.reportFault (h : SameEdge e e') (tenantId deviceId : String) (fault : Option String) (now : Int) :
    SameEdge (e.reportFault tenantId deviceId fault now) (e'.reportFault tenantId deviceId fault now) := by
  cases fault with
  | none => exact h
  | some fault => exact h.emitEventLocked _ _ _ _ _

theorem SameEdge.takeCash (h : SameEdge e e') (tenantId deviceId : String) (parameters : Json String) (now : Int) :
    SameEdge (e.takeCash tenantId deviceId parameters now).1 (e'.takeCash tenantId deviceId parameters now).1 ∧
    (e.takeCash tenantId deviceId parameters now).2 = (e'.takeCash tenantId deviceId parameters now).2 := by
  unfold EdgePlatformService.takeCash
  obtain ⟨hat, hview⟩ := h.inventoryAt deviceId
  simp only [← hview]
  cases EdgePlatformService.cashIn (e.inventoryAt deviceId).2 parameters now with
  | error x => exact ⟨hat, rfl⟩
  | ok inventory => exact ⟨(hat.withInventory deviceId inventory).emitEventLocked _ _ _ _ _, rfl⟩

theorem SameEdge.simulate (h : SameEdge e e') (deviceId action : String) (parameters : Json String) (now : Int) :
    SameEdge (e.simulate deviceId action parameters now).1 (e'.simulate deviceId action parameters now).1 ∧
    (e.simulate deviceId action parameters now).2 = (e'.simulate deviceId action parameters now).2 := by
  unfold EdgePlatformService.simulate
  rw [← h.devices deviceId]
  cases e.devices.lookup deviceId with
  | none => exact ⟨h, rfl⟩
  | some d =>
    obtain ⟨hat, hstate⟩ := h.simulatorAt deviceId
    simp only [← hstate]
    cases EdgePlatformService.simulated (e.simulatorAt deviceId).2 action parameters with
    | error x => exact ⟨hat, rfl⟩
    | ok r =>
      obtain ⟨state, fault⟩ := r
      have hfault := (hat.withSimulator deviceId state).reportFault d.tenantId deviceId fault now
      by_cases hcash : action = "cash_in"
      · obtain ⟨htaken, hanswer⟩ := hfault.takeCash d.tenantId deviceId parameters now
        simp only [hcash, if_true, ← hanswer]
        split
        · exact ⟨htaken, rfl⟩
        · exact ⟨htaken.emitEventLocked _ _ _ _ _, rfl⟩
      · simp only [hcash, if_false]
        exact ⟨hfault.emitEventLocked _ _ _ _ _, trivial⟩

variable {c : EdgeWiring τ}

theorem SameSite.edgeEvidence (h : SameSite w w') (d : EdgeDevice) (eventType : String) (now : Int) (payload : Json String) :
    SameSite (c.edgeEvidence w d eventType now payload) (c.edgeEvidence w' d eventType now payload) := by
  unfold Wiring.edgeEvidence
  split
  · exact h
  · exact ⟨h.edge, h.plane, by simp only [h.edge.events, h.trust]⟩

theorem SameSite.registerDevice (h : SameSite w w') (d : EdgeDevice) :
    SameSite (c.registerDevice w d).1 (c.registerDevice w' d).1 ∧ (c.registerDevice w d).2 = (c.registerDevice w' d).2 := by
  unfold Wiring.registerDevice
  split
  · exact ⟨h, rfl⟩
  · have hedge := h.edge.insertDevice (withDefaults d)
    refine ⟨⟨hedge, ?_, ?_⟩, rfl⟩
    · simp only [h.plane]
    · simp only [h.trust, hedge.events]

/-- What a command leaves and returns. -/
abbrev Outcome (τ : Type) := Site τ × EdgeCommands × Except Exn EdgeCommandResult

/-- Outcomes that cannot be told apart later. -/
structure SameOutcome (r r' : Outcome τ) : Prop where
  site : SameSite r.1 r'.1
  commands : SameCommands r.2.1 r'.2.1
  answer : r.2.2 = r'.2.2

theorem SameSite.rejectCommand (h : SameSite w w') (hk : SameCommands k k') (d : Option EdgeDevice)
    (request : EdgeCommandRequest) (reason eventType : String) :
    SameOutcome (Drawer.FleetOps.rejectCommand w k d request reason eventType)
      (Drawer.FleetOps.rejectCommand w' k' d request reason eventType) := by
  refine ⟨h.withEdge ?_, hk.record _ _, rfl⟩
  cases d with
  | none => exact h.edge
  | some d => exact h.edge.emitEventLocked _ _ _ _ _

theorem SameSite.maintain (h : SameSite w w') (d : EdgeDevice) (request : EdgeCommandRequest) :
    SameSite (Drawer.FleetOps.maintain w d request).1 (Drawer.FleetOps.maintain w' d request).1 ∧
    (Drawer.FleetOps.maintain w d request).2 = (Drawer.FleetOps.maintain w' d request).2 := by
  unfold Drawer.FleetOps.maintain
  obtain ⟨hat, hstate⟩ := h.edge.simulatorAt request.deviceId
  generalize hmode : (if request.command = "enter_maintenance_mode" then some (true, "maintenance_mode_entered")
    else if request.command = "exit_maintenance_mode" then some (false, "maintenance_mode_exited") else none) = mode
  cases mode with
  | none => exact ⟨h, rfl⟩
  | some m =>
    simp only [← hstate]
    split
    · exact ⟨h.withEdge hat, rfl⟩
    · exact ⟨h.withEdge ((hat.withSimulator _ _).emitEventLocked _ _ _ _ _), rfl⟩

theorem SameSite.finishCommand (h : SameSite w w') (hk : SameCommands k k') (d : EdgeDevice) (capability : String)
    (request : EdgeCommandRequest) (result : EdgeCommandResult) :
    SameOutcome (c.finishCommand w k d capability request result) (c.finishCommand w' k' d capability request result) := by
  unfold Wiring.finishCommand
  have hemit := h.withEdge (h.edge.emitEventLocked d.tenantId d.deviceId
    (if result.executed then "driver_command_executed" else "driver_command_failed") request.requestedAt
    (.obj [("command", .str request.command), ("status", .str result.status)]))
  obtain ⟨hsite, hanswer⟩ := hemit.maintain d request
  have hrecord := hk.record request.deviceId result
  simp only
  generalize hr : Drawer.FleetOps.maintain _ d request = r at hsite hanswer ⊢
  generalize hr' : Drawer.FleetOps.maintain { w' with edge := _ } d request = r' at hsite hanswer ⊢
  obtain ⟨w₁, answer⟩ := r
  obtain ⟨w₁', answer'⟩ := r'
  simp only at hanswer
  subst hanswer
  cases answer with
  | error e => exact ⟨hsite, hrecord, rfl⟩
  | ok u =>
    refine ⟨?_, hrecord, rfl⟩
    simp only
    split_ifs
    · exact SameSite.edgeEvidence hsite _ _ _ _
    · exact hsite

theorem SameSite.edgeAllows (h : SameSite w w') (d : EdgeDevice) (capability : String) (request : EdgeCommandRequest) :
    SameSite (c.edgeAllows w d capability request).1 (c.edgeAllows w' d capability request).1 ∧
    (c.edgeAllows w d capability request).2 = (c.edgeAllows w' d capability request).2 := by
  unfold Wiring.edgeAllows
  split
  · exact ⟨h, rfl⟩
  · split_ifs
    · simp only [h.trust]
      exact ⟨⟨h.edge, h.plane, rfl⟩, trivial⟩
    · exact ⟨h, rfl⟩

theorem SameSite.executeAllowed (h : SameSite w w') (hk : SameCommands k k') (d : EdgeDevice) (capability : String)
    (request : EdgeCommandRequest) :
    SameOutcome (c.executeAllowed w k d capability request) (c.executeAllowed w' k' d capability request) := by
  unfold Wiring.executeAllowed
  obtain ⟨hsite, hallowed⟩ := SameSite.edgeAllows (c := c) h d capability request
  simp only [← hallowed]
  split_ifs
  · exact (SameSite.edgeEvidence hsite _ _ _ _).rejectCommand hk _ _ _ _
  · split
    · exact hsite.rejectCommand hk _ _ _ _
    · exact SameSite.finishCommand hsite hk _ _ _ _

theorem SameSite.executeCommand (h : SameSite w w') (hk : SameCommands k k') (request : EdgeCommandRequest) :
    SameOutcome (c.executeCommand w k request) (c.executeCommand w' k' request) := by
  unfold Wiring.executeCommand
  rw [← hk.named request]
  simp only
  rw [← h.edge.devices]
  cases w.edge.devices.lookup (k.named request).deviceId with
  | none => exact h.rejectCommand hk _ _ _ _
  | some d =>
    obtain ⟨hat, hstate⟩ := h.edge.simulatorAt (k.named request).deviceId
    have hsite := h.withEdge hat
    simp only [← hstate]
    split_ifs
    · exact (SameSite.edgeEvidence h _ _ _ _).rejectCommand hk _ _ _ _
    · exact hsite.rejectCommand hk _ _ _ _
    · exact SameSite.executeAllowed hsite hk _ _ _
    · exact (SameSite.edgeEvidence h _ _ _ _).rejectCommand hk _ _ _ _

/-! ### The platform with its store -/

/-- The two answer alike: they have the same entries, results and counters, and the same attached services. -/
structure Like (h h' : EdgeHost τ) : Prop where
  site : SameSite h.site h'.site
  commands : SameCommands h.commands h'.commands

theorem Like.saveLocked {h h' : EdgeHost τ} (hlike : Like h h') (saved : Saving) (reply : EdgeReply) :
    Like (h.saveLocked saved reply).1 (h'.saveLocked saved reply).1 ∧
    (h.saveLocked saved reply).2 = (h'.saveLocked saved reply).2 := by
  cases saved <;> exact ⟨⟨hlike.site, hlike.commands⟩, rfl⟩

theorem Like.withEdge {h h' : EdgeHost τ} (hlike : Like h h') (he : SameEdge e e') : Like (h.withEdge e) (h'.withEdge e') :=
  ⟨hlike.site.withEdge he, hlike.commands⟩

theorem Like.updateInventory {h h' : EdgeHost τ} (hlike : Like h h') (inventory : EdgeInventoryView) (saved : Saving) :
    Like (h.updateInventory c inventory saved).1 (h'.updateInventory c inventory saved).1 ∧
    (h.updateInventory c inventory saved).2 = (h'.updateInventory c inventory saved).2 := by
  unfold EdgeHost.updateInventory
  rw [← hlike.site.edge.devices]
  split
  · exact ⟨hlike, rfl⟩
  · have hedge := (hlike.site.edge.withInventory inventory.deviceId inventory).emitEventLocked
    refine Like.saveLocked ?_ _ _
    exact ⟨SameSite.edgeEvidence (hlike.site.withEdge (hedge _ _ _ _ _)) _ _ _ _, hlike.commands⟩

theorem SameSite.chainHealth (h : SameSite w w') (tenantId deviceId : String) :
    SameSite (EdgeHost.chainHealth c w tenantId deviceId).1 (EdgeHost.chainHealth c w' tenantId deviceId).1 ∧
    (EdgeHost.chainHealth c w tenantId deviceId).2 = (EdgeHost.chainHealth c w' tenantId deviceId).2 := by
  unfold EdgeHost.chainHealth
  split
  · exact ⟨h, rfl⟩
  · simp only [h.trust]
    exact ⟨⟨h.edge, h.plane, rfl⟩, trivial⟩

theorem Like.healthLocked {h h' : EdgeHost τ} (hlike : Like h h') (hnamed : h.site.edge.devices.lookup "" = none)
    (deviceId : String) : Like (h.healthLocked c deviceId).1 (h'.healthLocked c deviceId).1 ∧
      (h.healthLocked c deviceId).2 = (h'.healthLocked c deviceId).2 := by
  unfold EdgeHost.healthLocked
  rw [← hlike.site.edge.devices]
  cases hdevice : h.site.edge.devices.lookup deviceId with
  | none => exact ⟨hlike, rfl⟩
  | some d =>
    have hid : deviceId ≠ "" := by
      rintro rfl
      rw [hnamed] at hdevice
      cases hdevice
    obtain ⟨hat, hstate⟩ := hlike.site.edge.simulatorAt deviceId
    obtain ⟨hview, hinventory⟩ := hat.inventoryAt deviceId
    have hedge := hlike.withEdge hview
    simp only [← hstate, ← hinventory]
    cases EdgePlatformService.readings (h.site.edge.simulatorAt deviceId).2.sensorTelemetry with
    | error x => exact ⟨hedge, rfl⟩
    | ok sensors =>
      obtain ⟨hsite, hchain⟩ := SameSite.chainHealth (c := c) hedge.site d.tenantId deviceId
      have hcount := hedge.commands.count deviceId hid
      have hfailures := hedge.commands.failures deviceId hid
      simp only [← hchain, hcount, hfailures]
      exact ⟨⟨hsite, hedge.commands⟩, trivial⟩

/-- A request has the same answer from both, and leaves them alike. -/
theorem Like.step {h h' : EdgeHost τ} (hlike : Like h h') (hnamed : h.site.edge.devices.lookup "" = none) (op : EdgeOp τ)
    (saved : Saving) :
    Like (h.step c op saved).1 (h'.step c op saved).1 ∧ (h.step c op saved).2 = (h'.step c op saved).2 := by
  cases op with
  | registerDevice device =>
    obtain ⟨hsite, hanswer⟩ := SameSite.registerDevice (c := c) hlike.site device
    simp only [EdgeHost.step, ← hanswer]
    split_ifs
    · refine Like.saveLocked ?_ _ _
      exact ⟨hsite, hlike.commands⟩
    · exact ⟨hlike, rfl⟩
  | registerCapability deviceId capability =>
    obtain ⟨hedge, hanswer⟩ := hlike.site.edge.registerCapability deviceId capability
    simp only [EdgeHost.step, ← hanswer]
    split_ifs
    · exact (hlike.withEdge hedge).saveLocked _ _
    · exact ⟨hlike, rfl⟩
  | devices tenantId =>
    refine ⟨hlike, congrArg EdgeReply.devices (Multiset.coe_eq_coe.mpr ?_)⟩
    exact (hlike.site.edge.devices.entries.map Sigma.snd).filter _
  | capabilities deviceId =>
    refine ⟨hlike, ?_⟩
    simp only [EdgeHost.step, EdgePlatformService.capabilitiesOf, hlike.site.edge.capabilities deviceId]
  | drivers => exact ⟨hlike, rfl⟩
  | executeCommand request =>
    have hsame := SameSite.executeCommand (c := c) hlike.site hlike.commands request
    simp only [EdgeHost.step, ← hsame.answer]
    split
    · refine Like.saveLocked ?_ _ _
      exact ⟨hsame.site, hsame.commands⟩
    · exact ⟨⟨hsame.site, hsame.commands⟩, rfl⟩
  | inventory deviceId =>
    refine ⟨hlike, ?_⟩
    simp only [EdgeHost.step, EdgePlatformService.inventory, hlike.site.edge.inventories deviceId]
  | updateInventory inventory =>
    exact Like.updateInventory hlike inventory saved
  | simulate deviceId action parameters now =>
    obtain ⟨hedge, hanswer⟩ := hlike.site.edge.simulate deviceId action parameters now
    simp only [EdgeHost.step, ← hanswer, ← hlike.site.edge.devices deviceId]
    split
    · split_ifs
      · exact (hlike.withEdge hedge).saveLocked _ _
      · exact ⟨hlike, rfl⟩
    · exact ⟨hlike.withEdge hedge, rfl⟩
  | health deviceId =>
    obtain ⟨hafter, hanswer⟩ := Like.healthLocked (c := c) hlike hnamed deviceId
    simp only [EdgeHost.step, ← hanswer]
    split
    · exact hafter.saveLocked _ _
    · exact ⟨hafter, rfl⟩
  | events tenantId =>
    refine ⟨hlike, ?_⟩
    simp only [EdgeHost.step, EdgePlatformService.eventsOf, hlike.site.edge.events]
  | outside f =>
    simp only [EdgeHost.step, hlike.site.plane, hlike.site.trust]
    exact ⟨⟨⟨hlike.site.edge, rfl, rfl⟩, hlike.commands⟩, trivial⟩

end

end Drawer.FleetOps
