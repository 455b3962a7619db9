import Drawer.Lib.Json
import Drawer.Lib.Sha256
import Drawer.Sanity.EdgeStore

/-! Runs of the edge platform: what holds of its entries throughout, and what its
store holds. -/

namespace Drawer.FleetOps
open Json

/-! ### Entries -/

section

variable {τ : Type} {T : Json String → Prop} {e e' : EdgePlatformService}

/-- Every device has an id, an inventory and a state of its own; `T` holds of what its sensors are taken to say. -/
structure EdgeSound (T : Json String → Prop) (e : EdgePlatformService) : Prop where
  named : e.devices.lookup "" = none
  inventories : Filed EdgeInventoryView.deviceId e.inventories
  simulator : Filed SimulatorState.deviceId e.simulator
  stocked : ∀ k, (e.devices.lookup k).isSome = true → (e.inventories.lookup k).isSome = true
  simulated : ∀ k, (e.devices.lookup k).isSome = true → (e.simulator.lookup k).isSome = true
  telemetry : ∀ k state, e.simulator.lookup k = some state → T state.sensorTelemetry

theorem edgeSound_empty : EdgeSound T {} := by
  refine ⟨rfl, ?_, ?_, ?_, ?_, ?_⟩ <;> intro k <;> simp

theorem EdgeSound.same (hs : EdgeSound T e) (h : SameEdge e e') : EdgeSound T e' := by
  refine ⟨h.devices "" ▸ hs.named, fun id a ha => ?_, fun id a ha => ?_, fun k hk => ?_, fun k hk => ?_, fun k state hk => ?_⟩
  · exact hs.inventories id a ((h.inventories id).trans ha)
  · exact hs.simulator id a ((h.simulator id).trans ha)
  · rw [← h.inventories k]
    exact hs.stocked k (by rwa [h.devices k])
  · rw [← h.simulator k]
    exact hs.simulated k (by rwa [h.devices k])
  · exact hs.telemetry k state ((h.simulator k).trans hk)

theorem EdgeSound.emitEventLocked (hs : EdgeSound T e) (tenantId deviceId eventType : String) (now : Int)
    (metadata : Json String) : EdgeSound T (e.emitEventLocked tenantId deviceId eventType now metadata) :=
  ⟨hs.named, hs.inventories, hs.simulator, hs.stocked, hs.simulated, hs.telemetry⟩

theorem EdgeSound.withCapabilities (hs : EdgeSound T e) (deviceId : String) (l : List CapabilityMetadata) :
    EdgeSound T { e with capabilities := e.capabilities.insert deviceId l } :=
  ⟨hs.named, hs.inventories, hs.simulator, hs.stocked, hs.simulated, hs.telemetry⟩

theorem EdgeSound.withSimulator (hs : EdgeSound T e) (deviceId : String) (state : SimulatorState)
    (hid : state.deviceId = deviceId) (hT : T state.sensorTelemetry) :
    EdgeSound T { e with simulator := e.simulator.insert deviceId state } := by
  refine ⟨hs.named, hs.inventories, fun id a ha => ?_, hs.stocked, fun k hk => ?_, fun k a ha => ?_⟩
  · rw [Dict.lookup_insert_if] at ha
    split_ifs at ha with heq
    · rw [heq, ← hid, ← Option.some.inj ha]
    · exact hs.simulator id a ha
  · rw [Dict.lookup_insert_if]
    split_ifs
    · rfl
    · exact hs.simulated k hk
  · rw [Dict.lookup_insert_if] at ha
    split_ifs at ha with heq
    · rwa [← Option.some.inj ha]
    · exact hs.telemetry k a ha

theorem EdgeSound.withInventory (hs : EdgeSound T e) (deviceId : String) (inventory : EdgeInventoryView)
    (hid : inventory.deviceId = deviceId) :
    EdgeSound T { e with inventories := e.inventories.insert deviceId inventory } := by
  refine ⟨hs.named, fun id a ha => ?_, hs.simulator, fun k hk => ?_, hs.simulated, hs.telemetry⟩
  · rw [Dict.lookup_insert_if] at ha
    split_ifs at ha with heq
    · rw [heq, ← hid, ← Option.some.inj ha]
    · exact hs.inventories id a ha
  · rw [Dict.lookup_insert_if]
    split_ifs
    · rfl
    · exact hs.stocked k hk

/-- A device that is known is entered again. -/
theorem EdgeSound.enterDevice (hs : EdgeSound T e) {d : EdgeDevice} (hd : (e.devices.lookup d.deviceId).isSome = true) :
    EdgeSound T (e.enterDevice d) := by
  have hknown : ∀ k, ((e.enterDevice d).devices.lookup k).isSome = true → (e.devices.lookup k).isSome = true := by
    intro k hk
    simp only [EdgePlatformService.enterDevice, Dict.lookup_insert_if] at hk
    split_ifs at hk with heq
    · rw [heq]
      exact hd
    · exact hk
  refine ⟨?_, hs.inventories, hs.simulator, fun k hk => hs.stocked k (hknown k hk), fun k hk => hs.simulated k (hknown k hk),
    hs.telemetry⟩
  by_contra hne
  have hsome := hknown "" (Option.isSome_iff_ne_none.mpr hne)
  rw [hs.named] at hsome
  cases hsome

/-- The state of a device that is known is there, and has its id. -/
theorem EdgeSound.simulatorAt (hs : EdgeSound T e) {deviceId : String} (hd : (e.devices.lookup deviceId).isSome = true) :
    SameEdge (e.simulatorAt deviceId).1 e ∧ e.simulator.lookup deviceId = some (e.simulatorAt deviceId).2 := by
  obtain ⟨state, hstate⟩ := Option.isSome_iff_exists.mp (hs.simulated deviceId hd)
  simp only [EdgePlatformService.simulatorAt, hstate, Option.getD_some]
  exact ⟨⟨fun _ => rfl, fun _ => rfl, fun _ => rfl, Dict.same_insert hstate, rfl⟩, trivial⟩

theorem EdgeSound.inventoryAt (hs : EdgeSound T e) {deviceId : String} (hd : (e.devices.lookup deviceId).isSome = true) :
    SameEdge (e.inventoryAt deviceId).1 e ∧ e.inventories.lookup deviceId = some (e.inventoryAt deviceId).2 := by
  obtain ⟨inventory, hinventory⟩ := Option.isSome_iff_exists.mp (hs.stocked deviceId hd)
  simp only [EdgePlatformService.inventoryAt, hinventory, Option.getD_some]
  exact ⟨⟨fun _ => rfl, fun _ => rfl, Dict.same_insert hinventory, fun _ => rfl, rfl⟩, trivial⟩

/-- What the sensors of a new device say. -/
def initialTelemetry : Json String := .obj [("door", .str "closed"), ("lock", .str "locked")]

theorem EdgeSound.insertDevice (hs : EdgeSound T e) (hT : T initialTelemetry) {d : EdgeDevice} (hd : d.deviceId ≠ "") :
    EdgeSound T (e.insertDevice d) := by
  have hsimulator := hs.withSimulator d.deviceId ⟨d.deviceId, true, [], initialTelemetry⟩ rfl hT
  have hinventory := hs.withInventory d.deviceId (defaultInventoryFor d) rfl
  have hmem : ∀ {α : Type} (m : Dict String α) (v : α) (k : String), (m.lookup k).isSome = true ∨ k = d.deviceId →
      ((m.insert d.deviceId v).lookup k).isSome = true := by
    intro α m v k hk
    rw [Dict.lookup_insert_if]
    split_ifs with heq
    · rfl
    · exact hk.resolve_right heq
  have hknown : ∀ k, ((e.insertDevice d).devices.lookup k).isSome = true →
      (e.devices.lookup k).isSome = true ∨ k = d.deviceId := by
    intro k hk
    simp only [EdgePlatformService.insertDevice, Dict.lookup_insert_if] at hk
    split_ifs at hk with heq
    · exact Or.inr heq
    · exact Or.inl hk
  refine ⟨?_, hinventory.inventories, hsimulator.simulator, fun k hk => ?_, fun k hk => ?_, hsimulator.telemetry⟩
  · have hne : ¬ ("" = d.deviceId) := fun heq => hd heq.symm
    simp only [EdgePlatformService.insertDevice, Dict.lookup_insert_if, if_neg hne]
    exact hs.named
  · exact hmem _ _ k ((hknown k hk).imp_left (hs.stocked k))
  · exact hmem _ _ k ((hknown k hk).imp_left (hs.simulated k))

/-! ### Requests -/

theorem EdgeSound.registerCapability (hs : EdgeSound T e) (deviceId : String) (capability : CapabilityMetadata) :
    EdgeSound T (e.registerCapability deviceId capability).1 := by
  unfold EdgePlatformService.registerCapability
  cases hdevice : e.devices.lookup deviceId with
  | none => exact hs
  | some d =>
    have hid : d.deviceId = deviceId := e.keyed deviceId d hdevice
    have hd : (e.devices.lookup d.deviceId).isSome = true := by rw [hid, hdevice]; rfl
    have henter : EdgeSound T (e.enterDevice { d with capabilities := d.capabilities ++ [capability.capability] }) :=
      hs.enterDevice hd
    simp only
    split_ifs
    · exact hs
    · exact (hs.withCapabilities _ _).emitEventLocked _ _ _ _ _
    · exact (henter.withCapabilities _ _).emitEventLocked _ _ _ _ _

theorem EdgeSound.reportFault (hs : EdgeSound T e) (tenantId deviceId : String) (fault : Option String) (now : Int) :
    EdgeSound T (e.reportFault tenantId deviceId fault now) := by
  cases fault with
  | none => exact hs
  | some fault => exact hs.emitEventLocked _ _ _ _ _

theorem cashIn_deviceId {inventory inventory' : EdgeInventoryView} {parameters : Json String} {now : Int}
    (h : EdgePlatformService.cashIn inventory parameters now = .ok inventory') : inventory'.deviceId = inventory.deviceId := by
  unfold EdgePlatformService.cashIn at h
  split at h
  · obtain rfl := Except.ok.inj h
    rfl
  · obtain ⟨quantity, -, h⟩ := of_bind_ok h
    obtain rfl := Except.ok.inj h
    rfl

/-- A new process would find the same of a request that was broken off. -/
theorem EdgeSound.takeCash (hs : EdgeSound T e) {deviceId : String} (hd : (e.devices.lookup deviceId).isSome = true)
    (tenantId : String) (parameters : Json String) (now : Int) :
    EdgeSound T (e.takeCash tenantId deviceId parameters now).1 := by
  obtain ⟨hsame, hlookup⟩ := hs.inventoryAt hd
  have hat := hs.same hsame.symm
  unfold EdgePlatformService.takeCash
  simp only
  split
  · exact hat
  · rename_i inventory hcash
    refine (hat.withInventory _ _ ?_).emitEventLocked _ _ _ _ _
    rw [cashIn_deviceId hcash]
    exact hs.inventories deviceId _ hlookup

/-- What is asked of the parameters of a simulation. -/
def Feeds (T : Json String → Prop) (action : String) (parameters : Json String) : Prop := action = "telemetry" → T parameters

theorem simulated_state {state : SimulatorState} {action : String} {parameters : Json String}
    {r : SimulatorState × Option String} (h : EdgePlatformService.simulated state action parameters = .ok r) :
    r.1.deviceId = state.deviceId ∧
      r.1.sensorTelemetry = if action = "telemetry" then parameters else state.sensorTelemetry := by
  unfold EdgePlatformService.simulated at h
  split_ifs at h with h1 h2 h3 h4
  · obtain rfl := Except.ok.inj h
    simp [h1]
  · obtain rfl := Except.ok.inj h
    simp [h2]
  · obtain ⟨fault, -, h⟩ := of_bind_ok h
    obtain rfl := Except.ok.inj h
    simp [h3]
  · obtain rfl := Except.ok.inj h
    simp [h4]
  · obtain rfl := Except.ok.inj h
    simp [h4]

theorem EdgeSound.simulate (hs : EdgeSound T e) {deviceId action : String} {parameters : Json String}
    (hfeeds : (e.devices.lookup deviceId).isSome = true → Feeds T action parameters) (now : Int) :
    EdgeSound T (e.simulate deviceId action parameters now).1 := by
  unfold EdgePlatformService.simulate
  cases hdevice : e.devices.lookup deviceId with
  | none => exact hs
  | some d =>
    have hd : (e.devices.lookup deviceId).isSome = true := by rw [hdevice]; rfl
    obtain ⟨hsame, hlookup⟩ := hs.simulatorAt hd
    have hat := hs.same hsame.symm
    simp only
    split
    · exact hat
    · rename_i state fault hsimulated
      obtain ⟨hid, htelemetry⟩ := simulated_state hsimulated
      have hT : T state.sensorTelemetry := by
        rw [htelemetry]
        split_ifs with haction
        · exact hfeeds hd haction
        · exact hs.telemetry deviceId _ hlookup
      have hset := hat.withSimulator _ _ (hid.trans (hs.simulator deviceId _ hlookup)) hT
      have hfault := hset.reportFault d.tenantId deviceId fault now
      have hd' : (({ (e.simulatorAt deviceId).1 with
          simulator := (e.simulatorAt deviceId).1.simulator.insert deviceId state }.reportFault d.tenantId deviceId fault
          now).devices.lookup deviceId).isSome = true := by
        cases fault <;> exact hd
      split_ifs
      · have htaken := hfault.takeCash hd' d.tenantId parameters now
        split
        · exact htaken
        · exact htaken.emitEventLocked _ _ _ _ _
      · exact hfault.emitEventLocked _ _ _ _ _

/-- Setting a state again changes nothing. -/
theorem sameEdge_setSimulator {deviceId : String} {state : SimulatorState} (h : e.simulator.lookup deviceId = some state) :
    SameEdge { e with simulator := e.simulator.insert deviceId state } e :=
  ⟨fun _ => rfl, fun _ => rfl, fun _ => rfl, Dict.same_insert h, rfl⟩

theorem takeCash_thrown (hs : EdgeSound T e) {tenantId deviceId : String} {parameters : Json String} {now : Int} {x : Exn}
    (hd : (e.devices.lookup deviceId).isSome = true) (hthrown : (e.takeCash tenantId deviceId parameters now).2 = .error x) :
    SameEdge (e.takeCash tenantId deviceId parameters now).1 e := by
  obtain ⟨hsame, -⟩ := hs.inventoryAt hd
  unfold EdgePlatformService.takeCash at hthrown ⊢
  simp only at hthrown ⊢
  split at hthrown
  · exact hsame
  · cases hthrown

/-- A simulation that is broken off has changed nothing. -/
theorem simulate_thrown (hs : EdgeSound T e) {deviceId action : String} {parameters : Json String} {now : Int} {x : Exn}
    (hthrown : (e.simulate deviceId action parameters now).2 = .error x) :
    SameEdge (e.simulate deviceId action parameters now).1 e := by
  unfold EdgePlatformService.simulate at hthrown ⊢
  cases hdevice : e.devices.lookup deviceId with
  | none => exact .refl _
  | some d =>
    have hd : (e.devices.lookup deviceId).isSome = true := by rw [hdevice]; rfl
    obtain ⟨hsame, hlookup⟩ := hs.simulatorAt hd
    simp only [hdevice] at hthrown ⊢
    cases hsimulated : EdgePlatformService.simulated (e.simulatorAt deviceId).2 action parameters with
    | error y => exact hsame
    | ok r =>
      simp only [hsimulated] at hthrown ⊢
      by_cases hcash : action = "cash_in"
      · subst hcash
        -- Of the actions only this one is broken off after the state was set, and it sets it as it was.
        obtain rfl : ((e.simulatorAt deviceId).2, none) = r := Except.ok.inj hsimulated
        simp only [if_true, EdgePlatformService.reportFault] at hthrown ⊢
        have hset := sameEdge_setSimulator (hlookup ▸ hsame.simulator deviceId)
        have hd' := hd
        rw [← (hset.trans hsame).devices deviceId] at hd'
        split at hthrown
        · rename_i x' hx
          exact (takeCash_thrown ((hs.same hsame.symm).same hset.symm) hd' hx).trans (hset.trans hsame)
        · cases hthrown
      · simp only [if_neg hcash] at hthrown
        cases hthrown

/-! ### Commands -/

variable {c : Wiring τ} {w : Site τ} {k : EdgeCommands}

@[simp] theorem edgeEvidence_edge (d : EdgeDevice) (eventType : String) (now : Int) (payload : Json String) :
    (c.edgeEvidence w d eventType now payload).edge = w.edge := by
  unfold Wiring.edgeEvidence
  split <;> rfl

@[simp] theorem edgeAllows_edge (d : EdgeDevice) (capability : String) (request : EdgeCommandRequest) :
    (c.edgeAllows w d capability request).1.edge = w.edge := by
  unfold Wiring.edgeAllows
  split
  · rfl
  · split_ifs <;> rfl

/-- `T` goes on holding when a mode is set in what the sensors say. -/
def Settable (T : Json String → Prop) : Prop :=
  ∀ j on j', T j → setFlag j "maintenance_mode" on = .ok j' → T j'

theorem EdgeSound.rejectCommand (hs : EdgeSound T w.edge) (d : Option EdgeDevice) (request : EdgeCommandRequest)
    (reason eventType : String) : EdgeSound T (Drawer.FleetOps.rejectCommand w k d request reason eventType).1.edge := by
  cases d with
  | none => exact hs
  | some d => exact hs.emitEventLocked _ _ _ _ _

theorem EdgeSound.maintain (hs : EdgeSound T w.edge) (hset : Settable T) (d : EdgeDevice) {request : EdgeCommandRequest}
    (hd : (w.edge.devices.lookup request.deviceId).isSome = true) :
    EdgeSound T (Drawer.FleetOps.maintain w d request).1.edge := by
  obtain ⟨hsame, hlookup⟩ := hs.simulatorAt hd
  have hat := hs.same hsame.symm
  unfold Drawer.FleetOps.maintain
  generalize hmode : (if request.command = "enter_maintenance_mode" then some (true, "maintenance_mode_entered")
    else if request.command = "exit_maintenance_mode" then some (false, "maintenance_mode_exited") else none) = mode
  cases mode with
  | none => exact hs
  | some m =>
    simp only
    split
    · exact hat
    · rename_i j hflag
      have hT : T j := hset _ _ _ (hs.telemetry _ _ hlookup) hflag
      have hid := hs.simulator _ _ hlookup
      exact (hat.withSimulator request.deviceId { (w.edge.simulatorAt request.deviceId).2 with sensorTelemetry := j } hid
        hT).emitEventLocked _ _ _ _ _

theorem EdgeSound.finishCommand (hs : EdgeSound T w.edge) (hset : Settable T) (d : EdgeDevice) (capability : String)
    {request : EdgeCommandRequest} (hd : (w.edge.devices.lookup request.deviceId).isSome = true)
    (result : EdgeCommandResult) : EdgeSound T (c.finishCommand w k d capability request result).1.edge := by
  unfold Wiring.finishCommand
  simp only
  generalize hedge : w.edge.emitEventLocked d.tenantId d.deviceId
    (if result.executed then "driver_command_executed" else "driver_command_failed") request.requestedAt
    (.obj [("command", .str request.command), ("status", .str result.status)]) = edge
  have hemit : EdgeSound T edge := hedge ▸ hs.emitEventLocked _ _ _ _ _
  have hd' : (edge.devices.lookup request.deviceId).isSome = true := hedge ▸ hd
  have hmaintained : EdgeSound T (Drawer.FleetOps.maintain { w with edge } d request).1.edge := hemit.maintain hset d hd'
  split
  · rename_i w₁ x heq
    rwa [heq] at hmaintained
  · rename_i w₁ heq
    rw [heq] at hmaintained
    simp only
    split_ifs
    · rwa [edgeEvidence_edge]
    · exact hmaintained

theorem EdgeSound.executeAllowed (hs : EdgeSound T w.edge) (hset : Settable T) (d : EdgeDevice) (capability : String)
    {request : EdgeCommandRequest} (hd : (w.edge.devices.lookup request.deviceId).isSome = true) :
    EdgeSound T (c.executeAllowed w k d capability request).1.edge := by
  unfold Wiring.executeAllowed
  have hallowed : EdgeSound T (c.edgeAllows w d capability request).1.edge := by rwa [edgeAllows_edge]
  have hd' : ((c.edgeAllows w d capability request).1.edge.devices.lookup request.deviceId).isSome = true := by
    rwa [edgeAllows_edge]
  simp only
  split_ifs
  · refine EdgeSound.rejectCommand ?_ _ _ _ _
    rwa [edgeEvidence_edge]
  · split
    · exact hallowed.rejectCommand _ _ _ _
    · exact hallowed.finishCommand hset _ _ hd' _

theorem EdgeSound.executeCommand (hs : EdgeSound T w.edge) (hset : Settable T) (request : EdgeCommandRequest) :
    EdgeSound T (c.executeCommand w k request).1.edge := by
  unfold Wiring.executeCommand
  simp only
  cases hdevice : w.edge.devices.lookup (k.named request).deviceId with
  | none => exact hs.rejectCommand _ _ _ _
  | some d =>
    have hd : (w.edge.devices.lookup (k.named request).deviceId).isSome = true := by rw [hdevice]; rfl
    obtain ⟨hsame, -⟩ := hs.simulatorAt hd
    have hat := hs.same hsame.symm
    simp only
    split_ifs
    · refine EdgeSound.rejectCommand ?_ _ _ _ _
      rwa [edgeEvidence_edge]
    · exact EdgeSound.rejectCommand (w := { w with edge := _ }) hat _ _ _ _
    · exact EdgeSound.executeAllowed (w := { w with edge := _ }) hat hset _ _ hd
    · refine EdgeSound.rejectCommand ?_ _ _ _ _
      rwa [edgeEvidence_edge]

end

/-! ### The store -/

section

variable {τ : Type} {T : Json String → Prop} {c : EdgeWiring τ} {h : EdgeHost τ}

theorem foldl_enterDevice (l : List EdgeDevice) (e : EdgePlatformService) :
    (l.foldl EdgePlatformService.enterDevice e).devices = l.foldl (fun m d => m.insert d.deviceId d) e.devices ∧
    (l.foldl EdgePlatformService.enterDevice e).capabilities = e.capabilities ∧
    (l.foldl EdgePlatformService.enterDevice e).inventories = e.inventories ∧
    (l.foldl EdgePlatformService.enterDevice e).simulator = e.simulator ∧
    (l.foldl EdgePlatformService.enterDevice e).events = e.events := by
  induction l generalizing e with
  | nil => exact ⟨rfl, rfl, rfl, rfl, rfl⟩
  | cons d l ih => exact ih (e.enterDevice d)

/-- What is loaded of the entries of `e`, with whatever was read of the capabilities. -/
def reloadedEdge (e : EdgePlatformService) (capabilities : Dict String (List CapabilityMetadata)) : EdgePlatformService :=
  (e.devices.entries.map Sigma.snd).foldl EdgePlatformService.enterDevice
    { capabilities, inventories := refiled EdgeInventoryView.deviceId e.inventories
      simulator := refiled SimulatorState.deviceId e.simulator, events := e.events }

theorem sameEdge_reloaded {e : EdgePlatformService} (hs : EdgeSound T e) (capabilities : Dict String (List CapabilityMetadata)) :
    SameEdge { e with capabilities } (reloadedEdge e capabilities) := by
  obtain ⟨h1, h2, h3, h4, h5⟩ := foldl_enterDevice (e.devices.entries.map Sigma.snd)
    { capabilities, inventories := refiled EdgeInventoryView.deviceId e.inventories
      simulator := refiled SimulatorState.deviceId e.simulator, events := e.events }
  unfold reloadedEdge
  refine ⟨?_, fun _ => by rw [h2], h3 ▸ (lookup_refiled hs.inventories).symm, h4 ▸ (lookup_refiled hs.simulator).symm,
    h5.symm⟩
  rw [h1]
  exact (lookup_refiled (show Filed EdgeDevice.deviceId e.devices from e.keyed)).symm

/-- Loading a saved store comes down to the walk over the capabilities, which decides only these. -/
theorem load_walked (e : EdgePlatformService) (results : List EdgeCommandResult) (walk : Walk String) :
    EdgePlatformService.load walk (e.saved results) =
      (walk (mapObject (fun l => .arr (l.map CapabilityMetadata.toJson)) e.capabilities) >>= fun visited =>
        visited.mapM EdgePlatformService.readCapabilities >>= fun capabilities =>
          .ok (reloadedEdge e (capabilities.foldl (fun m c => m.insert c.1 c.2) ∅), results)) := by
  have hdevices : (mapValues EdgeDevice.toJson e.devices).elements.mapM EdgeDevice.fromJson =
      .ok (e.devices.entries.map Sigma.snd) := by
    rw [mapValues, elements, List.mapM_map]
    exact mapM_ok fun v _ => edgeDevice_read v.2
  have hinventories := readValues_mapValues EdgeInventoryView.deviceId inventory_read
    (show (e.saved results).member "inventories" = _ from rfl)
  have hsimulator := readValues_mapValues SimulatorState.deviceId simulator_read
    (show (e.saved results).member "simulator" = _ from rfl)
  have hdevice : (e.saved results).value "devices" .ok (.arr []) = .ok (mapValues EdgeDevice.toJson e.devices) := rfl
  have hcapabilities : (e.saved results).value "capabilities" .ok (.obj []) =
      .ok (mapObject (fun l => .arr (l.map CapabilityMetadata.toJson)) e.capabilities) := rfl
  have hresults : (e.saved results).value "command_results" (getArr EdgeCommandResult.fromJson) [] = .ok results := by
    exact getArr_map result_read results
  have hevents : (e.saved results).value "events" (getArr EdgeEvent.fromJson) [] = .ok e.events := by
    exact getArr_map edgeEvent_read e.events
  rw [EdgePlatformService.saved] at *
  simp only [EdgePlatformService.load, hdevice, hdevices, hcapabilities, hinventories, hsimulator, hresults, hevents,
    ok_bind, pure_ok]
  rfl

/-- Whatever the walk visits, what is loaded is sound. -/
theorem edgeSound_load {e e' : EdgePlatformService} (hs : EdgeSound T e) {results results' : List EdgeCommandResult}
    {walk : Walk String} (h : EdgePlatformService.load walk (e.saved results) = .ok (e', results')) : EdgeSound T e' := by
  rw [load_walked] at h
  obtain ⟨visited, -, h⟩ := of_bind_ok h
  obtain ⟨capabilities, -, h⟩ := of_bind_ok h
  obtain rfl := congrArg Prod.fst (Except.ok.inj h)
  refine EdgeSound.same ?_ (sameEdge_reloaded hs _)
  exact ⟨hs.named, hs.inventories, hs.simulator, hs.stocked, hs.simulated, hs.telemetry⟩

/-- Were the capabilities walked as was meant, what was saved would be loaded, with the same entries. -/
theorem load_savedEdge {e : EdgePlatformService} (hs : EdgeSound T e) (results : List EdgeCommandResult) :
    ∃ e', EdgePlatformService.load members (e.saved results) = .ok (e', results) ∧ SameEdge e e' := by
  have hread : ((e.capabilities.entries.map fun c => (c.1, c.2)).map fun c =>
      (c.1, Json.arr (c.2.map CapabilityMetadata.toJson))).mapM EdgePlatformService.readCapabilities =
        .ok (e.capabilities.entries.map fun c => (c.1, c.2)) :=
    getObj_map (fun l => getArr_map capability_read l) _
  have hentries : SameEdge e { e with
      capabilities := (e.capabilities.entries.map fun c => (c.1, c.2)).foldl (fun m c => m.insert c.1 c.2) ∅ } :=
    ⟨fun _ => rfl, (Dict.same_foldl_insert e.capabilities).symm, fun _ => rfl, fun _ => rfl, rfl⟩
  refine ⟨_, ?_, hentries.trans (sameEdge_reloaded hs _)⟩
  rw [load_walked, mapObject, members, ok_bind, hread, ok_bind]

/-- What a file holds was written of sound entries. -/
def FileSound (T : Json String → Prop) (file : StoreFile) : Prop :=
  ∀ j, file = .holds j → ∃ e results, EdgeSound T e ∧ j = e.saved results

/-- What holds of the platform throughout a run. -/
structure Stands (T : Json String → Prop) (h : EdgeHost τ) : Prop where
  edge : EdgeSound T h.site.edge
  file : FileSound T h.file

/-- A simulation of a registered device feeds its sensors only with what meets `T`. -/
def Fed (T : Json String → Prop) (h : EdgeHost τ) : EdgeOp τ → Prop
  | .simulate deviceId action parameters _ =>
    (h.site.edge.devices.lookup deviceId).isSome = true → Feeds T action parameters
  | _ => True

@[simp] theorem saveLocked_site (h : EdgeHost τ) (saved : Saving) (reply : EdgeReply) :
    (h.saveLocked saved reply).1.site = h.site := by
  cases saved <;> rfl

@[simp] theorem saveLocked_commands (h : EdgeHost τ) (saved : Saving) (reply : EdgeReply) :
    (h.saveLocked saved reply).1.commands = h.commands := by
  cases saved <;> rfl

theorem edgeSound_registerDevice (hinit : T initialTelemetry) (hs : EdgeSound T h.site.edge) (d : EdgeDevice) :
    EdgeSound T (c.registerDevice h.site d).1.edge := by
  unfold Wiring.registerDevice
  split
  · exact hs
  · rename_i hguard
    simp only [Bool.or_eq_true, decide_eq_true_eq, not_or] at hguard
    exact hs.insertDevice hinit (d := withDefaults d) hguard.1.1

theorem edgeSound_healthLocked (hs : EdgeSound T h.site.edge) (deviceId : String) :
    SameEdge (h.healthLocked c deviceId).1.site.edge h.site.edge ∧
    (h.healthLocked c deviceId).1.commands = h.commands ∧ (h.healthLocked c deviceId).1.file = h.file := by
  unfold EdgeHost.healthLocked
  cases hdevice : h.site.edge.devices.lookup deviceId with
  | none => exact ⟨.refl _, rfl, rfl⟩
  | some d =>
    have hd : (h.site.edge.devices.lookup deviceId).isSome = true := by rw [hdevice]; rfl
    obtain ⟨hat, -⟩ := hs.simulatorAt hd
    obtain ⟨hview, -⟩ := (hs.same hat.symm).inventoryAt
      (show ((h.site.edge.simulatorAt deviceId).1.devices.lookup deviceId).isSome = true from hd)
    simp only
    split
    · exact ⟨hview.trans hat, rfl, rfl⟩
    · refine ⟨?_, rfl, rfl⟩
      unfold EdgeHost.chainHealth
      split <;> exact hview.trans hat

theorem edgeSound_step (hset : Settable T) (hinit : T initialTelemetry) (hs : EdgeSound T h.site.edge) {op : EdgeOp τ}
    (hfed : Fed T h op) (saved : Saving) : EdgeSound T (h.step c op saved).1.site.edge := by
  cases op with
  | registerDevice device =>
    have hregistered := edgeSound_registerDevice (c := c) hinit hs device
    simp only [EdgeHost.step]
    split_ifs
    · rwa [saveLocked_site]
    · exact hs
  | registerCapability deviceId capability =>
    simp only [EdgeHost.step]
    split_ifs
    · rw [saveLocked_site]
      exact hs.registerCapability deviceId capability
    · exact hs
  | devices tenantId => exact hs
  | capabilities deviceId => exact hs
  | drivers => exact hs
  | executeCommand request =>
    have hexecuted := EdgeSound.executeCommand (c := c.toWiring) (w := h.site) (k := h.commands) hs hset request
    simp only [EdgeHost.step]
    split
    · rwa [saveLocked_site]
    · exact hexecuted
  | inventory deviceId => exact hs
  | updateInventory inventory =>
    simp only [EdgeHost.step, EdgeHost.updateInventory]
    split
    · exact hs
    · have hupdated := (hs.withInventory inventory.deviceId inventory rfl).emitEventLocked
      rw [saveLocked_site]
      simp only [edgeEvidence_edge]
      exact hupdated _ _ _ _ _
  | simulate deviceId action parameters now =>
    have hsimulated := hs.simulate hfed now
    simp only [EdgeHost.step]
    split
    · split_ifs
      · rwa [saveLocked_site]
      · exact hs
    · exact hsimulated
  | health deviceId =>
    have hsame := (edgeSound_healthLocked (c := c) hs deviceId).1
    simp only [EdgeHost.step]
    split
    · rw [saveLocked_site]
      exact hs.same hsame.symm
    · exact hs.same hsame.symm
  | events tenantId => exact hs
  | outside f => exact hs

/-- A command is recorded once, whatever comes of it; what it returns is what was recorded. -/
theorem executeCommand_recorded {c : Wiring τ} (w : Site τ) (k : EdgeCommands) (request : EdgeCommandRequest) :
    ∃ result, (c.executeCommand w k request).2.1 = k.record request.deviceId result ∧
      ∀ r, (c.executeCommand w k request).2.2 = .ok r → r = result := by
  have hreject : ∀ (w : Site τ) d reason eventType, ∃ result,
      (rejectCommand w k d (k.named request) reason eventType).2.1 = k.record request.deviceId result ∧
      ∀ r, (rejectCommand w k d (k.named request) reason eventType).2.2 = .ok r → r = result :=
    fun w d reason eventType => ⟨_, rfl, fun r hr => (Except.ok.inj hr).symm⟩
  unfold Wiring.executeCommand
  simp only
  split
  · exact hreject _ _ _ _
  · split_ifs
    · exact hreject _ _ _ _
    · exact hreject _ _ _ _
    · unfold Wiring.executeAllowed
      simp only
      split_ifs
      · exact hreject _ _ _ _
      · split
        · exact hreject _ _ _ _
        · unfold Wiring.finishCommand
          simp only
          split
          · exact ⟨_, rfl, fun r hr => nomatch hr⟩
          · exact ⟨_, rfl, fun r hr => (Except.ok.inj hr).symm⟩
    · exact hreject _ _ _ _

/-- A command that names no device is rejected. -/
theorem executeCommand_unnamed {c : Wiring τ} {w : Site τ} (hs : EdgeSound T w.edge) (k : EdgeCommands)
    {request : EdgeCommandRequest} (hid : request.deviceId = "") :
    ∃ result, (c.executeCommand w k request).2.2 = .ok result := by
  have hnone : w.edge.devices.lookup (k.named request).deviceId = none := by
    rw [show (k.named request).deviceId = "" from hid]
    exact hs.named
  unfold Wiring.executeCommand
  simp only [hnone]
  exact ⟨_, rfl⟩

/-- A request writes the store, or leaves what it holds up to date; only a command that is broken off does neither. -/
theorem step_writes (hs : EdgeSound T h.site.edge) (op : EdgeOp τ) :
    (h.step c op .done).1.file = .holds ((h.step c op .done).1.site.edge.saved (h.step c op .done).1.commands.results) ∨
    ((h.step c op .done).1.file = h.file ∧ ((∀ request, op = .executeCommand request → request.deviceId = "") →
      SameEdge h.site.edge (h.step c op .done).1.site.edge ∧ (h.step c op .done).1.commands.results = h.commands.results)) := by
  have hstay : h.file = h.file ∧ ((∀ request, op = .executeCommand request → request.deviceId = "") →
      SameEdge h.site.edge h.site.edge ∧ h.commands.results = h.commands.results) := ⟨rfl, fun _ => ⟨.refl _, rfl⟩⟩
  cases op with
  | registerDevice device =>
    simp only [EdgeHost.step]
    split_ifs
    · exact Or.inl rfl
    · exact Or.inr ⟨rfl, fun _ => ⟨.refl _, rfl⟩⟩
  | registerCapability deviceId capability =>
    simp only [EdgeHost.step]
    split_ifs
    · exact Or.inl rfl
    · exact Or.inr ⟨rfl, fun _ => ⟨.refl _, rfl⟩⟩
  | devices tenantId => exact Or.inr hstay
  | capabilities deviceId => exact Or.inr hstay
  | drivers => exact Or.inr hstay
  | executeCommand request =>
    simp only [EdgeHost.step]
    split
    · exact Or.inl rfl
    · rename_i x hthrown
      refine Or.inr ⟨rfl, fun hunnamed => ?_⟩
      obtain ⟨result, hresult⟩ := executeCommand_unnamed (c := c.toWiring) hs h.commands (hunnamed request rfl)
      rw [hthrown] at hresult
      cases hresult
  | inventory deviceId => exact Or.inr hstay
  | updateInventory inventory =>
    simp only [EdgeHost.step, EdgeHost.updateInventory]
    split
    · exact Or.inr ⟨rfl, fun _ => ⟨.refl _, rfl⟩⟩
    · exact Or.inl rfl
  | simulate deviceId action parameters now =>
    simp only [EdgeHost.step]
    split
    · split_ifs
      · exact Or.inl rfl
      · exact Or.inr ⟨rfl, fun _ => ⟨.refl _, rfl⟩⟩
    · rename_i x hthrown
      exact Or.inr ⟨rfl, fun _ => ⟨(simulate_thrown hs hthrown).symm, rfl⟩⟩
  | health deviceId =>
    obtain ⟨hsame, hcommands, hfile⟩ := edgeSound_healthLocked (c := c) hs deviceId
    simp only [EdgeHost.step]
    split
    · exact Or.inl rfl
    · exact Or.inr ⟨hfile, fun _ => ⟨hsame.symm, by rw [hcommands]⟩⟩
  | events tenantId => exact Or.inr hstay
  | outside f => exact Or.inr hstay

theorem stands_start (plane : FleetControl.FleetControlPlane) (trust : τ) : Stands T (EdgeHost.start plane trust) :=
  ⟨edgeSound_empty, nofun⟩

theorem Stands.step (hset : Settable T) (hinit : T initialTelemetry) (hs : Stands T h) {op : EdgeOp τ} (hfed : Fed T h op) :
    Stands T (h.step c op .done).1 := by
  have hedge := edgeSound_step (c := c) hset hinit hs.edge hfed .done
  refine ⟨hedge, ?_⟩
  rcases step_writes (c := c) hs.edge op with hwritten | ⟨hkept, -⟩
  · rw [hwritten]
    exact fun j hj => ⟨_, _, hedge, (StoreFile.holds.inj hj).symm⟩
  · rw [hkept]
    exact hs.file

theorem Stands.restart (hs : Stands T h) {walk : Walk String} {h' : EdgeHost τ} (hrestart : h.restart walk = some h') :
    Stands T h' := by
  unfold EdgeHost.restart at hrestart
  split at hrestart
  · rename_i hfile
    obtain rfl := Option.some.inj hrestart
    exact ⟨edgeSound_empty, hs.file⟩
  · cases hrestart
  · rename_i j hfile
    obtain ⟨e, results, he, rfl⟩ := hs.file j hfile
    split at hrestart
    · rename_i e' results' hload
      obtain rfl := Option.some.inj hrestart
      exact ⟨edgeSound_load he hload, hs.file⟩
    · cases hrestart

end

/-- A platform that works alone. -/
def aloneWiring : EdgeWiring Unit where
  digest := ⟨sha256Hex, Json.dump fun _ => ""⟩
  verifyChain := fun w _ => (w, {})

/-- A cash drawer of which nothing more is known. -/
def plainDevice (deviceId : String) : EdgeDevice := ⟨deviceId, "tenant", "", "", "", "cash_drawer", "", "", [], []⟩

end Drawer.FleetOps
