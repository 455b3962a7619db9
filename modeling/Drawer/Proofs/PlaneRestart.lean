import Drawer.Proofs.Delivery

/-! A control plane that is restarted, and one that is not. The first mirrors the second: it
holds the same in tables of another order, and so does what is in its store. An operation looks
up or adds records, which the order is nothing to, so both answer alike. -/

namespace Drawer.FleetControl
open FleetControlPlane Transition
open FleetOps (Filed filed_empty lookup_refiled)

variable {p p' q : FleetControlPlane}

theorem SamePlane.symm (h : SamePlane p p') : SamePlane p' p :=
  ⟨h.organizations.symm, h.regions.symm, h.merchants.symm, h.branches.symm, h.devices.symm, h.commands.symm,
    fun id => (h.acknowledged id).symm, h.alerts.symm, h.events.symm, h.heartbeatLatencySum.symm,
    h.heartbeatCount.symm⟩

theorem SamePlane.trans (h : SamePlane p p') (h' : SamePlane p' q) : SamePlane p q :=
  ⟨h.organizations.trans h'.organizations, h.regions.trans h'.regions, h.merchants.trans h'.merchants,
    h.branches.trans h'.branches, h.devices.trans h'.devices, h.commands.trans h'.commands,
    fun id => (h.acknowledged id).trans (h'.acknowledged id), h.alerts.trans h'.alerts, h.events.trans h'.events,
    h.heartbeatLatencySum.trans h'.heartbeatLatencySum, h.heartbeatCount.trans h'.heartbeatCount⟩

/-- Records stand under their own ids, commands have been numbered, and those are known as acknowledged that are. -/
structure WellFiled (p : FleetControlPlane) : Prop where
  organizations : Filed Organization.organizationId p.organizations
  regions : Filed Region.regionId p.regions
  merchants : Filed Merchant.merchantId p.merchants
  branches : Filed Branch.branchId p.branches
  devices : Filed DeviceRegistryRecord.deviceId p.devices
  commands : Filed RemoteCommand.commandId p.commands
  numbered : Dict.Numbered (idFor "cmd") p.commands
  known : ∀ id, id ∈ p.acknowledgedCommands ↔ ∃ c, p.commands.lookup id = some c ∧ c.status = "acknowledged"

theorem SamePlane.eventLocked (h : SamePlane p p') (organizationId deviceId type : String) (now : Int)
    (metadata : Json String) : SamePlane (p.eventLocked organizationId deviceId type now metadata)
      (p'.eventLocked organizationId deviceId type now metadata) where
  organizations := h.organizations
  regions := h.regions
  merchants := h.merchants
  branches := h.branches
  devices := h.devices
  commands := h.commands
  acknowledged := h.acknowledged
  alerts := h.alerts
  events := by
    unfold FleetControlPlane.eventLocked
    dsimp only
    rw [h.events]
  heartbeatLatencySum := h.heartbeatLatencySum
  heartbeatCount := h.heartbeatCount

theorem WellFiled.eventLocked (h : WellFiled p) (organizationId deviceId type : String) (now : Int)
    (metadata : Json String) : WellFiled (p.eventLocked organizationId deviceId type now metadata) :=
  ⟨h.organizations, h.regions, h.merchants, h.branches, h.devices, h.commands, h.numbered, h.known⟩

/-- One plane mirrors another, and is well filed. -/
structure Mirrors (p q : FleetControlPlane) : Prop where
  same : SamePlane p q
  sound : WellFiled p

theorem Mirrors.eventLocked (h : Mirrors p q) (organizationId deviceId type : String) (now : Int)
    (metadata : Json String) : Mirrors (p.eventLocked organizationId deviceId type now metadata)
      (q.eventLocked organizationId deviceId type now metadata) :=
  ⟨h.same.eventLocked _ _ _ _ _, h.sound.eventLocked _ _ _ _ _⟩

theorem Mirrors.upsertOrganization (h : Mirrors p q) (v : Organization) :
    Mirrors (p.upsertOrganization v) (q.upsertOrganization v) :=
  ⟨{ h.same with organizations := h.same.organizations.insert _ _ },
    { h.sound with organizations := h.sound.organizations.insert rfl }⟩

theorem Mirrors.upsertRegion (h : Mirrors p q) (v : Region) : Mirrors (p.upsertRegion v) (q.upsertRegion v) :=
  ⟨{ h.same with regions := h.same.regions.insert _ _ },
    { h.sound with regions := h.sound.regions.insert rfl }⟩

theorem Mirrors.upsertMerchant (h : Mirrors p q) (v : Merchant) : Mirrors (p.upsertMerchant v) (q.upsertMerchant v) :=
  ⟨{ h.same with merchants := h.same.merchants.insert _ _ },
    { h.sound with merchants := h.sound.merchants.insert rfl }⟩

theorem Mirrors.upsertBranch (h : Mirrors p q) (v : Branch) : Mirrors (p.upsertBranch v) (q.upsertBranch v) :=
  ⟨{ h.same with branches := h.same.branches.insert _ _ },
    { h.sound with branches := h.sound.branches.insert rfl }⟩

theorem Mirrors.registerDevice (h : Mirrors p q) (v : DeviceRegistryRecord) :
    Mirrors (p.registerDevice v).1 (q.registerDevice v).1 ∧ (p.registerDevice v).2 = (q.registerDevice v).2 := by
  unfold FleetControlPlane.registerDevice
  split_ifs
  · exact ⟨h, rfl⟩
  · have hentered : Mirrors { p with devices := p.devices.insert v.deviceId v }
        { q with devices := q.devices.insert v.deviceId v } :=
      ⟨{ h.same with devices := h.same.devices.insert _ _ }, { h.sound with devices := h.sound.devices.insert rfl }⟩
    exact ⟨hentered.eventLocked _ _ _ _ _, rfl⟩

theorem Mirrors.receiveHeartbeat (h : Mirrors p q) (hb : HeartbeatMessage) :
    Mirrors (p.receiveHeartbeat hb).1 (q.receiveHeartbeat hb).1 ∧
      (p.receiveHeartbeat hb).2 = (q.receiveHeartbeat hb).2 := by
  unfold FleetControlPlane.receiveHeartbeat
  rw [h.same.devices hb.deviceId]
  cases hd : q.devices.lookup hb.deviceId with
  | none => exact ⟨h, rfl⟩
  | some d =>
    dsimp only
    have hbeat : Mirrors
        { p with
          devices := p.devices.insert hb.deviceId
            { d with connectivityStatus := "online", lastHeartbeatAt := epochString hb.receivedAtEpoch
                     lastSeenAt := epochString hb.receivedAtEpoch }
          heartbeatLatencySum := p.heartbeatLatencySum + hb.latencyMs
          heartbeatCount := p.heartbeatCount + 1 }
        { q with
          devices := q.devices.insert hb.deviceId
            { d with connectivityStatus := "online", lastHeartbeatAt := epochString hb.receivedAtEpoch
                     lastSeenAt := epochString hb.receivedAtEpoch }
          heartbeatLatencySum := q.heartbeatLatencySum + hb.latencyMs
          heartbeatCount := q.heartbeatCount + 1 } := by
      refine ⟨{ h.same with devices := h.same.devices.insert _ _, heartbeatLatencySum := ?_, heartbeatCount := ?_ },
        { h.sound with devices := h.sound.devices.insert ?_ }⟩
      · rw [h.same.heartbeatLatencySum]
      · rw [h.same.heartbeatCount]
      · exact h.sound.devices _ d ((h.same.devices _).trans hd)
    split_ifs
    · exact ⟨hbeat.eventLocked _ _ _ _ _, rfl⟩
    · exact ⟨(hbeat.eventLocked _ _ _ _ _).eventLocked _ _ _ _ _, rfl⟩

/-- A command is entered that is new, and not acknowledged. -/
theorem Mirrors.enterCommand (h : Mirrors p q) {c : RemoteCommand}
    (hid : c.commandId = idFor "cmd" p.commands.entries.length) (hstatus : c.status ≠ "acknowledged") :
    Mirrors { p with commands := p.commands.insert c.commandId c }
      { q with commands := q.commands.insert c.commandId c } := by
  have hfree := h.sound.numbered.fresh
  refine ⟨{ h.same with commands := h.same.commands.insert _ _ },
    { h.sound with commands := h.sound.commands.insert rfl, numbered := ?_, known := fun id => ?_ }⟩
  · rw [hid]
    exact h.sound.numbered.insert hfree (fun n hn => (idFor_injective "cmd" hn).ge) c
  · rw [h.sound.known id, Dict.lookup_insert_if]
    split_ifs with hsame
    · rw [hsame, hid, hfree]
      refine iff_of_false ?_ ?_
      · rintro ⟨_, hnone, -⟩
        cases hnone
      · rintro ⟨_, hsome, hack⟩
        exact hstatus (Option.some.inj hsome ▸ hack)
    · exact Iff.rfl

theorem Mirrors.createCommand (h : Mirrors p q) (organizationId deviceId type : String) (now ttlSeconds : Int)
    (maxRetries : Int32) :
    Mirrors (p.createCommand organizationId deviceId type now ttlSeconds maxRetries).1
        (q.createCommand organizationId deviceId type now ttlSeconds maxRetries).1 ∧
      (p.createCommand organizationId deviceId type now ttlSeconds maxRetries).2 =
        (q.createCommand organizationId deviceId type now ttlSeconds maxRetries).2 := by
  have hlength : q.commands.entries.length = p.commands.entries.length :=
    Dict.length_congr fun id => by rw [h.same.commands id]
  unfold FleetControlPlane.createCommand
  dsimp only
  rw [hlength, h.same.devices deviceId]
  split_ifs
  · have hfailed : "failed" ≠ "acknowledged" := by decide
    exact ⟨(h.enterCommand rfl hfailed).eventLocked _ _ _ _ _, rfl⟩
  · have hpending : "pending" ≠ "acknowledged" := by decide
    exact ⟨(h.enterCommand rfl hpending).eventLocked _ _ _ _ _, rfl⟩

/-- A command is acknowledged, and then known to be. -/
theorem Mirrors.knowCommand (h : Mirrors p q) {commandId : String} {cmd : RemoteCommand}
    (hcmd : p.commands.lookup commandId = some cmd) (cmd' : RemoteCommand) (hid : cmd'.commandId = cmd.commandId)
    (hstatus : cmd'.status = "acknowledged") :
    Mirrors
      { p with
        commands := p.commands.insert commandId cmd', acknowledgedCommands := p.acknowledgedCommands ++ [commandId] }
      { q with
        commands := q.commands.insert commandId cmd', acknowledgedCommands := q.acknowledgedCommands ++ [commandId] } := by
  have hfiled : cmd'.commandId = commandId := hid.trans (h.sound.commands _ _ hcmd)
  refine ⟨{ h.same with commands := h.same.commands.insert _ _, acknowledged := fun id => ?_ },
    { h.sound with commands := h.sound.commands.insert hfiled, numbered := ?_, known := fun id => ?_ }⟩
  · rw [List.mem_append, List.mem_append, h.same.acknowledged id]
  · have hkeys : ∀ id, ((p.commands.insert commandId cmd').lookup id).isSome = (p.commands.lookup id).isSome := by
      intro id
      rw [Dict.lookup_insert_if]
      split_ifs with hsame
      · rw [hsame, hcmd]
        rfl
      · rfl
    exact h.sound.numbered.congr hkeys
  · rw [List.mem_append, List.mem_singleton, h.sound.known id, Dict.lookup_insert_if]
    split_ifs with hsame
    · exact iff_of_true (Or.inr hsame) ⟨_, rfl, hstatus⟩
    · exact or_iff_left hsame

theorem Mirrors.acknowledgeCommand (h : Mirrors p q) (deviceId commandId : String) (now : Int) :
    Mirrors (p.acknowledgeCommand deviceId commandId now).1 (q.acknowledgeCommand deviceId commandId now).1 ∧
      (p.acknowledgeCommand deviceId commandId now).2 = (q.acknowledgeCommand deviceId commandId now).2 := by
  unfold FleetControlPlane.acknowledgeCommand
  rw [h.same.commands commandId]
  cases hc : q.commands.lookup commandId with
  | none => exact ⟨h, rfl⟩
  | some cmd =>
    have hcmd : p.commands.lookup commandId = some cmd := (h.same.commands commandId).trans hc
    simp only [h.same.acknowledged commandId]
    split_ifs
    · exact ⟨h, rfl⟩
    · exact ⟨h, rfl⟩
    · have hknown := h.knowCommand hcmd { cmd with status := "acknowledged", acknowledgedAt := epochString now } rfl rfl
      exact ⟨hknown.eventLocked _ _ _ _ _, rfl⟩

theorem Mirrors.setAlerts (h : Mirrors p q) (alerts : List FleetAlert) : Mirrors { p with alerts } { q with alerts } :=
  ⟨{ h.same with alerts := rfl }, ⟨h.sound.organizations, h.sound.regions, h.sound.merchants, h.sound.branches,
    h.sound.devices, h.sound.commands, h.sound.numbered, h.sound.known⟩⟩

theorem Mirrors.createAlert (h : Mirrors p q) (organizationId deviceId type severity message : String) (now : Int) :
    Mirrors (p.createAlert organizationId deviceId type severity message now).1
      (q.createAlert organizationId deviceId type severity message now).1 := by
  unfold FleetControlPlane.createAlert
  dsimp only
  rw [h.same.alerts]
  exact (h.setAlerts _).eventLocked _ _ _ _ _

theorem Mirrors.acknowledgeAlert (h : Mirrors p q) (organizationId alertId : String) (now : Int) :
    Mirrors (p.acknowledgeAlert organizationId alertId now).1 (q.acknowledgeAlert organizationId alertId now).1 ∧
      (p.acknowledgeAlert organizationId alertId now).2 = (q.acknowledgeAlert organizationId alertId now).2 := by
  unfold FleetControlPlane.acknowledgeAlert
  rw [h.same.alerts]
  cases q.alerts.findIdx? (alertOpen organizationId alertId) with
  | none => exact ⟨h, rfl⟩
  | some i => exact ⟨(h.setAlerts _).eventLocked _ _ _ _ _, rfl⟩

/-! ### Requests -/

theorem Mirrors.postRecord {α : Type} {read : Json String → Except Exn α} {owner : α → String}
    {store : FleetControlPlane → α → FleetControlPlane} {reply reply' : α → Json String} (h : Mirrors p q)
    (hstore : ∀ v, Mirrors (store p v) (store q v)) (hreply : ∀ v, reply v = reply' v) (req : Request) :
    Mirrors (postRecord read owner store reply p req).1 (postRecord read owner store reply' q req).1 ∧
      (postRecord read owner store reply p req).2 = (postRecord read owner store reply' q req).2 := by
  unfold FleetControl.postRecord
  cases req.body >>= read with
  | error e => exact ⟨h, rfl⟩
  | ok v =>
    dsimp only
    split_ifs
    · exact ⟨hstore v, by rw [hreply v]⟩
    · exact ⟨h, rfl⟩

theorem Mirrors.postHeartbeat (h : Mirrors p q) (req : Request) (deviceId : String) :
    Mirrors (postHeartbeat p req deviceId).1 (postHeartbeat q req deviceId).1 ∧
      (postHeartbeat p req deviceId).2 = (postHeartbeat q req deviceId).2 := by
  unfold FleetControl.postHeartbeat FleetControlPlane.device
  cases req.body >>= HeartbeatMessage.fromJson with
  | error e => exact ⟨h, rfl⟩
  | ok hb =>
    dsimp only
    rw [h.same.devices deviceId]
    cases q.devices.lookup deviceId with
    | none => exact ⟨h, rfl⟩
    | some d =>
      dsimp only
      split_ifs
      · obtain ⟨hmirrors, hok⟩ := h.receiveHeartbeat { hb with deviceId }
        exact ⟨hmirrors, by rw [hok]⟩
      · exact ⟨h, rfl⟩

theorem Mirrors.postCommand (h : Mirrors p q) (req : Request) (deviceId : String) :
    Mirrors (postCommand p req deviceId).1 (postCommand q req deviceId).1 ∧
      (postCommand p req deviceId).2 = (postCommand q req deviceId).2 := by
  unfold FleetControl.postCommand FleetControlPlane.device
  cases req.body with
  | error e => exact ⟨h, rfl⟩
  | ok j =>
    dsimp only
    rw [h.same.devices deviceId]
    cases q.devices.lookup deviceId with
    | none => exact ⟨h, rfl⟩
    | some d =>
      dsimp only
      split_ifs
      · cases readCommand j with
        | error e => exact ⟨h, rfl⟩
        | ok r =>
          obtain ⟨hmirrors, hcmd⟩ := h.createCommand d.organizationId deviceId r.1 r.2.1 r.2.2.1 r.2.2.2
          exact ⟨hmirrors, by dsimp only; rw [hcmd]⟩
      · exact ⟨h, rfl⟩

theorem Mirrors.ackCommand (h : Mirrors p q) (req : Request) (commandId : String) :
    Mirrors (ackCommand p req commandId).1 (ackCommand q req commandId).1 ∧
      (ackCommand p req commandId).2 = (ackCommand q req commandId).2 := by
  unfold FleetControl.ackCommand
  cases req.body >>= readAck with
  | error e => exact ⟨h, rfl⟩
  | ok r =>
    obtain ⟨hmirrors, hok⟩ := h.acknowledgeCommand r.1 commandId r.2
    exact ⟨hmirrors, by dsimp only; rw [hok]⟩

theorem Mirrors.ackAlert (h : Mirrors p q) (req : Request) (alertId : String) :
    Mirrors (ackAlert p req alertId).1 (ackAlert q req alertId).1 ∧
      (ackAlert p req alertId).2 = (ackAlert q req alertId).2 := by
  unfold FleetControl.ackAlert
  obtain ⟨hmirrors, hok⟩ := h.acknowledgeAlert (tenantOrg req) alertId 0
  exact ⟨hmirrors, by dsimp only; rw [hok]⟩

theorem Mirrors.handle (h : Mirrors p q) (req : Request) :
    Mirrors (handle p req).1 (handle q req).1 ∧ (handle p req).2 = (handle q req).2 := by
  unfold FleetControl.handle
  split_ifs
  · exact ⟨h, rfl⟩
  · cases req.route with
    | postOrganization => exact h.postRecord h.upsertOrganization (fun _ => rfl) req
    | postMerchant => exact h.postRecord h.upsertMerchant (fun _ => rfl) req
    | postBranch => exact h.postRecord h.upsertBranch (fun _ => rfl) req
    | postRegion => exact h.postRecord h.upsertRegion (fun _ => rfl) req
    | postDevice => exact h.postRecord (fun v => (h.registerDevice v).1) (fun v => by rw [(h.registerDevice v).2]) req
    | postHeartbeat deviceId => exact h.postHeartbeat req deviceId
    | postCommand deviceId => exact h.postCommand req deviceId
    | ackCommand commandId => exact h.ackCommand req commandId
    | ackAlert alertId => exact h.ackAlert req alertId
    | get => exact ⟨h, rfl⟩

/-! ### Restarts -/

theorem WellFiled.loadedFrom (h : WellFiled p) (hr : LoadedFrom p p') : Mirrors p' p := by
  have horganizations : Dict.Same p'.organizations p.organizations := hr.organizations ▸ lookup_refiled h.organizations
  have hregions : Dict.Same p'.regions p.regions := hr.regions ▸ lookup_refiled h.regions
  have hmerchants : Dict.Same p'.merchants p.merchants := hr.merchants ▸ lookup_refiled h.merchants
  have hbranches : Dict.Same p'.branches p.branches := hr.branches ▸ lookup_refiled h.branches
  have hdevices : Dict.Same p'.devices p.devices := hr.devices ▸ lookup_refiled h.devices
  have hcommands : Dict.Same p'.commands p.commands := hr.commands ▸ lookup_refiled h.commands
  have hknown : ∀ id, id ∈ p'.acknowledgedCommands ↔
      ∃ c, p.commands.lookup id = some c ∧ c.status = "acknowledged" := fun id => by
    rw [hr.acknowledged, mem_acknowledgedOf h.commands]
  constructor
  · exact ⟨horganizations, hregions, hmerchants, hbranches, hdevices, hcommands,
      fun id => (hknown id).trans (h.known id).symm, hr.alerts, hr.events, hr.heartbeatLatencySum, hr.heartbeatCount⟩
  · refine ⟨h.organizations.congr horganizations, h.regions.congr hregions, h.merchants.congr hmerchants,
      h.branches.congr hbranches, h.devices.congr hdevices, h.commands.congr hcommands, ?_, fun id => ?_⟩
    · exact h.numbered.congr fun id => by rw [hcommands id]
    · rw [hknown id, hcommands id]

/-- What a server holds, and what is in its store, is what one holds that is never restarted. -/
structure Carried (s : ControlServer) (q : FleetControlPlane) : Prop where
  plane : Mirrors s.plane q
  file : s.file = none ∧ Mirrors {} q ∨ ∃ p, s.file = some p.dumped ∧ Mirrors p q

theorem dumped_of_finite (h : p.FiniteSum) : p.dumped = p.saved := by
  simp only [dumped, saved, h, not_true_eq_false, and_false, if_false, List.map_id']

theorem Mirrors.of_same (h : Mirrors p q) {r : FleetControlPlane} (hsame : SamePlane q r) : Mirrors p r :=
  ⟨h.same.trans hsame, h.sound⟩

theorem Carried.becomes {s s' : ControlServer} (h : Carried s q) {q' : FleetControlPlane} (hp : Mirrors p' q')
    (hs : s.Becomes p' s') : Carried s' q' := by
  rcases hs with rfl | ⟨rfl, rfl⟩
  · exact ⟨hp, Or.inr ⟨p', rfl, hp⟩⟩
  · have hq : SamePlane q q' := h.plane.same.symm.trans hp.same
    refine ⟨hp, h.file.imp (And.imp_right fun hnone => hnone.of_same hq) ?_⟩
    rintro ⟨p, hfile, hmirrors⟩
    exact ⟨p, hfile, hmirrors.of_same hq⟩

theorem Carried.loaded {s : ControlServer} (h : Carried s q) (hfinite : q.FiniteSum) :
    ∃ plane, s.loaded = .ok plane ∧ Mirrors plane q := by
  unfold ControlServer.loaded
  rcases h.file with ⟨hnone, hempty⟩ | ⟨p, hsome, hmirrors⟩
  · rw [hnone]
    exact ⟨_, rfl, hempty⟩
  · obtain ⟨p', hload, hloaded⟩ := loadedFrom_saved p
    have hfinite' : p.FiniteSum := by
      unfold FiniteSum
      rwa [hmirrors.same.heartbeatLatencySum]
    rw [hsome, dumped_of_finite hfinite']
    exact ⟨p', hload, (hmirrors.sound.loadedFrom hloaded).of_same hmirrors.same⟩

/-- One step. A restart leaves what is held to the store. -/
theorem Carried.step {s s' : ControlServer} {r : FleetControlPlane × List Response} (h : Carried s r.1)
    (hfinite : r.1.FiniteSum) {e : ServerEvent} (hstep : ControlServer.Step s e s') :
    Carried s' (ControlServer.uninterrupted r e).1 ∧
      (ControlServer.uninterrupted r e).2 = r.2 ++ ControlServer.answers [e] := by
  cases e with
  | request req answer =>
    obtain ⟨hanswer, hbecomes⟩ := hstep
    obtain ⟨hmirrors, hsame⟩ := h.plane.handle req
    refine ⟨h.becomes hmirrors hbecomes, ?_⟩
    rw [ControlServer.uninterrupted, ← hsame, hanswer]
    rfl
  | register device => exact ⟨h.becomes (h.plane.registerDevice device).1 hstep, (List.append_nil _).symm⟩
  | alert organizationId deviceId type severity message now =>
    exact ⟨h.becomes (h.plane.createAlert _ _ _ _ _ _) hstep, (List.append_nil _).symm⟩
  | restart =>
    obtain ⟨plane, hload, rfl⟩ := hstep
    obtain ⟨plane', hload', hmirrors⟩ := h.loaded hfinite
    obtain rfl : plane = plane' := by
      rw [hload] at hload'
      exact Except.ok.inj hload'
    exact ⟨⟨hmirrors, h.file⟩, (List.append_nil _).symm⟩

end Drawer.FleetControl
