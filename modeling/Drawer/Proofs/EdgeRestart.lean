import Drawer.Lib.Transition
import Drawer.Sanity.EdgeRuns

/-! Restarts of the edge platform. Reading the store ends in a walk over a value that is
gone, so a restart is sure to go unnoticed only as long as nothing was saved. Were
the walk as it was meant, one thing would be lost: the counters of commands and of
their failures are not in the store, and show in the command failure rate of a
device. -/

namespace Drawer.FleetOps
open Json

/-! ### Runs -/

/-- A command that names a device. -/
def EdgeTurn.commands {τ : Type} : EdgeTurn τ → Bool
  | .request (.executeCommand r) _ => r.deviceId ≠ ""
  | _ => false

def commanded {τ : Type} (turns : List (EdgeTurn τ)) : Bool :=
  turns.foldl (fun b t => match t with | .restart => false | t => b || t.commands) false

/-- A restart of the process goes unnoticed: there is a new one, and it answers whatever is requested as the old one. -/
def Transparent {τ : Type} (c : EdgeWiring τ) (walk : Walk String) (process : Option (EdgeHost τ)) : Prop :=
  ∀ h, process = some h → ∃ h', h.restart walk = some h' ∧ ∀ ops, h'.replies c ops = h.replies c ops

section

variable {τ : Type} {c : EdgeWiring τ} {h h' : EdgeHost τ}

abbrev anything : Json String → Prop := fun _ => True

theorem fed_anything (h : EdgeHost τ) (op : EdgeOp τ) : Fed anything h op := by
  cases op <;> simp [Fed, Feeds]

theorem settable_anything : Settable anything := fun _ _ _ _ _ => trivial

theorem Like.replies (hlike : Like h h') (hs : EdgeSound anything h.site.edge) (ops : List (EdgeOp τ)) :
    h.replies c ops = h'.replies c ops := by
  induction ops generalizing h h' with
  | nil => rfl
  | cons op ops ih =>
    obtain ⟨hnext, hanswer⟩ := hlike.step (c := c) hs.named op .done
    have hsound := edgeSound_step (c := c) settable_anything trivial hs (fed_anything h op) .done
    rw [EdgeHost.replies, EdgeHost.replies, hanswer, ih hnext hsound]

/-! ### The store -/

/-- The store has the entries and the results of the platform. -/
def OnFile (h : EdgeHost τ) : Prop :=
  match h.file with
  | .missing => SameEdge {} h.site.edge ∧ h.commands.results = []
  | .emptied => False
  | .holds j => ∃ e, EdgeSound anything e ∧ SameEdge e h.site.edge ∧ j = e.saved h.commands.results

/-- No command was counted for any device. -/
def Uncounted (k : EdgeCommands) : Prop :=
  ∀ d, d ≠ "" → (k.count.lookup d).getD 0 = 0 ∧ (k.failures.lookup d).getD 0 = 0

/-- A command was counted for some device. -/
def SomeCounted (k : EdgeCommands) : Prop := ∃ d, d ≠ "" ∧ 0 < (k.count.lookup d).getD 0

theorem SomeCounted.record {k : EdgeCommands} (hk : SomeCounted k) (deviceId : String) (result : EdgeCommandResult) :
    SomeCounted (k.record deviceId result) := by
  obtain ⟨d, hd, hcount⟩ := hk
  refine ⟨d, hd, ?_⟩
  simp only [EdgeCommands.record, Dict.lookup_insert_if]
  split_ifs with hid
  · simp
  · exact hcount

theorem someCounted_record {deviceId : String} (hid : deviceId ≠ "") (k : EdgeCommands) (result : EdgeCommandResult) :
    SomeCounted (k.record deviceId result) := by
  refine ⟨deviceId, hid, ?_⟩
  simp [EdgeCommands.record]

theorem Uncounted.record {k : EdgeCommands} (hk : Uncounted k) (result : EdgeCommandResult) :
    Uncounted (k.record "" result) := by
  intro d hd
  refine ⟨?_, ?_⟩
  · simp only [EdgeCommands.record, Dict.lookup_insert_if, if_neg hd]
    exact (hk d hd).1
  · simp only [EdgeCommands.record]
    split_ifs
    · exact (hk d hd).2
    · rw [Dict.lookup_insert_if, if_neg hd]
      exact (hk d hd).2

/-- Only a command changes what the platform keeps of commands: it is recorded. -/
theorem step_commands (hs : EdgeSound anything h.site.edge) (op : EdgeOp τ) :
    (∃ request result, op = .executeCommand request ∧ (h.step c op .done).1.commands = h.commands.record request.deviceId result) ∨
    ((∀ request, op ≠ .executeCommand request) ∧ (h.step c op .done).1.commands = h.commands) := by
  cases op with
  | registerDevice device =>
    refine Or.inr ⟨by simp, ?_⟩
    simp only [EdgeHost.step]
    split_ifs
    · rw [saveLocked_commands]
    · rfl
  | registerCapability deviceId capability =>
    refine Or.inr ⟨by simp, ?_⟩
    simp only [EdgeHost.step]
    split_ifs
    · rw [saveLocked_commands]
      rfl
    · rfl
  | executeCommand request =>
    obtain ⟨result, hrecord, -⟩ := executeCommand_recorded (c := c.toWiring) h.site h.commands request
    refine Or.inl ⟨request, result, rfl, ?_⟩
    simp only [EdgeHost.step]
    split <;> exact hrecord
  | updateInventory inventory =>
    refine Or.inr ⟨by simp, ?_⟩
    simp only [EdgeHost.step, EdgeHost.updateInventory]
    split <;> rfl
  | simulate deviceId action parameters now =>
    refine Or.inr ⟨by simp, ?_⟩
    simp only [EdgeHost.step]
    split
    · split_ifs <;> rfl
    · rfl
  | health deviceId =>
    obtain ⟨-, hcommands, -⟩ := edgeSound_healthLocked (c := c) hs deviceId
    refine Or.inr ⟨by simp, ?_⟩
    simp only [EdgeHost.step]
    split <;> exact hcommands
  | devices tenantId => exact Or.inr ⟨by simp, rfl⟩
  | capabilities deviceId => exact Or.inr ⟨by simp, rfl⟩
  | drivers => exact Or.inr ⟨by simp, rfl⟩
  | inventory deviceId => exact Or.inr ⟨by simp, rfl⟩
  | events tenantId => exact Or.inr ⟨by simp, rfl⟩
  | outside f => exact Or.inr ⟨by simp, rfl⟩

/-- What a run keeps whose saves all come out: sound entries and files; the store is up to date while no command was
counted. -/
structure Recoverable (h : EdgeHost τ) (b : Bool) : Prop where
  stands : Stands anything h
  there : h.file ≠ .emptied
  counted : b = true → SomeCounted h.commands
  current : b = false → OnFile h ∧ Uncounted h.commands

/-- With the walk as it was meant a sound store can be read. -/
theorem restart_members (hs : FileSound anything h.file) (hfile : h.file ≠ .emptied) :
    ∃ h', h.restart members = some h' ∧ OnFile h' ∧ h'.file = h.file ∧ ∃ results, h'.commands = { results } := by
  unfold EdgeHost.restart
  split
  · rename_i hmissing
    refine ⟨_, rfl, ?_, rfl, [], rfl⟩
    simp only [OnFile, hmissing]
    exact ⟨.refl _, trivial⟩
  · rename_i hemptied
    exact absurd hemptied hfile
  · rename_i j hj
    obtain ⟨e, results, he, rfl⟩ := hs j hj
    obtain ⟨e', hload, hsame⟩ := load_savedEdge he results
    simp only [hload]
    refine ⟨_, rfl, ?_, rfl, results, rfl⟩
    simp only [OnFile, hj]
    exact ⟨e, he, hsame, rfl⟩

theorem uncounted_results (results : List EdgeCommandResult) : Uncounted { results } := fun _ _ => ⟨rfl, rfl⟩

theorem recoverable_restart {b : Bool} (hr : Recoverable h b) : ∃ h', h.restart members = some h' ∧ Recoverable h' false := by
  obtain ⟨h', hrestart, honfile, hkept, results, hcommands⟩ := restart_members hr.stands.file hr.there
  refine ⟨h', hrestart, hr.stands.restart hrestart, hkept ▸ hr.there, nofun, fun _ => ⟨honfile, ?_⟩⟩
  rw [hcommands]
  exact uncounted_results results

theorem stands_step (hs : Stands anything h) (op : EdgeOp τ) : Stands anything (h.step c op .done).1 :=
  hs.step settable_anything trivial (fed_anything h op)

theorem onFile_step (hs : Stands anything h) (hcurrent : OnFile h) {op : EdgeOp τ}
    (hunnamed : ∀ request, op = .executeCommand request → request.deviceId = "") : OnFile (h.step c op .done).1 := by
  have hedge := (stands_step (c := c) hs op).edge
  rcases step_writes (c := c) hs.edge op with hwritten | ⟨hkept, hsame⟩
  · simp only [OnFile, hwritten]
    exact ⟨_, hedge, .refl _, rfl⟩
  · obtain ⟨hentries, hresults⟩ := hsame hunnamed
    unfold OnFile at hcurrent ⊢
    rw [hkept, hresults]
    split
    · rename_i hfile
      rw [hfile] at hcurrent
      exact ⟨hcurrent.1.trans hentries, hcurrent.2⟩
    · rename_i hfile
      rw [hfile] at hcurrent
      exact hcurrent
    · rename_i j hfile
      rw [hfile] at hcurrent
      obtain ⟨e, he, hlike, hj⟩ := hcurrent
      exact ⟨e, he, hlike.trans hentries, hj⟩

theorem recoverable_request {b : Bool} (hr : Recoverable h b) (op : EdgeOp τ) :
    Recoverable (h.step c op .done).1 (b || (EdgeTurn.request op .done).commands) := by
  refine ⟨stands_step hr.stands op, ?_, fun hcounted => ?_, fun hcounted => ?_⟩
  · rcases step_writes (c := c) hr.stands.edge op with hwritten | ⟨hkept, -⟩
    · rw [hwritten]
      exact StoreFile.noConfusion
    · rw [hkept]
      exact hr.there
  · rw [Bool.or_eq_true] at hcounted
    rcases step_commands (c := c) hr.stands.edge op with ⟨request, result, rfl, hrecord⟩ | ⟨hother, hkept⟩
    · rw [hrecord]
      rcases hcounted with hbefore | hnow
      · exact (hr.counted hbefore).record _ _
      · exact someCounted_record (by simpa [EdgeTurn.commands] using hnow) _ _
    · rw [hkept]
      refine hcounted.elim hr.counted fun hnow => ?_
      unfold EdgeTurn.commands at hnow
      split at hnow
      · rename_i request saved heq
        exact absurd (EdgeTurn.request.inj heq).1 (hother request)
      · cases hnow
  · rw [Bool.or_eq_false_iff] at hcounted
    obtain ⟨hfile, hcommands⟩ := hr.current hcounted.1
    have hunnamed : ∀ request, op = .executeCommand request → request.deviceId = "" := by
      rintro request rfl
      simpa [EdgeTurn.commands] using hcounted.2
    refine ⟨onFile_step hr.stands hfile hunnamed, ?_⟩
    rcases step_commands (c := c) hr.stands.edge op with ⟨request, result, rfl, hrecord⟩ | ⟨-, hkept⟩
    · rw [hrecord, hunnamed request rfl]
      exact hcommands.record result
    · rw [hkept]
      exact hcommands

/-- Every save of the run comes out. -/
def AllSaved (turns : List (EdgeTurn τ)) : Prop := ∀ op saved, .request op saved ∈ turns → saved = .done

theorem recoverable_run (c : EdgeWiring τ) (plane : FleetControl.FleetControlPlane) (trust : τ) {turns : List (EdgeTurn τ)}
    (hsaved : AllSaved turns) :
    ∃ h, turns.foldl (EdgeHost.turn c members) (some (EdgeHost.start plane trust)) = some h ∧
      Recoverable h (commanded turns) := by
  induction turns using List.reverseRecOn with
  | nil => exact ⟨_, rfl, stands_start plane trust, StoreFile.noConfusion, nofun, fun _ => ⟨⟨.refl _, rfl⟩, fun d _ => ⟨rfl, rfl⟩⟩⟩
  | append_singleton turns t ih =>
    obtain ⟨h, hrun, hr⟩ := ih fun op saved hmem => hsaved op saved (List.mem_append_left _ hmem)
    rw [List.foldl_append, hrun, commanded, List.foldl_append]
    cases t with
    | restart => exact recoverable_restart hr
    | request op saved =>
      obtain rfl := hsaved op saved (List.mem_append_right _ List.mem_cons_self)
      exact ⟨_, rfl, recoverable_request hr op⟩

/-! ### Answers after a restart -/

theorem like_restart (hfile : OnFile h) (hcommands : Uncounted h.commands) : ∃ h', h.restart members = some h' ∧ Like h h' := by
  have hcounters : ∀ results, h.commands.results = results → SameCommands h.commands { results } :=
    fun results hresults => ⟨hresults, fun d hd => (hcommands d hd).1, fun d hd => (hcommands d hd).2⟩
  unfold OnFile at hfile
  unfold EdgeHost.restart
  split
  · rename_i hmissing
    rw [hmissing] at hfile
    exact ⟨_, rfl, ⟨hfile.1.symm, rfl, rfl⟩, hcounters _ hfile.2⟩
  · rename_i hemptied
    rw [hemptied] at hfile
    cases hfile
  · rename_i j hsome
    rw [hsome] at hfile
    obtain ⟨e, he, hsame, rfl⟩ := hfile
    obtain ⟨e', hload, hloaded⟩ := load_savedEdge he h.commands.results
    simp only [hload]
    exact ⟨_, rfl, ⟨hsame.symm.trans hloaded, rfl, rfl⟩, hcounters _ rfl⟩

/-- The command failure rate that health reports. -/
def EdgeReply.failureRate : EdgeReply → Option String
  | .health summary => summary.factors.lookup "command_failure_rate"
  | _ => none

theorem failureRate_health (c : EdgeWiring τ) {h : EdgeHost τ} {d : String} {device : EdgeDevice} {state : SimulatorState}
    {sensors : String × Bool} (hdevice : h.site.edge.devices.lookup d = some device)
    (hstate : h.site.edge.simulator.lookup d = some state)
    (hsensors : EdgePlatformService.readings state.sensorTelemetry = .ok sensors) :
    (h.step c (.health d) .done).2.failureRate =
      some (EdgePlatformService.failureRate ((h.commands.failures.lookup d).getD 0) ((h.commands.count.lookup d).getD 0)).1 := by
  have hat : (h.site.edge.simulatorAt d).2 = state := by
    simp only [EdgePlatformService.simulatorAt, hstate, Option.getD_some]
  simp only [EdgeHost.step, EdgeHost.healthLocked, hdevice, hat, hsensors, EdgeReply.failureRate, EdgePlatformService.summary]
  split_ifs <;> rfl

/-- The rate of a device that was just registered is of the commands that were counted before. -/
theorem failureRate_registered (c : EdgeWiring τ) (h : EdgeHost τ) {d : String} (hd : d ≠ "") :
    (h.replies c [.registerDevice (plainDevice d), .health d]).map EdgeReply.failureRate =
      [none, some (EdgePlatformService.failureRate ((h.commands.failures.lookup d).getD 0)
        ((h.commands.count.lookup d).getD 0)).1] := by
  have hguard : ((plainDevice d).deviceId = "" || (plainDevice d).tenantId = "" ||
      !knownDeviceType (plainDevice d).deviceType) = false := by
    simp [plainDevice, hd, knownDeviceType, supportedTypes]
  have hedge : (c.registerDevice h.site (plainDevice d)).1.edge = h.site.edge.insertDevice (withDefaults (plainDevice d)) := by
    simp only [Wiring.registerDevice, hguard, Bool.false_eq_true, if_false]
  have hstep : h.step c (.registerDevice (plainDevice d)) .done =
      { h with site := (c.registerDevice h.site (plainDevice d)).1 }.saveLocked .done (.ok true) := by
    simp only [EdgeHost.step, Wiring.registerDevice, hguard, Bool.false_eq_true, if_false, if_true]
  have hdevice : (h.site.edge.insertDevice (withDefaults (plainDevice d))).devices.lookup d =
      some (withDefaults (plainDevice d)) := AList.lookup_insert _
  have hstate : (h.site.edge.insertDevice (withDefaults (plainDevice d))).simulator.lookup d =
      some ⟨d, true, [], initialTelemetry⟩ := AList.lookup_insert _
  rw [← hedge] at hdevice hstate
  simp only [EdgeHost.replies, hstep, List.map_cons, List.map_nil]
  rw [failureRate_health c hdevice hstate
    (show EdgePlatformService.readings initialTelemetry = .ok ("locked", false) from rfl)]
  rfl

theorem failureRate_zero {failed total : ℕ} (hrate : (EdgePlatformService.failureRate failed total).1 = "0/0") : total = 0 := by
  unfold EdgePlatformService.failureRate at hrate
  split_ifs at hrate with htotal
  · exact htotal
  · have hlen := congrArg String.length hrate
    simp only [String.length_append, Nat.toString_eq_repr] at hlen
    have hfailed := Nat.length_repr_pos (n := failed)
    have hpos := Nat.length_repr_pos (n := total)
    have hone : (toString total).length = "0".length := by
      rw [Nat.toString_eq_repr]
      have hslash : "/".length = 1 := rfl
      have hzero : "0/0".length = 3 := rfl
      have hdigit : "0".length = 1 := rfl
      omega
    obtain ⟨-, hdigits⟩ := Text.append_inj_of_length (c := "0/") hrate hone
    have hlist := congrArg String.toList hdigits
    rw [Nat.toString_eq_repr, Nat.toList_repr] at hlist
    exact Text.toDigits_ten_injective (hlist.trans (Nat.toList_repr (n := 0)))

theorem not_transparent_of_counted (hr : Recoverable h true) : ¬ Transparent c members (some h) := by
  intro hsame
  obtain ⟨d, hd, hcount⟩ := hr.counted rfl
  obtain ⟨h', hrestart, -, -, results, hcommands⟩ := restart_members hr.stands.file hr.there
  obtain ⟨h'', hrestart', hreplies⟩ := hsame h rfl
  obtain rfl := Option.some.inj (hrestart.symm.trans hrestart')
  have hrates := congrArg (List.map EdgeReply.failureRate) (hreplies [.registerDevice (plainDevice d), .health d])
  rw [failureRate_registered c _ hd, failureRate_registered c _ hd, hcommands] at hrates
  simp only [List.cons.injEq, Option.some.injEq, and_true, true_and] at hrates
  exact hcount.ne' (failureRate_zero hrates.symm)

end

/-- Were the capabilities walked as was meant, a restart would go unnoticed just if no command for a device came since the
last one. -/
theorem EdgeHost.counters_kept_iff {τ : Type} (c : EdgeWiring τ) (plane : FleetControl.FleetControlPlane) (trust : τ)
    {turns : List (EdgeTurn τ)} (hsaved : AllSaved turns) :
    Transparent c members (turns.foldl (EdgeHost.turn c members) (some (EdgeHost.start plane trust))) ↔
      commanded turns = false := by
  obtain ⟨h, hrun, hr⟩ := recoverable_run c plane trust hsaved
  rw [hrun]
  generalize commanded turns = b at hr ⊢
  cases b with
  | false =>
    obtain ⟨hfile, hcommands⟩ := hr.current rfl
    refine iff_of_true (fun h₀ hh => ?_) rfl
    obtain rfl := Option.some.inj hh
    obtain ⟨h', hrestart, hlike⟩ := like_restart hfile hcommands
    exact ⟨h', hrestart, fun ops => (hlike.replies hr.stands.edge ops).symm⟩
  | true => exact iff_of_false (not_transparent_of_counted hr) nofun

/-! ### A store that cannot be walked -/

/-- In a platform without devices, the request comes to `save_locked`. -/
def EdgeOp.saves {τ : Type} : EdgeOp τ → Bool
  | .registerDevice d => !(d.deviceId = "" || d.tenantId = "" || !knownDeviceType d.deviceType)
  | .executeCommand _ => true
  | .health _ => true
  | _ => false

/-- In a platform without devices and without a store, the turn changes nothing that a new process would miss: it does
not come to `save_locked`, or it is the health of a device, and the save fails before the file is opened. -/
inductive Harmless {τ : Type} : EdgeTurn τ → Prop
  | restart : Harmless .restart
  | unsaved {op : EdgeOp τ} (h : op.saves = false) (saved : Saving) : Harmless (.request op saved)
  | health (deviceId : String) (e : Exn) : Harmless (.request (.health deviceId) (.raised e false))

section

variable {τ : Type} {c : EdgeWiring τ} {h h' : EdgeHost τ} {walk : Walk String}

/-- Nothing was kept, and nothing was saved. -/
structure Untouched (h : EdgeHost τ) : Prop where
  edge : h.site.edge = {}
  commands : h.commands = {}
  file : h.file = .missing

theorem Untouched.restart (hu : Untouched h) (walk : Walk String) : h.restart walk = some h := by
  obtain ⟨⟨edge, plane, trust⟩, commands, file⟩ := h
  obtain ⟨rfl, rfl, rfl⟩ := hu
  rfl

theorem Untouched.lookup (hu : Untouched h) (deviceId : String) : h.site.edge.devices.lookup deviceId = none := by
  rw [hu.edge]
  rfl

theorem untouched_unsaved (hu : Untouched h) {op : EdgeOp τ} (hop : op.saves = false) (saved : Saving) :
    Untouched (h.step c op saved).1 := by
  have hnone := hu.lookup
  cases op with
  | registerDevice device =>
    have hguard : (device.deviceId = "" || device.tenantId = "" || !knownDeviceType device.deviceType) = true := by
      rwa [EdgeOp.saves, Bool.not_eq_false'] at hop
    simp only [EdgeHost.step, Wiring.registerDevice, hguard, if_true]
    exact hu
  | registerCapability deviceId capability =>
    simp only [EdgeHost.step, EdgePlatformService.registerCapability, hnone]
    exact hu
  | updateInventory inventory =>
    simp only [EdgeHost.step, EdgeHost.updateInventory, hnone]
    exact hu
  | simulate deviceId action parameters now =>
    simp only [EdgeHost.step, EdgePlatformService.simulate, hnone]
    exact hu
  | executeCommand request => cases hop
  | health deviceId => cases hop
  | outside f => exact ⟨hu.edge, hu.commands, hu.file⟩
  | _ => exact hu

theorem untouched_turn (hu : Untouched h) {t : EdgeTurn τ} (ht : Harmless t) (walk : Walk String) :
    ∃ h', EdgeHost.turn c walk (some h) t = some h' ∧ Untouched h' := by
  cases ht with
  | restart => exact ⟨h, hu.restart walk, hu⟩
  | unsaved hop saved => exact ⟨_, rfl, untouched_unsaved hu hop saved⟩
  | health deviceId e =>
    refine ⟨_, rfl, ?_⟩
    simp only [EdgeHost.step, EdgeHost.healthLocked, hu.lookup]
    exact ⟨hu.edge, hu.commands, hu.file⟩

theorem untouched_run (c : EdgeWiring τ) (plane : FleetControl.FleetControlPlane) (trust : τ) (walk : Walk String)
    {turns : List (EdgeTurn τ)} (hturns : ∀ t ∈ turns, Harmless t) :
    ∃ h, turns.foldl (EdgeHost.turn c walk) (some (EdgeHost.start plane trust)) = some h ∧ Untouched h := by
  induction turns using List.reverseRecOn with
  | nil => exact ⟨_, rfl, rfl, rfl, rfl⟩
  | append_singleton turns t ih =>
    obtain ⟨h, hrun, hu⟩ := ih fun t ht => hturns t (List.mem_append_left _ ht)
    rw [List.foldl_append, hrun]
    exact untouched_turn hu (hturns t (List.mem_append_right _ List.mem_cons_self)) walk

/-- If the walk throws, there is no new process once the file was opened. -/
theorem not_transparent_of_opened {saved : Saving} (hopened : ∀ e, saved ≠ .raised e false) (reply : EdgeReply) :
    ¬ Transparent c raises (some (h.saveLocked saved reply).1) := by
  have hnone : (h.saveLocked saved reply).1.restart raises = none := by
    cases saved with
    | done =>
      unfold EdgeHost.saveLocked EdgeHost.restart
      simp only [load_walked]
      rfl
    | raised e emptied =>
      cases emptied with
      | false => exact absurd rfl (hopened e)
      | true => rfl
  intro hsame
  obtain ⟨h', hrestart, -⟩ := hsame _ rfl
  cases hnone.symm.trans hrestart

theorem not_transparent_of_reply (hfile : h.file = .missing) (op : EdgeOp τ)
    (hreply : (h.step c op .done).2 ≠ ((EdgeHost.mk { h.site with edge := {} } {} .missing).step c op .done).2) :
    ¬ Transparent c raises (some h) := by
  intro hsame
  obtain ⟨h', hrestart, hreplies⟩ := hsame h rfl
  unfold EdgeHost.restart at hrestart
  rw [hfile] at hrestart
  obtain rfl := Option.some.inj hrestart
  have hfirst := hreplies [op]
  simp only [EdgeHost.replies, List.cons.injEq, and_true] at hfirst
  exact hreply hfirst.symm

/-- What is not harmless may be missed by a new process. -/
theorem not_transparent_of_harmful (hu : Untouched h) {op : EdgeOp τ} {saved : Saving}
    (hharm : ¬ Harmless (.request op saved)) : ¬ Transparent c raises (some (h.step c op saved).1) := by
  have hsaves : op.saves = true := by
    by_contra hop
    exact hharm (.unsaved (by simpa using hop) saved)
  have hnone := hu.lookup
  by_cases hopened : ∀ e, saved ≠ .raised e false
  · cases op with
    | registerDevice device =>
      have hguard : (device.deviceId = "" || device.tenantId = "" || !knownDeviceType device.deviceType) = false := by
        simpa [EdgeOp.saves] using hsaves
      simp only [EdgeHost.step, Wiring.registerDevice, hguard, Bool.false_eq_true, if_false, if_true]
      exact not_transparent_of_opened hopened _
    | executeCommand request =>
      simp only [EdgeHost.step, Wiring.executeCommand, hnone]
      exact not_transparent_of_opened hopened _
    | health deviceId =>
      simp only [EdgeHost.step, EdgeHost.healthLocked, hnone]
      exact not_transparent_of_opened hopened _
    | _ => cases hsaves
  · simp only [not_forall, not_not] at hopened
    obtain ⟨e, rfl⟩ := hopened
    cases op with
    | registerDevice device =>
      have hguard : (device.deviceId = "" || device.tenantId = "" || !knownDeviceType device.deviceType) = false := by
        simpa [EdgeOp.saves] using hsaves
      have hedge : (c.registerDevice h.site device).1.edge = h.site.edge.insertDevice (withDefaults device) := by
        simp only [Wiring.registerDevice, hguard, Bool.false_eq_true, if_false]
      have hanswer : (c.registerDevice h.site device).2 = true := by
        simp only [Wiring.registerDevice, hguard, Bool.false_eq_true, if_false]
      have hdevice : (h.site.edge.insertDevice (withDefaults device)).devices.lookup device.deviceId =
          some (withDefaults device) := AList.lookup_insert _
      rw [← hedge] at hdevice
      simp only [EdgeHost.step, hanswer, if_true, EdgeHost.saveLocked, Bool.false_eq_true, if_false]
      refine not_transparent_of_reply hu.file (.registerCapability device.deviceId ⟨"cash", "", false⟩) ?_
      simp only [EdgeHost.step, EdgePlatformService.registerCapability, hdevice]
      simp [EdgeHost.saveLocked]
    | executeCommand request =>
      simp only [EdgeHost.step, Wiring.executeCommand, hnone, EdgeHost.saveLocked, Bool.false_eq_true, if_false]
      refine not_transparent_of_reply hu.file (.executeCommand {}) ?_
      have hid : Veil.idFor "edge-command" 1 ≠ Veil.idFor "edge-command" 0 := by decide
      have hunknown : ∀ deviceId, (∅ : Dict String EdgeDevice).lookup deviceId = none := fun _ => rfl
      simp only [EdgeHost.step, Wiring.executeCommand, rejectCommand, hu.edge, hu.commands, hunknown, EdgeHost.saveLocked]
      simpa [EdgeCommands.named, EdgeCommands.record] using hid
    | health deviceId => exact absurd (.health deviceId e) hharm
    | _ => cases hsaves

theorem first_harmful {turns : List (EdgeTurn τ)} (h : ¬ ∀ t ∈ turns, Harmless t) :
    ∃ before op saved after, turns = before ++ .request op saved :: after ∧ (∀ t ∈ before, Harmless t) ∧
      ¬ Harmless (.request op saved) := by
  induction turns with
  | nil => exact absurd (fun t ht => nomatch ht) h
  | cons t turns ih =>
    by_cases ht : Harmless t
    · obtain ⟨before, op, saved, after, rfl, hbefore, hharm⟩ :=
        ih fun hturns => h (List.forall_mem_cons.mpr ⟨ht, hturns⟩)
      exact ⟨t :: before, op, saved, after, rfl, List.forall_mem_cons.mpr ⟨ht, hbefore⟩, hharm⟩
    · cases t with
      | restart => exact absurd .restart ht
      | request op saved => exact ⟨[], op, saved, turns, rfl, List.forall_mem_nil _, ht⟩

end

/-- A restart at any point of a run goes unnoticed, whatever the walk over the lost capabilities does, just if no request of
the run came to the file of the store, nor kept anything. -/
theorem EdgeHost.restart_transparent_iff {τ : Type} (c : EdgeWiring τ) (plane : FleetControl.FleetControlPlane) (trust : τ)
    (turns : List (EdgeTurn τ)) :
    (∀ walk before after, turns = before ++ after →
        Transparent c walk (before.foldl (EdgeHost.turn c walk) (some (EdgeHost.start plane trust)))) ↔
      ∀ t ∈ turns, Harmless t := by
  refine ⟨fun hall => ?_, fun hturns walk before after hsplit => ?_⟩
  · by_contra hnot
    obtain ⟨before, op, saved, after, rfl, hbefore, hharm⟩ := first_harmful hnot
    obtain ⟨h, hrun, hu⟩ := untouched_run c plane trust raises hbefore
    have hnext := hall raises (before ++ [.request op saved]) after (by rw [List.append_assoc]; rfl)
    rw [List.foldl_append, hrun] at hnext
    exact not_transparent_of_harmful hu hharm hnext
  · obtain ⟨h, hrun, hu⟩ := untouched_run c plane trust walk
      fun t ht => hturns t (hsplit ▸ List.mem_append_left _ ht)
    rw [hrun]
    intro h' hh
    obtain rfl := Option.some.inj hh
    exact ⟨h, hu.restart walk, fun ops => rfl⟩

def rejectedReboot : List (EdgeTurn Unit) :=
  [.request (.registerDevice (plainDevice "d")) .done,
    .request (.executeCommand { deviceId := "d", command := "reboot" }) .done]

/-- After one command that was rejected health says 1/1, and after a restart 0/0, even with the walk as it was meant. -/
theorem EdgeHost.restart_loses_failures :
    ¬ ∀ turns : List (EdgeTurn Unit),
      Transparent aloneWiring members (turns.foldl (EdgeHost.turn aloneWiring members) (some (EdgeHost.start {} ()))) := by
  intro hall
  let rates (h : EdgeHost Unit) : List (Option String) := (h.replies aloneWiring [.health "d"]).map EdgeReply.failureRate
  let process := rejectedReboot.foldl (EdgeHost.turn aloneWiring members) (some (EdgeHost.start {} ()))
  have hlost : (process.bind (EdgeHost.restart members)).map rates ≠ process.map rates := by decide +kernel
  obtain ⟨h', hrestart, hreplies⟩ := hall rejectedReboot _ rfl
  refine hlost (Eq.trans (congrArg (Option.map rates) hrestart) ?_)
  exact congrArg some (congrArg (List.map EdgeReply.failureRate) (hreplies [.health "d"]))

end Drawer.FleetOps
