import Drawer.Lib.Transition
import Drawer.Sanity.EdgeRuns
import Drawer.Spec.RiskQueries

/-! An edge device that stays operable. Telemetry is stored as any JSON; health reads
two members of it, and a command that changes the maintenance mode sets one. Both go
through if whatever the simulator was fed can be read, and the store can be written
and read. -/

namespace Drawer.FleetOps
open Json Transition

/-! ### Sensors -/

/-- The member, if the object has it, is a text. -/
def HasText (j : Json String) (key : String) : Prop := ∀ v, j.member key = some v → ∃ s, v = .str s

/-- What health can read of the sensors. -/
structure SensorTyped (j : Json String) : Prop where
  object : ∃ members, j = .obj members
  lock : HasText j "lock"
  maintenance : HasBool j "maintenance_mode"

theorem readings_ok_iff {j : Json String} : (∃ r, EdgePlatformService.readings j = .ok r) ↔ SensorTyped j := by
  have hlock : (∃ s, j.value "lock" getStr "unknown" = .ok s) ↔ (∃ members, j = .obj members) ∧ HasText j "lock" := by
    rw [value_ok_iff]
    refine and_congr_right fun _ => forall₂_congr fun v _ => ?_
    cases v <;> simp [getStr]
  have hmode : (∃ b, j.value "maintenance_mode" getBool false = .ok b) ↔
      (∃ members, j = .obj members) ∧ HasBool j "maintenance_mode" := by
    rw [value_ok_iff]
    refine and_congr_right fun _ => forall₂_congr fun v _ => ?_
    cases v <;> simp [getBool]
  refine ⟨fun ⟨r, hr⟩ => ?_, fun h => ?_⟩
  · obtain ⟨lock, hl, hr⟩ := of_bind_ok hr
    obtain ⟨mode, hm, -⟩ := of_bind_ok hr
    exact ⟨(hlock.mp ⟨lock, hl⟩).1, (hlock.mp ⟨lock, hl⟩).2, (hmode.mp ⟨mode, hm⟩).2⟩
  · obtain ⟨lock, hl⟩ := hlock.mpr ⟨h.object, h.lock⟩
    obtain ⟨mode, hm⟩ := hmode.mpr ⟨h.object, h.maintenance⟩
    exact ⟨(lock, mode), by simp only [EdgePlatformService.readings, hl, hm, ok_bind, pure_ok]⟩

/-- Of the members only the one that is set changes. -/
theorem member_setFlag (members : List (String × Json String)) (key name : String) (on : Bool) :
    (Json.obj (members.filter (fun m => m.1 ≠ key) ++ [(key, .bool on)])).member name =
      if name = key then some (.bool on) else (Json.obj members).member name := by
  simp only [member, List.find?_append]
  split_ifs with hname
  · subst hname
    rw [List.find?_eq_none.mpr]
    · simp
    · intro m hm
      simpa using (List.mem_filter.mp hm).2
  · rw [List.find?_filter]
    have hother : [((key, .bool on) : String × Json String)].find? (fun m => decide (m.1 = name)) = none := by
      simp [Ne.symm hname]
    rw [hother, Option.or_none]
    congr 2
    funext m
    by_cases hm : m.1 = name
    · simp [hm, hname]
    · simp [hm]

theorem SensorTyped.setFlag {j : Json String} (hj : SensorTyped j) (on : Bool) :
    ∃ j', Drawer.FleetOps.setFlag j "maintenance_mode" on = .ok j' ∧ SensorTyped j' := by
  obtain ⟨members, rfl⟩ := hj.object
  refine ⟨_, rfl, ⟨_, rfl⟩, fun v hv => hj.lock v ?_, fun v hv => ⟨on, ?_⟩⟩
  · rw [member_setFlag, if_neg (by decide)] at hv
    exact hv
  · rw [member_setFlag, if_pos rfl] at hv
    exact (Option.some.inj hv).symm

section

variable {τ : Type} {c : EdgeWiring τ} {h : EdgeHost τ}

/-- Health answers for every registered device, and a command that changes its maintenance mode, whether it is rejected
or not, is answered and recorded once. -/
structure Operable (c : EdgeWiring τ) (saved : Saving) (h : EdgeHost τ) : Prop where
  healthy : ∀ deviceId, (h.site.edge.devices.lookup deviceId).isSome = true →
    ∃ summary, (h.step c (.health deviceId) saved).2 = .health summary
  maintained : ∀ request, request.command = "enter_maintenance_mode" ∨ request.command = "exit_maintenance_mode" →
    ∃ result, (h.step c (.executeCommand request) saved).2 = .result result ∧
      (h.step c (.executeCommand request) saved).1.commands.results = h.commands.results ++ [result]

/-- The walk comes out, and visits lists of capabilities. -/
def Visits (walk : Walk String) : Prop :=
  ∀ j, ∃ visited, walk j = .ok visited ∧ ∀ m ∈ visited, ∃ l, getArr CapabilityMetadata.fromJson m.2 = .ok l

/-- A request is saved, and feeds the sensors of a registered device only with what health can read; a new process finds
no store, or one whose walk comes out. -/
def Fits (walk : Walk String) (h : EdgeHost τ) : EdgeTurn τ → Prop
  | .request op saved => saved = .done ∧ Fed SensorTyped h op
  | .restart => h.file = .missing ∨ Visits walk

/-- What a run keeps whose turns all fit. -/
structure Runs (h : EdgeHost τ) : Prop where
  stands : Stands SensorTyped h
  there : h.file ≠ .emptied

theorem simulate_telemetry {e : EdgePlatformService} {deviceId : String} {device : EdgeDevice}
    (hdevice : e.devices.lookup deviceId = some device) (parameters : Json String) (now : Int) :
    (e.simulate deviceId "telemetry" parameters now).2 =
      .ok { (e.simulatorAt deviceId).2 with sensorTelemetry := parameters } ∧
    (e.simulate deviceId "telemetry" parameters now).1.devices = e.devices ∧
    (e.simulate deviceId "telemetry" parameters now).1.simulator.lookup deviceId =
      some { (e.simulatorAt deviceId).2 with sensorTelemetry := parameters } := by
  have hsimulated : EdgePlatformService.simulated (e.simulatorAt deviceId).2 "telemetry" parameters =
      .ok ({ (e.simulatorAt deviceId).2 with sensorTelemetry := parameters }, none) := rfl
  simp only [EdgePlatformService.simulate, hdevice, hsimulated]
  exact ⟨rfl, rfl, AList.lookup_insert _⟩

/-- After a simulation that fed its sensors with something else, the device has no health. -/
theorem fed_of_operable {op : EdgeOp τ} {saved : Saving} (hoperable : Operable c .done (h.step c op saved).1) :
    Fed SensorTyped h op := by
  by_contra hfed
  cases op with
  | simulate deviceId action parameters now =>
    obtain ⟨hd, haction, htyped⟩ : (h.site.edge.devices.lookup deviceId).isSome = true ∧ action = "telemetry" ∧
        ¬ SensorTyped parameters := by
      simpa only [Fed, Feeds, Classical.not_imp] using hfed
    subst haction
    obtain ⟨device, hdevice⟩ := Option.isSome_iff_exists.mp hd
    obtain ⟨hanswer, hdevices, hstate⟩ := simulate_telemetry hdevice parameters now
    have hstep : (h.step c (.simulate deviceId "telemetry" parameters now) saved).1.site.edge =
        (h.site.edge.simulate deviceId "telemetry" parameters now).1 := by
      simp only [EdgeHost.step, hanswer, hd, if_true, saveLocked_site]
      rfl
    rw [← hstep] at hdevices hstate
    generalize (h.step c (.simulate deviceId "telemetry" parameters now) saved).1 = h' at hdevices hstate hoperable
    obtain ⟨summary, hsummary⟩ := hoperable.healthy deviceId (by rwa [hdevices])
    cases hsensors : EdgePlatformService.readings parameters with
    | ok sensors => exact htyped (readings_ok_iff.mp ⟨sensors, hsensors⟩)
    | error x =>
      have hat : (h'.site.edge.simulatorAt deviceId).2 =
          { (h.site.edge.simulatorAt deviceId).2 with sensorTelemetry := parameters } := by
        simp only [EdgePlatformService.simulatorAt, hstate, Option.getD_some]
      simp only [EdgeHost.step, EdgeHost.healthLocked, hdevices, hdevice, hat, hsensors] at hsummary
      cases hsummary
  | _ => exact hfed trivial

end

/-- The request did not raise. -/
def EdgeReply.returned : EdgeReply → Bool
  | .thrown _ => false
  | _ => true

end Drawer.FleetOps
