import Drawer.Proofs.CommandIds
import Drawer.Sanity.Places
import Drawer.Spec.RiskQueries

/-! Freshness. A device is entered with the record it came with, the time of its last
heartbeat included. What is fresh was heard just if no such time is taken on trust. -/

namespace Drawer.FleetOps
open FleetOperationsService Transition

variable {ω : Type} {env : Env ω} {s : FleetOperationsService ω} {start : Registry ω} {events : List (Event ω)}

/-! ### Reports -/

theorem reportedFresh_iff {tenantId deviceId : String} {now : Int} :
    ReportedFresh env s tenantId deviceId now ↔
      ∃ d, s.devices.lookup deviceId = some d ∧ d.tenantId = tenantId ∧ heartbeatFreshLocked env d now = true := by
  unfold ReportedFresh freshness health
  cases hd : s.device tenantId deviceId with
  | none =>
    refine iff_of_false (fun h => ?_) fun ⟨d, hlookup, htenant, _⟩ => ?_
    · rcases h with h | h <;> simp [Json.member] at h
    · simp [device, hlookup, htenant] at hd
  | some d =>
    obtain ⟨hlookup, htenant⟩ := Option.filter_eq_some_iff.mp hd
    have hfresh : heartbeatFreshLocked env d now = true ↔
        ∃ d', s.devices.lookup deviceId = some d' ∧ d'.tenantId = tenantId ∧ heartbeatFreshLocked env d' now = true := by
      refine ⟨fun h => ⟨d, hlookup, by simpa using htenant, h⟩, fun ⟨d', hd', _, h⟩ => ?_⟩
      rwa [Option.some.inj (hlookup.symm.trans hd')]
    rw [← hfresh]
    simp [Json.member]

theorem heartbeatFreshLocked_iff {d : FleetDevice} {now : Int} :
    heartbeatFreshLocked env d now = true ↔ 0 < d.lastHeartbeatEpoch ∧ d.lastHeartbeatEpoch ≤ now ∧
      now - d.lastHeartbeatEpoch ≤ env.heartbeatTimeoutSeconds := by
  simp [heartbeatFreshLocked, and_assoc]

/-! ### Heartbeats of a run -/

theorem WasHeard.snoc {deviceId : String} {ts : Int} (h : WasHeard env start events deviceId ts) (e : Event ω) :
    WasHeard env start (events ++ [e]) deviceId ts := by
  obtain ⟨before, hb, receivedAt, after, rfl, hrest⟩ := h
  exact ⟨before, hb, receivedAt, after ++ [e], by simp, hrest⟩

theorem heard_of_stores {hb : FleetHeartbeat} {receivedAt : Int}
    (h : Stores env (events.foldl (Registry.step env) start).service hb receivedAt) :
    WasHeard env start (events ++ [.request (.receiveHeartbeat hb receivedAt)]) hb.deviceId hb.timestamp :=
  ⟨events, hb, receivedAt, [], rfl, h, rfl, rfl⟩

theorem WasHeard.init {deviceId : String} {ts : Int} {e : Event ω} (h : WasHeard env start (events ++ [e]) deviceId ts)
    (he : ∀ hb receivedAt, e ≠ .request (.receiveHeartbeat hb receivedAt)) : WasHeard env start events deviceId ts := by
  obtain ⟨before, hb, receivedAt, after, heq, hrest⟩ := h
  rcases split_snoc heq with ⟨after', rfl, -⟩ | ⟨-, hlast, -⟩
  · exact ⟨before, hb, receivedAt, after', rfl, hrest⟩
  · exact absurd hlast (he hb receivedAt)

/-! ### Times -/

/-- Every device has the time of a heartbeat that was heard, or none. -/
def TimesHeard (env : Env ω) (start : Registry ω) (events : List (Event ω)) (s : FleetOperationsService ω) : Prop :=
  ∀ k p, placeOf s k = some p → 0 < p.lastHeartbeatEpoch → 0 ≤ env.heartbeatTimeoutSeconds →
    WasHeard env start events k p.lastHeartbeatEpoch

/-- An enrolment that is accepted brings no time of a heartbeat, or one that was heard before; with a negative timeout
it does not matter. -/
def TimeKnown (env : Env ω) (start : Registry ω) (before : List (Event ω)) (e : Event ω) : Prop :=
  ∀ d actorId now, e = .request (.enroll d actorId now) →
    Enrollable (before.foldl (Registry.step env) start).service d →
    (enrolled env (before.foldl (Registry.step env) start).service.world d).isSome = true →
    0 < d.lastHeartbeatEpoch → 0 ≤ env.heartbeatTimeoutSeconds → WasHeard env start before d.deviceId d.lastHeartbeatEpoch

theorem TimesHeard.snoc (h : TimesHeard env start events s) (e : Event ω) : TimesHeard env start (events ++ [e]) s :=
  fun k p hp hpos htimeout => (h k p hp hpos htimeout).snoc e

theorem TimesHeard.places {s' : FleetOperationsService ω} (h : TimesHeard env start events s)
    (hplaces : ∀ k, placeOf s' k = placeOf s k) : TimesHeard env start events s' :=
  fun k p hp => h k p (hplaces k ▸ hp)

theorem placeOf_insertDevice (d : FleetDevice) (actorId : String) (now : Int) (k : String) :
    placeOf (s.insertDevice d actorId now) k = if k = d.deviceId then some d.place else placeOf s k :=
  placeOf_insert rfl k

theorem PatchOf.epoch {d d' : FleetDevice} (h : PatchOf d d') : d'.place.lastHeartbeatEpoch = d.place.lastHeartbeatEpoch := by
  obtain ⟨_, _, _, _, _, rfl⟩ := h
  rfl

variable (env) in
/-- An update leaves every device the time of its last heartbeat. -/
theorem updateDevice_epochs (tenantId key : String) (patch : Json String) (now : Int) (k : String) :
    (placeOf (s.updateDevice env tenantId key patch now).1 k).map Place.lastHeartbeatEpoch =
      (placeOf s k).map Place.lastHeartbeatEpoch := by
  have hwritten : ∀ {d d' : FleetDevice} {next : String} {s' : FleetOperationsService ω}, s.devices.lookup key = some d →
      PatchOf { d with lifecycleState := next } d' → s'.devices = s.devices.insert key d' →
      (placeOf s' k).map Place.lastHeartbeatEpoch = (placeOf s k).map Place.lastHeartbeatEpoch := by
    intro d d' next s' hd hpatch hdevices
    rw [placeOf_insert hdevices]
    split_ifs with hk
    · rw [hk, placeOf_of_lookup hd, Option.map_some, Option.map_some, hpatch.epoch]
      rfl
    · rfl
  rcases updateDevice_cases env s tenantId key patch now with ⟨-, reply, -, heq⟩ | ⟨d, next, hpatchable, hcase⟩
  · rw [heq]
  · have hleaves := leaves_patchFields patch { d with lifecycleState := next }
    rcases hcase with ⟨d', e, hpatch, heq⟩ | ⟨d', hpatch, heq⟩
    · rw [hpatch] at hleaves
      rw [heq]
      exact hwritten hpatchable.lookup hleaves rfl
    · rw [hpatch] at hleaves
      rw [heq]
      exact hwritten hpatchable.lookup hleaves (finishUpdate_devices ..)

/-- One request. -/
theorem timesHeard_apply (h : TimesHeard env start events (events.foldl (Registry.step env) start).service) {op : Op ω}
    (hknown : TimeKnown env start events (.request op)) :
    TimesHeard env start (events ++ [.request op]) (apply env (events.foldl (Registry.step env) start).service op) := by
  have hsnoc := h.snoc (.request op)
  cases op with
  | enroll d actorId now =>
    rcases settled_enroll env (s := (events.foldl (Registry.step env) start).service) d actorId now with
      hsettled | ⟨henroll, d', hd', hsettled⟩
    · exact hsnoc.places hsettled.places
    · obtain ⟨hid, hplace⟩ := enrolled_place hd'
      intro k p hp hpos htimeout
      rw [apply, hsettled.places, placeOf_insertDevice, hid, hplace] at hp
      split_ifs at hp with hk
      · obtain rfl := Option.some.inj hp
        rw [hk]
        exact (hknown d actorId now rfl henroll (by rw [hd']; rfl) hpos htimeout).snoc _
      · exact hsnoc k p hp hpos htimeout
  | updateDevice tenantId key patch now =>
    intro k p hp hpos htimeout
    have hepochs := updateDevice_epochs env (s := (events.foldl (Registry.step env) start).service) tenantId key patch
      now k
    simp only [apply] at hp
    rw [hp, Option.map_some] at hepochs
    obtain ⟨p', hp', hsame⟩ := Option.map_eq_some_iff.mp hepochs.symm
    rw [← hsame] at hpos ⊢
    exact hsnoc k p' hp' hpos htimeout
  | receiveHeartbeat hb receivedAt =>
    rcases settled_receiveHeartbeat env (s := (events.foldl (Registry.step env) start).service) hb receivedAt with
      hsettled | ⟨hstores, d, d', hd, hplace, hsettled⟩
    · exact hsnoc.places hsettled.places
    · intro k p hp hpos htimeout
      rw [apply, hsettled.places, placeOf_insert rfl] at hp
      split_ifs at hp with hk
      · obtain rfl := Option.some.inj hp
        rw [hplace, hk]
        exact heard_of_stores hstores
      · exact hsnoc k p hp hpos htimeout
  | _ =>
    refine hsnoc.places (Settled.places ?_)
    exact settled_apply env trivial

/-! ### Runs -/

/-- What a run keeps: devices under their own ids, with times that were heard. -/
def HeardInTime (env : Env ω) (start : Registry ω) (events : List (Event ω)) (s : FleetOperationsService ω) : Prop :=
  Keyed s ∧ TimesHeard env start events s

theorem heardInTime_empty (world : ω) : HeardInTime env start events ({ world } : FleetOperationsService ω) :=
  ⟨keyed_empty world, fun _ _ hp => nomatch hp⟩

theorem HeardInTime.reloaded {s' : FleetOperationsService ω} (h : HeardInTime env start events s) (hs' : Reloaded s s') :
    HeardInTime env start events s' := ⟨hs'.keyed h.1, h.2.places (hs'.places h.1)⟩

theorem heardInTime_run (env : Env ω) (storePath : String) (world : ω) (events : List (Event ω))
    (hknown : ∀ before e after, events = before ++ e :: after →
      TimeKnown env { storePath, service := { world } } before e) :
    Upholds (HeardInTime env { storePath, service := { world } } events)
      (events.foldl (Registry.step env) { storePath, service := { world } }) := by
  induction events using List.reverseRecOn with
  | nil => exact ⟨heardInTime_empty world, fun _ j hj => nomatch hj⟩
  | append_singleton events e ih =>
    have hbefore := ih fun before e' after hes => hknown before e' (after ++ [e]) (by rw [hes]; simp)
    have hnext := hbefore.mono fun s h => (⟨h.1, h.2.snoc e⟩ : HeardInTime env _ (events ++ [e]) s)
    rw [List.foldl_append]
    cases e with
    | request op =>
      refine hnext.request ⟨keyed_apply hbefore.service.1 op, ?_⟩
      exact timesHeard_apply hbefore.service.2 (hknown events _ [] rfl)
    | restart world' => exact hnext.restart world' (heardInTime_empty world') fun s s' h hs' => HeardInTime.reloaded h hs'

theorem TimesHeard.earned (h : TimesHeard env start events (events.foldl (Registry.step env) start).service) :
    Earned env start events := by
  intro tenantId deviceId now hfresh
  obtain ⟨d, hd, -, hd'⟩ := reportedFresh_iff.mp hfresh
  obtain ⟨hpos, hpast, hrecent⟩ := heartbeatFreshLocked_iff.mp hd'
  refine ⟨d, hd, ?_, by omega, hpast⟩
  exact h deviceId d.place (placeOf_of_lookup hd) hpos (by omega)

/-- A device that is entered with a time is fresh at that time. -/
theorem timeKnown_of_earned (h : ∀ before after, events = before ++ after → Earned env start before)
    {before : List (Event ω)} {e : Event ω} {after : List (Event ω)} (hevents : events = before ++ e :: after) :
    TimeKnown env start before e := by
  rintro d actorId now rfl henroll hentered hpos htimeout
  have hearned := h (before ++ [.request (.enroll d actorId now)]) after (by rw [hevents]; simp)
  obtain ⟨d', hd'⟩ := Option.isSome_iff_exists.mp hentered
  obtain ⟨hid, hplace⟩ := enrolled_place hd'
  have hafter : placeOf ((before ++ [Event.request (.enroll d actorId now)]).foldl (Registry.step env) start).service d.deviceId =
      some d.place := by
    rw [List.foldl_append]
    refine ((settled_entered henroll hd' actorId now).places d.deviceId).trans ?_
    rw [placeOf_insertDevice, if_pos hid.symm, hplace]
  obtain ⟨v, hv, hsame⟩ := Option.map_eq_some_iff.mp hafter
  have hepoch : v.lastHeartbeatEpoch = d.lastHeartbeatEpoch := congrArg Place.lastHeartbeatEpoch hsame
  have hfresh : heartbeatFreshLocked env v v.lastHeartbeatEpoch = true :=
    heartbeatFreshLocked_iff.mpr ⟨by omega, le_refl _, by omega⟩
  obtain ⟨v', hv', hheard, -⟩ :=
    hearned v.tenantId d.deviceId v.lastHeartbeatEpoch (reportedFresh_iff.mpr ⟨v, hv, rfl, hfresh⟩)
  obtain rfl := Option.some.inj (hv.symm.trans hv')
  rw [hepoch] at hheard
  exact hheard.init fun hb receivedAt => nofun

/-- What is fresh was heard, in every state of a run, just if no device is entered with a time at which it was not
heard. -/
theorem freshness_earned_iff (env : Env ω) (storePath : String) (world : ω) (events : List (Event ω)) :
    (∀ before after, events = before ++ after → Earned env { storePath, service := { world } } before) ↔
      ∀ before e after, events = before ++ e :: after →
        TimeKnown env { storePath, service := { world } } before e := by
  refine ⟨fun h before e after hevents => timeKnown_of_earned h hevents, fun h before after hevents => ?_⟩
  refine TimesHeard.earned (heardInTime_run env storePath world before fun before' e after' hbefore => ?_).service.2
  exact h before' e (after' ++ after) (by rw [hevents, hbefore]; simp)

def unheardDevice : FleetDevice :=
  { deviceId := "d", tenantId := "t", branchId := "b", locationId := "l", fleetId := "f", capabilities := ["inventory"]
    lastHeartbeatEpoch := 100 }

/-- The device is entered and fresh at 100, with no heartbeat. -/
theorem fresh_without_heartbeat : ¬ ∀ events : List (Event Unit),
    Earned bareEnv { storePath := "fleet.json", service := { world := () } } events := by
  intro hall
  have hfresh : heartbeatFreshLocked bareEnv unheardDevice 100 = true := by decide
  have hearned := hall [.request (.enroll unheardDevice "admin" 7)] "t" "d" 100
    (reportedFresh_iff.mpr ⟨unheardDevice, by decide +kernel, rfl, hfresh⟩)
  obtain ⟨d, -, ⟨before, hb, receivedAt, after, hevents, -⟩, -⟩ := hearned
  cases before with
  | nil => cases hevents
  | cons e before =>
    obtain ⟨-, hrest⟩ := List.cons.inj hevents
    exact absurd hrest (by simp)

end Drawer.FleetOps
