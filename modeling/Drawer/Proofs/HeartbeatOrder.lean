import Drawer.Proofs.Dispatch
import Drawer.Spec.FleetEvidence

/-! Two heartbeats of one device, in the order in which they arrive. What is stored of
a heartbeat does not touch what the next one is judged by, so both are taken, and the
device shows the one that came last, whatever its time. -/

namespace Drawer.FleetOps
open FleetOperationsService

variable {ω : Type}

/-- The registry shows `hb` as the latest report of its device. -/
def ShowsLatest (s : FleetOperationsService ω) (hb : FleetHeartbeat) : Prop :=
  ∃ d, s.devices.lookup hb.deviceId = some d ∧ d.lastHeartbeatEpoch = hb.timestamp ∧
    d.connectivityStatus = hb.connectivityStatus ∧ d.firmwareVersion = hb.firmwareVersion ∧
    d.driverVersion = hb.driverVersion ∧ s.heartbeats.lookup d.deviceId = some hb

/-- The two are heartbeats of one device with different times, each acceptable when it is received. -/
structure Reordered (env : Env ω) (s : FleetOperationsService ω) (first : FleetHeartbeat) (t : Int)
    (second : FleetHeartbeat) (u : Int) : Prop where
  device : first.deviceId = second.deviceId
  times : first.timestamp ≠ second.timestamp
  first : Accepted env s first t
  second : Accepted env s second u

/-- Received one after the other, the two leave the report with the later time. -/
def LaterShown (env : Env ω) (s : FleetOperationsService ω) (first : FleetHeartbeat) (t : Int)
    (second : FleetHeartbeat) (u : Int) : Prop :=
  Reordered env s first t second u →
    ShowsLatest ((s.receiveHeartbeat env first t).1.receiveHeartbeat env second u).1
      (if first.timestamp < second.timestamp then second else first)

/-- What a heartbeat is judged by. -/
structure Acceptable (env : Env ω) (d : FleetDevice) (hb : FleetHeartbeat) (now : Int) : Prop where
  tenant : hb.tenantId = d.tenantId
  kept : d.retired = false
  timely : (hb.timestamp ≤ 0 || now - hb.timestamp > env.heartbeatTimeoutSeconds || hb.timestamp > now + 30) = false
  free : d.lifecycleState ≠ "quarantined"
  capable : capabilityKnownLocked d = true
  firmware : knownVersion hb.firmwareVersion = true
  driver : knownVersion hb.driverVersion = true
  consistent : hb.inventorySummary.value "contradiction" Json.getBool false = .ok false

def heardDevice (d : FleetDevice) (hb : FleetHeartbeat) : FleetDevice :=
  { d with
    firmwareVersion := hb.firmwareVersion, driverVersion := hb.driverVersion
    connectivityStatus := hb.connectivityStatus, lastHeartbeatEpoch := hb.timestamp
    lastHeartbeatAt := epochString hb.timestamp }

variable {env : Env ω} {s : FleetOperationsService ω} {hb : FleetHeartbeat} {now : Int} {d : FleetDevice}

theorem Acceptable.heard {hb' : FleetHeartbeat} (h : Acceptable env d hb now) : Acceptable env (heardDevice d hb') hb now :=
  ⟨h.tenant, h.kept, h.timely, h.free, h.capable, h.firmware, h.driver, h.consistent⟩

theorem receive_of_acceptable (hd : s.devices.lookup hb.deviceId = some d) (h : Acceptable env d hb now) :
    Accepted env s hb now ∧ (s.receiveHeartbeat env hb now).1.devices = s.devices.insert hb.deviceId (heardDevice d hb) ∧
      (s.receiveHeartbeat env hb now).1.heartbeats = s.heartbeats.insert d.deviceId hb := by
  unfold Accepted receiveHeartbeat
  simp only [hd, h.tenant, h.kept, h.timely, h.free, h.capable, h.firmware, h.driver, h.consistent, ne_eq, not_true_eq_false,
    if_false, Bool.false_eq_true, Bool.not_true]
  refine ⟨trivial, ?_, ?_⟩
  · simp [heardDevice, h.kept]
  · simp

theorem acceptable_of_accepted (h : Accepted env s hb now) :
    ∃ d, s.devices.lookup hb.deviceId = some d ∧ Acceptable env d hb now := by
  unfold Accepted receiveHeartbeat at h
  split at h
  · cases h
  · rename_i d hd
    dsimp only at h
    split_ifs at h with htenant hretired htimely hstate hcapability hfirmware hdriver
    · cases h
    · cases h
    · cases h
    · cases h
    · cases h
    · cases h
    · cases h
    · split at h
      · cases h
      · cases h
      · rename_i hcontradiction
        exact ⟨d, hd, not_not.mp htenant, by simpa using hretired, by simpa using htimely, hstate, by simpa using hcapability,
          by simpa using hfirmware, by simpa using hdriver, hcontradiction⟩

/-- After two heartbeats that are each acceptable the device shows the second. -/
theorem showsLatest_second {first second : FleetHeartbeat} {t u : Int} (h : Reordered env s first t second u) :
    ShowsLatest ((s.receiveHeartbeat env first t).1.receiveHeartbeat env second u).1 second := by
  obtain ⟨d, hd, hfirst⟩ := acceptable_of_accepted h.first
  obtain ⟨d', hd', hsecond⟩ := acceptable_of_accepted h.second
  rw [← h.device] at hd'
  obtain rfl := Option.some.inj (hd.symm.trans hd')
  obtain ⟨-, hdevices, -⟩ := receive_of_acceptable hd hfirst
  have hd₁ : (s.receiveHeartbeat env first t).1.devices.lookup second.deviceId = some (heardDevice d first) := by
    rw [hdevices, ← h.device]
    exact AList.lookup_insert _
  obtain ⟨-, hdevices', hheartbeats'⟩ := receive_of_acceptable hd₁ hsecond.heard
  refine ⟨heardDevice (heardDevice d first) second, ?_, rfl, rfl, rfl, rfl, ?_⟩
  · rw [hdevices']
    exact AList.lookup_insert _
  · rw [hheartbeats']
    exact AList.lookup_insert _

/-- Two heartbeats leave the later report exactly if they arrive in the order of their times. -/
theorem later_shown_iff (env : Env ω) (s : FleetOperationsService ω) (first : FleetHeartbeat) (t : Int)
    (second : FleetHeartbeat) (u : Int) : LaterShown env s first t second u ↔
      (Reordered env s first t second u → first.timestamp < second.timestamp) := by
  refine forall_congr' fun h => ?_
  obtain ⟨d, hd, hepoch, -⟩ := showsLatest_second h
  constructor
  · intro hlatest
    by_contra hlt
    rw [if_neg hlt] at hlatest
    obtain ⟨d', hd', hepoch', -⟩ := hlatest
    rw [h.device] at hd'
    obtain rfl := Option.some.inj (hd.symm.trans hd')
    exact h.times (hepoch'.symm.trans hepoch)
  · intro hlt
    rw [if_pos hlt]
    exact showsLatest_second h

def sampleRegistry : FleetOperationsService Unit where
  devices := (∅ : Dict String FleetDevice).insert "dev-1" sampleDevice
  world := ()

/-- A heartbeat that is held up on its way replaces a later one. -/
theorem late_heartbeat_wins : ¬ ∀ (env : Env Unit) s first t second u, LaterShown env s first t second u := by
  intro h
  have hlate : Reordered { digest := ⟨fun _ => "", fun _ => ""⟩ } sampleRegistry sampleHeartbeat 106
      { sampleHeartbeat with timestamp := 100 } 107 := by
    refine ⟨rfl, by decide, ?_, ?_⟩ <;> unfold Accepted <;> decide +kernel
  obtain ⟨d, hd, hepoch, -⟩ := h _ _ _ _ _ _ hlate
  obtain ⟨d', hd', hepoch', -⟩ := showsLatest_second hlate
  obtain rfl := Option.some.inj (hd.symm.trans hd')
  exact absurd (hepoch.symm.trans hepoch') (by decide)

end Drawer.FleetOps
