import Drawer.Spec.DeviceTwin

/-! The analytics a twin is enriched with: health score, maintenance, inventory
forecast and alerts. Doubles are their exact values, and narrow integers wrap. -/

namespace Drawer.Twin

/-- What the host answers while a twin is enriched and synchronised. -/
structure Host where
  /-- The time of the enrichment and that after the push. -/
  nowIso : String := ""
  syncedIso : String := ""
  isoDaysFromNow : ℕ → String := fun _ => ""
  /-- `ostream << double`. -/
  formatDouble : ℚ → String := toString

/-! ### Health -/

/-- A value that counts against the score, and the most of it that may count. -/
structure Penalty where
  value : Int32
  cap : Int32
  reason : String

def Penalty.applied (p : Penalty) : Int32 := if p.cap < p.value then p.cap else p.value

def penalties (h : DrawerHealth) : List Penalty :=
  [⟨h.jamCount * 4, 20, "jam_count"⟩, ⟨h.dispenseFailures * 6, 24, "dispense_failures"⟩,
    ⟨Int32.ofInt (|h.scaleDriftG| * 3).ceil, 15, "scale_drift"⟩,
    ⟨h.selfTestFailures * 10, 20, "self_test_failures"⟩, ⟨h.communicationOutages * 5, 15, "communication_outages"⟩,
    ⟨h.hopperDepletionEvents * 4, 12, "hopper_depletion_frequency"⟩] ++
  if h.uptimePercent < 99 then [⟨Int32.ofInt ((99 - h.uptimePercent) * 2).ceil, 10, "low_uptime"⟩] else []

def clampScore (n : Int32) : Int32 := if n < 0 then 0 else if 100 < n then 100 else n

/-- `HealthScoringEngine::score`. -/
def scoreHealth (h : DrawerHealth) : DrawerHealth :=
  let counted := (penalties h).filter fun p => 0 < p.applied
  { h with reasons := counted.map Penalty.reason, score := clampScore (100 - (counted.map Penalty.applied).sum) }

/-! ### Maintenance -/

def clamp01 (q : ℚ) : ℚ := if q < 0 then 0 else if 1 < q then 1 else q

/-- `std::round` to three places, of a number that is not negative. -/
def roundMilli (q : ℚ) : ℚ := ((q * 1000 + 1 / 2).floor : ℚ) / 1000

/-- `PredictiveMaintenanceEngine::evaluate`. -/
def evaluateMaintenance (host : Host) (h : DrawerHealth) : MaintenanceAssessment :=
  let motor := clamp01 (h.motorCycles.toInt / 250000)
  let jams := clamp01 (h.jamCount.toInt / 12)
  let drift := clamp01 (|h.scaleDriftG| / 5)
  let latency := clamp01 (h.transactionLatencyMs / 5000)
  let uptime := clamp01 ((100 - h.uptimePercent) / 10)
  let probability := clamp01 (motor * (25 / 100) + jams * (25 / 100) + drift * (20 / 100) + latency * (15 / 100) +
    uptime * (15 / 100))
  let (priority, days) :=
    if 70 / 100 ≤ probability then ("critical", 1) else if 40 / 100 ≤ probability then ("warning", 7) else ("low", 30)
  { predictedFailureProbability := roundMilli probability
    recommendedServiceDate := host.isoDaysFromNow days
    maintenancePriority := priority
    drivers := [(motor, 1 / 2, "motor_wear"), (jams, 1 / 2, "jam_frequency"), (drift, 1 / 2, "scale_calibration_drift"),
      (latency, 1 / 2, "transaction_latency"), (uptime, (2 : ℚ) / 10, "uptime_percentage")].filterMap fun
        | (share, bound, driver) => if bound ≤ share then some driver else none }

/-! ### Inventory -/

/-- Hours until the denomination runs out, if it is used at all. -/
def hoursLeft (inv : DenominationInventory) : Option ℚ :=
  if 0 < inv.consumptionPerHour then some (max 0 inv.quantity.toInt / inv.consumptionPerHour) else none

def refillsFor (inv : DenominationInventory) : List String :=
  (match hoursLeft inv with
    | none => []
    | some hours =>
      if hours ≤ 12 then ["refill " ++ inv.denomination ++ " within 12 hours"]
      else if hours ≤ 24 then ["schedule " ++ inv.denomination ++ " refill"]
      else []) ++
  if 0 < inv.capacity ∧ inv.quantity.toInt < ((inv.capacity.toInt : ℚ) * (15 / 100)).floor then
    ["top off low " ++ inv.denomination ++ " hopper"]
  else []

/-- `InventoryForecastEngine::forecast`. -/
def forecastInventory (host : Host) (inventory : InventoryState) : InventoryForecast :=
  let invs := inventory.denominations.map Prod.snd
  { hoursUntilEmpty := ((invs.filterMap hoursLeft).min?).getD 0
    refillRecommendations := invs.flatMap refillsFor
    depletionTrends := (invs.filter fun inv => 0 < inv.consumptionPerHour).map fun inv =>
      inv.denomination ++ " depletion at " ++ host.formatDouble inv.consumptionPerHour ++ "/hour" }

/-! ### Alerts -/

/-- `AlertEngine::evaluate`. -/
def evaluateAlerts (host : Host) (twin : DrawerTwin) : List Alert :=
  let add (type severity message : String) : Alert :=
    { id := "alert-" ++ twin.drawerId ++ "-" ++ type, type, severity, message, createdAt := host.nowIso }
  let h := twin.health
  (if 6 ≤ h.jamCount then
    [add "repeated_jams" (if 10 ≤ h.jamCount then "critical" else "warning") "jam frequency exceeds fleet threshold"]
   else []) ++
  (if 3 ≤ h.communicationOutages ∨ twin.connectivityStatus ≠ "online" then
    [add "communication_failure"
      (if 5 ≤ h.communicationOutages ∨ twin.connectivityStatus = "offline" then "critical" else "warning")
      "device connectivity is degraded"]
   else []) ++
  (if 0 < h.selfTestFailures then
    [add "self_test_failure" (if 2 ≤ h.selfTestFailures then "critical" else "warning")
      "recent self-test failure reported"]
   else []) ++
  (if twin.firmware.currentVersion ≠ twin.firmware.targetVersion then
    [add "firmware_mismatch" "warning" "firmware does not match target version"]
   else []) ++
  (if 0 < twin.inventoryForecast.hoursUntilEmpty ∧ twin.inventoryForecast.hoursUntilEmpty ≤ 24 then
    [add "low_inventory" (if twin.inventoryForecast.hoursUntilEmpty ≤ 8 then "critical" else "warning")
      "one or more denominations are approaching depletion"]
   else [])

/-- `FleetManager::enrich`. -/
def enrich (host : Host) (twin : DrawerTwin) : DrawerTwin :=
  let health := scoreHealth twin.health
  let twin := { twin with health, maintenance := evaluateMaintenance host health
                          inventoryForecast := forecastInventory host twin.inventory }
  { twin with alerts := evaluateAlerts host twin }

end Drawer.Twin
