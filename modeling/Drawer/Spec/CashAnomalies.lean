import Drawer.Spec.CashIntelligence

/-! The search for anomalies in the ledger of a scope, and the health score of the scope,
which the anomalies found so far count against. And what is forecast of its cash. -/

namespace Drawer.Cash
open FleetControl (FleetControlPlane idFor)

/-! ### The rules -/

/-- A shortage that is small by itself. -/
def smallShortage (entry : CashLedgerEntry) : Bool := entry.variance < 0 && -1000 < entry.variance

def largeVariance (entry : CashLedgerEntry) : Bool := entry.variance ≤ -10000

/-- The drawer was opened before six or after ten; a time before the epoch counts as early. -/
def afterHours (entry : CashLedgerEntry) : Bool :=
  entry.eventType = "drawer_open" &&
    (entry.occurredAtEpoch.tmod 86400 < 21600 || 79200 < entry.occurredAtEpoch.tmod 86400)

def manualAdjustment (entry : CashLedgerEntry) : Bool := entry.eventType = "manual_adjustment"

def cashOut (entry : CashLedgerEntry) : Bool := entry.eventType = "cash_out"

/-- What the loop over the entries of a scope gathers. -/
structure Scan where
  smallShortages : ℕ := 0
  manualAdjustments : ℕ := 0
  cashOut : ℕ := 0
  created : List CashAnomaly := []

namespace CashIntelligenceService

variable (s : CashIntelligenceService) (scopeType scopeId : String) (now : Int)

/-- One more anomaly, about an entry or about the whole scope. -/
def found (created : List CashAnomaly) (entry : CashLedgerEntry) (type severity explanation : String) : List CashAnomaly :=
  created ++ [{ anomalyId := idFor "cash-anomaly" (s.anomalies.length + created.length), scopeType, scopeId
                deviceId := entry.deviceId, merchantId := entry.merchantId, branchId := entry.branchId
                region := entry.region, type, severity, explanation, detectedAtEpoch := now }]

def scanEntry (t : Scan) (entry : CashLedgerEntry) : Scan :=
  let created := t.created
  let created :=
    if largeVariance entry then
      s.found scopeType scopeId now created entry "large_one_time_variance" "critical"
        "observed cash is materially below expected cash"
    else created
  let created :=
    if afterHours entry then
      s.found scopeType scopeId now created entry "after_hours_drawer_activity" "warning"
        "drawer opened outside configured operating window"
    else created
  { smallShortages := t.smallShortages + if smallShortage entry then 1 else 0
    manualAdjustments := t.manualAdjustments + if manualAdjustment entry then 1 else 0
    cashOut := t.cashOut + if Cash.cashOut entry then 1 else 0
    created }

def scan : Scan := (s.ledger.filter (scopeMatches scopeType scopeId)).foldl (s.scanEntry scopeType scopeId now) {}

/-- The anomalies that a search creates. -/
def anomaliesIn : List CashAnomaly :=
  let t := s.scan scopeType scopeId now
  let created := t.created
  let created :=
    if 3 ≤ t.smallShortages then
      s.found scopeType scopeId now created {} "repeated_small_shortages" "warning"
        "multiple small negative variances detected"
    else created
  let created :=
    if 3 < t.manualAdjustments then
      s.found scopeType scopeId now created {} "excessive_manual_adjustments" "warning"
        "manual adjustments exceed pilot baseline"
    else created
  if 5 < t.cashOut then
    s.found scopeType scopeId now created {} "unusual_cash_out_frequency" "warning"
      "cash-out count exceeds deterministic threshold"
  else created

/-- An anomaly is kept, with an event and, where there is a fleet, an alert. -/
def recordAnomaly (s : CashIntelligenceService) (anomaly : CashAnomaly) : CashIntelligenceService :=
  let s := { s with anomalies := s.anomalies ++ [anomaly] }.eventLocked scopeType scopeId anomaly.deviceId
    anomaly.merchantId anomaly.branchId anomaly.region "cash_anomaly_detected" now
    (.obj [("type", .str anomaly.type), ("severity", .str anomaly.severity)])
  match s.fleet with
  | none => s
  | some fleet =>
    let org :=
      if anomaly.deviceId = "" then "" else ((fleet.device anomaly.deviceId).map fun d => d.organizationId).getD ""
    { s with fleet := (fleet.createAlert org anomaly.deviceId anomaly.type anomaly.severity anomaly.explanation now).1 }

def detectAnomalies : CashIntelligenceService × List CashAnomaly :=
  let created := s.anomaliesIn scopeType scopeId now
  (created.foldl (recordAnomaly scopeType scopeId now) s, created)

end CashIntelligenceService

/-! ### The score -/

structure CashHealthScore where
  scopeType : String
  scopeId : String
  score : Int32
  /-- In the order of the names. -/
  factors : List (String × Int32)
  explanations : List String
  deriving DecidableEq

def severityWeight (severity : String) : Int32 :=
  if severity = "critical" then 25 else if severity = "warning" then 10 else 4

namespace CashIntelligenceService

variable (s : CashIntelligenceService) (scopeType scopeId : String)

/-- The greatest variance that was reported of the scope. -/
def worstVariance : Int :=
  ((s.reports.filter fun r => r.scopeType = scopeType && r.scopeId = scopeId).map fun r => absLong r.variance).foldl max 0

/-- The inventories of the scope that are more than a day behind the newest event. -/
def staleInventories : Int32 :=
  Int32.ofNat <| s.inventories.entries.countP fun e =>
    e.2.scopeType = scopeType && e.2.scopeId = scopeId && 0 < e.2.updatedAtEpoch &&
      ((s.events.map CashEvent.occurredAtEpoch).max?).any fun newest => 86400 < newest - e.2.updatedAtEpoch

def anomalyPenalty : Int32 :=
  ((s.anomalies.filter fun a => a.scopeType = scopeType && a.scopeId = scopeId).map fun a =>
    severityWeight a.severity).sum

/-- The score that is reported; its event and its metrics are left out. -/
def healthScore : CashHealthScore :=
  let variance := Int32.ofInt (min 40 (s.worstVariance scopeType scopeId / 1000))
  let stale := s.staleInventories scopeType scopeId * 10
  let anomalies := s.anomalyPenalty scopeType scopeId
  let factors := [("anomalies", anomalies), ("offline_duration", 0), ("stale_inventory", stale), ("sync_health", 0),
    ("transaction_failures", 0), ("variance", variance)]
  { scopeType, scopeId
    score := max 0 (100 - (factors.map Prod.snd).sum)
    factors
    explanations := (if 0 < variance then ["reconciliation variance reduced score"] else []) ++
      (if 0 < stale then ["stale inventory reduced score"] else []) ++
      if 0 < anomalies then ["cash anomalies reduced score"] else [] }

end CashIntelligenceService

/-! ### Asking twice -/

/-- A second search leaves the anomalies, the alerts of the fleet and the score of the scope as the first left them. -/
def FoundOnce (s : CashIntelligenceService) (scopeType scopeId : String) (now later : Int) : Prop :=
  let once := (s.detectAnomalies scopeType scopeId now).1
  let twice := (once.detectAnomalies scopeType scopeId later).1
  twice.anomalies = once.anomalies ∧ twice.fleet.map FleetControlPlane.alerts = once.fleet.map FleetControlPlane.alerts ∧
    twice.healthScore scopeType scopeId = once.healthScore scopeType scopeId

/-- No rule finds anything in the ledger of the scope. -/
structure Quiet (ledger : List CashLedgerEntry) : Prop where
  large : ∀ e ∈ ledger, largeVariance e = false
  hours : ∀ e ∈ ledger, afterHours e = false
  shortages : ledger.countP smallShortage < 3
  adjustments : ledger.countP manualAdjustment ≤ 3
  outs : ledger.countP cashOut ≤ 5

/-! ### Forecasts -/

structure CashForecast where
  forecastId : String := ""
  scopeType : String := ""
  scopeId : String := ""
  currency : String := ""
  expectedDepletionEpoch : Int := 0
  expectedSurplusEpoch : Int := 0
  recommendedReplenishmentEpoch : Int := 0
  highRiskShortageWindows : List String := []
  confidence : String := "low"
  explanation : String := ""
  deriving DecidableEq

/-- What the loop over the matching entries gathers. A time of zero stands for none. -/
structure Movement where
  net : Int64 := 0
  count : Int32 := 0
  latestObserved : Int64 := 0
  firstTime : Int64 := 0
  lastTime : Int64 := 0
  deriving DecidableEq

namespace Movement

def add (t : Movement) (entry : CashLedgerEntry) : Movement :=
  let time := Int64.ofInt entry.occurredAtEpoch
  { net := t.net + (Int64.ofInt entry.observedBalance - Int64.ofInt entry.expectedBalance)
    count := t.count + 1
    latestObserved := Int64.ofInt entry.observedBalance
    firstTime := if t.firstTime = 0 ∨ time < t.firstTime then time else t.firstTime
    lastTime := if t.lastTime < time then time else t.lastTime }

def elapsedHours (t : Movement) : Int64 := max 1 ((t.lastTime - t.firstTime) / 3600)

def hourlyChange (t : Movement) : Int64 := if t.count = 0 then 0 else t.net / t.elapsedHours

def confidence (t : Movement) : String := if 5 ≤ t.count then "high" else if 2 ≤ t.count then "medium" else "low"

/-- What is forecast from a movement. -/
def forecast (t : Movement) (now : Int64) : CashForecast :=
  if t.hourlyChange < 0 ∧ 0 < t.latestObserved then
    let depletion := now + t.latestObserved / max 1 (-t.hourlyChange) * 3600
    let replenishment := max now (depletion - 12 * 3600)
    { expectedDepletionEpoch := depletion.toInt, recommendedReplenishmentEpoch := replenishment.toInt
      highRiskShortageWindows := [toString replenishment.toInt ++ "-" ++ toString depletion.toInt] }
  else if 0 < t.hourlyChange then { expectedSurplusEpoch := (now + 24 * 3600).toInt }
  else {}

end Movement

/-- The movement of the cash of a scope. -/
def CashIntelligenceService.movement (s : CashIntelligenceService) (scopeType scopeId currency : String) : Movement :=
  (s.ledger.filter (matching scopeType scopeId currency)).foldl Movement.add {}

/-- `forecast`, where `made` are the forecasts so far. -/
def CashIntelligenceService.forecast (s : CashIntelligenceService) (made : List CashForecast) (scopeType scopeId currency : String)
    (now : Int64) : CashIntelligenceService × List CashForecast × CashForecast :=
  let t := s.movement scopeType scopeId currency
  let fc := { t.forecast now with
    forecastId := idFor "cash-forecast" made.length, scopeType, scopeId, currency
    confidence := t.confidence, explanation := "deterministic hourly cash movement baseline" }
  (s.eventLocked scopeType scopeId (scopeDevice scopeType scopeId) "" "" "" "cash_forecast_generated" now.toInt
    (.obj [("forecast_id", .str fc.forecastId)]), made ++ [fc], fc)

/-- A number of type `long`. -/
def IsLong (n : Int) : Prop := -9223372036854775808 ≤ n ∧ n ≤ 9223372036854775807

instance : DecidablePred IsLong := fun n => inferInstanceAs (Decidable (_ ∧ _))

/-- The entries are of `long`s, and what is computed of cash that was `latest` at last, and has changed by `net` in so many
hours, is one too. -/
structure WithinLong (own : List CashLedgerEntry) (latest net hours now : Int) : Prop where
  many : own.length < 2147483648
  entries : ∀ x ∈ own, IsLong x.observedBalance ∧ IsLong x.occurredAtEpoch
  change : IsLong net
  loss : hours ≤ -net → 0 < latest → IsLong (-net / hours) ∧ IsLong (now + latest / (-net / hours) * 3600) ∧
    IsLong (now + latest / (-net / hours) * 3600 - 43200)
  gain : hours ≤ net → IsLong (now + 86400)

/-- What is to be foretold of cash that was `latest` at last, and has changed by `net` in so many hours: when it lasts no
further hour at that rate, and a time to replenish it within the twelve hours before. A loss of less than one an hour is
taken for none. -/
structure Foretells (latest net hours now : Int) (fc : CashForecast) : Prop where
  shortage : fc.highRiskShortageWindows ≠ [] ↔ hours ≤ -net ∧ 0 < latest
  depletion : hours ≤ -net → 0 < latest → ∃ left : ℕ, fc.expectedDepletionEpoch = now + left * 3600 ∧
    left * (-net / hours) ≤ latest ∧ latest < (left + 1) * (-net / hours)
  replenishment : hours ≤ -net → 0 < latest → now ≤ fc.recommendedReplenishmentEpoch ∧
    fc.recommendedReplenishmentEpoch ≤ fc.expectedDepletionEpoch ∧
    fc.expectedDepletionEpoch - 43200 ≤ fc.recommendedReplenishmentEpoch
  surplus : fc.expectedSurplusEpoch = if hours ≤ net then now + 86400 else 0

end Drawer.Cash
