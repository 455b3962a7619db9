import Drawer.Lib.Numeral
import Drawer.Spec.FleetControl

/-! The cash intelligence service: the ledger, inventories, reconciliation and the
queries over them. Amounts and times are whole numbers, which the code's `long`s are
as long as no sum of them overflows. Writing to the store is left out. -/

namespace Drawer.Cash
open Text
open FleetControl (FleetControlPlane idFor)

/-- Quantities by denomination; the names of the denominations are bytes. -/
abbrev DenominationBreakdown := List (Bytes × Int32)

structure CashLedgerEntry where
  ledgerEntryId : String := ""
  eventType : String := ""
  eventId : String := ""
  deviceId : String := ""
  merchantId : String := ""
  branchId : String := ""
  region : String := ""
  currency : String := ""
  denominations : DenominationBreakdown := []
  expectedBalance : Int := 0
  observedBalance : Int := 0
  variance : Int := 0
  actorId : String := ""
  actorRole : String := ""
  occurredAtEpoch : Int := 0
  auditEventId : String := ""
  duplicate : Bool := false
  deriving DecidableEq

structure DenominationInventory where
  scopeType : String := "device"
  scopeId : String := ""
  currency : String := ""
  quantities : DenominationBreakdown := []
  updatedAtEpoch : Int := 0
  deriving DecidableEq

structure ReconciliationReport where
  reportId : String := ""
  scopeType : String := ""
  scopeId : String := ""
  merchantId : String := ""
  branchId : String := ""
  region : String := ""
  currency : String := ""
  expectedBalance : Int := 0
  observedBalance : Int := 0
  variance : Int := 0
  status : String := "balanced"
  findings : List String := []
  startedAtEpoch : Int := 0
  completedAtEpoch : Int := 0
  auditEventId : String := ""
  deriving DecidableEq

structure CashAnomaly where
  anomalyId : String := ""
  scopeType : String := ""
  scopeId : String := ""
  deviceId : String := ""
  merchantId : String := ""
  branchId : String := ""
  region : String := ""
  type : String := ""
  severity : String := "warning"
  explanation : String := ""
  detectedAtEpoch : Int := 0
  deriving DecidableEq

structure CashEvent where
  eventId : String := ""
  scopeType : String := ""
  scopeId : String := ""
  deviceId : String := ""
  merchantId : String := ""
  branchId : String := ""
  region : String := ""
  type : String := ""
  occurredAtEpoch : Int := 0
  metadata : Json String := .null

structure CashFilter where
  organizationId : String := ""
  deviceId : String := ""
  merchantId : String := ""
  branchId : String := ""
  region : String := ""
  currency : String := ""

structure CashIntelligenceService where
  fleet : Option FleetControlPlane := none
  ledger : List CashLedgerEntry := []
  reports : List ReconciliationReport := []
  anomalies : List CashAnomaly := []
  events : List CashEvent := []
  inventories : Dict String DenominationInventory := ∅
  denominationSets : Dict String (List Int) := ∅
  seenEventIds : List String := []

/-- The sets every service starts with. -/
def defaultSets : Dict String (List Int) :=
  AList.insert "USD" [1, 5, 10, 25, 100, 500, 1000, 2000, 5000, 10000] <|
    AList.insert "KES" [50, 100, 500, 1000, 5000, 10000] <|
      AList.insert "NGN" [500, 1000, 2000, 5000, 10000, 20000, 50000, 100000] ∅

/-! ### Validation -/

def currencyCodeOk (currency : String) : Bool :=
  currency.utf8ByteSize = 3 && currency.toList.all fun c => 'A' ≤ c && c ≤ 'Z'

/-- One denomination of a breakdown in a currency whose set is known or not. -/
def denominationOk (known : Option (List Int)) (item : Bytes × Int32) : Bool :=
  match stoi item.1 with
  | .error _ => false
  | .ok denom => !(item.2 < 0) && known.all fun denoms => denom ∈ denoms

def validateDenominations (sets : Dict String (List Int)) (currency : String) (breakdown : DenominationBreakdown) : Bool :=
  currencyCodeOk currency && breakdown.all (denominationOk (sets.lookup currency))

namespace CashIntelligenceService

/-! ### Writes -/

def eventLocked (s : CashIntelligenceService) (scopeType scopeId deviceId merchantId branchId region type : String)
    (now : Int) (metadata : Json String := .null) : CashIntelligenceService :=
  { s with events := s.events ++ [{ eventId := idFor "cash-event" s.events.length, scopeType, scopeId, deviceId
                                    merchantId, branchId, region, type, occurredAtEpoch := now, metadata }] }

/-- What an entry must have to be taken. -/
def entryOk (sets : Dict String (List Int)) (entry : CashLedgerEntry) : Bool :=
  entry.deviceId ≠ "" && entry.currency ≠ "" && validateDenominations sets entry.currency entry.denominations

/-- The entry as it is stored: named, marked if its event was seen, with its variance. -/
def completed (s : CashIntelligenceService) (entry : CashLedgerEntry) : CashLedgerEntry :=
  { entry with
    ledgerEntryId := if entry.ledgerEntryId = "" then idFor "cash-ledger" s.ledger.length else entry.ledgerEntryId
    auditEventId := if entry.auditEventId = "" then idFor "cash-audit" s.events.length else entry.auditEventId
    duplicate := entry.duplicate || (entry.eventId ≠ "" && entry.eventId ∈ s.seenEventIds)
    variance := entry.observedBalance - entry.expectedBalance }

def addLedgerEntry (s : CashIntelligenceService) (entry : CashLedgerEntry) : CashIntelligenceService × Bool :=
  if !entryOk s.denominationSets entry then (s, false)
  else
    let stored := s.completed entry
    ({ s with
        ledger := s.ledger ++ [stored]
        seenEventIds := if entry.eventId = "" then s.seenEventIds else entry.eventId :: s.seenEventIds }.eventLocked
      "device" stored.deviceId stored.deviceId stored.merchantId stored.branchId stored.region
      "cash_ledger_entry_created" stored.occurredAtEpoch (.obj [("ledger_entry_id", .str stored.ledgerEntryId)]), true)

def inventoryKey (scopeType scopeId currency : String) : String := scopeType ++ ":" ++ scopeId ++ ":" ++ currency

/-- The device of a scope that is a device. -/
def scopeDevice (scopeType scopeId : String) : String := if scopeType = "device" then scopeId else ""

def updateInventory (s : CashIntelligenceService) (inventory : DenominationInventory) : CashIntelligenceService × Bool :=
  if !validateDenominations s.denominationSets inventory.currency inventory.quantities || inventory.scopeId = "" then
    (s, false)
  else
    let key := inventoryKey inventory.scopeType inventory.scopeId inventory.currency
    ({ s with inventories := s.inventories.insert key inventory }.eventLocked
      inventory.scopeType inventory.scopeId (scopeDevice inventory.scopeType inventory.scopeId) "" "" ""
      "replenishment_recommendation_created" inventory.updatedAtEpoch (.obj [("inventory_updated", .bool true)]), true)

/-! ### Reconciliation -/

def scopeMatches (scopeType scopeId : String) (entry : CashLedgerEntry) : Bool :=
  if scopeType = "device" then entry.deviceId = scopeId
  else if scopeType = "branch" then entry.branchId = scopeId
  else if scopeType = "merchant" then entry.merchantId = scopeId
  else if scopeType = "region" then entry.region = scopeId
  else false

/-- What the loop over the matching entries gathers. -/
structure Tally where
  expected : Int := 0
  merchantId : String := ""
  branchId : String := ""
  region : String := ""
  seen : List String := []
  duplicate : Bool := false
  drawerOpen : Bool := false
  staleInventory : Bool := false
  matched : ℕ := 0
  deriving DecidableEq

def tallyEntry (now : Int) (t : Tally) (entry : CashLedgerEntry) : Tally where
  expected := t.expected + entry.expectedBalance
  merchantId := if t.merchantId = "" then entry.merchantId else t.merchantId
  branchId := if t.branchId = "" then entry.branchId else t.branchId
  region := if t.region = "" then entry.region else t.region
  seen := if entry.eventId = "" then t.seen else entry.eventId :: t.seen
  duplicate := t.duplicate || (entry.eventId ≠ "" && entry.eventId ∈ t.seen) || entry.duplicate
  drawerOpen := t.drawerOpen || entry.eventType = "drawer_open"
  staleInventory := t.staleInventory || (entry.eventType = "inventory_snapshot" && now - entry.occurredAtEpoch > 86400)
  matched := t.matched + 1

def matching (scopeType scopeId currency : String) (entry : CashLedgerEntry) : Bool :=
  scopeMatches scopeType scopeId entry && entry.currency = currency

def tally (s : CashIntelligenceService) (scopeType scopeId currency : String) (now : Int) : Tally :=
  (s.ledger.filter (matching scopeType scopeId currency)).foldl (tallyEntry now) {}

def absLong (n : Int) : Int := if n < 0 then -n else n

/-- The status and the finding that goes with it. -/
def verdict (t : Tally) (variance : Int) : String × List String :=
  if absLong variance = 0 ∧ !t.duplicate ∧ !t.drawerOpen ∧ !t.staleInventory then ("balanced", [])
  else if t.duplicate then ("unresolved", ["duplicate_events"])
  else if t.drawerOpen ∧ 0 < absLong variance then ("suspected_fraud", ["unexplained_drawer_open"])
  else if variance < -5000 then ("suspected_loss", ["shortage"])
  else if 10000 < absLong variance then ("major_variance", [])
  else if 0 < absLong variance then ("minor_variance", [])
  else ("balanced", [])

def reportOf (s : CashIntelligenceService) (scopeType scopeId currency : String) (observed now : Int) :
    ReconciliationReport :=
  let t := s.tally scopeType scopeId currency now
  let variance := observed - t.expected
  let (status, findings) := verdict t variance
  { reportId := idFor "recon" s.reports.length, scopeType, scopeId, merchantId := t.merchantId, branchId := t.branchId
    region := t.region, currency, expectedBalance := t.expected, observedBalance := observed, variance
    status := if t.matched = 0 then "unresolved" else status
    findings := findings ++ (if t.staleInventory then ["stale_inventory"] else []) ++
      (if t.matched = 0 then ["missing_events"] else [])
    startedAtEpoch := now, completedAtEpoch := now, auditEventId := idFor "cash-audit" s.events.length }

def reconcile (s : CashIntelligenceService) (scopeType scopeId currency : String) (observed now : Int) :
    CashIntelligenceService × ReconciliationReport :=
  let report := s.reportOf scopeType scopeId currency observed now
  let deviceId := scopeDevice scopeType scopeId
  let s := s.eventLocked scopeType scopeId deviceId "" "" "" "reconciliation_started" now
  let s :=
    if 0 < absLong report.variance then
      s.eventLocked scopeType scopeId deviceId report.merchantId report.branchId report.region
        "reconciliation_variance_detected" now (.obj [("variance", .int report.variance)])
    else s
  let s := { s with reports := s.reports ++ [report] }
  (s.eventLocked scopeType scopeId deviceId report.merchantId report.branchId report.region
    "reconciliation_completed" now (.obj [("report_id", .str report.reportId), ("status", .str report.status)]), report)

/-! ### Queries -/

/-- A filter that is not set lets everything pass. -/
def passes (wanted value : String) : Bool := wanted = "" || value = wanted

def filterMatches (s : CashIntelligenceService) (filter : CashFilter) (entry : CashLedgerEntry) : Bool :=
  passes filter.deviceId entry.deviceId && passes filter.merchantId entry.merchantId &&
  passes filter.branchId entry.branchId && passes filter.region entry.region &&
  passes filter.currency entry.currency &&
  (filter.organizationId = "" ||
    match s.fleet with
    | none => false
    | some fleet => (fleet.device entry.deviceId).any fun d => d.organizationId = filter.organizationId)

def ledgerEntries (s : CashIntelligenceService) (filter : CashFilter) : List CashLedgerEntry :=
  s.ledger.filter (s.filterMatches filter)

/-- A filter on a scope is for records of just that scope. -/
def scopeIs (wanted scopeType recordType recordId : String) : Bool :=
  wanted = "" || (recordType = scopeType && recordId = wanted)

def inventoryMatches (filter : CashFilter) (inv : DenominationInventory) : Bool :=
  passes filter.currency inv.currency && scopeIs filter.deviceId "device" inv.scopeType inv.scopeId &&
  scopeIs filter.branchId "branch" inv.scopeType inv.scopeId &&
  scopeIs filter.merchantId "merchant" inv.scopeType inv.scopeId &&
  scopeIs filter.region "region" inv.scopeType inv.scopeId

/-- `inventories`. -/
def inventoriesFor (s : CashIntelligenceService) (filter : CashFilter) : List DenominationInventory :=
  (s.inventories.entries.map Sigma.snd).filter (inventoryMatches filter)

def reportMatches (filter : CashFilter) (report : ReconciliationReport) : Bool :=
  passes filter.currency report.currency && passes filter.merchantId report.merchantId &&
  passes filter.branchId report.branchId && passes filter.region report.region &&
  scopeIs filter.deviceId "device" report.scopeType report.scopeId

/-- `reports`. -/
def reportsFor (s : CashIntelligenceService) (filter : CashFilter) : List ReconciliationReport :=
  s.reports.filter (reportMatches filter)

/-- The filter of `anomalies` and `events`. -/
def placeMatches (filter : CashFilter) (deviceId merchantId branchId region : String) : Bool :=
  passes filter.deviceId deviceId && passes filter.merchantId merchantId && passes filter.branchId branchId &&
  passes filter.region region

/-- `anomalies`. -/
def anomaliesFor (s : CashIntelligenceService) (filter : CashFilter) : List CashAnomaly :=
  s.anomalies.filter fun a => placeMatches filter a.deviceId a.merchantId a.branchId a.region

/-- `events`. -/
def eventsFor (s : CashIntelligenceService) (filter : CashFilter) : List CashEvent :=
  s.events.filter fun e => placeMatches filter e.deviceId e.merchantId e.branchId e.region

end CashIntelligenceService
end Drawer.Cash
