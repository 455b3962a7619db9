import Drawer.Lib.JsonRecord
import Drawer.Spec.CashIntelligence

/-! The store of the cash intelligence service: what is written after a request, and
what a new process reads. Forecasts are left out. -/

namespace Drawer.Cash
open Json Text
open FleetControl (FleetControlPlane)

/-! ### Records -/

def denominationsJson (b : DenominationBreakdown) : Except Exn (Json String) := do
  let members ← b.mapM fun item => do
    let name ← textOf item.1
    return (name, item.2)
  return .obj (members.map fun m => (m.1, .int m.2.toInt))

def readDenominations (j : Json String) : Except Exn DenominationBreakdown := do
  let members ← getObj getInt32 j
  return members.map fun m => (bytesOf m.1, m.2)

def CashLedgerEntry.toJson (v : CashLedgerEntry) : Except Exn (Json String) := do
  let denominations ← denominationsJson v.denominations
  return .obj [("ledger_entry_id", .str v.ledgerEntryId), ("event_type", .str v.eventType), ("event_id", .str v.eventId),
    ("device_id", .str v.deviceId), ("merchant_id", .str v.merchantId), ("branch_id", .str v.branchId),
    ("region", .str v.region), ("currency", .str v.currency), ("denominations", denominations),
    ("expected_balance", .int v.expectedBalance), ("observed_balance", .int v.observedBalance),
    ("variance", .int v.variance), ("actor_id", .str v.actorId), ("actor_role", .str v.actorRole),
    ("occurred_at_epoch", .int v.occurredAtEpoch), ("audit_event_id", .str v.auditEventId), ("duplicate", .bool v.duplicate)]

def CashLedgerEntry.fromJson (j : Json String) : Except Exn CashLedgerEntry := do
  let ledgerEntryId ← j.value "ledger_entry_id" getStr ""
  let eventType ← j.value "event_type" getStr ""
  let eventId ← j.value "event_id" getStr ""
  let deviceId ← j.value "device_id" getStr ""
  let merchantId ← j.value "merchant_id" getStr ""
  let branchId ← j.value "branch_id" getStr ""
  let region ← j.value "region" getStr ""
  let currency ← j.value "currency" getStr ""
  let denominations ← j.value "denominations" readDenominations []
  let expectedBalance ← j.value "expected_balance" getInt 0
  let observedBalance ← j.value "observed_balance" getInt 0
  let variance ← j.value "variance" getInt 0
  let actorId ← j.value "actor_id" getStr ""
  let actorRole ← j.value "actor_role" getStr ""
  let occurredAtEpoch ← j.value "occurred_at_epoch" getInt 0
  let auditEventId ← j.value "audit_event_id" getStr ""
  let duplicate ← j.value "duplicate" getBool false
  return { ledgerEntryId, eventType, eventId, deviceId, merchantId, branchId, region, currency, denominations
           expectedBalance, observedBalance, variance, actorId, actorRole, occurredAtEpoch, auditEventId, duplicate }

def DenominationInventory.toJson (v : DenominationInventory) : Except Exn (Json String) := do
  let quantities ← denominationsJson v.quantities
  return .obj [("scope_type", .str v.scopeType), ("scope_id", .str v.scopeId), ("currency", .str v.currency),
    ("quantities", quantities), ("updated_at_epoch", .int v.updatedAtEpoch)]

def DenominationInventory.fromJson (j : Json String) : Except Exn DenominationInventory := do
  let scopeType ← j.value "scope_type" getStr "device"
  let scopeId ← j.value "scope_id" getStr ""
  let currency ← j.value "currency" getStr ""
  let quantities ← j.value "quantities" readDenominations []
  let updatedAtEpoch ← j.value "updated_at_epoch" getInt 0
  return { scopeType, scopeId, currency, quantities, updatedAtEpoch }

def texts (l : List String) : Json String := .arr (l.map .str)

def ReconciliationReport.toJson (v : ReconciliationReport) : Json String :=
  .obj [("report_id", .str v.reportId), ("scope_type", .str v.scopeType), ("scope_id", .str v.scopeId),
    ("merchant_id", .str v.merchantId), ("branch_id", .str v.branchId), ("region", .str v.region),
    ("currency", .str v.currency), ("expected_balance", .int v.expectedBalance),
    ("observed_balance", .int v.observedBalance), ("variance", .int v.variance), ("status", .str v.status),
    ("findings", texts v.findings), ("started_at_epoch", .int v.startedAtEpoch),
    ("completed_at_epoch", .int v.completedAtEpoch), ("audit_event_id", .str v.auditEventId)]

def ReconciliationReport.fromJson (j : Json String) : Except Exn ReconciliationReport := do
  let reportId ← j.value "report_id" getStr ""
  let scopeType ← j.value "scope_type" getStr ""
  let scopeId ← j.value "scope_id" getStr ""
  let merchantId ← j.value "merchant_id" getStr ""
  let branchId ← j.value "branch_id" getStr ""
  let region ← j.value "region" getStr ""
  let currency ← j.value "currency" getStr ""
  let expectedBalance ← j.value "expected_balance" getInt 0
  let observedBalance ← j.value "observed_balance" getInt 0
  let variance ← j.value "variance" getInt 0
  let status ← j.value "status" getStr "balanced"
  let findings ← j.value "findings" (getArr getStr) []
  let startedAtEpoch ← j.value "started_at_epoch" getInt 0
  let completedAtEpoch ← j.value "completed_at_epoch" getInt 0
  let auditEventId ← j.value "audit_event_id" getStr ""
  return { reportId, scopeType, scopeId, merchantId, branchId, region, currency, expectedBalance, observedBalance, variance
           status, findings, startedAtEpoch, completedAtEpoch, auditEventId }

def CashAnomaly.toJson (v : CashAnomaly) : Json String :=
  .obj [("anomaly_id", .str v.anomalyId), ("scope_type", .str v.scopeType), ("scope_id", .str v.scopeId),
    ("device_id", .str v.deviceId), ("merchant_id", .str v.merchantId), ("branch_id", .str v.branchId),
    ("region", .str v.region), ("type", .str v.type), ("severity", .str v.severity), ("explanation", .str v.explanation),
    ("detected_at_epoch", .int v.detectedAtEpoch)]

def CashAnomaly.fromJson (j : Json String) : Except Exn CashAnomaly := do
  let anomalyId ← j.value "anomaly_id" getStr ""
  let scopeType ← j.value "scope_type" getStr ""
  let scopeId ← j.value "scope_id" getStr ""
  let deviceId ← j.value "device_id" getStr ""
  let merchantId ← j.value "merchant_id" getStr ""
  let branchId ← j.value "branch_id" getStr ""
  let region ← j.value "region" getStr ""
  let type ← j.value "type" getStr ""
  let severity ← j.value "severity" getStr "warning"
  let explanation ← j.value "explanation" getStr ""
  let detectedAtEpoch ← j.value "detected_at_epoch" getInt 0
  return { anomalyId, scopeType, scopeId, deviceId, merchantId, branchId, region, type, severity, explanation
           detectedAtEpoch }

def CashEvent.toJson (v : CashEvent) : Json String :=
  .obj [("event_id", .str v.eventId), ("scope_type", .str v.scopeType), ("scope_id", .str v.scopeId),
    ("device_id", .str v.deviceId), ("merchant_id", .str v.merchantId), ("branch_id", .str v.branchId),
    ("region", .str v.region), ("type", .str v.type), ("occurred_at_epoch", .int v.occurredAtEpoch),
    ("metadata", v.metadata)]

def CashEvent.fromJson (j : Json String) : Except Exn CashEvent := do
  let eventId ← j.value "event_id" getStr ""
  let scopeType ← j.value "scope_type" getStr ""
  let scopeId ← j.value "scope_id" getStr ""
  let deviceId ← j.value "device_id" getStr ""
  let merchantId ← j.value "merchant_id" getStr ""
  let branchId ← j.value "branch_id" getStr ""
  let region ← j.value "region" getStr ""
  let type ← j.value "type" getStr ""
  let occurredAtEpoch ← j.value "occurred_at_epoch" getInt 0
  let metadata ← j.value "metadata" .ok (.obj [])
  return { eventId, scopeType, scopeId, deviceId, merchantId, branchId, region, type, occurredAtEpoch, metadata }

/-! ### The store -/

namespace CashIntelligenceService

/-- What `save_locked` writes. -/
def saved (s : CashIntelligenceService) : Except Exn (Json String) := do
  let ledger ← s.ledger.mapM CashLedgerEntry.toJson
  let inventories ← s.inventories.entries.mapM fun e => e.2.toJson
  return .obj [("schema", .int 1), ("ledger", .arr ledger), ("reports", .arr (s.reports.map ReconciliationReport.toJson)),
    ("anomalies", .arr (s.anomalies.map CashAnomaly.toJson)), ("events", .arr (s.events.map CashEvent.toJson)),
    ("inventories", .arr inventories),
    ("denomination_sets", .obj ((s.denominationSets.entries.map fun e => (e.1, e.2)).map fun e =>
      (e.1, .arr (e.2.map .int))))]

/-- `load`, into a service as the constructor sets it up. The denomination sets are walked after the value that
holds them is gone. -/
def load (walk : Walk String) (fleet : Option FleetControlPlane) (j : Json String) : Except Exn CashIntelligenceService := do
  let ledger ← j.value "ledger" (getArr CashLedgerEntry.fromJson) []
  let reports ← j.value "reports" (getArr ReconciliationReport.fromJson) []
  let anomalies ← j.value "anomalies" (getArr CashAnomaly.fromJson) []
  let events ← j.value "events" (getArr CashEvent.fromJson) []
  let stocks ← j.value "inventories" .ok (.arr [])
  let stocks ← stocks.elements.mapM DenominationInventory.fromJson
  let sets ← j.value "denomination_sets" .ok (.obj [])
  let sets ← walk sets
  let sets ← sets.mapM fun item => do
    let values ← getArr getInt item.2
    return (item.1, values)
  return { fleet, ledger, reports, anomalies, events
           inventories := stocks.foldl (fun m v => m.insert (inventoryKey v.scopeType v.scopeId v.currency) v) ∅
           denominationSets := sets.foldl (fun m e => m.insert e.1 e.2) defaultSets
           seenEventIds := (ledger.map CashLedgerEntry.eventId).filter fun i => i ≠ "" }

/-- A service without a store. -/
def fresh (fleet : Option FleetControlPlane) : CashIntelligenceService := { fleet, denominationSets := defaultSets }

end CashIntelligenceService

/-- A process with its store; without a path nothing is stored. If the constructor throws, there is no service. -/
structure CashRegister where
  storePath : String
  fleet : Option FleetControlPlane := none
  file : StoreFile := .missing
  service : Option CashIntelligenceService := some (.fresh fleet)

/-- What happens to the service: an entry is submitted, or a new process starts. -/
inductive CashTurn where
  | addLedgerEntry (entry : CashLedgerEntry)
  | restart

namespace CashRegister

/-- `save_locked`. What it raises comes after the file was emptied. -/
def saveLocked (r : CashRegister) (service : CashIntelligenceService) : CashRegister :=
  if r.storePath = "" then { r with service := some service }
  else
    match service.saved with
    | .ok j => { r with file := .holds j, service := some service }
    | .error _ => { r with file := .emptied, service := some service }

def addLedgerEntry (r : CashRegister) (entry : CashLedgerEntry) : CashRegister :=
  match r.service with
  | none => r
  | some service =>
    let (service, taken) := service.addLedgerEntry entry
    if taken then r.saveLocked service else r

/-- The service of a new process, unless the store cannot be read. -/
def started (walk : Walk String) (r : CashRegister) : Option CashIntelligenceService :=
  if r.storePath = "" then some (.fresh r.fleet)
  else
    match r.file with
    | .missing => some (.fresh r.fleet)
    | .emptied => none
    | .holds j => (CashIntelligenceService.load walk r.fleet j).toOption

def restart (walk : Walk String) (r : CashRegister) : CashRegister := { r with service := r.started walk }

def step (walk : Walk String) (r : CashRegister) : CashTurn → CashRegister
  | .addLedgerEntry entry => r.addLedgerEntry entry
  | .restart => r.restart walk

/-- What the callers submitted of the entries in the ledger; a new process without a store forgets them. -/
def givenAfter (r : CashRegister) (given : List CashLedgerEntry) : CashTurn → List CashLedgerEntry
  | .addLedgerEntry entry => if r.service.any fun s => (s.addLedgerEntry entry).2 then given ++ [entry] else given
  | .restart => if r.storePath = "" then [] else given

/-- A run, with what was submitted of the entries in the ledger. -/
def run (walk : Walk String) (storePath : String) (fleet : Option FleetControlPlane) (turns : List CashTurn) :
    CashRegister × List CashLedgerEntry :=
  turns.foldl (fun p t => (p.1.step walk t, p.1.givenAfter p.2 t)) ({ storePath, fleet }, [])

end CashRegister
end Drawer.Cash
