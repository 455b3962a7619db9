import Drawer.Spec.CashIntelligence

/-! Tenants and the cash queries. Of the five queries only that of the ledger looks
at the organization of the filter. What the others return belongs to the
organization just when the filter names one of its devices. -/

namespace Drawer.Cash
open FleetControl (FleetControlPlane)

/-- The registry has the device, for that organization. -/
def ownDevice (fleet : FleetControlPlane) (org deviceId : String) : Bool :=
  (fleet.device deviceId).any fun d => d.organizationId = org

/-- A record of a scope belongs to a device if the scope is that device. -/
def ownScope (fleet : FleetControlPlane) (org scopeType scopeId : String) : Bool :=
  scopeType = "device" && ownDevice fleet org scopeId

namespace CashIntelligenceService

/-- The queries return only records of devices of the filter's organization. -/
structure OwnReads (fleet : FleetControlPlane) (filter : CashFilter) (s : CashIntelligenceService) : Prop where
  ledger : ∀ e ∈ s.ledgerEntries filter, ownDevice fleet filter.organizationId e.deviceId = true
  inventories : ∀ inv ∈ s.inventoriesFor filter, ownScope fleet filter.organizationId inv.scopeType inv.scopeId = true
  reports : ∀ r ∈ s.reportsFor filter, ownScope fleet filter.organizationId r.scopeType r.scopeId = true
  anomalies : ∀ a ∈ s.anomaliesFor filter, ownDevice fleet filter.organizationId a.deviceId = true
  events : ∀ e ∈ s.eventsFor filter, ownDevice fleet filter.organizationId e.deviceId = true

/-- The two states have the same records of the organization's devices. -/
structure SameOwn (fleet : FleetControlPlane) (org : String) (s s' : CashIntelligenceService) : Prop where
  ledger : s.ledger.filter (fun e => ownDevice fleet org e.deviceId) =
    s'.ledger.filter fun e => ownDevice fleet org e.deviceId
  inventories : (s.inventories.entries.map Sigma.snd).filter (fun inv => ownScope fleet org inv.scopeType inv.scopeId) =
    (s'.inventories.entries.map Sigma.snd).filter fun inv => ownScope fleet org inv.scopeType inv.scopeId
  reports : s.reports.filter (fun r => ownScope fleet org r.scopeType r.scopeId) =
    s'.reports.filter fun r => ownScope fleet org r.scopeType r.scopeId
  anomalies : s.anomalies.filter (fun a => ownDevice fleet org a.deviceId) =
    s'.anomalies.filter fun a => ownDevice fleet org a.deviceId
  events : s.events.filter (fun e => ownDevice fleet org e.deviceId) =
    s'.events.filter fun e => ownDevice fleet org e.deviceId

/-- The queries do not tell the two states apart. -/
structure SameReads (filter : CashFilter) (s s' : CashIntelligenceService) : Prop where
  ledger : s.ledgerEntries filter = s'.ledgerEntries filter
  inventories : s.inventoriesFor filter = s'.inventoriesFor filter
  reports : s.reportsFor filter = s'.reportsFor filter
  anomalies : s.anomaliesFor filter = s'.anomaliesFor filter
  events : s.eventsFor filter = s'.eventsFor filter

/-- With that registry, a query by `filter` shows records of the filter's organization and depends on no others. -/
structure Isolates (fleet : FleetControlPlane) (filter : CashFilter) : Prop where
  own : ∀ s, s.fleet = some fleet → OwnReads fleet filter s
  same : ∀ s s', s.fleet = some fleet → s'.fleet = some fleet → SameOwn fleet filter.organizationId s s' →
    SameReads filter s s'

theorem passes_iff {wanted value : String} (h : wanted ≠ "") : passes wanted value = true ↔ value = wanted := by
  simp [passes, h]

theorem scopeIs_iff {wanted scopeType recordType recordId : String} (h : wanted ≠ "") :
    scopeIs wanted scopeType recordType recordId = true ↔ recordType = scopeType ∧ recordId = wanted := by
  simp [scopeIs, h]

/-- What a query that lets only records with `own` pass returns is found among those. -/
theorem filter_own {α : Type} {own query : α → Bool} (h : ∀ a, query a = true → own a = true) {l l' : List α}
    (hsame : l.filter own = l'.filter own) : l.filter query = l'.filter query := by
  have hcut : ∀ l : List α, l.filter query = (l.filter own).filter query := by
    intro l
    rw [List.filter_filter]
    refine List.filter_congr fun a _ => ?_
    cases hq : query a with
    | false => rfl
    | true => rw [h a hq]; rfl
  rw [hcut l, hcut l', hsame]

section

variable {fleet : FleetControlPlane} {filter : CashFilter}

/-- The filter names a device of its organization. -/
def NamesOwn (fleet : FleetControlPlane) (filter : CashFilter) : Prop :=
  filter.deviceId ≠ "" ∧ ownDevice fleet filter.organizationId filter.deviceId = true

theorem NamesOwn.passes (h : NamesOwn fleet filter) {value : String}
    (hvalue : CashIntelligenceService.passes filter.deviceId value = true) :
    ownDevice fleet filter.organizationId value = true := by
  rw [(passes_iff h.1).mp hvalue]
  exact h.2

theorem NamesOwn.scopeIs (h : NamesOwn fleet filter) {scopeType scopeId : String}
    (hscope : CashIntelligenceService.scopeIs filter.deviceId "device" scopeType scopeId = true) :
    ownScope fleet filter.organizationId scopeType scopeId = true := by
  obtain ⟨rfl, rfl⟩ := (scopeIs_iff h.1).mp hscope
  simpa [ownScope] using h.2

theorem NamesOwn.filterMatches (h : NamesOwn fleet filter) (s : CashIntelligenceService) (e : CashLedgerEntry)
    (he : s.filterMatches filter e = true) : ownDevice fleet filter.organizationId e.deviceId = true := by
  simp only [CashIntelligenceService.filterMatches, Bool.and_eq_true] at he
  exact h.passes he.1.1.1.1.1

theorem NamesOwn.inventoryMatches (h : NamesOwn fleet filter) (inv : DenominationInventory)
    (hinv : CashIntelligenceService.inventoryMatches filter inv = true) :
    ownScope fleet filter.organizationId inv.scopeType inv.scopeId = true := by
  simp only [CashIntelligenceService.inventoryMatches, Bool.and_eq_true] at hinv
  exact h.scopeIs hinv.1.1.1.2

theorem NamesOwn.reportMatches (h : NamesOwn fleet filter) (r : ReconciliationReport)
    (hr : CashIntelligenceService.reportMatches filter r = true) :
    ownScope fleet filter.organizationId r.scopeType r.scopeId = true := by
  simp only [CashIntelligenceService.reportMatches, Bool.and_eq_true] at hr
  exact h.scopeIs hr.2

theorem NamesOwn.placeMatches (h : NamesOwn fleet filter) {deviceId merchantId branchId region : String}
    (hplace : CashIntelligenceService.placeMatches filter deviceId merchantId branchId region = true) :
    ownDevice fleet filter.organizationId deviceId = true := by
  simp only [CashIntelligenceService.placeMatches, Bool.and_eq_true] at hplace
  exact h.passes hplace.1.1.1

theorem NamesOwn.isolates (h : NamesOwn fleet filter) : Isolates fleet filter := by
  refine ⟨fun s _ => ⟨?_, ?_, ?_, ?_, ?_⟩, fun s s' hs hs' hsame => ⟨?_, ?_, ?_, ?_, ?_⟩⟩
  · exact fun e he => h.filterMatches s e (List.mem_filter.mp he).2
  · exact fun inv hinv => h.inventoryMatches inv (List.mem_filter.mp hinv).2
  · exact fun r hr => h.reportMatches r (List.mem_filter.mp hr).2
  · exact fun a ha => h.placeMatches (List.mem_filter.mp ha).2
  · exact fun e he => h.placeMatches (List.mem_filter.mp he).2
  · have hquery : s.filterMatches filter = s'.filterMatches filter := by
      funext e
      simp only [CashIntelligenceService.filterMatches, hs, hs']
    rw [ledgerEntries, ledgerEntries, hquery]
    exact filter_own (h.filterMatches s') hsame.ledger
  · exact filter_own h.inventoryMatches hsame.inventories
  · exact filter_own h.reportMatches hsame.reports
  · exact filter_own (fun a ha => h.placeMatches ha) hsame.anomalies
  · exact filter_own (fun e he => h.placeMatches he) hsame.events

end

/-- The queries keep to the organization of the filter if and only if the filter names a device of it. -/
theorem isolates_iff (fleet : FleetControlPlane) (filter : CashFilter) : Isolates fleet filter ↔ NamesOwn fleet filter := by
  refine ⟨fun h => ⟨fun hdevice => ?_, ?_⟩, NamesOwn.isolates⟩
  · -- a report of a branch belongs to no device
    have hreport := (h.own { fleet := some fleet, reports := [{ scopeType := "branch", currency := filter.currency
                                                                merchantId := filter.merchantId
                                                                branchId := filter.branchId, region := filter.region }] }
      rfl).reports
    simp [reportsFor, reportMatches, passes, scopeIs, hdevice, ownScope] at hreport
  · have hanomaly := (h.own { fleet := some fleet, anomalies := [{ deviceId := filter.deviceId
                                                                   merchantId := filter.merchantId
                                                                   branchId := filter.branchId
                                                                   region := filter.region }] } rfl).anomalies
    simpa [anomaliesFor, placeMatches, passes] using hanomaly

/-- A device for each of two organizations. -/
def twoDevices : FleetControlPlane :=
  ((({} : FleetControlPlane).registerDevice { deviceId := "dev-a", organizationId := "org-a" }).1.registerDevice
    { deviceId := "dev-b", organizationId := "org-b" }).1

def otherStocked : CashIntelligenceService :=
  (({ fleet := some twoDevices, denominationSets := defaultSets } : CashIntelligenceService).updateInventory
    { scopeId := "dev-b", currency := "KES", quantities := [(Text.ascii "100", 7)] }).1

/-- A query for `org-a` shows the inventory of `org-b`. -/
theorem other_inventory_shown : ¬ OwnReads twoDevices { organizationId := "org-a" } otherStocked := by
  intro h
  have hshown := h.inventories { scopeId := "dev-b", currency := "KES", quantities := [(Text.ascii "100", 7)] }
    (by decide +kernel)
  revert hshown
  decide +kernel

end CashIntelligenceService
end Drawer.Cash
