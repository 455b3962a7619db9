import Drawer.Spec.FleetControl

/-! The queries of the control plane that a dashboard is made of, and what a scope
should see of the registry: its devices and their alerts. -/

namespace Drawer.FleetControl

structure DeviceFilter where
  organizationId : String := ""
  merchantId : String := ""
  branchId : String := ""
  region : String := ""
  environment : String := ""
  deploymentChannel : String := ""
  healthStatus : String := ""
  connectivityStatus : String := ""
  tag : String := ""
  labelKey : String := ""
  labelValue : String := ""
  text : String := ""

/-- An empty member of a filter asks for nothing. -/
def asked (wanted value : String) : Bool := wanted = "" || value = wanted

def hasTag (tags : List String) (tag : String) : Bool := tag = "" || tag ∈ tags

def labelMatches (labels : Labels) (key value : String) : Bool :=
  key = "" ||
    match labels.find? fun l => l.1 = key with
    | none => false
    | some l => asked value l.2

def containsText (d : DeviceRegistryRecord) (text : String) : Bool :=
  text = "" || [d.deviceId, d.merchantId, d.branchId, d.region].any fun s => decide (text.toList <:+: s.toList)

structure FleetHealthSummary where
  deviceHealthScore : Int32 := 100
  communicationHealthScore : Int32 := 100
  syncHealthScore : Int32 := 100
  otaHealthScore : Int32 := 100
  certificateHealthScore : Int32 := 100
  aggregateScore : Int32 := 100
  deriving DecidableEq

/-- The counts by version and by severity are those of the values that occur; every other value has none. -/
structure DashboardView where
  scopeType : String
  scopeId : String
  deviceCount : ℕ
  onlineDevices : ℕ
  offlineDevices : ℕ
  firmwareDistribution : String → ℕ
  health : FleetHealthSummary
  alertSummary : String → ℕ

namespace FleetControlPlane

def tenantMatches (d : DeviceRegistryRecord) (filter : DeviceFilter) : Bool :=
  asked filter.organizationId d.organizationId && asked filter.merchantId d.merchantId &&
    asked filter.branchId d.branchId && asked filter.region d.region && asked filter.environment d.environment &&
    asked filter.deploymentChannel d.deploymentChannel && asked filter.healthStatus d.healthStatus &&
    asked filter.connectivityStatus d.connectivityStatus && hasTag d.tags filter.tag &&
    labelMatches d.labels filter.labelKey filter.labelValue && containsText d filter.text

/-- The records of the registry, in the order of the table. -/
def records (s : FleetControlPlane) : List DeviceRegistryRecord := s.devices.entries.map Sigma.snd

def searchDevices (s : FleetControlPlane) (filter : DeviceFilter) : List DeviceRegistryRecord :=
  s.records.filter fun d => tenantMatches d filter

def listAlerts (s : FleetControlPlane) (organizationId : String) (includeAcknowledged : Bool) : List FleetAlert :=
  s.alerts.filter fun a => asked organizationId a.organizationId && (includeAcknowledged || !a.acknowledged)

def syncPoints (d : DeviceRegistryRecord) : Int32 := max 0 (100 - d.syncFailures * 20)
def otaPoints (d : DeviceRegistryRecord) : Int32 := max 0 (100 - d.otaFailures * 25)

def certificatePoints (d : DeviceRegistryRecord) : Int32 :=
  if d.certificateIdentityStatus = "active" then 100 else if d.certificateIdentityStatus = "pending" then 80 else 0

/-- The mean of the points of some devices, as `int`s are divided. -/
def mean (points : DeviceRegistryRecord → Int32) (l : List DeviceRegistryRecord) : Int32 :=
  l.foldr (fun d sum => points d + sum) 0 / Int32.ofNat l.length

/-- The scores of some devices. -/
def summary (l : List DeviceRegistryRecord) : FleetHealthSummary :=
  if Int32.ofNat l.length > 0 then
    let device := mean DeviceRegistryRecord.healthScore l
    let communication := mean (fun d => if d.connectivityStatus = "online" then 100 else 0) l
    let sync := mean syncPoints l
    let ota := mean otaPoints l
    let certificate := mean certificatePoints l
    ⟨device, communication, sync, ota, certificate, (device + communication + sync + ota + certificate) / 5⟩
  else {}

def health (s : FleetControlPlane) (organizationId : String) : FleetHealthSummary :=
  summary (s.records.filter fun d => asked organizationId d.organizationId)

def dashboard (s : FleetControlPlane) (scopeType scopeId : String) : DashboardView :=
  let filter : DeviceFilter :=
    { organizationId := if scopeType = "organization" then scopeId else ""
      merchantId := if scopeType = "merchant" then scopeId else ""
      branchId := if scopeType = "branch" then scopeId else ""
      region := if scopeType = "region" then scopeId else "" }
  let devices := s.searchDevices filter
  let organizationId := if scopeType = "organization" then scopeId else ""
  { scopeType, scopeId
    deviceCount := devices.length
    onlineDevices := devices.countP fun d => d.connectivityStatus = "online"
    offlineDevices := devices.countP fun d => d.connectivityStatus = "offline"
    firmwareDistribution := fun version => devices.countP fun d => d.firmwareVersion = version
    health := s.health organizationId
    alertSummary := fun severity => (s.listAlerts organizationId false).countP fun a => a.severity = severity }

end FleetControlPlane

/-! ### Scopes -/

inductive Scope where
  | organization
  | merchant
  | branch
  | region
  deriving DecidableEq

namespace Scope

def name : Scope → String
  | organization => "organization"
  | merchant => "merchant"
  | branch => "branch"
  | region => "region"

/-- The scope of a type that a device is in. -/
def of : Scope → DeviceRegistryRecord → String
  | organization => DeviceRegistryRecord.organizationId
  | merchant => DeviceRegistryRecord.merchantId
  | branch => DeviceRegistryRecord.branchId
  | region => DeviceRegistryRecord.region

variable (scope : Scope) (id : String)

/-- The alert is one of a device in the scope. -/
def alerting (s : FleetControlPlane) (a : FleetAlert) : Bool := (s.devices.lookup a.deviceId).any fun d => scope.of d = id

/-- The two states have the same devices in the scope, and the same alerts of them. -/
structure Agree (s s' : FleetControlPlane) : Prop where
  devices : ∀ key d, scope.of d = id → (s.devices.lookup key = some d ↔ s'.devices.lookup key = some d)
  alerts : s.alerts.filter (alerting scope id s) = s'.alerts.filter (alerting scope id s')

/-- What is open under the organization is an alert of a device of it. -/
def Filed (s : FleetControlPlane) : Prop :=
  ∀ a ∈ s.alerts, a.acknowledged = false → a.organizationId = id → alerting organization id s a = true

/-- The view of the scope in `s` is its view in every state that agrees on it, where alerts are filed as they should be. -/
def Scoped (s : FleetControlPlane) : Prop :=
  ∀ s', (scope = organization → Filed id s') → Agree scope id s s' → s.dashboard scope.name id = s'.dashboard scope.name id

end Scope
end Drawer.FleetControl
