import Mathlib.Data.List.Sort
import Drawer.Lib.Dict
import Drawer.Lib.Lexical
import Drawer.Spec.OtaAgent

/-! The release service, and the numeric order of dotted versions. Releases live
in a `std::map` keyed by channel and version, which is iterated in the order of
its keys. -/

namespace Drawer.Ota
open Text

structure SignedReleaseManifest where
  channel : Bytes := ascii "dev"
  version : Bytes := []
  artifactUrl : Bytes := []
  sha256 : Bytes := []
  sigEd25519 : Bytes := []
  rolloutPercent : Int := 100
  minVersion : Bytes := []
  rollbackProtection : Bytes := []
  revokedDevices : List Bytes := []
  deriving DecidableEq, Repr

structure EligibilityDecision where
  eligible : Bool := false
  reason : Bytes := []
  manifest : SignedReleaseManifest := {}
  deriving DecidableEq, Repr

/-- One `ota_eligibility` entry of the audit log. -/
structure AuditEntry where
  eligible : Bool
  reason : Bytes
  channel : Bytes
  version : Bytes
  deriving DecidableEq, Repr

structure ReleaseService where
  releases : Dict (Bytes × Bytes) SignedReleaseManifest := ∅
  auditLog : List AuditEntry := []

def canPromote ( source target : Bytes) : Bool :=
  (source = ascii "dev" && target = ascii "pilot") || (source = ascii "pilot" && target = ascii "stable")

namespace ReleaseService

def publish (s : ReleaseService) (m : SignedReleaseManifest) : ReleaseService × Bool :=
  if !supportedChannel m.channel || m.version = [] || m.sha256 = [] then (s, false)
  else
    let m := { m with rolloutPercent := max 0 (min 100 m.rolloutPercent) }
    ({ s with releases := s.releases.insert (m.channel, m.version) m }, true)

def promote (s : ReleaseService) (version fromChannel toChannel : Bytes) : ReleaseService × Bool :=
  if !canPromote fromChannel toChannel then (s, false)
  else
    match s.releases.lookup (fromChannel, version) with
    | none => (s, false)
    | some m => s.publish { m with channel := toChannel }

/-- The order of the map's keys. -/
def keyLe (p q : Σ _ : Bytes × Bytes, SignedReleaseManifest) : Bool :=
  less p.1.1 q.1.1 || (p.1.1 = q.1.1 && !less q.1.2 p.1.2)

/-- The manifests in the order the map is iterated in. -/
def manifests (s : ReleaseService) : List SignedReleaseManifest :=
  (s.releases.entries.insertionSort fun p q => keyLe p q = true).map Sigma.snd

/-- One round of the loop in `eligible`. -/
def pick (channel : Bytes) (best m : SignedReleaseManifest) : SignedReleaseManifest :=
  if m.channel ≠ channel then best
  else if best.version = [] || less best.version m.version then m
  else best

def select (s : ReleaseService) (channel : Bytes) : SignedReleaseManifest := s.manifests.foldl (pick channel) {}

def eligible (stdHash : Bytes → ℕ) (s : ReleaseService) (deviceId channel currentVersion : Bytes) :
    EligibilityDecision :=
  let m := s.select channel
  let no (reason : String) : EligibilityDecision := { eligible := false, reason := ascii reason, manifest := m }
  if m.version = [] then no "no_release"
  else if deviceId ∈ m.revokedDevices then no "revoked"
  else if !less currentVersion m.version then no "stale_version"
  else if m.minVersion ≠ [] && less currentVersion m.minVersion then no "rollback_protection"
  else if !allow (hashDevice stdHash deviceId) m.rolloutPercent then no "rollout"
  else { eligible := true, reason := ascii "eligible", manifest := m }

def audit (s : ReleaseService) (d : EligibilityDecision) : ReleaseService :=
  { s with auditLog := s.auditLog ++ [⟨d.eligible, d.reason, d.manifest.channel, d.manifest.version⟩] }

/-- A request to the service. -/
inductive Op where
  | publish (m : SignedReleaseManifest)
  | promote (version fromChannel toChannel : Bytes)
  | eligible (deviceId channel currentVersion : Bytes)

def apply (stdHash : Bytes → ℕ) (s : ReleaseService) : Op → ReleaseService
  | .publish m => (s.publish m).1
  | .promote version fromChannel toChannel => (s.promote version fromChannel toChannel).1
  | .eligible deviceId channel currentVersion => s.audit (s.eligible stdHash deviceId channel currentVersion)

end ReleaseService

/-! ### Dotted versions -/

/-- Numbers joined by dots. -/
def Dotted (v : Bytes) : Prop := ∀ c ∈ v.splitOn 46, c ≠ [] ∧ c.all isDigit = true

instance (v : Bytes) : Decidable (Dotted v) := inferInstanceAs (Decidable (∀ _ ∈ _, _))

/-- A dotted numeric version. -/
abbrev Version := { v : Bytes // Dotted v }

/-- The components of a dotted version, as numbers. -/
def numeric (v : Bytes) : List ℕ := (v.splitOn 46).map numeral

/-- The order of dotted versions: component by component, as numbers. -/
def older (v w : Bytes) : Bool := Lexical.less (numeric v) (numeric w)

/-- `v` is the text of one of `vs`. -/
def Among (vs : Set Version) (v : Bytes) : Prop := ∃ w ∈ vs, w.1 = v

/-- Every manifest the request publishes has a version among `vs`. -/
def ReleaseService.Op.Within (vs : Set Version) : ReleaseService.Op → Prop
  | .publish m => Among vs m.version
  | _ => True

/-- What is wanted of the decision for a device that runs `current`: it is eligible only for a newer version,
and the selected manifest is one of the channel's releases, and none of these is newer. -/
structure Forward (s : ReleaseService) (channel current : Bytes) (d : EligibilityDecision) : Prop where
  newer : d.eligible = true → older current d.manifest.version = true
  greatest : ∀ m ∈ s.manifests, m.channel = channel →
    d.manifest ∈ s.manifests ∧ d.manifest.channel = channel ∧ older d.manifest.version m.version = false

/-- The service and the agent never go back, whatever releases with versions among `vs` are published and
whichever of `vs` a device runs. -/
structure NoDowngrade (vs : Set Version) : Prop where
  service : ∀ (stdHash : Bytes → ℕ) (ops : List ReleaseService.Op) (deviceId channel current : Bytes),
    (∀ op ∈ ops, op.Within vs) → Among vs current →
    let s := ops.foldl (ReleaseService.apply stdHash) {}
    Forward s channel current (s.eligible stdHash deviceId channel current)
  agent : ∀ (cfg : OtaConfig) (w : World) (st : State) (m : Bytes), w.fetch cfg.feedUrl = .ok m →
    Among vs st.currentVersion → Among vs (extractString m "version") → (runOnce cfg w st).installed ≠ none →
    older st.currentVersion (extractString m "version") = true

end Drawer.Ota
