import Drawer.Lib.JsonBytes
import Drawer.Spec.ReleaseService

/-! One manifest before both deciders: a release service that holds nothing else,
and the gates of the agent on the text of its JSON. -/

namespace Drawer.Ota
open Text Json

/-- `to_json`. -/
def SignedReleaseManifest.toJson (m : SignedReleaseManifest) : Json Bytes :=
  .obj [(ascii "channel", .str m.channel), (ascii "version", .str m.version),
    (ascii "artifact_url", .str m.artifactUrl), (ascii "sha256", .str m.sha256),
    (ascii "sig_ed25519", .str m.sigEd25519), (ascii "rollout_percent", .int m.rolloutPercent),
    (ascii "min_version", .str m.minVersion), (ascii "rollback_protection", .str m.rollbackProtection),
    (ascii "revoked_devices", .arr (m.revokedDevices.map .str))]

/-- `nlohmann::json(m).dump()`. -/
def SignedReleaseManifest.text (m : SignedReleaseManifest) : Bytes := dumpText (fun _ => []) m.toJson

def ReleaseService.holding (m : SignedReleaseManifest) : ReleaseService :=
  { releases := AList.insert (m.channel, m.version) m ∅ }

/-- The gates of `run_once` up to the rollout: the version that passes them. -/
def gates (cfg : OtaConfig) (w : World) (st : State) (manifest : Bytes) : Except Halt Bytes := do
  let channel := extractString manifest "channel"
  rejectIf (!supportedChannel channel) "channel"
  rejectIf (channel ≠ cfg.channel) "channel"
  let version := extractString manifest "version"
  rejectIf (!less st.currentVersion version) "version"
  rejectIf (containsToken manifest "revoked_devices" cfg.deviceId) "revoked"
  let rollout ← (extractStage manifest "rollout_percent").mapError Halt.threw
  rejectIf (!allow (hashDevice w.stdHash cfg.deviceId) rollout) "rollout"
  return version

/-- The rest of the checks. -/
def inspect (cfg : OtaConfig) (w : World) (manifest version : Bytes) : Except Halt (Bytes × Bytes) := do
  let artifact := extractString manifest "artifact_url"
  let sha := extractString manifest "sha256"
  rejectIf (sha = []) "sha"
  checkSignature cfg w manifest
  if artifact.length < 7 then throw (.threw .outOfRange)
  let data := w.readFile (artifact.drop 7)
  rejectIf (w.hexSha256 data ≠ sha) "sha"
  return (version, data)

/-- The text of the revoked devices, brackets apart. -/
def SignedReleaseManifest.revokedText (m : SignedReleaseManifest) : Bytes :=
  [44].intercalate (m.revokedDevices.map quoteText)

/-- The text, as it is written, ends in the quoted name: a search for the name finds it there. -/
def Mistakable (key : String) (s : Bytes) : Prop := 34 :: ascii key <:+ 34 :: escapeText s

instance (key : String) (s : Bytes) : Decidable (Mistakable key s) := inferInstanceAs (Decidable (_ <:+ _))

/-- The name occurs in the text from the key of the revoked devices to the first closing bracket. -/
def Mentioned (m : SignedReleaseManifest) (id : Bytes) : Prop :=
  id ≠ [] ∧ id <:+: quoted "revoked_devices" ++ ascii ":[" ++ m.revokedText.takeWhile (· ≠ 93)

/-- No text of the manifest is mistaken for the name of a later member that the agent comes to read, and the version is
written as it is. -/
structure Legible (m : SignedReleaseManifest) (id current : Bytes) : Prop where
  plain : ∀ b ∈ m.version, escapeByte b = [b]
  version : ∀ s ∈ [m.artifactUrl, m.minVersion, m.rollbackProtection, m.sha256] ++ m.revokedDevices, ¬ Mistakable "version" s
  revoked : less current m.version = true → ∀ s ∈ [m.artifactUrl, m.minVersion], ¬ Mistakable "revoked_devices" s
  rollout : less current m.version = true → ¬ Mentioned m id →
    ∀ s ∈ [m.artifactUrl, m.minVersion] ++ m.revokedDevices, ¬ Mistakable "rollout_percent" s

/-- Where the release is newer and the rollout includes the device, its version is too old or it is revoked
just if its name is mentioned. -/
def BarredByName (stdHash : Bytes → ℕ) (m : SignedReleaseManifest) (id current : Bytes) : Prop :=
  less current m.version = true → allow (hashDevice stdHash id) m.rolloutPercent = true →
    ((m.minVersion ≠ [] ∧ less current m.minVersion = true) ∨ id ∈ m.revokedDevices ↔ Mentioned m id)

end Drawer.Ota
