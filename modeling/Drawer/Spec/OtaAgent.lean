import Drawer.Lib.Lexical
import Drawer.Lib.Numeral
import Drawer.Lib.Search

/-! The OTA agent. A manifest is a byte string; the fields are found in it by
substring search, and the text whose signature is verified is the manifest with
a region around the signature cut out. The file system, the digest, the
signature check, `std::hash` and the install backend answer through `World`. -/

namespace Drawer.Ota
open Text

def quoted (key : String) : Bytes := delimited 34 (ascii key)

/-- The quoted text after the next colon. -/
def valueFrom (s : Bytes) : Bytes :=
  match find (ascii ":") s with
  | none => []
  | some (_, s) =>
    match find (ascii "\"") s with
    | none => []
    | some (_, s) =>
      match find (ascii "\"") (s.drop 1) with
      | none => []
      | some (v, _) => v

def extractString (json : Bytes) (key : String) : Bytes :=
  match find (quoted key) json with
  | none => []
  | some (_, s) => valueFrom s

/-- The digits right after the colon; `std::stoi` raises if there are none or too many. -/
def extractStage (json : Bytes) (key : String) : Except Exn Int :=
  match find (quoted key) json with
  | none => .ok 100
  | some (_, s) =>
    match find (ascii ":") s with
    | none => .ok 100
    | some (_, s) => stoi ((s.drop 1).takeWhile isDigit)

/-- Whether `token` occurs between the key and the next `]`, or the next brace if there is no `]`. -/
def containsToken (json : Bytes) (key : String) (token : Bytes) : Bool :=
  if token = [] then false
  else
    match find (quoted key) json with
    | none => false
    | some (_, s) =>
      match (find (ascii "]") s).or (find (ascii "\x7d") s) with
      | none => false
      | some (u, _) => (find token u).isSome

def supportedChannel (channel : Bytes) : Bool :=
  channel = ascii "dev" || channel = ascii "pilot" || channel = ascii "stable"

/-- The text from the last `c` on. -/
def rfind (c : UInt8) : Bytes → Option Bytes
  | [] => none
  | b :: s => (rfind c s).or (if b = c then some (b :: s) else none)

/-- What `erase` leaves of the text that starts with the signature's key. A closing brace before the
key, or none at all, makes the count wrap around: everything is erased. -/
def uncut (s : Bytes) : Bytes :=
  match find (ascii ",") s with
  | some (_, b) => b
  | none => (rfind 125 s).getD []

/-- The signed text. -/
def verifyPayload (manifest : Bytes) : Bytes :=
  match find (quoted "sig_ed25519") manifest with
  | none => manifest
  | some (a, s) => a ++ uncut s

structure OtaConfig where
  enable : Bool := false
  feedUrl : Bytes := []
  channel : Bytes := ascii "stable"
  keyPub : Bytes := []
  requireSigned : Bool := true
  thingName : Bytes := []
  clientId : Bytes := []

def OtaConfig.deviceId (c : OtaConfig) : Bytes := if c.thingName = [] then c.clientId else c.thingName

structure State where
  currentVersion : Bytes := ascii "0.0.0"
  pendingVersion : Bytes := []
  bootPending : Bool := false
  lastBad : List Bytes := []
  deriving DecidableEq, Repr

structure OtaResult where
  ok : Bool
  reason : Bytes
  deriving DecidableEq, Repr

structure World where
  /-- The manifest the fetcher found, or why it found none. -/
  fetch : Bytes → Except Bytes Bytes
  readFile : Bytes → Bytes
  hexSha256 : Bytes → Bytes
  verifyPem : Bytes → Bytes → Bytes → Bool
  stdHash : Bytes → ℕ
  /-- `install_bundle` on a file with this content: nothing, or why it failed. -/
  installBundle : Bytes → Except Bytes Unit

/-- `FileManifestFetcher::fetch`. -/
def fileFetch (readFile : Bytes → Bytes) (url : Bytes) : Except Bytes Bytes :=
  if (ascii "file://").isPrefixOf url then
    let manifest := readFile (url.drop 7)
    if manifest = [] then .error (ascii "bad feed") else .ok manifest
  else .error (ascii "bad feed")

def hashDevice (stdHash : Bytes → ℕ) (id : Bytes) : Int := stdHash id % 100

def allow (h percent : Int) : Bool := h < percent

/-- How `run_once` ends before it installs. -/
inductive Halt where
  | reject (reason : Bytes)
  | threw (e : Exn)
  deriving DecidableEq

def rejectIf (c : Bool) (reason : String) : Except Halt Unit :=
  if c then .error (.reject (ascii reason)) else .ok ()

/-- The signature gate. -/
def checkSignature (cfg : OtaConfig) (w : World) (manifest : Bytes) : Except Halt Unit := do
  rejectIf (cfg.requireSigned && cfg.keyPub = []) "sig_key"
  rejectIf (cfg.requireSigned && cfg.keyPub ≠ [] &&
    !w.verifyPem (w.readFile cfg.keyPub) (verifyPayload manifest) (extractString manifest "sig_ed25519")) "sig"

/-- The checks of a fetched manifest: the version it is installed as and the artifact's content. -/
def vet (cfg : OtaConfig) (w : World) (st : State) (manifest : Bytes) : Except Halt (Bytes × Bytes) := do
  let channel := extractString manifest "channel"
  rejectIf (!supportedChannel channel) "channel"
  rejectIf (channel ≠ cfg.channel) "channel"
  let version := extractString manifest "version"
  rejectIf (!less st.currentVersion version) "version"
  rejectIf (containsToken manifest "revoked_devices" cfg.deviceId) "revoked"
  let rollout ← (extractStage manifest "rollout_percent").mapError Halt.threw
  rejectIf (!allow (hashDevice w.stdHash cfg.deviceId) rollout) "rollout"
  let artifact := extractString manifest "artifact_url"
  let sha := extractString manifest "sha256"
  rejectIf (sha = []) "sha"
  checkSignature cfg w manifest
  if artifact.length < 7 then throw (.threw .outOfRange)
  let data := w.readFile (artifact.drop 7)
  rejectIf (w.hexSha256 data ≠ sha) "sha"
  return (version, data)

/-- What a call leaves behind: the state, the bundle handed to the backend, and the result. -/
structure Ended where
  state : State
  installed : Option Bytes := none
  result : Except Exn OtaResult

def runOnce (cfg : OtaConfig) (w : World) (st : State) : Ended :=
  if !cfg.enable then { state := st, result := .ok ⟨false, ascii "disabled"⟩ }
  else
    match w.fetch cfg.feedUrl with
    | .error reason => { state := st, result := .ok ⟨false, reason⟩ }
    | .ok manifest =>
      match vet cfg w st manifest with
      | .error (.reject reason) => { state := st, result := .ok ⟨false, reason⟩ }
      | .error (.threw e) => { state := st, result := .error e }
      | .ok (version, data) =>
        match w.installBundle data with
        | .error reason => { state := st, installed := some data, result := .ok ⟨false, reason⟩ }
        | .ok () =>
          { state := { st with pendingVersion := version, bootPending := true }
            installed := some data
            result := .ok ⟨true, []⟩ }

/-! ### File systems that throw -/

/-- How the calls come out that throw where the file system refuses: `create_directories` for the download, the ones that
`install_bundle` makes for a file with this content, and `create_directories` in `save_state`. -/
structure FileSystem where
  makeDownloads : Except Exn Unit := .ok ()
  installs : Bytes → Except Exn Unit := fun _ => .ok ()
  makeStateDir : Except Exn Unit := .ok ()

/-- `run_once` on such a file system. -/
def runOnceOn (fs : FileSystem) (cfg : OtaConfig) (w : World) (st : State) : Ended :=
  if !cfg.enable then { state := st, result := .ok ⟨false, ascii "disabled"⟩ }
  else
    match w.fetch cfg.feedUrl with
    | .error reason => { state := st, result := .ok ⟨false, reason⟩ }
    | .ok manifest =>
      match vet cfg w st manifest with
      | .error (.reject reason) => { state := st, result := .ok ⟨false, reason⟩ }
      | .error (.threw e) => { state := st, result := .error e }
      | .ok (version, data) =>
        match fs.makeDownloads with
        | .error e => { state := st, result := .error e }
        | .ok () =>
          match fs.installs data with
          | .error e => { state := st, installed := some data, result := .error e }
          | .ok () =>
            match w.installBundle data with
            | .error reason => { state := st, installed := some data, result := .ok ⟨false, reason⟩ }
            | .ok () =>
              match fs.makeStateDir with
              | .error e => { state := st, installed := some data, result := .error e }
              | .ok () =>
                { state := { st with pendingVersion := version, bootPending := true }
                  installed := some data
                  result := .ok ⟨true, []⟩ }

end Drawer.Ota
