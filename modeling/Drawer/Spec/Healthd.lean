import Drawer.Lib.Dict
import Drawer.Lib.Lines
import Drawer.Lib.Transition
import Drawer.Spec.OtaAgent

/-! The boot check after an update, and the file through which it and the agent
know of each other. The file is a text of `key=value` lines; a missing file reads
as an empty one. The boot check has an encoder and a decoder of its own, and every
call loads a state and may save one. -/

namespace Drawer.Ota
open Text

/-! ### The state file -/

/-- One line of `load_kv`. -/
def readLine (kv : Dict Bytes Bytes) (line : Bytes) : Dict Bytes Bytes :=
  match find (ascii "=") line with
  | none => kv
  | some (key, rest) => kv.insert key (rest.drop 1)

def loadKv (file : Bytes) : Dict Bytes Bytes := (lines 10 file).foldl readLine ∅

/-- `save_kv`, of entries in the order of their keys. -/
def saveKv (kv : List (Bytes × Bytes)) : Bytes := unlines 10 (kv.map fun p => p.1 ++ ascii "=" ++ p.2)

def loadState (file : Bytes) : State :=
  let kv := loadKv file
  { currentVersion := (kv.lookup (ascii "current_version")).getD (ascii "0.0.0")
    pendingVersion := (kv.lookup (ascii "pending_version")).getD []
    bootPending := kv.lookup (ascii "boot_pending") = some (ascii "1")
    lastBad := (lines 44 ((kv.lookup (ascii "last_bad")).getD [])).filter fun item => item ≠ [] }

def saveState (st : State) : Bytes :=
  saveKv
    [(ascii "boot_pending", if st.bootPending then ascii "1" else ascii "0"),
     (ascii "current_version", st.currentVersion),
     (ascii "last_bad", (ascii ",").intercalate st.lastBad),
     (ascii "pending_version", st.pendingVersion)]

/-! ### The boot check -/

/-- What `GET /healthz` gave, if it gave anything. -/
structure Health where
  status : Int
  body : Bytes

def healthy : Option Health → Bool
  | none => false
  | some res => res.status = 200 && (find (ascii "\"ok\":true") res.body).isSome

/-- The host and the port of a base URL. -/
def healthTarget (baseUrl : Bytes) : Except Exn (Bytes × Int) :=
  let host :=
    match find (ascii "://") baseUrl with
    | none => baseUrl
    | some (_, rest) => rest.drop 3
  match find (ascii ":") host with
  | none => .ok (host, 80)
  | some (name, rest) => do
    let port ← stoi (rest.drop 1)
    return (name, port)

/-- What a boot check leaves behind: the state it saved, if it saved one, and the result. -/
structure Checked where
  saved : Option State := none
  result : Except Exn OtaResult

namespace Healthd

/-- `Healthd::run_once`; `get` answers `GET /healthz`. -/
def runOnce (get : Bytes → Int → Option Health) (baseUrl : Bytes) (st : State) : Checked :=
  if !st.bootPending then { result := .ok ⟨true, ascii "no pending"⟩ }
  else
    match healthTarget baseUrl with
    | .error e => { result := .error e }
    | .ok (host, port) =>
      if healthy (get host port) then
        { saved := some { st with currentVersion := st.pendingVersion, pendingVersion := [], bootPending := false }
          result := .ok ⟨true, []⟩ }
      else
        { saved := some { st with
            lastBad := if st.pendingVersion ≠ [] then st.lastBad ++ [st.pendingVersion] else st.lastBad
            pendingVersion := [], bootPending := false }
          result := .ok ⟨false, ascii "fail"⟩ }

end Healthd

/-! ### Runs -/

/-- A call of one of the two. -/
inductive Call where
  | agent (w : World)
  | healthd (get : Bytes → Int → Option Health) (baseUrl : Bytes)

/-- The state file, and every version that a boot check has added to `last_bad`. -/
structure Appliance where
  file : Bytes := []
  failed : List Bytes := []

namespace Appliance

/-- The agent saves its state after it installed. -/
def agent (cfg : OtaConfig) (a : Appliance) (w : World) : Appliance :=
  let e := runOnce cfg w (loadState a.file)
  match e.result with
  | .ok ⟨true, _⟩ => { a with file := saveState e.state }
  | _ => a

def healthd (a : Appliance) (get : Bytes → Int → Option Health) (baseUrl : Bytes) : Appliance :=
  let st := loadState a.file
  match (Healthd.runOnce get baseUrl st).saved with
  | none => a
  | some st' => { file := saveState st', failed := a.failed ++ st'.lastBad.drop st.lastBad.length }

def step (cfg : OtaConfig) (a : Appliance) : Call → Appliance
  | .agent w => a.agent cfg w
  | .healthd get baseUrl => a.healthd get baseUrl

/-- `run_once` calls `install_bundle` for a manifest with this version. -/
def Installs (cfg : OtaConfig) (a : Appliance) (w : World) (version : Bytes) : Prop :=
  (runOnce cfg w (loadState a.file)).installed ≠ none ∧
    ∃ m, w.fetch cfg.feedUrl = .ok m ∧ extractString m "version" = version

/-- Along `calls`, no version is installed that has failed its boot check before. -/
def NeverAgain (cfg : OtaConfig) (a : Appliance) (calls : List Call) : Prop :=
  ∀ before w after, calls = before ++ .agent w :: after →
    ∀ version ∈ (before.foldl (step cfg) a).failed, ¬ Installs cfg (before.foldl (step cfg) a) w version

end Appliance

/-! ### The state file from both sides -/

namespace Healthd

/-- `load_state` of the boot check. -/
def loadState (file : Bytes) : State :=
  let kv := loadKv file
  { currentVersion := (kv.lookup (ascii "current_version")).getD (ascii "0.0.0")
    pendingVersion := (kv.lookup (ascii "pending_version")).getD []
    bootPending := kv.lookup (ascii "boot_pending") = some (ascii "1")
    lastBad := (lines 44 ((kv.lookup (ascii "last_bad")).getD [])).filter fun item => item ≠ [] }

/-- `save_state` of the boot check. -/
def saveState (st : State) : Bytes :=
  saveKv
    [(ascii "boot_pending", if st.bootPending then ascii "1" else ascii "0"),
     (ascii "current_version", st.currentVersion),
     (ascii "last_bad", (ascii ",").intercalate st.lastBad),
     (ascii "pending_version", st.pendingVersion)]

end Healthd

namespace Appliance

/-- The state that the call saves, if it saves one. -/
def saves (cfg : OtaConfig) (a : Appliance) : Call → Option State
  | .agent w =>
    let e := runOnce cfg w (loadState a.file)
    match e.result with
    | .ok ⟨true, _⟩ => some e.state
    | _ => none
  | .healthd get baseUrl => (Healthd.runOnce get baseUrl (Healthd.loadState a.file)).saved

/-- The two copies agree, and along `calls` every state that is loaded or saved is what a load gives after it was saved. -/
structure Faithful (cfg : OtaConfig) (a : Appliance) (calls : List Call) : Prop where
  decoders : ∀ file, Healthd.loadState file = loadState file
  encoders : ∀ st, Healthd.saveState st = saveState st
  loaded : ∀ before after, calls = before ++ after →
    loadState (saveState (loadState (before.foldl (step cfg) a).file)) = loadState (before.foldl (step cfg) a).file
  saved : ∀ before call after, calls = before ++ call :: after →
    ∀ st, (before.foldl (step cfg) a).saves cfg call = some st → loadState (saveState st) = st

end Appliance
end Drawer.Ota
