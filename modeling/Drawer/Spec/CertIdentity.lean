import Drawer.Lib.Dict
import Drawer.Lib.Effect
import Drawer.Lib.JsonRecord
import Drawer.Lib.Text

/-! The store of the certificates that devices identify themselves with, at a path that is not empty. It is written out
whole after each change. A process may be killed between any two accesses to the file; a file that has been opened and not
yet written, or whose write has broken off, cannot be read. -/

namespace Drawer.Cert
open Text Effect Json

structure CertificateIdentity where
  deviceId : Bytes := []
  fingerprintSha256 : Bytes := []
  state : Bytes := ascii "active"
  issuedAt : Bytes := []
  expiresAt : Bytes := []
  rotatedFromFingerprint : Bytes := []
  deriving DecidableEq

namespace CertificateIdentity

def toJson (v : CertificateIdentity) : Json Bytes :=
  .obj [(ascii "device_id", .str v.deviceId), (ascii "fingerprint_sha256", .str v.fingerprintSha256),
    (ascii "state", .str v.state), (ascii "issued_at", .str v.issuedAt), (ascii "expires_at", .str v.expiresAt),
    (ascii "rotated_from_fingerprint", .str v.rotatedFromFingerprint)]

def fromJson (j : Json Bytes) : Except Exn CertificateIdentity := do
  let deviceId ← j.value (ascii "device_id") getStr []
  let fingerprintSha256 ← j.value (ascii "fingerprint_sha256") getStr []
  let state ← j.value (ascii "state") getStr (ascii "active")
  let issuedAt ← j.value (ascii "issued_at") getStr []
  let expiresAt ← j.value (ascii "expires_at") getStr []
  let rotatedFromFingerprint ← j.value (ascii "rotated_from_fingerprint") getStr []
  return { deviceId, fingerprintSha256, state, issuedAt, expiresAt, rotatedFromFingerprint }

/-- Whether `dump` writes it: it raises an error for a text that is not UTF-8. -/
def dumps (v : CertificateIdentity) : Bool :=
  [v.deviceId, v.fingerprintSha256, v.state, v.issuedAt, v.expiresAt, v.rotatedFromFingerprint].all validUtf8

end CertificateIdentity

/-- `cert_state_allows_device`, for the state. -/
def stateAllowsDevice (state : Bytes) : Bool := state = ascii "active" || state = ascii "pending"

/-- The identities that a process holds, under their fingerprints. -/
abbrev Identities := Dict Bytes CertificateIdentity

namespace Identities

/-- `allow`. -/
def allow (m : Identities) (fingerprint : Bytes) : Bool :=
  (m.lookup fingerprint).any fun v => stateAllowsDevice v.state

def setState (m : Identities) (fingerprint state : Bytes) : Identities :=
  match m.lookup fingerprint with
  | none => m
  | some v => m.insert fingerprint { v with state }

def dumps (m : Identities) : Bool := m.entries.all fun e => e.2.dumps

/-- What `save` writes. -/
def saved (m : Identities) : Json Bytes :=
  .obj [(ascii "schema", .int 1), (ascii "cert_identities", .arr (m.entries.map fun e => e.2.toJson))]

end Identities

/-! ### The file -/

/-- What there is to read. -/
inductive StoreFile where
  | absent
  | torn
  | whole (j : Json Bytes)

/-- What is read before the first error is kept. -/
def loadItems : List (Json Bytes) → Identities → Identities
  | [], m => m
  | j :: js, m =>
    match CertificateIdentity.fromJson j with
    | .error _ => m
    | .ok v => loadItems js (m.insert v.fingerprintSha256 v)

def load : StoreFile → Identities
  | .whole j =>
    match j.value (ascii "cert_identities") .ok (.arr []) with
    | .error _ => ∅
    | .ok items => loadItems items.elements ∅
  | _ => ∅

/-- The accesses to the file: its directories are made, it is opened, which leaves nothing in it, and it is written. -/
inductive FileCall where
  | directories
  | truncate
  | write (j : Json Bytes)

/-- What the making of the directories throws, if it throws; whether the file could be opened; whether all was written. -/
abbrev FileAnswer : FileCall → Type
  | .directories => Option Exn
  | .truncate => Bool
  | .write _ => Bool

def StoreFile.after (file : StoreFile) : Sigma FileAnswer → StoreFile
  | ⟨.directories, _⟩ => file
  | ⟨.truncate, opened⟩ => if opened then .torn else file
  | ⟨.write j, written⟩ => if written then .whole j else .torn

/-! ### The store -/

/-- A call on the store: it ends with the identities that are held then, and an error if it throws one. -/
abbrev StoreCall := Program FileCall FileAnswer (Identities × Option Exn)

/-- `save`, and what follows it. -/
def save (m : Identities) (k : StoreCall) : StoreCall :=
  .call .directories fun thrown =>
    match thrown with
    | some e => .ret (m, some e)
    | none => .call .truncate fun opened =>
      if m.dumps then
        if opened then .call (.write m.saved) fun _ => k else k
      else .ret (m, some (.typeError 316))

def markState (m : Identities) (fingerprint state : Bytes) (k : Identities → StoreCall) : StoreCall :=
  if (m.lookup fingerprint).isSome then
    let m := m.setState fingerprint state
    save m (k m)
  else k m

inductive CertOp where
  | upsert (v : CertificateIdentity)
  | markState (fingerprint state : Bytes)
  | promotePending (fingerprint : Bytes)

def done (m : Identities) : StoreCall := .ret (m, none)

def CertOp.program (m : Identities) : CertOp → StoreCall
  | .upsert v =>
    let m := m.insert v.fingerprintSha256 v
    save m (done m)
  | .markState fingerprint state => Cert.markState m fingerprint state done
  | .promotePending fingerprint =>
    match m.lookup fingerprint with
    | none => done m
    | some v =>
      if v.state ≠ ascii "pending" then done m
      else
        let promote := fun m : Identities =>
          let m := m.setState fingerprint (ascii "active")
          save m (done m)
        if v.rotatedFromFingerprint = [] then promote m
        else Cert.markState m v.rotatedFromFingerprint (ascii "expired") promote

/-! ### Processes -/

/-- The process, if one is up, and the file. -/
structure CertSite where
  mem : Option Identities := none
  file : StoreFile := .absent

inductive CertEvent where
  | start
  /-- A call with its accesses to the file. -/
  | call (op : CertOp) (tr : List (Sigma FileAnswer))
  /-- The process is killed in a call, after these accesses. -/
  | kill (op : CertOp) (tr : List (Sigma FileAnswer))

def CertSite.Step (s : CertSite) : CertEvent → CertSite → Prop
  | .start, s' => s.mem = none ∧ { s with mem := some (load s.file) } = s'
  | .call op tr, s' => ∃ m m' ex, s.mem = some m ∧ Runs (op.program m) tr (m', ex) ∧
      { mem := some m', file := tr.foldl StoreFile.after s.file } = s'
  | .kill op tr, s' => ∃ m, s.mem = some m ∧ Stops (op.program m) tr ∧
      { mem := none, file := tr.foldl StoreFile.after s.file } = s'

end Drawer.Cert
