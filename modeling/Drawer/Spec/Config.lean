import Drawer.Lib.JsonRecord
import Drawer.Lib.Text

/-! The configuration: its settings with their types and defaults, section by
section, and `load`, which overlays them with a file. The JSON library is the
parameter `parse`: it reads the first value of a text and leaves the rest. Integers
in a value are those of 64 bits, signed or not. -/

namespace Drawer.Cfg
open Text

/-- A setting, with its type. -/
inductive Value where
  | int (n : Int32)
  | long (n : Int64)
  | uint64 (n : UInt64)
  | double (q : ℚ)
  | bool (b : Bool)
  | string (s : Bytes)
  deriving DecidableEq

inductive Kind where
  | int
  | long
  | uint64
  | double
  | bool
  | string
  deriving DecidableEq

/-- `INT_FIELD` to `STRING_FIELD`: the value of the type, or the end of the complaint. -/
def Kind.read : Kind → Json Bytes → Except String Value
  | .int, .int n => .ok (.int (Int32.ofInt n))
  | .int, _ => .error " must be integer"
  | .long, .int n => .ok (.long (Int64.ofInt n))
  | .long, _ => .error " must be integer"
  | .uint64, .int n => .ok (.uint64 (UInt64.ofInt n))
  | .uint64, _ => .error " must be unsigned"
  | .double, .int n => .ok (.double n)
  | .double, .float q => .ok (.double q)
  | .double, _ => .error " must be number"
  | .bool, .bool b => .ok (.bool b)
  | .bool, .int n => .ok (.bool (Int32.ofInt n != 0))
  | .bool, _ => .error " must be bool"
  | .string, .str s => .ok (.string s)
  | .string, _ => .error " must be string"

structure Field where
  key : String
  kind : Kind
  dflt : Value

/-- The settings at one place of the file. -/
structure Section where
  place : List String
  fields : List Field

/-- The beginning of the names of its settings. -/
def Section.path (s : Section) : Bytes := s.place.flatMap fun name => ascii name ++ ascii "."

def Section.setting (s : Section) (f : Field) : Bytes := s.path ++ ascii f.key

def intField (key : String) (dflt : Int32) : Field := ⟨key, .int, .int dflt⟩
def longField (key : String) (dflt : Int64) : Field := ⟨key, .long, .long dflt⟩
def uint64Field (key : String) (dflt : UInt64) : Field := ⟨key, .uint64, .uint64 dflt⟩
def doubleField (key : String) (dflt : ℚ) : Field := ⟨key, .double, .double dflt⟩
def boolField (key : String) (dflt : Bool) : Field := ⟨key, .bool, .bool dflt⟩
def stringField (key : String) (dflt : String) : Field := ⟨key, .string, .string (ascii dflt)⟩

/-! ### The settings and their defaults -/

def pins : Section where
  place := ["io", "pins"]
  fields := [intField "step" 23, intField "dir" 24, intField "enable" 25, intField "limit_open" 26,
    intField "limit_closed" 27, intField "hopper_en" 5, intField "hopper_pulse" 6, intField "hx_dt" 19,
    intField "hx_sck" 13]

def mechanics : Section where
  place := ["mechanics"]
  fields := [intField "steps_per_mm" 40, intField "open_mm" 40, intField "max_mm" 80]

def hopper : Section where
  place := ["hopper"]
  fields := [intField "pulses_per_coin" 1, intField "min_edge_interval_us" 2000]

def dispense : Section where
  place := ["dispense"]
  fields := [intField "jam_ms" 600, intField "settle_ms" 120, intField "max_ms_per_coin" 300,
    intField "hard_timeout_ms" 5000]

def audit : Section where
  place := ["audit"]
  fields := [doubleField "coin_mass_g" (567 / 100), doubleField "tolerance_per_coin_g" (35 / 100),
    doubleField "grams_per_raw" (1 / 1000), longField "tare_raw" 0, intField "samples_pre" 8,
    intField "samples_post" 8, intField "settle_ms" 200, intField "stuck_epsilon_raw" 3]

def presentation : Section where
  place := ["presentation"]
  fields := [intField "present_ms" 2000]

def selftest : Section where
  place := ["selftest"]
  fields := [boolField "enable_coin_test" true]

def aws : Section where
  place := ["aws"]
  fields := [boolField "enable" false, stringField "endpoint" "", stringField "thing_name" "REG-01",
    stringField "client_id" "REG-01", stringField "root_ca_env" "AWS_ROOT_CA", stringField "cert_env" "AWS_CERT",
    stringField "key_env" "AWS_KEY", stringField "topic_prefix" "register/REG-01", intField "qos" 1,
    stringField "queue_dir" "data/awsq", uint64Field "max_queue_bytes" 8388608, boolField "use_tls_identity" false,
    intField "rotation_check_minutes" 60]

def security : Section where
  place := ["security"]
  fields := [boolField "enable_ro_root" true, boolField "ssh_keys_only" true, boolField "firewall_enable" true,
    stringField "allow_ssh_from" "192.0.2.0/24", boolField "auditd_enable" true,
    stringField "service_user" "registermvp"]

def identity : Section where
  place := ["identity"]
  fields := [boolField "use_tpm" false, stringField "tpm_parent_handle" "0x81000001",
    stringField "ca_endpoint" "http://ca.local/sign", stringField "cert_dir" "/etc/register-mvp/certs",
    stringField "device_id_prefix" "REG"]

def safety : Section where
  place := ["safety"]
  fields := [intField "estop_pin" (-1), intField "lid_tamper_pin" (-1), intField "overcurrent_pin" (-1),
    boolField "active_high" true, intField "debounce_ms" 10]

def service : Section where
  place := ["service"]
  fields := [boolField "enable" true, stringField "pin_code" "1234", intField "jam_clear_shutter_mm" 3,
    intField "jam_clear_cycles" 3, intField "hopper_nudge_ms" 150, intField "hopper_max_retries" 2,
    stringField "audit_path" "data/service.log"]

def pos : Section where
  place := ["pos"]
  fields := [boolField "enable_http" true, intField "port" 9090, stringField "key" "", stringField "tls_cert" "",
    stringField "tls_key" ""]

def ota : Section where
  place := ["ota"]
  fields := [boolField "enable" false, stringField "backend" "local", stringField "feed_url" "",
    stringField "channel" "stable", stringField "ring" "default", intField "poll_seconds" 300,
    stringField "state_dir" "/var/lib/register-mvp/ota", stringField "key_pub" "",
    intField "health_grace_seconds" 180, boolField "require_signed" true]

def manufacturing : Section where
  place := ["manufacturing"]
  fields := [boolField "enable_first_boot_eol" true, stringField "label_printer_uri" "file://stdout",
    stringField "label_template" "assets/labels/Device_Label.svg", stringField "company_name" "Acme Retail"]

def eol : Section where
  place := ["eol"]
  fields := [doubleField "weigh_tolerance_g" (35 / 100), intField "coins_for_test" 3, intField "open_mm" 40,
    intField "present_ms" 1500, intField "retries" 1, intField "min_success_txn_visible_seconds" 10,
    stringField "result_dir" "/var/lib/register-mvp/eol"]

def burnin : Section where
  place := ["burnin"]
  fields := [intField "cycles" 500, intField "rest_ms" 250, boolField "abort_on_fault" true,
    stringField "log_path" "/var/log/register-mvp/burnin.jsonl"]

def quant : Section where
  place := ["quant"]
  fields := [boolField "enable" false, stringField "endpoint" "", stringField "client_id" "REG-CLIENT",
    stringField "hmac_key_hex" "", stringField "topic" "register/stream",
    stringField "queue_dir" "/var/lib/register-mvp/quantq", stringField "backoff_ms" "200,400,800,1600,3000",
    intField "heartbeat_seconds" 15, intField "reserve_floor_cents" 2000, intField "max_daily_outflow_cents" 50000,
    intField "min_step_change_cents" 100, intField "max_update_rate_hz" 2, intField "tolerance_cents" 100]

def schema : List Section :=
  [pins, mechanics, hopper, dispense, audit, presentation, selftest, aws, security, identity, safety, service, pos, ota,
    manufacturing, eol, burnin, quant]

/-- The settings by their names, and where they were read from. -/
structure Config where
  settings : Bytes → Option Value
  sourcePath : Bytes := []

/-- `make_defaults`. -/
def defaults : Config where
  settings p := List.lookup p (schema.flatMap fun s => s.fields.map fun f => (s.setting f, f.dflt))

/-! ### Reading a file -/

/-- The configuration, what was complained of, and the minutes between two refreshes of the secrets, if they are scheduled. -/
structure LoadResult where
  config : Config
  errors : List Bytes := []
  rotation : Option Int32 := none

def LoadResult.complain (r : LoadResult) (e : Bytes) : LoadResult := { r with errors := r.errors ++ [e] }

def LoadResult.set (r : LoadResult) (setting : Bytes) (x : Value) : LoadResult :=
  { r with config := { r.config with settings := Function.update r.config.settings setting (some x) } }

/-- One member in the loop of `apply_object`. -/
def applyMember (s : Section) (r : LoadResult) (m : Bytes × Json Bytes) : LoadResult :=
  match s.fields.find? fun f => decide (ascii f.key = m.1) with
  | none => r.complain (s.path ++ m.1 ++ ascii " unknown")
  | some f =>
    match f.kind.read m.2 with
    | .error what => r.complain (s.path ++ m.1 ++ ascii what)
    | .ok x => r.set (s.path ++ m.1) x

def applyObject (s : Section) (r : LoadResult) : Json Bytes → LoadResult
  | .obj members => members.foldl (applyMember s) r
  | _ => r.complain (s.path.dropLast ++ ascii " must be object")

/-- The keys that `items()` visits: the indices of an array, one empty key for what has no members. -/
def items : Json Bytes → List Bytes
  | .obj members => members.map Prod.fst
  | .arr l => (List.range l.length).map fun i => decimal i
  | .null => []
  | _ => [[]]

def parseIo (r : LoadResult) (j : Json Bytes) : LoadResult :=
  let r := match j.member (ascii "pins") with
    | some v => applyObject pins r v
    | none => r
  { r with errors := r.errors ++ ((items j).filter (· ≠ ascii "pins")).map fun k => ascii "io." ++ k ++ ascii " unknown" }

def parseMechanics := applyObject mechanics
def parseHopper := applyObject hopper
def parseDispense := applyObject dispense
def parseAudit := applyObject audit
def parsePresentation := applyObject presentation
def parseSelftest := applyObject selftest
def parseAws := applyObject aws
def parseSecurity := applyObject security
def parseIdentity := applyObject identity
def parseSafety := applyObject safety
def parseService := applyObject service
def parsePos := applyObject pos
def parseOta := applyObject ota
def parseManufacturing := applyObject manufacturing
def parseEol := applyObject eol
def parseBurnin := applyObject burnin
def parseQuant := applyObject quant

/-- The sections in the order in which they are read. -/
def parsers : List (String × (LoadResult → Json Bytes → LoadResult)) :=
  [("io", parseIo), ("mechanics", parseMechanics), ("hopper", parseHopper), ("dispense", parseDispense),
    ("audit", parseAudit), ("presentation", parsePresentation), ("selftest", parseSelftest), ("aws", parseAws),
    ("security", parseSecurity), ("identity", parseIdentity), ("safety", parseSafety), ("service", parseService),
    ("pos", parsePos), ("ota", parseOta), ("manufacturing", parseManufacturing), ("eol", parseEol),
    ("burnin", parseBurnin), ("quant", parseQuant)]

def known : List String :=
  ["io", "mechanics", "hopper", "dispense", "audit", "presentation", "selftest", "aws", "security", "identity", "safety",
    "service", "pos", "ota", "manufacturing", "eol", "burnin", "quant"]

def applySection (j : Json Bytes) (r : LoadResult) (p : String × (LoadResult → Json Bytes → LoadResult)) : LoadResult :=
  match j.member (ascii p.1) with
  | some v => p.2 r v
  | none => r

/-- `schedule_rotation`, if the connection is enabled: a thread that wakes after so many minutes. -/
def scheduled (c : Config) : Option Int32 :=
  match c.settings (ascii "aws.enable"), c.settings (ascii "aws.rotation_check_minutes") with
  | some (.bool true), some (.int minutes) => if minutes ≤ 0 then none else some minutes
  | _, _ => none

/-- A value of the library: its objects are maps, so no key occurs twice. -/
inductive Keyed : Json Bytes → Prop where
  | null : Keyed .null
  | bool (b : Bool) : Keyed (.bool b)
  | int (n : Int) : Keyed (.int n)
  | float (q : ℚ) : Keyed (.float q)
  | str (s : Bytes) : Keyed (.str s)
  | arr {l : List (Json Bytes)} (elements : ∀ j ∈ l, Keyed j) : Keyed (.arr l)
  | obj {members : List (Bytes × Json Bytes)} (keys : (members.map Prod.fst).Nodup) (values : ∀ m ∈ members, Keyed m.2) :
    Keyed (.obj members)

structure Document where
  root : Json Bytes
  keyed : Keyed root

/-- What `in >> j` does: the first value of the text and the text after it, or what the exception says. -/
abbrev Parser := Bytes → Except Bytes (Document × Bytes)

/-- The part of `load` after the file was opened. -/
def loadText (parse : Parser) (path text : Bytes) : LoadResult :=
  match parse text with
  | .error what => { config := defaults, errors := [ascii "invalid json: " ++ what] }
  | .ok (doc, _) =>
    let r := parsers.foldl (applySection doc.root) { config := { defaults with sourcePath := path } }
    let unknown := (items doc.root).filter fun k => decide (k ∉ known.map ascii)
    { r with
      errors := r.errors ++ unknown.map fun k => ascii "unknown section " ++ k
      rotation := scheduled r.config }

/-- `load`; `env` is the variable that names the file. -/
def load (parse : Parser) (env : Option Bytes) (readFile : Bytes → Option Bytes) : LoadResult :=
  match env with
  | none => { config := defaults }
  | some path =>
    if path = [] then { config := defaults }
    else
      match readFile path with
      | none => { config := defaults, errors := [ascii "unable to open config file " ++ path] }
      | some text => loadText parse path text

/-! ### What a file says -/

/-- The value at a place below `j`. -/
def at? (j : Json Bytes) : List String → Option (Json Bytes)
  | [] => some j
  | name :: place => (j.member (ascii name)).bind fun v => at? v place

/-- What `v` says of a setting of type `k`; an integer may stand for a truth value. -/
inductive Means : Kind → Json Bytes → Value → Prop where
  | int (n : Int32) : Means .int (.int n.toInt) (.int n)
  | long (n : Int64) : Means .long (.int n.toInt) (.long n)
  | uint64 (n : UInt64) : Means .uint64 (.int n.toNat) (.uint64 n)
  | whole (n : Int) : Means .double (.int n) (.double n)
  | fraction (q : ℚ) : Means .double (.float q) (.double q)
  | truth (b : Bool) : Means .bool (.bool b) (.bool b)
  | flag (n : Int) : Means .bool (.int n) (.bool (n != 0))
  | text (s : Bytes) : Means .string (.str s) (.string s)

/-- An object that has no members but these. -/
def Only (names : List String) (j : Json Bytes) : Prop := ∃ members, j = .obj members ∧ ∀ m ∈ members, m.1 ∈ names.map ascii

/-- The member of the file for the setting `f` of `s`. -/
def given (j : Json Bytes) (s : Section) (f : Field) : Option (Json Bytes) := (at? j s.place).bind fun v => v.member (ascii f.key)

/-- The file is one object of known members, and `c` the defaults overlaid with them. -/
structure Overlaid (j : Json Bytes) (c : Config) : Prop where
  root : Only known j
  io : ∀ v, at? j ["io"] = some v → Only ["pins"] v
  sections : ∀ s ∈ schema, ∀ v, at? j s.place = some v → Only (s.fields.map Field.key) v
  values : ∀ s ∈ schema, ∀ f ∈ s.fields, ∀ v, given j s f = some v → ∃ x, c.settings (s.setting f) = some x ∧ Means f.kind v x
  others : ∀ p, (∀ s ∈ schema, ∀ f ∈ s.fields, given j s f ≠ none → s.setting f ≠ p) → c.settings p = defaults.settings p

/-- A blank of JSON. -/
def blank (b : UInt8) : Bool := b = 32 || b = 9 || b = 10 || b = 13

/-- If the file can be read and there is no error, it is one object with nothing after it and the configuration what it says. -/
def LoadsExactly (parse : Parser) (readFile : Bytes → Option Bytes) (path : Bytes) : Prop :=
  ∀ text, path ≠ [] → readFile path = some text → (load parse (some path) readFile).errors = [] →
    ∃ doc rest, parse text = .ok (doc, rest) ∧ (∀ b ∈ rest, blank b = true) ∧
      Overlaid doc.root (load parse (some path) readFile).config

/-! ### When it is loaded so -/

/-- The value has no members and is no object: `items()` visits nothing. -/
def Hollow (j : Json Bytes) : Prop := j = .null ∨ j = .arr []

/-- The value is of the type, as far as JSON tells. -/
def Typed (k : Kind) (v : Json Bytes) : Prop :=
  match k with
  | .int | .long | .uint64 => ∃ n, v = .int n
  | .double => (∃ n, v = .int n) ∨ ∃ q, v = .float q
  | .bool => (∃ b, v = .bool b) ∨ ∃ n, v = .int n
  | .string => ∃ s, v = .str s

/-- An integer survives the cast to the type. -/
def Fits (k : Kind) (v : Json Bytes) : Prop :=
  ∀ n, v = .int n →
    match k with
    | .int => -2147483648 ≤ n ∧ n ≤ 2147483647
    | .long => -9223372036854775808 ≤ n ∧ n ≤ 9223372036854775807
    | .uint64 => 0 ≤ n ∧ n ≤ 18446744073709551615
    | .bool => n = 0 ∨ n % 4294967296 ≠ 0
    | .double | .string => True

/-- Known members of the right types, where a hollow value may stand for the file or its `io`. -/
structure Tolerated (j : Json Bytes) : Prop where
  root : Hollow j ∨ Only known j
  io : ∀ v, at? j ["io"] = some v → Hollow v ∨ Only ["pins"] v
  sections : ∀ s ∈ schema, ∀ v, at? j s.place = some v → Only (s.fields.map Field.key) v
  values : ∀ s ∈ schema, ∀ f ∈ s.fields, ∀ v, given j s f = some v → Typed f.kind v

/-- A file that is tolerated has an object for the file and its `io`, integers that fit, and nothing after the value. -/
def Sound (parse : Parser) (text : Bytes) : Prop :=
  ∀ doc rest, parse text = .ok (doc, rest) → Tolerated doc.root →
    (∀ b ∈ rest, blank b = true) ∧ ¬ Hollow doc.root ∧ (∀ v, at? doc.root ["io"] = some v → ¬ Hollow v) ∧
      ∀ s ∈ schema, ∀ f ∈ s.fields, ∀ v, given doc.root s f = some v → Fits f.kind v

end Drawer.Cfg
