import Drawer.Lib.Lines
import Drawer.Proofs.Signature
import Drawer.Spec.ManifestText

/-! The release service and the agent before one manifest. The service compares parsed
fields, the agent searches the text for the names of the members, and for the device
in the text of the revoked ones; the minimum version is a matter for the service only. -/

namespace Drawer.Ota
open Text Outcome Json

/-- The agent checks a manifest gates first. -/
theorem vet_eq (cfg : OtaConfig) (w : World) (st : State) (manifest : Bytes) :
    vet cfg w st manifest = gates cfg w st manifest >>= inspect cfg w manifest := by
  simp only [vet, gates, inspect, bind_assoc, pure_bind]

/-! ### Reading the text -/

theorem quoted_cons (key : String) : quoted key = 34 :: (ascii key ++ [34]) := rfl

/-- A name can be searched for in a JSON text: no byte of it ends a text or follows one. -/
def Searchable (key : String) : Prop := ∀ b ∈ ascii key, b ∉ [34, 92, 44, 58, 93]

instance (key : String) : Decidable (Searchable key) := inferInstanceAs (Decidable (∀ _ ∈ _, _))

section Search
variable {key : String}

theorem Searchable.notMem (hkey : Searchable key) {b : UInt8} (hb : b ∈ [34, 92, 44, 58, 93]) : b ∉ ascii key :=
  fun h => hkey b h hb

theorem passes_raw {a : Bytes} (h : 34 ∉ a) : Passes (quoted key) a := passes_of_notMem h _

theorem passes_quoteText (hkey : Searchable key) {d : UInt8} (hd : d ∈ [44, 58, 93]) {s : Bytes}
    (hs : ¬ Mistakable key s) : Passes (quoted key) (quoteText s ++ [d]) := by
  have hd' : d ∈ [34, 92, 44, 58, 93] := List.mem_cons_of_mem _ (List.mem_cons_of_mem _ hd)
  have hne : d ≠ 34 := by
    rintro rfl
    exact absurd hd (by decide)
  have h := passes_quoted (hkey.notMem (by simp)) (hkey.notMem (by simp)) (by decide) (hkey.notMem hd') hne
    (escaped_escapeText s) hs
  simpa [quoteText, quoted] using h

/-- The name is found right before its colon, or at the end of the text before it. -/
theorem find_member (hkey : Searchable key) {a : Bytes} (ha : Passes (quoted key) a) (s t : Bytes) :
    ∃ a' u, find (quoted key) (a ++ (quoteText s ++ 44 :: (quoted key ++ 58 :: t))) = some (a', u ++ 58 :: t) ∧ 58 ∉ u := by
  have hcolon : (58 : UInt8) ∉ quoted key := by
    have := hkey.notMem (b := 58) (by simp)
    simpa [quoted_cons] using this
  rw [ha.find]
  by_cases hs : Mistakable key s
  · obtain ⟨b, hb⟩ := hs
    have hfind := find_quoted_end (hkey.notMem (by simp)) (hkey.notMem (by simp)) (by decide) (escaped_escapeText s)
      hb.symm (44 :: (quoted key ++ 58 :: t))
    change find (quoted key) _ = some (b, quoted key ++ 44 :: (quoted key ++ 58 :: t)) at hfind
    refine ⟨a ++ b, quoted key ++ 44 :: quoted key, ?_, by simp [hcolon]⟩
    rw [quoteText, List.cons_append, List.append_assoc, List.singleton_append, hfind]
    simp
  · have hpass := passes_quoteText hkey (d := 44) (by simp) hs
    have hfind := hpass.find (quoted key ++ 58 :: t)
    rw [find_here (List.prefix_append _ _)] at hfind
    refine ⟨a ++ (quoteText s ++ [44] ++ []), quoted key, ?_, hcolon⟩
    rw [List.append_assoc, List.singleton_append] at hfind
    rw [hfind]
    rfl

theorem extractString_member (hkey : Searchable key) {a : Bytes} (ha : Passes (quoted key) a) {v : Bytes} (hv : 34 ∉ v)
    (s rest : Bytes) :
    extractString (a ++ (quoteText s ++ 44 :: (quoted key ++ 58 :: 34 :: (v ++ 34 :: rest)))) key = v := by
  obtain ⟨a', u, hfind, hu⟩ := find_member hkey ha s (34 :: (v ++ 34 :: rest))
  unfold extractString
  rw [hfind]
  exact (valueFrom_skip hu _).trans (valueFrom_colon (w := []) (by simp) hv rest)

theorem extractStage_member (hkey : Searchable key) {a : Bytes} (ha : Passes (quoted key) a) (s t : Bytes) :
    extractStage (a ++ (quoteText s ++ 44 :: (quoted key ++ 58 :: t))) key = stoi (t.takeWhile isDigit) := by
  obtain ⟨a', u, hfind, hu⟩ := find_member hkey ha s t
  have hcolon : find (ascii ":") (u ++ 58 :: t) = some (u, 58 :: t) := find_byte hu t
  unfold extractStage
  rw [hfind]
  simp only [hcolon]
  rfl

theorem takeWhile_ne_append (list rest : Bytes) : ∃ r, list ++ 93 :: rest = list.takeWhile (· ≠ 93) ++ 93 :: r := by
  by_cases h : 93 ∈ list
  · obtain ⟨u, w, rfl, hu⟩ := List.eq_append_cons_of_mem h
    refine ⟨w ++ 93 :: rest, ?_⟩
    rw [List.takeWhile_append_of_pos (ne_of_not_mem hu)]
    simp
  · exact ⟨rest, by rw [List.takeWhile_eq_self_iff.mpr (ne_of_not_mem h)]⟩

/-- The text up to the first bracket is searched for the token. -/
theorem containsToken_list {a : Bytes} (ha : Passes (quoted key) a) (hkey : 93 ∉ ascii key) (list rest token : Bytes) :
    containsToken (a ++ (quoted key ++ (ascii ":[" ++ (list ++ 93 :: rest)))) key token = true ↔
      token ≠ [] ∧ token <:+: quoted key ++ ascii ":[" ++ list.takeWhile (· ≠ 93) := by
  have hfind : find (quoted key) (a ++ (quoted key ++ (ascii ":[" ++ (list ++ 93 :: rest)))) =
      some (a, quoted key ++ (ascii ":[" ++ (list ++ 93 :: rest))) := by
    rw [ha.find, find_here (List.prefix_append _ _)]
    simp
  have hclose : ∃ r, find (ascii "]") (quoted key ++ (ascii ":[" ++ (list ++ 93 :: rest))) =
      some (quoted key ++ ascii ":[" ++ list.takeWhile (· ≠ 93), r) := by
    have hnot : (93 : UInt8) ∉ quoted key ++ ascii ":[" ++ list.takeWhile (· ≠ 93) := by
      have h1 : (93 : UInt8) ∉ quoted key := by simpa [quoted_cons] using hkey
      have h2 : (93 : UInt8) ∉ ascii ":[" := by decide
      have h3 : (93 : UInt8) ∉ list.takeWhile (· ≠ 93) := fun h => by simpa using List.mem_takeWhile_imp h
      simp only [List.mem_append, not_or]
      exact ⟨⟨h1, h2⟩, h3⟩
    obtain ⟨r, hr⟩ := takeWhile_ne_append list rest
    refine ⟨93 :: r, ?_⟩
    rw [hr, ← List.append_assoc, ← List.append_assoc]
    exact find_byte hnot r
  obtain ⟨r, hr⟩ := hclose
  unfold containsToken
  rw [hfind]
  simp only [hr, Option.some_or]
  split_ifs with htoken
  · simp [htoken]
  · simp [htoken, find_isSome_iff]

end Search

/-! ### The text of a manifest -/

namespace SignedReleaseManifest

variable (m : SignedReleaseManifest)

def name (key : String) : Bytes := quoteText (ascii key) ++ [58]

def beforeChannel : List Bytes := [[123], name "artifact_url"]

def beforeRevoked : List Bytes :=
  beforeChannel ++ [quoteText m.artifactUrl ++ [44], name "channel", quoteText m.channel ++ [44],
    name "min_version", quoteText m.minVersion ++ [44]]

def beforeRollout : List Bytes :=
  m.beforeRevoked ++ [name "revoked_devices", [91], m.revokedText ++ [93], [44], name "rollback_protection"]

def beforeVersion : List Bytes :=
  m.beforeRollout ++ [quoteText m.rollbackProtection ++ [44], name "rollout_percent", decimal m.rolloutPercent, [44],
    name "sha256", quoteText m.sha256 ++ [44], name "sig_ed25519"]

theorem text_version : m.text = m.beforeVersion.flatten ++
    (quoteText m.sigEd25519 ++ 44 :: (quoted "version" ++ 58 :: (quoteText m.version ++ [125]))) := by
  have hlist := dumpTexts_map_str (fun _ => []) m.revokedDevices
  have htext : m.text = ascii "\x7b" ++ [44].intercalate [memberText (ascii "artifact_url") (quoteText m.artifactUrl),
      memberText (ascii "channel") (quoteText m.channel), memberText (ascii "min_version") (quoteText m.minVersion),
      memberText (ascii "revoked_devices") (ascii "[" ++ m.revokedText ++ ascii "]"),
      memberText (ascii "rollback_protection") (quoteText m.rollbackProtection),
      memberText (ascii "rollout_percent") (decimal m.rolloutPercent),
      memberText (ascii "sha256") (quoteText m.sha256), memberText (ascii "sig_ed25519") (quoteText m.sigEd25519),
      memberText (ascii "version") (quoteText m.version)] ++ ascii "\x7d" := by
    rw [revokedText, ← hlist]
    rfl
  rw [htext]
  simp [beforeVersion, beforeRollout, beforeRevoked, beforeChannel, name, memberText, List.intercalate]
  rfl

theorem text_rollout : ∃ rest, m.text = m.beforeRollout.flatten ++
    (quoteText m.rollbackProtection ++ 44 :: (quoted "rollout_percent" ++ 58 :: (decimal m.rolloutPercent ++ 44 :: rest))) := by
  refine ⟨name "sha256" ++ (quoteText m.sha256 ++ 44 :: (name "sig_ed25519" ++ (quoteText m.sigEd25519 ++
    44 :: (quoted "version" ++ 58 :: (quoteText m.version ++ [125]))))), ?_⟩
  rw [text_version, beforeVersion, List.flatten_append]
  simp only [List.flatten_cons, List.flatten_nil, List.append_assoc, List.cons_append, List.nil_append, List.append_nil]
  rfl

theorem text_revoked : ∃ rest, m.text = m.beforeRevoked.flatten ++
    (quoted "revoked_devices" ++ (ascii ":[" ++ (m.revokedText ++ 93 :: rest))) := by
  obtain ⟨rest, htext⟩ := m.text_rollout
  refine ⟨44 :: (name "rollback_protection" ++ (quoteText m.rollbackProtection ++ 44 :: (quoted "rollout_percent" ++
    58 :: (decimal m.rolloutPercent ++ 44 :: rest)))), ?_⟩
  rw [htext, beforeRollout, List.flatten_append]
  simp only [List.flatten_cons, List.flatten_nil, List.append_assoc, List.cons_append, List.nil_append, List.append_nil]
  rfl

theorem text_channel : ∃ rest, m.text = beforeChannel.flatten ++
    (quoteText m.artifactUrl ++ 44 :: (quoted "channel" ++ 58 :: 34 :: (escapeText m.channel ++ 34 :: rest))) := by
  obtain ⟨rest, htext⟩ := m.text_revoked
  refine ⟨44 :: (name "min_version" ++ (quoteText m.minVersion ++ 44 :: (quoted "revoked_devices" ++
    (ascii ":[" ++ (m.revokedText ++ 93 :: rest))))), ?_⟩
  rw [htext, beforeRevoked, List.flatten_append]
  simp only [List.flatten_cons, List.flatten_nil, List.append_assoc, List.cons_append, List.nil_append, List.append_nil,
    quoteText]
  rfl

end SignedReleaseManifest

section Passing
variable {key : String} {m : SignedReleaseManifest}

theorem passes_name (hkey : Searchable key) {n : String} (hn : ¬ Mistakable key (ascii n)) :
    Passes (quoted key) (SignedReleaseManifest.name n) :=
  passes_quoteText hkey (by simp) hn

theorem passes_intercalate (hkey : Searchable key) (l : List Bytes) (hl : ∀ s ∈ l, ¬ Mistakable key s) :
    Passes (quoted key) ([44].intercalate (l.map quoteText) ++ [93]) := by
  induction l with
  | nil => exact passes_raw (by decide)
  | cons s l ih =>
    have hs : ¬ Mistakable key s := hl s List.mem_cons_self
    cases l with
    | nil => simpa [List.intercalate] using passes_quoteText hkey (d := 93) (by simp) hs
    | cons t l =>
      have htail := ih fun r hr => hl r (List.mem_cons_of_mem _ hr)
      have hjoin : [44].intercalate ((s :: t :: l).map quoteText) ++ [93] =
          (quoteText s ++ [44]) ++ ([44].intercalate ((t :: l).map quoteText) ++ [93]) := by
        simp [List.intercalate]
      rw [hjoin]
      exact (passes_quoteText hkey (by simp) hs).append htail

theorem mem_channels {channel : Bytes} (h : supportedChannel channel = true) :
    channel ∈ [ascii "dev", ascii "pilot", ascii "stable"] := by
  simpa [supportedChannel, or_assoc] using h

theorem not_mistakable_channel {channel : Bytes} (h : supportedChannel channel = true) :
    ∀ key ∈ ["revoked_devices", "rollout_percent", "version"], ¬ Mistakable key channel := by
  have hall : ∀ channel ∈ [ascii "dev", ascii "pilot", ascii "stable"],
      ∀ key ∈ ["revoked_devices", "rollout_percent", "version"], ¬ Mistakable key channel := by decide
  exact hall channel (mem_channels h)

theorem passes_beforeChannel (hkey : Searchable key) (hn : ¬ Mistakable key (ascii "artifact_url")) :
    ∀ a ∈ SignedReleaseManifest.beforeChannel, Passes (quoted key) a := by
  simp only [SignedReleaseManifest.beforeChannel, List.forall_mem_cons, List.not_mem_nil, false_imp_iff, implies_true, and_true]
  exact ⟨passes_raw (by decide), passes_name hkey hn⟩

theorem passes_beforeRevoked (hkey : Searchable key)
    (hn : ∀ n ∈ ["artifact_url", "channel", "min_version"], ¬ Mistakable key (ascii n))
    (hv : ∀ s ∈ [m.artifactUrl, m.channel, m.minVersion], ¬ Mistakable key s) :
    ∀ a ∈ m.beforeRevoked, Passes (quoted key) a := by
  simp only [List.forall_mem_cons, List.not_mem_nil, false_imp_iff, implies_true, and_true] at hn hv
  obtain ⟨hurl, hchannel, hmin⟩ := hn
  obtain ⟨hurl', hchannel', hmin'⟩ := hv
  simp only [SignedReleaseManifest.beforeRevoked, List.forall_mem_append, List.forall_mem_cons, List.not_mem_nil, false_imp_iff,
    implies_true, and_true]
  exact ⟨passes_beforeChannel hkey hurl, passes_quoteText hkey (by simp) hurl', passes_name hkey hchannel,
    passes_quoteText hkey (by simp) hchannel', passes_name hkey hmin, passes_quoteText hkey (by simp) hmin'⟩

theorem passes_beforeRollout (hkey : Searchable key)
    (hn : ∀ n ∈ ["artifact_url", "channel", "min_version", "revoked_devices", "rollback_protection"], ¬ Mistakable key (ascii n))
    (hv : ∀ s ∈ [m.artifactUrl, m.channel, m.minVersion], ¬ Mistakable key s)
    (hr : ∀ s ∈ m.revokedDevices, ¬ Mistakable key s) : ∀ a ∈ m.beforeRollout, Passes (quoted key) a := by
  have hfront := passes_beforeRevoked (m := m) hkey (fun n hmem => hn n (by simp at hmem ⊢; tauto)) hv
  simp only [List.forall_mem_cons, List.not_mem_nil, false_imp_iff, implies_true, and_true] at hn
  obtain ⟨-, -, -, hrevoked, hrollback⟩ := hn
  simp only [SignedReleaseManifest.beforeRollout, List.forall_mem_append, List.forall_mem_cons, List.not_mem_nil, false_imp_iff,
    implies_true, and_true]
  exact ⟨hfront, passes_name hkey hrevoked, passes_raw (by decide), passes_intercalate hkey _ hr, passes_raw (by decide),
    passes_name hkey hrollback⟩

theorem passes_beforeVersion (hkey : Searchable key)
    (hn : ∀ n ∈ ["artifact_url", "channel", "min_version", "revoked_devices", "rollback_protection", "rollout_percent",
      "sha256", "sig_ed25519"], ¬ Mistakable key (ascii n))
    (hv : ∀ s ∈ [m.artifactUrl, m.channel, m.minVersion], ¬ Mistakable key s)
    (hr : ∀ s ∈ m.revokedDevices, ¬ Mistakable key s) (hback : ¬ Mistakable key m.rollbackProtection)
    (hsha : ¬ Mistakable key m.sha256) : ∀ a ∈ m.beforeVersion, Passes (quoted key) a := by
  have hfront := passes_beforeRollout (m := m) hkey (fun n hmem => hn n (by simp at hmem ⊢; tauto)) hv hr
  simp only [List.forall_mem_cons, List.not_mem_nil, false_imp_iff, implies_true, and_true] at hn
  obtain ⟨-, -, -, -, -, hrollout, hsha', hsig⟩ := hn
  simp only [SignedReleaseManifest.beforeVersion, List.forall_mem_append, List.forall_mem_cons, List.not_mem_nil, false_imp_iff,
    implies_true, and_true]
  exact ⟨hfront, passes_quoteText hkey (by simp) hback, passes_name hkey hrollout, passes_raw (notMem_decimal (by decide) _),
    passes_raw (by decide), passes_name hkey hsha', passes_quoteText hkey (by simp) hsha, passes_name hkey hsig⟩

end Passing

/-! ### What the agent reads -/

section Reading
variable {m : SignedReleaseManifest}

theorem escapeText_plain {s : Bytes} (h : ∀ b ∈ s, escapeByte b = [b]) : escapeText s = s := by
  induction s with
  | nil => rfl
  | cons b s ih =>
    rw [escapeText, List.flatMap_cons, h b List.mem_cons_self, ← escapeText, ih fun c hc => h c (List.mem_cons_of_mem _ hc)]
    rfl

theorem quote_notMem_plain {s : Bytes} (h : ∀ b ∈ s, escapeByte b = [b]) : (34 : UInt8) ∉ s :=
  fun hmem => absurd (h 34 hmem) (by decide)

theorem read_channel (hchannel : supportedChannel m.channel = true) : extractString m.text "channel" = m.channel := by
  have hplain : ∀ channel ∈ [ascii "dev", ascii "pilot", ascii "stable"], ∀ b ∈ channel, escapeByte b = [b] := by
    decide +kernel
  have hplain' := hplain m.channel (mem_channels hchannel)
  obtain ⟨rest, htext⟩ := m.text_channel
  rw [htext, escapeText_plain hplain']
  exact extractString_member (by decide +kernel) (Passes.flatten (passes_beforeChannel (by decide +kernel) (by decide +kernel)))
    (quote_notMem_plain hplain') _ rest

theorem read_version {id current : Bytes} (hlegible : Legible m id current) (hchannel : supportedChannel m.channel = true) :
    extractString m.text "version" = m.version := by
  have hv := hlegible.version
  simp only [List.forall_mem_append, List.forall_mem_cons, List.not_mem_nil, false_imp_iff, implies_true, and_true] at hv
  obtain ⟨⟨hurl, hmin, hback, hsha⟩, hrevoked⟩ := hv
  have hfield := not_mistakable_channel hchannel "version" (by simp)
  have hbefore : ∀ a ∈ m.beforeVersion, Passes (quoted "version") a :=
    passes_beforeVersion (by decide +kernel) (by decide +kernel) (by simp [hurl, hmin, hfield]) hrevoked hback hsha
  have hwritten : quoteText m.version ++ [125] = 34 :: (m.version ++ 34 :: [125]) := by
    rw [quoteText, escapeText_plain hlegible.plain]
    simp
  rw [m.text_version, hwritten]
  exact extractString_member (by decide +kernel) (Passes.flatten hbefore) (quote_notMem_plain hlegible.plain) _ _

theorem read_revoked (hv : ∀ s ∈ [m.artifactUrl, m.minVersion], ¬ Mistakable "revoked_devices" s)
    (hchannel : supportedChannel m.channel = true) (id : Bytes) :
    containsToken m.text "revoked_devices" id = true ↔ Mentioned m id := by
  simp only [List.forall_mem_cons, List.not_mem_nil, false_imp_iff, implies_true, and_true] at hv
  obtain ⟨hurl, hmin⟩ := hv
  have hfield := not_mistakable_channel hchannel "revoked_devices" (by simp)
  have hbefore : ∀ a ∈ m.beforeRevoked, Passes (quoted "revoked_devices") a :=
    passes_beforeRevoked (by decide +kernel) (by decide +kernel) (by simp [hurl, hmin, hfield])
  obtain ⟨rest, htext⟩ := m.text_revoked
  rw [htext]
  exact containsToken_list (Passes.flatten hbefore) (by decide) m.revokedText rest id

theorem read_rollout (hv : ∀ s ∈ [m.artifactUrl, m.minVersion] ++ m.revokedDevices, ¬ Mistakable "rollout_percent" s)
    (hchannel : supportedChannel m.channel = true) :
    ∃ rest, extractStage m.text "rollout_percent" = stoi ((decimal m.rolloutPercent ++ 44 :: rest).takeWhile isDigit) := by
  simp only [List.forall_mem_append, List.forall_mem_cons, List.not_mem_nil, false_imp_iff, implies_true, and_true] at hv
  obtain ⟨⟨hurl, hmin⟩, hrevoked⟩ := hv
  have hfield := not_mistakable_channel hchannel "rollout_percent" (by simp)
  have hbefore : ∀ a ∈ m.beforeRollout, Passes (quoted "rollout_percent") a :=
    passes_beforeRollout (by decide +kernel) (by decide +kernel) (by simp [hurl, hmin, hfield]) hrevoked
  obtain ⟨rest, htext⟩ := m.text_rollout
  refine ⟨rest, ?_⟩
  rw [htext]
  exact extractStage_member (by decide +kernel) (Passes.flatten hbefore) _ _

/-- A percentage below zero is no number to the agent, and includes no device. -/
theorem stage_allows_iff {n : Int} (hn : n ≤ 2147483647) (rest : Bytes) {h : Int} (hh : 0 ≤ h) :
    (∃ r, stoi ((decimal n ++ 44 :: rest).takeWhile isDigit) = .ok r ∧ allow h r = true) ↔ allow h n = true := by
  by_cases h0 : 0 ≤ n
  · have htake : (decimal n ++ 44 :: rest).takeWhile isDigit = decimal n := by
      rw [decimal_eq, if_pos h0, List.takeWhile_append_of_pos fun _ hb => isDigit_of_mem_digits hb,
        List.takeWhile_cons_of_neg (by decide), List.append_nil]
    rw [htake, stoi_decimal ⟨by omega, hn⟩]
    simp
  · have htake : (decimal n ++ 44 :: rest).takeWhile isDigit = [] := by
      rw [decimal_eq, if_neg h0, List.cons_append, List.takeWhile_cons_of_neg (by decide)]
    have hstoi : stoi [] = .error .invalidArgument := rfl
    have hout : allow h n = false := by
      simp only [allow, decide_eq_false_iff_not]
      omega
    rw [htake, hstoi, hout]
    simp

end Reading

theorem hashDevice_nonneg (stdHash : Bytes → ℕ) (id : Bytes) : 0 ≤ hashDevice stdHash id := by
  unfold hashDevice
  omega

theorem rejectIf_bind_eq_ok {α : Type} {c : Bool} {reason : String} {f : Unit → Except Halt α} {a : α} :
    (rejectIf c reason >>= f) = .ok a ↔ c = false ∧ f () = .ok a := by
  cases c <;> simp [rejectIf, bind, Except.bind]

theorem mapError_bind_eq_ok {α β : Type} {r : Except Exn α} {f : α → Except Halt β} {b : β} :
    (r.mapError Halt.threw >>= f) = .ok b ↔ ∃ a, r = .ok a ∧ f a = .ok b := by
  cases r <;> simp [Except.mapError, bind, Except.bind]

/-- The gates are passed exactly if each of them is. -/
theorem gates_ok_iff (cfg : OtaConfig) (w : World) (st : State) (manifest : Bytes) :
    (∃ v, gates cfg w st manifest = .ok v) ↔
      supportedChannel (extractString manifest "channel") = true ∧ extractString manifest "channel" = cfg.channel ∧
      less st.currentVersion (extractString manifest "version") = true ∧
      ¬ containsToken manifest "revoked_devices" cfg.deviceId = true ∧
      ∃ r, extractStage manifest "rollout_percent" = .ok r ∧ allow (hashDevice w.stdHash cfg.deviceId) r = true := by
  simp only [gates, rejectIf_bind_eq_ok, mapError_bind_eq_ok, Bool.not_eq_false', decide_eq_false_iff_not, not_not,
    Bool.not_eq_true, pure, Except.pure, Except.ok.injEq]
  tauto

/-- What the service answers that holds one manifest. -/
theorem eligible_holding_iff (stdHash : Bytes → ℕ) (m : SignedReleaseManifest) (id current : Bytes) :
    ((ReleaseService.holding m).eligible stdHash id m.channel current).eligible = true ↔
      less current m.version = true ∧ ¬ ((m.minVersion ≠ [] ∧ less current m.minVersion = true) ∨ id ∈ m.revokedDevices) ∧
      allow (hashDevice stdHash id) m.rolloutPercent = true := by
  have hselect : (ReleaseService.holding m).select m.channel = m := by
    have hm : (ReleaseService.holding m).manifests = [m] := rfl
    simp [ReleaseService.select, hm, ReleaseService.pick]
  have hne : less current m.version = true → m.version ≠ [] := ne_nil_of_less
  simp only [ReleaseService.eligible, hselect]
  split_ifs <;> simp_all

section Agreement
variable {cfg : OtaConfig} {w : World} {st : State} {m : SignedReleaseManifest}

/-- On a legible text, the gates are those of the fields, but for the device and the minimum version. -/
theorem gates_text_iff (hlegible : Legible m cfg.deviceId st.currentVersion) (hchannel : supportedChannel m.channel = true)
    (hcfg : cfg.channel = m.channel) (hint : m.rolloutPercent ≤ 2147483647) :
    (∃ v, gates cfg w st m.text = .ok v) ↔ less st.currentVersion m.version = true ∧ ¬ Mentioned m cfg.deviceId ∧
      allow (hashDevice w.stdHash cfg.deviceId) m.rolloutPercent = true := by
  rw [gates_ok_iff, read_channel hchannel, read_version hlegible hchannel, hcfg]
  simp only [hchannel, true_and]
  refine and_congr_right fun hnewer => ?_
  rw [read_revoked (hlegible.revoked hnewer) hchannel]
  refine and_congr_right fun hunnamed => ?_
  obtain ⟨rest, hstage⟩ := read_rollout (hlegible.rollout hnewer hunnamed) hchannel
  rw [hstage]
  exact stage_allows_iff hint rest (hashDevice_nonneg _ _)

/-- The deciders agree on a manifest that is legible as far as it is read, exactly where the name alone bars the device. -/
theorem deciders_agree_iff (cfg : OtaConfig) (w : World) (st : State) (m : SignedReleaseManifest)
    (hchannel : supportedChannel m.channel = true) (hcfg : cfg.channel = m.channel) (hint : m.rolloutPercent ≤ 2147483647)
    (hlegible : Legible m cfg.deviceId st.currentVersion) :
    (((ReleaseService.holding m).eligible w.stdHash cfg.deviceId m.channel st.currentVersion).eligible = true ↔
        ∃ v, gates cfg w st m.text = .ok v) ↔
      BarredByName w.stdHash m cfg.deviceId st.currentVersion := by
  rw [eligible_holding_iff, gates_text_iff hlegible hchannel hcfg hint, BarredByName]
  tauto

end Agreement

/-- A release that one register is not to get. -/
def withoutReg10 : SignedReleaseManifest :=
  { channel := ascii "stable", version := ascii "1.2.0", artifactUrl := ascii "file:///bundle", sha256 := ascii "ab",
    revokedDevices := [ascii "REG-10"] }

def register (name : String) : OtaConfig := { enable := true, thingName := ascii name }

/-- The feed is the text of that release. -/
def feedWorld : World where
  fetch _ := .ok withoutReg10.text
  readFile _ := []
  hexSha256 _ := ascii "ab"
  verifyPem _ _ _ := true
  stdHash _ := 7
  installBundle _ := .ok ()

theorem legible_withoutReg10 (id current : Bytes) : Legible withoutReg10 id current :=
  ⟨by decide +kernel, by decide +kernel, fun _ => by decide +kernel, fun _ _ => by decide +kernel⟩

theorem deciders_agree_iff_unlisted :
    ((ReleaseService.holding withoutReg10).eligible feedWorld.stdHash (register "REG-2").deviceId (ascii "stable")
      (ascii "0.0.0")).eligible = true ↔ ∃ v, gates (register "REG-2") feedWorld {} withoutReg10.text = .ok v := by
  refine (deciders_agree_iff (register "REG-2") feedWorld {} withoutReg10 (by decide) rfl (by decide)
    (legible_withoutReg10 _ _)).mpr fun _ _ => ?_
  unfold Mentioned
  decide

/-- REG-10 is revoked, and REG-1 with it: its name occurs in the other one's. -/
theorem namesake_revoked :
    ¬ ∀ (cfg : OtaConfig) (w : World) (st : State) (m : SignedReleaseManifest), supportedChannel m.channel = true →
      cfg.channel = m.channel → m.rolloutPercent ≤ 2147483647 →
      (((ReleaseService.holding m).eligible w.stdHash cfg.deviceId m.channel st.currentVersion).eligible = true ↔
        ∃ v, gates cfg w st m.text = .ok v) := by
  intro hclaim
  have hagree := hclaim (register "REG-1") feedWorld {} withoutReg10 (by decide) rfl (by decide)
  have heligible : ((ReleaseService.holding withoutReg10).eligible feedWorld.stdHash (register "REG-1").deviceId
      (ascii "stable") (ascii "0.0.0")).eligible = true := by decide
  have hmentioned : Mentioned withoutReg10 (register "REG-1").deviceId := by
    unfold Mentioned
    decide
  exact ((gates_text_iff (legible_withoutReg10 _ _) (by decide) rfl (by decide)).mp (hagree.mp heligible)).2.1 hmentioned

end Drawer.Ota
