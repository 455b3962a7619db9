import Drawer.Lib.Text
import Drawer.Lib.Transition
import Drawer.Spec.Veil

/-! Verification of a tenant's evidence. A record is linked to its device's chain
if that has a record, and the verifier wants the same link to be the tenant's
last record too: an honest history verifies exactly if no device comes back
after another record. -/

namespace Drawer.Veil
open VeilTrustService
open Transition (split_snoc)

variable {h : Digest}

/-! ### Chain keys -/

theorem chainKey_inj {kind v w : String} : chainKey kind v = chainKey kind w ↔ v = w := by
  simp [chainKey]

theorem device_ne_tenant (d t : String) : chainKey "device" d ≠ chainKey "tenant" t := by
  intro heq
  have hlist := congrArg String.toList heq
  simp [chainKey] at hlist

/-- A key the verifier looks at. -/
def Proper (key : String) : Prop :=
  (∃ d, d ≠ "" ∧ key = chainKey "device" d) ∨ ∃ t, t ≠ "" ∧ key = chainKey "tenant" t

theorem mem_keysOf {e : TrustEvidenceRecord} {key : String} (hp : Proper key) :
    key ∈ keysOf e ↔ key = chainKey "device" e.deviceId ∨ key = chainKey "tenant" e.tenantId := by
  rcases hp with ⟨d, hd, rfl⟩ | ⟨t, ht, rfl⟩
  · by_cases he : e.deviceId = ""
    · simp [keysOf, he, chainKey_inj, hd, device_ne_tenant]
    · simp [keysOf, he, chainKey_inj, device_ne_tenant]
  · have hne : chainKey "tenant" t ≠ chainKey "device" e.deviceId := (device_ne_tenant _ _).symm
    by_cases he : e.tenantId = ""
    · simp [keysOf, he, chainKey_inj, ht, hne]
    · simp [keysOf, he, chainKey_inj, hne]

theorem nodup_keysOf (e : TrustEvidenceRecord) : (keysOf e).Nodup := by
  unfold keysOf
  split_ifs <;> simp [device_ne_tenant]

theorem lastHashFor_append {key : String} (hp : Proper key) (l : List TrustEvidenceRecord) (e : TrustEvidenceRecord) :
    lastHashFor h (l ++ [e]) key = if key ∈ keysOf e then recordChainHash h e else lastHashFor h l key := by
  unfold lastHashFor
  rw [List.reverse_append, List.reverse_singleton, List.singleton_append, List.find?_cons]
  by_cases hk : key ∈ keysOf e
  · rw [if_pos hk]
    have hm : (key = chainKey "device" e.deviceId || key = chainKey "tenant" e.tenantId) = true := by
      simpa using (mem_keysOf hp).mp hk
    simp only [hm]
  · rw [if_neg hk]
    have hm : (key = chainKey "device" e.deviceId || key = chainKey "tenant" e.tenantId) = false := by
      simpa [not_or] using mt (mem_keysOf hp).mpr hk
    simp only [hm]

/-! ### The verifier's state -/

def Clean (sc : Scan) : Prop := sc.valid = true ∧ sc.errors = []

theorem clean_failIf {c : Bool} {error : String} {sc : Scan} : Clean (sc.failIf c error) ↔ Clean sc ∧ c = false := by
  cases c <;> simp [Clean, Scan.failIf]

theorem failIf_lastHash (c : Bool) (error : String) (sc : Scan) : (sc.failIf c error).lastHash = sc.lastHash := by
  cases c <;> rfl

theorem failIf_lastTime (c : Bool) (error : String) (sc : Scan) : (sc.failIf c error).lastTime = sc.lastTime := by
  cases c <;> rfl

theorem failIf_ids (c : Bool) (error : String) (sc : Scan) : (sc.failIf c error).ids = sc.ids := by
  cases c <;> rfl

/-- The record passes the check against the chain `key`. -/
def Linked (sc : Scan) (e : TrustEvidenceRecord) (key : String) : Prop :=
  ((sc.lastHash.lookup key).getD "" = "" ∨ e.previousHash = (sc.lastHash.lookup key).getD "") ∧
  ∀ t, sc.lastTime.lookup key = some t → t ≤ e.timestamp

theorem clean_checkKey {e : TrustEvidenceRecord} {sc : Scan} {key : String} :
    Clean (checkKey h e sc key) ↔ Clean sc ∧ Linked sc e key := by
  have hiff : Clean (checkKey h e sc key) ↔
      Clean ((sc.failIf ((sc.lastHash.lookup key).getD "" ≠ "" && e.previousHash ≠ (sc.lastHash.lookup key).getD "")
        ("missing_link:" ++ e.evidenceId)).failIf ((sc.lastTime.lookup key).any fun t => e.timestamp < t)
        ("out_of_order:" ++ e.evidenceId)) := Iff.rfl
  rw [hiff, clean_failIf, clean_failIf, and_assoc]
  refine and_congr_right fun _ => and_congr ?_ ?_
  · simp [or_iff_not_imp_left]
  · cases sc.lastTime.lookup key <;> simp

theorem lookup_checkKey (e : TrustEvidenceRecord) (sc : Scan) (k key : String) :
    (checkKey h e sc k).lastHash.lookup key =
      (if key = k then some (recordChainHash h e) else sc.lastHash.lookup key) ∧
    (checkKey h e sc k).lastTime.lookup key = (if key = k then some e.timestamp else sc.lastTime.lookup key) ∧
    (checkKey h e sc k).ids = sc.ids := by
  simp only [checkKey, Dict.lookup_insert_if, failIf_lastHash, failIf_lastTime, failIf_ids, and_self]

theorem lookup_foldl_checkKey (e : TrustEvidenceRecord) (sc : Scan) (keys : List String) (key : String) :
    (keys.foldl (checkKey h e) sc).lastHash.lookup key =
      (if key ∈ keys then some (recordChainHash h e) else sc.lastHash.lookup key) ∧
    (keys.foldl (checkKey h e) sc).lastTime.lookup key =
      (if key ∈ keys then some e.timestamp else sc.lastTime.lookup key) ∧
    (keys.foldl (checkKey h e) sc).ids = sc.ids := by
  induction keys generalizing sc with
  | nil => simp
  | cons k keys ih =>
    obtain ⟨h1, h2, h3⟩ := ih (checkKey h e sc k)
    obtain ⟨k1, k2, k3⟩ := lookup_checkKey (h := h) e sc k key
    rw [List.foldl_cons, h1, h2, h3, k1, k2, k3]
    by_cases hk : key = k <;> by_cases hm : key ∈ keys <;> simp [hk, hm]

theorem linked_checkKey {e : TrustEvidenceRecord} {sc : Scan} {k key : String} (hne : key ≠ k) :
    Linked (checkKey h e sc k) e key ↔ Linked sc e key := by
  obtain ⟨h1, h2, -⟩ := lookup_checkKey (h := h) e sc k key
  rw [Linked, h1, h2, if_neg hne, if_neg hne, Linked]

theorem clean_foldl_checkKey {e : TrustEvidenceRecord} {sc : Scan} {keys : List String} (hnd : keys.Nodup) :
    Clean (keys.foldl (checkKey h e) sc) ↔ Clean sc ∧ ∀ key ∈ keys, Linked sc e key := by
  induction keys generalizing sc with
  | nil => simp
  | cons k keys ih =>
    obtain ⟨hk, hnd⟩ := List.nodup_cons.mp hnd
    have hrest : (∀ key ∈ keys, Linked (checkKey h e sc k) e key) ↔ ∀ key ∈ keys, Linked sc e key :=
      forall₂_congr fun key hkey => linked_checkKey fun heq => hk (heq ▸ hkey)
    rw [List.foldl_cons, ih hnd, clean_checkKey, hrest, List.forall_mem_cons, and_assoc]

/-- What the verifier has before it checks the links of `e`. -/
def entered (h : Digest) (sc : Scan) (e : TrustEvidenceRecord) : Scan :=
  Scan.failIf (canonicalPayloadHash h e ≠ e.payloadHash) ("payload_tamper:" ++ e.evidenceId)
    { Scan.failIf (decide (e.evidenceId ∈ sc.ids)) ("duplicate_evidence_id:" ++ e.evidenceId)
        { sc with recordsChecked := sc.recordsChecked + 1 } with ids := e.evidenceId :: sc.ids }

theorem checkRecord_eq (sc : Scan) (e : TrustEvidenceRecord) :
    checkRecord h sc e = (keysOf e).foldl (checkKey h e) (entered h sc e) := by
  simp only [checkRecord, entered]

theorem clean_entered {sc : Scan} {e : TrustEvidenceRecord} :
    Clean (entered h sc e) ↔ Clean sc ∧ e.evidenceId ∉ sc.ids ∧ canonicalPayloadHash h e = e.payloadHash := by
  rw [entered, clean_failIf]
  by_cases hid : e.evidenceId ∈ sc.ids
  · simp [Clean, Scan.failIf, hid]
  · simp [Clean, Scan.failIf, hid]

theorem lookup_entered (sc : Scan) (e : TrustEvidenceRecord) :
    (entered h sc e).lastHash = sc.lastHash ∧ (entered h sc e).lastTime = sc.lastTime ∧
    (entered h sc e).ids = e.evidenceId :: sc.ids := by
  simp [entered, failIf_lastHash, failIf_lastTime, failIf_ids]

/-- The verifier knows of the records `l` what it needs for the next one. -/
structure Tracks (h : Digest) (l : List TrustEvidenceRecord) (sc : Scan) : Prop where
  hash : ∀ key, Proper key → (sc.lastHash.lookup key).getD "" = lastHashFor h l key
  time : ∀ key t, sc.lastTime.lookup key = some t → ∃ e ∈ l, e.timestamp = t
  ids : ∀ x, x ∈ sc.ids ↔ ∃ e ∈ l, e.evidenceId = x

theorem Tracks.step {l : List TrustEvidenceRecord} {sc : Scan} (ht : Tracks h l sc) (e : TrustEvidenceRecord) :
    Tracks h (l ++ [e]) (checkRecord h sc e) := by
  obtain ⟨hh, htime, hids⟩ := lookup_entered (h := h) sc e
  have hfold := lookup_foldl_checkKey (h := h) e (entered h sc e) (keysOf e)
  rw [checkRecord_eq]
  refine ⟨fun key hp => ?_, fun key t hk => ?_, fun x => ?_⟩
  · rw [(hfold key).1, hh, lastHashFor_append hp, ← ht.hash key hp]
    split_ifs <;> rfl
  · rw [(hfold key).2.1, htime] at hk
    split_ifs at hk with hm
    · exact ⟨e, by simp, Option.some.inj hk⟩
    · obtain ⟨e', he', rfl⟩ := ht.time key t hk
      exact ⟨e', by simp [he'], rfl⟩
  · rw [(hfold "").2.2, hids, List.mem_cons, ht.ids]
    simp [or_and_right, exists_or, or_comm, eq_comm]

theorem tracks_foldl (l : List TrustEvidenceRecord) : Tracks h l (l.foldl (checkRecord h) {}) := by
  induction l using List.reverseRecOn with
  | nil =>
    refine ⟨fun key _ => rfl, fun key t hk => ?_, fun x => ?_⟩
    · cases hk
    · simp
  | append_singleton l e ih =>
    rw [List.foldl_append]
    exact ih.step e

/-! ### Honest histories -/

/-- `create_evidence` made `e` after the records `l`. -/
structure Made (h : Digest) (l : List TrustEvidenceRecord) (e : TrustEvidenceRecord) : Prop where
  payload : e.payloadHash = canonicalPayloadHash h e
  previous : e.previousHash = link h l e
  signature : e.localSignature = "local-test-signature:" ++ h.sha256Hex (signatureText e)

theorem createEvidence_spec (s : VeilTrustService) (e : TrustEvidenceRecord) :
    ∃ e', (s.createEvidence h e).1.evidence = s.evidence ++ [e'] ∧ Made h s.evidence e' ∧
      e'.deviceId = e.deviceId ∧ e'.tenantId = e.tenantId ∧ e'.timestamp = e.timestamp :=
  ⟨_, rfl, ⟨rfl, rfl, rfl⟩, rfl, rfl, rfl⟩

/-- The link to the device's chain, if there is one, is the tenant's last record. -/
def Direct (h : Digest) (l : List TrustEvidenceRecord) (e : TrustEvidenceRecord) : Prop :=
  e.tenantId ≠ "" → e.deviceId ≠ "" → lastHashFor h l (chainKey "device" e.deviceId) ≠ "" →
    lastHashFor h l (chainKey "tenant" e.tenantId) = "" ∨
      lastHashFor h l (chainKey "device" e.deviceId) = lastHashFor h l (chainKey "tenant" e.tenantId)

theorem clean_checkRecord {l : List TrustEvidenceRecord} {sc : Scan} {e : TrustEvidenceRecord} (ht : Tracks h l sc)
    (hm : Made h l e) (hid : ∀ e' ∈ l, e'.evidenceId ≠ e.evidenceId) (htime : ∀ e' ∈ l, e'.timestamp ≤ e.timestamp) :
    Clean (checkRecord h sc e) ↔ Clean sc ∧ Direct h l e := by
  have hfresh : e.evidenceId ∉ sc.ids := by
    rw [ht.ids]
    intro hx
    obtain ⟨e', he', heq⟩ := hx
    exact hid e' he' heq
  have hlinked : ∀ key, Proper key → (Linked (entered h sc e) e key ↔
      (lastHashFor h l key = "" ∨ link h l e = lastHashFor h l key)) := by
    intro key hp
    obtain ⟨h1, h2, -⟩ := lookup_entered (h := h) sc e
    rw [Linked, h1, h2, ht.hash key hp, hm.previous, and_iff_left_iff_imp]
    intro _ t hk
    obtain ⟨e', he', rfl⟩ := ht.time key t hk
    exact htime e' he'
  rw [checkRecord_eq, clean_foldl_checkKey (nodup_keysOf e), clean_entered, and_assoc, and_congr_right_iff]
  intro _
  rw [and_iff_right ⟨hfresh, hm.payload.symm⟩]
  have htenant : e.tenantId ≠ "" → Proper (chainKey "tenant" e.tenantId) := fun ht => Or.inr ⟨_, ht, rfl⟩
  have hdevice : e.deviceId ≠ "" → Proper (chainKey "device" e.deviceId) := fun hd => Or.inl ⟨_, hd, rfl⟩
  by_cases hd : e.deviceId = ""
  · by_cases ht : e.tenantId = ""
    · simp [keysOf, hd, ht, Direct]
    · have hlink : link h l e = lastHashFor h l (chainKey "tenant" e.tenantId) := by simp [link, hd, ht]
      simp [keysOf, hd, ht, Direct, hlinked _ (htenant ht), hlink]
  · by_cases hprev : lastHashFor h l (chainKey "device" e.deviceId) = ""
    · by_cases ht : e.tenantId = ""
      · simp [keysOf, hd, ht, Direct, hlinked _ (hdevice hd), hprev]
      · have hlink : link h l e = lastHashFor h l (chainKey "tenant" e.tenantId) := by simp [link, hd, ht, hprev]
        simp [keysOf, hd, ht, Direct, hlinked _ (htenant ht), hlinked _ (hdevice hd), hlink, hprev]
    · have hlink : link h l e = lastHashFor h l (chainKey "device" e.deviceId) := by simp [link, hd, hprev]
      by_cases ht : e.tenantId = ""
      · simp [keysOf, hd, ht, Direct, hlinked _ (hdevice hd), hlink]
      · simp [keysOf, hd, ht, Direct, hlinked _ (htenant ht), hlinked _ (hdevice hd), hlink, hprev]

/-- Every record was made after those before it. -/
def Honest (h : Digest) (records : List TrustEvidenceRecord) : Prop :=
  ∀ l e r, records = l ++ e :: r → Made h l e

/-- A split of a list with one more element is a split of the list, or the split at the new element. -/
theorem history_spec (calls : List TrustEvidenceRecord) :
    Honest h (history h calls).evidence ∧
    (history h calls).evidence.map (fun e => (e.deviceId, e.tenantId, e.timestamp)) =
      calls.map fun e => (e.deviceId, e.tenantId, e.timestamp) := by
  induction calls using List.reverseRecOn with
  | nil => exact ⟨by simp [Honest, history], rfl⟩
  | append_singleton calls c ih =>
    obtain ⟨hhon, hmap⟩ := ih
    obtain ⟨e', hev, hmade, hd, ht, hts⟩ := createEvidence_spec (h := h) (history h calls) c
    have hhist : (history h (calls ++ [c])).evidence = (history h calls).evidence ++ [e'] := by
      rw [← hev, history, List.foldl_append]
      rfl
    rw [hhist]
    refine ⟨fun l e r hs => ?_, by simp [hmap, hd, ht, hts]⟩
    rcases split_snoc hs with ⟨r', hr, -⟩ | ⟨rfl, rfl, -⟩
    · exact hhon l e r' hr
    · exact hmade

theorem clean_iff {records : List TrustEvidenceRecord} (hhon : Honest h records)
    (hids : (records.map TrustEvidenceRecord.evidenceId).Nodup)
    (htime : records.Pairwise fun a b => a.timestamp ≤ b.timestamp) :
    Clean (records.foldl (checkRecord h) {}) ↔ ∀ l e r, records = l ++ e :: r → Direct h l e := by
  induction records using List.reverseRecOn with
  | nil => simp [Clean]
  | append_singleton records x ih =>
    rw [List.map_append, List.nodup_append] at hids
    rw [List.pairwise_append] at htime
    have hhon' : Honest h records := fun l e r hs => hhon l e (r ++ [x]) (by simp [hs])
    have hx := clean_checkRecord (tracks_foldl records) (hhon records x [] rfl)
      (fun e' he' heq => hids.2.2 _ (List.mem_map_of_mem he') _ (by simp) heq) (fun e' he' => htime.2.2 e' he' x (by simp))
    rw [List.foldl_append, List.foldl_cons, List.foldl_nil, hx, ih hhon' hids.1 htime.1]
    refine ⟨fun hall l e r hs => ?_, fun hall => ⟨fun l e r hs => hall l e (r ++ [x]) (by simp [hs]), hall records x [] rfl⟩⟩
    rcases split_snoc hs with ⟨r', hr, -⟩ | ⟨rfl, rfl, -⟩
    · exact hall.1 l e r' hr
    · exact hall.2

/-! ### Links and devices -/

theorem lastHashFor_device {d : String} (hd : d ≠ "") (l : List TrustEvidenceRecord) :
    (d ∉ l.map TrustEvidenceRecord.deviceId ∧ lastHashFor h l (chainKey "device" d) = "") ∨
    ∃ e ∈ l, e.deviceId = d ∧ lastHashFor h l (chainKey "device" d) = recordChainHash h e := by
  have hp : Proper (chainKey "device" d) := Or.inl ⟨d, hd, rfl⟩
  induction l using List.reverseRecOn with
  | nil => exact Or.inl ⟨by simp, rfl⟩
  | append_singleton l e ih =>
    rw [lastHashFor_append hp]
    by_cases hk : chainKey "device" d ∈ keysOf e
    · have he : d = e.deviceId := by
        rcases (mem_keysOf hp).mp hk with hk | hk
        · exact chainKey_inj.mp hk
        · exact absurd hk (device_ne_tenant _ _)
      exact Or.inr ⟨e, by simp, he.symm, by rw [if_pos hk]⟩
    · have he : d ≠ e.deviceId := fun heq => hk ((mem_keysOf hp).mpr (Or.inl (by rw [heq])))
      rw [if_neg hk]
      rcases ih with ⟨hno, hempty⟩ | ⟨e', he', hdev, hhash⟩
      · exact Or.inl ⟨by simpa [he] using hno, hempty⟩
      · exact Or.inr ⟨e', by simp [he'], hdev, hhash⟩

theorem lastHashFor_tenant {t : String} (ht : t ≠ "") (l : List TrustEvidenceRecord) (e : TrustEvidenceRecord)
    (he : e.tenantId = t) : lastHashFor h (l ++ [e]) (chainKey "tenant" t) = recordChainHash h e := by
  have hp : Proper (chainKey "tenant" t) := Or.inr ⟨t, ht, rfl⟩
  rw [lastHashFor_append hp, if_pos ((mem_keysOf hp).mpr (Or.inr (by rw [he])))]

/-- Two records with the same link have the same id, if no hashes collide. -/
theorem evidenceId_of_recordChainHash {texts : List String} (hcoll : NoCollision h texts)
    (hlen : ∀ x, (h.sha256Hex x).length = 64) {l l' : List TrustEvidenceRecord} {e e' : TrustEvidenceRecord}
    (hm : Made h l e) (hm' : Made h l' e') (hmem : ∀ x ∈ [chainText e, chainText e', signatureText e, signatureText e'], x ∈ texts)
    (heq : recordChainHash h e = recordChainHash h e') : e.evidenceId = e'.evidenceId := by
  have hchain : chainText e = chainText e' := hcoll _ (hmem _ (by simp)) _ (hmem _ (by simp)) heq
  have hsiglen : e.localSignature.length = e'.localSignature.length := by
    rw [hm.signature, hm'.signature]
    simp [hlen]
  obtain ⟨hrest, hsig⟩ := Text.append_inj_of_length hchain hsiglen
  have hhash : h.sha256Hex (signatureText e) = h.sha256Hex (signatureText e') := by
    rw [hm.signature, hm'.signature] at hsig
    exact (String.append_right_inj _).mp hsig
  have htext : signatureText e = signatureText e' := hcoll _ (hmem _ (by simp)) _ (hmem _ (by simp)) hhash
  rw [String.append_assoc, String.append_assoc] at hrest
  exact (Text.append_inj_of_length hrest (congrArg String.length htext)).1

/-- The links of an honest history tell its records apart. -/
theorem eq_of_recordChainHash {records : List TrustEvidenceRecord} {e e' : TrustEvidenceRecord}
    (hlen : ∀ x, (h.sha256Hex x).length = 64)
    (hcoll : NoCollision h (records.flatMap fun e => [chainText e, signatureText e])) (hhon : Honest h records)
    (hids : (records.map TrustEvidenceRecord.evidenceId).Nodup) (he : e ∈ records) (he' : e' ∈ records)
    (heq : recordChainHash h e = recordChainHash h e') : e = e' := by
  obtain ⟨l, r, hs⟩ := List.append_of_mem he
  obtain ⟨l', r', hs'⟩ := List.append_of_mem he'
  have htexts : ∀ x ∈ [chainText e, chainText e', signatureText e, signatureText e'],
      x ∈ records.flatMap fun e => [chainText e, signatureText e] := by
    intro x hx
    rw [List.mem_flatMap]
    simp only [List.mem_cons, List.not_mem_nil, or_false] at hx
    rcases hx with rfl | rfl | rfl | rfl
    · exact ⟨e, he, by simp⟩
    · exact ⟨e', he', by simp⟩
    · exact ⟨e, he, by simp⟩
    · exact ⟨e', he', by simp⟩
  have hid := evidenceId_of_recordChainHash hcoll hlen (hhon _ _ _ hs) (hhon _ _ _ hs') htexts heq
  exact List.inj_on_of_nodup_map hids he he' hid

/-- In an honest history of one tenant a record is linked directly exactly if its device is new or is the device
of the record just before. -/
theorem direct_iff {tenant : String} {records l r : List TrustEvidenceRecord} {e : TrustEvidenceRecord}
    (hlen : ∀ x, (h.sha256Hex x).length = 64)
    (hcoll : NoCollision h (records.flatMap fun e => [chainText e, signatureText e]))
    (hhon : Honest h records) (htenant : tenant ≠ "") (hten : ∀ e ∈ records, e.tenantId = tenant)
    (hids : (records.map TrustEvidenceRecord.evidenceId).Nodup) (hs : records = l ++ e :: r) :
    Direct h l e ↔ (e.deviceId ≠ "" → e.deviceId ∈ l.map TrustEvidenceRecord.deviceId →
      (l.map TrustEvidenceRecord.deviceId).getLast? = some e.deviceId) := by
  have hne : ∀ x, h.sha256Hex x ≠ "" := by
    intro x hx
    have := hlen x
    rw [hx] at this
    exact absurd this (by decide)
  rw [Direct, hten e (by simp [hs]), forall_prop_of_true htenant]
  refine forall_congr' fun hd => ?_
  rcases lastHashFor_device (h := h) hd l with ⟨hno, hempty⟩ | ⟨e₁, he₁, hdev, hhash⟩
  · exact iff_of_true (fun hprev => absurd hempty hprev) fun hin => absurd hin hno
  · have hin : e.deviceId ∈ l.map TrustEvidenceRecord.deviceId := hdev ▸ List.mem_map_of_mem he₁
    rcases List.eq_nil_or_concat l with rfl | ⟨l', last, rfl⟩
    · cases he₁
    · rw [List.concat_eq_append] at *
      have hlast : last ∈ records := by simp [hs]
      have hfirst : e₁ ∈ records := by
        rw [hs]
        exact List.mem_append_left _ he₁
      rw [lastHashFor_tenant htenant l' last (hten last hlast), hhash]
      have hprev : recordChainHash h e₁ ≠ "" := hne _
      have hprev' : recordChainHash h last ≠ "" := hne _
      have hlastdev : (List.map TrustEvidenceRecord.deviceId (l' ++ [last])).getLast? = some last.deviceId := by simp
      rw [hlastdev, Option.some.injEq]
      refine ⟨fun hdir _ => ?_, fun hcond _ => Or.inr ?_⟩
      · have heq := (hdir hprev).resolve_left hprev'
        rw [← eq_of_recordChainHash hlen hcoll hhon hids hfirst hlast heq, hdev]
      · have hpd : Proper (chainKey "device" e.deviceId) := Or.inl ⟨_, hd, rfl⟩
        rw [← hhash, lastHashFor_append hpd, if_pos ((mem_keysOf hpd).mpr (Or.inl (by rw [hcond hin])))]

theorem contiguous_map {records : List TrustEvidenceRecord} :
    Contiguous (records.map TrustEvidenceRecord.deviceId) ↔
      ∀ l e r, records = l ++ e :: r → e.deviceId ≠ "" → e.deviceId ∈ l.map TrustEvidenceRecord.deviceId →
        (l.map TrustEvidenceRecord.deviceId).getLast? = some e.deviceId := by
  refine ⟨fun hc l e r hs => hc _ _ (r.map TrustEvidenceRecord.deviceId) (by simp [hs]), fun hall l d r hs => ?_⟩
  obtain ⟨l', r', rfl, rfl, hr⟩ := List.map_eq_append_iff.mp hs
  obtain ⟨e, r'', rfl, rfl, rfl⟩ := List.map_eq_cons_iff.mp hr
  exact hall l' e r'' rfl

/-- An honest history of one tenant verifies, without errors, exactly if the records of each device stand in one
block; records that name no tenant are on no tenant's chain and always verify. -/
theorem verifyChain_tenant_iff (h : Digest) (hlen : ∀ x, (h.sha256Hex x).length = 64) (tenant : String)
    (calls : List TrustEvidenceRecord) (hten : ∀ e ∈ calls, e.tenantId = tenant)
    (hids : ((history h calls).evidence.map TrustEvidenceRecord.evidenceId).Nodup)
    (htime : calls.Pairwise fun a b => a.timestamp ≤ b.timestamp)
    (hcoll : NoCollision h (hashedTexts (history h calls))) :
    (((history h calls).verifyChain h (tenantFilter tenant)).2.valid = true ∧
      ((history h calls).verifyChain h (tenantFilter tenant)).2.errors = []) ↔
    tenant = "" ∨ Contiguous (calls.map TrustEvidenceRecord.deviceId) := by
  obtain ⟨hhon, hmap⟩ := history_spec (h := h) calls
  set records := (history h calls).evidence with hrec
  have hmap_device : records.map TrustEvidenceRecord.deviceId = calls.map TrustEvidenceRecord.deviceId := by
    simpa [Function.comp_def] using congrArg (List.map Prod.fst) hmap
  have hten' : ∀ e ∈ records, e.tenantId = tenant := by
    intro e he
    have hmem : (e.deviceId, e.tenantId, e.timestamp) ∈ calls.map fun e => (e.deviceId, e.tenantId, e.timestamp) :=
      hmap ▸ List.mem_map_of_mem (f := fun e => (e.deviceId, e.tenantId, e.timestamp)) he
    obtain ⟨c, hc, heq⟩ := List.mem_map.mp hmem
    rw [← hten c hc]
    exact (Prod.mk.inj (Prod.mk.inj heq).2).1.symm
  have htime' : records.Pairwise fun a b => a.timestamp ≤ b.timestamp := by
    have hts : records.map TrustEvidenceRecord.timestamp = calls.map TrustEvidenceRecord.timestamp := by
      simpa [Function.comp_def] using congrArg (List.map fun p => p.2.2) hmap
    have hp : (calls.map TrustEvidenceRecord.timestamp).Pairwise (· ≤ ·) := List.pairwise_map.mpr htime
    exact List.pairwise_map.mp (hts ▸ hp)
  have hfilter : records.filter (fun e => filterMatches e (tenantFilter tenant)) = records := by
    rw [List.filter_eq_self]
    intro e he
    simp [filterMatches, tenantFilter, hten' e he]
  have hverify : (((history h calls).verifyChain h (tenantFilter tenant)).2.valid = true ∧
      ((history h calls).verifyChain h (tenantFilter tenant)).2.errors = []) ↔
      Clean (records.foldl (checkRecord h) {}) := by
    simp only [verifyChain, verifyChainLocked, ← hrec, hfilter, Clean]
  rw [hverify, clean_iff hhon hids htime', ← hmap_device, contiguous_map]
  by_cases htenant : tenant = ""
  · refine iff_of_true (fun l e r hs hne => ?_) (Or.inl htenant)
    exact absurd ((hten' e (by simp [hs])).trans htenant) hne
  rw [or_iff_right htenant]
  refine forall_congr' fun l => forall_congr' fun e => forall_congr' fun r => forall_congr' fun hs => ?_
  exact direct_iff hlen hcoll hhon htenant hten' hids hs

/-! ### Two histories of one tenant -/

/-- SHA-256 values of one record: of its payload, its signature text and its chain text. -/
structure Hashed where
  position : ℕ
  device : String
  previous : String
  payload : String
  signature : String
  chain : String

/-- A payload of the sample histories, as the JSON library writes it. -/
def payloadText (audit device time : String) : String :=
  "\x7b\"audit_event_id\":\"" ++ audit ++ "\",\"branch_id\":\"\",\"correlation_id\":\"\",\"device_id\":\"" ++ device ++
  "\",\"event_type\":\"heartbeat\",\"merchant_id\":\"\",\"payload\":\x7b\x7d,\"policy_context\":\x7b\x7d,\"region\":\"\"," ++
  "\"source_module\":\"\",\"tenant_id\":\"t\",\"timestamp\":" ++ time ++ "\x7d"

def hashedRecords : List Hashed :=
  [{ position := 0, device := "a", previous := ""
     payload := "115f62ad04df247079e094fe23925ef7d47fe9478f582d4f6fb1678b7424f41f"
     signature := "2a1e5c1565e5bea169169ba9f2adb3be90c5cfcc038794ff99f6096ea33bbc1d"
     chain := "3234c8a6478627c4ec539258885ac9efa27aa76348fd23c495c873aa5d1293fc" },
   { position := 1, device := "b", previous := "3234c8a6478627c4ec539258885ac9efa27aa76348fd23c495c873aa5d1293fc"
     payload := "d5402148a1c74832991dc8bf89dccaca1d2c4ff892c2263df584ec3dcf9065b9"
     signature := "21360a843c0626cb1895f3a576ad2c6da8a33534a2fdd489659481c6980fa056"
     chain := "7fa2085a250e44c0018995e57414901c3ad3c272aa68b518ba10de98fc419805" },
   { position := 2, device := "b", previous := "7fa2085a250e44c0018995e57414901c3ad3c272aa68b518ba10de98fc419805"
     payload := "030c06b1061a8ea87e3d655c1d9060282f7d2ac8c2f3758eeff5267a1624c952"
     signature := "fc39dccf02d2f04e23246df4a7af779c4aa75d1fd34013b627eee6f541bf5bb1"
     chain := "843e09830e43393c0ab55e4c18dfa465e270695953c52092027f77bbe466cff4" },
   { position := 2, device := "a", previous := "3234c8a6478627c4ec539258885ac9efa27aa76348fd23c495c873aa5d1293fc"
     payload := "2bc4dd1694fc994b627c08f682066c5b0f8a05ce93b6241b1847860109fd83bb"
     signature := "968664960544578218b03489db4100f9d44a98d1644bee460de4147d508a0c68"
     chain := "453c2c599b7d2a60898b011a11a7e3064ee9ccdb828b2b0b6031e8443cd845ab" }]

/-- The records of devices `a`, `b`, `b` or `a`, `b`, `a` of tenant `t`, one a second. -/
def sampleCalls (third : String) : List TrustEvidenceRecord :=
  [{ tenantId := "t", deviceId := "a", eventType := "heartbeat", timestamp := 100 },
   { tenantId := "t", deviceId := "b", eventType := "heartbeat", timestamp := 101 },
   { tenantId := "t", deviceId := third, eventType := "heartbeat", timestamp := 102 }]

/-- A list of texts, as the JSON library writes it. -/
def arrayText (l : List String) : String := "[" ++ ",".intercalate (l.map fun x => "\"" ++ x ++ "\"") ++ "]"

def sampleSums : List (String × String) :=
  (hashedRecords.flatMap fun r =>
    [(payloadText (idFor "trust-audit" r.position) r.device (toString (100 + r.position)), r.payload),
     (r.payload ++ r.previous, r.signature),
     (idFor "evidence" r.position ++ r.payload ++ r.previous ++ ("local-test-signature:" ++ r.signature), r.chain)]) ++
  [(arrayText ((hashedRecords.take 3).map Hashed.chain), "dde70349bac14ec4f63b974c63ee017008a97793ccf0b9798090555078ebce93"),
   (arrayText ((hashedRecords.eraseIdx 2).map Hashed.chain),
    "743bd4958eeacc41328831ebd56a490f8e3975bbe8b5eda3463c2b1b4a1879e5")]

/-- SHA-256 and the JSON writer on the texts and values of the sample histories. -/
def sampleDigest : Digest where
  sha256Hex x := ((sampleSums.find? fun p => decide (p.1 = x)).map Prod.snd).getD (String.ofList (List.replicate 64 '0'))
  dump
    | .arr l => arrayText (l.map fun x => x.getStr.toOption.getD "")
    | j =>
      match j.member "audit_event_id", j.member "device_id", j.member "timestamp" with
      | some (.str audit), some (.str device), some (.int time) => payloadText audit device (toString time)
      | _, _, _ => ""

theorem sampleDigest_length (x : String) : (sampleDigest.sha256Hex x).length = 64 := by
  have hall : ∀ p ∈ sampleSums, p.2.length = 64 := by decide +kernel
  simp only [sampleDigest]
  cases hf : sampleSums.find? fun p => decide (p.1 = x) with
  | none =>
    rw [Option.map_none, Option.getD_none]
    decide
  | some p => exact hall p (List.mem_of_find?_eq_some hf)

theorem verifyChain_tenant_iff_blocks :
    ((history sampleDigest (sampleCalls "b")).verifyChain sampleDigest (tenantFilter "t")).2.valid = true ∧
    ((history sampleDigest (sampleCalls "b")).verifyChain sampleDigest (tenantFilter "t")).2.errors = [] := by
  refine (verifyChain_tenant_iff sampleDigest sampleDigest_length "t" (sampleCalls "b") ?_ ?_ ?_ ?_).mpr (Or.inr ?_)
  · simp [sampleCalls]
  · decide +kernel
  · simp [sampleCalls]
  · unfold NoCollision
    decide +kernel
  · intro l d r hs _ hin
    rcases l with _ | ⟨x, _ | ⟨y, _ | ⟨z, l⟩⟩⟩
    · cases hin
    · simp [sampleCalls] at hs
      grind
    · simp [sampleCalls] at hs
      grind
    · simp [sampleCalls] at hs

/-- Device `a` writes again after device `b`: its record is linked to its own chain, and the tenant's chain is
reported broken. -/
theorem interleaved_history_rejected :
    (∀ e ∈ sampleCalls "a", e.tenantId = "t") ∧
    ((history sampleDigest (sampleCalls "a")).evidence.map TrustEvidenceRecord.evidenceId).Nodup ∧
    ((sampleCalls "a").Pairwise fun a b => a.timestamp ≤ b.timestamp) ∧
    NoCollision sampleDigest (hashedTexts (history sampleDigest (sampleCalls "a"))) ∧
    ((history sampleDigest (sampleCalls "a")).verifyChain sampleDigest (tenantFilter "t")).2.valid = false ∧
    ((history sampleDigest (sampleCalls "a")).verifyChain sampleDigest (tenantFilter "t")).2.errors =
      ["missing_link:evidence-3"] := by
  refine ⟨by simp [sampleCalls], by decide +kernel, by simp [sampleCalls], ?_, by decide +kernel, by decide +kernel⟩
  unfold NoCollision
  decide +kernel

end Drawer.Veil
