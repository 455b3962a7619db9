import Drawer.Proofs.DeviceChain

/-! Stores of one device that were changed after they were written. A record that
was removed shows in the link of the record after it, unless it was the first one;
a record that was rewritten shows in its own payload hash or in the link of the
record after it. -/

namespace Drawer.Veil
open VeilTrustService
open Transition (split_snoc)

variable {h : Digest} {records l r : List TrustEvidenceRecord} {tenant device : String}

/-! ### What a clean verification says of each record -/

/-- The record passes the verifier's checks after the records `l`. -/
structure Passes (h : Digest) (l : List TrustEvidenceRecord) (e : TrustEvidenceRecord) : Prop where
  fresh : ∀ e' ∈ l, e'.evidenceId ≠ e.evidenceId
  payload : canonicalPayloadHash h e = e.payloadHash
  linked : ∀ key ∈ keysOf e, Linked (l.foldl (checkRecord h) {}) e key

theorem clean_append_iff {e : TrustEvidenceRecord} :
    Clean ((l ++ [e]).foldl (checkRecord h) {}) ↔ Clean (l.foldl (checkRecord h) {}) ∧ Passes h l e := by
  have htracks := tracks_foldl (h := h) l
  set sc := l.foldl (checkRecord h) {} with hsc
  obtain ⟨h1, h2, -⟩ := lookup_entered (h := h) sc e
  have hlinked : ∀ key, Linked (entered h sc e) e key ↔ Linked sc e key := fun key => by rw [Linked, h1, h2, Linked]
  have hfresh : e.evidenceId ∉ sc.ids ↔ ∀ e' ∈ l, e'.evidenceId ≠ e.evidenceId := by
    rw [htracks.ids]
    push Not
    rfl
  rw [List.foldl_append, List.foldl_cons, List.foldl_nil, ← hsc, checkRecord_eq, clean_foldl_checkKey (nodup_keysOf e),
    clean_entered, hfresh, and_assoc]
  simp only [hlinked]
  exact and_congr_right fun _ => ⟨fun hp => ⟨hp.1.1, hp.1.2, hp.2⟩, fun hp => ⟨⟨hp.fresh, hp.payload⟩, hp.linked⟩⟩

theorem clean_iff_passes :
    Clean (records.foldl (checkRecord h) {}) ↔ ∀ l e r, records = l ++ e :: r → Passes h l e := by
  induction records using List.reverseRecOn with
  | nil => simp [Clean]
  | append_singleton records x ih =>
    rw [clean_append_iff, ih]
    refine ⟨fun hall l e r hs => ?_, fun hall => ⟨fun l e r hs => hall l e (r ++ [x]) (by simp [hs]), hall records x [] rfl⟩⟩
    rcases split_snoc hs with ⟨r', hr, -⟩ | ⟨rfl, rfl, -⟩
    · exact hall.1 l e r' hr
    · exact hall.2

theorem not_valid_iff : (records.foldl (checkRecord h) {}).valid = false ↔
    ¬ ∀ l e r, records = l ++ e :: r → Passes h l e := by
  rw [← clean_iff_passes, ← valid_iff_clean, Bool.not_eq_true]

/-! ### The chain of a device -/

theorem proper_of_mem {e : TrustEvidenceRecord} {key : String} (hkey : key ∈ keysOf e) : Proper key := by
  unfold keysOf at hkey
  split_ifs at hkey with hd ht ht
  · cases hkey
  · exact Or.inr ⟨e.tenantId, ht, by simpa using hkey⟩
  · exact Or.inl ⟨e.deviceId, hd, by simpa using hkey⟩
  · simp only [List.singleton_append, List.mem_cons, List.not_mem_nil, or_false] at hkey
    rcases hkey with rfl | rfl
    · exact Or.inl ⟨_, hd, rfl⟩
    · exact Or.inr ⟨_, ht, rfl⟩

theorem lastHashFor_last {e : TrustEvidenceRecord} {key : String} (hkey : key ∈ keysOf e) (l : List TrustEvidenceRecord) :
    lastHashFor h (l ++ [e]) key = recordChainHash h e := by
  rw [lastHashFor_append (proper_of_mem hkey), if_pos hkey]

theorem deviceKey_mem {e : TrustEvidenceRecord} (hd : device ≠ "") (he : e.deviceId = device) :
    chainKey "device" device ∈ keysOf e := (mem_keysOf (Or.inl ⟨_, hd, rfl⟩)).mpr (Or.inl (by rw [he]))

theorem link_last (hne : ∀ x, h.sha256Hex x ≠ "") (hd : device ≠ "") {a e : TrustEvidenceRecord} (ha : a.deviceId = device)
    (he : e.deviceId = device) (l : List TrustEvidenceRecord) : link h (l ++ [a]) e = recordChainHash h a := by
  have hlast : lastHashFor h (l ++ [a]) (chainKey "device" device) = recordChainHash h a :=
    lastHashFor_last (deviceKey_mem hd ha) l
  have hprev : recordChainHash h a ≠ "" := hne _
  rw [link, he, if_neg hd, hlast, if_pos hprev]

theorem Passes.previous (hne : ∀ x, h.sha256Hex x ≠ "") (hd : device ≠ "") {a e : TrustEvidenceRecord}
    (ha : a.deviceId = device) (he : e.deviceId = device) (hp : Passes h (l ++ [a]) e) :
    e.previousHash = recordChainHash h a := by
  have hlinked := (hp.linked _ (deviceKey_mem hd he)).1
  rw [(tracks_foldl (h := h) (l ++ [a])).hash _ (Or.inl ⟨_, hd, rfl⟩), lastHashFor_last (deviceKey_mem hd ha)] at hlinked
  exact hlinked.resolve_left (hne _)

theorem hash_ne_empty (hlen : ∀ x, (h.sha256Hex x).length = 64) (x : String) : h.sha256Hex x ≠ "" := by
  intro hx
  have hzero := hlen x
  rw [hx] at hzero
  exact absurd hzero (by decide)

/-! ### Removed records -/

/-- Without its first record the chain of a device still verifies. -/
theorem clean_tail (hne : ∀ x, h.sha256Hex x ≠ "") (hd : device ≠ "") {e : TrustEvidenceRecord}
    (hhon : Honest h (e :: records)) (honly : Only tenant device (e :: records))
    (hids : ((e :: records).map TrustEvidenceRecord.evidenceId).Nodup)
    (htime : (e :: records).Pairwise fun a b => a.timestamp ≤ b.timestamp) : Clean (records.foldl (checkRecord h) {}) := by
  rw [clean_iff_passes]
  rintro l x r rfl
  have hmade : Made h (e :: l) x := hhon (e :: l) x r rfl
  have hx := honly x (by simp)
  refine ⟨fun e' he' heq => ?_, hmade.payload.symm, fun key hkey => ⟨?_, fun t ht => ?_⟩⟩
  · rw [List.map_cons, List.nodup_cons, List.map_append, List.nodup_append] at hids
    exact hids.2.2.2 _ (List.mem_map_of_mem he') _ (by simp) heq
  · rw [(tracks_foldl (h := h) l).hash key (proper_of_mem hkey)]
    rcases List.eq_nil_or_concat l with rfl | ⟨l', a, rfl⟩
    · exact Or.inl rfl
    · rw [List.concat_eq_append] at *
      have ha := honly a (by simp)
      have hsame : keysOf a = keysOf x := by simp only [keysOf, ha, hx]
      have hlink := hmade.previous
      rw [← List.cons_append, link_last hne hd ha.1 hx.1] at hlink
      rw [lastHashFor_last (hsame ▸ hkey), hlink]
      exact Or.inr rfl
  · obtain ⟨e', he', rfl⟩ := (tracks_foldl (h := h) l).time key t ht
    rw [List.pairwise_cons, List.pairwise_append] at htime
    exact htime.2.2.2 e' he' x (by simp)

/-- A record of the middle that is removed leaves a link to it. -/
theorem not_passes_erased (hlen : ∀ x, (h.sha256Hex x).length = 64) (hd : device ≠ "") {a e b : TrustEvidenceRecord}
    (hs : records = l ++ a :: e :: b :: r) (hhon : Honest h records) (honly : Only tenant device records)
    (hids : (records.map TrustEvidenceRecord.evidenceId).Nodup)
    (hcoll : NoCollision h (records.flatMap fun e => [chainText e, signatureText e])) : ¬ Passes h (l ++ [a]) b := by
  intro hp
  have hne := hash_ne_empty hlen
  have ha : a ∈ records := by simp [hs]
  have he : e ∈ records := by simp [hs]
  have hb : b ∈ records := by simp [hs]
  have hmade : Made h ((l ++ [a]) ++ [e]) b := hhon _ b r (by simp [hs])
  have hlink := hmade.previous
  rw [hp.previous hne hd (honly a ha).1 (honly b hb).1, link_last hne hd (honly e he).1 (honly b hb).1] at hlink
  obtain rfl := eq_of_recordChainHash hlen hcoll hhon hids ha he hlink
  rw [hs, List.map_append, List.nodup_append] at hids
  simp at hids

section

variable (h : Digest) (calls : List TrustEvidenceRecord)

theorem only_history (hcalls : Only tenant device calls) : Only tenant device (history h calls).evidence := by
  intro e he
  obtain ⟨c, hc, hdevice, htenant⟩ := exists_call calls he
  exact ⟨hdevice ▸ (hcalls c hc).1, htenant ▸ (hcalls c hc).2⟩

theorem length_history : (history h calls).evidence.length = calls.length := by
  simpa using congrArg List.length (history_spec (h := h) calls).2

theorem verifyChain_only (s : VeilTrustService) (honly : Only tenant device records) :
    ({ s with evidence := records }.verifyChain h (deviceFilter tenant device)).2.valid =
      (records.foldl (checkRecord h) {}).valid := by
  have hfilter : records.filter (fun e => filterMatches e (deviceFilter tenant device)) = records := by
    rw [List.filter_eq_self]
    intro e he
    simp [filterMatches, deviceFilter, honly e he]
  simp only [verifyChain, verifyChainLocked, hfilter]

/-- A record that is removed from the store of a device, and is not its last, is noticed if and only if it is not the
first. -/
theorem erased_reported_iff (hlen : ∀ x, (h.sha256Hex x).length = 64) (tenant device : String) (hd : device ≠ "")
    (hcalls : Only tenant device calls) (hids : ((history h calls).evidence.map TrustEvidenceRecord.evidenceId).Nodup)
    (htime : calls.Pairwise fun a b => a.timestamp ≤ b.timestamp)
    (hcoll : NoCollision h (hashedTexts (history h calls))) (i : ℕ) (hi : i + 1 < calls.length) :
    ({ history h calls with evidence := (history h calls).evidence.eraseIdx i }.verifyChain h
      (deviceFilter tenant device)).2.valid = false ↔ i ≠ 0 := by
  obtain ⟨hhon, hmap⟩ := history_spec (h := h) calls
  have honly := only_history h calls hcalls
  have hlength := length_history h calls
  have htime' : (history h calls).evidence.Pairwise fun a b => a.timestamp ≤ b.timestamp := by
    have hts : (history h calls).evidence.map TrustEvidenceRecord.timestamp = calls.map TrustEvidenceRecord.timestamp := by
      simpa [Function.comp_def] using congrArg (List.map fun p => p.2.2) hmap
    exact List.pairwise_map.mp (hts ▸ List.pairwise_map.mpr htime)
  unfold hashedTexts at hcoll
  set records := (history h calls).evidence
  have honly' : Only tenant device (records.eraseIdx i) := fun e he => honly e (List.eraseIdx_subset he)
  rw [verifyChain_only h _ honly']
  cases i with
  | zero =>
    refine iff_of_false ?_ (by simp)
    cases hrec : records with
    | nil => simp
    | cons e rest =>
      rw [List.eraseIdx_cons_zero, Bool.not_eq_false, valid_iff_clean]
      rw [hrec] at hhon honly hids htime'
      exact clean_tail (hash_ne_empty hlen) hd hhon honly hids htime'
  | succ n =>
    refine iff_of_true ?_ (by simp)
    have h0 : n < records.length := by omega
    have h1 : n + 1 < records.length := by omega
    have h2 : n + 2 < records.length := by omega
    have hs : records = records.take n ++ records[n] :: records[n + 1] :: records[n + 2] :: records.drop (n + 3) := by
      rw [← List.drop_eq_getElem_cons h2, ← List.drop_eq_getElem_cons h1, ← List.drop_eq_getElem_cons h0,
        List.take_append_drop]
    rw [not_valid_iff]
    intro hall
    refine not_passes_erased hlen hd hs hhon honly hids hcoll (hall _ _ (records.drop (n + 3)) ?_)
    rw [List.eraseIdx_eq_take_drop_succ, List.drop_eq_getElem_cons h2, List.take_succ_eq_append_getElem h0]

end

/-! ### A store of one device -/

/-- SHA-256 values of three records of device `a`. -/
def soloRecords : List Hashed :=
  [{ position := 0, device := "a", previous := ""
     payload := "115f62ad04df247079e094fe23925ef7d47fe9478f582d4f6fb1678b7424f41f"
     signature := "2a1e5c1565e5bea169169ba9f2adb3be90c5cfcc038794ff99f6096ea33bbc1d"
     chain := "3234c8a6478627c4ec539258885ac9efa27aa76348fd23c495c873aa5d1293fc" },
   { position := 1, device := "a", previous := "3234c8a6478627c4ec539258885ac9efa27aa76348fd23c495c873aa5d1293fc"
     payload := "8c071f39f0d05b1507d37729ffdf7a6f13291e2c273f2a6fa510a4bd941367b8"
     signature := "0a188a70c481b5726f01e9518f3e5e864c3abe22e3b5fed73b15266543cdb2cd"
     chain := "fe7f185fc2265c5efa207f0d7d5f304d8edbbdd69d7cadb87406b23f10a7d8e1" },
   { position := 2, device := "a", previous := "fe7f185fc2265c5efa207f0d7d5f304d8edbbdd69d7cadb87406b23f10a7d8e1"
     payload := "2bc4dd1694fc994b627c08f682066c5b0f8a05ce93b6241b1847860109fd83bb"
     signature := "908f0bcfad35d8590459efdcde1a0d57a5f34969cb7f8471bb21f2e6fb2d8b5e"
     chain := "17023961db9f71535e14b305364957787ea02fe1eaa564671c32ba4fa9c15620" }]

/-- The records of device `a` of tenant `t`, one a second. -/
def soloCalls : List TrustEvidenceRecord :=
  [{ tenantId := "t", deviceId := "a", eventType := "heartbeat", timestamp := 100 },
   { tenantId := "t", deviceId := "a", eventType := "heartbeat", timestamp := 101 },
   { tenantId := "t", deviceId := "a", eventType := "heartbeat", timestamp := 102 }]

/-- The link of the first record under the id `forged`. -/
def forgedChain : String := "fdba2ef1342a482b8ea7c5ca25323af5f65594518fdd57798be2551513c8445c"

def soloSums : List (String × String) :=
  (soloRecords.flatMap fun r =>
    [(payloadText (idFor "trust-audit" r.position) r.device (toString (100 + r.position)), r.payload),
     (r.payload ++ r.previous, r.signature),
     (idFor "evidence" r.position ++ r.payload ++ r.previous ++ ("local-test-signature:" ++ r.signature), r.chain)]) ++
  (soloRecords.take 1).map (fun r =>
    ("forged" ++ r.payload ++ r.previous ++ ("local-test-signature:" ++ r.signature), forgedChain)) ++
  [(arrayText ((soloRecords.drop 1).map Hashed.chain), "14b179ae93d149865ad96b2ba55ae6dcb5ef8e430ae786bcd457025cd9832ae1"),
   (arrayText (forgedChain :: (soloRecords.drop 1).map Hashed.chain),
    "e7616597c0e730944e23cc81d4337257b24fda5d28c81e82ac866d5ea1d19764")]

/-- SHA-256 and the JSON writer on the texts and values of that store. -/
def soloDigest : Digest :=
  { sampleDigest with
    sha256Hex := fun x =>
      ((soloSums.find? fun p => decide (p.1 = x)).map Prod.snd).getD (String.ofList (List.replicate 64 '0')) }

theorem soloDigest_length (x : String) : (soloDigest.sha256Hex x).length = 64 := by
  have hall : ∀ p ∈ soloSums, p.2.length = 64 := by decide +kernel
  simp only [soloDigest]
  cases hf : soloSums.find? fun p => decide (p.1 = x) with
  | none =>
    rw [Option.map_none, Option.getD_none]
    decide
  | some p => exact hall p (List.mem_of_find?_eq_some hf)

theorem erased_reported_iff_middle :
    ({ history soloDigest soloCalls with evidence := (history soloDigest soloCalls).evidence.eraseIdx 1 }.verifyChain
      soloDigest (deviceFilter "t" "a")).2.valid = false := by
  refine (erased_reported_iff soloDigest soloCalls soloDigest_length "t" "a" (by decide) ?_ ?_ ?_ ?_ 1 (by decide)).mpr
    (by decide)
  · simp [Only, soloCalls]
  · decide +kernel
  · simp [soloCalls]
  · unfold NoCollision
    decide +kernel

/-- The first of the three records is removed, and the verifier reports the rest as valid. -/
theorem first_erased_unnoticed :
    Only "t" "a" soloCalls ∧ ((history soloDigest soloCalls).evidence.map TrustEvidenceRecord.evidenceId).Nodup ∧
    (soloCalls.Pairwise fun a b => a.timestamp ≤ b.timestamp) ∧ 0 + 1 < soloCalls.length ∧
    NoCollision soloDigest (hashedTexts (history soloDigest soloCalls)) ∧
    ({ history soloDigest soloCalls with evidence := (history soloDigest soloCalls).evidence.eraseIdx 0 }.verifyChain
      soloDigest (deviceFilter "t" "a")).2.valid = true := by
  refine ⟨by simp [Only, soloCalls], by decide +kernel, by simp [soloCalls], by decide, ?_, by decide +kernel⟩
  unfold NoCollision
  decide +kernel

/-! ### Rewritten records -/

/-- The value that `canonical_payload_hash` hashes. -/
def payloadJson (e : TrustEvidenceRecord) : Json String :=
  .obj
    [("tenant_id", .str e.tenantId), ("device_id", .str e.deviceId), ("merchant_id", .str e.merchantId),
     ("branch_id", .str e.branchId), ("region", .str e.region), ("event_type", .str e.eventType),
     ("source_module", .str e.sourceModule), ("timestamp", .int e.timestamp), ("policy_context", e.policyContext),
     ("payload", e.payload), ("audit_event_id", .str e.auditEventId), ("correlation_id", .str e.correlationId)]

theorem canonicalPayloadHash_eq (e : TrustEvidenceRecord) :
    canonicalPayloadHash h e = h.sha256Hex (h.dump (payloadJson e)) := rfl

/-- One of the fields that a hash covers has another value. -/
inductive Rewritten (e : TrustEvidenceRecord) : TrustEvidenceRecord → Prop
  | evidenceId (v : String) (hv : v ≠ e.evidenceId) : Rewritten e { e with evidenceId := v }
  | payloadHash (v : String) (hv : v ≠ e.payloadHash) : Rewritten e { e with payloadHash := v }
  | previousHash (v : String) (hv : v ≠ e.previousHash) : Rewritten e { e with previousHash := v }
  | localSignature (v : String) (hv : v ≠ e.localSignature) : Rewritten e { e with localSignature := v }
  | tenantId (v : String) (hv : v ≠ e.tenantId) : Rewritten e { e with tenantId := v }
  | deviceId (v : String) (hv : v ≠ e.deviceId) : Rewritten e { e with deviceId := v }
  | merchantId (v : String) (hv : v ≠ e.merchantId) : Rewritten e { e with merchantId := v }
  | branchId (v : String) (hv : v ≠ e.branchId) : Rewritten e { e with branchId := v }
  | region (v : String) (hv : v ≠ e.region) : Rewritten e { e with region := v }
  | eventType (v : String) (hv : v ≠ e.eventType) : Rewritten e { e with eventType := v }
  | sourceModule (v : String) (hv : v ≠ e.sourceModule) : Rewritten e { e with sourceModule := v }
  | timestamp (v : Int) (hv : v ≠ e.timestamp) : Rewritten e { e with timestamp := v }
  | policyContext (v : Json String) (hv : v ≠ e.policyContext) : Rewritten e { e with policyContext := v }
  | payload (v : Json String) (hv : v ≠ e.payload) : Rewritten e { e with payload := v }
  | auditEventId (v : String) (hv : v ≠ e.auditEventId) : Rewritten e { e with auditEventId := v }
  | correlationId (v : String) (hv : v ≠ e.correlationId) : Rewritten e { e with correlationId := v }

/-- Where a rewritten record differs from what its own hashes, or the next record's link, say of it. -/
inductive Shows (e e' : TrustEvidenceRecord) : Prop
  | payload (hsame : e'.payloadHash = e.payloadHash) (hne : payloadJson e' ≠ payloadJson e)
  | payloadHash (hsame : payloadJson e' = payloadJson e) (hne : e'.payloadHash ≠ e.payloadHash)
  | chain (hsame : e'.deviceId = e.deviceId) (hne : chainText e' ≠ chainText e)

theorem Rewritten.shows {e e' : TrustEvidenceRecord} (hrw : Rewritten e e') : Shows e e' := by
  cases hrw with
  | evidenceId v hv => exact .chain rfl fun heq => hv (by simpa [chainText, String.append_assoc] using heq)
  | payloadHash v hv => exact .payloadHash rfl hv
  | previousHash v hv => exact .chain rfl fun heq => hv (by simpa [chainText, String.append_assoc] using heq)
  | localSignature v hv => exact .chain rfl fun heq => hv (by simpa [chainText, String.append_assoc] using heq)
  | _ v hv => exact .payload rfl fun heq => hv (by simpa [payloadJson] using heq)

/-- The texts whose hashes a verification of the records compares. -/
def checkedTexts (h : Digest) (records : List TrustEvidenceRecord) : List String :=
  records.flatMap fun e => [chainText e, h.dump (payloadJson e)]

/-- Of a record that was made and one that was rewritten, the second fails its own check, or the next record's. -/
theorem Shows.reported (hne : ∀ x, h.sha256Hex x ≠ "") (hd : device ≠ "") {e e' b : TrustEvidenceRecord}
    (hshows : Shows e e') (he : e.deviceId = device) (hb : b.deviceId = device) (hmade : Made h l e)
    (hmade' : Made h (l ++ [e]) b) (hcoll : NoCollision h (checkedTexts h [e, e']))
    (hdump : h.dump (payloadJson e') = h.dump (payloadJson e) → payloadJson e' = payloadJson e) :
    ¬ (Passes h l e' ∧ Passes h (l ++ [e']) b) := by
  rintro ⟨hp, hp'⟩
  cases hshows with
  | payload hsame hdiff =>
    have hhash := hp.payload
    rw [hsame, hmade.payload] at hhash
    exact hdiff (hdump (hcoll _ (by simp [checkedTexts]) _ (by simp [checkedTexts]) hhash))
  | payloadHash hsame hdiff =>
    refine hdiff ?_
    rw [← hp.payload, hmade.payload, canonicalPayloadHash_eq, canonicalPayloadHash_eq, hsame]
  | chain hsame hdiff =>
    have hlink := hmade'.previous
    rw [hp'.previous hne hd (hsame.trans he) hb, link_last hne hd he hb] at hlink
    exact hdiff (hcoll _ (by simp [checkedTexts]) _ (by simp [checkedTexts]) hlink)

/-- A record of a device's store that is rewritten in a field that a hash covers, and is not the last, is noticed. -/
theorem rewritten_reported (h : Digest) (hne : ∀ x, h.sha256Hex x ≠ "") (tenant device : String) (hd : device ≠ "")
    (calls : List TrustEvidenceRecord) (hcalls : Only tenant device calls) (i : ℕ) (hi : i + 1 < calls.length)
    (e e' : TrustEvidenceRecord) (he : (history h calls).evidence[i]? = some e) (hrw : Rewritten e e')
    (hcoll : NoCollision h (checkedTexts h [e, e']))
    (hdump : h.dump (payloadJson e') = h.dump (payloadJson e) → payloadJson e' = payloadJson e) :
    ({ history h calls with evidence := (history h calls).evidence.set i e' }.verifyChain h {}).2.valid = false := by
  have hhon := (history_spec (h := h) calls).1
  have honly := only_history h calls hcalls
  have hlength := length_history h calls
  have hall : ∀ l : List TrustEvidenceRecord, l.filter (fun e => filterMatches e {}) = l := fun l => by simp [filterMatches]
  simp only [verifyChain, verifyChainLocked, hall]
  set records := (history h calls).evidence
  have h0 : i < records.length := by omega
  have h1 : i + 1 < records.length := by omega
  obtain rfl : records[i] = e := by rwa [List.getElem?_eq_getElem h0, Option.some.injEq] at he
  have hs : records = records.take i ++ records[i] :: records[i + 1] :: records.drop (i + 2) := by
    rw [← List.drop_eq_getElem_cons h1, ← List.drop_eq_getElem_cons h0, List.take_append_drop]
  have hset : records.set i e' = records.take i ++ e' :: records[i + 1] :: records.drop (i + 2) := by
    rw [List.set_eq_take_append_cons_drop, if_pos h0, List.drop_eq_getElem_cons h1]
  rw [hset, not_valid_iff]
  intro hpasses
  refine hrw.shows.reported hne hd (honly _ (List.getElem_mem h0)).1 (honly _ (List.getElem_mem h1)).1
    (hhon _ _ _ hs) (hhon (records.take i ++ [records[i]]) _ (records.drop (i + 2)) ?_) hcoll hdump
    ⟨hpasses _ _ _ rfl, hpasses (records.take i ++ [e']) _ (records.drop (i + 2)) (by simp)⟩
  rw [List.append_assoc]
  exact hs

def firstRecord : TrustEvidenceRecord :=
  (({} : VeilTrustService).createEvidence soloDigest
    { tenantId := "t", deviceId := "a", eventType := "heartbeat", timestamp := 100 }).2

theorem rewritten_reported_id :
    ({ history soloDigest soloCalls with
        evidence := (history soloDigest soloCalls).evidence.set 0 { firstRecord with evidenceId := "forged" } }.verifyChain
      soloDigest {}).2.valid = false := by
  refine rewritten_reported soloDigest (hash_ne_empty soloDigest_length) "t" "a" (by decide) soloCalls
    (by simp [Only, soloCalls]) 0 (by decide) firstRecord _ rfl (.evidenceId "forged" (by decide +kernel)) ?_ (fun _ => rfl)
  unfold NoCollision
  decide +kernel

end Drawer.Veil
