import Drawer.Lib.Text
import Drawer.Proofs.TrustChain

/-! Verification of one device's evidence. A device of one tenant is linked along
its own chain, so of an honest history its chain verifies exactly if the times of
its records never go back. -/

namespace Drawer.Veil
open VeilTrustService

variable {h : Digest} {records l : List TrustEvidenceRecord} {tenant device : String}

theorem idFor_injective (label : String) : Function.Injective (idFor label) := by
  intro m n heq
  have hdigits := congrArg String.toList ((String.append_right_inj _).mp heq)
  simp only [Nat.toString_eq_repr, Nat.toList_repr] at hdigits
  exact Nat.succ_injective (Text.toDigits_ten_injective hdigits)

/-! ### The answer of the verifier -/

/-- The verifier says it is not valid just if it reports an error. -/
def Agree (sc : Scan) : Prop := sc.valid = true ↔ sc.errors = []

theorem agree_failIf {c : Bool} {error : String} {sc : Scan} (hsc : Agree sc) : Agree (sc.failIf c error) := by
  cases c
  · exact hsc
  · simp [Agree, Scan.failIf]

theorem agree_checkKey {e : TrustEvidenceRecord} {sc : Scan} (hsc : Agree sc) (key : String) :
    Agree (checkKey h e sc key) := agree_failIf (agree_failIf hsc)

theorem agree_checkRecord {sc : Scan} (hsc : Agree sc) (e : TrustEvidenceRecord) : Agree (checkRecord h sc e) := by
  have hcounted : Agree { sc with recordsChecked := sc.recordsChecked + 1 } := hsc
  have hseen : Agree (Scan.failIf (decide (e.evidenceId ∈ sc.ids)) ("duplicate_evidence_id:" ++ e.evidenceId)
      { sc with recordsChecked := sc.recordsChecked + 1 }) := agree_failIf hcounted
  have hentered : Agree (entered h sc e) := agree_failIf hseen
  rw [checkRecord_eq]
  exact List.foldlRecOn (keysOf e) (checkKey h e) hentered fun sc hsc key _ => agree_checkKey hsc key

theorem valid_iff_clean (l : List TrustEvidenceRecord) :
    (l.foldl (checkRecord h) {}).valid = true ↔ Clean (l.foldl (checkRecord h) {}) := by
  have hagree : Agree (l.foldl (checkRecord h) {}) :=
    List.foldlRecOn l (checkRecord h) (by simp [Agree]) fun sc hsc e _ => agree_checkRecord hsc e
  exact ⟨fun hv => ⟨hv, hagree.mp hv⟩, fun hc => hc.1⟩

/-! ### The records of one device -/

def ofDevice (device : String) (records : List TrustEvidenceRecord) : List TrustEvidenceRecord :=
  records.filter fun e => e.deviceId = device

@[simp] theorem mem_ofDevice {e : TrustEvidenceRecord} : e ∈ ofDevice device records ↔ e ∈ records ∧ e.deviceId = device := by
  simp [ofDevice]

theorem ofDevice_append (records l : List TrustEvidenceRecord) :
    ofDevice device (records ++ l) = ofDevice device records ++ ofDevice device l := List.filter_append _ _

/-- The device's last record is the last one of its own records. -/
theorem lastHashFor_ofDevice (hd : device ≠ "") (records : List TrustEvidenceRecord) :
    lastHashFor h (ofDevice device records) (chainKey "device" device) =
      lastHashFor h records (chainKey "device" device) := by
  have hp : Proper (chainKey "device" device) := Or.inl ⟨_, hd, rfl⟩
  have hkey : ∀ e : TrustEvidenceRecord, chainKey "device" device ∈ keysOf e ↔ e.deviceId = device := by
    intro e
    rw [mem_keysOf hp, chainKey_inj, or_iff_left (device_ne_tenant _ _), eq_comm]
  induction records using List.reverseRecOn with
  | nil => rfl
  | append_singleton records e ih =>
    rw [ofDevice_append, lastHashFor_append hp]
    by_cases he : e.deviceId = device
    · have hmine : ofDevice device [e] = [e] := by simp [ofDevice, he]
      rw [hmine, lastHashFor_append hp, if_pos ((hkey e).mpr he), if_pos ((hkey e).mpr he)]
    · have hother : ofDevice device [e] = [] := by simp [ofDevice, he]
      rw [hother, List.append_nil, ih, if_neg (mt (hkey e).mp he)]

/-- Every record is of the device and of the tenant. -/
def Only (tenant device : String) (l : List TrustEvidenceRecord) : Prop :=
  ∀ e ∈ l, e.deviceId = device ∧ e.tenantId = tenant

theorem keysOf_only (hd : device ≠ "") (ht : tenant ≠ "") {e : TrustEvidenceRecord}
    (he : e.deviceId = device ∧ e.tenantId = tenant) :
    keysOf e = [chainKey "device" device, chainKey "tenant" tenant] := by
  simp [keysOf, he, hd, ht]

theorem lastHashFor_only (hd : device ≠ "") (ht : tenant ≠ "") (hl : Only tenant device l) :
    lastHashFor h l (chainKey "tenant" tenant) = lastHashFor h l (chainKey "device" device) := by
  rcases List.eq_nil_or_concat l with rfl | ⟨l', e, rfl⟩
  · rfl
  · rw [List.concat_eq_append] at *
    have hkeys := keysOf_only hd ht (hl e (by simp))
    rw [lastHashFor_append (Or.inr ⟨_, ht, rfl⟩), lastHashFor_append (Or.inl ⟨_, hd, rfl⟩), if_pos (by simp [hkeys]),
      if_pos (by simp [hkeys])]

theorem lastTime_only (hd : device ≠ "") (ht : tenant ≠ "") (hl : Only tenant device l) {key : String}
    (hkey : key ∈ [chainKey "device" device, chainKey "tenant" tenant]) :
    (l.foldl (checkRecord h) {}).lastTime.lookup key = l.getLast?.map TrustEvidenceRecord.timestamp := by
  rcases List.eq_nil_or_concat l with rfl | ⟨l', e, rfl⟩
  · rfl
  · rw [List.concat_eq_append] at *
    have hkeys := keysOf_only hd ht (hl e (by simp))
    rw [List.foldl_append, List.foldl_cons, List.foldl_nil, checkRecord_eq, hkeys,
      (lookup_foldl_checkKey e _ _ key).2.1, if_pos hkey]
    simp

/-- A record of the device that was made after the others is checked for its time alone. -/
theorem clean_checkRecord_only (hd : device ≠ "") (ht : tenant ≠ "") (hl : Only tenant device l)
    {e : TrustEvidenceRecord} (he : e.deviceId = device ∧ e.tenantId = tenant) (hm : Made h records e)
    (hlast : lastHashFor h l (chainKey "device" device) = lastHashFor h records (chainKey "device" device))
    (hid : ∀ e' ∈ l, e'.evidenceId ≠ e.evidenceId) :
    Clean (checkRecord h (l.foldl (checkRecord h) {}) e) ↔
      Clean (l.foldl (checkRecord h) {}) ∧ ∀ t ∈ l.getLast?.map TrustEvidenceRecord.timestamp, t ≤ e.timestamp := by
  set sc := l.foldl (checkRecord h) {} with hsc
  have htracks : Tracks h l sc := tracks_foldl l
  obtain ⟨h1, h2, -⟩ := lookup_entered (h := h) sc e
  have hfresh : e.evidenceId ∉ sc.ids := by
    rw [htracks.ids]
    rintro ⟨e', he', heq⟩
    exact hid e' he' heq
  have hlink : ∀ p, p = lastHashFor h l (chainKey "device" device) → p = "" ∨ e.previousHash = p := by
    rintro p rfl
    refine Classical.or_iff_not_imp_left.mpr fun hne => ?_
    rw [hlast] at hne ⊢
    rw [hm.previous, link, he.1, if_neg hd, if_pos hne]
  have hlinked : ∀ key ∈ [chainKey "device" device, chainKey "tenant" tenant], (Linked (entered h sc e) e key ↔
      ∀ t ∈ l.getLast?.map TrustEvidenceRecord.timestamp, t ≤ e.timestamp) := by
    intro key hkey
    have hhash : (sc.lastHash.lookup key).getD "" = lastHashFor h l (chainKey "device" device) := by
      simp only [List.mem_cons, List.not_mem_nil, or_false] at hkey
      rcases hkey with rfl | rfl
      · exact htracks.hash _ (Or.inl ⟨_, hd, rfl⟩)
      · rw [htracks.hash _ (Or.inr ⟨_, ht, rfl⟩), lastHashFor_only hd ht hl]
    rw [Linked, h1, h2, hsc, lastTime_only hd ht hl hkey, ← hsc, and_iff_right (hlink _ hhash)]
    rfl
  rw [checkRecord_eq, clean_foldl_checkKey (nodup_keysOf e), clean_entered, keysOf_only hd ht he, and_assoc]
  refine and_congr_right fun _ => ?_
  rw [and_iff_right ⟨hfresh, hm.payload.symm⟩, forall₂_congr hlinked]
  simp

/-- A list is sorted with a further element if it is and its last element is not above that. -/
theorem pairwise_snoc_iff {x : TrustEvidenceRecord} :
    (l ++ [x]).Pairwise (fun a b => a.timestamp ≤ b.timestamp) ↔
      l.Pairwise (fun a b => a.timestamp ≤ b.timestamp) ∧
        ∀ t ∈ l.getLast?.map TrustEvidenceRecord.timestamp, t ≤ x.timestamp := by
  rw [List.pairwise_append]
  rcases List.eq_nil_or_concat l with rfl | ⟨l', y, rfl⟩
  · simp
  · rw [List.concat_eq_append]
    refine ⟨fun hl => ⟨hl.1, by simpa using hl.2.2 y (by simp) x (by simp)⟩, fun hl => ⟨hl.1, by simp, ?_⟩⟩
    obtain ⟨hsorted, hlast⟩ := hl
    have hyx : y.timestamp ≤ x.timestamp := by simpa using hlast
    intro a ha b hb
    obtain rfl := List.mem_singleton.mp hb
    rcases List.mem_append.mp ha with ha | ha
    · exact ((List.pairwise_append.mp hsorted).2.2 a ha y (by simp)).trans hyx
    · rwa [List.mem_singleton.mp ha]

/-- The chain of a device of one tenant is clean exactly if its times never go back. -/
theorem clean_ofDevice_iff (hd : device ≠ "") (ht : tenant ≠ "") (hhon : Honest h records)
    (hids : (records.map TrustEvidenceRecord.evidenceId).Nodup)
    (hten : ∀ e ∈ records, e.deviceId = device → e.tenantId = tenant) :
    Clean ((ofDevice device records).foldl (checkRecord h) {}) ↔
      (ofDevice device records).Pairwise fun a b => a.timestamp ≤ b.timestamp := by
  induction records using List.reverseRecOn with
  | nil => simp [ofDevice, Clean]
  | append_singleton records x ih =>
    rw [List.map_append, List.nodup_append] at hids
    have hhon' : Honest h records := fun l e r hs => hhon l e (r ++ [x]) (by simp [hs])
    have hten' : ∀ e ∈ records, e.deviceId = device → e.tenantId = tenant := fun e he => hten e (by simp [he])
    rw [ofDevice_append]
    by_cases hx : x.deviceId = device
    · have hmine : ofDevice device [x] = [x] := by simp [ofDevice, hx]
      have honly : Only tenant device (ofDevice device records) := by
        intro e he
        rw [mem_ofDevice] at he
        exact ⟨he.2, hten' e he.1 he.2⟩
      have hstep := clean_checkRecord_only hd ht honly ⟨hx, hten x (by simp) hx⟩ (hhon records x [] rfl)
        (lastHashFor_ofDevice hd records) fun e' he' heq =>
          hids.2.2 _ (List.mem_map_of_mem (mem_ofDevice.mp he').1) _ (by simp) heq
      rw [hmine, List.foldl_append, List.foldl_cons, List.foldl_nil, hstep, ih hhon' hids.1 hten', pairwise_snoc_iff]
    · have hother : ofDevice device [x] = [] := by simp [ofDevice, hx]
      rw [hother, List.append_nil]
      exact ih hhon' hids.1 hten'

/-! ### Histories of many devices -/

/-- A filter on a device of a tenant. -/
def deviceFilter (tenant device : String) : EvidenceFilter := { tenantId := tenant, deviceId := device }

/-- Every device belongs to one tenant. Records without a device may be of any. -/
def OneTenantEach (calls : List TrustEvidenceRecord) : Prop :=
  ∀ a ∈ calls, a.deviceId ≠ "" → a.tenantId ≠ "" ∧ ∀ b ∈ calls, b.deviceId = a.deviceId → b.tenantId = a.tenantId

theorem exists_call (calls : List TrustEvidenceRecord) {e : TrustEvidenceRecord} (he : e ∈ (history h calls).evidence) :
    ∃ c ∈ calls, c.deviceId = e.deviceId ∧ c.tenantId = e.tenantId := by
  have hmem : (e.deviceId, e.tenantId, e.timestamp) ∈ calls.map fun c => (c.deviceId, c.tenantId, c.timestamp) :=
    (history_spec (h := h) calls).2 ▸ List.mem_map_of_mem (f := fun c => (c.deviceId, c.tenantId, c.timestamp)) he
  obtain ⟨c, hc, heq⟩ := List.mem_map.mp hmem
  obtain ⟨hdevice, hrest⟩ := Prod.mk.inj heq
  exact ⟨c, hc, hdevice, (Prod.mk.inj hrest).1⟩

theorem sorted_of_map {l l' : List TrustEvidenceRecord}
    (hmap : l.map (fun e => (e.deviceId, e.tenantId, e.timestamp)) = l'.map fun e => (e.deviceId, e.tenantId, e.timestamp))
    (hl : (ofDevice device l').Pairwise fun a b => a.timestamp ≤ b.timestamp) :
    (ofDevice device l).Pairwise fun a b => a.timestamp ≤ b.timestamp := by
  have htimes : ∀ l : List TrustEvidenceRecord, (ofDevice device l).map TrustEvidenceRecord.timestamp =
      ((l.map fun e => (e.deviceId, e.tenantId, e.timestamp)).filter fun p => p.1 = device).map fun p => p.2.2 := by
    intro l
    rw [List.filter_map, List.map_map]
    rfl
  have hsorted : ((ofDevice device l').map TrustEvidenceRecord.timestamp).Pairwise (· ≤ ·) := List.pairwise_map.mpr hl
  rw [htimes l', ← hmap, ← htimes l] at hsorted
  exact List.pairwise_map.mp hsorted

/-- However the records of devices and tenants are interleaved, the chain of each device verifies, if no device goes back
in time. -/
theorem verifyChain_device (h : Digest) (calls : List TrustEvidenceRecord)
    (hids : ((history h calls).evidence.map TrustEvidenceRecord.evidenceId).Nodup) (hone : OneTenantEach calls)
    (htime : ∀ d, d ≠ "" → (ofDevice d calls).Pairwise fun a b => a.timestamp ≤ b.timestamp)
    (c : TrustEvidenceRecord) (hc : c ∈ calls) (hd : c.deviceId ≠ "") :
    ((history h calls).verifyChain h (deviceFilter c.tenantId c.deviceId)).2.valid = true ∧
    ((history h calls).verifyChain h (deviceFilter c.tenantId c.deviceId)).2.errors = [] := by
  obtain ⟨ht, hsame⟩ := hone c hc hd
  obtain ⟨hhon, hmap⟩ := history_spec (h := h) calls
  have hten : ∀ e ∈ (history h calls).evidence, e.deviceId = c.deviceId → e.tenantId = c.tenantId := by
    intro e he hdev
    obtain ⟨c', hc', hdev', hten'⟩ := exists_call calls he
    rw [← hten']
    exact hsame c' hc' (hdev'.trans hdev)
  have hfilter : (history h calls).evidence.filter (fun e => filterMatches e (deviceFilter c.tenantId c.deviceId)) =
      ofDevice c.deviceId (history h calls).evidence := by
    refine List.filter_congr fun e he => ?_
    by_cases hdev : e.deviceId = c.deviceId
    · simp [filterMatches, deviceFilter, hdev, hten e he hdev]
    · simp [filterMatches, deviceFilter, hdev, hd]
  have hclean := (clean_ofDevice_iff hd ht hhon hids hten).mpr (sorted_of_map hmap (htime c.deviceId hd))
  rw [← hfilter] at hclean
  exact hclean

theorem verifyChain_device_interleaved :
    ((history sampleDigest (sampleCalls "a")).verifyChain sampleDigest (deviceFilter "t" "a")).2.valid = true ∧
    ((history sampleDigest (sampleCalls "a")).verifyChain sampleDigest (deviceFilter "t" "a")).2.errors = [] := by
  refine verifyChain_device sampleDigest (sampleCalls "a") (by decide +kernel) (by simp [OneTenantEach, sampleCalls]) ?_
    { tenantId := "t", deviceId := "a", eventType := "heartbeat", timestamp := 100 } (by simp [sampleCalls]) (by decide)
  intro d _
  have hsorted : (sampleCalls "a").Pairwise fun a b => a.timestamp ≤ b.timestamp := by simp [sampleCalls]
  exact hsorted.filter _

end Drawer.Veil
