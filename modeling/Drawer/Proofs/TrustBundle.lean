import Drawer.Lib.Json
import Drawer.Lib.Sha256
import Drawer.Proofs.TrustChain
import Drawer.Spec.Veil

/-! The verification in an exported bundle. The records are chosen by the scope, and
verified by a filter on the tenant of the first of them, the time and, for one kind
of scope, the device: it is a verification of the bundle just if the two agree on
every record of the store. -/

namespace Drawer.Veil.VeilTrustService

variable {h : Digest} {sort : List TrustEvidenceRecord → List TrustEvidenceRecord}

/-- The verification is one of the records in the bundle: it counts them, and the records outside have no part in it. -/
structure VerifiesItself (h : Digest) (sort : List TrustEvidenceRecord → List TrustEvidenceRecord) (s : VeilTrustService)
    (scopeType scopeId : String) (startTime endTime : Int) : Prop where
  checked : (s.exportBundle h sort scopeType scopeId startTime endTime).2.verification.recordsChecked =
    (s.exportBundle h sort scopeType scopeId startTime endTime).2.records.length
  alone : ({ s with evidence := s.inScope scopeType scopeId startTime endTime }.exportBundle h sort scopeType scopeId
      startTime endTime).2.verification =
    (s.exportBundle h sort scopeType scopeId startTime endTime).2.verification

/-! ### The two choices -/

theorem recordsChecked_foldl (l : List TrustEvidenceRecord) (sc : Scan) :
    (l.foldl (checkRecord h) sc).recordsChecked = sc.recordsChecked + l.length := by
  have hfail : ∀ (c : Bool) (error : String) (sc : Scan), (sc.failIf c error).recordsChecked = sc.recordsChecked := by
    intro c error sc
    cases c <;> rfl
  have hkeys : ∀ (e : TrustEvidenceRecord) (keys : List String) (sc : Scan),
      (keys.foldl (checkKey h e) sc).recordsChecked = sc.recordsChecked := by
    intro e keys
    induction keys with
    | nil => exact fun sc => rfl
    | cons key keys ih =>
      intro sc
      rw [List.foldl_cons, ih]
      simp only [checkKey, hfail]
  induction l generalizing sc with
  | nil => rfl
  | cons e l ih =>
    rw [List.foldl_cons, ih, checkRecord, hkeys]
    simp only [hfail, List.length_cons]
    omega

theorem recordsChecked_eq (s : VeilTrustService) (f : EvidenceFilter) :
    (s.verifyChainLocked h f).recordsChecked = (s.evidence.filter fun e => filterMatches e f).length := by
  simp only [verifyChainLocked, recordsChecked_foldl]
  exact Nat.zero_add _

theorem verifyChainLocked_congr {s s' : VeilTrustService} {f : EvidenceFilter}
    (hsame : (s.evidence.filter fun e => filterMatches e f) = s'.evidence.filter fun e => filterMatches e f) :
    s.verifyChainLocked h f = s'.verifyChainLocked h f := by
  simp only [verifyChainLocked, hsame]

theorem inScope_inScope (s : VeilTrustService) (scopeType scopeId : String) (startTime endTime : Int) :
    { s with evidence := s.inScope scopeType scopeId startTime endTime }.inScope scopeType scopeId startTime endTime =
      s.inScope scopeType scopeId startTime endTime := by
  simp [inScope, List.filter_filter]

theorem filter_eq_of_length {α : Type} {p q : α → Bool} {l : List α} (hlength : (l.filter q).length = (l.filter p).length)
    (hwithin : ((l.filter p).filter q).length = (l.filter p).length) : l.filter q = l.filter p := by
  have hp : (l.filter p).filter q = l.filter p := List.filter_sublist.eq_of_length hwithin
  have hsub : (l.filter p).Sublist (l.filter q) := by
    rw [← hp, List.filter_filter]
    have hcomm : (l.filter fun a => q a && p a) = (l.filter q).filter p := by
      rw [List.filter_filter]
      exact List.filter_congr fun a _ => Bool.and_comm _ _
    rw [hcomm]
    exact List.filter_sublist
  exact (hsub.eq_of_length hlength.symm).symm

theorem filter_eq_filter_iff {α : Type} {p q : α → Bool} {l : List α} :
    l.filter p = l.filter q ↔ ∀ a ∈ l, (p a = true ↔ q a = true) := by
  refine ⟨fun heq a ha => ?_, fun hall => List.filter_congr fun a ha => Bool.eq_iff_iff.mpr (hall a ha)⟩
  have hmem : a ∈ l.filter p ↔ a ∈ l.filter q := by rw [heq]
  simpa [ha] using hmem

section

variable (sort) (s : VeilTrustService) (scopeType scopeId : String) (startTime endTime : Int)

/-- The tenant of the first record of the bundle. -/
def firstTenant : String :=
  ((sort (s.inScope scopeType scopeId startTime endTime)).head?.map TrustEvidenceRecord.tenantId).getD ""

/-- Of the records in the time range, the scope holds just those of the first one's tenant (all, if that is empty or there
is no first one) and, if the scope is a device, of that device (all, if its id is empty). -/
def ScopeIsTenant : Prop :=
  ∀ e ∈ s.evidence, inRange startTime endTime e = true → (scopeMatches e scopeType scopeId = true ↔
    (firstTenant sort s scopeType scopeId startTime endTime = "" ∨
      e.tenantId = firstTenant sort s scopeType scopeId startTime endTime) ∧
    (scopeType = "device" → scopeId = "" ∨ e.deviceId = scopeId))

theorem filterMatches_bundleFilter (e : TrustEvidenceRecord) :
    filterMatches e (bundleFilter scopeType scopeId startTime endTime
      (sort (s.inScope scopeType scopeId startTime endTime))) = true ↔
    ((firstTenant sort s scopeType scopeId startTime endTime = "" ∨
      e.tenantId = firstTenant sort s scopeType scopeId startTime endTime) ∧
    (scopeType = "device" → scopeId = "" ∨ e.deviceId = scopeId)) ∧ inRange startTime endTime e = true := by
  by_cases hdevice : scopeType = "device"
  · simp [filterMatches, bundleFilter, inRange, firstTenant, hdevice, and_assoc]
  · simp [filterMatches, bundleFilter, inRange, firstTenant, hdevice, and_assoc]

/-- The verification's filter chooses the records of the bundle just under that condition. -/
theorem scopeIsTenant_iff : ScopeIsTenant sort s scopeType scopeId startTime endTime ↔
    (s.evidence.filter fun e => filterMatches e (bundleFilter scopeType scopeId startTime endTime
      (sort (s.inScope scopeType scopeId startTime endTime)))) = s.inScope scopeType scopeId startTime endTime := by
  have hiff : ∀ e : TrustEvidenceRecord, (filterMatches e (bundleFilter scopeType scopeId startTime endTime
      (sort (s.inScope scopeType scopeId startTime endTime))) = true ↔
      (scopeMatches e scopeType scopeId && inRange startTime endTime e) = true) ↔
      (inRange startTime endTime e = true → (scopeMatches e scopeType scopeId = true ↔
        (firstTenant sort s scopeType scopeId startTime endTime = "" ∨
          e.tenantId = firstTenant sort s scopeType scopeId startTime endTime) ∧
        (scopeType = "device" → scopeId = "" ∨ e.deviceId = scopeId))) := by
    intro e
    rw [filterMatches_bundleFilter, Bool.and_eq_true]
    tauto
  rw [ScopeIsTenant, inScope, filter_eq_filter_iff]
  exact (forall₂_congr fun e _ => hiff e).symm

end

/-- The verification of a bundle is one of its own records if and only if, of the records in the time range, the scope
holds just those of the tenant of the bundle's first record (and, for a device, of the device). -/
theorem verifiesItself_iff (h : Digest) (hsort : Sorts sort) (s : VeilTrustService) (scopeType scopeId : String)
    (startTime endTime : Int) : VerifiesItself h sort s scopeType scopeId startTime endTime ↔
      ScopeIsTenant sort s scopeType scopeId startTime endTime := by
  rw [scopeIsTenant_iff]
  have hlength : (sort (s.inScope scopeType scopeId startTime endTime)).length =
      (s.inScope scopeType scopeId startTime endTime).length := (hsort.perm _).length_eq
  have hverify : ∀ s : VeilTrustService, (s.exportBundle h sort scopeType scopeId startTime endTime).2.verification =
      s.verifyChainLocked h (bundleFilter scopeType scopeId startTime endTime
        (sort (s.inScope scopeType scopeId startTime endTime))) := fun s => rfl
  refine ⟨fun hself => ?_, fun hsame => ⟨?_, ?_⟩⟩
  · have hchecked := hself.checked
    have halone := congrArg ChainVerificationResult.recordsChecked hself.alone
    rw [hverify, recordsChecked_eq] at hchecked halone
    rw [hverify, recordsChecked_eq, inScope_inScope] at halone
    exact filter_eq_of_length (hchecked.trans hlength) (halone.trans (hchecked.trans hlength))
  · rw [hverify, recordsChecked_eq, hsame]
    exact hlength.symm
  · rw [hverify, hverify, inScope_inScope]
    refine verifyChainLocked_congr ?_
    have hwithin := congrArg (List.filter fun e => filterMatches e (bundleFilter scopeType scopeId startTime endTime
      (sort (s.inScope scopeType scopeId startTime endTime)))) hsame
    rw [List.filter_filter] at hwithin
    simpa using hwithin.symm

/-! ### Two branches of a tenant -/

def recordSort (l : List TrustEvidenceRecord) : List TrustEvidenceRecord := l.mergeSort fun a b => !recordBefore b a

theorem not_recordBefore {a b : TrustEvidenceRecord} : recordBefore b a = false ↔ a.timestamp < b.timestamp ∨
    a.timestamp = b.timestamp ∧ Lexical.less (b.evidenceId.toList.map Char.toNat) (a.evidenceId.toList.map Char.toNat) = false := by
  unfold recordBefore
  split_ifs with htime
  · simp only [decide_eq_false_iff_not, not_lt]
    omega
  · obtain htime : b.timestamp = a.timestamp := not_not.mp htime
    simp [htime]

theorem sorts_recordSort : Sorts recordSort := by
  refine ⟨fun l => List.mergeSort_perm _ _, fun l => ?_⟩
  have hsorted : (recordSort l).Pairwise fun a b => (!recordBefore b a) = true := by
    refine List.pairwise_mergeSort (fun a b c hab hbc => ?_) (fun a b => ?_) l
    · simp only [Bool.not_eq_true', not_recordBefore] at hab hbc ⊢
      rcases hab with hab | ⟨hab, hids⟩
      · exact Or.inl (by omega)
      · rcases hbc with hbc | ⟨hbc, hids'⟩
        · exact Or.inl (by omega)
        · exact Or.inr ⟨hab.trans hbc, Lexical.not_less_trans hids hids'⟩
    · simp only [Bool.or_eq_true, Bool.not_eq_true', not_recordBefore]
      rcases lt_trichotomy a.timestamp b.timestamp with htime | htime | htime
      · exact Or.inl (Or.inl htime)
      · rcases Lexical.not_less_total (a.evidenceId.toList.map Char.toNat) (b.evidenceId.toList.map Char.toNat) with h | h
        · exact Or.inl (Or.inr ⟨htime, h⟩)
        · exact Or.inr (Or.inr ⟨htime.symm, h⟩)
      · exact Or.inr (Or.inl htime)
  exact hsorted.imp fun hab => by simpa using hab

def realDigest : Digest := ⟨sha256Hex, Json.dump fun _ => ""⟩

/-- A device in each of two branches of tenant `t` is heard of. -/
def branchStore : VeilTrustService :=
  history realDigest
    [{ tenantId := "t", deviceId := "a", branchId := "branch-1", eventType := "heartbeat", timestamp := 100 },
     { tenantId := "t", deviceId := "b", branchId := "branch-2", eventType := "heartbeat", timestamp := 101 }]

theorem verifiesItself_iff_device : VerifiesItself realDigest recordSort branchStore "device" "a" 0 0 := by
  refine (verifiesItself_iff realDigest sorts_recordSort branchStore "device" "a" 0 0).mpr ?_
  unfold ScopeIsTenant
  decide +kernel

/-- The bundle of a branch has its one record, and the verification in it counts both. -/
theorem other_branch_verified :
    (branchStore.exportBundle realDigest recordSort "branch" "branch-1" 0 0).2.records.length = 1 ∧
    (branchStore.exportBundle realDigest recordSort "branch" "branch-1" 0 0).2.verification.recordsChecked = 2 ∧
    ¬ VerifiesItself realDigest recordSort branchStore "branch" "branch-1" 0 0 := by
  have hrecords : (branchStore.exportBundle realDigest recordSort "branch" "branch-1" 0 0).2.records.length = 1 := by
    decide +kernel
  have hchecked : (branchStore.exportBundle realDigest recordSort "branch" "branch-1" 0 0).2.verification.recordsChecked =
      2 := by
    refine (recordsChecked_eq branchStore _).trans ?_
    decide +kernel
  refine ⟨hrecords, hchecked, fun hself => ?_⟩
  have hcount := hself.checked
  rw [hrecords, hchecked] at hcount
  exact absurd hcount (by decide)

end Drawer.Veil.VeilTrustService
