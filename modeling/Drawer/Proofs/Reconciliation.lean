import Drawer.Lib.Casts
import Drawer.Proofs.CashScope

/-! The verdict of a reconciliation. What the loop gathers is a property of the matching
entries whatever their order, and of the seven branches four leave the account balanced or
say the same: nothing is missing, nothing was counted twice. -/

namespace Drawer.Cash
open CashIntelligenceService
open Casts (int64_kept_iff)

variable {own own' : List CashLedgerEntry}

/-! ### The tally of some entries -/

def expectedSum (own : List CashLedgerEntry) : Int := (own.map CashLedgerEntry.expectedBalance).sum

def opened (e : CashLedgerEntry) : Bool := e.eventType = "drawer_open"

def staleAt (now : Int) (e : CashLedgerEntry) : Bool :=
  e.eventType = "inventory_snapshot" && now - e.occurredAtEpoch > 86400

theorem foldl_tally_counts (now : Int) (own : List CashLedgerEntry) :
    (own.foldl (tallyEntry now) {}).expected = expectedSum own ∧
      (own.foldl (tallyEntry now) {}).matched = own.length ∧
      (own.foldl (tallyEntry now) {}).drawerOpen = own.any opened ∧
      (own.foldl (tallyEntry now) {}).staleInventory = own.any (staleAt now) := by
  induction own using List.reverseRecOn with
  | nil => exact ⟨rfl, rfl, rfl, rfl⟩
  | append_singleton own e ih =>
    obtain ⟨hexpected, hmatched, hopen, hstale⟩ := ih
    rw [List.foldl_append, List.foldl_cons, List.foldl_nil]
    refine ⟨?_, ?_, ?_, ?_⟩
    · simp [tallyEntry, hexpected, expectedSum]
    · simp [tallyEntry, hmatched]
    · simp [tallyEntry, hopen, opened]
    · simp [tallyEntry, hstale, staleAt]

theorem foldl_tally_duplicate (now : Int) (own : List CashLedgerEntry) :
    (own.foldl (tallyEntry now) {}).duplicate = true ↔ OwnDuplicate own := by
  induction own using List.reverseRecOn with
  | nil => simp [OwnDuplicate]
  | append_singleton own e ih =>
    rw [ownDuplicate_append, ← ih, List.foldl_append, List.foldl_cons, List.foldl_nil]
    have hseen : e.eventId ∈ (own.foldl (tallyEntry now) {}).seen ↔ _ := mem_tally_seen own e.eventId
    simp only [tallyEntry, Bool.or_eq_true, Bool.and_eq_true, decide_eq_true_eq, hseen, or_assoc]
    rw [and_self_left]
    exact or_congr_right or_comm

/-! ### The order of the entries -/

theorem ownDuplicate_perm (h : own.Perm own') : OwnDuplicate own ↔ OwnDuplicate own' := by
  unfold OwnDuplicate
  have hids := ((h.map CashLedgerEntry.eventId).filter fun i => decide (i ≠ "")).nodup_iff
  simp only [h.mem_iff, hids]

/-- All that the verdict is made of is the same in any order. -/
theorem tally_perm (now : Int) (h : own.Perm own') :
    (own.foldl (tallyEntry now) {}).expected = (own'.foldl (tallyEntry now) {}).expected ∧
      (own.foldl (tallyEntry now) {}).matched = (own'.foldl (tallyEntry now) {}).matched ∧
      (own.foldl (tallyEntry now) {}).drawerOpen = (own'.foldl (tallyEntry now) {}).drawerOpen ∧
      (own.foldl (tallyEntry now) {}).staleInventory = (own'.foldl (tallyEntry now) {}).staleInventory ∧
      (own.foldl (tallyEntry now) {}).duplicate = (own'.foldl (tallyEntry now) {}).duplicate := by
  obtain ⟨hexpected, hmatched, hopen, hstale⟩ := foldl_tally_counts now own
  obtain ⟨hexpected', hmatched', hopen', hstale'⟩ := foldl_tally_counts now own'
  refine ⟨?_, ?_, ?_, ?_, ?_⟩
  · rw [hexpected, hexpected', expectedSum, expectedSum, (h.map _).sum_eq]
  · rw [hmatched, hmatched', h.length_eq]
  · rw [hopen, hopen', h.any_eq]
  · rw [hstale, hstale', h.any_eq]
  · rw [Bool.eq_iff_iff, foldl_tally_duplicate, foldl_tally_duplicate, ownDuplicate_perm h]

/-! ### The verdict -/

theorem absLong_eq_zero {n : Int} : absLong n = 0 ↔ n = 0 := by
  unfold absLong
  split_ifs <;> omega

theorem absLong_pos {n : Int} : 0 < absLong n ↔ n ≠ 0 := by
  unfold absLong
  split_ifs <;> omega

/-- An opened drawer and an old count of the inventory do not unbalance an account. -/
theorem verdict_balanced_iff (t : Tally) (variance : Int) :
    (verdict t variance).1 = "balanced" ↔ variance = 0 ∧ t.duplicate = false := by
  unfold verdict
  by_cases hvariance : variance = 0
  · subst hvariance
    have hzero : absLong 0 = 0 := rfl
    cases hdup : t.duplicate with
    | false => split_ifs <;> simp_all
    | true => simp
  · have hne : absLong variance ≠ 0 := fun h => hvariance (absLong_eq_zero.mp h)
    have hpos : 0 < absLong variance := absLong_pos.mpr hvariance
    simp only [hne, false_and, if_false, hpos, and_true, if_true, hvariance, iff_false]
    split_ifs <;> simp

variable (s : CashIntelligenceService) (scopeType scopeId currency : String) (observed : Int)

def statusOf (observed : Int) (t : Tally) : String :=
  if t.matched = 0 then "unresolved" else (verdict t (observed - t.expected)).1

def findingsOf (observed : Int) (t : Tally) : List String :=
  (verdict t (observed - t.expected)).2 ++ (if t.staleInventory then ["stale_inventory"] else []) ++
    (if t.matched = 0 then ["missing_events"] else [])

theorem reportOf_verdict (now : Int) :
    let t := (s.ledger.filter (matching scopeType scopeId currency)).foldl (tallyEntry now) {}
    let report := s.reportOf scopeType scopeId currency observed now
    report.expectedBalance = t.expected ∧ report.variance = observed - t.expected ∧
      report.status = statusOf observed t ∧ report.findings = findingsOf observed t :=
  ⟨rfl, rfl, rfl, rfl⟩

/-- The expected balance and the variance as the code computes them, in `long`s. -/
def longBalance (own : List CashLedgerEntry) : Int64 :=
  own.foldl (fun sum e => sum + Int64.ofInt e.expectedBalance) 0

def longVariance (observed : Int) (own : List CashLedgerEntry) : Int64 := Int64.ofInt observed - longBalance own

theorem longBalance_eq (own : List CashLedgerEntry) : longBalance own = Int64.ofInt (expectedSum own) := by
  induction own using List.reverseRecOn with
  | nil => rfl
  | append_singleton own e ih =>
    have hsum : expectedSum (own ++ [e]) = expectedSum own + e.expectedBalance := by simp [expectedSum]
    rw [hsum, Int64.ofInt_add, ← ih, longBalance, List.foldl_append, List.foldl_cons, List.foldl_nil, ← longBalance]

/-- In `long`s a report says the same, just if its expected balance and its variance fit. -/
theorem reportOf_long (now : Int) :
    let own := s.ledger.filter (matching scopeType scopeId currency)
    let report := s.reportOf scopeType scopeId currency observed now
    ((longBalance own).toInt = report.expectedBalance ∧ (longVariance observed own).toInt = report.variance ↔
      (-9223372036854775808 ≤ report.expectedBalance ∧ report.expectedBalance ≤ 9223372036854775807) ∧
        -9223372036854775808 ≤ report.variance ∧ report.variance ≤ 9223372036854775807) := by
  intro own report
  obtain ⟨hbalance, hvariance, -⟩ := reportOf_verdict s scopeType scopeId currency observed now
  have hexpected := (foldl_tally_counts now own).1
  have hlong : longVariance observed own = Int64.ofInt report.variance := by
    rw [longVariance, longBalance_eq, ← Int64.ofInt_sub, ← hexpected]
    exact congrArg Int64.ofInt hvariance.symm
  have hsum : longBalance own = Int64.ofInt report.expectedBalance := by
    rw [longBalance_eq, ← hexpected]
    exact congrArg Int64.ofInt hbalance.symm
  rw [hsum, hlong, int64_kept_iff, int64_kept_iff]

theorem statusOf_eq (now : Int) (own : List CashLedgerEntry) :
    statusOf observed (own.foldl (tallyEntry now) {}) = "balanced" ↔
      own ≠ [] ∧ observed = expectedSum own ∧ ¬ OwnDuplicate own := by
  obtain ⟨hexpected, hmatched, -, -⟩ := foldl_tally_counts now own
  rw [statusOf, hmatched, hexpected, ← foldl_tally_duplicate now own]
  split_ifs with hnone
  · simp [List.length_eq_zero_iff.mp hnone]
  · have hsome : own ≠ [] := fun h => hnone (by rw [h]; rfl)
    rw [verdict_balanced_iff, sub_eq_zero, and_iff_right hsome, Bool.not_eq_true]

theorem statusOf_perm (now : Int) (h : own.Perm own') :
    statusOf observed (own.foldl (tallyEntry now) {}) = statusOf observed (own'.foldl (tallyEntry now) {}) ∧
      findingsOf observed (own.foldl (tallyEntry now) {}) = findingsOf observed (own'.foldl (tallyEntry now) {}) := by
  obtain ⟨he, hm, ho, hst, hd⟩ := tally_perm now h
  have hverdict : ∀ variance, verdict (own.foldl (tallyEntry now) {}) variance =
      verdict (own'.foldl (tallyEntry now) {}) variance := by
    intro variance
    unfold verdict
    rw [ho, hst, hd]
  unfold statusOf findingsOf
  simp only [he, hm, hst, hverdict, and_self]

theorem reconcile_verdict (s : CashIntelligenceService) (scopeType scopeId currency : String) (observed now : Int) :
    let entries := s.ledger.filter (matching scopeType scopeId currency)
    let report := (s.reconcile scopeType scopeId currency observed now).2
    (report.status = "balanced" ↔ entries ≠ [] ∧ observed = expectedSum entries ∧ ¬ OwnDuplicate entries) ∧
      report.variance = observed - expectedSum entries ∧
      ∀ ledger, ledger.Perm s.ledger →
        let report' := ({ s with ledger := ledger }.reconcile scopeType scopeId currency observed now).2
        report'.expectedBalance = report.expectedBalance ∧ report'.variance = report.variance ∧
          report'.status = report.status ∧ report'.findings = report.findings := by
  intro entries report
  obtain ⟨hbalance, hvariance, hstatus, hfindings⟩ := reportOf_verdict s scopeType scopeId currency observed now
  refine ⟨?_, ?_, fun ledger hperm => ?_⟩
  · rw [show report.status = _ from hstatus, statusOf_eq]
  · rw [show report.variance = _ from hvariance, (foldl_tally_counts now entries).1]
  · intro report'
    obtain ⟨hbalance', hvariance', hstatus', hfindings'⟩ :=
      reportOf_verdict { s with ledger := ledger } scopeType scopeId currency observed now
    have hown := hperm.filter (matching scopeType scopeId currency)
    have hexpected := (tally_perm now hown).1
    obtain ⟨hsame, hsame'⟩ := statusOf_perm observed now hown
    exact ⟨hbalance'.trans (hexpected.trans hbalance.symm),
      hvariance'.trans ((congrArg (observed - ·) hexpected).trans hvariance.symm),
      hstatus'.trans (hsame.trans hstatus.symm), hfindings'.trans (hsame'.trans hfindings.symm)⟩

end Drawer.Cash
