import Drawer.Lib.Transition
import Drawer.Spec.CashIntelligence

/-! What a reconciliation of a device depends on. All but one thing in the report
comes from the device's own entries; whether an entry counts as a duplicate also
comes from every entry of any device before it that used its event id. -/

namespace Drawer.Cash.CashIntelligenceService
open Transition (split_snoc)

/-- The ledger after the entries are submitted to a new service with those denominations. -/
def submitted (sets : Dict String (List Int)) (es : List CashLedgerEntry) : CashIntelligenceService :=
  es.foldl (fun s e => (s.addLedgerEntry e).1) { denominationSets := sets }

/-- The entries that are taken and are of the device in the currency. -/
def contributed (sets : Dict String (List Int)) (d currency : String) (es : List CashLedgerEntry) :
    List CashLedgerEntry :=
  es.filter fun e => entryOk sets e && matching "device" d currency e

/-- What is asked of two reports to be the same. -/
structure SameVerdict (r r' : ReconciliationReport) : Prop where
  expected : r.expectedBalance = r'.expectedBalance
  variance : r.variance = r'.variance
  status : r.status = r'.status
  findings : r.findings = r'.findings

/-- Of these entries one is submitted as a duplicate, or two have one event id. -/
def OwnDuplicate (own : List CashLedgerEntry) : Prop :=
  (∃ e ∈ own, e.duplicate = true) ∨ ¬ ((own.map CashLedgerEntry.eventId).filter fun i => i ≠ "").Nodup

/-- An entry of the scope is taken with an event id that an entry outside the scope was taken with before. -/
def ForeignReuse (sets : Dict String (List Int)) (d currency : String) (es : List CashLedgerEntry) : Prop :=
  ∃ before e after, es = before ++ e :: after ∧ entryOk sets e = true ∧ matching "device" d currency e = true ∧
    e.eventId ≠ "" ∧ ∃ e' ∈ before, entryOk sets e' = true ∧ matching "device" d currency e' = false ∧
      e'.eventId = e.eventId

/-! ### One entry -/

section

variable {sets : Dict String (List Int)} {d currency : String} {now : Int}

theorem submitted_append (es : List CashLedgerEntry) (e : CashLedgerEntry) :
    submitted sets (es ++ [e]) = ((submitted sets es).addLedgerEntry e).1 := by
  simp [submitted]

theorem submitted_sets (es : List CashLedgerEntry) : (submitted sets es).denominationSets = sets := by
  induction es using List.reverseRecOn with
  | nil => rfl
  | append_singleton es e ih =>
    rw [submitted_append]
    unfold addLedgerEntry
    split_ifs <;> exact ih

theorem submitted_taken {es : List CashLedgerEntry} {e : CashLedgerEntry} (h : entryOk sets e = true) :
    (submitted sets (es ++ [e])).ledger = (submitted sets es).ledger ++ [(submitted sets es).completed e] ∧
    (submitted sets (es ++ [e])).seenEventIds =
      if e.eventId = "" then (submitted sets es).seenEventIds else e.eventId :: (submitted sets es).seenEventIds := by
  rw [submitted_append, addLedgerEntry, submitted_sets]
  simp only [h, Bool.not_true, Bool.false_eq_true, if_false]
  exact ⟨rfl, rfl⟩

theorem submitted_refused {es : List CashLedgerEntry} {e : CashLedgerEntry} (h : entryOk sets e = false) :
    submitted sets (es ++ [e]) = submitted sets es := by
  rw [submitted_append, addLedgerEntry, submitted_sets]
  simp only [h, Bool.not_false, if_true]

theorem mem_seenEventIds (es : List CashLedgerEntry) (i : String) :
    i ∈ (submitted sets es).seenEventIds ↔ i ≠ "" ∧ ∃ e ∈ es, entryOk sets e = true ∧ e.eventId = i := by
  induction es using List.reverseRecOn with
  | nil => simp [submitted]
  | append_singleton es e ih =>
    cases h : entryOk sets e with
    | false =>
      rw [submitted_refused h, ih]
      simp [h, or_and_right, exists_or]
    | true =>
      rw [(submitted_taken h).2]
      by_cases hid : e.eventId = ""
      · rw [if_pos hid, ih]
        simp only [List.mem_append, List.mem_singleton, or_and_right, exists_or, exists_eq_left, h, hid, true_and]
        refine and_congr_right fun hi => ?_
        simp [Ne.symm hi]
      · rw [if_neg hid, List.mem_cons, ih]
        simp only [List.mem_append, List.mem_singleton, or_and_right, exists_or, exists_eq_left, h, true_and]
        refine ⟨?_, ?_⟩
        · rintro (rfl | ⟨hi, he⟩)
          · exact ⟨hid, Or.inr rfl⟩
          · exact ⟨hi, Or.inl he⟩
        · rintro ⟨hi, he | rfl⟩
          · exact Or.inr ⟨hi, he⟩
          · exact Or.inl rfl

/-! ### The tally -/

theorem contributed_append (es : List CashLedgerEntry) (e : CashLedgerEntry) :
    contributed sets d currency (es ++ [e]) =
      if (entryOk sets e && matching "device" d currency e) = true then contributed sets d currency es ++ [e]
      else contributed sets d currency es := by
  rw [contributed, List.filter_append, List.filter_singleton]
  split_ifs with h <;> simp [contributed, h]

theorem mem_contributed {es : List CashLedgerEntry} {e : CashLedgerEntry} :
    e ∈ contributed sets d currency es ↔ e ∈ es ∧ entryOk sets e = true ∧ matching "device" d currency e = true := by
  rw [contributed, List.mem_filter, Bool.and_eq_true]

theorem tally_matching {es : List CashLedgerEntry} {e : CashLedgerEntry} (h : entryOk sets e = true)
    (hm : matching "device" d currency e = true) :
    (submitted sets (es ++ [e])).tally "device" d currency now =
      tallyEntry now ((submitted sets es).tally "device" d currency now) ((submitted sets es).completed e) := by
  have hm' : matching "device" d currency ((submitted sets es).completed e) = true := hm
  rw [tally, (submitted_taken h).1, List.filter_append, List.filter_singleton, hm', cond_true, List.foldl_append]
  rfl

theorem tally_other {es : List CashLedgerEntry} {e : CashLedgerEntry}
    (h : (entryOk sets e && matching "device" d currency e) = false) :
    (submitted sets (es ++ [e])).tally "device" d currency now = (submitted sets es).tally "device" d currency now := by
  cases hok : entryOk sets e with
  | false => rw [submitted_refused hok]
  | true =>
    rw [hok, Bool.true_and] at h
    have hm : matching "device" d currency ((submitted sets es).completed e) = false := h
    rw [tally, (submitted_taken hok).1, List.filter_append, List.filter_singleton, hm, cond_false, List.append_nil]
    rfl

/-- All of the tally but the duplicate flag is that of the device's own entries as they were submitted. -/
theorem tally_eq (es : List CashLedgerEntry) :
    (submitted sets es).tally "device" d currency now =
      { (contributed sets d currency es).foldl (tallyEntry now) {} with
        duplicate := ((submitted sets es).tally "device" d currency now).duplicate } := by
  induction es using List.reverseRecOn with
  | nil => rfl
  | append_singleton es e ih =>
    cases h : entryOk sets e && matching "device" d currency e with
    | false =>
      rw [tally_other h, contributed_append, h]
      exact ih
    | true =>
      rw [contributed_append, if_pos h, List.foldl_append]
      rw [Bool.and_eq_true] at h
      rw [tally_matching h.1 h.2]
      generalize (submitted sets es).tally "device" d currency now = t at ih ⊢
      rw [ih]
      rfl

theorem mem_tally_seen (own : List CashLedgerEntry) (i : String) :
    i ∈ (own.foldl (tallyEntry now) {}).seen ↔ i ≠ "" ∧ ∃ e ∈ own, e.eventId = i := by
  induction own using List.reverseRecOn with
  | nil => simp
  | append_singleton own e ih =>
    rw [List.foldl_append, List.foldl_cons, List.foldl_nil]
    simp only [tallyEntry]
    by_cases hid : e.eventId = ""
    · rw [if_pos hid, ih]
      refine and_congr_right fun hi => ?_
      simp [hid, Ne.symm hi, or_and_right, exists_or]
    · rw [if_neg hid, List.mem_cons, ih]
      simp only [List.mem_append, List.mem_singleton, or_and_right, exists_or, exists_eq_left]
      refine ⟨?_, ?_⟩
      · rintro (rfl | ⟨hi, he⟩)
        · exact ⟨hid, Or.inr rfl⟩
        · exact ⟨hi, Or.inl he⟩
      · rintro ⟨hi, he | rfl⟩
        · exact Or.inr ⟨hi, he⟩
        · exact Or.inl rfl

/-! ### Duplicates -/

theorem ownDuplicate_append (own : List CashLedgerEntry) (e : CashLedgerEntry) :
    OwnDuplicate (own ++ [e]) ↔
      OwnDuplicate own ∨ e.duplicate = true ∨ (e.eventId ≠ "" ∧ ∃ e' ∈ own, e'.eventId = e.eventId) := by
  have hflag : (∃ x ∈ own ++ [e], x.duplicate = true) ↔ (∃ x ∈ own, x.duplicate = true) ∨ e.duplicate = true := by
    simp [or_and_right, exists_or]
  have hids : (((own ++ [e]).map CashLedgerEntry.eventId).filter fun i => i ≠ "").Nodup ↔
      ((own.map CashLedgerEntry.eventId).filter fun i => i ≠ "").Nodup ∧
        ¬ (e.eventId ≠ "" ∧ ∃ e' ∈ own, e'.eventId = e.eventId) := by
    rw [List.map_append, List.filter_append]
    by_cases hid : e.eventId = ""
    · simp [hid]
    · have hlast : ([e].map CashLedgerEntry.eventId).filter (fun i => i ≠ "") = [e.eventId] := by simp [hid]
      rw [hlast, List.nodup_append_comm, List.singleton_append, List.nodup_cons, and_comm]
      refine and_congr_right fun _ => not_congr ?_
      simp [hid]
  rw [OwnDuplicate, OwnDuplicate, hflag, hids, not_and_or, not_not]
  simp only [or_assoc, or_left_comm]

theorem foreignReuse_append (es : List CashLedgerEntry) (e : CashLedgerEntry) :
    ForeignReuse sets d currency (es ++ [e]) ↔ ForeignReuse sets d currency es ∨
      (entryOk sets e = true ∧ matching "device" d currency e = true ∧ e.eventId ≠ "" ∧
        ∃ e' ∈ es, entryOk sets e' = true ∧ matching "device" d currency e' = false ∧ e'.eventId = e.eventId) := by
  refine ⟨?_, ?_⟩
  · rintro ⟨before, x, after, hes, hx⟩
    rcases split_snoc hes with ⟨after', hes', -⟩ | ⟨rfl, rfl, -⟩
    · exact Or.inl ⟨before, x, after', hes', hx⟩
    · exact Or.inr hx
  · rintro (⟨before, x, after, rfl, hx⟩ | hx)
    · exact ⟨before, x, after ++ [e], by simp, hx⟩
    · exact ⟨es, e, [], rfl, hx⟩

/-- The tally sees a duplicate if the device's own entries have one, or if an entry outside the scope used the event id
of one of them before it. -/
theorem tally_duplicate (sets : Dict String (List Int)) (d currency : String) (now : Int) (es : List CashLedgerEntry) :
    ((submitted sets es).tally "device" d currency now).duplicate = true ↔
      OwnDuplicate (contributed sets d currency es) ∨ ForeignReuse sets d currency es := by
  induction es using List.reverseRecOn with
  | nil => simp [submitted, tally, OwnDuplicate, ForeignReuse, contributed]
  | append_singleton es e ih =>
    rw [contributed_append, foreignReuse_append]
    cases h : entryOk sets e && matching "device" d currency e with
    | false =>
      rw [tally_other h, if_neg (by simp), ih]
      have hnot : ¬ (entryOk sets e = true ∧ matching "device" d currency e = true) := by
        rw [← Bool.and_eq_true, h]
        simp
      simp only [← and_assoc, hnot, false_and, or_false]
    | true =>
      rw [Bool.and_eq_true] at h
      rw [tally_matching h.1 h.2, if_pos rfl, ownDuplicate_append]
      have hseen : ∀ i, i ∈ ((submitted sets es).tally "device" d currency now).seen ↔
          i ≠ "" ∧ ∃ e' ∈ contributed sets d currency es, e'.eventId = i := by
        intro i
        rw [tally_eq]
        exact mem_tally_seen _ i
      -- an id that was seen was seen in the scope or outside of it
      have hsplit : (∃ e' ∈ es, entryOk sets e' = true ∧ e'.eventId = e.eventId) ↔
          (∃ e' ∈ contributed sets d currency es, e'.eventId = e.eventId) ∨
          ∃ e' ∈ es, entryOk sets e' = true ∧ matching "device" d currency e' = false ∧ e'.eventId = e.eventId := by
        refine ⟨?_, ?_⟩
        · rintro ⟨e', he', hok, hid⟩
          cases hm : matching "device" d currency e' with
          | true => exact Or.inl ⟨e', mem_contributed.mpr ⟨he', hok, hm⟩, hid⟩
          | false => exact Or.inr ⟨e', he', hok, hm, hid⟩
        · rintro (⟨e', he', hid⟩ | ⟨e', he', hok, -, hid⟩)
          · exact ⟨e', (mem_contributed.mp he').1, (mem_contributed.mp he').2.1, hid⟩
          · exact ⟨e', he', hok, hid⟩
      simp only [tallyEntry, completed, Bool.or_eq_true, Bool.and_eq_true, decide_eq_true_eq, ih, hseen,
        mem_seenEventIds, hsplit, h.1, h.2, true_and]
      by_cases hid : e.eventId = ""
      · simp [hid, or_comm, or_left_comm]
      · simp only [ne_eq, hid, not_false_eq_true, true_and]
        simp only [or_assoc, or_left_comm, or_self_left]

end

/-! ### Two runs -/

theorem mem_verdict (t : Tally) (variance : Int) : "duplicate_events" ∈ (verdict t variance).2 ↔ t.duplicate = true := by
  cases hdup : t.duplicate with
  | true => simp [verdict, hdup]
  | false =>
    simp only [verdict, hdup, Bool.false_eq_true, if_false, iff_false]
    split_ifs <;> decide

theorem mem_findings (s : CashIntelligenceService) (scopeType scopeId currency : String) (observed now : Int) :
    "duplicate_events" ∈ (s.reportOf scopeType scopeId currency observed now).findings ↔
      (s.tally scopeType scopeId currency now).duplicate = true := by
  have hrest : ∀ (stale : Bool) (matched : ℕ), "duplicate_events" ∉
      (if stale = true then ["stale_inventory"] else []) ++ (if matched = 0 then ["missing_events"] else []) := by
    intro stale matched
    split_ifs <;> decide
  simp only [reportOf, List.append_assoc]
  rw [List.mem_append, or_iff_left (hrest _ _), mem_verdict]

theorem sameVerdict_of_tally {s s' : CashIntelligenceService} {scopeType scopeId currency : String} {now : Int}
    (h : s.tally scopeType scopeId currency now = s'.tally scopeType scopeId currency now) (observed : Int) :
    SameVerdict (s.reportOf scopeType scopeId currency observed now) (s'.reportOf scopeType scopeId currency observed now) := by
  refine ⟨?_, ?_, ?_, ?_⟩ <;> simp only [reportOf, h]

theorem sameAmounts {sets : Dict String (List Int)} {d currency : String} {es es' : List CashLedgerEntry}
    (hsame : contributed sets d currency es = contributed sets d currency es') (now : Int) :
    ((submitted sets es).tally "device" d currency now).expected =
      ((submitted sets es').tally "device" d currency now).expected := by
  rw [tally_eq es, tally_eq es', hsame]

/-- Two ledgers with the same entries of the device in the currency give the same amounts for it, and the same verdict
on it if and only if its own entries have a duplicate, or an event id of theirs was used outside before it in both
ledgers or in neither. -/
theorem sameVerdict_iff (sets : Dict String (List Int)) (d currency : String) (observed now : Int)
    (es es' : List CashLedgerEntry) (hsame : contributed sets d currency es = contributed sets d currency es') :
    let r := ((submitted sets es).reconcile "device" d currency observed now).2
    let r' := ((submitted sets es').reconcile "device" d currency observed now).2
    (r.expectedBalance = r'.expectedBalance ∧ r.variance = r'.variance) ∧
    (SameVerdict r r' ↔ OwnDuplicate (contributed sets d currency es) ∨
      (ForeignReuse sets d currency es ↔ ForeignReuse sets d currency es')) := by
  have hdup := tally_duplicate sets d currency now es
  have hdup' := tally_duplicate sets d currency now es'
  rw [← hsame] at hdup'
  have hamounts := sameAmounts hsame now
  have hflags : SameVerdict ((submitted sets es).reportOf "device" d currency observed now)
        ((submitted sets es').reportOf "device" d currency observed now) ↔
      (((submitted sets es).tally "device" d currency now).duplicate = true ↔
        ((submitted sets es').tally "device" d currency now).duplicate = true) := by
    refine ⟨fun h => ?_, fun h => sameVerdict_of_tally ?_ observed⟩
    · rw [← mem_findings _ _ _ _ observed, ← mem_findings _ _ _ _ observed, h.findings]
    · rw [tally_eq es, tally_eq es', hsame, Bool.eq_iff_iff.mpr h]
  refine ⟨⟨hamounts, congrArg (observed - ·) hamounts⟩, hflags.trans ?_⟩
  rw [hdup, hdup']
  by_cases hown : OwnDuplicate (contributed sets d currency es)
  · simp [hown]
  · simp [hown]

/-- A sale of 10.00 on a device. -/
def sale (deviceId eventId : String) : CashLedgerEntry :=
  { eventType := "transaction", eventId, deviceId, currency := "KES", expectedBalance := 1000, observedBalance := 1000 }

/-- The other device uses the event id afterwards. -/
theorem sameVerdict_reused_later :
    SameVerdict ((submitted defaultSets [sale "dev-1" "txn-1", sale "dev-2" "txn-1"]).reconcile "device" "dev-1" "KES"
        1000 40000).2
      ((submitted defaultSets [sale "dev-1" "txn-1"]).reconcile "device" "dev-1" "KES" 1000 40000).2 := by
  have hsame : contributed defaultSets "dev-1" "KES" [sale "dev-1" "txn-1", sale "dev-2" "txn-1"] =
      contributed defaultSets "dev-1" "KES" [sale "dev-1" "txn-1"] := by
    decide +kernel
  -- nothing of another scope comes before the entry of the device
  have hnone : ∀ rest, rest.length ≤ 1 → ¬ ForeignReuse defaultSets "dev-1" "KES" (sale "dev-1" "txn-1" :: rest) := by
    rintro rest hrest ⟨before, e, after, hes, -, -, -, e', he', -, hm, -⟩
    rcases before with _ | ⟨a, _ | ⟨b, before⟩⟩
    · cases he'
    · obtain rfl := (List.cons.inj hes).1
      rw [List.mem_singleton.mp he'] at hm
      revert hm
      decide +kernel
    · have hlen := congrArg List.length hes
      simp only [List.length_cons, List.length_append] at hlen
      omega
  exact (sameVerdict_iff defaultSets "dev-1" "KES" 1000 40000 _ _ hsame).2.mpr
    (Or.inr (iff_of_false (hnone [sale "dev-2" "txn-1"] le_rfl) (hnone [] (by simp))))

/-- The other device uses the event id first: the verdict on the device is another one. -/
theorem verdict_changed : ¬ SameVerdict
    ((submitted defaultSets [sale "dev-2" "txn-1", sale "dev-1" "txn-1"]).reconcile "device" "dev-1" "KES" 1000 40000).2
    ((submitted defaultSets [sale "dev-1" "txn-1"]).reconcile "device" "dev-1" "KES" 1000 40000).2 := by
  intro h
  have hstatus := h.status
  revert hstatus
  decide +kernel

end Drawer.Cash.CashIntelligenceService
