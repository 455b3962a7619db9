import Drawer.Lib.Casts
import Drawer.Spec.Denominations

/-! The drift of two breakdowns and what is in them. The drift goes by the keys as they are
spelled and adds up in an `int`; the contents go by the values that the keys are read as. So
the two agree unless a value is spelled in two ways, or the sum comes around to zero. -/

namespace Drawer.Cash
open CashIntelligenceService Text

variable {sets : Dict String (List Int)} {currency : String} {b expected observed : Breakdown}

/-! ### What is validated -/

theorem mem_pairs {item : Bytes × Int32} : item ∈ b.pairs ↔ b.lookup item.1 = some item.2 := by
  rw [Breakdown.pairs, List.mem_map, ← Option.mem_def, AList.mem_lookup_iff]
  constructor
  · rintro ⟨e, he, rfl⟩
    exact he
  · exact fun h => ⟨⟨item.1, item.2⟩, h, rfl⟩

theorem pair_ok {item : Bytes × Int32} (h : validateDenominations sets currency b.pairs = true) (hitem : item ∈ b.pairs) :
    (∃ value, stoi item.1 = .ok value) ∧ 0 ≤ item.2.toInt := by
  unfold validateDenominations at h
  have hok := List.all_eq_true.mp (Bool.and_eq_true_iff.mp h).2 item hitem
  unfold denominationOk at hok
  cases hread : stoi item.1 with
  | error x => simp [hread] at hok
  | ok value =>
    rw [hread] at hok
    have hneg : ¬ item.2 < 0 := by simpa using (Bool.and_eq_true_iff.mp hok).1
    exact ⟨⟨value, rfl⟩, not_lt.mp fun hlt => hneg (Int32.lt_iff_toInt_lt.mpr hlt)⟩

theorem quantity_nonneg (h : validateDenominations sets currency b.pairs = true) (key : Bytes) :
    0 ≤ (b.quantity key).toInt := by
  unfold Breakdown.quantity
  cases hq : b.lookup key with
  | none => exact le_rfl
  | some q => exact (pair_ok h (mem_pairs.mpr hq : (key, q) ∈ b.pairs)).2

/-! ### The drift -/

/-- The drift is the distance, cut down to an `int`. -/
theorem denominationDrift_eq (s : CashIntelligenceService)
    (he : validateDenominations s.denominationSets currency expected.pairs = true)
    (ho : validateDenominations s.denominationSets currency observed.pairs = true) :
    s.denominationDrift currency expected observed = Int32.ofInt (distance expected observed) := by
  have hfold : ∀ (keys : List Bytes) (n : ℕ),
      keys.foldl (fun drift key => drift + (expected.quantity key - observed.quantity key).abs) (Int32.ofInt n) =
        Int32.ofInt (n + (keys.map fun key =>
          ((expected.quantity key).toInt - (observed.quantity key).toInt).natAbs).sum : ℕ) := by
    intro keys
    induction keys with
    | nil => exact fun n => rfl
    | cons key keys ih =>
      intro n
      have habs := Casts.int32_abs_sub (quantity_nonneg he key) (quantity_nonneg ho key)
      have hadd : Int32.ofInt n + (expected.quantity key - observed.quantity key).abs =
          Int32.ofInt (n + ((expected.quantity key).toInt - (observed.quantity key).toInt).natAbs : ℕ) := by
        rw [Nat.cast_add, Int32.ofInt_add, ← habs, Int32.ofInt_toInt]
      rw [List.foldl_cons, hadd, ih, List.map_cons, List.sum_cons, Nat.add_assoc]
  unfold denominationDrift distance
  rw [he, ho]
  exact (hfold _ 0).trans (by rw [Nat.zero_add])

theorem drift_eq_zero_iff (s : CashIntelligenceService)
    (he : validateDenominations s.denominationSets currency expected.pairs = true)
    (ho : validateDenominations s.denominationSets currency observed.pairs = true) :
    s.denominationDrift currency expected observed = 0 ↔ 4294967296 ∣ distance expected observed := by
  rw [denominationDrift_eq s he ho, Casts.int32_eq_zero_iff]
  omega

theorem distance_eq_zero_iff : distance expected observed = 0 ↔ SameQuantities expected observed := by
  unfold distance SameQuantities
  rw [List.sum_eq_zero_iff]
  simp only [List.mem_map, forall_exists_index, and_imp, forall_apply_eq_imp_iff₂, Int.natAbs_eq_zero, sub_eq_zero,
    Int32.toInt_inj]
  refine ⟨fun h key => ?_, fun h key _ => h key⟩
  by_cases hkey : key ∈ driftKeys expected observed
  · exact h key hkey
  · simp only [driftKeys, List.mem_dedup, List.mem_append, not_or] at hkey
    rw [Breakdown.quantity, Breakdown.quantity, AList.lookup_eq_none.mpr hkey.1, AList.lookup_eq_none.mpr hkey.2]

/-! ### The contents -/

theorem sum_filter_map {α : Type} (p : α → Bool) (f : α → Int) (l : List α) :
    ((l.filter p).map f).sum = (l.map fun a => if p a then f a else 0).sum := by
  induction l with
  | nil => rfl
  | cons a l ih =>
    by_cases ha : p a = true
    · rw [List.filter_cons_of_pos ha, List.map_cons, List.sum_cons, List.map_cons, List.sum_cons, ih, if_pos ha]
    · rw [List.filter_cons_of_neg ha, List.map_cons, List.sum_cons, ih, if_neg ha, zero_add]

theorem pieces_eq {keys : Finset Bytes} (h : ∀ key ∈ b.keys, key ∈ keys) (value : Int) :
    pieces value b = ∑ key ∈ keys, if stoi key = .ok value then (b.quantity key).toInt else 0 := by
  have hkeys : ∑ key ∈ keys, (if stoi key = .ok value then (b.quantity key).toInt else 0) =
      ∑ key ∈ b.keys.toFinset, if stoi key = .ok value then (b.quantity key).toInt else 0 := by
    refine (Finset.sum_subset (fun key hkey => h key (List.mem_toFinset.mp hkey)) fun key _ hkey => ?_).symm
    have hnone : b.lookup key = none := AList.lookup_eq_none.mpr fun hmem => hkey (List.mem_toFinset.mpr hmem)
    rw [Breakdown.quantity, hnone]
    exact ite_self 0
  rw [hkeys, List.sum_toFinset _ (AList.keys_nodup b), pieces, sum_filter_map, Breakdown.pairs, AList.keys, List.keys,
    List.map_map, List.map_map]
  refine congrArg List.sum (List.map_congr_left fun e he => ?_)
  have hq : b.lookup e.1 = some e.2 := AList.mem_lookup_iff.mpr he
  simp only [Function.comp_apply, decide_eq_true_eq, Breakdown.quantity, hq, Option.getD_some]

theorem SameQuantities.content (h : SameQuantities expected observed) : SameContent expected observed := by
  intro value
  have hboth : ∀ key, key ∈ expected.keys ∨ key ∈ observed.keys → key ∈ (driftKeys expected observed).toFinset := by
    intro key hkey
    rw [List.mem_toFinset, driftKeys, List.mem_dedup, List.mem_append]
    exact hkey
  rw [pieces_eq (fun key hkey => hboth key (Or.inl hkey)), pieces_eq (fun key hkey => hboth key (Or.inr hkey))]
  simp only [h _]

/-! ### The value -/

def valueOf (key : Bytes) : Int :=
  match stoi key with
  | .error _ => 0
  | .ok value => value

theorem valueLoop_eq {l : DenominationBreakdown} (h : ∀ item ∈ l, ∃ value, stoi item.1 = .ok value) (total : Int64) :
    valueLoop l total = total + Int64.ofInt (l.map fun item => valueOf item.1 * item.2.toInt).sum := by
  induction l generalizing total with
  | nil => exact (Int64.add_zero total).symm
  | cons item l ih =>
    obtain ⟨value, hread⟩ := h item List.mem_cons_self
    have hval : valueOf item.1 = value := by rw [valueOf, hread]
    have hqty : item.2.toInt64 = Int64.ofInt item.2.toInt := by
      rw [← Int64.toInt_inj, Int32.toInt_toInt64]
      have hle := item.2.le_toInt
      have hlt := item.2.toInt_lt
      exact ((Casts.int64_kept_iff _).mpr (by omega)).symm
    rw [valueLoop, hread]
    dsimp only
    rw [ih (fun item' hitem => h item' (List.mem_cons_of_mem item hitem)), List.map_cons, List.sum_cons, hval,
      Int64.ofInt_add, Int64.ofInt_mul, hqty, Int64.add_assoc]

/-- A sum of multiples of some values, gathered by value. -/
theorem sum_by_value (l : List (Int × Int)) (values : Finset Int) (h : ∀ p ∈ l, p.1 ∈ values) :
    (l.map fun p => p.1 * p.2).sum =
      ∑ value ∈ values, value * ((l.filter fun p => decide (p.1 = value)).map Prod.snd).sum := by
  induction l with
  | nil => simp
  | cons p l ih =>
    have hp := h p List.mem_cons_self
    have hgather : ∀ value, value * (((p :: l).filter fun p => decide (p.1 = value)).map Prod.snd).sum =
        (if p.1 = value then value * p.2 else 0) +
          value * ((l.filter fun p => decide (p.1 = value)).map Prod.snd).sum := by
      intro value
      by_cases hval : p.1 = value
      · rw [List.filter_cons_of_pos (by simpa using hval), List.map_cons, List.sum_cons, if_pos hval, mul_add]
      · rw [List.filter_cons_of_neg (by simpa using hval), if_neg hval, zero_add]
    rw [List.map_cons, List.sum_cons, ih fun q hq => h q (List.mem_cons_of_mem p hq),
      Finset.sum_congr rfl fun value _ => hgather value, Finset.sum_add_distrib, Finset.sum_ite_eq, if_pos hp]

theorem denominationValue_eq (h : validateDenominations sets currency b.pairs = true) {values : Finset Int}
    (hvalues : ∀ item ∈ b.pairs, valueOf item.1 ∈ values) :
    denominationValue b = Int64.ofInt (∑ value ∈ values, value * pieces value b) := by
  have hread : ∀ item ∈ b.pairs, ∃ value, stoi item.1 = .ok value := fun item hitem => (pair_ok h hitem).1
  have hsum := sum_by_value (b.pairs.map fun item => (valueOf item.1, item.2.toInt)) values fun p hp => by
    obtain ⟨item, hitem, rfl⟩ := List.mem_map.mp hp
    exact hvalues item hitem
  have hpieces : ∀ value, pieces value b = (((b.pairs.map fun item => (valueOf item.1, item.2.toInt)).filter fun p =>
      decide (p.1 = value)).map Prod.snd).sum := by
    intro value
    rw [pieces, List.filter_map, List.map_map]
    refine congrArg (fun l => (List.map (fun item : Bytes × Int32 => item.2.toInt) l).sum)
      (List.filter_congr fun item hitem => ?_)
    obtain ⟨v, hv⟩ := hread item hitem
    simp [valueOf, hv]
  rw [denominationValue, valueLoop_eq hread, Int64.zero_add]
  refine congrArg Int64.ofInt ?_
  rw [List.map_map] at hsum
  simp only [hpieces]
  exact hsum

theorem SameContent.value (h : SameContent expected observed)
    (he : validateDenominations sets currency expected.pairs = true)
    (ho : validateDenominations sets currency observed.pairs = true) :
    denominationValue expected = denominationValue observed := by
  have hmem : ∀ item, item ∈ expected.pairs ∨ item ∈ observed.pairs →
      valueOf item.1 ∈ ((expected.pairs ++ observed.pairs).map fun item => valueOf item.1).toFinset := by
    intro item hitem
    rw [List.mem_toFinset]
    exact List.mem_map.mpr ⟨item, List.mem_append.mpr hitem, rfl⟩
  rw [denominationValue_eq he fun item hitem => hmem item (Or.inl hitem),
    denominationValue_eq ho fun item hitem => hmem item (Or.inr hitem)]
  simp only [h _]

/-! ### What the drift measures -/

/-- The differences add up to `0` in an `int`, though they are not `0`. -/
def Wraps (expected observed : Breakdown) : Prop :=
  distance expected observed ≠ 0 ∧ 4294967296 ∣ distance expected observed

/-- No drift just for the same contents, and then for the same value. -/
def Measures (s : CashIntelligenceService) (currency : String) (expected observed : Breakdown) : Prop :=
  (s.denominationDrift currency expected observed = 0 ↔ SameContent expected observed) ∧
    (s.denominationDrift currency expected observed = 0 → denominationValue expected = denominationValue observed)

theorem drift_measures_iff (s : CashIntelligenceService) (currency : String) (expected observed : Breakdown)
    (he : validateDenominations s.denominationSets currency expected.pairs = true)
    (ho : validateDenominations s.denominationSets currency observed.pairs = true) :
    Measures s currency expected observed ↔
      (¬ Wraps expected observed ∧ (SameContent expected observed → SameQuantities expected observed)) ∨
        (Wraps expected observed ∧ SameContent expected observed) := by
  have hvalue := fun h : SameContent expected observed => h.value he ho
  rw [Measures, Wraps, drift_eq_zero_iff s he ho, ← distance_eq_zero_iff]
  have hcontent := fun h : distance expected observed = 0 => (distance_eq_zero_iff.mp h).content
  have hdvd : distance expected observed = 0 → 4294967296 ∣ distance expected observed := fun h => h ▸ dvd_zero _
  tauto

/-- Three coins of a value against two of it and one of another. -/
theorem drift_measures_coins :
    Measures { denominationSets := defaultSets } "USD" (AList.insert (ascii "25") 3 ∅)
      (AList.insert (ascii "25") 2 (AList.insert (ascii "10") 1 ∅)) := by
  refine (drift_measures_iff { denominationSets := defaultSets } "USD" (AList.insert (ascii "25") 3 ∅)
    (AList.insert (ascii "25") 2 (AList.insert (ascii "10") 1 ∅)) (by decide +kernel) (by decide +kernel)).mpr
    (Or.inl ⟨by unfold Wraps; decide +kernel, fun h => ?_⟩)
  exact absurd (h 25) (by decide +kernel)

/-- One coin, and the same coin with a zero before its value. -/
theorem respelled_drifts :
    ¬ ∀ (s : CashIntelligenceService) (currency : String) (expected observed : Breakdown),
      validateDenominations s.denominationSets currency expected.pairs = true →
      validateDenominations s.denominationSets currency observed.pairs = true →
      Measures s currency expected observed := by
  intro h
  have hiff := (h { denominationSets := defaultSets } "USD" (AList.insert (ascii "5") 1 ∅) (AList.insert (ascii "05") 1 ∅)
    (by decide +kernel) (by decide +kernel)).1
  have hdrift : CashIntelligenceService.denominationDrift { denominationSets := defaultSets } "USD"
      (AList.insert (ascii "5") 1 ∅) (AList.insert (ascii "05") 1 ∅) ≠ 0 := by decide +kernel
  refine hdrift (hiff.mpr fun value => ?_)
  by_cases hvalue : value = 5
  · subst hvalue
    decide +kernel
  · have hfive : stoi (ascii "5") = .ok 5 := by decide +kernel
    have hfive' : stoi (ascii "05") = .ok 5 := by decide +kernel
    simp [pieces, Breakdown.pairs, hfive, hfive', Ne.symm hvalue]

end Drawer.Cash
