import Drawer.Lib.Casts
import Drawer.Spec.CashAnomalies

/-! Searching for anomalies twice. A search reads nothing but the ledger, which it does not
change, and it does not ask what was found before: so it finds the same each time, and the
second time adds nothing only if the first did not. A forecast, too, reads the ledger alone. -/

namespace Drawer.Cash
open CashIntelligenceService
open Casts (int64_kept_iff)

variable {s : CashIntelligenceService} {scopeType scopeId : String} {now later : Int} {own : List CashLedgerEntry}

theorem found_ne_nil {created : List CashAnomaly} {entry : CashLedgerEntry} {type severity explanation : String} :
    s.found scopeType scopeId now created entry type severity explanation ≠ [] := by
  simp [found]

theorem found_eq_nil_iff {p : Prop} [Decidable p] {created : List CashAnomaly} {entry : CashLedgerEntry}
    {type severity explanation : String} :
    (if p then s.found scopeType scopeId now created entry type severity explanation else created) = [] ↔
      ¬ p ∧ created = [] := by
  split_ifs with h
  · simp [h, found_ne_nil]
  · simp [h]

/-! ### What is found -/

theorem foldl_scan_counts (s : CashIntelligenceService) (scopeType scopeId : String) (now : Int)
    (own : List CashLedgerEntry) :
    (own.foldl (s.scanEntry scopeType scopeId now) {}).smallShortages = own.countP smallShortage ∧
      (own.foldl (s.scanEntry scopeType scopeId now) {}).manualAdjustments = own.countP manualAdjustment ∧
      (own.foldl (s.scanEntry scopeType scopeId now) {}).cashOut = own.countP cashOut := by
  induction own using List.reverseRecOn with
  | nil => exact ⟨rfl, rfl, rfl⟩
  | append_singleton own e ih =>
    obtain ⟨hsmall, hmanual, hout⟩ := ih
    rw [List.foldl_append, List.foldl_cons, List.foldl_nil, List.countP_append, List.countP_append, List.countP_append,
      List.countP_singleton, List.countP_singleton, List.countP_singleton, ← hsmall, ← hmanual, ← hout]
    exact ⟨rfl, rfl, rfl⟩

theorem foldl_scan_created (own : List CashLedgerEntry) :
    (own.foldl (s.scanEntry scopeType scopeId now) {}).created = [] ↔
      (∀ e ∈ own, largeVariance e = false) ∧ ∀ e ∈ own, afterHours e = false := by
  induction own using List.reverseRecOn with
  | nil => simp
  | append_singleton own e ih =>
    rw [List.foldl_append, List.foldl_cons, List.foldl_nil, scanEntry]
    dsimp only
    rw [found_eq_nil_iff, found_eq_nil_iff, ih]
    simp only [List.mem_append, List.mem_singleton, or_imp, forall_and, forall_eq, Bool.not_eq_true]
    tauto

/-- The search finds nothing just if no rule does. -/
theorem anomaliesIn_eq_nil_iff :
    s.anomaliesIn scopeType scopeId now = [] ↔ Quiet (s.ledger.filter (scopeMatches scopeType scopeId)) := by
  obtain ⟨hsmall, hmanual, hout⟩ := foldl_scan_counts s scopeType scopeId now
    (s.ledger.filter (scopeMatches scopeType scopeId))
  unfold anomaliesIn scan
  dsimp only
  rw [found_eq_nil_iff, found_eq_nil_iff, found_eq_nil_iff, foldl_scan_created, hsmall, hmanual, hout, not_lt, not_lt,
    not_le]
  exact ⟨fun ⟨ho, ha, hs, hl, hh⟩ => ⟨hl, hh, hs, ha, ho⟩, fun h => ⟨h.outs, h.adjustments, h.shortages, h.large, h.hours⟩⟩

/-! ### What is recorded -/

theorem recordAnomaly_kept (scopeType scopeId : String) (now : Int) (s : CashIntelligenceService) (anomaly : CashAnomaly) :
    (recordAnomaly scopeType scopeId now s anomaly).ledger = s.ledger ∧
      (recordAnomaly scopeType scopeId now s anomaly).anomalies = s.anomalies ++ [anomaly] := by
  unfold recordAnomaly
  dsimp only
  split
  · exact ⟨rfl, rfl⟩
  · exact ⟨rfl, rfl⟩

theorem foldl_record (created : List CashAnomaly) (s : CashIntelligenceService) :
    (created.foldl (recordAnomaly scopeType scopeId now) s).ledger = s.ledger ∧
      (created.foldl (recordAnomaly scopeType scopeId now) s).anomalies = s.anomalies ++ created := by
  induction created generalizing s with
  | nil => exact ⟨rfl, (List.append_nil _).symm⟩
  | cons anomaly created ih =>
    obtain ⟨hledger, hanomalies⟩ := recordAnomaly_kept scopeType scopeId now s anomaly
    rw [List.foldl_cons, (ih _).1, (ih _).2, hledger, hanomalies, List.append_assoc, List.singleton_append]
    exact ⟨rfl, rfl⟩

theorem detectAnomalies_kept (s : CashIntelligenceService) :
    (s.detectAnomalies scopeType scopeId now).1.ledger = s.ledger ∧
      (s.detectAnomalies scopeType scopeId now).1.anomalies = s.anomalies ++ s.anomaliesIn scopeType scopeId now :=
  foldl_record _ s

theorem detectAnomalies_quiet (h : Quiet (s.ledger.filter (scopeMatches scopeType scopeId))) :
    (s.detectAnomalies scopeType scopeId now).1 = s := by
  unfold detectAnomalies
  rw [anomaliesIn_eq_nil_iff.mpr h]
  rfl

theorem foundOnce_iff (s : CashIntelligenceService) (scopeType scopeId : String) (now later : Int) :
    FoundOnce s scopeType scopeId now later ↔ Quiet (s.ledger.filter (scopeMatches scopeType scopeId)) := by
  constructor
  · rintro ⟨hsame, -, -⟩
    rw [(detectAnomalies_kept _).2, List.append_right_eq_self, anomaliesIn_eq_nil_iff, (detectAnomalies_kept s).1] at hsame
    exact hsame
  · intro h
    have hquiet : Quiet ((s.detectAnomalies scopeType scopeId now).1.ledger.filter (scopeMatches scopeType scopeId)) := by
      rwa [(detectAnomalies_kept s).1]
    unfold FoundOnce
    dsimp only
    rw [detectAnomalies_quiet hquiet]
    exact ⟨rfl, rfl, rfl⟩

/-- One large shortage, found twice: two anomalies, and a score of 50 after one of 75. -/
theorem shortage_found_twice :
    ¬ ∀ (s : CashIntelligenceService) (scopeType scopeId : String) (now later : Int),
      FoundOnce s scopeType scopeId now later := by
  intro h
  have hscore := (h { ledger := [{ deviceId := "dev-1", variance := -20000 }] } "device" "dev-1" 100 200).2.2
  exact absurd (congrArg CashHealthScore.score hscore) (by decide +kernel)

/-! ### Forecasts -/

/-- What an entry says the cash has changed by. -/
def CashLedgerEntry.change (e : CashLedgerEntry) : Int := e.observedBalance - e.expectedBalance

def times (own : List CashLedgerEntry) : Set Int := {t | ∃ e ∈ own, e.occurredAtEpoch = t}

/-- What the loop has gathered of the entries so far. -/
structure Gathered (own : List CashLedgerEntry) (t : Movement) : Prop where
  net : t.net = Int64.ofInt (own.map CashLedgerEntry.change).sum
  count : t.count = Int32.ofNat own.length
  latest : ∀ e, own.getLast? = some e → t.latestObserved = Int64.ofInt e.observedBalance
  first : own = [] ∧ t.firstTime = 0 ∨ IsLeast (times own) t.firstTime.toInt
  last : own = [] ∧ t.lastTime = 0 ∨ IsGreatest (times own) t.lastTime.toInt

variable {own : List CashLedgerEntry} {t : Movement} {e : CashLedgerEntry}

theorem times_concat : times (own ++ [e]) = insert e.occurredAtEpoch (times own) := by
  ext x
  simp only [times, List.mem_append, List.mem_singleton, Set.mem_ofPred_eq, Set.mem_insert_iff]
  constructor
  · rintro ⟨e', he' | rfl, rfl⟩
    · exact Or.inr ⟨e', he', rfl⟩
    · exact Or.inl rfl
  · rintro (rfl | ⟨e', he', rfl⟩)
    · exact ⟨e, Or.inr rfl, rfl⟩
    · exact ⟨e', Or.inl he', rfl⟩

theorem isLeast_times_singleton : IsLeast (times ([] ++ [e])) e.occurredAtEpoch := by
  rw [times_concat]
  refine ⟨Set.mem_insert _ _, ?_⟩
  rintro x (rfl | ⟨_, hnil, _⟩)
  · exact le_rfl
  · cases hnil

theorem isGreatest_times_singleton : IsGreatest (times ([] ++ [e])) e.occurredAtEpoch := by
  rw [times_concat]
  refine ⟨Set.mem_insert _ _, ?_⟩
  rintro x (rfl | ⟨_, hnil, _⟩)
  · exact le_rfl
  · cases hnil

theorem Gathered.add (h : Gathered own t) (hown : ∀ x ∈ own, 0 < x.occurredAtEpoch) (he : 0 < e.occurredAtEpoch)
    (hlong : IsLong e.occurredAtEpoch) : Gathered (own ++ [e]) (t.add e) := by
  have htime : (Int64.ofInt e.occurredAtEpoch).toInt = e.occurredAtEpoch := (int64_kept_iff _).mpr hlong
  refine ⟨?_, ?_, fun e' he' => ?_, Or.inr ?_, Or.inr ?_⟩
  · rw [List.map_append, List.sum_append, Int64.ofInt_add, ← h.net]
    simp [Movement.add, CashLedgerEntry.change]
  · rw [List.length_append, Int32.ofNat_add, ← h.count]
    rfl
  · rw [List.getLast?_concat] at he'
    rw [← Option.some.inj he']
    rfl
  · rcases h.first with ⟨rfl, hzero⟩ | hleast
    · rw [Movement.add, hzero, if_pos (Or.inl rfl), htime]
      exact isLeast_times_singleton
    · obtain ⟨x, hx, hxt⟩ := hleast.1
      have hpos : 0 < t.firstTime.toInt := hxt ▸ hown x hx
      have hmin : (t.add e).firstTime.toInt = min e.occurredAtEpoch t.firstTime.toInt := by
        have hne : t.firstTime ≠ 0 := fun hzero => by simp [hzero] at hpos
        simp only [Movement.add, hne, false_or, Int64.lt_iff_toInt_lt, htime]
        split_ifs <;> omega
      rw [times_concat, hmin]
      exact hleast.insert _
  · rcases h.last with ⟨rfl, hzero⟩ | hgreatest
    · have hpos : (0 : Int64) < Int64.ofInt e.occurredAtEpoch := by
        rw [Int64.lt_iff_toInt_lt, htime]
        exact he
      rw [Movement.add, hzero, if_pos hpos, htime]
      exact isGreatest_times_singleton
    · have hmax : (t.add e).lastTime.toInt = max e.occurredAtEpoch t.lastTime.toInt := by
        simp only [Movement.add, Int64.lt_iff_toInt_lt, htime]
        split_ifs <;> omega
      rw [times_concat, hmax]
      exact hgreatest.insert _

theorem gathered_foldl (hown : ∀ x ∈ own, 0 < x.occurredAtEpoch) (hlong : ∀ x ∈ own, IsLong x.occurredAtEpoch) :
    Gathered own (own.foldl Movement.add {}) := by
  induction own using List.reverseRecOn with
  | nil => exact ⟨rfl, rfl, fun _ h => (nomatch h), Or.inl ⟨rfl, rfl⟩, Or.inl ⟨rfl, rfl⟩⟩
  | append_singleton own e ih =>
    obtain ⟨hbefore, he⟩ := List.forall_mem_append.mp hown
    obtain ⟨hbefore', he'⟩ := List.forall_mem_append.mp hlong
    rw [List.foldl_append]
    exact (ih hbefore hbefore').add hbefore (he e List.mem_cons_self) (he' e List.mem_cons_self)

/-! ### What is computed in `long`s -/

theorem toInt_max (a b : Int64) : (max a b).toInt = max a.toInt b.toInt := by
  rw [show max a b = if a ≤ b then b else a from rfl]
  simp only [Int64.le_iff_toInt_le]
  split_ifs <;> omega

theorem toInt_add_const {a : Int64} {n : Int} (h : IsLong (a.toInt + n)) : (a + Int64.ofInt n).toInt = a.toInt + n := by
  have hsum : a + Int64.ofInt n = Int64.ofInt (a.toInt + n) := by rw [Int64.ofInt_add, Int64.ofInt_toInt]
  rw [hsum]
  exact (int64_kept_iff _).mpr h

theorem toInt_sub_const {a : Int64} {n : Int} (h : IsLong (a.toInt - n)) : (a - Int64.ofInt n).toInt = a.toInt - n := by
  have hdifference : a - Int64.ofInt n = Int64.ofInt (a.toInt - n) := by rw [Int64.ofInt_sub, Int64.ofInt_toInt]
  rw [hdifference]
  exact (int64_kept_iff _).mpr h

theorem toInt_div_of_pos (a : Int64) {b : Int64} (hb : 0 < b.toInt) : (a / b).toInt = a.toInt.tdiv b.toInt := by
  refine Int64.toInt_div_of_ne_right a b fun heq => ?_
  rw [heq] at hb
  exact absurd hb (by decide)

theorem Movement.toInt_elapsedHours (hlong : IsLong (t.lastTime.toInt - t.firstTime.toInt)) :
    t.elapsedHours.toInt = max 1 ((t.lastTime.toInt - t.firstTime.toInt).tdiv 3600) := by
  have hspan : (t.lastTime - t.firstTime).toInt = t.lastTime.toInt - t.firstTime.toInt := by
    rw [Int64.toInt_sub]
    exact Int.bmod_eq_of_le (by unfold IsLong at hlong; omega) (by unfold IsLong at hlong; omega)
  rw [elapsedHours, toInt_max, toInt_div_of_pos _ (by decide), hspan]
  rfl

/-- The rate of a loss. -/
theorem Movement.toInt_rate {net hours : Int} (hpos : 0 < hours) (hloss : hours ≤ -net)
    (hchange : t.hourlyChange.toInt = net.tdiv hours) (hlong : IsLong (-net / hours)) :
    (max 1 (-t.hourlyChange)).toInt = -net / hours := by
  have hneg : (-t.hourlyChange).toInt = -net / hours := by
    rw [Int64.toInt_neg, hchange, Casts.neg_tdiv_of_le hpos hloss]
    exact Int.bmod_eq_of_le (by unfold IsLong at hlong; omega) (by unfold IsLong at hlong; omega)
  rw [toInt_max, hneg]
  exact max_eq_right ((Int.le_ediv_iff_mul_le hpos).mpr ((one_mul hours).trans_le hloss))

/-- The last full hour that the cash lasts. -/
theorem Movement.toInt_depletion {latest rate : Int} {now loss : Int64} (hlatest : t.latestObserved.toInt = latest)
    (hloss : loss.toInt = rate) (hcash : 0 ≤ latest) (hrate : 0 < rate) (hlong : IsLong (now.toInt + latest / rate * 3600)) :
    (now + t.latestObserved / loss * 3600).toInt = now.toInt + latest / rate * 3600 := by
  have hquotient : (t.latestObserved / loss).toInt = latest / rate := by
    rw [toInt_div_of_pos _ (hloss ▸ hrate), hloss, hlatest, Int.tdiv_eq_ediv_of_nonneg hcash]
  have hproduct : t.latestObserved / loss * 3600 = Int64.ofInt (latest / rate * 3600) := by
    rw [← hquotient, Int64.ofInt_mul, Int64.ofInt_toInt]
    rfl
  rw [hproduct, toInt_add_const hlong]

/-- The forecast from a movement. -/
theorem Movement.foretells {latest net hours : Int} (ht : t.count ≠ 0) (hnet : t.net.toInt = net)
    (hlatest : t.latestObserved.toInt = latest) (hhours : t.elapsedHours.toInt = hours) (hpos : 0 < hours) {now : Int64}
    (hfits : WithinLong own latest net hours now.toInt) : Foretells latest net hours now.toInt (t.forecast now) := by
  have hchange : t.hourlyChange.toInt = net.tdiv hours := by
    rw [hourlyChange, if_neg ht, toInt_div_of_pos _ (hhours ▸ hpos), hnet, hhours]
  have hzero : Int64.toInt 0 = 0 := rfl
  have hday : (24 * 3600 : Int64) = Int64.ofInt 86400 := by decide
  have hhalf : (12 * 3600 : Int64) = Int64.ofInt 43200 := by decide
  unfold Movement.forecast
  rw [hday, hhalf]
  simp only [Int64.lt_iff_toInt_lt, hzero, hlatest, hchange, Casts.tdiv_neg_iff hpos, Casts.tdiv_pos_iff hpos]
  by_cases hloss : hours ≤ -net ∧ 0 < latest
  · obtain ⟨hlong, hlong', hlong''⟩ := hfits.loss hloss.1 hloss.2
    have hrate : 0 < -net / hours :=
      one_pos.trans_le ((Int.le_ediv_iff_mul_le hpos).mpr ((one_mul hours).trans_le hloss.1))
    have hdepletion := toInt_depletion hlatest (toInt_rate hpos hloss.1 hchange hlong) hloss.2.le hrate hlong'
    have hearlier : (now + t.latestObserved / max 1 (-t.hourlyChange) * 3600 - Int64.ofInt 43200).toInt =
        now.toInt + latest / (-net / hours) * 3600 - 43200 := by
      rw [← hdepletion] at hlong'' ⊢
      exact toInt_sub_const hlong''
    have hleft : 0 ≤ latest / (-net / hours) := Int.ediv_nonneg hloss.2.le hrate.le
    rw [if_pos hloss]
    simp only [toInt_max, hdepletion, hearlier]
    refine ⟨by simp [hloss], fun _ _ => ⟨(latest / (-net / hours)).toNat, ?_, ?_, ?_⟩, fun _ _ => ?_, ?_⟩
    · rw [Int.toNat_of_nonneg hleft]
    · rw [Int.toNat_of_nonneg hleft]
      exact Int.ediv_mul_le _ hrate.ne'
    · rw [Int.toNat_of_nonneg hleft]
      exact Int.lt_ediv_add_one_mul_self _ hrate
    · dsimp only
      omega
    · have hno : ¬ hours ≤ net := by omega
      rw [if_neg hno]
  · rw [if_neg hloss]
    refine ⟨?_, fun h h' => absurd ⟨h, h'⟩ hloss, fun h h' => absurd ⟨h, h'⟩ hloss, ?_⟩
    · split_ifs <;> simp [hloss]
    · by_cases hgain : hours ≤ net
      · have hlong := hfits.gain hgain
        rw [if_pos hgain, if_pos hgain]
        dsimp only
        rw [toInt_add_const hlong]
      · rw [if_neg hgain, if_neg hgain]

/-- A forecast foretells what the entries of the scope and the currency say of the time between the first and the last of
them, as long as no number in it leaves the 64 bits; what it takes for the present cash is what the entry entered last has
found. -/
theorem forecast_right (s : CashIntelligenceService) {scopeType scopeId currency : String} {own : List CashLedgerEntry}
    (hown : s.ledger.filter (matching scopeType scopeId currency) = own) (htimes : ∀ x ∈ own, 0 < x.occurredAtEpoch)
    {e : CashLedgerEntry} (he : own.getLast? = some e) {first last : Int} (hfirst : IsLeast (times own) first)
    (hlast : IsGreatest (times own) last) (now : Int64)
    (hfits : WithinLong own e.observedBalance (own.map CashLedgerEntry.change).sum (max 1 ((last - first) / 3600)) now.toInt)
    (made : List CashForecast) :
    Foretells e.observedBalance (own.map CashLedgerEntry.change).sum (max 1 ((last - first) / 3600)) now.toInt
      (s.forecast made scopeType scopeId currency now).2.2 := by
  have hgathered := gathered_foldl htimes fun x hx => (hfits.entries x hx).2
  have hmem : e ∈ own := List.mem_of_getLast? he
  have hne : own ≠ [] := List.ne_nil_of_mem hmem
  have hmovement : s.movement scopeType scopeId currency = own.foldl Movement.add {} := by rw [movement, hown]
  have hcount : (own.foldl Movement.add {}).count ≠ 0 := by
    rw [hgathered.count]
    intro hzero
    have hval := congrArg Int32.toInt hzero
    rw [Int32.toInt_ofNat_of_lt hfits.many, Int32.toInt_zero] at hval
    exact hne (List.length_eq_zero_iff.mp (by exact_mod_cast hval))
  have hlong : IsLong (last - first) := by
    obtain ⟨x, hx, rfl⟩ := hfirst.1
    obtain ⟨y, hy, rfl⟩ := hlast.1
    have hpos := htimes x hx
    have hle := hfirst.2 ⟨y, hy, rfl⟩
    have hy' := (hfits.entries y hy).2
    unfold IsLong at hy' ⊢
    omega
  have hhours : (own.foldl Movement.add {}).elapsedHours.toInt = max 1 ((last - first) / 3600) := by
    have hfirst' := (hgathered.first.resolve_left fun h => hne h.1).unique hfirst
    have hlast' := (hgathered.last.resolve_left fun h => hne h.1).unique hlast
    rw [Movement.toInt_elapsedHours (by rwa [hfirst', hlast']), hfirst', hlast',
      Int.tdiv_eq_ediv_of_nonneg (sub_nonneg.mpr (hfirst.2 hlast.1))]
  have hnet : (own.foldl Movement.add {}).net.toInt = (own.map CashLedgerEntry.change).sum := by
    rw [hgathered.net]
    exact (int64_kept_iff _).mpr hfits.change
  have hlatest : (own.foldl Movement.add {}).latestObserved.toInt = e.observedBalance := by
    rw [hgathered.latest e he]
    exact (int64_kept_iff _).mpr (hfits.entries e hmem).1
  have hforetells := Movement.foretells hcount hnet hlatest hhours (by omega) hfits
  unfold CashIntelligenceService.forecast
  rw [hmovement]
  exact ⟨hforetells.shortage, hforetells.depletion, hforetells.replenishment, hforetells.surplus⟩

def sampleEntry (currency : String) (expected observed occurredAt : Int) : CashLedgerEntry :=
  { deviceId := "REG-01", currency, expectedBalance := expected, observedBalance := observed, occurredAtEpoch := occurredAt }

/-- A hundred are missing each time, and twice in the two hours. -/
def sampleLedger : CashIntelligenceService :=
  { ledger := [sampleEntry "USD" 1000 900 10800, sampleEntry "KES" 0 5000 7200, sampleEntry "USD" 800 700 3600] }

theorem forecast_right_sample : Foretells 700 (-200) 2 20000 (sampleLedger.forecast [] "device" "REG-01" "USD" 20000).2.2 ∧
    (sampleLedger.forecast [] "device" "REG-01" "USD" 20000).2.2.expectedDepletionEpoch = 20000 + 7 * 3600 := by
  have hown : sampleLedger.ledger.filter (matching "device" "REG-01" "USD") =
      [sampleEntry "USD" 1000 900 10800, sampleEntry "USD" 800 700 3600] := by decide +kernel
  have hfirst : IsLeast (times [sampleEntry "USD" 1000 900 10800, sampleEntry "USD" 800 700 3600]) 3600 := by
    refine ⟨⟨_, List.mem_cons_of_mem _ List.mem_cons_self, rfl⟩, ?_⟩
    rintro _ ⟨x, hx, rfl⟩
    revert x
    decide
  have hlast : IsGreatest (times [sampleEntry "USD" 1000 900 10800, sampleEntry "USD" 800 700 3600]) 10800 := by
    refine ⟨⟨_, List.mem_cons_self, rfl⟩, ?_⟩
    rintro _ ⟨x, hx, rfl⟩
    revert x
    decide
  have hfits : WithinLong [sampleEntry "USD" 1000 900 10800, sampleEntry "USD" 800 700 3600] 700 (-200) 2
      (Int64.toInt 20000) := ⟨by decide, by decide, by decide, fun _ _ => by decide, fun _ => by decide⟩
  exact ⟨forecast_right sampleLedger hown (by decide) rfl hfirst hlast 20000 hfits [], by decide +kernel⟩

end Drawer.Cash
