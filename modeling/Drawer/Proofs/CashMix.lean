import Drawer.Lib.Casts
import Drawer.Spec.Denominations

/-! The mix recommended for a balance. It is greedy, the greatest denomination first, and a
quotient is cut down to an `int`: where the first one fits, each step leaves less than its
denomination and the next quotient fits as well; where it does not, every later one is too
great in turn. -/

namespace Drawer.Cash
open CashIntelligenceService Text

/-! ### One step -/

theorem toInt_toInt64_pos {d : Int32} (h : 0 < d) : 0 < d.toInt ∧ d.toInt ≤ 2147483647 := by
  have hpos := Int32.lt_iff_toInt_lt.mp h
  have hlt := d.toInt_lt
  exact ⟨hpos, by omega⟩

theorem quotient_toInt {r : Int64} {d : Int32} (hr : 0 ≤ r.toInt) (hd : 0 < d) :
    (r / d.toInt64).toInt = r.toInt / d.toInt := by
  have hd' := toInt_toInt64_pos hd
  have hne : d.toInt64 ≠ -1 := by
    intro h
    have := congrArg Int64.toInt h
    rw [Int32.toInt_toInt64] at this
    have hval : Int64.toInt (-1) = -1 := rfl
    omega
  rw [Int64.toInt_div_of_ne_right _ _ hne, Int32.toInt_toInt64, Int.tdiv_eq_ediv_of_nonneg hr]

theorem cut_quotient {r : Int64} {d : Int32} (hr : 0 ≤ r.toInt) (hd : 0 < d) :
    ((r / d.toInt64).toInt32).toInt = (r.toInt / d.toInt).bmod 4294967296 := by
  rw [Int64.toInt_toInt32, quotient_toInt hr hd]

theorem toInt_remainder {r : Int64} {qty d : Int32} (hlow : 0 ≤ qty.toInt * d.toInt) (hhigh : qty.toInt * d.toInt ≤ r.toInt) :
    (r - qty.toInt64 * d.toInt64).toInt = r.toInt - qty.toInt * d.toInt := by
  have hle := r.toInt_lt
  rw [Int64.toInt_sub, Int64.toInt_mul, Int32.toInt_toInt64, Int32.toInt_toInt64]
  have hprod : (qty.toInt * d.toInt).bmod (2 ^ 64) = qty.toInt * d.toInt := Int.bmod_eq_of_le (by omega) (by omega)
  rw [hprod]
  exact Int.bmod_eq_of_le (by omega) (by omega)

/-- What a step adds to the mix: nothing, if the quotient is cut to no positive number. -/
def taken (r : Int64) (d : Int32) : Int :=
  if 0 < (r / d.toInt64).toInt32 then ((r / d.toInt64).toInt32).toInt else 0

theorem taken_spec {r : Int64} {d : Int32} (hr : 0 ≤ r.toInt) (hd : 0 < d) :
    0 ≤ taken r d ∧ taken r d ≤ r.toInt / d.toInt ∧
      (r.toInt / d.toInt ≤ 2147483647 → taken r d = r.toInt / d.toInt) ∧
      (2147483647 < r.toInt / d.toInt → taken r d + 2147483648 ≤ r.toInt / d.toInt) := by
  have hd' := toInt_toInt64_pos hd
  have hq : 0 ≤ r.toInt / d.toInt := Int.ediv_nonneg hr hd'.1.le
  have hcut := cut_quotient hr hd
  have hmod := Int.bmod_def (r.toInt / d.toInt) 4294967296
  unfold taken
  simp only [Int32.lt_iff_toInt_lt, hcut, Int32.toInt_zero]
  split_ifs at hmod ⊢ <;> omega

theorem mixStep_eq {r : Int64} (mix : Breakdown) {d : Int32} (hr : 0 ≤ r.toInt) (hd : 0 < d) :
    ∃ r' mix', mixStep (r, mix) d = some (r', mix') ∧ r'.toInt = r.toInt - taken r d * d.toInt ∧
      (mix.lookup (decimal d.toInt) = none → (mix'.quantity (decimal d.toInt)).toInt = taken r d) ∧
      (∀ key, key ≠ decimal d.toInt → mix'.lookup key = mix.lookup key) ∧
      ∀ q, mix'.lookup (decimal d.toInt) = some q → 0 < q ∨ mix.lookup (decimal d.toInt) = some q := by
  have hd' := toInt_toInt64_pos hd
  obtain ⟨hnonneg, hle, -, -⟩ := taken_spec hr hd
  have hprod : taken r d * d.toInt ≤ r.toInt :=
    (Int.mul_le_mul_of_nonneg_right hle hd'.1.le).trans (Int.ediv_mul_le _ hd'.1.ne')
  have hne : d ≠ 0 := by
    rintro rfl
    exact absurd hd (by decide)
  unfold mixStep
  rw [if_neg hne]
  dsimp only
  split_ifs with hqty
  · have htaken : taken r d = ((r / d.toInt64).toInt32).toInt := if_pos hqty
    rw [htaken] at hnonneg hprod ⊢
    refine ⟨_, _, rfl, toInt_remainder (Int.mul_nonneg hnonneg hd'.1.le) hprod, fun _ => ?_, fun key hkey => ?_, ?_⟩
    · rw [Breakdown.quantity, AList.lookup_insert]
      rfl
    · exact AList.lookup_insert_ne hkey
    · intro q hq
      rw [AList.lookup_insert] at hq
      obtain rfl := Option.some.inj hq
      exact Or.inl hqty
  · have htaken : taken r d = 0 := if_neg hqty
    rw [htaken]
    refine ⟨_, _, rfl, by omega, fun hnone => ?_, fun _ _ => rfl, fun q hq => Or.inr hq⟩
    rw [Breakdown.quantity, hnone]
    rfl

/-! ### All steps -/

def coveredBy (l : List Int32) (mix : Breakdown) : Int :=
  (l.map fun d => d.toInt * (mix.quantity (decimal d.toInt)).toInt).sum

theorem decimal_ne {d d' : Int32} (h : d ≠ d') : decimal d.toInt ≠ decimal d'.toInt :=
  fun heq => h (Int32.toInt_inj.mp (decimal_injective heq))

/-- The steps in a row, each denomination met once. -/
theorem foldlM_mixStep {l : List Int32} (hpos : ∀ d ∈ l, 0 < d) (hnodup : l.Nodup) {r : Int64} (hr : 0 ≤ r.toInt)
    (mix : Breakdown) (hfresh : ∀ d ∈ l, mix.lookup (decimal d.toInt) = none) :
    ∃ r' mix', l.foldlM mixStep (r, mix) = some (r', mix') ∧ 0 ≤ r'.toInt ∧ r'.toInt = r.toInt - coveredBy l mix' ∧
      (∀ key, (∀ d ∈ l, key ≠ decimal d.toInt) → mix'.lookup key = mix.lookup key) ∧
      ∀ d ∈ l, ∀ q, mix'.lookup (decimal d.toInt) = some q → 0 < q := by
  induction l generalizing r mix with
  | nil => exact ⟨r, mix, rfl, hr, by simp [coveredBy], fun _ _ => rfl, fun _ hd => nomatch hd⟩
  | cons d l ih =>
    have hd := hpos d List.mem_cons_self
    obtain ⟨hnew, hnodup⟩ := List.nodup_cons.mp hnodup
    obtain ⟨r₁, mix₁, hstep, hr₁, hqty, hkeep, hadded⟩ := mixStep_eq mix hr hd
    have hd' := toInt_toInt64_pos hd
    obtain ⟨-, hle, -, -⟩ := taken_spec hr hd
    have hprod : taken r d * d.toInt ≤ r.toInt :=
      (Int.mul_le_mul_of_nonneg_right hle hd'.1.le).trans (Int.ediv_mul_le _ hd'.1.ne')
    have hother : ∀ d' ∈ l, decimal d'.toInt ≠ decimal d.toInt := fun d' hd' =>
      decimal_ne fun heq => hnew (heq ▸ hd')
    obtain ⟨r', mix', hrun, hr', hcovered, hkeep', hpositive⟩ := ih (fun d' hd' => hpos d' (List.mem_cons_of_mem d hd'))
      hnodup (r := r₁) (by omega) mix₁ fun d' hd' => by
        rw [hkeep _ (hother d' hd'), hfresh d' (List.mem_cons_of_mem d hd')]
    have hsame : mix'.lookup (decimal d.toInt) = mix₁.lookup (decimal d.toInt) :=
      hkeep' _ fun d' hd' => (hother d' hd').symm
    refine ⟨r', mix', by rw [List.foldlM_cons, hstep]; exact hrun, hr', ?_, fun key hkey => ?_, fun d' hd' q hq => ?_⟩
    · have hhead : (mix'.quantity (decimal d.toInt)).toInt = taken r d := by
        rw [Breakdown.quantity, hsame]
        exact hqty (hfresh d List.mem_cons_self)
      have hsum : coveredBy (d :: l) mix' = d.toInt * taken r d + coveredBy l mix' := by
        rw [coveredBy, List.map_cons, List.sum_cons, hhead]
        rfl
      rw [hcovered, hr₁, hsum, mul_comm d.toInt]
      omega
    · rw [hkeep' key fun d' hd' => hkey d' (List.mem_cons_of_mem d hd'), hkeep key (hkey d List.mem_cons_self)]
    · rcases List.mem_cons.mp hd' with rfl | hmem
      · rw [hsame] at hq
        refine (hadded q hq).resolve_right ?_
        rw [hfresh d' List.mem_cons_self]
        exact Option.some_ne_none q ∘ Eq.symm
      · exact hpositive d' hmem q hq

/-! ### What is left -/

/-- A quotient that fits leaves less than its denomination. -/
theorem left_lt {r : Int64} {d : Int32} (hr : 0 ≤ r.toInt) (hd : 0 < d) (hfits : r.toInt / d.toInt ≤ 2147483647) :
    r.toInt - taken r d * d.toInt < d.toInt ∧ r.toInt - taken r d * d.toInt ≤ r.toInt := by
  have hd' := toInt_toInt64_pos hd
  obtain ⟨hnonneg, -, hexact, -⟩ := taken_spec hr hd
  have hdiv := Int.emod_add_ediv_mul r.toInt d.toInt
  have hmod := Int.emod_lt_of_pos r.toInt hd'.1
  have hprod := Int.mul_nonneg hnonneg hd'.1.le
  rw [hexact hfits] at hprod ⊢
  omega

theorem left_ge {r : Int64} {d : Int32} (hr : 0 ≤ r.toInt) (hd : 0 < d) (hcut : 2147483647 < r.toInt / d.toInt) :
    2147483648 * d.toInt ≤ r.toInt - taken r d * d.toInt := by
  have hd' := toInt_toInt64_pos hd
  obtain ⟨-, -, -, hshort⟩ := taken_spec hr hd
  have hprod := (Int.mul_le_mul_of_nonneg_right (hshort hcut) hd'.1.le).trans (Int.ediv_mul_le r.toInt hd'.1.ne')
  rw [Int.add_mul] at hprod
  omega

theorem foldlM_near {l : List Int32} (hpos : ∀ d ∈ l, 0 < d) (hsorted : l.Pairwise (· ≥ ·)) {r r' : Int64}
    {mix mix' : Breakdown} (hr : 0 ≤ r.toInt) (hfits : ∀ d ∈ l.head?, r.toInt / d.toInt ≤ 2147483647)
    (hrun : l.foldlM mixStep (r, mix) = some (r', mix')) : r'.toInt ≤ r.toInt ∧ ∀ d ∈ l, r'.toInt < d.toInt := by
  induction l generalizing r mix with
  | nil =>
    obtain ⟨rfl, -⟩ := Prod.mk.inj (Option.some.inj hrun)
    exact ⟨le_rfl, fun _ hd => nomatch hd⟩
  | cons d l ih =>
    have hd := hpos d List.mem_cons_self
    have hd' := toInt_toInt64_pos hd
    obtain ⟨hge, hsorted⟩ := List.pairwise_cons.mp hsorted
    obtain ⟨r₁, mix₁, hstep, hr₁, -⟩ := mixStep_eq mix hr hd
    obtain ⟨hlt, hle⟩ := left_lt hr hd (hfits d rfl)
    have hnonneg : 0 ≤ r₁.toInt := by
      have hprod := Int.mul_le_mul_of_nonneg_right (taken_spec hr hd).2.1 hd'.1.le
      have := Int.ediv_mul_le r.toInt hd'.1.ne'
      omega
    rw [List.foldlM_cons, hstep] at hrun
    -- what is left is an `int`, and so is the next quotient
    have hnext : ∀ d' ∈ l.head?, r₁.toInt / d'.toInt ≤ 2147483647 := by
      intro d' hmem
      have hpos' := toInt_toInt64_pos (hpos d' (List.mem_cons_of_mem d (List.mem_of_mem_head? hmem)))
      have := Int.ediv_le_self d'.toInt hnonneg
      omega
    obtain ⟨hle', hnear⟩ := ih (fun d' hmem => hpos d' (List.mem_cons_of_mem d hmem)) hsorted hnonneg hnext hrun
    refine ⟨by omega, fun d' hmem => ?_⟩
    rcases List.mem_cons.mp hmem with rfl | hmem
    · omega
    · exact hnear d' hmem

theorem foldlM_far {l : List Int32} (hpos : ∀ d ∈ l, 0 < d) (hsorted : l.Pairwise (· ≥ ·)) {r r' : Int64}
    {mix mix' : Breakdown} (hr : 0 ≤ r.toInt) (hne : l ≠ []) (hcut : ∀ d ∈ l.head?, 2147483647 < r.toInt / d.toInt)
    (hrun : l.foldlM mixStep (r, mix) = some (r', mix')) : ∃ d ∈ l, d.toInt ≤ r'.toInt := by
  induction l generalizing r mix with
  | nil => exact absurd rfl hne
  | cons d l ih =>
    have hd := hpos d List.mem_cons_self
    have hd' := toInt_toInt64_pos hd
    obtain ⟨hge, hsorted⟩ := List.pairwise_cons.mp hsorted
    obtain ⟨r₁, mix₁, hstep, hr₁, -⟩ := mixStep_eq mix hr hd
    have hleft := left_ge hr hd (hcut d rfl)
    rw [List.foldlM_cons, hstep] at hrun
    by_cases hl : l = []
    · subst hl
      obtain ⟨rfl, -⟩ := Prod.mk.inj (Option.some.inj hrun)
      exact ⟨d, List.mem_cons_self, by omega⟩
    · have hnext : ∀ d' ∈ l.head?, 2147483647 < r₁.toInt / d'.toInt := by
        intro d' hmem
        have hmem' := List.mem_of_mem_head? hmem
        have hpos' := toInt_toInt64_pos (hpos d' (List.mem_cons_of_mem d hmem'))
        have hle : d'.toInt ≤ d.toInt := Int32.le_iff_toInt_le.mp (hge d' hmem')
        have hdiv : 2147483648 ≤ r₁.toInt / d'.toInt := (Int.le_ediv_iff_mul_le hpos'.1).mpr (by omega)
        omega
      obtain ⟨d', hmem, hle⟩ := ih (fun d' hmem => hpos d' (List.mem_cons_of_mem d hmem)) hsorted (by omega) hl hnext hrun
      exact ⟨d', List.mem_cons_of_mem d hmem, hle⟩

/-! ### The mix -/

variable {denominations : List Int32}

def descending (denominations : List Int32) : List Int32 :=
  greatestFirst ((denominations.dedup.insertionSort (· ≤ ·)).map Int32.toInt)

theorem descending_perm : (descending denominations).Perm denominations.dedup := by
  unfold descending greatestFirst
  rw [List.map_map]
  have hid : Int32.ofInt ∘ Int32.toInt = id := by
    funext d
    exact Int32.ofInt_toInt d
  rw [hid, List.map_id]
  exact (List.perm_insertionSort _ _).trans (List.perm_insertionSort _ _)

theorem mem_descending {d : Int32} : d ∈ descending denominations ↔ d ∈ denominations := by
  rw [descending_perm.mem_iff, List.mem_dedup]

theorem descending_nodup : (descending denominations).Nodup := descending_perm.nodup_iff.mpr (List.nodup_dedup _)

theorem descending_sorted : (descending denominations).Pairwise (· ≥ ·) := by
  have : Std.Total fun a b : Int32 => a ≥ b := ⟨fun a b => Int32.le_total b a⟩
  have : IsTrans Int32 fun a b => a ≥ b := ⟨fun _ _ _ h h' => Int32.le_trans h' h⟩
  exact List.pairwise_insertionSort _ _

theorem covered_eq (mix : Breakdown) : covered denominations.toFinset mix = coveredBy (descending denominations) mix := by
  have hset : denominations.toFinset = (descending denominations).toFinset := by
    ext d
    simp [mem_descending]
  rw [covered, hset, List.sum_toFinset _ descending_nodup, coveredBy]

theorem recommendMix_configured (s : CashIntelligenceService) (currency : String) {target : Int64} (h : 0 < target) :
    (s.configureDenominations currency denominations).recommendMix currency target =
      ((descending denominations).foldlM mixStep (target, ∅)).map Prod.snd := by
  have hset : (s.configureDenominations currency denominations).denominationSets.lookup currency =
      some ((denominations.dedup.insertionSort (· ≤ ·)).map Int32.toInt) := AList.lookup_insert _
  have hpos : ¬ target ≤ 0 := Int64.not_le.mpr h
  rw [recommendMix, hset]
  dsimp only
  rw [if_neg hpos]
  rfl

/-- What the loop gives for denominations that are positive. -/
theorem run_descending (hpos : ∀ d ∈ denominations, 0 < d) {target : Int64} (h : 0 < target) :
    ∃ r' mix, (descending denominations).foldlM mixStep (target, ∅) = some (r', mix) ∧ 0 ≤ r'.toInt ∧
      r'.toInt = target.toInt - covered denominations.toFinset mix ∧
      (∀ key, (mix.lookup key).isSome = true → ∃ d ∈ denominations, key = decimal d.toInt) ∧
      ∀ key q, mix.lookup key = some q → 0 < q := by
  have htarget := Int64.lt_iff_toInt_lt.mp h
  obtain ⟨r', mix, hrun, hr', hcovered, hkeep, hpositive⟩ := foldlM_mixStep (l := descending denominations)
    (fun d hd => hpos d (mem_descending.mp hd)) descending_nodup (r := target) htarget.le ∅ fun _ _ => rfl
  have hknown : ∀ key, (mix.lookup key).isSome = true → ∃ d ∈ denominations, key = decimal d.toInt := by
    intro key hkey
    by_contra hno
    rw [hkeep key fun d hd heq => hno ⟨d, mem_descending.mp hd, heq⟩] at hkey
    cases hkey
  refine ⟨r', mix, hrun, hr', by rw [covered_eq, hcovered], hknown, fun key q hq => ?_⟩
  obtain ⟨d, hd, rfl⟩ := hknown key (by rw [hq]; rfl)
  exact hpositive d (mem_descending.mpr hd) q hq

theorem recommendMix_sound_iff (s : CashIntelligenceService) (currency : String) (denominations : List Int32)
    (target : Int64) (h : 0 < target) :
    (∃ mix, (s.configureDenominations currency denominations).recommendMix currency target = some mix ∧
        SoundMix denominations.toFinset target.toInt mix) ↔
      (∀ d ∈ denominations, 0 < d) ∧
        (denominations = [] ∨ ∃ d ∈ denominations, target.toInt < 2147483648 * d.toInt) := by
  have htarget := Int64.lt_iff_toInt_lt.mp h
  rw [recommendMix_configured s currency h]
  constructor
  · rintro ⟨mix, hmix, hsound⟩
    have hpos : ∀ d ∈ denominations, 0 < d := by
      intro d hd
      have hnear := hsound.near d (List.mem_toFinset.mpr hd)
      have hwithin := hsound.within
      exact Int32.lt_iff_toInt_lt.mpr (by change (0 : Int) < _; omega)
    refine ⟨hpos, or_iff_not_imp_left.mpr fun hne => ?_⟩
    by_contra hlarge
    simp only [not_exists, not_and, not_lt] at hlarge
    obtain ⟨r', mix', hrun, -, hcovered, -⟩ := run_descending hpos h
    rw [hrun] at hmix
    obtain rfl : mix' = mix := Option.some.inj hmix
    have hnil : descending denominations ≠ [] := fun hnil => hne (List.eq_nil_iff_forall_not_mem.mpr fun d hd =>
      List.not_mem_nil (hnil ▸ mem_descending.mpr hd))
    obtain ⟨d, hd, hle⟩ := foldlM_far (fun d hd => hpos d (mem_descending.mp hd)) descending_sorted htarget.le hnil
      (fun d hd => by
        have hmem := mem_descending.mp (List.mem_of_mem_head? hd)
        have hd' := toInt_toInt64_pos (hpos d hmem)
        have := (Int.le_ediv_iff_mul_le hd'.1).mpr (hlarge d hmem)
        omega) hrun
    have hnear := hsound.near d (List.mem_toFinset.mpr (mem_descending.mp hd))
    omega
  · rintro ⟨hpos, hlarge⟩
    obtain ⟨r', mix, hrun, hr', hcovered, hknown, hpositive⟩ := run_descending hpos h
    refine ⟨mix, by rw [hrun]; rfl, ⟨fun key hkey => ?_, hpositive, by omega, fun d hd => ?_⟩⟩
    · obtain ⟨d, hd, heq⟩ := hknown key hkey
      exact ⟨d, List.mem_toFinset.mpr hd, heq⟩
    · have hmem := List.mem_toFinset.mp hd
      obtain ⟨d₀, hd₀, hlt⟩ := hlarge.resolve_left fun hnil => List.not_mem_nil (hnil ▸ hmem)
      have hfits : ∀ d' ∈ (descending denominations).head?, target.toInt / d'.toInt ≤ 2147483647 := by
        intro d' hhead
        have hd' := toInt_toInt64_pos (hpos d' (mem_descending.mp (List.mem_of_mem_head? hhead)))
        have hge : d₀.toInt ≤ d'.toInt := by
          obtain ⟨l, hl⟩ := List.head?_eq_some_iff.mp hhead
          have hsorted : (descending denominations).Pairwise (· ≥ ·) := descending_sorted
          have hmem₀ := mem_descending.mpr hd₀
          rw [hl] at hsorted hmem₀
          rcases List.mem_cons.mp hmem₀ with rfl | hmem₀
          · exact le_rfl
          · exact Int32.le_iff_toInt_le.mp ((List.pairwise_cons.mp hsorted).1 d₀ hmem₀)
        have := (Int.ediv_lt_iff_lt_mul hd'.1).mpr (show target.toInt < 2147483648 * d'.toInt by omega)
        omega
      have hnear := (foldlM_near (fun d hd => hpos d (mem_descending.mp hd)) descending_sorted htarget.le hfits hrun).2 d
        (mem_descending.mpr hmem)
      omega

/-- The notes of one currency, for a sum that they make. -/
theorem recommendMix_sound_notes :
    ∃ mix, (CashIntelligenceService.configureDenominations {} "KES" [100, 500, 1000]).recommendMix "KES" 1600 = some mix ∧
      SoundMix [100, 500, 1000].toFinset 1600 mix :=
  (recommendMix_sound_iff {} "KES" [100, 500, 1000] 1600 (by decide)).mpr ⟨by simp, by decide⟩

/-- A set may have a zero in it. -/
theorem zero_denomination_divides :
    ¬ ∀ (s : CashIntelligenceService) (currency : String) (denominations : List Int32) (target : Int64), 0 < target →
      ∃ mix, (s.configureDenominations currency denominations).recommendMix currency target = some mix ∧
        SoundMix denominations.toFinset target.toInt mix := by
  intro h
  obtain ⟨mix, hmix, -⟩ := h {} "KES" [0, 100] 250 (by decide)
  have hnone : (CashIntelligenceService.configureDenominations {} "KES" [0, 100]).recommendMix "KES" 250 = none := by
    decide +kernel
  rw [hnone] at hmix
  cases hmix

end Drawer.Cash
