import Drawer.Spec.Scale

/-! What the driver makes of the conversions. The bits are shifted in one by one, so that after each of them
the number read is the upper part of the conversion; the sums of what is read stay far below what a `long` holds. -/

namespace Drawer.Scale
open Effect Decimal

variable {α : Type}

/-! ### Bits -/

/-- Another bit of a conversion. -/
theorem shift_step (v : BitVec 24) {k : ℕ} (hk : k < 24) :
    (v.setWidth 64 >>> (24 - k)) <<< 1 ||| (if v.getMsbD k then 1 else 0) = v.setWidth 64 >>> (24 - (k + 1)) := by
  apply BitVec.eq_of_getLsbD_eq
  intro i hi
  cases i with
  | zero =>
    have hwide : 23 - k < 64 := by omega
    have hbit : v.getMsbD k = v.getLsbD (23 - k) := by
      rw [BitVec.getMsbD_eq_getLsbD]
      simp [hk]
    rw [hbit]
    cases hb : v.getLsbD (23 - k) <;> simp [BitVec.getLsbD_setWidth, -BitVec.getLsbD_eq_getElem, hb, hwide]
  | succ i =>
    have hsum : 24 - k + i = 24 - (k + 1) + (i + 1) := by omega
    cases v.getMsbD k <;> simp [hsum, hi]

/-- The sign of a conversion is extended to the whole of a `long`. -/
theorem signExtended_eq (v : BitVec 24) : signExtended (v.setWidth 64) = v.signExtend 64 := by
  unfold signExtended
  have hmask : v.setWidth 64 &&& 0x800000#64 ≠ 0 ↔ v.msb = true := by
    have hone : 0x800000#64 = BitVec.twoPow 64 23 := by decide
    have hne : BitVec.twoPow 64 23 ≠ 0#64 := by decide
    rw [hone, BitVec.and_twoPow]
    simp [BitVec.msb_eq_getLsbD_last, hne]
  have hupper : ∀ i < 64, (~~~0xFFFFFF#64).getLsbD i = decide (24 ≤ i) := by decide
  apply BitVec.eq_of_getLsbD_eq
  intro i hi
  rw [BitVec.getLsbD_signExtend]
  simp only [hmask, hi, decide_true, Bool.true_and]
  have hwide : (v.setWidth 64).getLsbD i = v.getLsbD i := by
    rw [BitVec.getLsbD_setWidth]
    simp [-BitVec.getLsbD_eq_getElem, hi]
  by_cases hlow : i < 24
  · cases v.msb with
    | false => rw [if_neg Bool.false_ne_true, if_pos hlow, hwide]
    | true => rw [if_pos rfl, if_pos hlow, BitVec.getLsbD_or, hupper i hi, hwide, decide_eq_false (Nat.not_le.mpr hlow), Bool.or_false]
  · have hnone : v.getLsbD i = false := BitVec.getLsbD_of_ge v i (Nat.le_of_not_lt hlow)
    cases v.msb with
    | false => rw [if_neg Bool.false_ne_true, if_neg hlow, hwide, hnone]
    | true => rw [if_pos rfl, if_neg hlow, BitVec.getLsbD_or, hupper i hi, decide_eq_true (Nat.le_of_not_lt hlow), Bool.or_true]

/-! ### Reads -/

variable {busy rises : ℕ} {v : BitVec 24} {rest : List (ℕ × BitVec 24)}

/-- No conversion is being clocked out. -/
def Idle (rises : ℕ) : Prop := rises = 0 ∨ 24 < rises

theorem Idle.not_shifting (h : Idle rises) : ¬ (0 < rises ∧ rises ≤ 24) := by
  unfold Idle at h
  omega

theorem awaitReady_spec (hrises : Idle rises) (k : Driving α) {left : ℕ} (hleft : busy ≤ left) :
    performFrom Converter.world { conversions := (busy, v) :: rest, rises } (awaitReady left k) =
      performFrom Converter.world { conversions := (0, v) :: rest } k := by
  have hnot := hrises.not_shifting
  induction left generalizing busy with
  | zero =>
    obtain rfl : busy = 0 := Nat.le_zero.mp hleft
    simp [awaitReady, performFrom, Converter.world, Converter.readDt, hnot]
  | succ left ih =>
    cases busy with
    | zero => simp [awaitReady, performFrom, Converter.world, Converter.readDt, hnot]
    | succ busy => simpa [awaitReady, performFrom, Converter.world, Converter.readDt, hnot] using ih (Nat.le_of_succ_le_succ hleft)

theorem awaitReady_late (hrises : Idle rises) (k : Driving α) {left : ℕ} (hleft : left < busy) :
    (performFrom Converter.world { conversions := (busy, v) :: rest, rises } (awaitReady left k)).2 =
      .error "HX711 data not ready" := by
  have hnot := hrises.not_shifting
  induction left generalizing busy with
  | zero =>
    cases busy with
    | zero => exact absurd hleft (lt_irrefl 0)
    | succ busy => simp [awaitReady, performFrom, Converter.world, Converter.readDt, hnot]
  | succ left ih =>
    cases busy with
    | zero => exact absurd hleft (Nat.not_lt_zero _)
    | succ busy => simpa [awaitReady, performFrom, Converter.world, Converter.readDt, hnot] using ih (Nat.lt_of_succ_lt_succ hleft)

theorem awaitReady_none (k : Driving α) (left : ℕ) :
    (performFrom Converter.world { conversions := [], rises } (awaitReady left k)).2 = .error "HX711 data not ready" := by
  induction left with
  | zero => rfl
  | succ left ih => exact ih

theorem shiftIn_spec (v : BitVec 24) (rest : List (ℕ × BitVec 24)) (k : BitVec 64 → Driving α) {n : ℕ} (hn : n ≤ 24) :
    performFrom Converter.world { conversions := (0, v) :: rest, rises := 24 - n } (shiftIn n (v.setWidth 64 >>> n) k) =
      performFrom Converter.world { conversions := (0, v) :: rest, rises := 24 } (k (v.setWidth 64)) := by
  induction n with
  | zero => rw [shiftIn, BitVec.ushiftRight_zero]
  | succ n ih =>
    have hstep := shift_step v (k := 24 - (n + 1)) (by omega)
    have hleft : 24 - (24 - (n + 1)) = n + 1 := by omega
    have hnext : 24 - (24 - (n + 1) + 1) = n := by omega
    rw [hleft, hnext] at hstep
    have hrises : 24 - (n + 1) + 1 = 24 - n := by omega
    have hmore : 24 - (n + 1) ≠ 24 := by omega
    have hshifting : 0 < 24 - n ∧ 24 - n ≤ 24 := by omega
    have hbit : 24 - n - 1 = 24 - (n + 1) := by omega
    rw [← ih (Nat.le_of_succ_le hn), ← hstep]
    simp only [shiftIn, performFrom, Converter.world, Converter.writeSck, Converter.readDt, Bool.not_false, Bool.and_self,
      Bool.false_and, if_true, if_neg hmore, hrises, if_pos hshifting, hbit, Bool.false_eq_true, if_false]

theorem pulse_spec {conversions : List (ℕ × BitVec 24)} (hrises : 24 < rises) (n : ℕ) (k : Driving α) :
    performFrom Converter.world { conversions, rises } (pulse n k) =
      performFrom Converter.world { conversions, rises := rises + n } k := by
  induction n generalizing rises with
  | zero => rfl
  | succ n ih =>
    have hsum : rises + (n + 1) = rises + 1 + n := by omega
    rw [hsum, ← ih (Nat.lt_succ_of_lt hrises)]
    simp only [pulse, performFrom, Converter.world, Converter.writeSck, Bool.not_false, Bool.and_self, Bool.false_and, if_true,
      if_neg hrises.ne', Bool.false_eq_true, if_false]

theorem HX711.pulses_pos (hx : HX711) : 0 < hx.pulses := by
  unfold HX711.pulses
  split_ifs <;> decide

theorem HX711.idle (hx : HX711) : Idle (24 + hx.pulses) := Or.inr (Nat.lt_add_of_pos_right hx.pulses_pos)

/-- A read gives the next conversion with its sign, and leaves the pulses that the gain asks for. -/
theorem readRaw_spec (hx : HX711) (hrises : Idle rises) (hbusy : busy ≤ 500000) (k : BitVec 64 → Driving α) :
    performFrom Converter.world { conversions := (busy, v) :: rest, rises } (hx.readRaw k) =
      performFrom Converter.world { conversions := rest, rises := 24 + hx.pulses } (k (v.signExtend 64)) := by
  have hshift := shiftIn_spec v rest (fun val => pulse hx.pulses (k (signExtended val))) le_rfl
  have hzero : v.setWidth 64 >>> 24 = 0 := by
    apply BitVec.eq_of_getLsbD_eq
    intro i hi
    simp
  rw [hzero] at hshift
  obtain ⟨n, hn⟩ : ∃ n, hx.pulses = n + 1 := ⟨hx.pulses - 1, (Nat.succ_pred_eq_of_pos hx.pulses_pos).symm⟩
  have hsum : 24 + (n + 1) = 25 + n := by omega
  rw [HX711.readRaw, awaitReady_spec hrises _ hbusy, hshift, signExtended_eq, hn, hsum, ← pulse_spec (by decide : 24 < 25) n]
  simp [pulse, performFrom, Converter.world, Converter.writeSck]

/-! ### Conversions in a row -/

/-- The first conversions are there, and each is ready before the driver gives up. -/
def Timely (n : ℕ) (conversions : List (ℕ × BitVec 24)) : Prop :=
  n ≤ conversions.length ∧ ∀ c ∈ conversions.take n, c.1 ≤ 500000

instance (n : ℕ) (conversions : List (ℕ × BitVec 24)) : Decidable (Timely n conversions) := inferInstanceAs (Decidable (_ ∧ _))

variable {conversions : List (ℕ × BitVec 24)} {n : ℕ}

theorem timely_cons {c : ℕ × BitVec 24} : Timely (n + 1) (c :: conversions) ↔ c.1 ≤ 500000 ∧ Timely n conversions := by
  simp only [Timely, List.length_cons, List.take_succ_cons, List.forall_mem_cons, Nat.add_le_add_iff_right]
  tauto

theorem timely_add {m : ℕ} : Timely (m + n) conversions ↔ Timely m conversions ∧ Timely n (conversions.drop m) := by
  induction m generalizing conversions with
  | zero => simp [Timely]
  | succ m ih =>
    cases conversions with
    | nil => simp [Timely]
    | cons c conversions =>
      rw [Nat.succ_add, timely_cons, ih, timely_cons, List.drop_succ_cons, and_assoc]

def valuesOf (n : ℕ) (conversions : List (ℕ × BitVec 24)) : List (BitVec 64) := (conversions.take n).map fun c => c.2.signExtend 64

theorem sumRaw_spec (hx : HX711) (h : Timely (n + 1) conversions) (hrises : Idle rises) (sum : BitVec 64) (k : BitVec 64 → Driving α) :
    performFrom Converter.world { conversions, rises } (hx.sumRaw (n + 1) sum k) =
      performFrom Converter.world { conversions := conversions.drop (n + 1), rises := 24 + hx.pulses }
        (k ((valuesOf (n + 1) conversions).foldl (· + ·) sum)) := by
  induction n generalizing conversions rises sum with
  | zero =>
    cases conversions with
    | nil => exact absurd h.1 (Nat.not_succ_le_zero 0)
    | cons c conversions =>
      rw [HX711.sumRaw, readRaw_spec hx hrises (timely_cons.mp h).1]
      rfl
  | succ n ih =>
    cases conversions with
    | nil => exact absurd h.1 (Nat.not_succ_le_zero _)
    | cons c conversions =>
      obtain ⟨hbusy, hrest⟩ := timely_cons.mp h
      rw [HX711.sumRaw, readRaw_spec hx hrises hbusy, ih hrest (hx.idle)]
      rfl

theorem sumRaw_late (hx : HX711) (h : ¬ Timely n conversions) (hrises : Idle rises) (sum : BitVec 64) (k : BitVec 64 → Driving α) :
    (performFrom Converter.world { conversions, rises } (hx.sumRaw n sum k)).2 = .error "HX711 data not ready" := by
  induction n generalizing conversions rises sum with
  | zero => exact absurd ⟨Nat.zero_le _, by simp⟩ h
  | succ n ih =>
    rw [HX711.sumRaw]
    cases conversions with
    | nil => exact awaitReady_none _ _
    | cons c conversions =>
      rw [timely_cons, not_and_or] at h
      by_cases hbusy : c.1 ≤ 500000
      · rw [readRaw_spec hx hrises hbusy]
        exact ih (h.resolve_left (not_not.mpr hbusy)) hx.idle _
      · exact awaitReady_late hrises _ (Nat.lt_of_not_le hbusy)

theorem readAverage_one (hx : HX711) (k : BitVec 64 → Driving α) : hx.readAverage 1 k = hx.readRaw k := by
  have hone : (1 : Int32).toInt.toNat = 1 := by decide
  have hdiv : BitVec.ofInt 64 (1 : Int32).toInt = 1#64 := by decide
  have hzero : ∀ raw : BitVec 64, 0 + raw = raw := BitVec.zero_add
  simp only [HX711.readAverage, hone, hdiv, HX711.sumRaw, hzero, BitVec.sdiv_one]

theorem weigh_spec (hx : HX711) (h : Timely n conversions) (hrises : Idle rises) (sum : BitVec 64) (samples : List (BitVec 64))
    (k : BitVec 64 → List (BitVec 64) → Driving α) : ∃ rises', Idle rises' ∧
      performFrom Converter.world { conversions, rises } (hx.weigh n sum samples k) =
        performFrom Converter.world { conversions := conversions.drop n, rises := rises' }
          (k ((valuesOf n conversions).foldl (· + ·) sum) (samples ++ valuesOf n conversions)) := by
  induction n generalizing conversions rises sum samples with
  | zero => exact ⟨rises, hrises, by simp [HX711.weigh, valuesOf]⟩
  | succ n ih =>
    cases conversions with
    | nil => exact absurd h.1 (Nat.not_succ_le_zero n)
    | cons c conversions =>
      obtain ⟨hbusy, hrest⟩ := timely_cons.mp h
      obtain ⟨rises', hrises', heq⟩ := ih hrest hx.idle (sum + c.2.signExtend 64) (samples ++ [c.2.signExtend 64])
      refine ⟨rises', hrises', ?_⟩
      rw [HX711.weigh, readAverage_one, readRaw_spec hx hrises hbusy, heq]
      simp [valuesOf]

theorem weigh_late (hx : HX711) (h : ¬ Timely n conversions) (hrises : Idle rises) (sum : BitVec 64) (samples : List (BitVec 64))
    (k : BitVec 64 → List (BitVec 64) → Driving α) :
    (performFrom Converter.world { conversions, rises } (hx.weigh n sum samples k)).2 = .error "HX711 data not ready" := by
  induction n generalizing conversions rises sum samples with
  | zero => exact absurd ⟨Nat.zero_le _, by simp⟩ h
  | succ n ih =>
    rw [HX711.weigh, readAverage_one]
    cases conversions with
    | nil => exact awaitReady_none _ _
    | cons c conversions =>
      rw [timely_cons, not_and_or] at h
      by_cases hbusy : c.1 ≤ 500000
      · rw [readRaw_spec hx hrises hbusy]
        exact ih (h.resolve_left (not_not.mpr hbusy)) hx.idle _ _
      · exact awaitReady_late hrises _ (Nat.lt_of_not_le hbusy)

/-! ### In whole numbers -/

theorem toInt_small {z : ℤ} (h : |z| < 2 ^ 63) : z.bmod (2 ^ 64) = z := by
  rw [abs_lt] at h
  exact Int.bmod_eq_of_le_mul_two (by omega) (by omega)

/-- A reading has 24 bits. -/
def Small (z : ℤ) : Prop := |z| ≤ 2 ^ 23

theorem small_toInt (v : BitVec 24) : Small v.toInt := by
  have hlow := BitVec.le_toInt v
  have hhigh := BitVec.toInt_lt (x := v)
  rw [Small, abs_le]
  omega

theorem toInt_signExtend (v : BitVec 24) : (v.signExtend 64).toInt = v.toInt := BitVec.toInt_signExtend_of_le (by decide)

theorem abs_sum_le {l : List ℤ} (h : ∀ z ∈ l, Small z) : |l.sum| ≤ 2 ^ 23 * l.length := by
  induction l with
  | nil => simp
  | cons z l ih =>
    obtain ⟨hz, hl⟩ := List.forall_mem_cons.mp h
    have hsum := ih hl
    have hadd := abs_add_le z l.sum
    rw [Small] at hz
    rw [List.sum_cons, List.length_cons]
    push_cast
    linarith

/-- No sum of readings is too great for a `long`. -/
theorem toInt_foldl {l : List (BitVec 64)} (h : ∀ v ∈ l, Small v.toInt) (hlength : l.length < 2 ^ 31) :
    (l.foldl (· + ·) 0).toInt = (l.map BitVec.toInt).sum := by
  induction l using List.reverseRecOn with
  | nil => rfl
  | append_singleton l v ih =>
    obtain ⟨hl, hv⟩ := List.forall_mem_append.mp h
    rw [List.length_append, List.length_singleton] at hlength
    have hsum := ih hl (by omega)
    have hbound : |(l.map BitVec.toInt).sum + v.toInt| < 2 ^ 63 := by
      have hadd := abs_add_le (l.map BitVec.toInt).sum v.toInt
      have hrest := abs_sum_le (l := l.map BitVec.toInt) (List.forall_mem_map.mpr hl)
      have hlast := hv v List.mem_cons_self
      rw [Small] at hlast
      rw [List.length_map] at hrest
      have hmany : (l.length : ℤ) < 2 ^ 31 := by exact_mod_cast (by omega : l.length < 2 ^ 31)
      linarith
    rw [List.foldl_append, List.foldl_cons, List.foldl_nil, BitVec.toInt_add, hsum, toInt_small hbound, List.map_append,
      List.sum_append, List.map_singleton, List.sum_singleton]

theorem abs_tdiv_le (a b : ℤ) : |a.tdiv b| ≤ |a| := by
  rw [Int.abs_eq_natAbs, Int.abs_eq_natAbs, Int.natAbs_tdiv]
  exact_mod_cast Nat.div_le_self _ _

/-- The mean of readings, rounded toward zero. -/
def mean (l : List ℤ) : ℤ := l.sum.tdiv (max 1 l.length)

theorem abs_mean_le {l : List ℤ} (h : ∀ z ∈ l, Small z) (hlength : l.length < 2 ^ 31) : |mean l| < 2 ^ 54 := by
  have hsum := abs_sum_le h
  have hmany : (l.length : ℤ) < 2 ^ 31 := by exact_mod_cast hlength
  have hdiv := abs_tdiv_le l.sum (max 1 l.length)
  rw [mean]
  linarith

theorem toInt_meanOf {l : List (BitVec 64)} {samples : Int32} (h : ∀ v ∈ l, Small v.toInt) (hlength : l.length = samples.toInt.toNat) :
    (meanOf (l.foldl (· + ·) 0) samples).toInt = mean (l.map BitVec.toInt) := by
  have hrange : samples.toInt < 2 ^ 31 := samples.toInt_lt
  have hmax : max 1 samples.toInt = max 1 (l.length : ℤ) := by omega
  have hmany : l.length < 2 ^ 31 := by omega
  have hdivisor : (BitVec.ofInt 64 (max 1 samples.toInt)).toInt = max 1 (l.length : ℤ) := by
    rw [BitVec.toInt_ofInt, hmax]
    exact toInt_small (by rw [abs_lt]; omega)
  rw [meanOf, BitVec.toInt_sdiv, hdivisor, toInt_foldl h hmany, mean, List.length_map]
  refine toInt_small ((abs_tdiv_le _ _).trans_lt ?_)
  have hsum := abs_sum_le (l := l.map BitVec.toInt) (List.forall_mem_map.mpr h)
  have hmany' : (l.length : ℤ) < 2 ^ 31 := by exact_mod_cast hmany
  rw [List.length_map] at hsum
  linarith

/-! ### Readings -/

/-- What the scale shows in its first conversions. -/
def readings (n : ℕ) (conversions : List (ℕ × BitVec 24)) : List ℤ := (conversions.take n).map fun c => c.2.toInt

theorem map_valuesOf (n : ℕ) (conversions : List (ℕ × BitVec 24)) :
    (valuesOf n conversions).map BitVec.toInt = readings n conversions := by
  rw [valuesOf, readings, List.map_map]
  exact List.map_congr_left fun c _ => toInt_signExtend c.2

theorem small_valuesOf (n : ℕ) (conversions : List (ℕ × BitVec 24)) : ∀ v ∈ valuesOf n conversions, Small v.toInt := by
  intro v hv
  obtain ⟨c, -, rfl⟩ := List.mem_map.mp hv
  rw [toInt_signExtend]
  exact small_toInt c.2

theorem small_readings (n : ℕ) (conversions : List (ℕ × BitVec 24)) : ∀ z ∈ readings n conversions, Small z := by
  intro z hz
  obtain ⟨c, -, rfl⟩ := List.mem_map.mp hz
  exact small_toInt c.2

theorem length_valuesOf (h : Timely n conversions) : (valuesOf n conversions).length = n := by
  rw [valuesOf, List.length_map, List.length_take, min_eq_left h.1]

theorem toNat_lt (samples : Int32) : samples.toInt.toNat < 2 ^ 31 := by
  have hrange : samples.toInt < 2 ^ 31 := samples.toInt_lt
  omega

theorem length_readings (h : Timely n conversions) : (readings n conversions).length = n := by
  rw [readings, List.length_map, List.length_take, min_eq_left h.1]

theorem abs_sum_readings_lt {k : ℕ} (hk : k < 2 ^ 31) (conversions : List (ℕ × BitVec 24)) :
    |(readings k conversions).sum| < 2 ^ 63 := by
  have hsum := abs_sum_le (small_readings k conversions)
  have hlength : (readings k conversions).length ≤ k := by simp [readings]
  have hmany : ((readings k conversions).length : ℤ) < 2 ^ 31 := by exact_mod_cast hlength.trans_lt hk
  linarith

/-- What is averaged are the conversions as they are, each with its sign: the bits are put together right, no sum is too great
for a `long`, and the pulses at the end ask for the gain. If a conversion does not come in time, the driver throws. -/
theorem readAverage_exact (hx : HX711) (conversions : List (ℕ × BitVec 24)) {samples : Int32} (hpos : 0 < samples.toInt)
    (hrises : Idle rises) :
    if Timely samples.toInt.toNat conversions then
      ∃ v, performFrom Converter.world { conversions, rises } (hx.readAverage samples fun v => .ret (.ok v)) =
        ({ conversions := conversions.drop samples.toInt.toNat, rises := 24 + hx.pulses }, .ok v) ∧
        v.toInt = (readings samples.toInt.toNat conversions).sum.tdiv samples.toInt ∧
        ∀ k ≤ samples.toInt.toNat, |(readings k conversions).sum| < 2 ^ 63
    else
      (performFrom Converter.world { conversions, rises } (hx.readAverage samples fun v => .ret (.ok v))).2 =
        .error "HX711 data not ready" := by
  split_ifs with htime
  · obtain ⟨n, hn⟩ : ∃ n, samples.toInt.toNat = n + 1 := ⟨samples.toInt.toNat - 1, by omega⟩
    have hmean := toInt_meanOf (small_valuesOf samples.toInt.toNat conversions) (length_valuesOf htime)
    have hmax : max 1 samples.toInt = samples.toInt := by omega
    have hlength : max 1 ((readings samples.toInt.toNat conversions).length : ℤ) = samples.toInt := by
      rw [length_readings htime]
      omega
    rw [map_valuesOf, mean, hlength, meanOf, hmax] at hmean
    refine ⟨_, ?_, hmean, fun k hk => abs_sum_readings_lt (hk.trans_lt (toNat_lt samples)) conversions⟩
    rw [hn] at htime ⊢
    rw [HX711.readAverage, hn, sumRaw_spec hx htime hrises]
    rfl
  · exact sumRaw_late hx htime hrises _ _

/-- Two conversions, the second of them negative, at a gain of 64. -/
theorem readAverage_exact_sample :
    ∃ v, performFrom Converter.world { conversions := [(3, 7), (0, -2), (1, 5)] }
        (HX711.readAverage ⟨64⟩ 2 fun v => Program.ret (.ok v)) =
      (({ conversions := [(1, 5)], rises := 27 } : Converter), .ok v) ∧ v.toInt = 2 ∧
      ∀ k ≤ 2, |(readings k [(3, 7), (0, -2), (1, 5)]).sum| < 2 ^ 63 :=
  readAverage_exact ⟨64⟩ [(3, 7), (0, -2), (1, 5)] (show 0 < (2 : Int32).toInt by decide) (Or.inl rfl)

end Drawer.Scale
