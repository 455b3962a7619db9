import Drawer.Lib.Decimal
import Mathlib.Data.Nat.Size

/-! The arithmetic of doubles. An operation gives the double nearest to its exact result, which is
off by no more than the `2 ^ 53`-rd part of it. -/

namespace Decimal

/-! ### The operations -/

/-- What a finite double is. -/
def signed (negative : Bool) (q : ℚ) : ℚ := if negative then -q else q

/-- `a <= b`: a nan is in no order. -/
def Double.le : Double → Double → Bool
  | .nan, _ | _, .nan => false
  | .inf true, _ | _, .inf false => true
  | .inf false, _ | _, .inf true => false
  | .finite negative q, .finite negative' q' => signed negative q ≤ signed negative' q'

/-- `a < b`. -/
def Double.lt : Double → Double → Bool
  | .nan, _ | _, .nan => false
  | .inf negative, .inf negative' => negative && !negative'
  | .inf negative, .finite _ _ => negative
  | .finite _ _, .inf negative => !negative
  | .finite negative q, .finite negative' q' => signed negative q < signed negative' q'

/-- `std::min(a, b)`. -/
def Double.min (a b : Double) : Double := if b.lt a then b else a

/-- `a + b`. -/
def Double.add : Double → Double → Double
  | .nan, _ | _, .nan => .nan
  | .inf negative, .inf negative' => if negative = negative' then .inf negative else .nan
  | .inf negative, _ | _, .inf negative => .inf negative
  | .finite negative q, .finite negative' q' =>
    let sum := signed negative q + signed negative' q'
    if sum = 0 then .finite (negative && negative') 0 else nearest (sum < 0) |sum|

def Double.neg : Double → Double
  | .nan => .nan
  | .inf negative => .inf !negative
  | .finite negative q => .finite (!negative) q

/-- `a - b`. -/
def Double.sub (a b : Double) : Double := a.add b.neg

/-- `a * b`. -/
def Double.mul : Double → Double → Double
  | .nan, _ | _, .nan => .nan
  | .inf negative, .inf negative' => .inf (negative != negative')
  | .inf negative, .finite negative' q | .finite negative q, .inf negative' =>
    if q = 0 then .nan else .inf (negative != negative')
  | .finite negative q, .finite negative' q' => nearest (negative != negative') (q * q')

/-- `a / b`. -/
def Double.div : Double → Double → Double
  | .nan, _ | _, .nan => .nan
  | .inf _, .inf _ => .nan
  | .inf negative, .finite negative' _ => .inf (negative != negative')
  | .finite negative _, .inf negative' => .finite (negative != negative') 0
  | .finite negative q, .finite negative' q' =>
    if q' = 0 then if q = 0 then .nan else .inf (negative != negative')
    else nearest (negative != negative') (q / q')

/-- `static_cast<double>(n)`. -/
def Double.ofInt (n : ℤ) : Double := nearest (n < 0) n.natAbs

theorem Double.le_trans {a b c : Double} (hab : a.le b = true) (hbc : b.le c = true) : a.le c = true := by
  cases a with
  | nan => cases b <;> cases hab
  | inf negative =>
    cases negative with
    | true =>
      cases c with
      | nan => cases b <;> cases hbc
      | inf _ | finite _ _ => rfl
    | false =>
      cases b with
      | nan => cases hab
      | inf negative' => cases negative' <;> cases c <;> first | exact hbc | cases hab
      | finite negative' q' => cases hab
  | finite negative q =>
    cases b with
    | nan => cases hab
    | inf negative' =>
      cases negative' with
      | true => cases hab
      | false =>
        cases c with
        | nan => cases hbc
        | inf negative'' => cases negative'' <;> first | rfl | cases hbc
        | finite negative'' q'' => cases hbc
    | finite negative' q' =>
      cases c with
      | nan => cases hbc
      | inf negative'' => cases negative'' <;> first | rfl | cases hbc
      | finite negative'' q'' =>
        simp only [Double.le, decide_eq_true_eq] at hab hbc ⊢
        exact hab.trans hbc

/-! ### The error -/

theorem roundEven_near {q : ℚ} (hq : 0 ≤ q) : |(roundEven q : ℚ) - q| ≤ 1 / 2 := by
  have hden : (0 : ℚ) < q.den := by exact_mod_cast q.den_pos
  have hnum : (q.num.natAbs : ℚ) = q * q.den := by
    have hcast : ((q.num.natAbs : ℤ) : ℚ) = (q.num : ℚ) := by rw [Int.natAbs_of_nonneg (Rat.num_nonneg.mpr hq)]
    rw [← Int.cast_natCast, hcast, Rat.mul_den_eq_num]
  have hlt : q.num.natAbs % q.den < q.den := Nat.mod_lt _ q.den_pos
  have hdiv : q * q.den = q.den * (q.num.natAbs / q.den : ℕ) + (q.num.natAbs % q.den : ℕ) := by
    rw [← hnum]
    exact_mod_cast (Nat.div_add_mod q.num.natAbs q.den).symm
  -- what is rounded off, in parts of the denominator
  have hpart : q - (q.num.natAbs / q.den : ℕ) = (q.num.natAbs % q.den : ℕ) / (q.den : ℚ) := by
    rw [eq_div_iff hden.ne']
    linarith
  have habs : ∀ w : ℕ, (w = q.num.natAbs / q.den ∧ 2 * (q.num.natAbs % q.den) ≤ q.den ∨
      w = q.num.natAbs / q.den + 1 ∧ q.den ≤ 2 * (q.num.natAbs % q.den)) → |(w : ℚ) - q| ≤ 1 / 2 := by
    rintro w (⟨rfl, hsmall⟩ | ⟨rfl, hlarge⟩)
    · have hsmall' : ((q.num.natAbs % q.den : ℕ) : ℚ) / q.den ≤ 1 / 2 := by
        rw [div_le_iff₀ hden]
        have : (2 * (q.num.natAbs % q.den : ℕ) : ℚ) ≤ q.den := by exact_mod_cast hsmall
        linarith
      have hnonneg : 0 ≤ ((q.num.natAbs % q.den : ℕ) : ℚ) / q.den := by positivity
      rw [abs_le]
      constructor <;> linarith
    · have hlarge' : 1 / 2 ≤ ((q.num.natAbs % q.den : ℕ) : ℚ) / q.den := by
        rw [le_div_iff₀ hden]
        have : (q.den : ℚ) ≤ 2 * (q.num.natAbs % q.den : ℕ) := by exact_mod_cast hlarge
        linarith
      have hone : ((q.num.natAbs % q.den : ℕ) : ℚ) / q.den ≤ 1 := by
        rw [div_le_one hden]
        exact_mod_cast hlt.le
      rw [Nat.cast_succ, abs_le]
      constructor <;> linarith
  refine habs _ ?_
  unfold roundEven
  dsimp only
  split_ifs <;> omega

theorem pow_exponentOf_le {q : ℚ} (hq : 0 < q) : (2 : ℚ) ^ exponentOf Nat.size 2 q ≤ q := by
  unfold exponentOf
  dsimp only
  split_ifs with h
  · exact h
  · have hden : (0 : ℚ) < q.den := by exact_mod_cast q.den_pos
    have hnum : q.num.natAbs ≠ 0 := Int.natAbs_ne_zero.mpr (Rat.num_pos.mpr hq).ne'
    have hsize : 0 < Nat.size q.num.natAbs := Nat.size_pos.mpr (Nat.pos_of_ne_zero hnum)
    have hlow : 2 ^ (Nat.size q.num.natAbs - 1) ≤ q.num.natAbs := Nat.lt_size.mp (Nat.sub_lt hsize one_pos)
    have hhigh : q.den < 2 ^ Nat.size q.den := Nat.lt_size_self _
    have heq : q = q.num.natAbs / q.den := by
      have hcast : ((q.num.natAbs : ℤ) : ℚ) = (q.num : ℚ) := by rw [Int.natAbs_of_nonneg (Rat.num_pos.mpr hq).le]
      rw [← Int.cast_natCast, hcast, Rat.num_div_den]
    have hexp : (Nat.size q.num.natAbs : ℤ) - Nat.size q.den - 1 = ((Nat.size q.num.natAbs - 1 : ℕ) : ℤ) - (Nat.size q.den : ℕ) := by
      omega
    rw [hexp, zpow_sub₀ two_ne_zero, zpow_natCast, zpow_natCast]
    calc (2 : ℚ) ^ (Nat.size q.num.natAbs - 1) / 2 ^ Nat.size q.den
        ≤ q.num.natAbs / 2 ^ Nat.size q.den := by
          gcongr
          exact_mod_cast hlow
      _ ≤ q.num.natAbs / q.den := by
          gcongr
          exact_mod_cast hhigh.le
      _ = q := heq.symm

/-- How far the double nearest to a fraction may be from it. -/
def slip (q : ℚ) : ℚ := q / 2 ^ 53 + 1 / 2 ^ 200

/-- A double that is not negative and not far from a fraction. -/
def Double.Near (x : Double) (q : ℚ) : Prop := ∃ v, x = .finite false v ∧ 0 ≤ v ∧ |v - q| ≤ slip q

theorem nearest_near {q : ℚ} (hq : 0 ≤ q) (hsmall : q ≤ 2 ^ 200) : (nearest false q).Near q := by
  unfold nearest
  split_ifs with h
  · refine ⟨0, rfl, le_rfl, ?_⟩
    rw [h, sub_zero, abs_zero, slip, zero_div, zero_add]
    positivity
  · have hpos' : 0 < q := lt_of_le_of_ne hq (Ne.symm h)
    dsimp only
    set e := max (exponentOf Nat.size 2 q - 52) (-1074) with he
    have hulp : (0 : ℚ) < 2 ^ e := zpow_pos two_pos e
    -- half of the last place is a part of the number, or of the least double
    have hhalf : (2 : ℚ) ^ e / 2 ≤ slip q := by
      unfold slip
      rcases max_choice (exponentOf Nat.size 2 q - 52) (-1074) with hmax | hmax
      · have hpow : (2 : ℚ) ^ e / 2 = 2 ^ exponentOf Nat.size 2 q / 2 ^ 53 := by
          rw [he, hmax, zpow_sub₀ two_ne_zero, div_div]
          norm_cast
        have hle : (2 : ℚ) ^ exponentOf Nat.size 2 q / 2 ^ 53 ≤ q / 2 ^ 53 := by
          gcongr
          exact pow_exponentOf_le hpos'
        have hleast : (0 : ℚ) ≤ 1 / 2 ^ 200 := by positivity
        rw [hpow]
        exact hle.trans (le_add_of_nonneg_right hleast)
      · have hleast : (2 : ℚ) ^ e ≤ 1 / 2 ^ 200 := by
          rw [he, hmax, one_div, ← zpow_natCast, ← zpow_neg]
          exact zpow_le_zpow_right₀ one_le_two (by decide)
        have hpart : (0 : ℚ) ≤ q / 2 ^ 53 := by positivity
        linarith
    have hround : |(roundEven (q / 2 ^ e) : ℚ) * 2 ^ e - q| ≤ slip q := by
      have hfactor : (roundEven (q / 2 ^ e) : ℚ) * 2 ^ e - q = ((roundEven (q / 2 ^ e) : ℚ) - q / 2 ^ e) * 2 ^ e := by
        rw [sub_mul, div_mul_cancel₀ _ hulp.ne']
      rw [hfactor, abs_mul, abs_of_pos hulp]
      have hunit := mul_le_mul_of_nonneg_right (roundEven_near (div_nonneg hq hulp.le)) hulp.le
      linarith
    have hnot : ¬ (2 : ℚ) ^ 1024 ≤ roundEven (q / 2 ^ e) * 2 ^ e := by
      have hslip : slip q ≤ q + 1 := by
        unfold slip
        have hpart : q / 2 ^ 53 ≤ q := div_le_self hq (one_le_pow₀ one_le_two)
        have hleast : (1 : ℚ) / 2 ^ 1075 ≤ 1 := div_le_self zero_le_one (one_le_pow₀ one_le_two)
        linarith
      have hbig : (2 : ℚ) ^ 202 ≤ 2 ^ 1024 := pow_le_pow_right₀ one_le_two (by decide)
      have hupper : (roundEven (q / 2 ^ e) : ℚ) * 2 ^ e ≤ slip q + q := sub_le_iff_le_add.mp (abs_le.mp hround).2
      intro hover
      have hroom : (2 : ℚ) ^ 202 ≤ slip q + q := hbig.trans (hover.trans hupper)
      linarith only [hroom, hslip, hsmall]
    rw [if_neg hnot]
    exact ⟨_, rfl, mul_nonneg (Nat.cast_nonneg _) hulp.le, hround⟩

theorem slip_nonneg {q : ℚ} (hq : 0 ≤ q) : 0 ≤ slip q := add_nonneg (by positivity) (by positivity)

theorem Double.ofInt_near {n : ℕ} (hn : (n : ℚ) ≤ 2 ^ 200) : (Double.ofInt n).Near n := by
  have hsign : decide ((n : ℤ) < 0) = false := decide_eq_false (not_lt.mpr (Int.natCast_nonneg n))
  rw [Double.ofInt, hsign, Int.natAbs_natCast]
  exact nearest_near (Nat.cast_nonneg n) hn

theorem Double.div_near {q q' : ℚ} (hq : 0 ≤ q) (hq' : 0 < q') (hsmall : q / q' ≤ 2 ^ 200) :
    ((Double.finite false q).div (.finite false q')).Near (q / q') := by
  rw [Double.div, if_neg hq'.ne']
  exact nearest_near (div_nonneg hq hq'.le) hsmall

theorem Double.mul_near {q q' : ℚ} (hq : 0 ≤ q) (hq' : 0 ≤ q') (hsmall : q * q' ≤ 2 ^ 200) :
    ((Double.finite false q).mul (.finite false q')).Near (q * q') :=
  nearest_near (mul_nonneg hq hq') hsmall

theorem Double.add_near {q q' : ℚ} (hq : 0 ≤ q) (hq' : 0 ≤ q') (hsmall : q + q' ≤ 2 ^ 200) :
    ((Double.finite false q).add (.finite false q')).Near (q + q') := by
  have hsum : 0 ≤ q + q' := add_nonneg hq hq'
  change (if q + q' = 0 then Double.finite false 0 else nearest (decide (q + q' < 0)) |q + q'|).Near (q + q')
  split_ifs with h
  · refine ⟨0, rfl, le_rfl, ?_⟩
    rw [h, sub_zero, abs_zero]
    exact slip_nonneg le_rfl
  · rw [decide_eq_false (not_lt.mpr hsum), abs_of_nonneg hsum]
    exact nearest_near hsum hsmall

theorem Double.sub_near {q q' : ℚ} (hle : q' ≤ q) (hsmall : q - q' ≤ 2 ^ 200) :
    ((Double.finite false q).sub (.finite false q')).Near (q - q') := by
  have hsum : 0 ≤ q - q' := sub_nonneg.mpr hle
  change (if q + -q' = 0 then Double.finite false 0 else nearest (decide (q + -q' < 0)) |q + -q'|).Near (q - q')
  rw [← sub_eq_add_neg]
  split_ifs with h
  · refine ⟨0, rfl, le_rfl, ?_⟩
    rw [h, sub_zero, abs_zero]
    exact slip_nonneg le_rfl
  · rw [decide_eq_false (not_lt.mpr hsum), abs_of_nonneg hsum]
    exact nearest_near hsum hsmall

theorem Double.min_finite (q q' : ℚ) :
    (Double.finite false q).min (.finite false q') = .finite false (Min.min q q') := by
  unfold Double.min Double.lt signed
  rcases lt_or_ge q' q with h | h
  · simp [h, min_eq_right h.le]
  · simp [not_lt.mpr h, min_eq_left h]

/-! ### With a sign -/

/-- A finite double that is not far from a number. -/
def Double.Close (x : Double) (q : ℚ) : Prop := ∃ negative v, x = .finite negative v ∧ 0 ≤ v ∧ |signed negative v - q| ≤ slip |q|

theorem signed_lt (q : ℚ) : signed (q < 0) |q| = q := by
  unfold signed
  split_ifs with h
  · rw [abs_of_neg (of_decide_eq_true h), neg_neg]
  · exact abs_of_nonneg (not_lt.mp fun hneg => h (decide_eq_true hneg))

theorem abs_signed {negative : Bool} {v : ℚ} (hv : 0 ≤ v) : |signed negative v| = v := by
  cases negative with
  | false => exact abs_of_nonneg hv
  | true => exact (abs_neg v).trans (abs_of_nonneg hv)

theorem signed_sub (negative : Bool) (v v' : ℚ) : abs (signed negative v - signed negative v') = |v - v'| := by
  cases negative with
  | false => rfl
  | true =>
    change |-v - -v'| = _
    rw [neg_sub_neg, abs_sub_comm]

theorem signed_not (negative : Bool) (v : ℚ) : signed (!negative) v = -signed negative v := by
  cases negative with
  | false => rfl
  | true => exact (neg_neg v).symm

theorem signed_mul (negative negative' : Bool) (v v' : ℚ) :
    signed (negative != negative') (v * v') = signed negative v * signed negative' v' := by
  cases negative <;> cases negative' <;> simp [signed]

theorem nearest_sign {q v : ℚ} (h : nearest false q = .finite false v) (negative : Bool) : nearest negative q = .finite negative v := by
  unfold nearest at h ⊢
  dsimp only at h ⊢
  split_ifs at h ⊢
  · rw [(Double.finite.inj h).2]
  · rw [(Double.finite.inj h).2]

theorem nearest_close {q : ℚ} (hsmall : |q| ≤ 2 ^ 200) {negative : Bool} (hsign : signed negative |q| = q) :
    (nearest negative |q|).Close q := by
  obtain ⟨v, hv, hpos, hclose⟩ := nearest_near (abs_nonneg q) hsmall
  refine ⟨negative, v, nearest_sign hv negative, hpos, ?_⟩
  have hdiff := signed_sub negative v |q|
  rw [hsign] at hdiff
  rwa [hdiff]

theorem Double.ofInt_close {n : ℤ} (hsmall : |(n : ℚ)| ≤ 2 ^ 200) : (Double.ofInt n).Close n := by
  have habs : ((n.natAbs : ℕ) : ℚ) = |(n : ℚ)| := by rw [Nat.cast_natAbs, Int.cast_abs]
  have hsign := signed_lt (n : ℚ)
  rw [Double.ofInt, habs]
  refine nearest_close hsmall ?_
  rwa [decide_eq_decide.mpr Int.cast_lt_zero] at hsign

theorem Double.mul_close {negative negative' : Bool} {v v' : ℚ} (hv : 0 ≤ v) (hv' : 0 ≤ v') (hsmall : v * v' ≤ 2 ^ 200) :
    ((Double.finite negative v).mul (.finite negative' v')).Close (signed negative v * signed negative' v') := by
  have habs : |signed negative v * signed negative' v'| = v * v' := by rw [abs_mul, abs_signed hv, abs_signed hv']
  rw [Double.mul, ← habs]
  refine nearest_close (by rwa [habs]) ?_
  rw [habs]
  exact signed_mul negative negative' v v'

theorem Double.add_close {negative negative' : Bool} {v v' : ℚ} (hsmall : |signed negative v + signed negative' v'| ≤ 2 ^ 200) :
    ((Double.finite negative v).add (.finite negative' v')).Close (signed negative v + signed negative' v') := by
  rw [Double.add]
  split_ifs with hzero
  · refine ⟨_, 0, rfl, le_rfl, ?_⟩
    have hnone : signed (negative && negative') 0 = 0 := by cases negative && negative' <;> simp [signed]
    rw [hzero, hnone, sub_zero, abs_zero]
    exact slip_nonneg le_rfl
  · exact nearest_close hsmall (signed_lt _)

theorem Double.sub_close {negative negative' : Bool} {v v' : ℚ} (hsmall : |signed negative v - signed negative' v'| ≤ 2 ^ 200) :
    ((Double.finite negative v).sub (.finite negative' v')).Close (signed negative v - signed negative' v') := by
  rw [sub_eq_add_neg, ← signed_not] at hsmall ⊢
  exact Double.add_close hsmall

theorem Double.lt_finite (negative negative' : Bool) (v v' : ℚ) :
    (Double.finite negative v).lt (.finite negative' v') = decide (signed negative v < signed negative' v') := rfl

end Decimal
