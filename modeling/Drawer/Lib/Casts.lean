import Mathlib.Tactic

/-! Casts of integers to fixed-width types: which integers they keep, and what they
make of the others. And shifts, by what they keep of a number that does not fit, and
quotients that are cut off toward zero. -/

namespace Casts

/-- The low 32 bits of an integer are an `int`. -/
theorem int32_bmod (n : Int) : -2147483648 ≤ n.bmod 4294967296 ∧ n.bmod 4294967296 ≤ 2147483647 := by
  have hlow := Int.le_bmod (x := n) (m := 4294967296) (by decide)
  have hhigh := Int.bmod_lt (x := n) (m := 4294967296) (by decide)
  omega

theorem bmod_of_int32 {n : Int} (h : -2147483648 ≤ n ∧ n ≤ 2147483647) : n.bmod 4294967296 = n :=
  Int.bmod_eq_of_le (by omega) (by omega)

theorem int32_kept_iff (n : Int) : (Int32.ofInt n).toInt = n ↔ -2147483648 ≤ n ∧ n ≤ 2147483647 := by
  constructor
  · intro h
    have hle := (Int32.ofInt n).le_toInt
    have hlt := (Int32.ofInt n).toInt_lt
    omega
  · rintro ⟨hlow, hhigh⟩
    exact Int32.toInt_ofInt_of_le (by omega) (by omega)

theorem int64_kept_iff (n : Int) : (Int64.ofInt n).toInt = n ↔ -9223372036854775808 ≤ n ∧ n ≤ 9223372036854775807 := by
  constructor
  · intro h
    have hle := (Int64.ofInt n).le_toInt
    have hlt := (Int64.ofInt n).toInt_lt
    omega
  · rintro ⟨hlow, hhigh⟩
    exact Int64.toInt_ofInt_of_le (by omega) (by omega)

theorem uint64_kept_iff (n : Int) : ((UInt64.ofInt n).toNat : Int) = n ↔ 0 ≤ n ∧ n ≤ 18446744073709551615 := by
  constructor
  · intro h
    have hlt := (UInt64.ofInt n).toNat_lt
    omega
  · rintro ⟨hlow, hhigh⟩
    rw [UInt64.ofInt, UInt64.toNat_ofNat']
    omega

theorem int32_eq_zero_iff (n : Int) : Int32.ofInt n = 0 ↔ n % 4294967296 = 0 := by
  have hval : Int32.toInt 0 = 0 := rfl
  rw [← Int32.toInt_inj, Int32.toInt_ofInt, hval, Int.bmod_def]
  simp only [Int32.size]
  split_ifs <;> omega

/-- The difference of two `int`s that are not negative has an absolute value. -/
theorem int32_abs_sub {a b : Int32} (ha : 0 ≤ a.toInt) (hb : 0 ≤ b.toInt) : (a - b).abs.toInt = (a.toInt - b.toInt).natAbs := by
  have hlt := a.toInt_lt
  have hlt' := b.toInt_lt
  have hsub : (a - b).toInt = a.toInt - b.toInt := by
    rw [Int32.toInt_sub]
    exact Int.bmod_eq_of_le (by omega) (by omega)
  have hmin : (a - b).toBitVec ≠ BitVec.intMin 32 := by
    intro h
    have hmin : (a - b).toInt = -2147483648 := (congrArg BitVec.toInt h).trans (by decide)
    omega
  rw [← hsub]
  exact BitVec.toInt_abs_eq_natAbs_of_ne_intMin hmin

/-- Whether the low 32 bits are zero tells whether the integer is, unless they are all it lacks. -/
theorem int32_ne_zero_iff (n : Int) : (Int32.ofInt n != 0) = (n != 0) ↔ n = 0 ∨ n % 4294967296 ≠ 0 := by
  by_cases hn : n = 0
  · simp [hn]
  · have hright : (n != 0) = true := by simpa using hn
    rw [hright]
    simp [int32_eq_zero_iff, hn]

/-! ### Shifts -/

theorem int32_shiftLeft_eight (a : Int32) : a <<< (8 : Int32) = a * 256 := by
  refine Int32.toBitVec_inj.mp ?_
  rw [Int32.toBitVec_shiftLeft, Int32.toBitVec_mul]
  exact BitVec.shiftLeft_eq_mul_twoPow a.toBitVec 8

theorem sshiftRight_and {n k w : ℕ} (h : k + w ≤ 32) :
    (BitVec.ofNat 32 n).sshiftRight k &&& BitVec.ofNat 32 (2 ^ w - 1) = BitVec.ofNat 32 (n / 2 ^ k % 2 ^ w) := by
  refine BitVec.eq_of_getLsbD_eq fun i hi => ?_
  rw [BitVec.getLsbD_and, BitVec.getLsbD_sshiftRight, BitVec.getLsbD_ofNat, BitVec.getLsbD_ofNat, BitVec.getLsbD_ofNat,
    Nat.testBit_two_pow_sub_one, Nat.testBit_mod_two_pow, Nat.testBit_div_two_pow]
  by_cases hw : i < w
  · have hk : k + i < 32 := by omega
    simp [hw, hi, hk, Nat.add_comm]
  · simp [hw]

/-- The distance of a shift is taken to the modulus 32. -/
theorem smod_ofNat : ∀ k < 32, (Int32.ofNat k).toBitVec.smod 32 = BitVec.ofNat 32 k := by decide

theorem shiftRight_ofNat {k : ℕ} (a : Int32) (hk : k < 32) : (a >>> Int32.ofNat k).toBitVec = a.toBitVec.sshiftRight k := by
  rw [Int32.toBitVec_shiftRight, smod_ofNat k hk, BitVec.sshiftRight', BitVec.toNat_ofNat, Nat.mod_eq_of_lt (by omega)]

/-- The low bits of an arithmetic shift to the right, which the sign does not reach. -/
theorem int32_shiftRight_and (n : ℕ) {k w : ℕ} (hk : k < 32) (hw : w < 32) (h : k + w ≤ 32) :
    ((Int32.ofNat n >>> Int32.ofNat k) &&& Int32.ofNat (2 ^ w - 1)).toInt = n / 2 ^ k % 2 ^ w := by
  have hbits : (Int32.ofNat n >>> Int32.ofNat k) &&& Int32.ofNat (2 ^ w - 1) = Int32.ofNat (n / 2 ^ k % 2 ^ w) :=
    Int32.toBitVec_inj.mp (by rw [Int32.toBitVec_and, shiftRight_ofNat _ hk]; exact sshiftRight_and h)
  have hsmall : n / 2 ^ k % 2 ^ w < 2 ^ 31 :=
    (Nat.mod_lt _ (by positivity)).trans_le (Nat.pow_le_pow_right (by decide) (by omega))
  rw [hbits, Int32.toInt_ofNat_of_lt hsmall]
  push_cast
  rfl

/-! ### Quotients that are cut off -/

theorem tdiv_neg_iff {a b : Int} (hb : 0 < b) : a.tdiv b < 0 ↔ b ≤ -a := by
  obtain ⟨n, rfl⟩ : ∃ n, a = -n := ⟨-a, (neg_neg _).symm⟩
  rw [Int.neg_tdiv, neg_neg, neg_lt_zero]
  rcases le_or_gt 0 n with hn | hn
  · rw [Int.tdiv_eq_ediv_of_nonneg hn, ← Int.add_one_le_iff, zero_add, Int.le_ediv_iff_mul_le hb, one_mul]
  · have hnonneg := Int.tdiv_nonneg (neg_nonneg.mpr hn.le) hb.le
    rw [Int.neg_tdiv] at hnonneg
    omega

theorem tdiv_pos_iff {a b : Int} (hb : 0 < b) : 0 < a.tdiv b ↔ b ≤ a := by
  have hneg : (-a).tdiv b < 0 ↔ b ≤ - -a := tdiv_neg_iff hb
  rwa [Int.neg_tdiv, neg_neg, neg_lt_zero] at hneg

theorem neg_tdiv_of_le {a b : Int} (hb : 0 < b) (h : b ≤ -a) : -a.tdiv b = -a / b := by
  rw [← Int.neg_tdiv, Int.tdiv_eq_ediv_of_nonneg (by omega)]

end Casts
