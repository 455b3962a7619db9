import Drawer.Proofs.Scale

/-! What the audit of a payout is worth. What it says is what the readings say, but for the rounding of doubles; and after a
dispense it has nothing to say, since both weighings are made when the coins are out. -/

namespace Drawer.Scale
open Effect Decimal

variable {α : Type} {rises n : ℕ} {conversions : List (ℕ × BitVec 24)}

/-! ### What it says -/

/-- How far readings are apart. -/
def spread : List ℤ → ℤ
  | [] => 0
  | z :: l => l.foldl max z - l.foldl min z

theorem toInt_greatest (v : BitVec 64) (l : List (BitVec 64)) : (greatest v l).toInt = (l.map BitVec.toInt).foldl max v.toInt := by
  induction l generalizing v with
  | nil => rfl
  | cons v' l ih =>
    rw [greatest, List.foldl_cons, List.map_cons, List.foldl_cons, ← greatest, ih]
    congr 1
    have hlt := BitVec.slt_iff_toInt_lt (x := v) (y := v')
    split_ifs with h
    · exact (max_eq_right (hlt.mp h).le).symm
    · exact (max_eq_left (not_lt.mp fun hv => h (hlt.mpr hv))).symm

theorem toInt_least (v : BitVec 64) (l : List (BitVec 64)) : (least v l).toInt = (l.map BitVec.toInt).foldl min v.toInt := by
  induction l generalizing v with
  | nil => rfl
  | cons v' l ih =>
    rw [least, List.foldl_cons, List.map_cons, List.foldl_cons, ← least, ih]
    congr 1
    have hlt := BitVec.slt_iff_toInt_lt (x := v') (y := v)
    split_ifs with h
    · exact (min_eq_right (hlt.mp h).le).symm
    · exact (min_eq_left (not_lt.mp fun hv => h (hlt.mpr hv))).symm

theorem foldl_mem {f : ℤ → ℤ → ℤ} (hf : ∀ a b, f a b = a ∨ f a b = b) (z : ℤ) (l : List ℤ) : l.foldl f z ∈ z :: l := by
  induction l generalizing z with
  | nil => exact List.mem_cons_self
  | cons z' l ih =>
    rcases hf z z' with h | h
    · rw [List.foldl_cons, h]
      exact List.cons_subset_cons z (List.subset_cons_self z' l) (ih z)
    · rw [List.foldl_cons, h]
      exact List.mem_cons_of_mem z (ih z')

theorem stuck_eq (cfg : AuditConfig) {l : List (BitVec 64)} (h : ∀ v ∈ l, Small v.toInt) :
    cfg.stuck l = decide (1 < l.length ∧ spread (l.map BitVec.toInt) < cfg.stuckEpsilonRaw.toInt) := by
  match l with
  | [] => simp [AuditConfig.stuck]
  | [_] => simp [AuditConfig.stuck]
  | v :: v' :: l =>
    have hsmall : ∀ z ∈ (v :: v' :: l).map BitVec.toInt, Small z := List.forall_mem_map.mpr h
    have hgreatest := hsmall _ (foldl_mem max_choice v.toInt ((v' :: l).map BitVec.toInt))
    have hleast := hsmall _ (foldl_mem min_choice v.toInt ((v' :: l).map BitVec.toInt))
    have hbound : |(greatest v (v' :: l)).toInt - (least v (v' :: l)).toInt| < 2 ^ 63 := by
      rw [toInt_greatest, toInt_least]
      rw [Small, abs_le] at hgreatest hleast
      rw [abs_lt]
      omega
    have hdiff : (greatest v (v' :: l) - least v (v' :: l)).toInt = spread ((v :: v' :: l).map BitVec.toInt) := by
      rw [BitVec.toInt_sub, toInt_small hbound, toInt_greatest, toInt_least]
      rfl
    rw [AuditConfig.stuck, BitVec.slt_eq_decide, hdiff]
    simp

/-- The readings of the two weighings, of a scale with these conversions. -/
def AuditConfig.before (cfg : AuditConfig) (conversions : List (ℕ × BitVec 24)) : List ℤ :=
  readings cfg.samplesPre.toInt.toNat conversions

def AuditConfig.after (cfg : AuditConfig) (conversions : List (ℕ × BitVec 24)) : List ℤ :=
  readings cfg.samplesPost.toInt.toNat (conversions.drop cfg.samplesPre.toInt.toNat)

/-- What the audit is to say of what the scale shows before and after. -/
def AuditConfig.verdict (cfg : AuditConfig) (pre post : List ℤ) (coins : ℤ) : AuditResult :=
  cfg.compare (mean post - mean pre) coins
    (decide (1 < (pre ++ post).length ∧ spread (pre ++ post) < cfg.stuckEpsilonRaw.toInt))

/-- The conversions that the audit needs. -/
def AuditConfig.InTime (cfg : AuditConfig) (conversions : List (ℕ × BitVec 24)) : Prop :=
  0 ≤ cfg.samplesPre.toInt + cfg.samplesPost.toInt ∧ Timely (cfg.samplesPre.toInt.toNat + cfg.samplesPost.toInt.toNat) conversions

instance (cfg : AuditConfig) (conversions : List (ℕ × BitVec 24)) : Decidable (cfg.InTime conversions) :=
  inferInstanceAs (Decidable (_ ∧ _))

theorem weighings_spec (cfg : AuditConfig) (hx : HX711) (h : cfg.InTime conversions) (hrises : Idle rises) (coins : ℤ) :
    (performFrom Converter.world { conversions, rises } (cfg.weighings hx coins)).2 =
      .ok (cfg.verdict (cfg.before conversions) (cfg.after conversions) coins) := by
  obtain ⟨hroom, htimely⟩ := h
  obtain ⟨hpre, hpost⟩ := timely_add.mp htimely
  have hsmallPre := small_valuesOf cfg.samplesPre.toInt.toNat conversions
  have hsmallPost := small_valuesOf cfg.samplesPost.toInt.toNat (conversions.drop cfg.samplesPre.toInt.toNat)
  have hmeanPre := toInt_meanOf hsmallPre (length_valuesOf hpre)
  have hmeanPost := toInt_meanOf hsmallPost (length_valuesOf hpost)
  -- two means are not too far from each other
  have hdelta : |mean (readings cfg.samplesPost.toInt.toNat (conversions.drop cfg.samplesPre.toInt.toNat)) -
      mean (readings cfg.samplesPre.toInt.toNat conversions)| < 2 ^ 63 := by
    have hone := abs_mean_le (small_readings _ conversions) (by rw [length_readings hpre]; exact toNat_lt _)
    have htwo := abs_mean_le (small_readings _ (conversions.drop cfg.samplesPre.toInt.toNat))
      (by rw [length_readings hpost]; exact toNat_lt _)
    rw [abs_lt] at hone htwo ⊢
    omega
  have hstuck := stuck_eq cfg (List.forall_mem_append.mpr ⟨hsmallPre, hsmallPost⟩)
  rw [map_valuesOf] at hmeanPre hmeanPost
  rw [List.map_append, map_valuesOf, map_valuesOf] at hstuck
  obtain ⟨_, hrises', hfirst⟩ := weigh_spec hx hpre hrises 0 [] (cfg.weighAgain hx coins)
  rw [AuditConfig.weighings, if_neg (not_lt.mpr hroom), hfirst, AuditConfig.weighAgain]
  obtain ⟨_, -, hsecond⟩ := weigh_spec hx hpost hrises' 0 ([] ++ valuesOf cfg.samplesPre.toInt.toNat conversions) _
  rw [hsecond, performFrom, BitVec.toInt_sub, hmeanPre, hmeanPost, toInt_small hdelta, List.nil_append, hstuck]
  simp [AuditConfig.verdict, AuditConfig.before, AuditConfig.after, valuesOf, readings]

theorem weighings_late (cfg : AuditConfig) (hx : HX711) (h : ¬ cfg.InTime conversions) (hrises : Idle rises) (coins : ℤ) :
    ∃ ex, (performFrom Converter.world { conversions, rises } (cfg.weighings hx coins)).2 = .error ex := by
  unfold AuditConfig.weighings
  split_ifs with hroom
  · exact ⟨_, rfl⟩
  · have hlate : ¬ Timely (cfg.samplesPre.toInt.toNat + cfg.samplesPost.toInt.toNat) conversions :=
      fun htimely => h ⟨not_lt.mp hroom, htimely⟩
    rw [timely_add] at hlate
    by_cases hpre : Timely cfg.samplesPre.toInt.toNat conversions
    · obtain ⟨_, hrises', hfirst⟩ := weigh_spec hx hpre hrises 0 [] (cfg.weighAgain hx coins)
      rw [hfirst]
      exact ⟨_, weigh_late hx (fun hpost => hlate ⟨hpre, hpost⟩) hrises' _ _ _⟩
    · exact ⟨_, weigh_late hx hpre hrises _ _ _⟩

theorem run_spec (cfg : AuditConfig) (hx : HX711) (conversions : List (ℕ × BitVec 24)) (hrises : Idle rises) (coins : ℤ) :
    (performFrom Converter.world { conversions, rises } (cfg.run (some hx) coins)).2 =
      if cfg.InTime conversions then
        cfg.verdict (cfg.before conversions) (cfg.after conversions) coins
      else { skipped := true } := by
  rw [AuditConfig.run, performFrom_map]
  split_ifs with h
  · rw [weighings_spec cfg hx h hrises]
    rfl
  · obtain ⟨_, hthrown⟩ := weighings_late cfg hx h hrises coins
    rw [hthrown]
    rfl

/-! ### In doubles -/

/-- A finite double, and not a huge one. -/
def Holds (x : Double) (q : ℚ) : Prop := |q| ≤ 2 ^ 100 ∧ ∃ negative v, x = .finite negative v ∧ 0 ≤ v ∧ signed negative v = q

/-- How far the weighings may be misjudged by the arithmetic. -/
def slack (x y z : ℚ) : ℚ := (|x| + |y| + |z|) / 2 ^ 50 + 1 / 2 ^ 90

/-- A whole number times a double. -/
theorem product_near {n : ℤ} (hn : |(n : ℚ)| ≤ 2 ^ 60) {x : Double} {q : ℚ} (hx : Holds x q) :
    ∃ negative v, (Double.ofInt n).mul x = .finite negative v ∧ 0 ≤ v ∧
      |signed negative v - n * q| ≤ |n * q| / 2 ^ 51 + 1 / 2 ^ 95 := by
  obtain ⟨hsmall, negative, v, rfl, hv, rfl⟩ := hx
  rw [abs_signed hv] at hsmall
  obtain ⟨sign, d, hd, hpos, hclose⟩ := Double.ofInt_close (hn.trans (pow_le_pow_right₀ one_le_two (by decide)))
  have habs : |n * signed negative v| = |(n : ℚ)| * v := by rw [abs_mul, abs_signed hv]
  -- the number itself may be rounded
  have hfactor : |signed sign d * signed negative v - n * signed negative v| ≤ |(n : ℚ)| * v / 2 ^ 53 + v / 2 ^ 200 := by
    rw [← sub_mul, abs_mul, abs_signed hv]
    calc |signed sign d - n| * v ≤ slip |(n : ℚ)| * v := mul_le_mul_of_nonneg_right hclose hv
      _ = |(n : ℚ)| * v / 2 ^ 53 + v / 2 ^ 200 := by
        unfold slip
        ring
  have hbig : |(n : ℚ)| * v ≤ 2 ^ 160 := by
    calc |(n : ℚ)| * v ≤ 2 ^ 60 * 2 ^ 100 := mul_le_mul hn hsmall hv (by positivity)
      _ = 2 ^ 160 := by norm_num
  have hdv : d * v ≤ |(n : ℚ)| * v + (|(n : ℚ)| * v / 2 ^ 53 + v / 2 ^ 200) := by
    have hprod : |signed sign d * signed negative v| = d * v := by rw [abs_mul, abs_signed hpos, abs_signed hv]
    have htriangle := abs_sub_abs_le_abs_sub (signed sign d * signed negative v) (n * signed negative v)
    rw [hprod, habs] at htriangle
    linarith
  have hroom : d * v ≤ 2 ^ 200 := by
    refine hdv.trans ?_
    norm_num at hbig hsmall ⊢
    linarith
  obtain ⟨sign', w, hw, hwpos, hwclose⟩ := Double.mul_close hpos hv hroom
  refine ⟨sign', w, by rw [hd]; exact hw, hwpos, ?_⟩
  have hslip : |signed sign d * signed negative v| = d * v := by rw [abs_mul, abs_signed hpos, abs_signed hv]
  rw [hslip] at hwclose
  have htriangle := abs_sub_le (signed sign' w) (signed sign d * signed negative v) (n * signed negative v)
  have hnonneg : 0 ≤ |(n : ℚ)| * v := mul_nonneg (abs_nonneg _) hv
  rw [habs]
  unfold slip at hwclose
  norm_num at hwclose hfactor hdv hsmall ⊢
  linarith

variable {cfg : AuditConfig} {γ m t : ℚ} {deltaRaw coins : ℤ}

/-- The numbers that the configuration has for the scale and for a coin. -/
structure AuditConfig.Given (cfg : AuditConfig) (γ m t : ℚ) : Prop where
  grams : Holds cfg.gramsPerRaw γ
  mass : Holds cfg.massG m
  tol : Holds cfg.tolPerCoinG t

/-- How near a rounded product is to what it should be. -/
def Near (p a : ℚ) : Prop := |p - a| ≤ |a| / 2 ^ 51 + 1 / 2 ^ 95

theorem Near.abs_le {p a : ℚ} (h : Near p a) : |p| ≤ |a| + (|a| / 2 ^ 51 + 1 / 2 ^ 95) := by
  have htriangle := abs_sub_abs_le_abs_sub p a
  rw [Near] at h
  linarith

theorem Near.small {p a : ℚ} (h : Near p a) (ha : |a| ≤ 2 ^ 160) : |p| ≤ 2 ^ 161 := by
  have habs := h.abs_le
  norm_num at habs ha ⊢
  linarith

theorem rounded_near {w s c p q a b : ℚ} (hw : |w - s| ≤ slip |s|) (hp : Near p a) (hq : Near q b) (hs : |s| ≤ |p| + |q|)
    (hc : |s - c| ≤ |p - a| + |q - b|) : |w - c| ≤ (|a| + |b|) * (3 / 2 ^ 52) + 1 / 2 ^ 93 := by
  have htriangle := abs_sub_le w s c
  have hp' := hp.abs_le
  have hq' := hq.abs_le
  have ha := abs_nonneg a
  have hb := abs_nonneg b
  unfold slip at hw
  unfold Near at hp hq
  norm_num at hw hp hq hp' hq' ⊢
  linarith

theorem product_small {n : ℤ} {x : Double} {q : ℚ} (hn : |(n : ℚ)| ≤ 2 ^ 60) (hx : Holds x q) : |n * q| ≤ 2 ^ 160 := by
  rw [abs_mul]
  calc |(n : ℚ)| * |q| ≤ 2 ^ 60 * 2 ^ 100 := mul_le_mul hn hx.1 (abs_nonneg q) (by positivity)
    _ = 2 ^ 160 := by norm_num

/-- The audit compares the weight with its bounds, and what it compares is off by no more than the slack. -/
theorem flags_near (hgiven : cfg.Given γ m t) (hdelta : |(deltaRaw : ℚ)| ≤ 2 ^ 60) (hcoins : |(coins : ℚ)| ≤ 2 ^ 60) :
    ∃ x l u : ℚ, (∀ stuck, ("UNDERPAY" ∈ (cfg.compare deltaRaw coins stuck).flags ↔ x < l) ∧
      ("OVERPAY" ∈ (cfg.compare deltaRaw coins stuck).flags ↔ u < x)) ∧
      |x - l - (deltaRaw * γ - (coins * m - coins * t))| ≤ slack (deltaRaw * γ) (coins * m) (coins * t) ∧
      |x - u - (deltaRaw * γ - (coins * m + coins * t))| ≤ slack (deltaRaw * γ) (coins * m) (coins * t) := by
  obtain ⟨sx, x, hx, -, hxnear⟩ := product_near hdelta hgiven.grams
  obtain ⟨sy, y, hy, -, hynear⟩ := product_near hcoins hgiven.mass
  obtain ⟨sz, z, hz, -, hznear⟩ := product_near hcoins hgiven.tol
  have hyroom := Near.small hynear (product_small hcoins hgiven.mass)
  have hzroom := Near.small hznear (product_small hcoins hgiven.tol)
  have hroom : |signed sy y| + |signed sz z| ≤ 2 ^ 200 := by
    norm_num at hyroom hzroom ⊢
    linarith
  obtain ⟨sl, l, hl, -, hlclose⟩ := Double.sub_close ((abs_sub (signed sy y) (signed sz z)).trans hroom)
  obtain ⟨su, u, hu, -, huclose⟩ := Double.add_close ((abs_add_le (signed sy y) (signed sz z)).trans hroom)
  have hlow := rounded_near (c := coins * m - coins * t) hlclose hynear hznear (abs_sub _ _) (by
    rw [sub_sub_sub_comm]
    exact abs_sub _ _)
  have hhigh := rounded_near (c := coins * m + coins * t) huclose hynear hznear (abs_add_le _ _) (by
    rw [add_sub_add_comm]
    exact abs_add_le _ _)
  have hoff : ∀ {b c : ℚ}, |b - c| ≤ (|coins * m| + |coins * t|) * (3 / 2 ^ 52) + 1 / 2 ^ 93 →
      |signed sx x - b - (deltaRaw * γ - c)| ≤ slack (deltaRaw * γ) (coins * m) (coins * t) := by
    intro b c hbc
    have hsub := abs_sub (signed sx x - deltaRaw * γ) (b - c)
    rw [← sub_sub_sub_comm] at hsub
    refine hsub.trans ((add_le_add hxnear hbc).trans ?_)
    unfold slack
    have hxpos := abs_nonneg (deltaRaw * γ)
    have hypos := abs_nonneg (coins * m)
    have hzpos := abs_nonneg (coins * t)
    norm_num at hxpos hypos hzpos ⊢
    linarith
  refine ⟨signed sx x, signed sl l, signed su u, fun stuck => ?_, hoff hlow, hoff hhigh⟩
  simp only [AuditConfig.compare, hx, hy, hz, hl, hu, Double.lt_finite]
  cases stuck <;> simp

/-! ### What the audit is worth -/

theorem ok_iff (cfg : AuditConfig) (deltaRaw coins : ℤ) (stuck : Bool) :
    (cfg.compare deltaRaw coins stuck).ok = true ↔ stuck = false ∧
      "UNDERPAY" ∉ (cfg.compare deltaRaw coins stuck).flags ∧ "OVERPAY" ∉ (cfg.compare deltaRaw coins stuck).flags := by
  simp only [AuditConfig.compare, List.isEmpty_iff, List.append_eq_nil_iff]
  cases stuck <;> simp

theorem mean_cast_small {l : List ℤ} {n : ℕ} (h : ∀ z ∈ l, Small z) (hlength : l.length ≤ n) (hn : n < 2 ^ 31) :
    |((mean l : ℤ) : ℚ)| ≤ 2 ^ 54 := by
  have hmean := abs_mean_le h (hlength.trans_lt hn)
  exact_mod_cast hmean.le

theorem delta_small (cfg : AuditConfig) (conversions : List (ℕ × BitVec 24)) :
    |((mean (cfg.after conversions) - mean (cfg.before conversions) : ℤ) : ℚ)| ≤ 2 ^ 60 := by
  have hlength : ∀ n l, (readings n l).length ≤ n := fun n l => by
    rw [readings, List.length_map]
    exact List.length_take_le n l
  have hafter := mean_cast_small (small_readings _ _) (hlength _ _) (toNat_lt cfg.samplesPost)
    (l := cfg.after conversions)
  have hbefore := mean_cast_small (small_readings _ _) (hlength _ _) (toNat_lt cfg.samplesPre)
    (l := cfg.before conversions)
  have hsub := abs_sub (mean (cfg.after conversions) : ℚ) (mean (cfg.before conversions) : ℚ)
  rw [Int.cast_sub]
  norm_num at hafter hbefore ⊢
  linarith

/-- An audit that is passed was made with every reading in time, and the scale has shown the weight of the coins but for
the tolerance and what the arithmetic may misjudge; and one is passed that has shown it with as much to spare, on a
sensor that is not stuck. -/
theorem audit_right (hgiven : cfg.Given γ m t) (hx : HX711) (hrises : Idle rises) (hcoins : |(coins : ℚ)| ≤ 2 ^ 60) {r : AuditResult}
    (hr : (performFrom Converter.world { conversions, rises } (cfg.run (some hx) coins)).2 = r) {weight : ℚ}
    (hweight : weight = (mean (cfg.after conversions) - mean (cfg.before conversions) : ℤ) * γ) :
    (r.ok = true → cfg.InTime conversions ∧
      |weight - coins * m| ≤ coins * t + slack weight (coins * m) (coins * t)) ∧
    (cfg.InTime conversions → cfg.stuckEpsilonRaw.toInt ≤ spread (cfg.before conversions ++ cfg.after conversions) →
      |weight - coins * m| + slack weight (coins * m) (coins * t) ≤ coins * t → r.ok = true) := by
  subst hweight hr
  obtain ⟨x, l, u, hflags, hlow, hhigh⟩ := flags_near hgiven (delta_small cfg conversions) hcoins
  rw [abs_le] at hlow hhigh
  rw [run_spec cfg hx conversions hrises coins]
  constructor
  · intro hok
    split_ifs at hok with htime
    obtain ⟨-, hunder, hover⟩ := (ok_iff _ _ _ _).mp hok
    have hl := not_lt.mp ((not_congr (hflags _).1).mp hunder)
    have hu := not_lt.mp ((not_congr (hflags _).2).mp hover)
    refine ⟨htime, abs_le.mpr ?_⟩
    constructor <;> linarith
  · intro htime hspread hnear
    rw [if_pos htime]
    have hdiff := abs_le.mp (le_sub_iff_add_le.mpr hnear)
    refine (ok_iff _ _ _ _).mpr ⟨decide_eq_false fun hstuck => absurd hstuck.2 (not_lt.mpr hspread), ?_, ?_⟩
    · rw [(hflags _).1]
      linarith
    · rw [(hflags _).2]
      linarith

def sampleConfig : AuditConfig where
  massG := .finite false (45 / 8)
  tolPerCoinG := .finite false (3 / 8)
  gramsPerRaw := .finite false (1 / 1024)
  samplesPre := 1
  samplesPost := 1

theorem holds_finite {q : ℚ} (hpos : 0 ≤ q) (hsmall : q ≤ 2 ^ 100) : Holds (.finite false q) q :=
  ⟨by rwa [abs_of_nonneg hpos], false, q, rfl, hpos, rfl⟩

theorem sampleConfig_given : sampleConfig.Given (1 / 1024) (45 / 8) (3 / 8) :=
  ⟨holds_finite (by norm_num) (by norm_num), holds_finite (by norm_num) (by norm_num), holds_finite (by norm_num) (by norm_num)⟩

/-- Two coins fall between the weighings. -/
theorem audit_right_sample :
    (performFrom Converter.world { conversions := [(0, 0), (2, 11520)] } (sampleConfig.run (some {}) 2)).2.ok = true := by
  have hafter : mean (sampleConfig.after [(0, 0), (2, 11520)]) = 11520 := by decide
  have hbefore : mean (sampleConfig.before [(0, 0), (2, 11520)]) = 0 := by decide
  refine (audit_right sampleConfig_given {} (Or.inl rfl) (by norm_num) rfl rfl).2 (by decide) (by decide) ?_
  rw [hafter, hbefore, slack]
  norm_num

theorem mean_between {l : List ℤ} {a b : ℤ} (hne : l ≠ []) (h : ∀ z ∈ l, a ≤ z ∧ z ≤ b) : a ≤ mean l ∧ mean l ≤ b := by
  have hpos : (0 : ℤ) < l.length := by exact_mod_cast List.length_pos_iff.mpr hne
  have hmax : max 1 (l.length : ℤ) = l.length := by omega
  have hlow : (l.length : ℤ) * a ≤ l.sum := by
    have hsum := List.card_nsmul_le_sum l a fun z hz => (h z hz).1
    rwa [nsmul_eq_mul] at hsum
  have hhigh : l.sum ≤ l.length * b := by
    have hsum := List.sum_le_card_nsmul l b fun z hz => (h z hz).2
    rwa [nsmul_eq_mul] at hsum
  have hmeanLow := Int.tdiv_le_tdiv hpos hlow
  have hmeanHigh := Int.tdiv_le_tdiv hpos hhigh
  rw [Int.mul_tdiv_cancel_left _ hpos.ne'] at hmeanLow hmeanHigh
  rw [mean, hmax]
  exact ⟨hmeanLow, hmeanHigh⟩

/-- Both weighings of a dispense are made when the coins are out. On a scale at rest, the audit of a payout that weighs more
than the scale still moves and the tolerance allows says that too little was paid, whatever was. -/
theorem dispense_blind {dcfg : Dispense.DispenseConfig} {hopper : Dispense.HopperParallel} {wanted : ℤ} {seen : Dispense.Readings}
    {res : Dispense.DispenseResult} {p : Program LineCall Answer AuditResult} {hx : HX711}
    (hres : runDispense dcfg hopper wanted seen (some hx) cfg = some (res, p)) (hgiven : cfg.Given γ m t) (hrises : Idle rises)
    (htime : cfg.InTime conversions) (hpre : 0 < cfg.samplesPre.toInt) (hpost : 0 < cfg.samplesPost.toInt) {a w : ℤ}
    (hrest : ∀ z ∈ cfg.before conversions ++ cfg.after conversions, a ≤ z ∧ z ≤ a + w)
    (hcoins : |(res.dispensed : ℚ)| ≤ 2 ^ 60)
    (hweight : w * |γ| + res.dispensed * t + slack (w * |γ|) (res.dispensed * m) (res.dispensed * t) < res.dispensed * m) :
    "UNDERPAY" ∈ (performFrom Converter.world { conversions, rises } p).2.flags ∧
      (performFrom Converter.world { conversions, rises } p).2.ok = false := by
  obtain ⟨res', -, heq⟩ := Option.map_eq_some_iff.mp hres
  obtain ⟨rfl, rfl⟩ := Prod.mk.inj heq
  obtain ⟨hearlier, hlater⟩ := List.forall_mem_append.mp hrest
  have hlengths := timely_add.mp htime.2
  have hbefore := mean_between (List.ne_nil_of_length_pos (by rw [AuditConfig.before, length_readings hlengths.1]; omega)) hearlier
  have hafter := mean_between (List.ne_nil_of_length_pos (by rw [AuditConfig.after, length_readings hlengths.2]; omega)) hlater
  obtain ⟨x, l, u, hflags, hlow, -⟩ := flags_near hgiven (delta_small cfg conversions) hcoins
  -- all that is seen of the coins is how far the scale moves
  have hmoved : |(mean (cfg.after conversions) - mean (cfg.before conversions) : ℤ) * γ| ≤ w * |γ| := by
    rw [abs_mul]
    refine mul_le_mul_of_nonneg_right ?_ (abs_nonneg γ)
    have hdiff : |mean (cfg.after conversions) - mean (cfg.before conversions)| ≤ w := abs_le.mpr ⟨by omega, by omega⟩
    exact_mod_cast hdiff
  have hslack :
      slack ((mean (cfg.after conversions) - mean (cfg.before conversions) : ℤ) * γ) (res'.dispensed * m) (res'.dispensed * t) ≤
      slack (w * |γ|) (res'.dispensed * m) (res'.dispensed * t) := by
    have habs := hmoved.trans (le_abs_self _)
    unfold slack
    linarith
  have hunder : x < l := by
    rw [abs_le] at hlow hmoved
    linarith
  rw [run_spec cfg hx conversions hrises, if_pos htime]
  have hflag := (hflags (decide (1 < (cfg.before conversions ++ cfg.after conversions).length ∧
    spread (cfg.before conversions ++ cfg.after conversions) < cfg.stuckEpsilonRaw.toInt))).1.mpr hunder
  exact ⟨hflag, Bool.eq_false_of_not_eq_true fun hok => ((ok_iff _ _ _ _).mp hok).2.1 hflag⟩

/-- A hopper that counts two coins. -/
def sampleSeen : Dispense.Readings where
  start := 0
  attempts := [⟨false, 0, [⟨true, 3000000, 3000000⟩, ⟨false, 4000000, 4000000⟩, ⟨true, 6000000, 6000000⟩]⟩]
  finish := 7000000

/-- Both coins are paid, and the scale shows their weight in either weighing. -/
theorem dispense_blind_sample : ∃ res p, runDispense {} {} 2 sampleSeen (some {}) sampleConfig = some (res, p) ∧ res.ok = true ∧
    "UNDERPAY" ∈ (performFrom Converter.world { conversions := [(0, 11520), (0, 11520)] } p).2.flags ∧
    (performFrom Converter.world { conversions := [(0, 11520), (0, 11520)] } p).2.ok = false := by
  have hrun : runDispense {} {} 2 sampleSeen (some {}) sampleConfig =
      some ({ ok := true, requested := 2, dispensed := 2, pulses := 2, reason := "OK", elapsedMs := 7 }, sampleConfig.run (some {}) 2) := by
    rfl
  refine ⟨_, _, hrun, rfl, dispense_blind (a := 11520) (w := 0) hrun sampleConfig_given (Or.inl rfl) (by decide) (by decide)
    (by decide) (by decide) (by norm_num) ?_⟩
  norm_num [slack]

end Drawer.Scale
