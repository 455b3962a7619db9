import Drawer.Lib.Numeral

/-! Doubles and their decimal texts: what `operator<<` and `std::to_string` write for one, and
the double that a text is read as. -/

namespace Decimal
open Text

/-- A `double`: its sign and its magnitude, if it is finite. -/
inductive Double where
  | nan
  | inf (negative : Bool)
  | finite (negative : Bool) (magnitude : ℚ)
  deriving DecidableEq

/-! ### Rounding -/

/-- The nearest integer, and of two the even one. -/
def roundEven (q : ℚ) : ℕ :=
  let whole := q.num.natAbs / q.den
  let rest := 2 * (q.num.natAbs % q.den)
  if rest < q.den then whole else if q.den < rest then whole + 1 else whole + whole % 2

/-- The greatest `k` with `b ^ k ≤ q`, given the size of a number to the base `b`. -/
def exponentOf (size : ℕ → ℕ) (b : ℚ) (q : ℚ) : ℤ :=
  let k : ℤ := size q.num.natAbs - size q.den
  if b ^ k ≤ q then k else k - 1

def size10 (n : ℕ) : ℕ := (Nat.toDigits 10 n).length

/-- The double nearest to a fraction: 53 bits, the last of them not below `2 ^ -1074`. -/
def nearest (negative : Bool) (q : ℚ) : Double :=
  if q = 0 then .finite negative 0
  else
    let e := max (exponentOf Nat.size 2 q - 52) (-1074)
    let v := roundEven (q / 2 ^ e) * (2 : ℚ) ^ e
    if 2 ^ 1024 ≤ v then .inf negative else .finite negative v

/-! ### Writing -/

def minus (negative : Bool) : Bytes := if negative then [45] else []

def trimZeros (s : Bytes) : Bytes := (s.reverse.dropWhile (· = 48)).reverse

def withPoint (whole fraction : Bytes) : Bytes := if fraction = [] then whole else whole ++ 46 :: fraction

/-- The six digits that a positive fraction is rounded to, and the exponent of the first. -/
def sixDigits (q : ℚ) : Bytes × ℤ :=
  let x := exponentOf size10 10 q
  let d := roundEven (q / 10 ^ (x - 5))
  if d = 1000000 then (decimal 100000, x + 1) else (decimal d, x)

/-- An exponent, of two digits at the least. -/
def exponentText (x : ℤ) : Bytes :=
  (if x < 0 then ascii "e-" else ascii "e+") ++ (if x.natAbs < 10 then [48] else []) ++ decimal x.natAbs

/-- `os << v`: six digits, with an exponent where `%g` has one. -/
def shown : Double → Bytes
  | .nan => ascii "nan"
  | .inf negative => minus negative ++ ascii "inf"
  | .finite negative q =>
    if q = 0 then minus negative ++ [48]
    else
      let (ds, x) := sixDigits q
      if x < -4 ∨ 6 ≤ x then
        minus negative ++ withPoint (ds.take 1) (trimZeros (ds.drop 1)) ++ exponentText x
      else if x < 0 then minus negative ++ withPoint [48] (List.replicate (-x - 1).toNat 48 ++ trimZeros ds)
      else minus negative ++ withPoint (ds.take (x + 1).toNat) (trimZeros (ds.drop (x + 1).toNat))

/-- `std::to_string(v)`: six digits after the point. -/
def toText : Double → Bytes
  | .nan => ascii "nan"
  | .inf negative => minus negative ++ ascii "inf"
  | .finite negative q =>
    let n := roundEven (q * 1000000)
    let rest := decimal ((n % 1000000 : ℕ))
    minus negative ++ decimal ((n / 1000000 : ℕ)) ++ 46 :: (List.replicate (6 - rest.length) 48 ++ rest)

/-! ### Reading -/

/-- The parts of an unsigned number. -/
structure Parts where
  whole : Bytes
  fraction : Option Bytes
  exponent : Option (Bool × Bytes)

/-- The digits that a text starts with, and the text after them. -/
def run (s : Bytes) : Bytes × Bytes := (s.takeWhile isDigit, s.dropWhile isDigit)

def exponentPart : Bytes → Option (Option (Bool × Bytes))
  | [] => some none
  | b :: s =>
    if b = 101 ∨ b = 69 then
      let (negative, s) := sign s
      if s ≠ [] ∧ s.all isDigit then some (some (negative, s)) else none
    else none

def fractionPart : Bytes → Option Bytes × Bytes
  | 46 :: s => (some (run s).1, (run s).2)
  | s => (none, s)

def parts (s : Bytes) : Option Parts :=
  let s' := (run s).2
  (exponentPart (fractionPart s').2).map fun exponent => ⟨(run s).1, (fractionPart s').1, exponent⟩

def Parts.value (p : Parts) : ℚ :=
  let fraction := p.fraction.getD []
  let e : ℤ := match p.exponent with
    | none => 0
    | some (negative, ds) => if negative then -(numeral ds : ℤ) else numeral ds
  numeral (p.whole ++ fraction) * 10 ^ (e - fraction.length)

/-- Whether the parts are those of a JSON number. -/
def Parts.json (p : Parts) : Bool := p.whole ≠ [] && (p.whole.head? ≠ some 48 || p.whole.length = 1) && p.fraction ≠ some []

def unsigned (s : Bytes) : Bytes := match s with
  | 45 :: s => s
  | s => s

/-- The grammar of JSON numbers. -/
def jsonNumber (s : Bytes) : Bool := ((parts (unsigned s)).map Parts.json).getD false

def lower (s : Bytes) : Bytes := s.map fun b => if 65 ≤ b ∧ b ≤ 90 then b + 32 else b

/-- The parts of a number that has a digit before its exponent. -/
def numberParts (s : Bytes) : Option Parts := (parts s).filter fun p => p.whole ++ p.fraction.getD [] ≠ []

/-- The exact number of a text. -/
def readNumber (s : Bytes) : Option ℚ :=
  let (negative, t) := sign s
  (numberParts t).map fun p => if negative then -p.value else p.value

/-- `strtod` of a whole text. -/
def readDouble (s : Bytes) : Option Double :=
  let (negative, t) := sign s
  if lower t = ascii "nan" then some .nan
  else if lower t = ascii "inf" ∨ lower t = ascii "infinity" then some (.inf negative)
  else (numberParts t).map fun p => nearest negative p.value

example : shown (nearest false 1234567) = ascii "1.23457e+06" := by decide +kernel

example : readDouble (shown (nearest false (1 / 10))) = some (nearest false (1 / 10)) := by decide +kernel

/-! ### The bytes of a number -/

def numberByte (b : UInt8) : Bool := isDigit b || b = 45 || b = 43 || b = 46 || b = 101 || b = 69

theorem numberByte_of_digit {b : UInt8} (h : isDigit b = true) : numberByte b = true := by
  simp [numberByte, h]

theorem mem_sign {s : Bytes} {b : UInt8} (h : b ∈ s) : b = 45 ∨ b = 43 ∨ b ∈ (sign s).2 := by
  unfold sign
  split
  · exact (List.mem_cons.mp h).imp id Or.inr
  · exact Or.inr (List.mem_cons.mp h)
  · exact Or.inr (Or.inr h)

theorem mem_exponentPart {s : Bytes} {e : Option (Bool × Bytes)} (h : exponentPart s = some e) {b : UInt8} (hb : b ∈ s) :
    numberByte b = true := by
  cases s with
  | nil => cases hb
  | cons c s =>
    rw [exponentPart] at h
    split_ifs at h with hc
    rcases List.mem_cons.mp hb with rfl | hb
    · rcases hc with rfl | rfl <;> rfl
    · dsimp only at h
      split_ifs at h with hdigits
      rcases mem_sign hb with rfl | rfl | hb
      · rfl
      · rfl
      · exact numberByte_of_digit (List.all_eq_true.mp hdigits.2 b hb)

theorem mem_run {s : Bytes} {b : UInt8} (hb : b ∈ s) : numberByte b = true ∨ b ∈ (run s).2 := by
  rw [← List.takeWhile_append_dropWhile (p := isDigit) (l := s), List.mem_append] at hb
  exact hb.imp (fun hb => numberByte_of_digit (List.mem_takeWhile_imp hb)) id

theorem mem_fractionPart {s : Bytes} {b : UInt8} (hb : b ∈ s) : numberByte b = true ∨ b ∈ (fractionPart s).2 := by
  unfold fractionPart
  split
  · rcases List.mem_cons.mp hb with rfl | hb
    · exact Or.inl rfl
    · exact mem_run hb
  · exact Or.inr hb

theorem mem_parts {s : Bytes} {p : Parts} (h : parts s = some p) {b : UInt8} (hb : b ∈ s) : numberByte b = true := by
  obtain ⟨e, he, -⟩ := Option.map_eq_some_iff.mp h
  rcases mem_run hb with hb | hb
  · exact hb
  · rcases mem_fractionPart hb with hb | hb
    · exact hb
    · exact mem_exponentPart he hb

theorem mem_jsonNumber {s : Bytes} (h : jsonNumber s = true) {b : UInt8} (hb : b ∈ s) : numberByte b = true := by
  unfold jsonNumber at h
  cases hparts : parts (unsigned s) with
  | none => simp [hparts] at h
  | some p =>
    have hmem : b = 45 ∨ b ∈ unsigned s := by
      unfold unsigned
      split
      · exact List.mem_cons.mp hb
      · exact Or.inr hb
    rcases hmem with rfl | hmem
    · rfl
    · exact mem_parts hparts hmem

/-! ### Integers -/

theorem run_digits (n : ℕ) : run (digits n) = (digits n, []) := by
  have hdigits : ∀ b ∈ digits n, isDigit b = true := fun _ => isDigit_of_mem_digits
  rw [run, List.takeWhile_eq_self_iff.mpr hdigits, List.dropWhile_eq_nil_iff.mpr hdigits]

theorem parts_digits (n : ℕ) : parts (digits n) = some ⟨digits n, none, none⟩ := by
  rw [parts, run_digits]
  rfl

theorem head_digits {n : ℕ} (h : 0 < n) : (digits n).head? ≠ some 48 := by
  induction n using Nat.strong_induction_on with
  | _ n ih =>
    by_cases hlt : n < 10
    · have hsmall : ∀ n < 10, 0 < n → (digits n).head? ≠ some 48 := by decide
      exact hsmall n hlt h
    · have hsplit : digits n = digits (n / 10) ++ [UInt8.ofNat (Nat.digitChar (n % 10)).toNat] := by
        rw [digits, Nat.toDigits_of_base_le (by decide) (by omega), List.map_append]
        rfl
      rw [hsplit, List.head?_append_of_ne_nil _ (digits_ne_nil _)]
      exact ih (n / 10) (by omega) (by omega)

theorem jsonNumber_digits (n : ℕ) : (parts (digits n)).map Parts.json = some true := by
  rw [parts_digits]
  rcases Nat.eq_zero_or_pos n with rfl | hpos
  · rfl
  · simp [Parts.json, digits_ne_nil, head_digits hpos]

theorem unsigned_digits (n : ℕ) : unsigned (digits n) = digits n := by
  cases hdigits : digits n with
  | nil => rfl
  | cons b s =>
    have hb : isDigit b = true := isDigit_of_mem_digits (n := n) (hdigits ▸ List.mem_cons_self)
    unfold unsigned
    split
    · rename_i heq
      obtain ⟨rfl, -⟩ := List.cons.inj heq
      exact absurd hb (by decide)
    · rfl

theorem jsonNumber_decimal (n : Int) : jsonNumber (decimal n) = true := by
  rw [decimal_eq]
  split_ifs
  · rw [jsonNumber, unsigned_digits, jsonNumber_digits]
    rfl
  · change ((parts (digits _)).map Parts.json).getD false = true
    rw [jsonNumber_digits]
    rfl

theorem sign_digits (n : ℕ) : sign (digits n) = (false, digits n) := by
  cases hdigits : digits n with
  | nil => rfl
  | cons b s =>
    have hb : isDigit b = true := isDigit_of_mem_digits (n := n) (hdigits ▸ List.mem_cons_self)
    unfold sign
    split
    · rename_i heq
      obtain ⟨rfl, -⟩ := List.cons.inj heq
      exact absurd hb (by decide)
    · rename_i heq
      obtain ⟨rfl, -⟩ := List.cons.inj heq
      exact absurd hb (by decide)
    · rfl

theorem numberParts_digits (n : ℕ) : numberParts (digits n) = some ⟨digits n, none, none⟩ := by
  simp [numberParts, parts_digits, Option.filter, digits_ne_nil]

theorem value_digits (n : ℕ) : Parts.value ⟨digits n, none, none⟩ = n := by
  simp [Parts.value, numeral_digits]

theorem sign_decimal (n : Int) : sign (decimal n) = (decide (n < 0), digits n.natAbs) := by
  rw [decimal_eq]
  split_ifs with hn
  · rw [sign_digits, decide_eq_false (by omega), show n.toNat = n.natAbs by omega]
  · rw [decide_eq_true (by omega), show (-n).toNat = n.natAbs by omega]
    rfl

theorem readNumber_decimal (n : Int) : readNumber (decimal n) = some (n : ℚ) := by
  simp only [readNumber, sign_decimal, numberParts_digits, Option.map_some, value_digits, decide_eq_true_eq]
  split_ifs with hn
  · rw [← Int.cast_natCast, ← Int.cast_neg, show -(n.natAbs : Int) = n by omega]
  · rw [← Int.cast_natCast, show (n.natAbs : Int) = n by omega]

theorem readDouble_decimal (n : Int) : (readDouble (decimal n)).isSome = true := by
  simp only [readDouble, sign_decimal, numberParts_digits]
  split_ifs <;> rfl

/-! ### The bytes of what is written -/

theorem number_decimal (n : Int) : ∀ b ∈ decimal n, numberByte b = true := by
  intro b hb
  rcases mem_decimal hb with rfl | ⟨hlow, hhigh⟩
  · rfl
  · simp [numberByte, isDigit, hlow, hhigh]

theorem number_minus (negative : Bool) : ∀ b ∈ minus negative, numberByte b = true := by
  cases negative <;> exact List.all_eq_true.mp rfl

theorem number_withPoint {s t : Bytes} (hs : ∀ b ∈ s, numberByte b = true) (ht : ∀ b ∈ t, numberByte b = true) :
    ∀ b ∈ withPoint s t, numberByte b = true := by
  unfold withPoint
  split_ifs
  · exact hs
  · rw [List.forall_mem_append, List.forall_mem_cons]
    exact ⟨hs, rfl, ht⟩

theorem number_trimZeros {s : Bytes} (hs : ∀ b ∈ s, numberByte b = true) : ∀ b ∈ trimZeros s, numberByte b = true := by
  intro b hb
  rw [trimZeros, List.mem_reverse] at hb
  exact hs b (List.mem_reverse.mp ((List.dropWhile_suffix _).subset hb))

theorem number_zeros (n : ℕ) : ∀ b ∈ List.replicate n (48 : UInt8), numberByte b = true := by
  intro b hb
  rw [List.eq_of_mem_replicate hb]
  rfl

theorem sixDigits_eq_decimal (q : ℚ) : ∃ d : ℕ, (sixDigits q).1 = decimal d := by
  unfold sixDigits
  dsimp only
  split_ifs
  · exact ⟨100000, rfl⟩
  · exact ⟨_, rfl⟩

theorem number_exponentText (x : ℤ) : ∀ b ∈ exponentText x, numberByte b = true := by
  unfold exponentText
  rw [List.forall_mem_append, List.forall_mem_append]
  refine ⟨⟨?_, ?_⟩, number_decimal _⟩
  · split_ifs <;> exact List.all_eq_true.mp rfl
  · split_ifs <;> exact List.all_eq_true.mp rfl

theorem number_shown (negative : Bool) (q : ℚ) : ∀ b ∈ shown (.finite negative q), numberByte b = true := by
  have hdigits : ∀ b ∈ (sixDigits q).1, numberByte b = true := by
    obtain ⟨d, hd⟩ := sixDigits_eq_decimal q
    rw [hd]
    exact number_decimal d
  have htake : ∀ n, ∀ b ∈ (sixDigits q).1.take n, numberByte b = true := fun n b hb => hdigits b (List.mem_of_mem_take hb)
  have hdrop : ∀ n, ∀ b ∈ trimZeros ((sixDigits q).1.drop n), numberByte b = true := fun n =>
    number_trimZeros fun b hb => hdigits b (List.mem_of_mem_drop hb)
  have hzero : ∀ b ∈ ([48] : Bytes), numberByte b = true := List.all_eq_true.mp rfl
  unfold shown
  dsimp only
  split_ifs
  · exact List.forall_mem_append.mpr ⟨number_minus _, hzero⟩
  · rw [List.forall_mem_append, List.forall_mem_append]
    exact ⟨⟨number_minus _, number_withPoint (htake _) (hdrop _)⟩, number_exponentText _⟩
  · rw [List.forall_mem_append]
    refine ⟨number_minus _, number_withPoint hzero (List.forall_mem_append.mpr ⟨number_zeros _, ?_⟩)⟩
    exact number_trimZeros hdigits
  · rw [List.forall_mem_append]
    exact ⟨number_minus _, number_withPoint (htake _) (hdrop _)⟩

theorem withPoint_ne_nil {s : Bytes} (h : s ≠ []) (t : Bytes) : withPoint s t ≠ [] := by
  unfold withPoint
  split_ifs
  · exact h
  · exact List.append_ne_nil_of_left_ne_nil h _

theorem shown_ne_nil (negative : Bool) (q : ℚ) : shown (.finite negative q) ≠ [] := by
  have htake : ∀ n, 0 < n → (sixDigits q).1.take n ≠ [] := by
    obtain ⟨d, hd⟩ := sixDigits_eq_decimal q
    intro n hn
    rw [hd, decimal_eq, if_pos (Int.natCast_nonneg d), Ne, List.take_eq_nil_iff, not_or]
    exact ⟨hn.ne', digits_ne_nil _⟩
  unfold shown
  dsimp only
  split_ifs with hzero hexponent hneg
  · exact List.append_ne_nil_of_right_ne_nil _ (List.cons_ne_nil _ _)
  · exact List.append_ne_nil_of_left_ne_nil
      (List.append_ne_nil_of_right_ne_nil _ (withPoint_ne_nil (htake 1 Nat.one_pos) _)) _
  · exact List.append_ne_nil_of_right_ne_nil _ (withPoint_ne_nil (List.cons_ne_nil _ _) _)
  · exact List.append_ne_nil_of_right_ne_nil _ (withPoint_ne_nil (htake _ (by omega)) _)

/-- A byte of a number, or of one of the names. -/
def plainByte (b : UInt8) : Bool := numberByte b || (97 ≤ b && b ≤ 122)

theorem plain_of_number {s : Bytes} (h : ∀ b ∈ s, numberByte b = true) : ∀ b ∈ s, plainByte b = true := by
  intro b hb
  rw [plainByte, h b hb]
  rfl

theorem plain_shown (v : Double) : ∀ b ∈ shown v, plainByte b = true := by
  cases v with
  | nan => exact List.all_eq_true.mp rfl
  | inf negative => cases negative <;> exact List.all_eq_true.mp rfl
  | finite negative q => exact plain_of_number (number_shown negative q)

theorem plain_toText (v : Double) : ∀ b ∈ toText v, plainByte b = true := by
  cases v with
  | nan => exact List.all_eq_true.mp rfl
  | inf negative => cases negative <;> exact List.all_eq_true.mp rfl
  | finite negative q =>
    refine plain_of_number ?_
    unfold toText
    simp only [List.forall_mem_append, List.forall_mem_cons]
    exact ⟨⟨number_minus _, number_decimal _⟩, rfl, number_zeros _, number_decimal _⟩

end Decimal
