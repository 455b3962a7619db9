import Mathlib.Data.List.TakeWhile
import Drawer.Lib.Json
import Drawer.Lib.Text

/-! Decimal numerals in byte strings: the value of a run of digits and the
conversions of the standard library that read one. -/

namespace Text

/-- `std::isspace` in the C locale. -/
def isSpace (b : UInt8) : Bool := b = 32 || (9 ≤ b && b ≤ 13)

/-- `std::isdigit`. -/
def isDigit (b : UInt8) : Bool := 48 ≤ b && b ≤ 57

/-- The number a run of digits stands for. -/
def numeral (ds : Bytes) : ℕ := ds.foldl (fun n b => 10 * n + (b.toNat - 48)) 0

/-- An optional sign, and the text after it. -/
def sign : Bytes → Bool × Bytes
  | 45 :: s => (true, s)
  | 43 :: s => (false, s)
  | s => (false, s)

/-- `std::stoi`: the longest numeral the text starts with, after blanks and a sign. -/
def stoi (s : Bytes) : Except Exn Int :=
  let (neg, s) := sign (s.dropWhile isSpace)
  let ds := s.takeWhile isDigit
  let n : Int := if neg then -(numeral ds : Int) else numeral ds
  if ds = [] then .error .invalidArgument
  else if n < -2147483648 ∨ 2147483647 < n then .error .outOfRange
  else .ok n

/-- The bytes of a text. -/
def utf8 (s : String) : Bytes := s.toList.flatMap String.utf8EncodeChar

/-- The integer a text starts with, after blanks and a sign. -/
def leading (s : Bytes) : Option Int :=
  let (neg, s) := sign (s.dropWhile isSpace)
  let ds := s.takeWhile isDigit
  if ds = [] then none else some (if neg then -(numeral ds : Int) else numeral ds)

/-- `std::stol`. -/
def stol (s : Bytes) : Except Exn Int :=
  match leading s with
  | none => .error .invalidArgument
  | some n => if n < -9223372036854775808 ∨ 9223372036854775807 < n then .error .outOfRange else .ok n

/-- `iss >> token`: the next run of bytes that are not blanks, and the text after it. -/
def token (s : Bytes) : Option (Bytes × Bytes) :=
  let s := s.dropWhile isSpace
  let w := s.takeWhile fun b => !isSpace b
  if w = [] then none else some (w, s.dropWhile fun b => !isSpace b)

/-- The bytes of the digits of `n`. -/
def digits (n : ℕ) : Bytes := (Nat.toDigits 10 n).map fun c => UInt8.ofNat c.toNat

theorem toNat_digit {n : ℕ} {c : Char} (h : c ∈ Nat.toDigits 10 n) :
    (UInt8.ofNat c.toNat).toNat = c.toNat ∧ 48 ≤ c.toNat ∧ c.toNat ≤ 57 := by
  have hd := isDigit_of_mem_toDigits_ten h
  simp only [Char.isDigit, Bool.and_eq_true, decide_eq_true_eq] at hd
  have h1 : 48 ≤ c.toNat := hd.1
  have h2 : c.toNat ≤ 57 := hd.2
  exact ⟨UInt8.toNat_ofNat_of_lt' (by simp [UInt8.size]; omega), h1, h2⟩

theorem isDigit_of_mem_digits {n : ℕ} {b : UInt8} (h : b ∈ digits n) : isDigit b = true := by
  obtain ⟨c, hc, rfl⟩ := List.mem_map.mp h
  obtain ⟨heq, h1, h2⟩ := toNat_digit hc
  simp [isDigit, UInt8.le_iff_toNat_le, heq, h1, h2]

theorem numeral_digits (n : ℕ) : numeral (digits n) = n := by
  have hfold : numeral (digits n) = Nat.ofDigitChars 10 (Nat.toDigits 10 n) 0 := by
    rw [numeral, digits, List.foldl_map, Nat.ofDigitChars_eq_foldl]
    refine List.foldl_ext _ _ _ fun acc c hc => ?_
    rw [(toNat_digit hc).1]
    rfl
  rw [hfold, Nat.ofDigitChars_ten_toDigits]

theorem decimal_eq (n : Int) : decimal n = if 0 ≤ n then digits n.toNat else 45 :: digits (-n).toNat := by
  rw [decimal, ascii, toList_toString_int]
  split_ifs <;> rfl

theorem digits_ne_nil (n : ℕ) : digits n ≠ [] := by
  simp [digits, Nat.toDigits_ne_nil]

/-- The text is a decimal integer and nothing else: digits, with a minus before them or not. -/
def Plain (v : Bytes) (n : Int) : Prop :=
  ∃ ds : Bytes, ds ≠ [] ∧ (∀ b ∈ ds, isDigit b = true) ∧ (v = ds ∧ n = numeral ds ∨ v = 45 :: ds ∧ n = -(numeral ds : Int))

theorem plain_decimal (n : Int) : Plain (decimal n) n := by
  rw [decimal_eq]
  split_ifs with hn
  · exact ⟨_, digits_ne_nil _, fun _ => isDigit_of_mem_digits, Or.inl ⟨rfl, by rw [numeral_digits]; omega⟩⟩
  · exact ⟨_, digits_ne_nil _, fun _ => isDigit_of_mem_digits, Or.inr ⟨rfl, by rw [numeral_digits]; omega⟩⟩

/-- A run of digits starts with neither a blank nor a sign. -/
theorem sign_of_digits {ds : Bytes} (hne : ds ≠ []) (h : ∀ b ∈ ds, isDigit b = true) :
    sign (ds.dropWhile isSpace) = (false, ds) := by
  cases ds with
  | nil => exact absurd rfl hne
  | cons b s =>
    have hb := h b List.mem_cons_self
    simp only [isDigit, Bool.and_eq_true, decide_eq_true_eq, UInt8.le_iff_toNat_le] at hb
    have h48 : 48 ≤ b.toNat := hb.1
    have hspace : isSpace b = false := by
      simp only [isSpace, Bool.or_eq_false_iff, decide_eq_false_iff_not, Bool.and_eq_false_iff, UInt8.le_iff_toNat_le,
        ← UInt8.toNat_inj]
      exact ⟨fun h => by rw [h] at h48; revert h48; decide, Or.inr fun h => by have : b.toNat ≤ 13 := h; omega⟩
    rw [List.dropWhile_cons_of_neg (by simp [hspace]), sign]
    · rintro s' heq
      obtain ⟨rfl, -⟩ := List.cons.inj heq
      revert h48
      decide
    · rintro s' heq
      obtain ⟨rfl, -⟩ := List.cons.inj heq
      revert h48
      decide

theorem leading_plain {v : Bytes} {n : Int} (h : Plain v n) : leading v = some n := by
  obtain ⟨ds, hne, hdigits, ⟨rfl, rfl⟩ | ⟨rfl, rfl⟩⟩ := h
  · have htake : v.takeWhile isDigit = v := List.takeWhile_eq_self_iff.mpr hdigits
    simp only [leading, sign_of_digits hne hdigits, htake, if_neg hne]
    rfl
  · have htake : ds.takeWhile isDigit = ds := List.takeWhile_eq_self_iff.mpr hdigits
    have hsign : sign ((45 :: ds).dropWhile isSpace) = (true, ds) := by
      rw [List.dropWhile_cons_of_neg (by decide), sign]
    simp only [leading, hsign, htake, if_neg hne]
    rfl

theorem stoi_eq (s : Bytes) :
    stoi s = match leading s with
      | none => .error .invalidArgument
      | some n => if n < -2147483648 ∨ 2147483647 < n then .error .outOfRange else .ok n := by
  by_cases hnil : (sign (s.dropWhile isSpace)).2.takeWhile isDigit = []
  · simp [stoi, leading, hnil]
  · simp [stoi, leading, hnil]

/-- What `std::stoi` makes of a decimal integer. -/
theorem stoi_plain {v : Bytes} {n : Int} (h : Plain v n) :
    stoi v = if n < -2147483648 ∨ 2147483647 < n then .error .outOfRange else .ok n := by
  rw [stoi_eq, leading_plain h]

/-- What `std::to_string` writes of an `int`, `std::stoi` reads. -/
theorem stoi_decimal {n : Int} (h : -2147483648 ≤ n ∧ n ≤ 2147483647) : stoi (decimal n) = .ok n := by
  rw [stoi_plain (plain_decimal n), if_neg (by omega)]

/-- What `std::stoi` returns is an `int`. -/
theorem stoi_int32 {v : Bytes} {n : Int} (h : stoi v = .ok n) : -2147483648 ≤ n ∧ n ≤ 2147483647 := by
  rw [stoi_eq] at h
  split at h
  · cases h
  · split_ifs at h with hout
    obtain rfl := Except.ok.inj h
    omega

theorem stol_eq_ok {s : Bytes} {n : Int} :
    stol s = .ok n ↔ leading s = some n ∧ -9223372036854775808 ≤ n ∧ n ≤ 9223372036854775807 := by
  unfold stol
  cases leading s with
  | none => simp
  | some m =>
    dsimp only
    split_ifs with hout
    · simp only [Option.some.injEq, false_iff]
      omega
    · simp only [Except.ok.injEq, Option.some.injEq]
      omega

theorem utf8_toString_int (n : Int) : utf8 (toString n) = decimal n := by
  have hchar : ∀ c ∈ (toString n).toList, String.utf8EncodeChar c = [UInt8.ofNat c.toNat] := by
    intro c hc
    have hsize : c.utf8Size = 1 := by
      rcases mem_toString_int hc with rfl | hdigit
      · decide
      · simp only [Char.isDigit, Bool.and_eq_true, decide_eq_true_eq] at hdigit
        have h127 : c.val ≤ 127 := UInt32.le_trans hdigit.2 (by decide)
        simp [Char.utf8Size, h127]
    exact String.utf8EncodeChar_eq_singleton hsize
  rw [utf8, decimal, ascii, List.flatMap_def, List.map_congr_left hchar, ← List.flatMap_def, List.map_eq_flatMap]

/-- The byte of a digit below sixteen. -/
def hexByte (n : ℕ) : UInt8 := UInt8.ofNat n.digitChar.toNat

/-- `std::hex`: a number in base sixteen. -/
def hexadecimal (n : ℕ) : Bytes := (Nat.toDigits 16 n).map fun c => UInt8.ofNat c.toNat

theorem hexByte_inj : ∀ d < 16, ∀ e < 16, hexByte d = hexByte e → d = e := by decide

theorem hexadecimal_eq (n : ℕ) :
    hexadecimal n = (if n < 16 then [] else hexadecimal (n / 16)) ++ [hexByte (n % 16)] := by
  rw [hexadecimal, Nat.toDigits_eq_if (by decide)]
  split_ifs with h
  · simp [hexByte, Nat.mod_eq_of_lt h]
  · simp [hexadecimal, hexByte]

theorem hexadecimal_ne_nil (n : ℕ) : hexadecimal n ≠ [] := by
  simp [hexadecimal, Nat.toDigits_ne_nil]

theorem hexadecimal_injective : Function.Injective hexadecimal := by
  intro n
  induction n using Nat.strong_induction_on with
  | _ n ih =>
    intro m h
    rw [hexadecimal_eq n, hexadecimal_eq m] at h
    obtain ⟨hrest, hlast⟩ := List.append_inj' h rfl
    have hmod : n % 16 = m % 16 :=
      hexByte_inj _ (Nat.mod_lt _ (by decide)) _ (Nat.mod_lt _ (by decide)) (List.cons.inj hlast).1
    split_ifs at hrest with hn hm hm
    · omega
    · exact absurd hrest.symm (hexadecimal_ne_nil _)
    · exact absurd hrest (hexadecimal_ne_nil _)
    · have hdiv : n / 16 = m / 16 := ih _ (by omega) hrest
      omega

end Text
