import Drawer.Lib.Text

/-! The base 64 encoding of RFC 4648: three bytes are four digits of six bits. Read as
numbers, some bytes and the digits that encode them are the same, up to the zero bits that
fill the last digit. -/

namespace Base64
open Text

/-- The number that some bytes spell, the most significant first. -/
def value (l : Bytes) : ℕ := l.foldl (fun n b => n * 256 + b.toNat) 0

/-- The last `k` digits of a number to the base 64, the most significant first. -/
def sextets : ℕ → ℕ → List ℕ
  | 0, _ => []
  | k + 1, n => sextets k (n / 64) ++ [n % 64]

/-- The alphabet: the capital letters, the small letters, the digits, `+` and `/`. -/
def character (d : ℕ) : UInt8 :=
  if d < 26 then UInt8.ofNat (65 + d)
  else if d < 52 then UInt8.ofNat (97 + (d - 26))
  else if d < 62 then UInt8.ofNat (48 + (d - 52))
  else if d = 62 then 43
  else 47

def characters (k n : ℕ) : Bytes := (sextets k n).map character

/-- The character that stands for a digit that is not there. -/
def pad : UInt8 := 61

/-- Groups of 24 bits, as four digits each. A last group of 8 or 16 bits gets zero bits on the
right until they make whole digits, and the digits that it lacks are padded. -/
def encode : Bytes → Bytes
  | [] => []
  | [a] => characters 2 (value [a] * 16) ++ [pad, pad]
  | [a, b] => characters 3 (value [a, b] * 4) ++ [pad]
  | a :: b :: c :: l => characters 4 (value [a, b, c]) ++ encode l

/-! ### Numbers and their digits -/

theorem value_concat (l : Bytes) (b : UInt8) : value (l ++ [b]) = value l * 256 + b.toNat := by
  simp [value]

theorem value_append (l m : Bytes) : value (l ++ m) = value l * 256 ^ m.length + value m := by
  induction m using List.reverseRecOn with
  | nil => simp [value]
  | append_singleton m b ih =>
    rw [← List.append_assoc, value_concat, ih, value_concat, List.length_append, List.length_singleton, pow_succ]
    ring

theorem value_lt (l : Bytes) : value l < 256 ^ l.length := by
  induction l using List.reverseRecOn with
  | nil => decide
  | append_singleton l b ih =>
    have hb := b.toNat_lt
    rw [value_concat, List.length_append, List.length_singleton, pow_succ]
    omega

theorem length_characters (k n : ℕ) : (characters k n).length = k := by
  induction k generalizing n with
  | zero => rfl
  | succ k ih =>
    have hk := ih (n / 64)
    rw [characters, List.length_map] at hk ⊢
    rw [sextets, List.length_append, hk, List.length_singleton]

theorem characters_succ (k n : ℕ) : characters (k + 1) n = characters k (n / 64) ++ [character (n % 64)] := by
  rw [characters, sextets, List.map_append]
  rfl

/-- The digits of a number that is put together from two. -/
theorem characters_append {k x : ℕ} (j m : ℕ) (h : x < 64 ^ k) :
    characters (j + k) (m * 64 ^ k + x) = characters j m ++ characters k x := by
  induction k generalizing x with
  | zero =>
    obtain rfl : x = 0 := by omega
    simp [characters, sextets]
  | succ k ih =>
    have hsplit : m * 64 ^ (k + 1) + x = 64 * (m * 64 ^ k) + x := by ring
    have hx : x / 64 < 64 ^ k := by
      rw [pow_succ] at h
      omega
    rw [← Nat.add_assoc, characters_succ, hsplit, Nat.mul_add_div (by decide), Nat.mul_add_mod, ih hx, characters_succ,
      List.append_assoc]

/-! ### The encoding as a whole -/

/-- How many digits `n` bytes make. -/
def digitCount (n : ℕ) : ℕ := (8 * n + 5) / 6

/-- How many zero bits fill the last of them. -/
def filler (n : ℕ) : ℕ := 6 * digitCount n - 8 * n

theorem pow_filler (n : ℕ) : 256 ^ n * 2 ^ filler n = 64 ^ digitCount n := by
  have hbits : 8 * n + filler n = 6 * digitCount n := by
    unfold filler digitCount
    omega
  calc 256 ^ n * 2 ^ filler n = 2 ^ (8 * n + filler n) := by rw [pow_add, pow_mul]; norm_num
    _ = 64 ^ digitCount n := by rw [hbits, pow_mul]; norm_num

theorem value_fill_lt (l : Bytes) : value l * 2 ^ filler l.length < 64 ^ digitCount l.length := by
  rw [← pow_filler]
  exact Nat.mul_lt_mul_of_pos_right (value_lt l) (by positivity)

/-- The digits of all bytes at once, and the padding. -/
theorem encode_eq (l : Bytes) :
    encode l = characters (digitCount l.length) (value l * 2 ^ filler l.length) ++ List.replicate (filler l.length / 2) pad := by
  induction l using encode.induct with
  | case1 => rfl
  | case2 a => simp [encode, digitCount, filler, List.replicate]
  | case3 a b => simp [encode, digitCount, filler]
  | case4 a b c l ih =>
    have hdigits : digitCount (l.length + 3) = 4 + digitCount l.length := by
      unfold digitCount
      omega
    have hfiller : filler (l.length + 3) = filler l.length := by
      unfold filler digitCount
      omega
    have hvalue : value (a :: b :: c :: l) * 2 ^ filler l.length =
        value [a, b, c] * 64 ^ digitCount l.length + value l * 2 ^ filler l.length := by
      have happend := value_append [a, b, c] l
      rw [List.cons_append, List.cons_append, List.cons_append, List.nil_append] at happend
      rw [happend, ← pow_filler]
      ring
    have hlength : (a :: b :: c :: l).length = l.length + 3 := rfl
    rw [encode, ih, hlength, hdigits, hfiller, hvalue, characters_append 4 _ (value_fill_lt l), List.append_assoc]

example : encode (ascii "fooba") = ascii "Zm9vYmE=" := by decide

/-! ### What is encoded -/

theorem character_ne_pad : ∀ d < 64, character d ≠ pad := by decide

theorem character_inj : ∀ d < 64, ∀ e < 64, character d = character e → d = e := by decide +kernel

theorem characters_inj {k n m : ℕ} (hn : n < 64 ^ k) (hm : m < 64 ^ k) (h : characters k n = characters k m) : n = m := by
  induction k generalizing n m with
  | zero => omega
  | succ k ih =>
    rw [characters_succ, characters_succ] at h
    obtain ⟨hinit, hlast⟩ := List.append_inj' h rfl
    have hdiv := ih (by rw [pow_succ] at hn; omega) (by rw [pow_succ] at hm; omega) hinit
    have hmod := character_inj _ (Nat.mod_lt n (by decide)) _ (Nat.mod_lt m (by decide)) (List.cons.inj hlast).1
    omega

theorem value_inj {l m : Bytes} (hlength : l.length = m.length) (h : value l = value m) : l = m := by
  induction l using List.reverseRecOn generalizing m with
  | nil => exact (List.length_eq_zero_iff.mp hlength.symm).symm
  | append_singleton l b ih =>
    rcases List.eq_nil_or_concat m with rfl | ⟨m, c, rfl⟩
    · simp at hlength
    · rw [List.concat_eq_append] at hlength h ⊢
      rw [value_concat, value_concat] at h
      have hb := b.toNat_lt
      have hc := c.toNat_lt
      have hbyte : b = c := UInt8.toNat_inj.mp (by omega)
      rw [ih (by simpa using hlength) (by omega), hbyte]

theorem takeWhile_encode (l : Bytes) :
    (encode l).takeWhile (· ≠ pad) = characters (digitCount l.length) (value l * 2 ^ filler l.length) := by
  have hplain : ∀ k n, ∀ b ∈ characters k n, b ≠ pad := by
    intro k
    induction k with
    | zero => exact fun n b hb => nomatch hb
    | succ k ih =>
      intro n b hb
      rw [characters_succ, List.mem_append, List.mem_singleton] at hb
      rcases hb with hb | rfl
      · exact ih _ b hb
      · exact character_ne_pad _ (Nat.mod_lt n (by decide))
  rw [encode_eq, List.takeWhile_append_of_pos fun b hb => by simpa using hplain _ _ b hb]
  cases filler l.length / 2 with
  | zero => exact List.append_nil _
  | succ j => simp [List.replicate_succ]

/-- Different bytes have different encodings. -/
theorem encode_injective : Function.Injective encode := by
  intro l m h
  have hchars := congrArg (List.takeWhile (· ≠ pad)) h
  rw [takeWhile_encode, takeWhile_encode] at hchars
  have hdigits := congrArg List.length hchars
  rw [length_characters, length_characters] at hdigits
  have hlength : l.length = m.length := by
    unfold digitCount at hdigits
    omega
  have hlt := value_fill_lt l
  rw [hlength] at hchars hlt
  have hvalue := characters_inj hlt (value_fill_lt m) hchars
  exact value_inj hlength (Nat.eq_of_mul_eq_mul_right (by positivity) hvalue)

end Base64
