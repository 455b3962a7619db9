import Mathlib.Tactic

/-! Byte strings and the searches of `std::string` on them. A position found by
a search is kept as the split it makes: the bytes before it and the bytes from
it on. -/

namespace Text

abbrev Bytes := List UInt8

instance : LawfulBEq Bytes := inferInstance

/-- The bytes of a source literal. Every literal used is plain ASCII. -/
def ascii (s : String) : Bytes := s.toList.map fun c => UInt8.ofNat c.toNat

/-- `std::to_string`. -/
def decimal (n : Int) : Bytes := ascii (toString n)

/-- The first occurrence of `pat`, as the text before it and the text from it on. -/
def find (pat : Bytes) : Bytes → Option (Bytes × Bytes)
  | [] => if pat = [] then some ([], []) else none
  | b :: s =>
    if pat.isPrefixOf (b :: s) then some ([], b :: s)
    else (find pat s).map fun p => (b :: p.1, p.2)

/-- The byte ranges that must follow the lead byte of a UTF-8 sequence. -/
def utf8Tail (b : UInt8) : Option (List (UInt8 × UInt8)) :=
  let cont : UInt8 × UInt8 := (0x80, 0xBF)
  if b < 0x80 then some []
  else if b < 0xC2 then none
  else if b < 0xE0 then some [cont]
  else if b = 0xE0 then some [(0xA0, 0xBF), cont]
  else if b = 0xED then some [(0x80, 0x9F), cont]
  else if b < 0xF0 then some [cont, cont]
  else if b = 0xF0 then some [(0x90, 0xBF), cont, cont]
  else if b < 0xF4 then some [cont, cont, cont]
  else if b = 0xF4 then some [(0x80, 0x8F), cont, cont]
  else none

/-- Well-formed UTF-8, given the ranges the current sequence still owes. -/
def utf8From : List (UInt8 × UInt8) → Bytes → Bool
  | owed, [] => owed.isEmpty
  | [], b :: s =>
    match utf8Tail b with
    | none => false
    | some owed => utf8From owed s
  | r :: owed, b :: s => r.1 ≤ b && b ≤ r.2 && utf8From owed s

def validUtf8 (s : Bytes) : Bool := utf8From [] s

theorem validUtf8_of_ascii {s : Bytes} (h : ∀ b ∈ s, b < 0x80) : validUtf8 s = true := by
  unfold validUtf8
  induction s with
  | nil => rfl
  | cons b s ih =>
    have hb : utf8Tail b = some [] := if_pos (h b List.mem_cons_self)
    simp only [utf8From, hb]
    exact ih fun b' hb' => h b' (List.mem_cons_of_mem _ hb')

theorem toList_toString_int (n : Int) :
    (toString n).toList = if 0 ≤ n then Nat.toDigits 10 n.toNat else '-' :: Nat.toDigits 10 (-n).toNat := by
  rw [Int.toString_eq_repr, Int.repr_eq_if]
  split_ifs
  · exact Nat.toList_repr
  · rw [String.toList_append, Nat.toList_repr]
    rfl

theorem isDigit_of_mem_toDigits_ten {n : ℕ} {c : Char} (h : c ∈ Nat.toDigits 10 n) : c.isDigit = true :=
  Nat.isDigit_of_mem_toDigits (by decide) (by decide) h

theorem toDigits_ten_injective : Function.Injective (Nat.toDigits 10) := by
  intro n m h
  rw [← Nat.ofDigitChars_ten_toDigits (n := n), h, Nat.ofDigitChars_ten_toDigits]

theorem mem_toString_int {n : Int} {c : Char} (h : c ∈ (toString n).toList) : c = '-' ∨ c.isDigit = true := by
  rw [toList_toString_int] at h
  split_ifs at h
  · exact Or.inr (isDigit_of_mem_toDigits_ten h)
  · exact (List.mem_cons.mp h).imp id isDigit_of_mem_toDigits_ten

/-- A decimal numeral is made of digits and the minus sign. -/
theorem mem_decimal {n : Int} {b : UInt8} (h : b ∈ decimal n) : b = 45 ∨ (48 ≤ b ∧ b ≤ 57) := by
  obtain ⟨c, hc, rfl⟩ := List.mem_map.mp h
  rcases mem_toString_int hc with rfl | hd
  · exact Or.inl rfl
  · right
    simp only [Char.isDigit, Bool.and_eq_true, decide_eq_true_eq] at hd
    have h1 : 48 ≤ c.toNat := hd.1
    have h2 : c.toNat ≤ 57 := hd.2
    have h3 : (UInt8.ofNat c.toNat).toNat = c.toNat := UInt8.toNat_ofNat_of_lt' (by simp [UInt8.size]; omega)
    simp only [UInt8.le_iff_toNat_le, h3]
    exact ⟨h1, h2⟩

/-- A byte that is neither is not in a numeral. -/
theorem notMem_decimal {b : UInt8} (h : ¬ (b = 45 ∨ (48 ≤ b ∧ b ≤ 57))) (n : Int) : b ∉ decimal n :=
  fun hmem => h (mem_decimal hmem)

theorem lt_of_mem_decimal {n : Int} {b : UInt8} (h : b ∈ decimal n) : b < 0x80 := by
  rcases mem_decimal h with rfl | ⟨-, h⟩
  · decide
  · rw [UInt8.lt_iff_toNat_lt]
    rw [UInt8.le_iff_toNat_le] at h
    exact lt_of_le_of_lt h (by decide)

/-- Two texts cut at the same separator, which neither first part holds, have the same parts. -/
theorem append_cons_inj {b : UInt8} {s s' t t' : Bytes} (hs : b ∉ s) (hs' : b ∉ s')
    (h : s ++ b :: t = s' ++ b :: t') : s = s' ∧ t = t' := by
  induction s generalizing s' with
  | nil =>
    cases s' with
    | nil => simpa using h
    | cons a s' =>
      obtain ⟨rfl, -⟩ := List.cons.inj h
      exact absurd List.mem_cons_self hs'
  | cons a s ih =>
    cases s' with
    | nil =>
      obtain ⟨rfl, -⟩ := List.cons.inj h
      exact absurd List.mem_cons_self hs
    | cons a' s' =>
      obtain ⟨rfl, ht⟩ := List.cons.inj h
      obtain ⟨rfl, rfl⟩ := ih (fun hb => hs (List.mem_cons_of_mem _ hb)) (fun hb => hs' (List.mem_cons_of_mem _ hb)) ht
      exact ⟨rfl, rfl⟩

/-- Two texts cut at the same separator, which neither last part holds, have the same parts. -/
theorem append_cons_inj_right {b : UInt8} {s s' t t' : Bytes} (ht : b ∉ t) (ht' : b ∉ t')
    (h : s ++ b :: t = s' ++ b :: t') : s = s' ∧ t = t' := by
  have hrev : t.reverse ++ b :: s.reverse = t'.reverse ++ b :: s'.reverse := by
    simpa using congrArg List.reverse h
  obtain ⟨h1, h2⟩ := append_cons_inj (by simpa using ht) (by simpa using ht') hrev
  exact ⟨List.reverse_injective h2, List.reverse_injective h1⟩

/-- The characters of an ASCII literal are read back from its bytes. -/
theorem map_ofNat_ascii {s : String} (h : ∀ c ∈ s.toList, c.toNat < 256) :
    (ascii s).map (fun b => Char.ofNat b.toNat) = s.toList := by
  rw [ascii, List.map_map]
  refine (List.map_congr_left fun c hc => ?_).trans (List.map_id _)
  have : (UInt8.ofNat c.toNat).toNat = c.toNat := UInt8.toNat_ofNat_of_lt' (h c hc)
  simp [this]

theorem decimal_injective : Function.Injective decimal := by
  have hlt : ∀ n : Int, ∀ c ∈ (toString n).toList, c.toNat < 256 := by
    intro n c hc
    rcases mem_toString_int hc with rfl | hd
    · decide
    · simp only [Char.isDigit, Bool.and_eq_true, decide_eq_true_eq] at hd
      have : c.toNat ≤ 57 := hd.2
      omega
  intro n m h
  have hs : (toString n).toList = (toString m).toList := by
    rw [← map_ofNat_ascii (hlt n), ← map_ofNat_ascii (hlt m)]
    exact congrArg _ h
  have hminus : ∀ k, '-' ∉ Nat.toDigits 10 k := fun k hk => by
    simpa using isDigit_of_mem_toDigits_ten hk
  rw [toList_toString_int, toList_toString_int] at hs
  split_ifs at hs with hn hm hm
  · have := toDigits_ten_injective hs
    omega
  · exact absurd (hs ▸ List.mem_cons_self) (hminus n.toNat)
  · exact absurd (hs ▸ List.mem_cons_self) (hminus m.toNat)
  · have := toDigits_ten_injective (List.cons.inj hs).2
    omega

/-- Texts are cut in the same place if what comes after it is as long. -/
theorem append_inj_of_length {a b c d : String} (heq : a ++ b = c ++ d) (hlen : b.length = d.length) : a = c ∧ b = d := by
  have hl := congrArg String.toList heq
  rw [String.toList_append, String.toList_append] at hl
  obtain ⟨h1, h2⟩ := List.append_inj' hl (by rw [String.length_toList, String.length_toList, hlen])
  exact ⟨String.toList_inj.mp h1, String.toList_inj.mp h2⟩

end Text
