import Drawer.Lib.Decimal
import Drawer.Lib.Lines

/-! JSON texts (RFC 8259): the value that a text stands for, its numbers as they are written,
and how the text of a value is put together from those of its parts. -/

namespace JsonReader
open Text Decimal

inductive Doc where
  | null
  | bool (b : Bool)
  | num (token : Bytes)
  | str (s : Bytes)
  | arr (l : List Doc)
  | obj (members : List (Bytes × Doc))

/-! ### Texts -/

def blank (b : UInt8) : Bool := b = 32 || b = 9 || b = 10 || b = 13

def skip (s : Bytes) : Bytes := s.dropWhile blank

def hexValue (b : UInt8) : Option ℕ :=
  if 48 ≤ b ∧ b ≤ 57 then some (b.toNat - 48)
  else if 97 ≤ b ∧ b ≤ 102 then some (b.toNat - 87)
  else if 65 ≤ b ∧ b ≤ 70 then some (b.toNat - 55)
  else none

/-- Four hexadecimal digits. -/
def unit : Bytes → Option (ℕ × Bytes)
  | a :: b :: c :: d :: s => do
    let a ← hexValue a
    let b ← hexValue b
    let c ← hexValue c
    let d ← hexValue d
    return (((a * 16 + b) * 16 + c) * 16 + d, s)
  | _ => none

/-- What follows `\u`: a character, or the first half of one and `\u` with the second. -/
def character (s : Bytes) : Option (Bytes × Bytes) := do
  let (u, s) ← unit s
  if 0xD800 ≤ u ∧ u < 0xDC00 then
    match s with
    | 92 :: 117 :: s =>
      let (v, s) ← unit s
      if 0xDC00 ≤ v ∧ v < 0xE000 then
        return (String.utf8EncodeChar (Char.ofNat (0x10000 + (u - 0xD800) * 0x400 + (v - 0xDC00))), s)
      else none
    | _ => none
  else if 0xDC00 ≤ u ∧ u < 0xE000 then none
  else return (String.utf8EncodeChar (Char.ofNat u), s)

def escaped (b : UInt8) : Option UInt8 :=
  if b = 34 ∨ b = 92 ∨ b = 47 then some b
  else if b = 98 then some 8
  else if b = 102 then some 12
  else if b = 110 then some 10
  else if b = 114 then some 13
  else if b = 116 then some 9
  else none

/-- What an escape stands for, after its backslash. -/
def escape : Bytes → Option (Bytes × Bytes)
  | [] => none
  | b :: s => if b = 117 then character s else (escaped b).map fun c => ([c], s)

/-- A string, after its opening quote. -/
def string : ℕ → Bytes → Option (Bytes × Bytes)
  | 0, _ => none
  | _ + 1, [] => none
  | fuel + 1, b :: s =>
    if b = 34 then some ([], s)
    else if b = 92 then (escape s).bind fun p => (string fuel p.2).map fun q => (p.1 ++ q.1, q.2)
    else if b < 32 then none
    else (string fuel s).map fun p => (b :: p.1, p.2)

def literal (w : Bytes) (v : Doc) (s : Bytes) : Option (Doc × Bytes) :=
  if w.isPrefixOf s then some (v, s.drop w.length) else none

def number (s : Bytes) : Option (Doc × Bytes) :=
  let t := s.takeWhile numberByte
  if jsonNumber t then some (.num t, s.dropWhile numberByte) else none

/-- One of the three names, or a number. -/
def scalar (s : Bytes) : Option (Doc × Bytes) :=
  literal (ascii "null") .null s <|> literal (ascii "true") (.bool true) s <|>
    literal (ascii "false") (.bool false) s <|> number s

/-- A key and the colon after it. -/
def keyed : Bytes → Option (Bytes × Bytes)
  | [] => none
  | b :: s =>
    if b = 34 then do
      let (key, s) ← string (s.length + 1) s
      match skip s with
      | [] => none
      | b :: s => if b = 58 then some (key, s) else none
    else none

mutual
def value : ℕ → Bytes → Option (Doc × Bytes)
  | 0, _ => none
  | fuel + 1, s =>
    match skip s with
    | [] => none
    | b :: t =>
      if b = 34 then (string (t.length + 1) t).map fun p => (.str p.1, p.2)
      else if b = 91 then
        if (skip t).head? = some 93 then some (.arr [], (skip t).tail) else (elements fuel t).map fun p => (.arr p.1, p.2)
      else if b = 123 then
        if (skip t).head? = some 125 then some (.obj [], (skip t).tail) else (members fuel t).map fun p => (.obj p.1, p.2)
      else scalar (b :: t)

def elements : ℕ → Bytes → Option (List Doc × Bytes)
  | 0, _ => none
  | fuel + 1, s => do
    let (v, s) ← value fuel s
    match skip s with
    | [] => none
    | b :: s =>
      if b = 44 then (elements fuel s).map fun p => (v :: p.1, p.2)
      else if b = 93 then some ([v], s)
      else none

def members : ℕ → Bytes → Option (List (Bytes × Doc) × Bytes)
  | 0, _ => none
  | fuel + 1, s => do
    let (key, s) ← keyed (skip s)
    let (v, s) ← value fuel s
    match skip s with
    | [] => none
    | b :: s =>
      if b = 44 then (members fuel s).map fun p => ((key, v) :: p.1, p.2)
      else if b = 125 then some ([(key, v)], s)
      else none
end

/-- The value of a whole text, which is UTF-8. -/
def read (t : Bytes) : Option Doc :=
  if validUtf8 t then
    match value (t.length + 1) t with
    | none => none
    | some (v, s) => if skip s = [] then some v else none
  else none

def Doc.member (key : Bytes) : Doc → Option Doc
  | .obj members => members.lookup key
  | _ => none

/-! ### Texts of parts -/

/-- A string is written as it is. -/
def Unescaped (s : Bytes) : Prop := ∀ b ∈ s, 32 ≤ b ∧ b ≠ 34 ∧ b ≠ 92

instance (s : Bytes) : Decidable (Unescaped s) := List.decidableBAll _ s

theorem string_unescaped {s : Bytes} (h : Unescaped s) {fuel : ℕ} (hfuel : s.length < fuel) (rest : Bytes) :
    string fuel (s ++ 34 :: rest) = some (s, rest) := by
  induction s generalizing fuel with
  | nil =>
    obtain ⟨fuel, rfl⟩ : ∃ n, fuel = n + 1 := ⟨fuel - 1, by rw [List.length_nil] at hfuel; omega⟩
    rfl
  | cons b s ih =>
    obtain ⟨fuel, rfl⟩ : ∃ n, fuel = n + 1 := ⟨fuel - 1, by omega⟩
    obtain ⟨hlow, hquote, hslash⟩ := h b List.mem_cons_self
    have hrest := ih (fun c hc => h c (List.mem_cons_of_mem b hc)) (Nat.lt_of_succ_lt_succ hfuel)
    rw [List.cons_append, string, if_neg hquote, if_neg hslash, if_neg (UInt8.not_lt.mpr hlow), hrest]
    rfl

/-- No number goes on with the text. -/
def Ends (rest : Bytes) : Prop := ∀ b, rest.head? = some b → numberByte b = false

/-- A text is read as a value, wherever it stands. -/
def Reads (t : Bytes) (v : Doc) : Prop :=
  ∀ fuel rest, t.length < fuel → Ends rest → value fuel (t ++ rest) = some (v, rest)

theorem Reads.str {s : Bytes} (h : Unescaped s) : Reads (34 :: (s ++ [34])) (.str s) := by
  intro fuel rest hfuel _
  obtain ⟨fuel, rfl⟩ : ∃ n, fuel = n + 1 := ⟨fuel - 1, by omega⟩
  have hskip : skip (34 :: (s ++ [34]) ++ rest) = 34 :: (s ++ 34 :: rest) := by
    simp [skip, blank]
  have hlength : s.length < (s ++ 34 :: rest).length + 1 := by
    rw [List.length_append]
    omega
  rw [value, hskip]
  dsimp only
  rw [if_pos rfl, string_unescaped h hlength]
  rfl

theorem blank_eq_false {b : UInt8} (h : numberByte b = true) : blank b = false := by
  rw [← Bool.not_eq_true]
  intro hb
  simp only [blank, Bool.or_eq_true, decide_eq_true_eq] at hb
  rcases hb with ((rfl | rfl) | rfl) | rfl <;> exact absurd h (by decide)

theorem ne_of_numberByte {b c : UInt8} (h : numberByte b = true) (hc : numberByte c = false) : b ≠ c := by
  rintro rfl
  exact absurd h (by rw [hc]; decide)

theorem Ends.split {t rest : Bytes} (hends : Ends rest) (h : ∀ b ∈ t, numberByte b = true) :
    (t ++ rest).takeWhile numberByte = t ∧ (t ++ rest).dropWhile numberByte = rest := by
  rw [List.takeWhile_append_of_pos h, List.dropWhile_append_of_pos h]
  cases rest with
  | nil => exact ⟨List.append_nil t, rfl⟩
  | cons b rest =>
    have hb := hends b rfl
    rw [List.takeWhile_cons_of_neg (by simp [hb]), List.dropWhile_cons_of_neg (by simp [hb])]
    exact ⟨List.append_nil t, rfl⟩

theorem scalar_numberByte {b : UInt8} (h : numberByte b = true) (s : Bytes) : scalar (b :: s) = number (b :: s) := by
  have hliteral : ∀ (w : Bytes) (v : Doc) (c : UInt8), numberByte c = false → literal (c :: w) v (b :: s) = none := by
    intro w v c hc
    rw [literal, if_neg]
    simp [(ne_of_numberByte h hc).symm]
  have hnull : literal (ascii "null") .null (b :: s) = none := hliteral (ascii "ull") _ 110 rfl
  have htrue : literal (ascii "true") (.bool true) (b :: s) = none := hliteral (ascii "rue") _ 116 rfl
  have hfalse : literal (ascii "false") (.bool false) (b :: s) = none := hliteral (ascii "alse") _ 102 rfl
  rw [scalar, hnull, htrue, hfalse]
  rfl

theorem Reads.num {t : Bytes} (h : jsonNumber t = true) : Reads t (.num t) := by
  intro fuel rest hfuel hends
  obtain ⟨fuel, rfl⟩ : ∃ n, fuel = n + 1 := ⟨fuel - 1, by omega⟩
  cases t with
  | nil => exact absurd h (by decide)
  | cons b s =>
    have hb : numberByte b = true := mem_jsonNumber h List.mem_cons_self
    obtain ⟨htoken, hrest⟩ := hends.split fun c hc => mem_jsonNumber h hc
    rw [List.cons_append] at htoken hrest
    rw [List.cons_append, value, skip, List.dropWhile_cons_of_neg (by rw [blank_eq_false hb]; decide)]
    dsimp only
    rw [if_neg (ne_of_numberByte hb rfl), if_neg (ne_of_numberByte hb rfl), if_neg (ne_of_numberByte hb rfl),
      scalar_numberByte hb, number, htoken, hrest, if_pos h]

/-! ### Arrays and objects -/

theorem skip_of_ne {b : UInt8} (h : blank b = false) (s : Bytes) : skip (b :: s) = b :: s :=
  List.dropWhile_cons_of_neg (by rw [h]; decide)

theorem ends_cons {b : UInt8} (h : numberByte b = false) (s : Bytes) : Ends (b :: s) := by
  intro c hc
  obtain rfl := Option.some.inj hc
  exact h

theorem elements_commas {l : List (Bytes × Doc)} (hne : l ≠ []) (h : ∀ p ∈ l, Reads p.1 p.2) {n : ℕ}
    (hn : (commas (l.map Prod.fst)).length + 1 < n) (rest : Bytes) :
    elements n (commas (l.map Prod.fst) ++ 93 :: rest) = some (l.map Prod.snd, rest) := by
  induction l generalizing n with
  | nil => exact absurd rfl hne
  | cons p l ih =>
    obtain ⟨n, rfl⟩ : ∃ k, n = k + 1 := ⟨n - 1, by omega⟩
    have hp := h p List.mem_cons_self
    cases l with
    | nil =>
      have hvalue := hp n (93 :: rest) (by change p.1.length + 1 < n + 1 at hn; omega) (ends_cons rfl rest)
      have hcommas : commas (List.map Prod.fst [p]) = p.1 := rfl
      rw [hcommas, elements, hvalue]
      rfl
    | cons q l =>
      have hcommas : commas (List.map Prod.fst (p :: q :: l)) = p.1 ++ 44 :: commas (List.map Prod.fst (q :: l)) := rfl
      rw [hcommas, List.length_append, List.length_cons] at hn
      have hvalue := hp n (44 :: (commas (List.map Prod.fst (q :: l)) ++ 93 :: rest)) (by omega) (ends_cons rfl _)
      have hrest := ih (List.cons_ne_nil q l) (fun p' hp' => h p' (List.mem_cons_of_mem p hp')) (n := n) (by omega)
      rw [hcommas, List.append_assoc, List.cons_append, elements, hvalue]
      simp only [Option.bind_eq_bind, Option.bind_some, skip_of_ne (show blank 44 = false from rfl), if_true, hrest]
      rfl

/-- The text of a member, for that of its value. -/
def memberText (key t : Bytes) : Bytes := 34 :: (key ++ 34 :: 58 :: t)

/-- A member that is written: its key, the text of its value and the value. -/
structure Member where
  key : Bytes
  text : Bytes
  value : Doc

structure Member.Written (m : Member) : Prop where
  key : Unescaped m.key
  value : Reads m.text m.value

theorem keyed_memberText {key : Bytes} (h : Unescaped key) (t rest : Bytes) :
    keyed (skip (memberText key t ++ rest)) = some (key, t ++ rest) := by
  have hskip : skip (memberText key t ++ rest) = 34 :: (key ++ 34 :: 58 :: (t ++ rest)) := by
    rw [memberText, List.cons_append, skip_of_ne rfl, List.append_assoc]
    rfl
  have hlength : key.length < (key ++ 34 :: 58 :: (t ++ rest)).length + 1 := by
    rw [List.length_append]
    omega
  rw [hskip, keyed, if_pos rfl, string_unescaped h hlength]
  rfl

theorem members_commas {l : List Member} (hne : l ≠ []) (h : ∀ m ∈ l, m.Written) {n : ℕ}
    (hn : (commas (l.map fun m => memberText m.key m.text)).length < n) (rest : Bytes) :
    members n (commas (l.map fun m => memberText m.key m.text) ++ 125 :: rest) =
      some (l.map fun m => (m.key, m.value), rest) := by
  induction l generalizing n with
  | nil => exact absurd rfl hne
  | cons m l ih =>
    obtain ⟨n, rfl⟩ : ∃ k, n = k + 1 := ⟨n - 1, by omega⟩
    have hm := h m List.mem_cons_self
    have hlength : m.text.length + 3 ≤ (memberText m.key m.text).length := by
      simp only [memberText, List.length_cons, List.length_append]
      omega
    cases l with
    | nil =>
      have hcommas : commas ([m].map fun m => memberText m.key m.text) = memberText m.key m.text := rfl
      rw [hcommas] at hn ⊢
      have hvalue := hm.value n (125 :: rest) (by omega) (ends_cons rfl rest)
      rw [members, keyed_memberText hm.key]
      simp only [Option.bind_eq_bind, Option.bind_some, hvalue, skip_of_ne (show blank 125 = false from rfl)]
      rfl
    | cons m' l =>
      have hcommas : commas ((m :: m' :: l).map fun m => memberText m.key m.text) =
          memberText m.key m.text ++ 44 :: commas ((m' :: l).map fun m => memberText m.key m.text) := rfl
      rw [hcommas] at hn ⊢
      rw [List.length_append, List.length_cons] at hn
      have hvalue := hm.value n (44 :: (commas ((m' :: l).map fun m => memberText m.key m.text) ++ 125 :: rest)) (by omega)
        (ends_cons rfl _)
      have hrest := ih (List.cons_ne_nil m' l) (fun n hn => h n (List.mem_cons_of_mem m hn)) (n := n) (by omega)
      rw [List.append_assoc, List.cons_append, members, keyed_memberText hm.key]
      simp only [Option.bind_eq_bind, Option.bind_some, hvalue, skip_of_ne (show blank 44 = false from rfl), if_true, hrest]
      rfl

theorem value_bracket {s t : Bytes} (h : skip s = 93 :: t) (fuel : ℕ) : value fuel s = none := by
  cases fuel with
  | zero => rw [value]
  | succ fuel =>
    rw [value, h]
    rfl

/-- What is read as a value does not start with a closing bracket. -/
theorem Reads.head {t : Bytes} {v : Doc} (h : Reads t v) {rest : Bytes} (hrest : Ends rest) :
    (skip (t ++ rest)).head? ≠ some 93 := by
  intro hhead
  obtain ⟨s, hs⟩ := List.head?_eq_some_iff.mp hhead
  have hvalue := h (t.length + 1) rest (Nat.lt_succ_self _) hrest
  rw [value_bracket hs] at hvalue
  cases hvalue

theorem Reads.arr {l : List (Bytes × Doc)} (h : ∀ p ∈ l, Reads p.1 p.2) :
    Reads (91 :: (commas (l.map Prod.fst) ++ [93])) (.arr (l.map Prod.snd)) := by
  intro fuel rest hfuel _
  obtain ⟨fuel, rfl⟩ : ∃ n, fuel = n + 1 := ⟨fuel - 1, by omega⟩
  have htext : 91 :: (commas (l.map Prod.fst) ++ [93]) ++ rest = 91 :: (commas (l.map Prod.fst) ++ 93 :: rest) := by simp
  rw [htext, value, skip_of_ne rfl]
  dsimp only
  rw [if_neg (by decide), if_pos rfl]
  cases l with
  | nil => rfl
  | cons p l =>
    have hlength : (commas ((p :: l).map Prod.fst)).length + 1 < fuel := by
      rw [List.length_cons, List.length_append, List.length_singleton] at hfuel
      omega
    have hhead : (skip (commas ((p :: l).map Prod.fst) ++ 93 :: rest)).head? ≠ some 93 := by
      cases l with
      | nil => exact (h p List.mem_cons_self).head (ends_cons rfl rest)
      | cons q l =>
        have hcommas : commas (List.map Prod.fst (p :: q :: l)) = p.1 ++ 44 :: commas (List.map Prod.fst (q :: l)) := rfl
        rw [hcommas, List.append_assoc]
        exact (h p List.mem_cons_self).head (ends_cons rfl _)
    rw [if_neg hhead, elements_commas (List.cons_ne_nil p l) h hlength]
    rfl

theorem Reads.obj {l : List Member} (h : ∀ m ∈ l, m.Written) :
    Reads (123 :: (commas (l.map fun m => memberText m.key m.text) ++ [125])) (.obj (l.map fun m => (m.key, m.value))) := by
  intro fuel rest hfuel _
  obtain ⟨fuel, rfl⟩ : ∃ n, fuel = n + 1 := ⟨fuel - 1, by omega⟩
  have htext : 123 :: (commas (l.map fun m => memberText m.key m.text) ++ [125]) ++ rest =
      123 :: (commas (l.map fun m => memberText m.key m.text) ++ 125 :: rest) := by simp
  rw [htext, value, skip_of_ne rfl]
  dsimp only
  rw [if_neg (by decide), if_neg (by decide), if_pos rfl]
  cases l with
  | nil => rfl
  | cons m l =>
    have hlength : (commas ((m :: l).map fun m => memberText m.key m.text)).length < fuel := by
      rw [List.length_cons, List.length_append, List.length_singleton] at hfuel
      omega
    have hhead : (skip (commas ((m :: l).map fun m => memberText m.key m.text) ++ 125 :: rest)).head? ≠ some 125 := by
      have hfirst : ∃ s, commas ((m :: l).map fun m => memberText m.key m.text) ++ 125 :: rest = 34 :: s := by
        cases l with
        | nil => exact ⟨_, rfl⟩
        | cons m' l => exact ⟨_, rfl⟩
      obtain ⟨s, hs⟩ := hfirst
      rw [hs, skip_of_ne rfl]
      exact fun heq => absurd (Option.some.inj heq) (by decide)
    rw [if_neg hhead, members_commas (List.cons_ne_nil m l) h hlength]
    rfl

/-- A text that is read as a value stands for it. -/
theorem Reads.read {t : Bytes} {v : Doc} (h : Reads t v) (hutf8 : validUtf8 t = true) : read t = some v := by
  have hvalue := h (t.length + 1) [] (Nat.lt_succ_self _) fun b hb => nomatch hb
  rw [List.append_nil] at hvalue
  rw [JsonReader.read, if_pos hutf8, hvalue]
  rfl

/-! ### Texts that are no value -/

/-- A text is not read, wherever it stands. -/
def Fails (t : Bytes) : Prop := ∀ fuel rest, t.length < fuel → Ends rest → value fuel (t ++ rest) = none

def Settled (t : Bytes) : Prop := Fails t ∨ ∃ v, Reads t v

/-- A control character ends the reading of a string. -/
theorem string_control {s : Bytes} (hs : ∀ b ∈ s, b ≠ 34 ∧ b ≠ 92) {c : UInt8} (hc : c ∈ s) (hlow : c < 32) (fuel : ℕ)
    (rest : Bytes) : string fuel (s ++ rest) = none := by
  induction s generalizing fuel with
  | nil => cases hc
  | cons b s ih =>
    cases fuel with
    | zero => rfl
    | succ fuel =>
      obtain ⟨hquote, hslash⟩ := hs b List.mem_cons_self
      rw [List.cons_append, string, if_neg hquote, if_neg hslash]
      rcases List.mem_cons.mp hc with rfl | hc
      · exact if_pos hlow
      · rw [ih (fun d hd => hs d (List.mem_cons_of_mem b hd)) hc]
        split_ifs <;> rfl

theorem Fails.str {s : Bytes} (hs : ∀ b ∈ s, b ≠ 34 ∧ b ≠ 92) (h : ¬ Unescaped s) : Fails (34 :: (s ++ [34])) := by
  intro fuel rest hfuel _
  obtain ⟨fuel, rfl⟩ : ∃ n, fuel = n + 1 := ⟨fuel - 1, by omega⟩
  obtain ⟨c, hc, hlow⟩ : ∃ c ∈ s, c < 32 := by
    by_contra hnone
    refine h fun b hb => ⟨?_, hs b hb⟩
    exact UInt8.not_lt.mp fun hlow => hnone ⟨b, hb, hlow⟩
  have hskip : skip (34 :: (s ++ [34]) ++ rest) = 34 :: (s ++ 34 :: rest) := by
    simp [skip, blank]
  rw [value, hskip]
  dsimp only
  rw [if_pos rfl, string_control hs hc hlow]
  rfl

theorem settled_str {s : Bytes} (hs : ∀ b ∈ s, b ≠ 34 ∧ b ≠ 92) : Settled (34 :: (s ++ [34])) := by
  by_cases h : Unescaped s
  · exact Or.inr ⟨_, Reads.str h⟩
  · exact Or.inl (Fails.str hs h)

theorem Fails.scalar {b : UInt8} {s : Bytes} (hblank : blank b = false) (hopen : b ≠ 34 ∧ b ≠ 91 ∧ b ≠ 123)
    (h : ∀ rest, Ends rest → scalar (b :: (s ++ rest)) = none) : Fails (b :: s) := by
  intro fuel rest hfuel hends
  obtain ⟨fuel, rfl⟩ : ∃ n, fuel = n + 1 := ⟨fuel - 1, by omega⟩
  rw [List.cons_append, value, skip_of_ne hblank]
  dsimp only
  rw [if_neg hopen.1, if_neg hopen.2.1, if_neg hopen.2.2, h rest hends]

theorem Fails.num {t : Bytes} (hne : t ≠ []) (hbytes : ∀ b ∈ t, numberByte b = true) (h : jsonNumber t = false) : Fails t := by
  cases t with
  | nil => exact absurd rfl hne
  | cons b s =>
    have hb : numberByte b = true := hbytes b List.mem_cons_self
    refine Fails.scalar (blank_eq_false hb) ⟨ne_of_numberByte hb rfl, ne_of_numberByte hb rfl, ne_of_numberByte hb rfl⟩ ?_
    intro rest hends
    have htoken := (hends.split hbytes).1
    rw [List.cons_append] at htoken
    rw [scalar_numberByte hb, number, htoken, h]
    rfl

/-! ### Arrays and objects that are no value -/

theorem commas_cons_append (t : Bytes) (ts : List Bytes) (rest : Bytes) :
    commas (t :: ts) ++ rest = t ++ if ts = [] then rest else 44 :: (commas ts ++ rest) := by
  cases ts with
  | nil => rfl
  | cons u ts => simp [commas]

theorem length_commas_cons (t : Bytes) (ts : List Bytes) :
    (commas (t :: ts)).length = t.length + if ts = [] then 0 else (commas ts).length + 1 := by
  cases ts with
  | nil => rfl
  | cons u ts => simp [commas]

theorem ends_after {b : UInt8} (hb : numberByte b = false) (ts : List Bytes) (rest : Bytes) :
    Ends (if ts = [] then b :: rest else 44 :: (commas ts ++ b :: rest)) := by
  split_ifs
  · exact ends_cons hb rest
  · exact ends_cons rfl _

theorem elements_none {l : List Bytes} (h : ∀ t ∈ l, Settled t) {t : Bytes} (ht : t ∈ l) (hfails : Fails t) {n : ℕ}
    (hn : (commas l).length + 1 < n) (rest : Bytes) : elements n (commas l ++ 93 :: rest) = none := by
  induction l generalizing n with
  | nil => cases ht
  | cons u l ih =>
    obtain ⟨n, rfl⟩ : ∃ k, n = k + 1 := ⟨n - 1, by omega⟩
    rw [length_commas_cons] at hn
    have hends := ends_after (show numberByte 93 = false from rfl) l rest
    have hnone : Fails u → elements (n + 1) (commas (u :: l) ++ 93 :: rest) = none := fun hu => by
      rw [commas_cons_append, elements, hu n _ (by omega) hends]
      rfl
    rcases List.mem_cons.mp ht with rfl | ht
    · exact hnone hfails
    · rcases h u List.mem_cons_self with hu | ⟨v, hv⟩
      · exact hnone hu
      · have hne : l ≠ [] := List.ne_nil_of_mem ht
        rw [if_neg hne] at hn hends
        rw [commas_cons_append, if_neg hne, elements, hv n _ (by omega) hends]
        simp only [Option.bind_eq_bind, Option.bind_some, skip_of_ne (show blank 44 = false from rfl), if_true,
          ih (fun w hw => h w (List.mem_cons_of_mem u hw)) ht (n := n) (by omega), Option.map_none]

/-- An array of objects, one of which is no value. -/
theorem Fails.arr {l : List Bytes} (h : ∀ t ∈ l, Settled t) {t : Bytes} (ht : t ∈ l) (hfails : Fails t)
    (hhead : ∀ t ∈ l, t.head? = some 123) : Fails (91 :: (commas l ++ [93])) := by
  intro fuel rest hfuel _
  obtain ⟨fuel, rfl⟩ : ∃ n, fuel = n + 1 := ⟨fuel - 1, by omega⟩
  have htext : 91 :: (commas l ++ [93]) ++ rest = 91 :: (commas l ++ 93 :: rest) := by simp
  have hopen : (skip (commas l ++ 93 :: rest)).head? ≠ some 93 := by
    cases l with
    | nil => cases ht
    | cons u l =>
      obtain ⟨s, rfl⟩ := List.head?_eq_some_iff.mp (hhead u List.mem_cons_self)
      rw [commas_cons_append, List.cons_append, skip_of_ne rfl]
      exact fun heq => absurd (Option.some.inj heq) (by decide)
  have hlength : (commas l).length + 1 < fuel := by
    rw [List.length_cons, List.length_append, List.length_singleton] at hfuel
    omega
  rw [htext, value, skip_of_ne rfl]
  dsimp only
  rw [if_neg (by decide), if_pos rfl, if_neg hopen, elements_none h ht hfails hlength]
  rfl

/-- The texts of members, given those of their values. -/
def memberTexts (l : List (Bytes × Bytes)) : List Bytes := l.map fun m => memberText m.1 m.2

theorem members_none {l : List (Bytes × Bytes)} (h : ∀ m ∈ l, Unescaped m.1 ∧ Settled m.2) {m : Bytes × Bytes} (hm : m ∈ l)
    (hfails : Fails m.2) {n : ℕ} (hn : (commas (memberTexts l)).length < n) (rest : Bytes) :
    members n (commas (memberTexts l) ++ 125 :: rest) = none := by
  induction l generalizing n with
  | nil => cases hm
  | cons u l ih =>
    obtain ⟨n, rfl⟩ : ∃ k, n = k + 1 := ⟨n - 1, by omega⟩
    obtain ⟨hkey, hvalue⟩ := h u List.mem_cons_self
    have htexts : memberTexts (u :: l) = memberText u.1 u.2 :: memberTexts l := rfl
    have hlength : u.2.length + 3 ≤ (memberText u.1 u.2).length := by
      simp only [memberText, List.length_cons, List.length_append]
      omega
    rw [htexts, length_commas_cons] at hn
    have hends := ends_after (show numberByte 125 = false from rfl) (memberTexts l) rest
    have hnone : Fails u.2 → members (n + 1) (commas (memberTexts (u :: l)) ++ 125 :: rest) = none := fun hu => by
      rw [htexts, commas_cons_append, members, keyed_memberText hkey]
      simp only [Option.bind_eq_bind, Option.bind_some, hu n _ (by omega) hends, Option.bind_none]
    rcases List.mem_cons.mp hm with rfl | hm
    · exact hnone hfails
    · rcases hvalue with hu | ⟨v, hv⟩
      · exact hnone hu
      · have hne : memberTexts l ≠ [] := List.ne_nil_of_mem (List.mem_map_of_mem hm)
        rw [if_neg hne] at hn hends
        rw [htexts, commas_cons_append, if_neg hne, members, keyed_memberText hkey]
        simp only [Option.bind_eq_bind, Option.bind_some, hv n _ (by omega) hends, skip_of_ne (show blank 44 = false from rfl),
          if_true, ih (fun w hw => h w (List.mem_cons_of_mem u hw)) hm (n := n) (by omega), Option.map_none]

theorem Fails.obj {l : List (Bytes × Bytes)} (h : ∀ m ∈ l, Unescaped m.1 ∧ Settled m.2) {m : Bytes × Bytes} (hm : m ∈ l)
    (hfails : Fails m.2) : Fails (123 :: (commas (memberTexts l) ++ [125])) := by
  intro fuel rest hfuel _
  obtain ⟨fuel, rfl⟩ : ∃ n, fuel = n + 1 := ⟨fuel - 1, by omega⟩
  have htext : 123 :: (commas (memberTexts l) ++ [125]) ++ rest = 123 :: (commas (memberTexts l) ++ 125 :: rest) := by simp
  have hopen : (skip (commas (memberTexts l) ++ 125 :: rest)).head? ≠ some 125 := by
    cases l with
    | nil => cases hm
    | cons u l =>
      have htexts : memberTexts (u :: l) = memberText u.1 u.2 :: memberTexts l := rfl
      rw [htexts, commas_cons_append, memberText, List.cons_append, skip_of_ne rfl]
      exact fun heq => absurd (Option.some.inj heq) (by decide)
  have hlength : (commas (memberTexts l)).length < fuel := by
    rw [List.length_cons, List.length_append, List.length_singleton] at hfuel
    omega
  rw [htext, value, skip_of_ne rfl]
  dsimp only
  rw [if_neg (by decide), if_neg (by decide), if_pos rfl, if_neg hopen, members_none h hm hfails hlength]
  rfl

/-- The text of an object, each value of which is read or not. -/
theorem settled_obj {l : List (Bytes × Bytes)} (h : ∀ m ∈ l, Unescaped m.1 ∧ Settled m.2) :
    Settled (123 :: (commas (memberTexts l) ++ [125])) := by
  by_cases hfails : ∃ m ∈ l, Fails m.2
  · obtain ⟨m, hm, hfails⟩ := hfails
    exact Or.inl (Fails.obj h hm hfails)
  · have hreads : ∀ m ∈ l, ∃ v, Reads m.2 v := fun m hm => (h m hm).2.resolve_left fun hf => hfails ⟨m, hm, hf⟩
    have : Nonempty Doc := ⟨.null⟩
    choose! v hv using hreads
    refine Or.inr ⟨.obj (l.map fun m => (m.1, v m)), ?_⟩
    have hobj := Reads.obj (l := l.map fun m => ⟨m.1, m.2, v m⟩) fun w hw => by
      obtain ⟨m, hm, rfl⟩ := List.mem_map.mp hw
      exact ⟨(h m hm).1, hv m hm⟩
    rw [List.map_map, List.map_map] at hobj
    exact hobj

theorem Fails.read {t : Bytes} (h : Fails t) : read t = none := by
  have hvalue := h (t.length + 1) [] (Nat.lt_succ_self _) fun b hb => nomatch hb
  rw [List.append_nil] at hvalue
  rw [JsonReader.read, hvalue]
  exact ite_self _

/-! ### UTF-8 -/

theorem utf8From_append {owed : List (UInt8 × UInt8)} {s t : Bytes} (hs : utf8From owed s = true) (ht : validUtf8 t = true) :
    utf8From owed (s ++ t) = true := by
  induction s generalizing owed with
  | nil =>
    cases owed with
    | nil => exact ht
    | cons r owed => simp [utf8From] at hs
  | cons b s ih =>
    cases owed with
    | nil =>
      rw [List.cons_append]
      unfold utf8From at hs ⊢
      cases htail : utf8Tail b with
      | none => simp [htail] at hs
      | some owed =>
        rw [htail] at hs
        exact ih hs
    | cons r owed =>
      simp only [List.cons_append, utf8From, Bool.and_eq_true] at hs ⊢
      exact ⟨hs.1, ih hs.2⟩

theorem validUtf8_append {s t : Bytes} (hs : validUtf8 s = true) (ht : validUtf8 t = true) : validUtf8 (s ++ t) = true :=
  utf8From_append hs ht

theorem validUtf8_cons {b : UInt8} {t : Bytes} (hb : b < 0x80) (ht : validUtf8 t = true) : validUtf8 (b :: t) = true :=
  validUtf8_append (validUtf8_of_ascii (s := [b]) fun c hc => by rwa [List.mem_singleton.mp hc]) ht

theorem validUtf8_commas {ts : List Bytes} (h : ∀ t ∈ ts, validUtf8 t = true) : validUtf8 (commas ts) = true := by
  induction ts with
  | nil => rfl
  | cons t ts ih =>
    cases ts with
    | nil => exact h t List.mem_cons_self
    | cons t' ts =>
      exact validUtf8_append (h t List.mem_cons_self)
        (validUtf8_cons (by decide) (ih fun u hu => h u (List.mem_cons_of_mem t hu)))

theorem validUtf8_memberText {key t : Bytes} (hkey : validUtf8 key = true) (ht : validUtf8 t = true) :
    validUtf8 (memberText key t) = true :=
  validUtf8_cons (by decide) (validUtf8_append hkey (validUtf8_cons (by decide) (validUtf8_cons (by decide) ht)))

theorem utf8Tail_high {b : UInt8} {owed : List (UInt8 × UInt8)} (h : utf8Tail b = some owed) : ∀ r ∈ owed, 0x80 ≤ r.1 := by
  unfold utf8Tail at h
  dsimp only at h
  split_ifs at h <;> obtain rfl := Option.some.inj h <;>
    exact fun r hr => of_decide_eq_true (List.all_eq_true (p := fun r => decide (0x80 ≤ r.1)).mp rfl r hr)

theorem utf8From_split {owed : List (UInt8 × UInt8)} (howed : ∀ r ∈ owed, 0x80 ≤ r.1) {s t : Bytes} {b : UInt8} (hb : b < 0x80)
    (h : utf8From owed (s ++ b :: t) = true) : utf8From owed s = true ∧ validUtf8 t = true := by
  induction s generalizing owed with
  | nil =>
    cases owed with
    | nil =>
      have htail : utf8Tail b = some [] := if_pos hb
      simp only [List.nil_append, utf8From, htail] at h
      exact ⟨rfl, h⟩
    | cons r owed =>
      simp only [List.nil_append, utf8From, Bool.and_eq_true, decide_eq_true_eq] at h
      exact absurd (UInt8.le_trans (howed r List.mem_cons_self) h.1.1) (UInt8.not_le.mpr hb)
  | cons c s ih =>
    cases owed with
    | nil =>
      rw [List.cons_append] at h
      unfold utf8From at h ⊢
      cases htail : utf8Tail c with
      | none => simp [htail] at h
      | some owed =>
        rw [htail] at h
        exact ih (utf8Tail_high htail) h
    | cons r owed =>
      simp only [List.cons_append, utf8From, Bool.and_eq_true] at h ⊢
      obtain ⟨hs, ht⟩ := ih (fun r' hr' => howed r' (List.mem_cons_of_mem r hr')) h.2
      exact ⟨⟨h.1, hs⟩, ht⟩

theorem validUtf8_split {s t : Bytes} {b : UInt8} (hb : b < 0x80) (h : validUtf8 (s ++ b :: t) = true) :
    validUtf8 s = true ∧ validUtf8 t = true :=
  utf8From_split (List.forall_mem_nil _) hb h

/-- What stands between two quotes is UTF-8, if the whole text is. -/
theorem validUtf8_quoted {s t : Bytes} (h : validUtf8 t = true) (hs : 34 :: (s ++ [34]) <:+: t) : validUtf8 s = true := by
  obtain ⟨a, c, rfl⟩ := hs
  have htext : a ++ 34 :: (s ++ [34]) ++ c = a ++ 34 :: (s ++ 34 :: c) := by simp
  rw [htext] at h
  exact (validUtf8_split (by decide) (validUtf8_split (by decide) h).2).1

theorem infix_commas {t : Bytes} {ts : List Bytes} (h : t ∈ ts) : t <:+: commas ts := by
  induction ts with
  | nil => cases h
  | cons u ts ih =>
    have hsplit := commas_cons_append u ts []
    rw [List.append_nil] at hsplit
    rw [hsplit]
    rcases List.mem_cons.mp h with rfl | h
    · exact (List.prefix_append _ _).isInfix
    · rw [if_neg (List.ne_nil_of_mem h), List.append_nil]
      exact (ih h).trans ((List.suffix_cons _ _).isInfix.trans (List.suffix_append _ _).isInfix)

end JsonReader
