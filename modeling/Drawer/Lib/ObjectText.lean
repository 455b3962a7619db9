import Drawer.Lib.JsonReader

/-! Objects of strings that are written as they are, one on a line. A reader has at least their quotes, colons and
commas to get through besides what he makes of them, and if there is nothing more no string had an escape in it. -/

namespace JsonReader
open Text

/-! ### Texts that say no more than they must -/

theorem unit_length {s : Bytes} {u : ℕ} {rest : Bytes} (h : unit s = some (u, rest)) : rest.length + 4 = s.length := by
  match s with
  | [] | [_] | [_, _] | [_, _, _] => cases h
  | a :: b :: c :: d :: s =>
    obtain ⟨_, -, h⟩ := Option.bind_eq_some_iff.mp h
    obtain ⟨_, -, h⟩ := Option.bind_eq_some_iff.mp h
    obtain ⟨_, -, h⟩ := Option.bind_eq_some_iff.mp h
    obtain ⟨_, -, h⟩ := Option.bind_eq_some_iff.mp h
    obtain ⟨-, rfl⟩ := Prod.mk.inj (Option.some.inj h)
    rfl

theorem encode_length (c : Char) : (String.utf8EncodeChar c).length ≤ 4 := by
  rw [String.length_utf8EncodeChar]
  exact Char.utf8Size_le_four c

theorem character_length {s c rest : Bytes} (h : character s = some (c, rest)) : c.length + rest.length ≤ s.length := by
  unfold character at h
  obtain ⟨⟨u, s₁⟩, hunit, h⟩ := Option.bind_eq_some_iff.mp h
  have hlength := unit_length hunit
  dsimp only at h
  split_ifs at h
  · split at h
    · obtain ⟨⟨v, s₂⟩, hunit', h⟩ := Option.bind_eq_some_iff.mp h
      have hlength' := unit_length hunit'
      dsimp only at h
      split_ifs at h
      obtain ⟨rfl, rfl⟩ := Prod.mk.inj (Option.some.inj h)
      have hencode := encode_length (Char.ofNat (0x10000 + (u - 0xD800) * 0x400 + (v - 0xDC00)))
      simp only [List.length_cons] at hlength hlength'
      omega
    · cases h
  · obtain ⟨rfl, rfl⟩ := Prod.mk.inj (Option.some.inj h)
    have hencode := encode_length (Char.ofNat u)
    omega

/-- An escape is longer than what it stands for, by its backslash at the least. -/
theorem escape_length {s c rest : Bytes} (h : escape s = some (c, rest)) : c.length + rest.length ≤ s.length := by
  cases s with
  | nil => cases h
  | cons b s =>
    rw [escape] at h
    split_ifs at h
    · exact (character_length h).trans (Nat.le_succ _)
    · obtain ⟨_, -, heq⟩ := Option.map_eq_some_iff.mp h
      obtain ⟨rfl, rfl⟩ := Prod.mk.inj heq
      rw [List.length_singleton, List.length_cons, Nat.add_comm]

/-- A string is at least as long as what it stands for, and it is no longer only if it has no escapes. -/
theorem string_tight {fuel : ℕ} {s v rest : Bytes} (h : string fuel s = some (v, rest)) :
    v.length + 1 + rest.length ≤ s.length ∧ (s.length ≤ v.length + 1 + rest.length → Unescaped v ∧ s = v ++ 34 :: rest) := by
  induction fuel generalizing s v with
  | zero => cases h
  | succ fuel ih =>
    cases s with
    | nil => cases h
    | cons b s =>
      rw [string] at h
      split_ifs at h with hquote hslash hlow
      · obtain ⟨rfl, rfl⟩ := Prod.mk.inj (Option.some.inj h)
        refine ⟨by simp [Nat.add_comm], fun _ => ⟨fun c hc => absurd hc List.not_mem_nil, by rw [hquote]; rfl⟩⟩
      · obtain ⟨⟨c, s₁⟩, hescape, hrest⟩ := Option.bind_eq_some_iff.mp h
        obtain ⟨⟨v', rest'⟩, hstring, heq⟩ := Option.map_eq_some_iff.mp hrest
        dsimp only at heq hstring
        obtain ⟨rfl, rfl⟩ := Prod.mk.inj heq
        have hlength := escape_length hescape
        have hlength' := (ih hstring).1
        rw [List.length_cons, List.length_append]
        exact ⟨by omega, fun htight => by omega⟩
      · obtain ⟨⟨v', rest'⟩, hstring, heq⟩ := Option.map_eq_some_iff.mp h
        dsimp only at heq
        obtain ⟨rfl, rfl⟩ := Prod.mk.inj heq
        obtain ⟨hlength, htight⟩ := ih hstring
        rw [List.length_cons, List.length_cons]
        refine ⟨by omega, fun hle => ?_⟩
        obtain ⟨hunescaped, hs⟩ := htight (by omega)
        refine ⟨fun c hc => ?_, by rw [hs]; rfl⟩
        rcases List.mem_cons.mp hc with rfl | hc
        · exact ⟨UInt8.not_lt.mp hlow, hquote, hslash⟩
        · exact hunescaped c hc

theorem skip_length (s : Bytes) : (skip s).length ≤ s.length := (List.dropWhile_sublist _).length_le

theorem keyed_tight {s key rest : Bytes} (h : keyed s = some (key, rest)) :
    key.length + 3 + rest.length ≤ s.length ∧ (s.length ≤ key.length + 3 + rest.length → Unescaped key) := by
  cases s with
  | nil => cases h
  | cons b s =>
    rw [keyed] at h
    split_ifs at h
    obtain ⟨⟨key', s₁⟩, hstring, h⟩ := Option.bind_eq_some_iff.mp h
    obtain ⟨hlength, htight⟩ := string_tight hstring
    have hskip := skip_length s₁
    dsimp only at h
    cases hs : skip s₁ with
    | nil =>
      rw [hs] at h
      cases h
    | cons b' s₂ =>
      rw [hs] at h hskip
      dsimp only at h
      split_ifs at h
      obtain ⟨rfl, rfl⟩ := Prod.mk.inj (Option.some.inj h)
      simp only [List.length_cons] at hskip ⊢
      exact ⟨by omega, fun hle => (htight (by omega)).1⟩

theorem scalar_ne_str {s v rest : Bytes} : scalar s ≠ some (.str v, rest) := by
  have hliteral : ∀ {w : Bytes} {d : Doc}, (∀ v, d ≠ .str v) → literal w d s ≠ some (.str v, rest) := by
    intro w d hd h
    unfold literal at h
    split_ifs at h
    exact hd v (Prod.mk.inj (Option.some.inj h)).1
  intro h
  rcases (Option.orElse_eq_some _ _ _).mp h with h | ⟨-, h⟩
  · exact hliteral (fun _ => Doc.noConfusion) h
  rcases (Option.orElse_eq_some _ _ _).mp h with h | ⟨-, h⟩
  · exact hliteral (fun _ => Doc.noConfusion) h
  rcases (Option.orElse_eq_some _ _ _).mp h with h | ⟨-, h⟩
  · exact hliteral (fun _ => Doc.noConfusion) h
  · unfold number at h
    dsimp only at h
    split_ifs at h
    cases h

/-- A text that is read as a string has at least its quotes besides, and if it has no more the string is written as it is. -/
theorem value_tight {fuel : ℕ} {s v rest : Bytes} (h : value fuel s = some (.str v, rest)) :
    v.length + 2 + rest.length ≤ s.length ∧ (s.length ≤ v.length + 2 + rest.length → Unescaped v) := by
  cases fuel with
  | zero =>
    rw [value] at h
    cases h
  | succ fuel =>
    have hskip := skip_length s
    rw [value] at h
    cases hs : skip s with
    | nil =>
      rw [hs] at h
      cases h
    | cons b t =>
      rw [hs] at h hskip
      dsimp only at h
      rw [List.length_cons] at hskip
      split_ifs at h with hquote
      · obtain ⟨⟨v', rest'⟩, hstring, heq⟩ := Option.map_eq_some_iff.mp h
        obtain ⟨hv, rfl⟩ := Prod.mk.inj heq
        obtain rfl := Doc.str.inj hv
        obtain ⟨hlength, htight⟩ := string_tight hstring
        dsimp only at hlength htight ⊢
        exact ⟨by omega, fun hle => (htight (by omega)).1⟩
      all_goals first
        | exact absurd h scalar_ne_str
        | cases h
        | (obtain ⟨_, -, heq⟩ := Option.map_eq_some_iff.mp h; cases heq)

/-- The members of an object of strings, each with its quotes, its colon and a comma or the closing brace. -/
def weight (l : List (Bytes × Bytes)) : ℕ := (l.map fun p => p.1.length + p.2.length + 6).sum

theorem members_tight {fuel : ℕ} {s rest : Bytes} {l : List (Bytes × Bytes)}
    (h : members fuel s = some (l.map fun p => (p.1, .str p.2), rest)) :
    weight l + rest.length ≤ s.length ∧
      (s.length ≤ weight l + rest.length → ∀ p ∈ l, Unescaped p.1 ∧ Unescaped p.2) := by
  induction fuel generalizing s l with
  | zero =>
    rw [members] at h
    cases h
  | succ fuel ih =>
    rw [members] at h
    obtain ⟨⟨key, s₁⟩, hkeyed, h⟩ := Option.bind_eq_some_iff.mp h
    obtain ⟨⟨v, s₂⟩, hvalue, h⟩ := Option.bind_eq_some_iff.mp h
    obtain ⟨hkey, hkeyTight⟩ := keyed_tight hkeyed
    have hbefore := skip_length s
    have hbetween := skip_length s₂
    dsimp only at h hvalue
    cases hs : skip s₂ with
    | nil =>
      rw [hs] at h
      cases h
    | cons b s₃ =>
      rw [hs] at h hbetween
      rw [List.length_cons] at hbetween
      dsimp only at h
      -- the list has this member first, and it is a string
      have hone : ∀ {value : Bytes} {more : List (Bytes × Bytes)} {rest' : Bytes}, v = .str value →
          (weight more + rest'.length ≤ s₃.length ∧
            (s₃.length ≤ weight more + rest'.length → ∀ p ∈ more, Unescaped p.1 ∧ Unescaped p.2)) →
          weight ((key, value) :: more) + rest'.length ≤ s.length ∧
            (s.length ≤ weight ((key, value) :: more) + rest'.length →
              ∀ p ∈ (key, value) :: more, Unescaped p.1 ∧ Unescaped p.2) := by
        rintro value more rest' rfl ⟨hmore, hmoreTight⟩
        obtain ⟨hvalueLength, hvalueTight⟩ := value_tight hvalue
        have hweight : weight ((key, value) :: more) = key.length + value.length + 6 + weight more := rfl
        rw [hweight]
        refine ⟨by omega, fun hle p hp => ?_⟩
        rcases List.mem_cons.mp hp with rfl | hp
        · exact ⟨hkeyTight (by omega), hvalueTight (by omega)⟩
        · exact hmoreTight (by omega) p hp
      split_ifs at h with hcomma hbrace
      · obtain ⟨⟨more, rest'⟩, hmembers, heq⟩ := Option.map_eq_some_iff.mp h
        obtain ⟨hlist, rfl⟩ := Prod.mk.inj heq
        cases l with
        | nil => cases hlist
        | cons p l =>
          obtain ⟨hhead, rfl⟩ := List.cons.inj hlist
          obtain ⟨rfl, rfl⟩ := Prod.mk.inj hhead
          exact hone rfl (ih hmembers)
      · obtain ⟨hlist, rfl⟩ := Prod.mk.inj (Option.some.inj h)
        cases l with
        | nil => cases hlist
        | cons p l =>
          obtain ⟨hhead, htail⟩ := List.cons.inj hlist
          obtain ⟨rfl, rfl⟩ := Prod.mk.inj hhead
          obtain rfl : l = [] := List.map_eq_nil_iff.mp htail.symm
          exact hone rfl ⟨by simp [weight], fun _ p hp => absurd hp List.not_mem_nil⟩

/-- The text of an object of strings, as it is written without a thought for escapes. -/
def objectText (l : List (Bytes × Bytes)) : Bytes :=
  123 :: (commas (l.map fun p => memberText p.1 (34 :: (p.2 ++ [34]))) ++ [125])

theorem length_commas {ts : List Bytes} (hne : ts ≠ []) : (commas ts).length + 1 = (ts.map fun t => t.length + 1).sum := by
  induction ts with
  | nil => exact absurd rfl hne
  | cons t ts ih =>
    cases ts with
    | nil => rfl
    | cons t' ts =>
      have hcommas : commas (t :: t' :: ts) = t ++ 44 :: commas (t' :: ts) := rfl
      rw [hcommas, List.length_append, List.length_cons, List.map_cons, List.sum_cons, ← ih (List.cons_ne_nil t' ts)]
      omega

theorem length_objectText {l : List (Bytes × Bytes)} (hne : l ≠ []) : (objectText l).length = weight l + 1 := by
  have hmap : (l.map fun p => memberText p.1 (34 :: (p.2 ++ [34]))) ≠ [] := by simpa using hne
  have hlength := length_commas hmap
  have hweight : ((l.map fun p => memberText p.1 (34 :: (p.2 ++ [34]))).map fun t => t.length + 1).sum = weight l := by
    rw [List.map_map, weight]
    congr 1
    refine List.map_congr_left fun p _ => ?_
    simp only [Function.comp_apply, memberText, List.length_cons, List.length_append, List.length_nil]
    omega
  rw [objectText, List.length_cons, List.length_append, List.length_singleton]
  omega

/-- A string that is written as it is, and is UTF-8. -/
def Verbatim (s : Bytes) : Prop := Unescaped s ∧ validUtf8 s = true

instance (s : Bytes) : Decidable (Verbatim s) := inferInstanceAs (Decidable (_ ∧ _))

theorem unescaped_of_read {l : List (Bytes × Bytes)} (h : read (objectText l) = some (.obj (l.map fun p => (p.1, .str p.2)))) :
    ∀ p ∈ l, Unescaped p.1 ∧ Unescaped p.2 := by
  rcases List.eq_nil_or_concat l with hnil | ⟨_, _, hcons⟩
  · simp [hnil]
  have hne : l ≠ [] := by simp [hcons]
  have hlength := length_objectText hne
  unfold read at h
  split_ifs at h
  cases hvalue : value ((objectText l).length + 1) (objectText l) with
  | none =>
    rw [hvalue] at h
    cases h
  | some r =>
    obtain ⟨v, rest⟩ := r
    rw [hvalue] at h
    dsimp only at h
    split_ifs at h
    obtain rfl := Option.some.inj h
    rw [objectText, value, skip_of_ne rfl] at hvalue
    dsimp only at hvalue
    rw [if_neg (by decide), if_neg (by decide), if_pos rfl] at hvalue
    split_ifs at hvalue
    · obtain ⟨hobj, -⟩ := Prod.mk.inj (Option.some.inj hvalue)
      exact absurd (List.map_eq_nil_iff.mp (Doc.obj.inj hobj).symm) hne
    · obtain ⟨⟨ms, rest'⟩, hmembers, heq⟩ := Option.map_eq_some_iff.mp hvalue
      obtain ⟨hobj, rfl⟩ := Prod.mk.inj heq
      obtain rfl : ms = _ := Doc.obj.inj hobj
      rw [objectText, List.length_cons] at hlength
      exact (members_tight hmembers).2 (by omega)

theorem quoted_infix {p : Bytes × Bytes} {l : List (Bytes × Bytes)} (hp : p ∈ l) :
    34 :: (p.1 ++ [34]) <:+: objectText l ∧ 34 :: (p.2 ++ [34]) <:+: objectText l := by
  have hmember : memberText p.1 (34 :: (p.2 ++ [34])) <:+: objectText l :=
    (infix_commas (List.mem_map_of_mem (f := fun p : Bytes × Bytes => memberText p.1 (34 :: (p.2 ++ [34]))) hp)).trans
      ((List.prefix_append _ [125]).isInfix.trans (List.suffix_cons 123 _).isInfix)
  exact ⟨List.IsInfix.trans ⟨[], 58 :: 34 :: (p.2 ++ [34]), by simp [memberText]⟩ hmember,
    List.IsInfix.trans ⟨34 :: (p.1 ++ [34, 58]), [], by simp [memberText]⟩ hmember⟩

/-- An object of strings is read back from its text just if no string needs an escape. -/
theorem read_objectText_iff (l : List (Bytes × Bytes)) :
    read (objectText l) = some (.obj (l.map fun p => (p.1, .str p.2))) ↔ ∀ p ∈ l, Verbatim p.1 ∧ Verbatim p.2 := by
  refine ⟨fun h p hp => ?_, fun h => ?_⟩
  · have hutf8 : validUtf8 (objectText l) = true := by
      unfold read at h
      split_ifs at h with hutf8
      exact hutf8
    obtain ⟨hkey, hvalue⟩ := unescaped_of_read h p hp
    obtain ⟨hquoted, hquoted'⟩ := quoted_infix hp
    exact ⟨⟨hkey, validUtf8_quoted hutf8 hquoted⟩, hvalue, validUtf8_quoted hutf8 hquoted'⟩
  · let members : List Member := l.map fun p => ⟨p.1, 34 :: (p.2 ++ [34]), .str p.2⟩
    have hreads := Reads.obj (l := members) fun m hm => by
      obtain ⟨p, hp, rfl⟩ := List.mem_map.mp hm
      exact ⟨(h p hp).1.1, Reads.str (h p hp).2.1⟩
    have hutf8 : validUtf8 (objectText l) = true := by
      refine validUtf8_cons (by decide) (validUtf8_append (validUtf8_commas fun t ht => ?_) (by decide))
      obtain ⟨p, hp, rfl⟩ := List.mem_map.mp ht
      exact validUtf8_memberText (h p hp).1.2 (validUtf8_cons (by decide) (validUtf8_append (h p hp).2.2 (by decide)))
    rw [List.map_map, List.map_map] at hreads
    exact hreads.read hutf8

/-! ### Lines of them -/

theorem count_le_length_lines (c : UInt8) (s : Bytes) : s.count c ≤ (lines c s).length := by
  induction s with
  | nil => exact Nat.zero_le _
  | cons b s ih =>
    rw [List.count_cons, lines]
    by_cases hb : b = c
    · rw [if_pos hb, if_pos (by simpa using hb), List.length_cons]
      omega
    · rw [if_neg hb, if_neg (by simpa using hb)]
      cases hlines : lines c s with
      | nil =>
        rw [hlines, List.length_nil] at ih
        simp only [List.length_singleton]
        omega
      | cons l ls =>
        rw [hlines, List.length_cons] at ih
        simp only [List.length_cons]
        omega

theorem count_unlines (c : UInt8) (ls : List Bytes) : (unlines c ls).count c = (ls.map fun l => l.count c).sum + ls.length := by
  induction ls with
  | nil => rfl
  | cons l ls ih =>
    have hcons : unlines c (l :: ls) = l ++ (c :: unlines c ls) := by simp [unlines]
    rw [hcons, List.count_append, List.count_cons_self, ih, List.map_cons, List.sum_cons, List.length_cons]
    omega

/-- As many lines are read as were written just if none has a separator in it. -/
theorem not_mem_of_length_lines {c : UInt8} {ls : List Bytes} (h : (lines c (unlines c ls)).length = ls.length) :
    ∀ l ∈ ls, c ∉ l := by
  intro l hl hmem
  have hcount := count_le_length_lines c (unlines c ls)
  rw [count_unlines, h] at hcount
  have hle := List.le_sum_of_mem (List.mem_map_of_mem (f := fun l => l.count c) hl)
  have hpos := List.count_pos_iff.mpr hmem
  omega

theorem not_mem_commas {c : UInt8} (hc : c ≠ 44) {ts : List Bytes} (h : ∀ t ∈ ts, c ∉ t) : c ∉ commas ts := by
  induction ts with
  | nil => exact List.not_mem_nil
  | cons t ts ih =>
    have ht := h t List.mem_cons_self
    cases ts with
    | nil => exact ht
    | cons t' ts =>
      have hrest := ih fun u hu => h u (List.mem_cons_of_mem t hu)
      have hcommas : commas (t :: t' :: ts) = t ++ 44 :: commas (t' :: ts) := rfl
      rw [hcommas]
      simp [ht, hc, hrest]

theorem not_mem_objectText {l : List (Bytes × Bytes)} (h : ∀ p ∈ l, Verbatim p.1 ∧ Verbatim p.2) : 10 ∉ objectText l := by
  have hverbatim : ∀ {s : Bytes}, Verbatim s → 10 ∉ s := fun hs hmem => absurd (hs.1 10 hmem).1 (by decide)
  have hmembers : ∀ t ∈ l.map fun p => memberText p.1 (34 :: (p.2 ++ [34])), 10 ∉ t := by
    intro t ht
    obtain ⟨p, hp, rfl⟩ := List.mem_map.mp ht
    simp [memberText, hverbatim (h p hp).1, hverbatim (h p hp).2]
  simp [objectText, not_mem_commas (by decide) hmembers]

/-- The objects are read back line by line just if no string needs an escape. -/
theorem read_lines_iff (ls : List (List (Bytes × Bytes))) :
    (lines 10 (unlines 10 (ls.map objectText))).map read = ls.map (fun l => some (.obj (l.map fun p => (p.1, .str p.2)))) ↔
      ∀ l ∈ ls, ∀ p ∈ l, Verbatim p.1 ∧ Verbatim p.2 := by
  refine ⟨fun h => ?_, fun h => ?_⟩
  · have hlength : (lines 10 (unlines 10 (ls.map objectText))).length = (ls.map objectText).length := by
      have hmaps := congrArg List.length h
      rwa [List.length_map, List.length_map, ← List.length_map (f := objectText)] at hmaps
    rw [lines_unlines (not_mem_of_length_lines hlength), List.map_map] at h
    exact fun l hl => (read_objectText_iff l).mp (List.map_inj_left.mp h l hl)
  · rw [lines_unlines, List.map_map]
    · exact List.map_congr_left fun l hl => (read_objectText_iff l).mpr (h l hl)
    · intro t ht
      obtain ⟨l, hl, rfl⟩ := List.mem_map.mp ht
      exact not_mem_objectText (h l hl)

end JsonReader
