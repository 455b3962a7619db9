import Drawer.Lib.Text

/-! First-occurrence search. The rules say where a search can be cut short (the
occurrence is in the first part of the text) and where it can skip a part of the
text (no occurrence starts there); the second is worked out for single bytes and
for a name between two delimiters. -/

namespace Text

variable {pat s t a b : Bytes} {c q : UInt8}

theorem find_nil (hp : pat ≠ []) : find pat [] = none := if_neg hp

theorem find_cons_here (h : pat <+: c :: s) : find pat (c :: s) = some ([], c :: s) :=
  if_pos (List.isPrefixOf_iff_prefix.mpr h)

theorem find_cons_skip (h : ¬ pat <+: c :: s) :
    find pat (c :: s) = (find pat s).map fun p => (c :: p.1, p.2) :=
  if_neg fun h' => h (List.isPrefixOf_iff_prefix.mp h')

theorem find_here (h : pat <+: s) : find pat s = some ([], s) := by
  cases s with
  | nil => exact if_pos (List.prefix_nil.mp h)
  | cons c s => exact find_cons_here h

theorem find_split (h : find pat s = some (a, b)) : s = a ++ b ∧ pat <+: b := by
  induction s generalizing a with
  | nil =>
    unfold find at h
    split_ifs at h with hp
    obtain ⟨rfl, rfl⟩ := Prod.mk.inj (Option.some.inj h)
    exact ⟨rfl, hp ▸ List.prefix_rfl⟩
  | cons c s ih =>
    by_cases hpre : pat <+: c :: s
    · rw [find_cons_here hpre] at h
      obtain ⟨rfl, rfl⟩ := Prod.mk.inj (Option.some.inj h)
      exact ⟨rfl, hpre⟩
    · rw [find_cons_skip hpre] at h
      obtain ⟨⟨a', b'⟩, hf, hab⟩ := Option.map_eq_some_iff.mp h
      obtain ⟨rfl, rfl⟩ := Prod.mk.inj hab
      obtain ⟨rfl, hb⟩ := ih hf
      exact ⟨rfl, hb⟩

theorem find_append (h : find pat s = some (a, b)) (t : Bytes) : find pat (s ++ t) = some (a, b ++ t) := by
  induction s generalizing a with
  | nil =>
    obtain ⟨hs, hp⟩ := find_split h
    obtain ⟨rfl, rfl⟩ := List.append_eq_nil_iff.mp hs.symm
    exact find_here (List.prefix_nil.mp hp ▸ List.nil_prefix)
  | cons c s ih =>
    by_cases hpre : pat <+: c :: s
    · rw [find_cons_here hpre] at h
      obtain ⟨rfl, rfl⟩ := Prod.mk.inj (Option.some.inj h)
      exact find_here (hpre.trans (List.prefix_append _ _))
    · rw [find_cons_skip hpre] at h
      obtain ⟨⟨a', b'⟩, hf, hab⟩ := Option.map_eq_some_iff.mp h
      obtain ⟨rfl, rfl⟩ := Prod.mk.inj hab
      have hnot : ¬ pat <+: c :: (s ++ t) := by
        intro hpre'
        -- the occurrence found later in `s` shows that `pat` fits into `c :: s`
        obtain ⟨rfl, hb⟩ := find_split hf
        have hlen : pat.length ≤ (c :: (a' ++ b')).length := by
          have := hb.length_le
          simp only [List.length_cons, List.length_append]
          omega
        exact hpre (List.prefix_of_prefix_length_le hpre' (List.prefix_append (c :: (a' ++ b')) t) hlen)
      rw [List.cons_append, find_cons_skip hnot, ih hf]
      rfl

theorem find_isSome_iff : (find pat s).isSome = true ↔ pat <:+: s := by
  induction s with
  | nil =>
    unfold find
    split_ifs with h
    · simp [h]
    · simp [h]
  | cons c s ih =>
    by_cases hpre : pat <+: c :: s
    · rw [find_cons_here hpre]
      simp [hpre.isInfix]
    · rw [find_cons_skip hpre, Option.isSome_map, ih, List.infix_cons_iff]
      simp [hpre]

theorem find_eq_none_iff : find pat s = none ↔ ¬ pat <:+: s := by
  rw [← find_isSome_iff]
  simp

/-- The search skips a part of the text in which no occurrence starts. -/
theorem find_skip (h : ∀ a₁ a₂, a = a₁ ++ a₂ → a₂ ≠ [] → ¬ pat <+: a₂ ++ s) :
    find pat (a ++ s) = (find pat s).map fun p => (a ++ p.1, p.2) := by
  induction a with
  | nil => simp
  | cons c a ih =>
    have hhead : ¬ pat <+: c :: (a ++ s) := h [] (c :: a) rfl (by simp)
    have htail := ih fun a₁ a₂ ha => h (c :: a₁) a₂ (by rw [ha]; rfl)
    rw [List.cons_append, find_cons_skip hhead, htail, Option.map_map]
    rfl

/-- A search for one byte skips a text without it. -/
theorem find_byte_skip (h : c ∉ a) (s : Bytes) : find [c] (a ++ s) = (find [c] s).map fun p => (a ++ p.1, p.2) := by
  refine find_skip fun a₁ a₂ ha hne hpre => ?_
  obtain ⟨d, a₃, rfl⟩ := List.exists_cons_of_ne_nil hne
  obtain rfl : c = d := by simpa using hpre
  exact h (by simp [ha])

theorem find_byte_here (s : Bytes) : find [c] (c :: s) = some ([], c :: s) :=
  find_here (by simp)

theorem find_byte (h : c ∉ a) (s : Bytes) : find [c] (a ++ c :: s) = some (a, c :: s) := by
  rw [find_byte_skip h, find_byte_here]
  simp

theorem find_byte_eq_none_iff : find [c] s = none ↔ c ∉ s := by
  rw [find_eq_none_iff, List.singleton_infix_iff]

theorem find_byte_split (h : find [c] s = some (a, b)) : ∃ b', b = c :: b' ∧ s = a ++ c :: b' := by
  obtain ⟨hs, b', rfl⟩ := find_split h
  exact ⟨b', rfl, hs⟩

/-- The name `key` between two `q`. -/
def delimited (q : UInt8) (key : Bytes) : Bytes := q :: key ++ [q]

variable {key : Bytes}

/-- A name that does not occur up to the next `q` is searched from that `q` on. -/
theorem find_delimited_skip (hq : q ∉ key) (h : find (delimited q key) (a ++ [q]) = none) (s : Bytes) :
    find (delimited q key) (a ++ q :: s) =
      (find (delimited q key) (q :: s)).map fun p => (a ++ p.1, p.2) := by
  refine find_skip fun a₁ a₂ ha hne hpre => ?_
  obtain ⟨d, a₃, rfl⟩ := List.exists_cons_of_ne_nil hne
  simp only [delimited, List.cons_append, List.cons_prefix_cons] at hpre
  obtain ⟨rfl, hpre⟩ := hpre
  have hno : ¬ key ++ [q] <+: a₃ ++ [q] := by
    intro hin
    rw [find_eq_none_iff] at h
    refine h ?_
    rw [ha, List.append_assoc]
    refine List.IsInfix.trans ?_ (List.infix_append_right)
    exact (List.cons_prefix_cons.mpr ⟨rfl, hin⟩ : delimited q key <+: q :: (a₃ ++ [q])).isInfix
  -- otherwise the `q` after `a₃` lies inside the name
  have hin' : a₃ ++ [q] <+: a₃ ++ q :: s := (List.prefix_append_right_inj _).mpr (by simp)
  rcases List.prefix_or_prefix_of_prefix hpre hin' with hle | hge
  · exact hno hle
  · obtain ⟨r, hr⟩ := hge
    rcases List.eq_nil_or_concat r with rfl | ⟨r', d, rfl⟩
    · exact hno (by simp at hr; simp [hr])
    · have : q ∈ key := by
        have hk : a₃ ++ [q] ++ r' = key := by
          have := congrArg List.dropLast hr
          simpa [List.concat_eq_append, ← List.append_assoc] using this
        rw [← hk]
        simp
      exact hq this

/-- No part of the name found reaches back over the `q` it starts with. -/
theorem find_delimited_fresh (h : find (delimited q key) s = some (a, b)) :
    find (delimited q key) (a ++ [q]) = none := by
  obtain ⟨rfl, r, rfl⟩ := find_split h
  cases hf : find (delimited q key) (a ++ [q]) with
  | none => rfl
  | some p =>
    obtain ⟨a₁, s₁⟩ := p
    obtain ⟨hs, hpre⟩ := find_split hf
    have hm := find_append hf (key ++ [q] ++ r)
    have he : a ++ [q] ++ (key ++ [q] ++ r) = a ++ (delimited q key ++ r) := by simp [delimited]
    rw [he, h] at hm
    obtain ⟨rfl, -⟩ := Prod.mk.inj (Option.some.inj hm)
    obtain rfl := List.append_cancel_left hs
    have := hpre.length_le
    simp [delimited] at this

/-- A search for a name skips another name. -/
theorem find_delimited_other (hq : q ∉ key) {name : Bytes} (hn : q ∉ name) (hne : name ≠ key) (s : Bytes) :
    find (delimited q key) (q :: (name ++ q :: s)) =
      (find (delimited q key) (q :: s)).map fun p => (q :: (name ++ p.1), p.2) := by
  refine find_skip (a := q :: name) fun a₁ a₂ ha hne₂ hpre => ?_
  cases a₁ with
  | nil =>
    obtain rfl : q :: name = a₂ := ha
    simp only [delimited, List.cons_append, List.cons_prefix_cons, true_and] at hpre
    obtain ⟨r, hr⟩ := hpre
    rw [List.append_assoc] at hr
    exact hne (append_cons_inj hq hn hr).1.symm
  | cons d a₁ =>
    obtain ⟨rfl, hname⟩ := List.cons.inj ha
    obtain ⟨e, a₃, rfl⟩ := List.exists_cons_of_ne_nil hne₂
    obtain rfl : q = e := (List.cons_prefix_cons.mp hpre).1
    exact hn (by simp [hname])

theorem find_delimited_here (s : Bytes) :
    find (delimited q key) (q :: (key ++ q :: s)) = some ([], q :: (key ++ q :: s)) :=
  find_here ⟨s, by simp [delimited]⟩

/-! ### Texts that a search passes over -/

/-- No occurrence of `pat` starts in `a`, whatever follows. -/
def Passes (pat a : Bytes) : Prop := ∀ a₁ a₂, a = a₁ ++ a₂ → a₂ ≠ [] → ∀ s, ¬ pat <+: a₂ ++ s

theorem Passes.find (h : Passes pat a) (s : Bytes) :
    find pat (a ++ s) = (find pat s).map fun p => (a ++ p.1, p.2) :=
  find_skip fun a₁ a₂ ha hne => h a₁ a₂ ha hne s

/-- What is passed over adds no occurrence. -/
theorem Passes.infix_iff (h : Passes pat a) : pat <:+: a ++ s ↔ pat <:+: s := by
  rw [← find_isSome_iff, ← find_isSome_iff, h.find, Option.isSome_map]

theorem Passes.append (ha : Passes pat a) (hb : Passes pat b) : Passes pat (a ++ b) := by
  intro c₁ c₂ hc hne s
  rcases List.append_eq_append_iff.mp hc with ⟨d, rfl, hd⟩ | ⟨d, hd, rfl⟩
  · exact hb d c₂ hd hne s
  · cases d with
    | nil => exact hb [] b rfl hne s
    | cons e d =>
      rw [List.append_assoc]
      exact ha c₁ (e :: d) hd (List.cons_ne_nil e d) (b ++ s)

theorem Passes.flatten {l : List Bytes} (h : ∀ a ∈ l, Passes pat a) : Passes pat l.flatten := by
  induction l with
  | nil => exact fun a₁ a₂ ha hne => absurd (List.append_eq_nil_iff.mp ha.symm).2 hne
  | cons a l ih =>
    rw [List.flatten_cons]
    exact (h a List.mem_cons_self).append (ih fun b hb => h b (List.mem_cons_of_mem _ hb))

/-- A text without the first byte of `pat`. -/
theorem passes_of_notMem (h : c ∉ a) (pat : Bytes) : Passes (c :: pat) a := by
  intro a₁ a₂ ha hne s hpre
  obtain ⟨d, a₃, rfl⟩ := List.exists_cons_of_ne_nil hne
  obtain ⟨rfl, -⟩ := List.cons_prefix_cons.mp hpre
  exact h (by simp [ha])

/-- Every `q` in the text comes right after an `x`. -/
def Escaped (q x : UInt8) (e : Bytes) : Prop := ∀ a b, e = a ++ q :: b → ∃ a', a = a' ++ [x]

theorem escaped_of_notMem {x : UInt8} {e : Bytes} (h : q ∉ e) : Escaped q x e := fun a b he => absurd (by simp [he]) h

theorem Escaped.append {x : UInt8} {e f : Bytes} (he : Escaped q x e) (hf : Escaped q x f) : Escaped q x (e ++ f) := by
  intro u v huv
  rcases List.append_eq_append_iff.mp huv with ⟨c, rfl, hc⟩ | ⟨c, hc, hcv⟩
  · obtain ⟨a', rfl⟩ := hf c v hc
    exact ⟨e ++ a', (List.append_assoc ..).symm⟩
  · rcases List.cons_eq_append_iff.mp hcv with ⟨rfl, hv⟩ | ⟨c, rfl, -⟩
    · obtain ⟨a', ha'⟩ := hf [] v hv
      exact absurd ha' (by simp)
    · exact he u c hc

theorem Escaped.flatMap {x : UInt8} {f : UInt8 → Bytes} (h : ∀ b, Escaped q x (f b)) (s : Bytes) :
    Escaped q x (s.flatMap f) := by
  induction s with
  | nil => exact escaped_of_notMem (by simp)
  | cons b s ih =>
    rw [List.flatMap_cons]
    exact (h b).append ih

section Quoted
variable {x d : UInt8} {e : Bytes}

/-- In a quoted text the name can only be found as its end. -/
theorem quoted_start (hq : q ∉ key) (hx : x ∉ key) (hqx : q ≠ x) (he : Escaped q x e) (hsplit : q :: e = a ++ b)
    (hne : b ≠ []) (hpre : delimited q key <+: b ++ q :: s) : b = q :: key := by
  obtain ⟨c, r, rfl⟩ := List.exists_cons_of_ne_nil hne
  rw [delimited, List.cons_append, List.cons_append, List.cons_prefix_cons] at hpre
  obtain ⟨rfl, t, ht⟩ := hpre
  rw [List.append_assoc, List.singleton_append] at ht
  by_cases hr : q ∈ r
  · exfalso
    obtain ⟨u, w, rfl, hu⟩ := List.eq_append_cons_of_mem hr
    rw [List.append_assoc, List.cons_append] at ht
    obtain ⟨rfl, -⟩ := append_cons_inj hq hu ht
    -- the byte before the inner `q` is an `x`, but it is the end of the name, or the `q` before it
    cases a with
    | nil =>
      obtain ⟨a', ha'⟩ := he key w (List.cons.inj hsplit).2
      exact hx (by simp [ha'])
    | cons c a =>
      have hinner : e = (a ++ q :: key) ++ q :: w := by simpa using (List.cons.inj hsplit).2
      obtain ⟨a', ha'⟩ := he _ _ hinner
      rcases List.eq_nil_or_concat key with rfl | ⟨k, y, rfl⟩
      · exact hqx (List.cons.inj (List.append_inj' ha' rfl).2).1
      · rw [List.concat_eq_append, ← List.cons_append, ← List.append_assoc] at ha'
        obtain ⟨-, hy⟩ := List.append_inj' ha' rfl
        exact hx (by simp [(List.cons.inj hy).1])
  · rw [(append_cons_inj hq hr ht).1]

/-- A quoted text that does not end in the name, with the separator after it. -/
theorem passes_quoted (hq : q ∉ key) (hx : x ∉ key) (hqx : q ≠ x) (hd : d ∉ key) (hdq : d ≠ q) (he : Escaped q x e)
    (hend : ¬ q :: key <:+ q :: e) : Passes (delimited q key) (q :: (e ++ [q, d])) := by
  intro a₁ a₂ ha hne s hpre
  have hclose : ∀ s, ¬ delimited q key <+: q :: d :: s := by
    intro s hpre
    rw [delimited, List.cons_append, List.cons_prefix_cons] at hpre
    cases key with
    | nil => exact hdq (List.cons_prefix_cons.mp hpre.2).1.symm
    | cons k key => exact hd (by simp [(List.cons_prefix_cons.mp hpre.2).1])
  have hsplit : (q :: e) ++ [q, d] = a₁ ++ a₂ := by simpa using ha
  rcases List.append_eq_append_iff.mp hsplit with ⟨c, -, hc⟩ | ⟨c, hc, rfl⟩
  · rcases List.cons_eq_append_iff.mp hc with ⟨-, rfl⟩ | ⟨c, -, hc⟩
    · exact hclose s hpre
    · rcases List.cons_eq_append_iff.mp hc with ⟨-, rfl⟩ | ⟨c, -, hc⟩
      · exact hdq (List.cons_prefix_cons.mp hpre).1.symm
      · exact hne (List.append_eq_nil_iff.mp hc.symm).2
  · cases c with
    | nil => exact hclose s hpre
    | cons b c =>
      rw [List.append_assoc] at hpre
      have hfound := quoted_start hq hx hqx he hc (List.cons_ne_nil b c) hpre
      exact hend ⟨a₁, by rw [hc, hfound]⟩

/-- A quoted text that ends in the name. -/
theorem find_quoted_end (hq : q ∉ key) (hx : x ∉ key) (hqx : q ≠ x) (he : Escaped q x e) (hend : q :: e = a ++ q :: key)
    (s : Bytes) : find (delimited q key) (q :: (e ++ q :: s)) = some (a, delimited q key ++ s) := by
  have hsplit : q :: (e ++ q :: s) = a ++ (delimited q key ++ s) := by
    have := congrArg (· ++ q :: s) hend
    simpa [delimited] using this
  rw [hsplit, find_skip, find_here (List.prefix_append _ _)]
  · simp
  · intro a₁ a₂ ha hne hpre
    have hpre' : delimited q key <+: (a₂ ++ q :: key) ++ q :: s := by simpa [delimited] using hpre
    have hfound := quoted_start hq hx hqx he (a := a₁) (b := a₂ ++ q :: key) (by rw [hend, ha, List.append_assoc])
      (by simp) hpre'
    exact hne (by simpa using hfound)

end Quoted

end Text
