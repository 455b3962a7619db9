import Drawer.Lib.Text

/-! The lexicographic order of lists, as the comparison `std::string` and
`std::vector` make it: the first entries that differ decide, and a proper prefix
is the smaller one. Byte strings compare by the numbers their bytes stand for. -/

namespace Lexical

variable {α : Type} [LinearOrder α]

def less : List α → List α → Bool
  | _, [] => false
  | [], _ :: _ => true
  | a :: s, b :: t => decide (a < b) || (decide (a = b) && less s t)

theorem less_irrefl (s : List α) : less s s = false := by
  induction s with
  | nil => rfl
  | cons a s ih => simp [less, ih]

theorem less_trans {s t u : List α} (hst : less s t = true) (htu : less t u = true) : less s u = true := by
  induction s generalizing t u with
  | nil =>
    cases u with
    | nil => simp [less] at htu
    | cons c u => rfl
  | cons a s ih =>
    cases t with
    | nil => simp [less] at hst
    | cons b t =>
      cases u with
      | nil => simp [less] at htu
      | cons c u =>
        simp only [less, Bool.or_eq_true, Bool.and_eq_true, decide_eq_true_eq] at hst htu ⊢
        rcases hst with hab | ⟨rfl, hst⟩
        · rcases htu with hbc | ⟨rfl, -⟩
          · exact Or.inl (hab.trans hbc)
          · exact Or.inl hab
        · exact htu.imp_right fun ⟨hac, htu⟩ => ⟨hac, ih hst htu⟩

theorem less_asymm {s t : List α} (h : less s t = true) : less t s = false := by
  cases hts : less t s with
  | false => rfl
  | true => exact absurd (less_trans h hts) (by simp [less_irrefl])

theorem less_trichotomy (s t : List α) : less s t = true ∨ s = t ∨ less t s = true := by
  induction s generalizing t with
  | nil =>
    cases t with
    | nil => exact Or.inr (Or.inl rfl)
    | cons b t => exact Or.inl rfl
  | cons a s ih =>
    cases t with
    | nil => exact Or.inr (Or.inr rfl)
    | cons b t =>
      simp only [less, Bool.or_eq_true, Bool.and_eq_true, decide_eq_true_eq, List.cons.injEq]
      rcases lt_trichotomy a b with h | rfl | h
      · exact Or.inl (Or.inl h)
      · rcases ih t with h | rfl | h
        · exact Or.inl (Or.inr ⟨rfl, h⟩)
        · exact Or.inr (Or.inl ⟨rfl, rfl⟩)
        · exact Or.inr (Or.inr (Or.inr ⟨rfl, h⟩))
      · exact Or.inr (Or.inr (Or.inl h))

theorem not_less_total (s t : List α) : less t s = false ∨ less s t = false := by
  rcases less_trichotomy s t with h | rfl | h
  · exact Or.inl (less_asymm h)
  · exact Or.inl (less_irrefl s)
  · exact Or.inr (less_asymm h)

theorem not_less_antisymm {s t : List α} (hst : less t s = false) (hts : less s t = false) : s = t :=
  ((less_trichotomy s t).resolve_left (by simp [hts])).resolve_right (by simp [hst])

theorem not_less_trans {s t u : List α} (hst : less t s = false) (htu : less u t = false) : less u s = false := by
  by_contra hus
  have hus : less u s = true := by simpa using hus
  rcases less_trichotomy s t with h | rfl | h
  · simp [less_trans hus h] at htu
  · simp [hus] at htu
  · simp [h] at hst

end Lexical

namespace Text

/-- `s < t` of `std::string`. -/
def less (s t : Bytes) : Bool := Lexical.less (s.map UInt8.toNat) (t.map UInt8.toNat)

theorem less_irrefl (s : Bytes) : less s s = false := Lexical.less_irrefl _

theorem less_trans {s t u : Bytes} (hst : less s t = true) (htu : less t u = true) : less s u = true :=
  Lexical.less_trans hst htu

theorem less_or_eq_of_not_less {s t : Bytes} (h : less t s = false) : less s t = true ∨ s = t := by
  rcases Lexical.less_trichotomy (s.map UInt8.toNat) (t.map UInt8.toNat) with hlt | heq | hgt
  · exact Or.inl hlt
  · exact Or.inr (List.map_injective_iff.mpr (fun _ _ => UInt8.toNat_inj.mp) heq)
  · exact absurd hgt (by rw [← less, h]; decide)

theorem ne_nil_of_less {s t : Bytes} (h : less s t = true) : t ≠ [] := by
  intro ht
  rw [ht] at h
  simp [less, Lexical.less] at h

end Text
