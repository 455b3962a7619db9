import Mathlib.Data.List.TakeWhile
import Drawer.Lib.Text

/-! Lines of a byte string, as repeated `std::getline` reads them: the text is cut
at every separator, and nothing follows the last one. -/

namespace Text

/-- `std::getline`: the text up to the next `c`, and what is left after it. -/
def getline (c : UInt8) (s : Bytes) : Option (Bytes × Bytes) :=
  if s = [] then none else some (s.takeWhile fun b => b ≠ c, (s.dropWhile fun b => b ≠ c).drop 1)

def lines (c : UInt8) : Bytes → List Bytes
  | [] => []
  | b :: s =>
    if b = c then [] :: lines c s
    else
      match lines c s with
      | [] => [[b]]
      | l :: ls => (b :: l) :: ls

/-- Every line, with the separator after it. -/
def unlines (c : UInt8) (ls : List Bytes) : Bytes := ls.flatMap fun l => l ++ [c]

/-- Texts with commas between them. -/
def commas : List Bytes → Bytes
  | [] => []
  | [t] => t
  | t :: ts => t ++ 44 :: commas ts

variable {c : UInt8} {l s : Bytes}

theorem ne_of_not_mem (h : c ∉ l) : ∀ b ∈ l, (decide (b ≠ c)) = true := by
  intro b hb
  rw [decide_eq_true_iff]
  rintro rfl
  exact h hb

theorem takeWhile_append_stop (l s : Bytes) :
    ((l ++ c :: s).takeWhile fun b => b ≠ c) = l.takeWhile fun b => b ≠ c := by
  induction l with
  | nil => simp
  | cons b l ih =>
    rw [List.cons_append, List.takeWhile_cons, List.takeWhile_cons, ih]

theorem getline_append (h : c ∉ l) (s : Bytes) : getline c (l ++ c :: s) = some (l, s) := by
  have hne := ne_of_not_mem h
  simp only [getline, if_neg (show l ++ c :: s ≠ [] by simp), List.takeWhile_append_of_pos hne,
    List.dropWhile_append_of_pos hne]
  simp

theorem getline_last (hs : s ≠ []) (h : c ∉ s) : getline c s = some (s, []) := by
  have hne := ne_of_not_mem h
  rw [getline, if_neg hs, List.takeWhile_eq_self_iff.mpr hne, List.dropWhile_eq_nil_iff.mpr hne, List.drop_nil]

theorem lines_append (h : c ∉ l) (s : Bytes) : lines c (l ++ c :: s) = l :: lines c s := by
  induction l with
  | nil => simp [lines]
  | cons b l ih =>
    obtain ⟨hb, hl⟩ := not_or.mp (List.mem_cons.not.mp h)
    rw [List.cons_append, lines, if_neg (Ne.symm hb), ih hl]

theorem lines_last (hs : s ≠ []) (h : c ∉ s) : lines c s = [s] := by
  induction s with
  | nil => exact absurd rfl hs
  | cons b s ih =>
    obtain ⟨hb, hrest⟩ := not_or.mp (List.mem_cons.not.mp h)
    rw [lines, if_neg (Ne.symm hb)]
    by_cases hn : s = []
    · rw [hn, lines]
    · rw [ih hn hrest]

theorem not_mem_of_mem_lines (h : l ∈ lines c s) : c ∉ l := by
  induction s generalizing l with
  | nil => cases h
  | cons b s ih =>
    rw [lines] at h
    split_ifs at h with hb
    · rcases List.mem_cons.mp h with rfl | h
      · exact List.not_mem_nil
      · exact ih h
    · cases hl : lines c s with
      | nil =>
        rw [hl] at h
        obtain rfl := List.mem_singleton.mp h
        simpa using Ne.symm hb
      | cons l' ls =>
        rw [hl] at h ih
        rcases List.mem_cons.mp h with rfl | h
        · simp [Ne.symm hb, ih List.mem_cons_self]
        · exact ih (List.mem_cons_of_mem _ h)

theorem mem_of_mem_lines (h : l ∈ lines c s) {b : UInt8} (hb : b ∈ l) : b ∈ s := by
  induction s generalizing l with
  | nil => cases h
  | cons d s ih =>
    rw [lines] at h
    split_ifs at h with hd
    · rcases List.mem_cons.mp h with rfl | h
      · cases hb
      · exact List.mem_cons_of_mem _ (ih h hb)
    · cases hl : lines c s with
      | nil =>
        rw [hl] at h
        obtain rfl := List.mem_singleton.mp h
        exact List.mem_singleton.mp hb ▸ List.mem_cons_self
      | cons l' ls =>
        rw [hl] at h ih
        rcases List.mem_cons.mp h with rfl | h
        · rcases List.mem_cons.mp hb with rfl | hb
          · exact List.mem_cons_self
          · exact List.mem_cons_of_mem _ (ih List.mem_cons_self hb)
        · exact List.mem_cons_of_mem _ (ih (List.mem_cons_of_mem _ h) hb)

theorem lines_unlines {ls : List Bytes} (h : ∀ l ∈ ls, c ∉ l) : lines c (unlines c ls) = ls := by
  induction ls with
  | nil => rfl
  | cons l ls ih =>
    have hcons : unlines c (l :: ls) = l ++ c :: unlines c ls := by simp [unlines]
    rw [hcons, lines_append (h l List.mem_cons_self), ih fun l' hl' => h l' (List.mem_cons_of_mem _ hl')]

end Text
