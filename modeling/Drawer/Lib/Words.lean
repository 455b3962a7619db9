import Drawer.Lib.Numeral

/-! The words of a text: what a stream yields when it is read word by word. -/

namespace Text

/-- The runs of bytes between blanks. -/
def words (s : Bytes) : List Bytes := (s.splitOnP isSpace).filter (· ≠ [])

theorem words_blank {b : UInt8} (hb : isSpace b = true) (s : Bytes) : words (b :: s) = words s := by
  simp [words, List.splitOnP_cons_eq_if_modifyHead, hb]

theorem words_dropWhile (s : Bytes) : words (s.dropWhile isSpace) = words s := by
  induction s with
  | nil => rfl
  | cons b s ih =>
    by_cases hb : isSpace b = true
    · rw [List.dropWhile_cons_of_pos hb, ih, words_blank hb]
    · rw [List.dropWhile_cons_of_neg hb]

/-- A word comes first, if there is no blank before it. -/
theorem words_word {w : Bytes} (hw : w ≠ []) (hblank : ∀ b ∈ w, isSpace b = false) {s : Bytes}
    (hs : ∀ b, s.head? = some b → isSpace b = true) : words (w ++ s) = w :: words s := by
  cases s with
  | nil => simp [words, List.splitOnP_eq_singleton hblank, hw]
  | cons b s =>
    have hb := hs b rfl
    rw [words_blank hb]
    simp [words, List.splitOnP_append_cons_of_forall_mem hblank b hb, hw]

theorem token_none {s : Bytes} (h : token s = none) : words s = [] := by
  unfold token at h
  dsimp only at h
  split_ifs at h with hw
  have hrest : s.dropWhile isSpace = [] := by
    cases hd : s.dropWhile isSpace with
    | nil => rfl
    | cons b t =>
      have hb := List.head?_dropWhile_not isSpace s
      simp only [hd, List.head?_cons] at hb
      rw [hd, List.takeWhile_cons_of_pos (by simp [hb])] at hw
      cases hw
  rw [← words_dropWhile, hrest]
  rfl

theorem token_some {s w rest : Bytes} (h : token s = some (w, rest)) :
    words s = w :: words rest ∧ rest.length < s.length := by
  unfold token at h
  dsimp only at h
  split_ifs at h with hw
  obtain ⟨rfl, rfl⟩ := Prod.mk.inj (Option.some.inj h)
  have hsplit := List.takeWhile_append_dropWhile (p := fun b => !isSpace b) (l := s.dropWhile isSpace)
  constructor
  · have hwords := words_word hw (s := (s.dropWhile isSpace).dropWhile fun b => !isSpace b)
      (fun b hb => by simpa using List.mem_takeWhile_imp hb) fun b hb => by
        have hstop := List.head?_dropWhile_not (fun b => !isSpace b) (s.dropWhile isSpace)
        rw [hb] at hstop
        simpa using hstop
    rw [hsplit, words_dropWhile] at hwords
    exact hwords
  · have hlength := congrArg List.length hsplit
    have hpos := List.length_pos_iff.mpr hw
    have hle := (List.dropWhile_suffix isSpace (l := s)).length_le
    rw [List.length_append] at hlength
    omega

end Text
