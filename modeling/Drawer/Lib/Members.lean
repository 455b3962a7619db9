import Drawer.Lib.Numeral
import Drawer.Lib.Search

/-! Members of a flat object, `"name":value` with commas between them, under a
search for a name and the colon after it. A value that is that name is passed over,
since a comma follows it. -/

namespace Text

/-- The name between quotes, the colon, and the start of the value. -/
def nameMark (key start : Bytes) : Bytes := delimited 34 key ++ 58 :: start

variable {key start v a s : Bytes} {d : UInt8}

theorem nameMark_eq (key start : Bytes) : nameMark key start = 34 :: (key ++ 34 :: 58 :: start) := by
  simp [nameMark, delimited]

/-- What stands between two quotes is passed over with the byte after it, unless it is the name and the byte a colon. -/
theorem passes_chunk (hkey : 34 ∉ key) (hd : d ∉ key) (hd' : d ≠ 34) (hv : 34 ∉ v) (hne : v = key → d ≠ 58) :
    Passes (nameMark key start) (34 :: (v ++ [34, d])) := by
  intro a₁ a₂ ha hnil s hpre
  rw [nameMark_eq] at hpre
  have hclose : ¬ 34 :: (key ++ 34 :: 58 :: start) <+: 34 :: d :: s := by
    rw [List.cons_prefix_cons]
    rintro ⟨-, hpre⟩
    cases key with
    | nil => exact hd' (List.cons_prefix_cons.mp hpre).1.symm
    | cons k key => exact hd (by simp [(List.cons_prefix_cons.mp hpre).1])
  cases a₁ with
  | nil =>
    obtain rfl : 34 :: (v ++ [34, d]) = a₂ := ha
    rw [List.cons_append, List.cons_prefix_cons, List.append_assoc] at hpre
    obtain ⟨r, hr⟩ := hpre.2
    rw [List.append_assoc] at hr
    obtain ⟨hkv, hrest⟩ := append_cons_inj hkey hv hr
    exact hne hkv.symm (List.cons.inj hrest).1.symm
  | cons c a₁ =>
    obtain ⟨-, ha⟩ := List.cons.inj ha
    -- a later start is at the closing quote, since there is no other
    obtain ⟨e, r, rfl⟩ := List.exists_cons_of_ne_nil hnil
    obtain rfl := (List.cons_prefix_cons.mp hpre).1
    by_cases hmem : 34 ∈ a₁
    · obtain ⟨u, w, rfl, hu⟩ := List.eq_append_cons_of_mem hmem
      have hsplit : v ++ 34 :: [d] = u ++ 34 :: (w ++ 34 :: r) := by
        rw [show v ++ 34 :: [d] = v ++ [34, d] from rfl, ha]
        simp
      obtain ⟨-, hrest⟩ := append_cons_inj hv hu hsplit
      have hd34 : (34 : UInt8) ∈ [d] := by rw [hrest]; simp
      exact hd' (List.mem_singleton.mp hd34).symm
    · obtain ⟨-, rfl⟩ := append_cons_inj hv hmem ha
      exact hclose hpre

/-- A search passes over a text without the pattern up to a byte that is not in the pattern. -/
theorem find_cross {pat : Bytes} (hd : d ∉ pat) (ha : ¬ pat <:+: a) (s : Bytes) :
    find pat (a ++ d :: s) = (find pat (d :: s)).map fun p => (a ++ p.1, p.2) := by
  refine find_skip fun a₁ a₂ hsplit hne hpre => ?_
  have hend : a₂ ++ [d] <+: a₂ ++ d :: s := (List.prefix_append_right_inj _).mpr (by simp)
  rcases List.prefix_or_prefix_of_prefix hpre hend with h | h
  · rcases List.prefix_concat_iff.mp h with h | h
    · exact hd (by simp [h])
    · exact ha (h.isInfix.trans ⟨a₁, [], by rw [hsplit]; simp⟩)
  · exact hd (h.subset (by simp))

/-! ### Members -/

/-- A value: a text that stands between quotes as it is, or a number. -/
inductive Value where
  | str (v : Bytes)
  | int (n : Int)

def Value.text : Value → Bytes
  | .str v => 34 :: (v ++ [34])
  | .int n => decimal n

/-- The text holds no quote. -/
def Value.Bare : Value → Prop
  | .str v => 34 ∉ v
  | .int _ => True

/-- A member and the comma after it. -/
def fieldText (m : Bytes × Value) : Bytes := 34 :: (m.1 ++ [34, 58]) ++ (m.2.text ++ [44])

/-- The key is not mistaken for anything but a name. -/
structure Searched (key : Bytes) : Prop where
  quote : 34 ∉ key
  colon : 58 ∉ key
  comma : 44 ∉ key

theorem passes_member (hkey : Searched key) {m : Bytes × Value} (hname : 34 ∉ m.1) (hne : m.1 ≠ key) (hbare : m.2.Bare) :
    Passes (nameMark key start) (fieldText m) := by
  refine (passes_chunk hkey.quote hkey.colon (by decide) hname fun h => absurd h hne).append ?_
  cases hm : m.2 with
  | str v =>
    rw [hm] at hbare
    have hchunk : Passes (nameMark key start) (34 :: (v ++ [34, 44])) :=
      passes_chunk hkey.quote hkey.comma (by decide) hbare fun _ => by decide
    simpa [Value.text] using hchunk
  | int n =>
    rw [nameMark_eq]
    refine passes_of_notMem (fun hmem => ?_) _
    rcases List.mem_append.mp hmem with hmem | hmem
    · exact notMem_decimal (by decide) n hmem
    · revert hmem
      decide

/-- A search for a name passes over the members before it. -/
theorem find_member (hkey : Searched key) {ms : List (Bytes × Value)} (hms : ∀ m ∈ ms, 34 ∉ m.1 ∧ m.1 ≠ key ∧ m.2.Bare)
    {head : Bytes} (hhead : 34 ∉ head) (s : Bytes) :
    find (nameMark key start) (head ++ (ms.flatMap fieldText ++ (nameMark key start ++ s))) =
      some (head ++ ms.flatMap fieldText, nameMark key start ++ s) := by
  have hpass : Passes (nameMark key start) (head ++ ms.flatMap fieldText) := by
    refine Passes.append ?_ ?_
    · rw [nameMark_eq]
      exact passes_of_notMem hhead _
    · rw [List.flatMap_def]
      refine Passes.flatten fun t ht => ?_
      obtain ⟨m, hm, rfl⟩ := List.mem_map.mp ht
      obtain ⟨hname, hne, hbare⟩ := hms m hm
      exact passes_member hkey hname hne hbare
  rw [← List.append_assoc, hpass.find, find_here (List.prefix_append _ _)]
  simp

end Text
