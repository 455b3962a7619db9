import Mathlib.Data.List.AList
import Mathlib.Tactic

/-! Finite maps with one value type, for `std::map` and `std::unordered_map`:
Mathlib's association lists, whose keys are distinct by construction, and the
two bulk operations the standard containers are iterated with. -/

abbrev Dict (κ ν : Type) := AList fun _ : κ => ν

namespace Dict

variable {κ ν : Type} [DecidableEq κ]

theorem lookup_insert_if (a a' : κ) (v : ν) (m : Dict κ ν) :
    AList.lookup a (AList.insert a' v m) = if a = a' then some v else AList.lookup a m := by
  split_ifs with h
  · subst h
    exact AList.lookup_insert m
  · exact AList.lookup_insert_ne h

/-- Erase the entries that do not meet `p`. -/
def keep (p : ν → Bool) (m : Dict κ ν) : Dict κ ν :=
  ⟨m.entries.filter fun e => p e.2, m.nodupKeys.sublist List.filter_sublist⟩

theorem lookup_keep (p : ν → Bool) (m : Dict κ ν) (a : κ) :
    AList.lookup a (keep p m) = (AList.lookup a m).filter p := by
  ext v
  simp only [Option.filter_eq_some_iff]
  rw [← Option.mem_def, AList.mem_lookup_iff, ← Option.mem_def, AList.mem_lookup_iff]
  simp [keep]

/-- Change every value. -/
def map {ν' : Type} (f : ν → ν') (m : Dict κ ν) : Dict κ ν' :=
  ⟨m.entries.map fun e => ⟨e.1, f e.2⟩, by
    have h : (m.entries.map fun e => (⟨e.1, f e.2⟩ : Sigma fun _ : κ => ν')).keys = m.entries.keys := by
      simp [List.keys, Function.comp_def]
    rw [List.NodupKeys, h]
    exact m.nodupKeys⟩

theorem lookup_map {ν' : Type} (f : ν → ν') (m : Dict κ ν) (a : κ) :
    AList.lookup a (map f m) = (AList.lookup a m).map f := by
  ext v
  rw [← Option.mem_def, AList.mem_lookup_iff, Option.map_eq_some_iff]
  simp only [← Option.mem_def, AList.mem_lookup_iff]
  simp [map]

/-- Entering the values of a map one by one gives the map back. -/
theorem lookup_foldl_insert {ν' : Type} (f : ν → ν') (l : List (Sigma fun _ : κ => ν)) (h : l.NodupKeys)
    (m : Dict κ ν') (a : κ) :
    AList.lookup a (l.foldl (fun m e => AList.insert e.1 (f e.2) m) m) =
      ((List.dlookup a l).map f).or (AList.lookup a m) := by
  induction l generalizing m with
  | nil => simp
  | cons e l ih =>
    rw [List.nodupKeys_cons] at h
    rw [List.foldl_cons, ih h.2, lookup_insert_if]
    by_cases ha : a = e.1
    · subst ha
      rw [if_pos rfl, List.dlookup_eq_none.mpr h.1]
      obtain ⟨k, v⟩ := e
      rw [List.dlookup_cons_eq]
      rfl
    · rw [if_neg ha, List.dlookup_cons_ne _ _ ha]

/-- Maps with the same keys have the same size. -/
theorem length_congr {m m' : Dict κ ν} (h : ∀ a, (AList.lookup a m).isSome = (AList.lookup a m').isSome) :
    m.entries.length = m'.entries.length := by
  have hkeys : m.keys.Perm m'.keys := by
    refine (List.perm_ext_iff_of_nodup m.nodupKeys m'.nodupKeys).mpr fun a => ?_
    exact AList.lookup_isSome.symm.trans ((Bool.eq_iff_iff.mp (h a)).trans AList.lookup_isSome)
  simpa [AList.keys, List.keys] using hkeys.length_eq

theorem length_insert {m : Dict κ ν} {a : κ} (h : AList.lookup a m = none) (v : ν) :
    (AList.insert a v m).entries.length = m.entries.length + 1 := by
  rw [AList.entries_insert_of_notMem (AList.lookup_eq_none.mp h), List.length_cons]

/-- No key among the names `name 0`, `name 1`, and so on runs ahead of the size. -/
def Numbered (name : ℕ → κ) (m : Dict κ ν) : Prop := ∀ n, (AList.lookup (name n) m).isSome = true → n < m.entries.length

theorem numbered_empty (name : ℕ → κ) : Numbered name (∅ : Dict κ ν) := fun _ hn => nomatch hn

theorem Numbered.congr {name : ℕ → κ} {m m' : Dict κ ν} (h : Numbered name m)
    (hsame : ∀ a, (AList.lookup a m').isSome = (AList.lookup a m).isSome) : Numbered name m' := by
  intro n hn
  rw [length_congr hsame]
  exact h n (hsame _ ▸ hn)

/-- The name that the size gives is free. -/
theorem Numbered.fresh {name : ℕ → κ} {m : Dict κ ν} (h : Numbered name m) :
    AList.lookup (name m.entries.length) m = none := by
  by_contra hne
  exact lt_irrefl _ (h _ (Option.isSome_iff_ne_none.mpr hne))

/-- A new key may be any other than a name that the size has yet to reach. -/
theorem Numbered.insert {name : ℕ → κ} {m : Dict κ ν} (h : Numbered name m) {a : κ} (hnew : AList.lookup a m = none)
    (ha : ∀ n, a = name n → n ≤ m.entries.length) (v : ν) : Numbered name (AList.insert a v m) := by
  intro n hn
  rw [length_insert hnew]
  rw [lookup_insert_if] at hn
  split_ifs at hn with hname
  · exact Nat.lt_succ_of_le (ha n hname.symm)
  · exact Nat.lt_succ_of_lt (h n hn)

/-- The maps have the same entries, in any order. -/
def Same (m m' : Dict κ ν) : Prop := ∀ a, AList.lookup a m = AList.lookup a m'

theorem same_refl (m : Dict κ ν) : Same m m := fun _ => rfl

theorem Same.symm {m m' : Dict κ ν} (h : Same m m') : Same m' m := fun a => (h a).symm

theorem Same.trans {m m' m'' : Dict κ ν} (h : Same m m') (h' : Same m' m'') : Same m m'' := fun a => (h a).trans (h' a)

theorem Same.insert {m m' : Dict κ ν} (h : Same m m') (a : κ) (v : ν) : Same (AList.insert a v m) (AList.insert a v m') := by
  intro b
  rw [lookup_insert_if, lookup_insert_if, h b]

/-- Entering a value again changes nothing. -/
theorem same_insert {m : Dict κ ν} {a : κ} {v : ν} (h : AList.lookup a m = some v) : Same (AList.insert a v m) m := by
  intro b
  rw [lookup_insert_if]
  split_ifs with hb
  · rw [hb, h]
  · rfl

theorem Same.entries {m m' : Dict κ ν} (h : Same m m') : m.entries.Perm m'.entries := by
  refine List.lookup_ext m.nodupKeys m'.nodupKeys fun a v => ?_
  have ha := h a
  unfold AList.lookup at ha
  rw [ha]

/-- Entering the members of a map one by one gives the map back. -/
theorem same_foldl_insert (m : Dict κ ν) :
    Same ((m.entries.map fun e => (e.1, e.2)).foldl (fun m e => AList.insert e.1 e.2 m) (∅ : Dict κ ν)) m := by
  intro a
  rw [List.foldl_map]
  refine (lookup_foldl_insert (fun v => v) m.entries m.nodupKeys ∅ a).trans ?_
  rw [Option.map_id']
  simp
  rfl

/-- An order to walk through maps in that depends on nothing but the entries. -/
structure Walk (κ : Type) [DecidableEq κ] where
  order {ν : Type} : Dict κ ν → Dict κ ν
  same {ν : Type} (m : Dict κ ν) : Same (order m) m
  determined {ν : Type} {m m' : Dict κ ν} : Same m m' → order m = order m'

@[simp] theorem Walk.order_empty (w : Walk κ) : w.order (∅ : Dict κ ν) = ∅ := AList.ext (List.perm_nil.mp (w.same ∅).entries)

theorem same_of_perm {m m' : Dict κ ν} (h : m.entries.Perm m'.entries) : Same m m' :=
  fun a => List.perm_dlookup a m.nodupKeys h

/-- The order of the keys. -/
def Walk.byKey (le : κ → κ → Prop) [DecidableRel le] [Std.Total le] [Std.Antisymm le] [IsTrans κ le] : Walk κ where
  order m :=
    ⟨m.entries.insertionSort fun e e' => le e.1 e'.1,
      (List.perm_nodupKeys (List.perm_insertionSort _ _)).mpr m.nodupKeys⟩
  same m := same_of_perm (List.perm_insertionSort _ _)
  determined {ν m m'} h := by
    have : Std.Total fun e e' : Sigma fun _ : κ => ν => le e.1 e'.1 := ⟨fun e e' => Std.Total.total e.1 e'.1⟩
    have : IsTrans (Sigma fun _ : κ => ν) fun e e' => le e.1 e'.1 := ⟨fun _ _ _ => IsTrans.trans _ _ _⟩
    have hperm := (List.perm_insertionSort (fun e e' => le e.1 e'.1) m.entries).trans
      (h.entries.trans (List.perm_insertionSort (fun e e' => le e.1 e'.1) m'.entries).symm)
    refine AList.ext (List.Perm.eq_of_pairwise (fun e e' he he' hle hge => ?_) (List.pairwise_insertionSort _ _)
      (List.pairwise_insertionSort _ _) hperm)
    have hmem : e ∈ m.entries := (List.perm_insertionSort _ _).mem_iff.mp he
    have hmem' : e' ∈ m.entries := h.entries.mem_iff.mpr ((List.perm_insertionSort _ _).mem_iff.mp he')
    exact List.NodupKeys.eq_of_fst_eq m.nodupKeys hmem hmem' (Std.Antisymm.antisymm _ _ hle hge)

/-- Every entry of `m` whose value meets `p` is in `m'` as it was. -/
def Keeps (p : ν → Prop) (m m' : Dict κ ν) : Prop :=
  ∀ a v, AList.lookup a m = some v → p v → AList.lookup a m' = some v

@[simp] theorem keeps_refl (p : ν → Prop) (m : Dict κ ν) : Keeps p m m := fun _ _ h _ => h

theorem Keeps.trans {p : ν → Prop} {m m' m'' : Dict κ ν} (h : Keeps p m m') (h' : Keeps p m' m'') : Keeps p m m'' :=
  fun a v hv hp => h' a v (h a v hv hp) hp

theorem keeps_insert {p : ν → Prop} {m : Dict κ ν} {a : κ} {v : ν} :
    Keeps p m (AList.insert a v m) ↔ ∀ w, AList.lookup a m = some w → p w → w = v := by
  refine ⟨fun h w hw hp => ?_, fun h b w hw hp => ?_⟩
  · have hkept := h a w hw hp
    rw [lookup_insert_if, if_pos rfl] at hkept
    exact (Option.some.inj hkept).symm
  · rw [lookup_insert_if]
    split_ifs with hb
    · subst hb
      rw [h w hw hp]
    · exact hw

/-- A value that does not meet `p` can only be entered where no value meets it. -/
theorem keeps_insert_of_not {p : ν → Prop} {m : Dict κ ν} {a : κ} {v : ν} (hv : ¬ p v) :
    Keeps p m (AList.insert a v m) ↔ ¬ ∃ w, AList.lookup a m = some w ∧ p w := by
  rw [keeps_insert]
  refine ⟨fun h ⟨w, hw, hp⟩ => ?_, fun h w hw hp => absurd ⟨w, hw, hp⟩ h⟩
  obtain rfl := h w hw hp
  exact hv hp

end Dict
