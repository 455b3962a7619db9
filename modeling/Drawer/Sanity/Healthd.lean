import Drawer.Spec.Healthd

/-! The state file: what is saved is read back if and only if no version holds the
end of a line and no failed one a comma. What is read is always such a state. -/

namespace Drawer.Ota
open Text

/-- A version that stands on a line of the file, and in the list on it, as it is. -/
def Plain (v : Bytes) : Prop := 10 ∉ v ∧ 44 ∉ v

structure State.Storable (st : State) : Prop where
  current : 10 ∉ st.currentVersion
  pending : Plain st.pendingVersion
  bad : ∀ v ∈ st.lastBad, Plain v ∧ v ≠ []

/-- A state with no separator where the file needs one. -/
structure State.Clean (st : State) : Prop where
  current : 10 ∉ st.currentVersion
  pending : 10 ∉ st.pendingVersion
  bad : ∀ v ∈ st.lastBad, Plain v ∧ v ≠ []

theorem State.Storable.clean {st : State} (h : st.Storable) : st.Clean := ⟨h.current, h.pending.1, h.bad⟩

theorem readLine_entry {key : Bytes} (hkey : 61 ∉ key) (kv : Dict Bytes Bytes) (value : Bytes) :
    readLine kv (key ++ ascii "=" ++ value) = kv.insert key value := by
  have hline : key ++ ascii "=" ++ value = key ++ 61 :: value := by simp [show ascii "=" = [61] from rfl]
  rw [readLine, hline, show ascii "=" = [61] from rfl, find_byte hkey]
  rfl

theorem foldl_readLine {kv : List (Bytes × Bytes)} (hkey : ∀ p ∈ kv, 61 ∉ p.1) (m : Dict Bytes Bytes) :
    (kv.map fun p => p.1 ++ ascii "=" ++ p.2).foldl readLine m = kv.foldl (fun m p => m.insert p.1 p.2) m := by
  induction kv generalizing m with
  | nil => rfl
  | cons p kv ih =>
    rw [List.map_cons, List.foldl_cons, List.foldl_cons, readLine_entry (hkey p List.mem_cons_self)]
    exact ih (fun q hq => hkey q (List.mem_cons_of_mem _ hq)) _

/-- The entries of a saved file are read back one after the other. -/
theorem loadKv_saveKv {kv : List (Bytes × Bytes)} (hline : ∀ p ∈ kv, 10 ∉ p.1 ∧ 10 ∉ p.2) (hkey : ∀ p ∈ kv, 61 ∉ p.1) :
    loadKv (saveKv kv) = kv.foldl (fun m p => m.insert p.1 p.2) ∅ := by
  have hlines : lines 10 (saveKv kv) = kv.map fun p => p.1 ++ ascii "=" ++ p.2 := by
    refine lines_unlines fun l hl => ?_
    obtain ⟨p, hp, rfl⟩ := List.mem_map.mp hl
    have heq : (10 : UInt8) ∉ ascii "=" := by decide
    simp [hline p hp, heq]
  rw [loadKv, hlines, foldl_readLine hkey]

/-- A list joined with commas is read back item by item. -/
theorem items_intercalate {l : List Bytes} (h : ∀ v ∈ l, 44 ∉ v ∧ v ≠ []) :
    (lines 44 ((ascii ",").intercalate l)).filter (fun item => item ≠ []) = l := by
  induction l with
  | nil => rfl
  | cons v l ih =>
    obtain ⟨hv, hne⟩ := h v List.mem_cons_self
    cases l with
    | nil =>
      rw [List.intercalate_singleton, lines_last hne hv]
      simp [hne]
    | cons w l =>
      have ih := ih fun x hx => h x (List.mem_cons_of_mem _ hx)
      have hjoin : (ascii ",").intercalate (v :: w :: l) = v ++ 44 :: (ascii ",").intercalate (w :: l) := by
        rw [List.intercalate_cons_cons]
        simp [show ascii "," = [44] from rfl]
      rw [hjoin, lines_append hv, List.filter_cons, ih]
      simp [hne]

theorem not_mem_intercalate {c : UInt8} (hc : c ≠ 44) {l : List Bytes} (h : ∀ v ∈ l, c ∉ v) :
    c ∉ (ascii ",").intercalate l := by
  induction l with
  | nil => simp
  | cons v l ih =>
    cases l with
    | nil => simpa using h v List.mem_cons_self
    | cons w l =>
      have hrest := ih fun x hx => h x (List.mem_cons_of_mem _ hx)
      have hsep : c ∉ ascii "," := by simpa [show ascii "," = [44] from rfl] using hc
      rw [List.intercalate_cons_cons]
      simp [h v List.mem_cons_self, hsep, hrest]

/-- What is saved is loaded again. -/
theorem loadState_saveState {st : State} (h : st.Clean) : loadState (saveState st) = st := by
  have hkeys : ∀ key ∈ ["boot_pending", "current_version", "last_bad", "pending_version"],
      10 ∉ ascii key ∧ 61 ∉ ascii key := by decide
  have hkv : loadKv (saveState st) =
      [(ascii "boot_pending", if st.bootPending then ascii "1" else ascii "0"),
       (ascii "current_version", st.currentVersion),
       (ascii "last_bad", (ascii ",").intercalate st.lastBad),
       (ascii "pending_version", st.pendingVersion)].foldl (fun m p => m.insert p.1 p.2) ∅ := by
    have hbad : 10 ∉ (ascii ",").intercalate st.lastBad := not_mem_intercalate (by decide) fun v hv => (h.bad v hv).1.1
    have hflag : (10 : UInt8) ∉ if st.bootPending then ascii "1" else ascii "0" := by split_ifs <;> decide
    refine loadKv_saveKv (fun p hp => ?_) (fun p hp => ?_)
    · simp only [List.mem_cons, List.not_mem_nil, or_false] at hp
      rcases hp with rfl | rfl | rfl | rfl
      · exact ⟨(hkeys "boot_pending" (by simp)).1, hflag⟩
      · exact ⟨(hkeys "current_version" (by simp)).1, h.current⟩
      · exact ⟨(hkeys "last_bad" (by simp)).1, hbad⟩
      · exact ⟨(hkeys "pending_version" (by simp)).1, h.pending⟩
    · simp only [List.mem_cons, List.not_mem_nil, or_false] at hp
      rcases hp with rfl | rfl | rfl | rfl
      · exact (hkeys "boot_pending" (by simp)).2
      · exact (hkeys "current_version" (by simp)).2
      · exact (hkeys "last_bad" (by simp)).2
      · exact (hkeys "pending_version" (by simp)).2
  have hitems := items_intercalate fun v hv => ⟨(h.bad v hv).1.2, (h.bad v hv).2⟩
  have h1 : ascii "current_version" ≠ ascii "pending_version" := by decide
  have h2 : ascii "current_version" ≠ ascii "last_bad" := by decide
  have h3 : ascii "boot_pending" ≠ ascii "pending_version" := by decide
  have h4 : ascii "boot_pending" ≠ ascii "last_bad" := by decide
  have h5 : ascii "boot_pending" ≠ ascii "current_version" := by decide
  have h6 : ascii "last_bad" ≠ ascii "pending_version" := by decide
  have h7 : ascii "0" ≠ ascii "1" := by decide
  simp only [loadState, hkv, List.foldl_cons, List.foldl_nil, Dict.lookup_insert_if, h1, h2, h3, h4, h5, h6, if_true,
    if_false, Option.getD_some, hitems]
  cases hboot : st.bootPending <;> simp [h7, ← hboot]

theorem readLine_values {kv : Dict Bytes Bytes} (h : ∀ key value, kv.lookup key = some value → 10 ∉ value) {line : Bytes}
    (hline : 10 ∉ line) (key value : Bytes) (hget : (readLine kv line).lookup key = some value) : 10 ∉ value := by
  unfold readLine at hget
  cases hfind : find (ascii "=") line with
  | none =>
    rw [hfind] at hget
    exact h key value hget
  | some p =>
    rw [hfind, Dict.lookup_insert_if] at hget
    split_ifs at hget with hkey
    · obtain rfl := Option.some.inj hget
      intro hmem
      refine hline ?_
      rw [(find_split hfind).1]
      exact List.mem_append_right _ (List.mem_of_mem_drop hmem)
    · exact h key value hget

/-- No value that is read holds the end of a line. -/
theorem loadKv_values (file key value : Bytes) (h : (loadKv file).lookup key = some value) : 10 ∉ value := by
  have hfold : ∀ (ls : List Bytes) (kv : Dict Bytes Bytes), (∀ l ∈ ls, 10 ∉ l) →
      (∀ key value, kv.lookup key = some value → 10 ∉ value) →
      ∀ key value, (ls.foldl readLine kv).lookup key = some value → 10 ∉ value := by
    intro ls
    induction ls with
    | nil => exact fun kv _ hkv => hkv
    | cons l ls ih =>
      intro kv hls hkv
      rw [List.forall_mem_cons] at hls
      exact ih _ hls.2 (readLine_values hkv hls.1)
  exact hfold _ ∅ (fun l hl => not_mem_of_mem_lines hl) (by simp) key value h

theorem clean_loadState (file : Bytes) : (loadState file).Clean := by
  have hvalue : ∀ (key : Bytes) (dflt : Bytes), 10 ∉ dflt → 10 ∉ ((loadKv file).lookup key).getD dflt := by
    intro key dflt hdflt
    cases hget : (loadKv file).lookup key with
    | none => exact hdflt
    | some value => exact loadKv_values file key value hget
  refine ⟨hvalue _ _ (by decide), hvalue _ _ (by simp), fun v hv => ?_⟩
  obtain ⟨hline, hne⟩ := List.mem_filter.mp hv
  refine ⟨⟨fun hmem => ?_, not_mem_of_mem_lines hline⟩, by simpa using hne⟩
  exact hvalue (ascii "last_bad") [] (by simp) (mem_of_mem_lines hline hmem)

theorem loadState_saveState_iff (st : State) : loadState (saveState st) = st ↔ st.Clean :=
  ⟨fun h => h ▸ clean_loadState _, loadState_saveState⟩

end Drawer.Ota
