import Drawer.Spec.IdempotencyStore

/-! What one call of the idempotency store does: the map always takes the new
record, the log only if every string can be dumped. -/

namespace Drawer.Pos.IdempotencyStore
open Text

theorem writeLine_of_valid (s : IdempotencyStore) {texts : List Bytes} (line : Json Bytes)
    (h : ∀ text ∈ texts, validUtf8 text = true) :
    writeLine s texts line = ({ s with file := s.file ++ [line] }, .ok ()) :=
  if_pos (List.all_eq_true.mpr h)

theorem writeLine_of_invalid (s : IdempotencyStore) {texts : List Bytes} (line : Json Bytes)
    (h : ¬ ∀ text ∈ texts, validUtf8 text = true) : writeLine s texts line = (s, .error (.typeError 316)) :=
  if_neg fun ha => h (List.all_eq_true.mp ha)

theorem writeLine_result (s : IdempotencyStore) (texts : List Bytes) (line : Json Bytes) :
    (writeLine s texts line).2 = .ok () ↔ ∀ text ∈ texts, validUtf8 text = true := by
  by_cases h : ∀ text ∈ texts, validUtf8 text = true
  · exact iff_of_true (by rw [writeLine_of_valid _ _ h]) h
  · exact iff_of_false (by simp [writeLine_of_invalid _ _ h]) h

theorem writeLine_map (s : IdempotencyStore) (texts : List Bytes) (line : Json Bytes) :
    (writeLine s texts line).1.map = s.map := by
  unfold writeLine
  split_ifs <;> rfl

/-- The store remembers `key`: a check of it is not answered `new`. -/
def Held (s : IdempotencyStore) (key : Bytes) : Prop :=
  ∃ r, s.map.lookup key = some r ∧ (r.status = ascii "PENDING" ∨ r.status = ascii "DONE")

theorem Held.check_ne_new {s : IdempotencyStore} {key : Bytes} (h : s.Held key) (payloadHash : Bytes) :
    (s.check key payloadHash).1 ≠ .new := by
  obtain ⟨r, hr, hs⟩ := h
  simp only [check, hr]
  split_ifs with h1 h2 h3
  · exact Check.noConfusion
  · exact Check.noConfusion
  · exact Check.noConfusion
  · exact absurd hs (by simp [h2, h3])

theorem held_putPending (s : IdempotencyStore) (key payloadHash : Bytes) (now : Int) :
    (s.putPending key payloadHash now).1.Held key :=
  ⟨_, by rw [putPending, writeLine_map]; exact AList.lookup_insert _, Or.inl rfl⟩

theorem Held.putPending {s : IdempotencyStore} {key : Bytes} (h : s.Held key) (key' payloadHash : Bytes)
    (now : Int) : (s.putPending key' payloadHash now).1.Held key := by
  by_cases hk : key = key'
  · subst hk
    exact held_putPending s key payloadHash now
  · obtain ⟨r, hr, hs⟩ := h
    refine ⟨r, ?_, hs⟩
    rw [IdempotencyStore.putPending, writeLine_map]
    exact (AList.lookup_insert_ne hk).trans hr

theorem Held.putDone {s : IdempotencyStore} {key : Bytes} (h : s.Held key) (key' payloadHash resultJson : Bytes)
    (now : Int) : (s.putDone key' payloadHash resultJson now).1.Held key := by
  by_cases hk : key = key'
  · subst hk
    exact ⟨_, by rw [IdempotencyStore.putDone, writeLine_map]; exact AList.lookup_insert _, Or.inr rfl⟩
  · obtain ⟨r, hr, hs⟩ := h
    refine ⟨r, ?_, hs⟩
    rw [IdempotencyStore.putDone, writeLine_map]
    exact (AList.lookup_insert_ne hk).trans hr

/-- Every record the store holds, and every one its log would give back, meets `P`. -/
structure Records (P : IdemRec → Prop) (s : IdempotencyStore) : Prop where
  held : ∀ key r, s.map.lookup key = some r → r.key = key ∧ P r
  logged : ∀ line ∈ s.file, ∀ r, readRec line = .ok r → P r

variable {P Q : IdemRec → Prop} {s : IdempotencyStore}

theorem Records.mono (h : Records P s) (hpq : ∀ r, P r → Q r) : Records Q s :=
  ⟨fun key r hr => (h.held key r hr).imp_right (hpq r), fun line hl r hr => hpq r (h.logged line hl r hr)⟩

theorem Records.insert (h : Records P s) {r : IdemRec} (hr : P r) :
    Records P { s with map := s.map.insert r.key r } := by
  refine ⟨fun key r' hr' => ?_, h.logged⟩
  rw [Dict.lookup_insert_if] at hr'
  split_ifs at hr' with hk
  · obtain rfl := Option.some.inj hr'
    exact ⟨hk.symm, hr⟩
  · exact h.held key r' hr'

theorem Records.writeLine (h : Records P s) (texts : List Bytes) {line : Json Bytes}
    (hline : ∀ r, readRec line = .ok r → P r) : Records P (writeLine s texts line).1 := by
  unfold IdempotencyStore.writeLine
  split_ifs
  · refine ⟨h.held, fun l hl => ?_⟩
    rcases List.mem_append.mp hl with hl | hl
    · exact h.logged l hl
    · obtain rfl := List.mem_singleton.mp hl
      exact hline
  · exact h

theorem Records.putPending (h : Records P s) {key payloadHash : Bytes} {now : Int}
    (hr : P ⟨key, payloadHash, [], ascii "PENDING", now, now⟩) : Records P (s.putPending key payloadHash now).1 := by
  refine (h.insert hr).writeLine _ fun r hread => ?_
  obtain rfl := Except.ok.inj hread
  exact hr

theorem Records.putDone (h : Records P s) {key payloadHash resultJson : Bytes} {now : Int}
    (hr : ∀ firstNs, P ⟨key, payloadHash, resultJson, ascii "DONE", firstNs, now⟩) :
    Records P (s.putDone key payloadHash resultJson now).1 := by
  refine (h.insert (hr _)).writeLine _ fun r hread => ?_
  obtain rfl := Except.ok.inj hread
  exact hr _

theorem Records.openOn {file : List (Json Bytes)} (h : ∀ line ∈ file, ∀ r, readRec line = .ok r → P r)
    (ttlHours readAt sweptAt : Int) : Records P (openOn ttlHours file readAt sweptAt) := by
  have hread : ∀ lines ⊆ file, ∀ m : Dict Bytes IdemRec, (∀ key r, m.lookup key = some r → r.key = key ∧ P r) →
      ∀ key r, (lines.foldl (readLine (ttlNsOf ttlHours) readAt) m).lookup key = some r → r.key = key ∧ P r := by
    intro lines hsub
    induction lines with
    | nil => exact fun m hm => hm
    | cons line lines ih =>
      refine fun m hm => ih (fun l hl => hsub (List.mem_cons_of_mem _ hl)) _ ?_
      unfold readLine
      split
      · rename_i r hr
        split_ifs
        · exact hm
        · exact (Records.insert (s := { ttlNs := 0, map := m }) ⟨hm, by simp⟩
            (h line (hsub List.mem_cons_self) r hr)).held
      · exact hm
  have hmap := hread file (List.Subset.refl _) ∅ (by simp)
  unfold IdempotencyStore.openOn sweepExpired
  dsimp only
  split_ifs
  · exact ⟨hmap, h⟩
  · refine ⟨fun key r hr => hmap key r ?_, h⟩
    rw [Dict.lookup_keep] at hr
    exact (Option.filter_eq_some_iff.mp hr).1

end Drawer.Pos.IdempotencyStore
