import Drawer.Lib.Casts
import Drawer.Spec.Config

/-! Loading a configuration is the writes of its members, section by section, over
the defaults. The loader complains of every unknown member and of every value of the
wrong JSON type, except that nothing is visited in a null or an empty array; and it
reads one value of the text, with casts. What is loaded without a complaint is what
the file says exactly where none of this matters. -/

namespace Drawer.Cfg
open Text Casts

/-! ### One value -/

theorem read_ok_iff (k : Kind) (v : Json Bytes) : (∃ x, k.read v = .ok x) ↔ Typed k v := by
  cases k <;> cases v <;> simp [Kind.read, Typed]

theorem means_int {n : Int} {x : Int32} : Means .int (.int n) (.int x) ↔ x.toInt = n :=
  ⟨by rintro ⟨⟩; rfl, by rintro rfl; exact .int x⟩

theorem means_long {n : Int} {x : Int64} : Means .long (.int n) (.long x) ↔ x.toInt = n :=
  ⟨by rintro ⟨⟩; rfl, by rintro rfl; exact .long x⟩

theorem means_uint64 {n : Int} {x : UInt64} : Means .uint64 (.int n) (.uint64 x) ↔ (x.toNat : Int) = n :=
  ⟨by rintro ⟨⟩; rfl, by rintro rfl; exact .uint64 x⟩

theorem means_flag {n : Int} {b : Bool} : Means .bool (.int n) (.bool b) ↔ b = (n != 0) :=
  ⟨by rintro ⟨⟩; rfl, by rintro rfl; exact .flag n⟩

/-- What is read is what the value says, if the cast keeps it. -/
theorem means_iff {k : Kind} {v : Json Bytes} {x : Value} (h : k.read v = .ok x) : Means k v x ↔ Fits k v := by
  cases v with
  | int n =>
    cases k with
    | int =>
      obtain rfl := Except.ok.inj h
      simpa [Fits, means_int] using int32_kept_iff n
    | long =>
      obtain rfl := Except.ok.inj h
      simpa [Fits, means_long] using int64_kept_iff n
    | uint64 =>
      obtain rfl := Except.ok.inj h
      simpa [Fits, means_uint64] using uint64_kept_iff n
    | double =>
      obtain rfl := Except.ok.inj h
      exact iff_of_true (.whole n) (by simp [Fits])
    | bool =>
      obtain rfl := Except.ok.inj h
      simpa [Fits, means_flag] using int32_ne_zero_iff n
    | string => cases h
  | float q =>
    refine iff_of_true ?_ nofun
    cases k <;> cases h
    exact .fraction q
  | bool b =>
    refine iff_of_true ?_ nofun
    cases k <;> cases h
    exact .truth b
  | str s =>
    refine iff_of_true ?_ nofun
    cases k <;> cases h
    exact .text s
  | _ => cases k <;> cases h

/-! ### One section -/

/-- The setting that a member of `s` writes. -/
def written (s : Section) (m : Bytes × Json Bytes) : Option (Bytes × Value) :=
  match s.fields.find? fun f => decide (ascii f.key = m.1) with
  | none => none
  | some f => (f.kind.read m.2).toOption.map fun x => (s.path ++ m.1, x)

/-- What is complained of in it. -/
def complaint (s : Section) (m : Bytes × Json Bytes) : List Bytes :=
  match s.fields.find? fun f => decide (ascii f.key = m.1) with
  | none => [s.path ++ m.1 ++ ascii " unknown"]
  | some f =>
    match f.kind.read m.2 with
    | .error what => [s.path ++ m.1 ++ ascii what]
    | .ok _ => []

def overlay (c : Bytes → Option Value) (ws : List (Bytes × Value)) : Bytes → Option Value :=
  ws.foldl (fun c w => Function.update c w.1 (some w.2)) c

theorem overlay_append (c : Bytes → Option Value) (ws ws' : List (Bytes × Value)) :
    overlay c (ws ++ ws') = overlay (overlay c ws) ws' := List.foldl_append

theorem applyMember_errors (s : Section) (r : LoadResult) (m : Bytes × Json Bytes) :
    (applyMember s r m).errors = r.errors ++ complaint s m := by
  unfold applyMember complaint
  cases s.fields.find? fun f => decide (ascii f.key = m.1) with
  | none => rfl
  | some f => cases hread : f.kind.read m.2 <;> simp [hread, LoadResult.complain, LoadResult.set]

theorem applyMember_settings (s : Section) (r : LoadResult) (m : Bytes × Json Bytes) :
    (applyMember s r m).config.settings = overlay r.config.settings (written s m).toList := by
  unfold applyMember written
  cases s.fields.find? fun f => decide (ascii f.key = m.1) with
  | none => rfl
  | some f =>
    dsimp only
    cases f.kind.read m.2 <;> rfl

def writes (s : Section) : Json Bytes → List (Bytes × Value)
  | .obj members => members.filterMap (written s)
  | _ => []

def complaints (s : Section) : Json Bytes → List Bytes
  | .obj members => members.flatMap (complaint s)
  | _ => [s.path.dropLast ++ ascii " must be object"]

theorem applyObject_errors (s : Section) (r : LoadResult) (v : Json Bytes) :
    (applyObject s r v).errors = r.errors ++ complaints s v := by
  cases v with
  | obj members =>
    simp only [applyObject, complaints]
    induction members generalizing r with
    | nil => simp
    | cons m members ih => rw [List.foldl_cons, ih, applyMember_errors, List.flatMap_cons, List.append_assoc]
  | _ => rfl

theorem applyObject_settings (s : Section) (r : LoadResult) (v : Json Bytes) :
    (applyObject s r v).config.settings = overlay r.config.settings (writes s v) := by
  cases v with
  | obj members =>
    simp only [applyObject, writes]
    induction members generalizing r with
    | nil => rfl
    | cons m members ih =>
      rw [List.foldl_cons, ih, applyMember_settings, ← overlay_append]
      cases hw : written s m <;> simp [hw]
  | _ => rfl

/-! ### All sections -/

def applyAt (j : Json Bytes) (r : LoadResult) (s : Section) : LoadResult :=
  match at? j s.place with
  | some v => applyObject s r v
  | none => r

def writesAt (j : Json Bytes) (s : Section) : List (Bytes × Value) := ((at? j s.place).map (writes s)).getD []

def complaintsAt (j : Json Bytes) (s : Section) : List Bytes := ((at? j s.place).map (complaints s)).getD []

theorem foldl_applyAt_errors (j : Json Bytes) (l : List Section) (r : LoadResult) :
    (l.foldl (applyAt j) r).errors = r.errors ++ l.flatMap (complaintsAt j) := by
  induction l generalizing r with
  | nil => simp
  | cons s l ih =>
    rw [List.foldl_cons, ih, List.flatMap_cons, ← List.append_assoc]
    congr 1
    cases hv : at? j s.place <;> simp [applyAt, complaintsAt, hv, applyObject_errors]

theorem foldl_applyAt_settings (j : Json Bytes) (l : List Section) (r : LoadResult) :
    (l.foldl (applyAt j) r).config.settings = overlay r.config.settings (l.flatMap (writesAt j)) := by
  induction l generalizing r with
  | nil => rfl
  | cons s l ih =>
    rw [List.foldl_cons, ih, List.flatMap_cons, overlay_append]
    congr 1
    cases hv : at? j s.place <;> simp [applyAt, writesAt, hv, applyObject_settings, overlay]

theorem parsers_eq : parsers = ("io", parseIo) :: schema.tail.map fun s => (s.place.head!, applyObject s) := rfl

theorem foldl_applySection (j : Json Bytes) {l : List Section} (hl : ∀ s ∈ l, s.place = [s.place.head!]) (r : LoadResult) :
    (l.map fun s => (s.place.head!, applyObject s)).foldl (applySection j) r = l.foldl (applyAt j) r := by
  rw [List.foldl_map]
  refine List.foldl_ext _ _ _ fun r s hs => ?_
  have hat : at? j s.place = j.member (ascii s.place.head!) := by
    rw [hl s hs]
    simp [at?]
  cases hmember : j.member (ascii s.place.head!) <;> simp only [applySection, applyAt, hat, hmember]

def ioUnknown (j : Json Bytes) : List Bytes :=
  ((at? j ["io"]).map fun v =>
    ((items v).filter (· ≠ ascii "pins")).map fun k => ascii "io." ++ k ++ ascii " unknown").getD []

theorem at?_io (j : Json Bytes) : at? j ["io"] = j.member (ascii "io") := by simp [at?]

theorem at?_pins (j : Json Bytes) : at? j pins.place = (at? j ["io"]).bind fun v => v.member (ascii "pins") := by
  simp [at?, pins]

theorem applySection_io_errors (j : Json Bytes) (r : LoadResult) :
    (applySection j r ("io", parseIo)).errors = r.errors ++ complaintsAt j pins ++ ioUnknown j := by
  simp only [applySection, complaintsAt, ioUnknown, at?_pins, at?_io]
  cases j.member (ascii "io") with
  | none => simp
  | some v => cases hv : v.member (ascii "pins") <;> simp [parseIo, hv, applyObject_errors]

theorem applySection_io_settings (j : Json Bytes) (r : LoadResult) :
    (applySection j r ("io", parseIo)).config.settings = overlay r.config.settings (writesAt j pins) := by
  simp only [applySection, writesAt, at?_pins, at?_io]
  cases j.member (ascii "io") with
  | none => rfl
  | some v => cases hv : v.member (ascii "pins") <;> simp [parseIo, hv, applyObject_settings, overlay]

theorem complaintsAt_eq_nil_iff (j : Json Bytes) (s : Section) :
    complaintsAt j s = [] ↔ ∀ v, at? j s.place = some v → complaints s v = [] := by
  cases hv : at? j s.place <;> simp [complaintsAt, hv]

theorem ioUnknown_eq_nil_iff (j : Json Bytes) :
    ioUnknown j = [] ↔ ∀ v, at? j ["io"] = some v → ∀ k ∈ items v, k = ascii "pins" := by
  cases hv : at? j ["io"] <;> simp [ioUnknown, hv]

section Loaded
variable {parse : Parser} {path text rest : Bytes} {doc : Document} (hparse : parse text = .ok (doc, rest))
include hparse

theorem loadText_settings :
    (loadText parse path text).config.settings = overlay defaults.settings (schema.flatMap (writesAt doc.root)) := by
  have hplaces : ∀ s ∈ schema.tail, s.place = [s.place.head!] := by decide
  simp only [loadText, hparse, parsers_eq, List.foldl_cons]
  rw [foldl_applySection _ hplaces, foldl_applyAt_settings, applySection_io_settings, ← overlay_append]
  rfl

theorem loadText_errors_nil_iff : (loadText parse path text).errors = [] ↔
    (∀ s ∈ schema, ∀ v, at? doc.root s.place = some v → complaints s v = []) ∧
      (∀ v, at? doc.root ["io"] = some v → ∀ k ∈ items v, k = ascii "pins") ∧ ∀ k ∈ items doc.root, k ∈ known.map ascii := by
  have hplaces : ∀ s ∈ schema.tail, s.place = [s.place.head!] := by decide
  have hschema : schema = pins :: schema.tail := rfl
  simp only [loadText, hparse, parsers_eq, List.foldl_cons]
  rw [foldl_applySection _ hplaces, foldl_applyAt_errors, applySection_io_errors]
  simp only [List.nil_append, List.append_eq_nil_iff, List.map_eq_nil_iff, List.filter_eq_nil_iff, List.flatMap_eq_nil_iff,
    complaintsAt_eq_nil_iff, ioUnknown_eq_nil_iff, decide_eq_true_eq, not_not]
  rw [hschema, List.forall_mem_cons, ← hschema]
  tauto

end Loaded

/-! ### Which files are tolerated -/

theorem setting_inj {s t : Section} {f g : Field} (hs : s ∈ schema) (ht : t ∈ schema) (hf : f ∈ s.fields) (hg : g ∈ t.fields)
    (h : s.setting f = t.setting g) : s = t ∧ f = g := by
  have hnodup : ((schema.flatMap fun s => s.fields.map fun f => (s, f)).map fun p => p.1.setting p.2).Nodup := by
    decide +kernel
  have hmem : ∀ {s f}, s ∈ schema → f ∈ s.fields → (s, f) ∈ schema.flatMap fun s => s.fields.map fun f => (s, f) :=
    fun hs hf => List.mem_flatMap.mpr ⟨_, hs, List.mem_map.mpr ⟨_, hf, rfl⟩⟩
  exact Prod.mk.inj (List.inj_on_of_nodup_map hnodup (hmem hs hf) (hmem ht hg) h)

theorem find?_field {s : Section} {f : Field} (hs : s ∈ schema) (hf : f ∈ s.fields) :
    (s.fields.find? fun g => decide (ascii g.key = ascii f.key)) = some f := by
  cases hfind : s.fields.find? fun g => decide (ascii g.key = ascii f.key) with
  | none => exact absurd (List.find?_eq_none.mp hfind f hf) (by simp)
  | some g =>
    have hkey : ascii g.key = ascii f.key := by simpa using List.find?_some hfind
    have hsetting : s.setting g = s.setting f := congrArg (s.path ++ ·) hkey
    exact congrArg some (setting_inj hs hs (List.mem_of_find?_eq_some hfind) hf hsetting).2

/-- The member of a map under a key is the one with that key. -/
theorem Keyed.mem_iff {members : List (Bytes × Json Bytes)} (h : Keyed (.obj members)) (k : Bytes) (v : Json Bytes) :
    (k, v) ∈ members ↔ (Json.obj members).member k = some v := by
  obtain ⟨hnodup, -⟩ : (members.map Prod.fst).Nodup ∧ True := by
    cases h with
    | obj keys values => exact ⟨keys, trivial⟩
  constructor
  · intro hmem
    cases hfind : members.find? fun p => decide (p.1 = k) with
    | none => exact absurd (List.find?_eq_none.mp hfind _ hmem) (by simp)
    | some p =>
      have hk : p.1 = k := by simpa using List.find?_some hfind
      obtain rfl := List.inj_on_of_nodup_map hnodup (List.mem_of_find?_eq_some hfind) hmem hk
      simp [Json.member, hfind]
  · intro hmember
    obtain ⟨p, hfind, rfl⟩ := Option.map_eq_some_iff.mp hmember
    obtain rfl : p.1 = k := by simpa using List.find?_some hfind
    exact List.mem_of_find?_eq_some hfind

/-- Nothing is complained of in a section of known members of the right types. -/
theorem complaints_eq_nil_iff {s : Section} (hs : s ∈ schema) {v : Json Bytes} (hv : Keyed v) : complaints s v = [] ↔
    Only (s.fields.map Field.key) v ∧ ∀ f ∈ s.fields, ∀ w, v.member (ascii f.key) = some w → Typed f.kind w := by
  cases v with
  | obj members =>
    simp only [complaints, List.flatMap_eq_nil_iff]
    constructor
    · intro h
      have hmember : ∀ m ∈ members, ∃ f ∈ s.fields, ascii f.key = m.1 ∧ Typed f.kind m.2 := by
        intro m hm
        have hnil := h m hm
        unfold complaint at hnil
        split at hnil
        · cases hnil
        · rename_i f hfind
          have hkey : ascii f.key = m.1 := by simpa using List.find?_some hfind
          refine ⟨f, List.mem_of_find?_eq_some hfind, hkey, (read_ok_iff _ _).mp ?_⟩
          split at hnil
          · cases hnil
          · exact ⟨_, ‹_›⟩
      refine ⟨⟨members, rfl, fun m hm => ?_⟩, fun f hf w hw => ?_⟩
      · obtain ⟨f, hf, hkey, -⟩ := hmember m hm
        rw [← hkey]
        exact List.mem_map_of_mem (List.mem_map_of_mem hf)
      · obtain ⟨g, hg, hkey, htyped⟩ := hmember _ ((hv.mem_iff _ w).mpr hw)
        obtain rfl := (setting_inj hs hs hg hf (congrArg (s.path ++ ·) hkey)).2
        exact htyped
    · rintro ⟨⟨_, heq, hknown⟩, htyped⟩ m hm
      obtain rfl := Json.obj.inj heq
      obtain ⟨name, hname, hkey⟩ := List.mem_map.mp (hknown m hm)
      obtain ⟨f, hf, rfl⟩ := List.mem_map.mp hname
      obtain ⟨x, hx⟩ := (read_ok_iff _ _).mpr (htyped f hf m.2 ((hv.mem_iff _ _).mp (hkey ▸ hm)))
      unfold complaint
      rw [← hkey, find?_field hs hf]
      simp only [hx]
  | _ => exact iff_of_false (by simp [complaints]) fun h => by obtain ⟨_, h, -⟩ := h.1; cases h

/-- The keys visited are all known: of an object with known members, or where none is visited. -/
theorem items_iff {names : List String} (hzero : decimal 0 ∉ names.map ascii) (hnil : [] ∉ names.map ascii) (v : Json Bytes) :
    (∀ k ∈ items v, k ∈ names.map ascii) ↔ Hollow v ∨ Only names v := by
  cases v with
  | null => simp [items, Hollow]
  | arr l =>
    cases l with
    | nil => simp [items, Hollow]
    | cons a l =>
      refine iff_of_false (fun h => hzero (h _ ?_)) ?_
      · exact List.mem_map.mpr ⟨0, by simpa using ⟨0, Nat.zero_le _, rfl⟩, rfl⟩
      · simp [Hollow, Only]
  | obj members => simp [items, Hollow, Only]
  | _ => exact iff_of_false (fun h => hnil (h [] (by simp [items]))) (by simp [Hollow, Only])

theorem Keyed.member {j v : Json Bytes} {k : Bytes} (h : Keyed j) (hv : j.member k = some v) : Keyed v := by
  cases j with
  | obj members =>
    have hmem := (h.mem_iff k v).mpr hv
    cases h with
    | obj keys values => exact values _ hmem
  | _ => cases hv

theorem Keyed.at? {j v : Json Bytes} {place : List String} (h : Keyed j) (hv : Cfg.at? j place = some v) : Keyed v := by
  induction place generalizing j with
  | nil =>
    obtain rfl := Option.some.inj hv
    exact h
  | cons name place ih =>
    obtain ⟨w, hw, hv⟩ := Option.bind_eq_some_iff.mp hv
    exact ih (h.member hw) hv

theorem given_eq_some_iff {j v : Json Bytes} {s : Section} {f : Field} :
    given j s f = some v ↔ ∃ w, at? j s.place = some w ∧ w.member (ascii f.key) = some v := Option.bind_eq_some_iff

/-- There is no error exactly if the file is tolerated. -/
theorem errors_nil_iff {parse : Parser} {path text rest : Bytes} {doc : Document} (hparse : parse text = .ok (doc, rest)) :
    (loadText parse path text).errors = [] ↔ Tolerated doc.root := by
  have hpins : ∀ v, (∀ k ∈ items v, k = ascii "pins") ↔ Hollow v ∨ Only ["pins"] v := fun v => by
    rw [← items_iff (by decide) (by decide) v]
    simp
  have hcomplaints : ∀ s ∈ schema, (∀ v, at? doc.root s.place = some v → complaints s v = []) ↔
      (∀ v, at? doc.root s.place = some v → Only (s.fields.map Field.key) v) ∧
        ∀ f ∈ s.fields, ∀ v, given doc.root s f = some v → Typed f.kind v := by
    intro s hs
    constructor
    · intro h
      refine ⟨fun v hv => ((complaints_eq_nil_iff hs (doc.keyed.at? hv)).mp (h v hv)).1, fun f hf w hw => ?_⟩
      obtain ⟨v, hv, hw⟩ := given_eq_some_iff.mp hw
      exact ((complaints_eq_nil_iff hs (doc.keyed.at? hv)).mp (h v hv)).2 f hf w hw
    · rintro ⟨honly, htyped⟩ v hv
      exact (complaints_eq_nil_iff hs (doc.keyed.at? hv)).mpr
        ⟨honly v hv, fun f hf w hw => htyped f hf w (given_eq_some_iff.mpr ⟨v, hv, hw⟩)⟩
  rw [loadText_errors_nil_iff hparse, items_iff (by decide) (by decide)]
  simp only [hpins]
  constructor
  · rintro ⟨hsections, hio, hroot⟩
    exact ⟨hroot, hio, fun s hs => ((hcomplaints s hs).mp (hsections s hs)).1,
      fun s hs => ((hcomplaints s hs).mp (hsections s hs)).2⟩
  · intro h
    exact ⟨fun s hs => (hcomplaints s hs).mpr ⟨h.sections s hs, h.values s hs⟩, h.io, h.root⟩

/-! ### What is loaded -/

theorem overlay_of_forall_ne {ws : List (Bytes × Value)} {p : Bytes} (c : Bytes → Option Value) (h : ∀ w ∈ ws, w.1 ≠ p) :
    overlay c ws p = c p := by
  induction ws generalizing c with
  | nil => rfl
  | cons w ws ih =>
    rw [List.forall_mem_cons] at h
    exact (ih _ h.2).trans (Function.update_of_ne h.1.symm _ _)

/-- A setting that is written, always as `x`, is `x` in the end. -/
theorem overlay_of_mem {ws : List (Bytes × Value)} {p : Bytes} {x : Value} (c : Bytes → Option Value) (hmem : (p, x) ∈ ws)
    (honly : ∀ w ∈ ws, w.1 = p → w.2 = x) : overlay c ws p = some x := by
  induction ws generalizing c with
  | nil => cases hmem
  | cons w ws ih =>
    rw [List.forall_mem_cons] at honly
    by_cases hlater : (p, x) ∈ ws
    · exact ih _ hlater honly.2
    · have hw : w = (p, x) := ((List.mem_cons.mp hmem).resolve_right hlater).symm
      have hnone : ∀ w' ∈ ws, w'.1 ≠ p := fun w' hw' hp => hlater (by rw [← hp, ← honly.2 w' hw' hp]; exact hw')
      rw [overlay, List.foldl_cons]
      refine (overlay_of_forall_ne _ hnone).trans ?_
      simp [hw]

theorem written_eq_some_iff {s : Section} (hs : s ∈ schema) {m : Bytes × Json Bytes} {p : Bytes} {x : Value} :
    written s m = some (p, x) ↔ ∃ f ∈ s.fields, ascii f.key = m.1 ∧ s.setting f = p ∧ f.kind.read m.2 = .ok x := by
  constructor
  · intro h
    unfold written at h
    split at h
    · cases h
    · rename_i f hfind
      have hkey : ascii f.key = m.1 := by simpa using List.find?_some hfind
      obtain ⟨y, hy, heq⟩ := Option.map_eq_some_iff.mp h
      obtain ⟨rfl, rfl⟩ := Prod.mk.inj heq
      refine ⟨f, List.mem_of_find?_eq_some hfind, hkey, congrArg (s.path ++ ·) hkey, ?_⟩
      cases hread : f.kind.read m.2 with
      | error what => simp [hread, Except.toOption] at hy
      | ok z => simpa [hread, Except.toOption] using hy
  · rintro ⟨f, hf, hkey, rfl, hread⟩
    unfold written
    rw [← hkey, find?_field hs hf]
    simp [hread, Except.toOption, Section.setting]

/-- What is written are the given members, as they are read. -/
theorem mem_writesAt_iff {j : Json Bytes} (hj : Keyed j) {s : Section} (hs : s ∈ schema) {p : Bytes} {x : Value} :
    (p, x) ∈ writesAt j s ↔ ∃ f ∈ s.fields, s.setting f = p ∧ ∃ v, given j s f = some v ∧ f.kind.read v = .ok x := by
  simp only [given_eq_some_iff]
  cases hv : at? j s.place with
  | none => simp [writesAt, hv]
  | some v =>
    have hkeyed := hj.at? hv
    cases v with
    | obj members =>
      simp only [writesAt, hv, Option.map_some, Option.getD_some, writes, List.mem_filterMap, written_eq_some_iff hs,
        Option.some.injEq, exists_eq_left', ← hkeyed.mem_iff]
      constructor
      · rintro ⟨⟨k, v⟩, hm, f, hf, rfl, hsetting, hread⟩
        exact ⟨f, hf, hsetting, v, hm, hread⟩
      · rintro ⟨f, hf, hsetting, v, hm, hread⟩
        exact ⟨(ascii f.key, v), hm, f, hf, rfl, hsetting, hread⟩
    | _ => simp [writesAt, hv, writes, Json.member]

section Loaded
variable {parse : Parser} {path text rest : Bytes} {doc : Document} (hparse : parse text = .ok (doc, rest))
include hparse

theorem settings_of_given {s : Section} (hs : s ∈ schema) {f : Field} (hf : f ∈ s.fields) {v : Json Bytes}
    (hv : given doc.root s f = some v) {x : Value} (hx : f.kind.read v = .ok x) :
    (loadText parse path text).config.settings (s.setting f) = some x := by
  rw [loadText_settings hparse]
  refine overlay_of_mem _ (List.mem_flatMap.mpr ⟨s, hs, (mem_writesAt_iff doc.keyed hs).mpr ⟨f, hf, rfl, v, hv, hx⟩⟩) ?_
  rintro ⟨p, y⟩ hw rfl
  obtain ⟨t, ht, hw⟩ := List.mem_flatMap.mp hw
  obtain ⟨g, hg, hsetting, w, hgiven, hy⟩ := (mem_writesAt_iff doc.keyed ht).mp hw
  obtain ⟨rfl, rfl⟩ := setting_inj ht hs hg hf hsetting
  obtain rfl := Option.some.inj (hgiven.symm.trans hv)
  exact Except.ok.inj (hy.symm.trans hx)

theorem settings_of_not_given {p : Bytes}
    (h : ∀ s ∈ schema, ∀ f ∈ s.fields, given doc.root s f ≠ none → s.setting f ≠ p) :
    (loadText parse path text).config.settings p = defaults.settings p := by
  rw [loadText_settings hparse]
  refine overlay_of_forall_ne _ ?_
  rintro ⟨q, x⟩ hw rfl
  obtain ⟨s, hs, hw⟩ := List.mem_flatMap.mp hw
  obtain ⟨f, hf, hsetting, v, hv, -⟩ := (mem_writesAt_iff doc.keyed hs).mp hw
  exact h s hs f hf (by simp [hv]) hsetting

/-- A tolerated file is overlaid as it says exactly if it is an object, its `io` is one, and its integers fit. -/
theorem overlaid_iff (htol : Tolerated doc.root) : Overlaid doc.root (loadText parse path text).config ↔
    ¬ Hollow doc.root ∧ (∀ v, at? doc.root ["io"] = some v → ¬ Hollow v) ∧
      ∀ s ∈ schema, ∀ f ∈ s.fields, ∀ v, given doc.root s f = some v → Fits f.kind v := by
  have hollow_not_only : ∀ names v, Hollow v → ¬ Only names v := by
    rintro names v (rfl | rfl) ⟨members, heq, -⟩ <;> cases heq
  have hread : ∀ s ∈ schema, ∀ f ∈ s.fields, ∀ v, given doc.root s f = some v → ∃ x, f.kind.read v = .ok x :=
    fun s hs f hf v hv => (read_ok_iff _ _).mpr (htol.values s hs f hf v hv)
  constructor
  · intro h
    refine ⟨fun hhollow => hollow_not_only _ _ hhollow h.root, fun v hv hhollow => hollow_not_only _ _ hhollow (h.io v hv),
      fun s hs f hf v hv => ?_⟩
    obtain ⟨x, hx⟩ := hread s hs f hf v hv
    obtain ⟨y, hy, hmeans⟩ := h.values s hs f hf v hv
    obtain rfl := Option.some.inj ((settings_of_given hparse hs hf hv hx).symm.trans hy)
    exact (means_iff hx).mp hmeans
  · rintro ⟨hroot, hio, hfits⟩
    refine ⟨htol.root.resolve_left hroot, fun v hv => (htol.io v hv).resolve_left (hio v hv), htol.sections,
      fun s hs f hf v hv => ?_, fun p hp => settings_of_not_given hparse hp⟩
    obtain ⟨x, hx⟩ := hread s hs f hf v hv
    exact ⟨x, settings_of_given hparse hs hf hv hx, (means_iff hx).mpr (hfits s hs f hf v hv)⟩

end Loaded

/-- For every text of a file, it is loaded exactly if and only if it is sound. -/
theorem loads_exactly_iff (parse : Parser) (readFile : Bytes → Option Bytes) (path : Bytes) :
    LoadsExactly parse readFile path ↔ ∀ text, path ≠ [] → readFile path = some text → Sound parse text := by
  refine forall_congr' fun text => imp_congr_right fun hpath => imp_congr_right fun hfile => ?_
  have hload : load parse (some path) readFile = loadText parse path text := by simp [load, hpath, hfile]
  rw [hload]
  cases hparse : parse text with
  | error what => simp [loadText, hparse, Sound]
  | ok out =>
    obtain ⟨doc, rest⟩ := out
    rw [errors_nil_iff hparse]
    constructor
    · rintro h doc' rest' heq htol
      obtain ⟨rfl, rfl⟩ := Prod.mk.inj (Except.ok.inj (hparse.symm.trans heq))
      obtain ⟨doc', rest', heq', hblank, hover⟩ := h htol
      obtain ⟨rfl, rfl⟩ := Prod.mk.inj (Except.ok.inj heq')
      exact ⟨hblank, (overlaid_iff hparse htol).mp hover⟩
    · intro h htol
      obtain ⟨hblank, hsound⟩ := h doc rest hparse htol
      exact ⟨doc, rest, rfl, hblank, (overlaid_iff hparse htol).mpr hsound⟩

def longPort : Document where
  root := .obj [(ascii "pos", .obj [(ascii "port", .int 4294967318)])]
  keyed := .obj (List.nodup_singleton _) (List.forall_mem_singleton.mpr
    (.obj (List.nodup_singleton _) (List.forall_mem_singleton.mpr (.int _))))

/-- The register listens on port 22. -/
theorem longPort_wraps : ¬ ∀ parse readFile path, LoadsExactly parse readFile path := by
  intro h
  have herrors : (load (fun _ => .ok (longPort, [])) (some [47]) fun _ => some []).errors = [] := by decide +kernel
  obtain ⟨doc, rest, heq, -, hover⟩ := h _ _ _ [] (List.cons_ne_nil _ _) rfl herrors
  obtain ⟨rfl, -⟩ := Prod.mk.inj (Except.ok.inj heq)
  have hport : (load (fun _ => .ok (longPort, [])) (some [47]) fun _ => some []).config.settings (ascii "pos.port") =
      some (.int 22) := by decide +kernel
  obtain ⟨x, hx, hmeans⟩ := hover.values pos (by simp [schema]) (intField "port" 9090) (by simp [pos]) (.int 4294967318)
    (by simp [given, at?, pos, longPort, Json.member, intField])
  obtain rfl := Option.some.inj (hport.symm.trans hx)
  exact absurd (means_int.mp hmeans) (by decide)

end Drawer.Cfg
