import Drawer.Proofs.Metrics

/-! Where both texts of a registry are read back as what was registered, each part of them can be
read back: no text between quotes needs an escape, and no sample hides another. The Prometheus text
is read first, since each of its lines starts anew; it leaves the quotes of the JSON text in their
places. -/

namespace Drawer.Obs
open Text Decimal
open Exposition (Series Named Bears Written letter nameStart lineText labelsText firstLine)
open JsonReader (Fails Settled Reads memberText memberTexts)

variable {s : Sample} {r : Series}

/-! ### What is read of a sample -/

/-- The labels are read with the names that they have, in some order. -/
theorem ReadsAs.keys (h : ReadsAs s r) : (r.labels.map Prod.fst).Perm (s.labels.map Prod.fst) := by
  obtain ⟨l, hperm, hread⟩ := h.labels
  have hkeys : List.Forall₂ Eq (l.map Prod.fst) (s.labels.map Prod.fst) := by
    rw [List.forall₂_map_left_iff, List.forall₂_map_right_iff]
    exact hread.imp fun _ _ hp => hp.1
  rw [List.forall₂_eq_eq_eq] at hkeys
  exact hkeys ▸ hperm.map Prod.fst

/-- A sample, the names of which the grammar has. -/
structure Sample.Grammatical (s : Sample) : Prop where
  name : Named nameStart s.name
  labels : ∀ p ∈ s.labels, Named letter p.1
  own : (s.labels.map Prod.fst).Nodup

theorem ReadsAs.grammatical (h : ReadsAs s r) (hr : Exposition.Grammatical r) : s.Grammatical where
  name := h.name ▸ hr.name
  labels p hp := by
    have hmem : p.1 ∈ r.labels.map Prod.fst := h.keys.mem_iff.mpr (List.mem_map_of_mem hp)
    obtain ⟨q, hq, heq⟩ := List.mem_map.mp hmem
    exact heq ▸ hr.labels q hq
  own := h.keys.nodup_iff.mp hr.own

theorem ReadsAs.value_reads (h : ReadsAs s r) (hown : (s.labels.map Prod.fst).Nodup) {p : Bytes × LabelValue} (hp : p ∈ s.labels)
    {u : Bytes} (hu : (p.1, u) ∈ r.labels) : p.2.Reads u := by
  obtain ⟨l, hperm, hread⟩ := h.labels
  obtain ⟨q, hq, hkey, hreads⟩ := exists_of_forall₂ hread.flip (hperm.mem_iff.mp hu)
  obtain rfl := List.inj_on_of_nodup_map hown hq hp hkey.symm
  exact hreads

/-! ### The Prometheus text -/

theorem unescaped_of_plain {t : Bytes} (h : ∀ b ∈ t, plainByte b = true) : Exposition.Unescaped t := by
  intro b hb
  obtain ⟨hlow, hquote, hslash, -⟩ := ordinary_of_plainByte b (h b hb)
  refine ⟨hquote, hslash, ?_⟩
  rintro rfl
  exact absurd hlow (by decide)

theorem LabelValue.Reads.written {v : LabelValue} {u : Bytes} (h : v.Reads u) :
    u = v.written toText ∨ Exposition.Unescaped (v.written toText) := by
  cases v with
  | text t => exact Or.inl h
  | bound v => exact Or.inr (unescaped_of_plain (plain_toText v))

theorem Sample.Grammatical.series (h : s.Grammatical) (hr : Alike (s.series toText) r) : Exposition.Grammatical r where
  name := hr.name ▸ h.name
  labels p hp := by
    obtain ⟨q, hq, rfl⟩ := List.mem_map.mp (hr.labels.mem_iff.mpr hp)
    exact h.labels q hq
  own := by
    rw [← (hr.labels.map Prod.fst).nodup_iff, Sample.series, List.map_map]
    exact h.own

/-- The lines of a sample give one series at the least, and if they give no other, it is written on one line. -/
theorem bears_sample (h : s.Grammatical) (hr : Alike (s.series toText) r) :
    Bears ReadsAs (lineText r ++ [10]) [s] (Alike (s.series toText) r ∧ ReadsAs s r ∧ Written r) := by
  have hgrammatical := h.series hr
  have hsome : Exposition.line (firstLine (lineText r)) ≠ some none := by
    have hfirst : firstLine (lineText r) = r.name ++ firstLine (labelsText r.labels ++ 32 :: r.value) := by
      rw [lineText, List.append_assoc, Exposition.firstLine_append (Exposition.newline_notMem_of_named rfl hgrammatical.name)]
    rw [hfirst]
    exact Exposition.line_named hgrammatical.name _
  refine (Exposition.bears_line hsome).imp ?_
  rintro ⟨r', hread, hline⟩
  have hvalue : ∀ b ∈ r.value, plainByte b = true := hr.value ▸ plain_written s.value
  have hback : ∀ p ∈ r.labels, ∀ u, (p.1, u) ∈ r'.labels → u = p.2 ∨ Exposition.Unescaped p.2 := by
    intro p hp u hu
    obtain ⟨q, hq, rfl⟩ := List.mem_map.mp (hr.labels.mem_iff.mpr hp)
    exact (hread.value_reads h.own hq hu).written
  obtain ⟨hwritten, rfl⟩ := Exposition.written_of_line hgrammatical hvalue hback hline
  exact ⟨hr, hread, hwritten⟩

theorem bears_header {p : Bytes} (hp : 10 ∉ p) (name t : Bytes) :
    Bears ReadsAs (35 :: p ++ name ++ [32] ++ t ++ [10]) []
      (∀ l ∈ (lines 10 (name ++ [32] ++ t ++ [10])).tail, Exposition.line l = some none) := by
  refine (Exposition.bears_silent (35 :: p ++ name ++ [32] ++ t)).imp fun hsilent l hl => hsilent l ?_
  have hp' : (10 : UInt8) ∉ 35 :: p := by simp [hp]
  obtain ⟨l', hl'⟩ := lines_prefix hp' (name ++ [32] ++ t)
  have htext : 35 :: p ++ name ++ [32] ++ t ++ [10] = 35 :: p ++ (name ++ [32] ++ t ++ [10]) := by simp
  rw [htext, hl']
  exact List.mem_cons_of_mem _ hl

/-- What is on the lines of a family, if they give what they should. -/
structure Kept (name : Bytes) (fam : MetricFamily) : Prop where
  comments : ∀ t ∈ [fam.help, fam.cells.typeName], ∀ l ∈ (lines 10 (name ++ [32] ++ t ++ [10])).tail, Exposition.line l = some none
  series : List.Forall₂ (fun s r => Alike (s.series toText) r ∧ ReadsAs s r ∧ Written r) (fam.cells.samples name) (fam.cells.series name)

theorem bears_family {name : Bytes} {fam : MetricFamily} (h : ∀ s ∈ fam.cells.samples name, s.Grammatical) :
    Bears ReadsAs (fam.lines name) (fam.cells.samples name) (Kept name fam) := by
  have hhelp := bears_header (p := ascii " HELP ") (by decide) name fam.help
  have htype := bears_header (p := ascii " TYPE ") (by decide) name fam.cells.typeName
  have halike := alike_series name fam.cells fun s hs => (h s hs).own
  have hlines := Bears.forall₂ (f := fun r => lineText r ++ [10])
    (forall₂_of_mem halike fun s hs r hr => bears_sample (h s hs) hr)
  rw [← lines_eq] at hlines
  refine ((hhelp.append htype).append hlines).imp ?_
  rintro ⟨⟨hhelp, htype⟩, hseries⟩
  refine ⟨fun t ht => ?_, hseries⟩
  simp only [List.mem_cons, List.not_mem_nil, or_false] at ht
  rcases ht with rfl | rfl
  · exact hhelp
  · exact htype

theorem kept_of_series {m : Metrics} {l : List Series} (hseries : Exposition.series (toPrometheus m) = some l)
    (hread : List.Forall₂ ReadsAs (registered m) l) : ∀ f ∈ m, Kept f.1 f.2 := by
  have hgrammatical : ∀ s ∈ registered m, s.Grammatical := by
    intro s hs
    obtain ⟨r, hr, hreads⟩ := exists_of_forall₂ hread.flip hs
    exact ReadsAs.grammatical hreads (Exposition.grammatical_of_series hseries r hr)
  have hbears : Bears ReadsAs (toPrometheus m) (registered m) (∀ f ∈ m, Kept f.1 f.2) :=
    Bears.flatMap fun f hf => bears_family fun s hs => hgrammatical s (List.mem_flatMap.mpr ⟨f, hf, hs⟩)
  exact hbears.of_series hseries hread

/-! ### The JSON text -/

theorem number_or_fails (v : Value) : jsonNumber v.written = true ∨ Fails v.written := by
  cases v with
  | long n => exact Or.inl (jsonNumber_decimal n)
  | double v =>
    cases v with
    | nan => exact Or.inr (Fails.scalar rfl (by decide) fun _ _ => rfl)
    | inf negative => cases negative <;> exact Or.inr (Fails.scalar rfl (by decide) fun _ _ => rfl)
    | finite negative q =>
      cases hnumber : jsonNumber (shown (.finite negative q)) with
      | true => exact Or.inl hnumber
      | false => exact Or.inr (Fails.num (shown_ne_nil negative q) (number_shown negative q) hnumber)

def seriesMembers (r : Series) : List (Bytes × Bytes) :=
  [(ascii "name", quotedText r.name), (ascii "labels", 123 :: (labelLoop r.labels ++ [125])), (ascii "value", r.value)]

/-- A series, the names of which need no escape, and no label of which has a quote or a backslash. -/
structure Fenced (r : Series) : Prop where
  name : JsonReader.Unescaped r.name
  labels : ∀ p ∈ r.labels, JsonReader.Unescaped p.1 ∧ ∀ b ∈ p.2, b ≠ 34 ∧ b ≠ 92
  value : jsonNumber r.value = true ∨ Fails r.value

theorem plain_or_fails (h : Fenced r) : Plain r ∨ Fails (seriesText r) := by
  have htexts : labelLoop r.labels = commas (memberTexts (r.labels.map fun p => (p.1, quotedText p.2))) := by
    rw [labelLoop_eq, memberTexts, List.map_map]
    rfl
  have hlabels : ∀ m ∈ r.labels.map fun p => (p.1, quotedText p.2), JsonReader.Unescaped m.1 ∧ Settled m.2 := by
    intro m hm
    obtain ⟨p, hp, rfl⟩ := List.mem_map.mp hm
    exact ⟨(h.labels p hp).1, JsonReader.settled_str (h.labels p hp).2⟩
  have hmembers : ∀ m ∈ seriesMembers r, JsonReader.Unescaped m.1 ∧ Settled m.2 := by
    intro m hm
    simp only [seriesMembers, List.mem_cons, List.not_mem_nil, or_false] at hm
    rcases hm with rfl | rfl | rfl
    · exact ⟨unescaped_key _ (by decide), Or.inr ⟨_, Reads.str h.name⟩⟩
    · exact ⟨unescaped_key _ (by decide), htexts ▸ JsonReader.settled_obj hlabels⟩
    · exact ⟨unescaped_key _ (by decide), h.value.symm.imp id fun hnumber => ⟨_, Reads.num hnumber⟩⟩
  have hfails : ∀ m ∈ seriesMembers r, Fails m.2 → Fails (seriesText r) := fun m hm hf => by
    rw [seriesText_eq]
    exact Fails.obj hmembers hm hf
  by_cases hclean : ∀ p ∈ r.labels, JsonReader.Unescaped p.2
  · rcases h.value with hnumber | hf
    · exact Or.inl ⟨h.name, fun p hp => ⟨(h.labels p hp).1, hclean p hp⟩, hnumber⟩
    · exact Or.inr (hfails (ascii "value", r.value) (by simp [seriesMembers]) hf)
  · obtain ⟨p, hp, hcontrol⟩ : ∃ p ∈ r.labels, ¬ JsonReader.Unescaped p.2 := by
      simpa only [not_forall, exists_prop] using hclean
    refine Or.inr (hfails (ascii "labels", 123 :: (labelLoop r.labels ++ [125])) (by simp [seriesMembers]) ?_)
    rw [htexts]
    exact Fails.obj hlabels (List.mem_map_of_mem hp) (Fails.str (h.labels p hp).2 hcontrol)

theorem plain_of_jsonSeries {l l' : List Series} (h : ∀ r ∈ l, Fenced r) (hseries : jsonSeries (registryText l) = some l') :
    (∀ r ∈ l, Plain r) ∧ validUtf8 (registryText l) = true := by
  have hread : JsonReader.read (registryText l) ≠ none := by
    intro hnone
    rw [jsonSeries, hnone] at hseries
    cases hseries
  refine ⟨fun r hr => ?_, ?_⟩
  · refine (plain_or_fails (h r hr)).resolve_right fun hf => hread ?_
    have hsettled : ∀ t ∈ l.map seriesText, Settled t := by
      intro t ht
      obtain ⟨r', hr', rfl⟩ := List.mem_map.mp ht
      exact (plain_or_fails (h r' hr')).symm.imp id fun hplain => ⟨_, reads_seriesText hplain⟩
    have hhead : ∀ t ∈ l.map seriesText, t.head? = some 123 := by
      intro t ht
      obtain ⟨r', -, rfl⟩ := List.mem_map.mp ht
      rw [seriesText_eq]
      rfl
    have harr := Fails.arr hsettled (List.mem_map_of_mem hr) hf hhead
    rw [registryText_eq]
    refine (Fails.obj (l := [(ascii "metrics", _)]) (fun m hm => ?_) List.mem_cons_self harr).read
    obtain rfl := List.mem_singleton.mp hm
    exact ⟨unescaped_metrics, Or.inl harr⟩
  · by_contra hinvalid
    exact hread (if_neg hinvalid)

theorem infix_bracketed {t u : Bytes} (h : t <:+: u) (b c : UInt8) : t <:+: b :: (u ++ [c]) :=
  h.trans ((List.prefix_append u [c]).isInfix.trans (List.suffix_cons b _).isInfix)

theorem infix_memberText (key t : Bytes) : t <:+: memberText key t :=
  ⟨34 :: key ++ [34, 58], [], by simp [memberText]⟩

/-- Every text of the registry stands between its quotes. -/
theorem infix_registryText {l : List Series} (hr : r ∈ l) {p : Bytes × Bytes} (hp : p ∈ r.labels) :
    quotedText p.2 <:+: registryText l := by
  have hlabels : quotedText p.2 <:+: labelLoop r.labels := by
    rw [labelLoop_eq]
    exact (infix_memberText p.1 _).trans (JsonReader.infix_commas (List.mem_map_of_mem hp))
  have hseries : quotedText p.2 <:+: seriesText r := by
    rw [seriesText_eq]
    refine infix_bracketed (.trans ?_ (JsonReader.infix_commas (List.mem_cons_of_mem _ List.mem_cons_self))) _ _
    exact (infix_bracketed hlabels _ _).trans (infix_memberText _ _)
  have harr : quotedText p.2 <:+: 91 :: (commas (l.map seriesText) ++ [93]) :=
    infix_bracketed (hseries.trans (JsonReader.infix_commas (List.mem_map_of_mem hr))) _ _
  rw [registryText_eq]
  exact infix_bracketed ((harr.trans (infix_memberText _ _)).trans (JsonReader.infix_commas List.mem_cons_self)) _ _

/-! ### The whole registry -/

/-- What the Prometheus text says of a sample. -/
structure Sample.Kept (s : Sample) (r : Series) : Prop where
  alike : Alike (s.series toText) r
  reads : ReadsAs s r
  written : Written r

theorem Sample.Kept.grammatical (h : s.Kept r) : s.Grammatical :=
  h.reads.grammatical ⟨h.written.name, fun p hp => (h.written.labels p hp).name, h.written.own⟩

theorem Sample.Kept.label_reads (h : s.Kept r) {p : Bytes × LabelValue} (hp : p ∈ s.labels) : p.2.Reads (p.2.written toText) :=
  h.reads.value_reads h.grammatical.own hp (h.alike.labels.mem_iff.mp (List.mem_map_of_mem hp))

theorem Sample.Kept.value_reads (h : s.Kept r) : s.value.Reads s.value.written := by
  have hreads := h.reads.value
  rwa [← h.alike.value] at hreads

theorem Sample.Kept.fenced (h : s.Kept r) : Fenced (s.series shown) where
  name := unescaped_of_ordinary (ordinary_of_named h.grammatical.name)
  labels p hp := by
    obtain ⟨q, hq, rfl⟩ := List.mem_map.mp hp
    refine ⟨unescaped_of_ordinary (ordinary_of_label (h.grammatical.labels q hq)), fun b hb => ?_⟩
    have hmem : (q.1, q.2.written toText) ∈ r.labels := h.alike.labels.mem_iff.mp (List.mem_map_of_mem hq)
    have hpair := h.written.labels _ hmem
    cases hq2 : q.2 with
    | text t =>
      rw [hq2] at hb hpair
      exact ⟨(hpair.value b hb).1, (hpair.value b hb).2.1⟩
    | bound v =>
      rw [hq2] at hb
      have hordinary := ordinary_of_plainByte b (plain_shown v b hb)
      exact ⟨hordinary.2.1, hordinary.2.2.1⟩
  value := number_or_fails s.value

/-- What both texts say of a sample. -/
theorem Sample.Kept.legible (h : s.Kept r) (hplain : Plain (s.series shown)) (hreads : ReadsAs s (s.series shown))
    (hutf8 : ∀ p ∈ (s.series shown).labels, validUtf8 p.2 = true) : s.Legible where
  name := h.grammatical.name
  labels p hp := by
    refine ⟨h.grammatical.labels p hp, ?_⟩
    have hmem : (p.1, p.2.written shown) ∈ (s.series shown).labels := List.mem_map_of_mem hp
    have hunescaped := (hplain.labels _ hmem).2
    have hvalid := hutf8 _ hmem
    have hback := hreads.value_reads h.grammatical.own hp hmem
    have hback' := h.label_reads hp
    cases hp2 : p.2 with
    | text t =>
      rw [hp2] at hunescaped hvalid
      exact ⟨hunescaped, hvalid⟩
    | bound v =>
      rw [hp2] at hback hback'
      exact ⟨hback, hback'⟩
  own := h.grammatical.own
  value := by
    have hnumber := hplain.value
    have hback := h.value_reads
    cases hs : s.value with
    | double v =>
      rw [Sample.series, hs] at hnumber
      rw [hs] at hback
      exact ⟨hnumber, hback⟩
    | long n => trivial

/-- Samples whose series are all different are written as different ones. -/
theorem distinct_of_series {samples : List Sample} {l : List Series} {bound : Double → Bytes}
    (h : List.Forall₂ (fun s r => Alike (s.series bound) r) samples l) (hdistinct : l.Pairwise fun r r' => ¬ Same r r') :
    (samples.map (Sample.series bound)).Pairwise fun r r' => ¬ Same r r' := by
  induction h with
  | nil => exact List.Pairwise.nil
  | cons hs hrest ih =>
    rw [List.pairwise_cons] at hdistinct
    rw [List.map_cons, List.pairwise_cons]
    refine ⟨fun r' hr' hsame => ?_, ih hdistinct.2⟩
    obtain ⟨s', hs', rfl⟩ := List.mem_map.mp hr'
    obtain ⟨r', hr', halike⟩ := exists_of_forall₂ hrest.flip hs'
    refine hdistinct.1 r' hr' ⟨hs.name.symm.trans (hsame.1.trans halike.name), ?_⟩
    exact hs.labels.symm.trans (hsame.2.trans halike.labels)

theorem legible_of_lossless {m : Metrics} (h : Lossless m) : Legible m := by
  obtain ⟨lp, hlp, hexact⟩ := h.prometheus
  obtain ⟨lj, hlj, hexact'⟩ := h.json
  have hkept := kept_of_series hlp hexact.read
  have hsamples : List.Forall₂ Sample.Kept (registered m) (m.flatMap fun f => f.2.cells.series f.1) :=
    forall₂_flatMap fun f hf => (hkept f hf).series.imp fun _ _ hs => ⟨hs.1, hs.2.1, hs.2.2⟩
  have hlines : lp = m.flatMap fun f => f.2.cells.series f.1 := by
    have hseries := (Exposition.Gives.flatMap fun f hf => gives_family (hkept f hf).comments fun r hr => by
      obtain ⟨s, -, hs⟩ := exists_of_forall₂ (hkept f hf).series hr
      exact hs.2.2).series
    exact Option.some.inj (hlp.symm.trans hseries)
  rw [toJson_eq] at hlj
  have hfenced : ∀ r ∈ (registered m).map (Sample.series shown), Fenced r := by
    intro r hr
    obtain ⟨s, hs, rfl⟩ := List.mem_map.mp hr
    obtain ⟨r, -, hkept⟩ := exists_of_forall₂ hsamples.flip hs
    exact Sample.Kept.fenced hkept
  obtain ⟨hplain, hutf8⟩ := plain_of_jsonSeries hfenced hlj
  have hlabels : ∀ r ∈ (registered m).map (Sample.series shown), ∀ p ∈ r.labels, validUtf8 p.2 = true :=
    fun r hr p hp => JsonReader.validUtf8_quoted hutf8 (infix_registryText hr hp)
  have hjson : lj = (registered m).map (Sample.series shown) := by
    refine Option.some.inj (hlj.symm.trans (jsonSeries_registryText hplain fun r hr => ?_))
    obtain ⟨s, hs, rfl⟩ := List.mem_map.mp hr
    obtain ⟨r', -, hs'⟩ := exists_of_forall₂ hsamples.flip hs
    have hgrammatical := Sample.Kept.grammatical hs'
    refine validUtf8_seriesText (validUtf8_of_ordinary (ordinary_of_named hgrammatical.name)) (fun p hp => ⟨?_, hlabels _ hr p hp⟩)
      (validUtf8_of_ordinary fun b hb => ordinary_of_plainByte b (plain_written _ b hb))
    obtain ⟨q, hq, rfl⟩ := List.mem_map.mp hp
    exact validUtf8_of_ordinary (ordinary_of_label (hgrammatical.labels q hq))
  have hreads : ∀ s ∈ registered m, ReadsAs s (s.series shown) := by
    have hread := hexact'.read
    rw [hjson, List.forall₂_map_right_iff] at hread
    exact List.forall₂_same.mp hread
  refine ⟨fun f hf => (hkept f hf).comments, fun s hs => ?_, fun bound hbound => ?_⟩
  · obtain ⟨r, -, hs'⟩ := exists_of_forall₂ hsamples.flip hs
    exact Sample.Kept.legible hs' (hplain _ (List.mem_map_of_mem hs)) (hreads s hs) (hlabels _ (List.mem_map_of_mem hs))
  · simp only [List.mem_cons, List.not_mem_nil, or_false] at hbound
    rcases hbound with rfl | rfl
    · exact hjson ▸ hexact'.distinct
    · exact distinct_of_series (hsamples.imp fun _ _ hs => hs.alike) (hlines ▸ hexact.distinct)

/-- The exact condition on a registry for both of its texts to lose nothing. -/
theorem lossless_iff_legible (m : Metrics) : Lossless m ↔ Legible m :=
  ⟨legible_of_lossless, fun h => ⟨json_of_legible h, prometheus_of_legible h⟩⟩

end Drawer.Obs
