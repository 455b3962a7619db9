import Drawer.Lib.Census
import Drawer.Lib.Exposition
import Drawer.Lib.JsonReader
import Drawer.Lib.Lexical
import Drawer.Lib.Rounding
import Drawer.Lib.Transition

/-! The metrics registry and its two texts, `to_prometheus` and `to_json`. A family holds
metrics of its own type, and a histogram has a count for each bucket of its family and one
more: what the code does to a registry that is otherwise is not defined. An observation is
made of atomic steps, and those of several threads come in any order. -/

namespace Drawer.Obs
open Text Decimal

/-- `std::map<std::string, std::string>`, in its order. -/
abbrev Labels := List (Bytes × Bytes)

/-- `labels[key] = value`. -/
def assign (key value : Bytes) : Labels → Labels
  | [] => [(key, value)]
  | p :: l =>
    if Text.less key p.1 then (key, value) :: p :: l
    else if p.1 = key then (key, value) :: l
    else p :: assign key value l

/-- A histogram with `n` buckets. The counts are cumulative, and the last is that of all values. -/
structure Histogram (n : ℕ) where
  counts : List Int
  sum : Double
  count : Int
  counted : counts.length = n + 1

/-- The metrics of a family, by its type. -/
inductive Cells where
  | counter (metrics : List (Labels × Double))
  | gauge (metrics : List (Labels × Double))
  | histogram (buckets : List Double) (metrics : List (Labels × Histogram buckets.length))

structure MetricFamily where
  help : Bytes
  cells : Cells

/-- `fams_`: the families by their names. -/
abbrev Metrics := List (Bytes × MetricFamily)

/-! ### The texts -/

/-- A loop with a flag `first`, which writes a comma before each item but the first. -/
def separated {α : Type} (item : α → Bytes) : Bool → List α → Bytes
  | _, [] => []
  | first, a :: l => (if first then [] else [44]) ++ item a ++ separated item false l

def fmtLabels (labels : Labels) : Bytes :=
  if labels = [] then []
  else [123] ++ separated (fun p => p.1 ++ ascii "=\"" ++ p.2 ++ ascii "\"") true labels ++ [125]

/-- `os << name << fmt_labels(labels) << ' ' << value << "\n"`. -/
def lineOf (name : Bytes) (labels : Labels) (value : Bytes) : Bytes := name ++ fmtLabels labels ++ [32] ++ value ++ [10]

def Cells.typeName : Cells → Bytes
  | .counter _ => ascii "counter"
  | .gauge _ => ascii "gauge"
  | .histogram _ _ => ascii "histogram"

def Cells.lines (name : Bytes) : Cells → Bytes
  | .counter metrics => metrics.flatMap fun m => lineOf name m.1 (shown m.2)
  | .gauge metrics => metrics.flatMap fun m => lineOf name m.1 (shown m.2)
  | .histogram buckets metrics => metrics.flatMap fun m =>
    ((buckets.zip m.2.counts).flatMap fun p =>
        lineOf (name ++ ascii "_bucket") (assign (ascii "le") (toText p.1) m.1) (decimal p.2)) ++
      lineOf (name ++ ascii "_bucket") (assign (ascii "le") (ascii "+Inf") m.1) (decimal (m.2.counts.getLastD 0)) ++
      lineOf (name ++ ascii "_sum") m.1 (shown m.2.sum) ++ lineOf (name ++ ascii "_count") m.1 (decimal m.2.count)

def MetricFamily.lines (name : Bytes) (fam : MetricFamily) : Bytes :=
  ascii "# HELP " ++ name ++ [32] ++ fam.help ++ [10] ++ (ascii "# TYPE " ++ name ++ [32] ++ fam.cells.typeName ++ [10]) ++
    fam.cells.lines name

def toPrometheus (m : Metrics) : Bytes := m.flatMap fun f => f.2.lines f.1

/-- The loop over the labels in `to_json`. -/
def labelLoop (labels : Labels) : Bytes :=
  separated (fun p => ascii "\"" ++ p.1 ++ ascii "\":\"" ++ p.2 ++ ascii "\"") true labels

/-- The labels of a bucket: its own after those of the metric. -/
def bucketLabels (labels : Labels) (le : Bytes) : Bytes :=
  labelLoop labels ++ (if labels = [] then [] else [44]) ++ ascii "\"le\":\"" ++ le ++ ascii "\""

def metricText (name labels value : Bytes) : Bytes :=
  ascii "\x7b\"name\":\"" ++ name ++ ascii "\",\"labels\":\x7b" ++ labels ++ ascii "\x7d,\"value\":" ++ value ++ ascii "\x7d"

/-- What `to_json` writes for the metrics of a family, the commas apart. -/
def Cells.texts (name : Bytes) : Cells → List Bytes
  | .counter metrics => metrics.map fun m => metricText name (labelLoop m.1) (shown m.2)
  | .gauge metrics => metrics.map fun m => metricText name (labelLoop m.1) (shown m.2)
  | .histogram buckets metrics => metrics.flatMap fun m =>
    ((buckets.zip m.2.counts).map fun p =>
        metricText (name ++ ascii "_bucket") (bucketLabels m.1 (shown p.1)) (decimal p.2)) ++
      [metricText (name ++ ascii "_bucket") (bucketLabels m.1 (ascii "+Inf")) (decimal (m.2.counts.getLastD 0)),
        metricText (name ++ ascii "_sum") (labelLoop m.1) (shown m.2.sum),
        metricText (name ++ ascii "_count") (labelLoop m.1) (decimal m.2.count)]

def toJson (m : Metrics) : Bytes :=
  ascii "\x7b\"metrics\":[" ++ separated id true (m.flatMap fun f => f.2.cells.texts f.1) ++ ascii "]\x7d"

/-! ### What is registered -/

/-- The value of a label: a text, or the bound of a bucket. -/
inductive LabelValue where
  | text (s : Bytes)
  | bound (v : Double)

inductive Value where
  | double (v : Double)
  | long (n : Int)

structure Sample where
  name : Bytes
  labels : List (Bytes × LabelValue)
  value : Value

def plainLabels (labels : Labels) : List (Bytes × LabelValue) := labels.map fun p => (p.1, .text p.2)

/-- The samples of a family: one for a counter or a gauge, and for a histogram one for each bucket, one for all
values, their sum and their count. -/
def Cells.samples (name : Bytes) : Cells → List Sample
  | .counter metrics => metrics.map fun m => ⟨name, plainLabels m.1, .double m.2⟩
  | .gauge metrics => metrics.map fun m => ⟨name, plainLabels m.1, .double m.2⟩
  | .histogram buckets metrics => metrics.flatMap fun m =>
    ((buckets.zip m.2.counts).map fun p =>
        ⟨name ++ ascii "_bucket", plainLabels m.1 ++ [(ascii "le", .bound p.1)], .long p.2⟩) ++
      [⟨name ++ ascii "_bucket", plainLabels m.1 ++ [(ascii "le", .text (ascii "+Inf"))], .long (m.2.counts.getLastD 0)⟩,
        ⟨name ++ ascii "_sum", plainLabels m.1, .double m.2.sum⟩,
        ⟨name ++ ascii "_count", plainLabels m.1, .long m.2.count⟩]

def registered (m : Metrics) : List Sample := m.flatMap fun f => f.2.cells.samples f.1

/-! ### What is read back -/

open Exposition (Series)
open JsonReader (Doc)

def jsonLabel : Bytes × Doc → Option (Bytes × Bytes)
  | (key, .str s) => some (key, s)
  | _ => none

def jsonSample (d : Doc) : Option Series :=
  match d.member (ascii "name"), d.member (ascii "labels"), d.member (ascii "value") with
  | some (.str name), some (.obj labels), some (.num value) => (labels.mapM jsonLabel).map fun labels => ⟨name, labels, value⟩
  | _, _, _ => none

/-- The series of a JSON text. -/
def jsonSeries (t : Bytes) : Option (List Series) :=
  match (JsonReader.read t).bind (Doc.member (ascii "metrics")) with
  | some (.arr l) => l.mapM jsonSample
  | _ => none

def LabelValue.Reads : LabelValue → Bytes → Prop
  | .text s, t => t = s
  | .bound v, t => readDouble t = some v

def Value.Reads : Value → Bytes → Prop
  | .double v, t => readDouble t = some v
  | .long n, t => readNumber t = some (n : ℚ)

/-- A series has the name, the labels, in any order, and the value of a sample. -/
structure ReadsAs (s : Sample) (r : Series) : Prop where
  name : r.name = s.name
  labels : ∃ l, r.labels.Perm l ∧ List.Forall₂ (fun p q => p.1 = q.1 ∧ q.2.Reads p.2) l s.labels
  value : s.value.Reads r.value

def Same (r r' : Series) : Prop := r.name = r'.name ∧ r.labels.Perm r'.labels

instance (r r' : Series) : Decidable (Same r r') := inferInstanceAs (Decidable (_ ∧ _))

/-- The series are the samples, and no two of them are the same. -/
structure Exact (samples : List Sample) (l : List Series) : Prop where
  read : List.Forall₂ ReadsAs samples l
  distinct : l.Pairwise fun r r' => ¬ Same r r'

/-- Both texts are read, and what is read is what was registered. -/
structure Lossless (m : Metrics) : Prop where
  json : ∃ l, jsonSeries (toJson m) = some l ∧ Exact (registered m) l
  prometheus : ∃ l, Exposition.series (toPrometheus m) = some l ∧ Exact (registered m) l

/-! ### Registries that can be read back -/

/-- A text between quotes is that text: no quote, no backslash and no control character is in it. -/
def LabelValue.Legible : LabelValue → Prop
  | .text s => (∀ b ∈ s, 32 ≤ b ∧ b ≠ 34 ∧ b ≠ 92) ∧ validUtf8 s = true
  | .bound v => readDouble (shown v) = some v ∧ readDouble (toText v) = some v

instance : DecidablePred LabelValue.Legible
  | .text s => decidable_of_iff (JsonReader.Unescaped s ∧ validUtf8 s = true) Iff.rfl
  | .bound _ => inferInstanceAs (Decidable (_ ∧ _))

/-- A value is a number, and six digits are enough for it. -/
def Value.Legible : Value → Prop
  | .double v => jsonNumber (shown v) = true ∧ readDouble (shown v) = some v
  | .long _ => True

instance : DecidablePred Value.Legible
  | .double _ => inferInstanceAs (Decidable (_ ∧ _))
  | .long _ => inferInstanceAs (Decidable True)

def LabelValue.written (bound : Double → Bytes) : LabelValue → Bytes
  | .text s => s
  | .bound v => bound v

def Value.written : Value → Bytes
  | .double v => shown v
  | .long n => decimal n

/-- The series of a sample, for a way to write bounds. -/
def Sample.series (bound : Double → Bytes) (s : Sample) : Series :=
  ⟨s.name, s.labels.map fun p => (p.1, p.2.written bound), s.value.written⟩

/-- The names are those of the grammar, no label is named twice, and the texts and values can be read back. -/
structure Sample.Legible (s : Sample) : Prop where
  name : Exposition.Named Exposition.nameStart s.name
  labels : ∀ p ∈ s.labels, Exposition.Named Exposition.letter p.1 ∧ p.2.Legible
  own : (s.labels.map Prod.fst).Nodup
  value : s.value.Legible

instance (s : Sample) : Decidable s.Legible :=
  decidable_of_iff (_ ∧ _ ∧ _ ∧ _) ⟨fun h => ⟨h.1, h.2.1, h.2.2.1, h.2.2.2⟩, fun h => ⟨h.name, h.labels, h.own, h.value⟩⟩

/-- The comments go on with nothing but comments, and no two samples are written as the same. -/
structure Legible (m : Metrics) : Prop where
  comments : ∀ f ∈ m, ∀ t ∈ [f.2.help, f.2.cells.typeName], ∀ l ∈ (lines 10 (f.1 ++ [32] ++ t ++ [10])).tail,
    Exposition.line l = some none
  samples : ∀ s ∈ registered m, s.Legible
  distinct : ∀ bound ∈ [shown, toText], ((registered m).map (Sample.series bound)).Pairwise fun r r' => ¬ Same r r'

/-! ### Observations of a histogram -/

/-- A new histogram. -/
def Histogram.make (n : ℕ) : Histogram n where
  counts := List.replicate (n + 1) 0
  sum := .finite false 0
  count := 0
  counted := List.length_replicate

/-- `counts_[j].fetch_add(1)`. -/
def Histogram.raise {n : ℕ} (h : Histogram n) (j : ℕ) : Histogram n :=
  { h with counts := h.counts.modify j (· + 1), counted := by rw [List.length_modify, h.counted] }

/-- Where a call of `observe` stands. -/
inductive ObservePc where
  | start
  /-- The sum is exchanged. -/
  | summed
  /-- The counts from the value's own up to that of `j` are raised. -/
  | raising (j : ℕ)
  | done
  deriving DecidableEq

/-- A histogram, and the calls `ι` of `observe` on it. -/
structure Observing (ι : Type) (n : ℕ) where
  histogram : Histogram n := .make n
  pc : ι → ObservePc := fun _ => .start

variable {ι : Type} [DecidableEq ι]

/-- One step of the call `i`, which observes `value i`. A `compare_exchange` that fails changes nothing. -/
def Observing.advance (bounds : List Double) (value : ι → Double) (s : Observing ι bounds.length) (i : ι) :
    Observing ι bounds.length :=
  match s.pc i with
  | .start =>
    { histogram := { s.histogram with sum := s.histogram.sum.add (value i) }, pc := Function.update s.pc i .summed }
  | .summed =>
    { histogram := { s.histogram with count := s.histogram.count + 1 }
      pc := Function.update s.pc i (.raising (Census.slot Double.le bounds (value i))) }
  | .raising j =>
    if j < s.histogram.counts.length then
      { histogram := s.histogram.raise j, pc := Function.update s.pc i (.raising (j + 1)) }
    else { s with pc := Function.update s.pc i .done }
  | .done => s

end Drawer.Obs
