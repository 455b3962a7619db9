import Drawer.Sanity.JournalLine

/-! A record of the journal is read as it was written, at every time and under every name of the
host: what stands behind the last member that is read is not looked at. -/

namespace Drawer.Journal
open Text

theorem twoDigits_bare (n : ℕ) : 34 ∉ twoDigits n := by
  unfold twoDigits
  split_ifs
  · exact fun h => (List.mem_append.mp h).elim (by decide) (notMem_decimal (by decide) _)
  · exact notMem_decimal (by decide) _

theorem strftime_bare (tm : Tm) : 34 ∉ strftime tm := by
  have hyear : 34 ∉ decimal tm.year := notMem_decimal (by decide) _
  have hdash : 34 ∉ ascii "-" := by decide
  have ht : 34 ∉ ascii "T" := by decide
  have hcolon : 34 ∉ ascii ":" := by decide
  have hz : 34 ∉ ascii "Z" := by decide
  simp only [strftime, List.mem_append, hyear, hdash, ht, hcolon, hz, twoDigits_bare, or_self, not_false_eq_true]

theorem parseLine_toJson (tm : Tm) (host : Bytes) (t : Txn) (h : Writable t) (out : Txn) :
    parseLine (toJson (strftime tm) host t) out = .ok t :=
  (holds_toJson host (strftime_bare tm) h).parseLine out

/-- The least and the greatest `int`, and a host whose name looks like members of the line. -/
theorem parseLine_toJson_extreme :
    parseLine (toJson (strftime ⟨2024, 5, 1, 12, 0, 0⟩) (ascii "till\",\"id\":\"x\",\"price\":7")
      { id := ascii "txn,1:", price := -2147483648, deposit := 2147483647, phase := ascii "DONE" }) {} =
      .ok { id := ascii "txn,1:", price := -2147483648, deposit := 2147483647, phase := ascii "DONE" } := by
  refine parseLine_toJson ⟨2024, 5, 1, 12, 0, 0⟩ (ascii "till\",\"id\":\"x\",\"price\":7")
    { id := ascii "txn,1:", price := -2147483648, deposit := 2147483647, phase := ascii "DONE" } ⟨?_, ?_⟩ {}
  · unfold Bare
    decide
  · unfold IsInt
    decide

end Drawer.Journal
