import Drawer.Spec.Metrics

/-! What the counts of a histogram say. While observations are under way, each count holds what the
calls have added to it so far; when all are over, it holds the number of values in its bucket and
those below, in whatever order the steps came. -/

namespace Drawer.Obs
open Decimal Transition

variable {ι : Type} [Fintype ι] {bounds : List Double} {value : ι → Double}

/-- What a call adds to the number of observations. -/
def ObservePc.adds : ObservePc → ℤ
  | .start | .summed => 0
  | .raising _ | .done => 1

/-- What a call that begins with the count of `i` adds to that of `j`. -/
def ObservePc.raises (i j : ℕ) : ObservePc → ℤ
  | .start | .summed => 0
  | .raising k => if i ≤ j ∧ j < k then 1 else 0
  | .done => if i ≤ j then 1 else 0

/-- The bucket of a value. -/
abbrev bucketOf (bounds : List Double) (v : Double) : ℕ := Census.slot Double.le bounds v

structure Tallied (value : ι → Double) (s : Observing ι bounds.length) : Prop where
  count : s.histogram.count = ∑ i, (s.pc i).adds
  counts : ∀ j, ∀ hj : j < s.histogram.counts.length,
    s.histogram.counts[j] = ∑ i, (s.pc i).raises (bucketOf bounds (value i)) j
  within : ∀ i k, s.pc i = .raising k → bucketOf bounds (value i) ≤ k ∧ k ≤ bounds.length + 1

theorem tallied_init (value : ι → Double) : Tallied value ({} : Observing ι bounds.length) where
  count := by simp [Histogram.make, ObservePc.adds]
  counts j hj := by simp [Histogram.make, ObservePc.raises]
  within i k hk := by cases hk

/-- A step keeps the tally if it adds to the counters what it adds for its call. -/
theorem Tallied.update [DecidableEq ι] {s : Observing ι bounds.length} (h : Tallied value s) (i : ι)
    {histogram : Histogram bounds.length}
    {pc : ObservePc} (hcount : histogram.count = s.histogram.count + (pc.adds - (s.pc i).adds))
    (hcounts : ∀ j, ∀ hj : j < histogram.counts.length, ∀ hj' : j < s.histogram.counts.length,
      histogram.counts[j] =
        s.histogram.counts[j] + (pc.raises (bucketOf bounds (value i)) j - (s.pc i).raises (bucketOf bounds (value i)) j))
    (hwithin : ∀ k, pc = .raising k → bucketOf bounds (value i) ≤ k ∧ k ≤ bounds.length + 1) :
    Tallied value { histogram, pc := Function.update s.pc i pc } where
  count := by
    rw [hcount, h.count]
    exact (Census.sum_update (fun _ p => ObservePc.adds p) s.pc i pc).symm
  counts j hj := by
    have hj' : j < s.histogram.counts.length := by rw [s.histogram.counted, ← histogram.counted]; exact hj
    rw [hcounts j hj hj', h.counts j hj']
    exact (Census.sum_update (fun k p => ObservePc.raises (bucketOf bounds (value k)) j p) s.pc i pc).symm
  within k l hk := by
    dsimp only at hk
    by_cases hki : k = i
    · subst hki
      rw [Function.update_self] at hk
      exact hwithin l hk
    · rw [Function.update_of_ne hki] at hk
      exact h.within k l hk

theorem Tallied.advance [DecidableEq ι] {s : Observing ι bounds.length} (h : Tallied value s) (i : ι) :
    Tallied value (s.advance bounds value i) := by
  unfold Observing.advance
  cases hpc : s.pc i with
  | start =>
    refine h.update i (by simp [hpc, ObservePc.adds]) (fun j hj hj' => ?_) fun k hk => by cases hk
    simp [hpc, ObservePc.raises]
  | summed =>
    refine h.update i (by simp [hpc, ObservePc.adds]) (fun j hj hj' => ?_) fun k hk => ?_
    · have hnone : ¬ (bucketOf bounds (value i) ≤ j ∧ j < bucketOf bounds (value i)) := fun hboth => absurd hboth.2 (not_lt.mpr hboth.1)
      simp [hpc, ObservePc.raises, hnone]
    · obtain rfl := ObservePc.raising.inj hk
      exact ⟨le_rfl, (Census.slot_le_length _ _ _).trans (Nat.le_succ _)⟩
  | raising k =>
    obtain ⟨hfrom, hto⟩ := h.within i k hpc
    dsimp only
    split_ifs with hk
    · refine h.update i (by simp [hpc, ObservePc.adds, Histogram.raise]) (fun j hj hj' => ?_) fun l hl => ?_
      · simp only [Histogram.raise, List.getElem_modify, hpc, ObservePc.raises]
        split_ifs <;> omega
      · obtain rfl := ObservePc.raising.inj hl
        rw [s.histogram.counted] at hk
        omega
    · refine h.update i (by simp [hpc, ObservePc.adds]) (fun j hj hj' => ?_) fun l hl => by cases hl
      have hend : j < k := hj'.trans_le (not_lt.mp hk)
      simp [hpc, ObservePc.raises, hend]
  | done => exact h

theorem tallied_run [DecidableEq ι] {steps : List ι} {s : Observing ι bounds.length}
    (h : Run (ofFun (Observing.advance bounds value)) {} steps s) : Tallied value s :=
  h.invariant (tallied_init value) fun s i s' hs hstep => by
    rw [← hstep]
    exact hs.advance i

def upTo (bounds : List Double) (value : ι → Double) (j : ℕ) : Finset ι :=
  Finset.univ.filter fun i => bucketOf bounds (value i) ≤ j

theorem raises_le (i j : ℕ) (pc : ObservePc) : pc.raises i j ≤ if i ≤ j then 1 else 0 := by
  have hnonneg : (0 : ℤ) ≤ if i ≤ j then 1 else 0 := by split_ifs <;> decide
  cases pc with
  | start | summed => exact hnonneg
  | raising k =>
    change (if i ≤ j ∧ j < k then (1 : ℤ) else 0) ≤ _
    split_ifs <;> omega
  | done => exact le_rfl

/-- At any moment a count is at most the number of values in its bucket and those before it, and when the observations
are over it is that number. -/
theorem counts_run [DecidableEq ι] {steps : List ι} {s : Observing ι bounds.length}
    (h : Run (ofFun (Observing.advance bounds value)) {} steps s) (j : ℕ) (hj : j < s.histogram.counts.length) :
    s.histogram.counts[j] ≤ (upTo bounds value j).card ∧
      ((∀ i, s.pc i = .done) → s.histogram.counts[j] = (upTo bounds value j).card) := by
  rw [(tallied_run h).counts j hj, upTo, ← Census.sum_ite]
  refine ⟨Finset.sum_le_sum fun i _ => raises_le _ _ _, fun hdone => Finset.sum_congr rfl fun i _ => ?_⟩
  rw [hdone i]
  rfl

/-- With its bounds in order, a histogram is exact: once all observations are over, whatever order their steps came in,
the count of a bound is the number of values that do not exceed it, and the last count and `count` are that of all. -/
theorem observed_exact [DecidableEq ι] {bounds : List Double}
    (hsorted : bounds.Pairwise fun b b' => b.le b' = true) {value : ι → Double}
    {steps : List ι} {s : Observing ι bounds.length} (h : Run (ofFun (Observing.advance bounds value)) {} steps s)
    (hdone : ∀ i, s.pc i = .done) :
    s.histogram.count = Fintype.card ι ∧ s.histogram.counts.getLast? = some (Fintype.card ι : ℤ) ∧
      ∀ j, ∀ hj : j < bounds.length,
        s.histogram.counts[j]? = some ((Finset.univ.filter fun i => (value i).le bounds[j] = true).card : ℤ) := by
  have hlength := s.histogram.counted
  refine ⟨?_, ?_, fun j hj => ?_⟩
  · rw [(tallied_run h).count]
    simp [hdone, ObservePc.adds]
  · have hall : upTo bounds value bounds.length = Finset.univ :=
      Finset.filter_true_of_mem fun i _ => Census.slot_le_length _ _ _
    have hlast := (counts_run h bounds.length (by omega)).2 hdone
    rw [List.getLast?_eq_getElem?, hlength, Nat.add_sub_cancel, List.getElem?_eq_getElem (by omega), hlast, hall, Finset.card_univ]
  · have hcount := (counts_run h j (by omega)).2 hdone
    rw [List.getElem?_eq_getElem (by omega), hcount, upTo]
    congr 3
    ext i
    simp only [Finset.mem_filter, Finset.mem_univ, true_and]
    exact Census.slot_le_iff_of_sorted Double.le Double.le (fun _ _ _ => Double.le_trans) hsorted hj

/-- Two calls, of 60 and of a nan, whose steps come in turns. -/
def sampleSteps : List Bool := [false, true, true, false, true, false, false, false, true]

def sampleBounds : List Double := [.finite false 50, .finite false 100]

def sampleValue : Bool → Double
  | false => .finite false 60
  | true => .nan

/-- What the calls of the sample lead to. -/
def sampleObserved : Observing Bool sampleBounds.length :=
  sampleSteps.foldl (Observing.advance sampleBounds sampleValue) {}

theorem observed_exact_sample : sampleObserved.histogram.count = 2 ∧ sampleObserved.histogram.counts.getLast? = some 2 ∧
    sampleObserved.histogram.counts[0]? = some 0 ∧ sampleObserved.histogram.counts[1]? = some 1 := by
  have hexact := observed_exact (s := sampleObserved) (by decide +kernel)
    (run_foldl (Observing.advance sampleBounds sampleValue) {} sampleSteps)
    (by decide +kernel)
  exact ⟨hexact.1, hexact.2.1, (hexact.2.2 0 (by decide)).trans (by decide +kernel),
    (hexact.2.2 1 (by decide)).trans (by decide +kernel)⟩

end Drawer.Obs
