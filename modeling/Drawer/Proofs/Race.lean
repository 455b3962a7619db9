import Drawer.Lib.Transition
import Drawer.Sanity.Router

/-! Concurrent calls with one idempotency key. The check and the busy flag are
separate steps: a call that passed its check before another one finished takes
the flag afterwards and buys again. Where a call takes the flag only while its
key is still new, every key is bought at most once. -/

namespace Drawer.Pos.Router
open Text Journal Transition IdempotencyStore

variable {ι : Type} [DecidableEq ι]

/-- The call holds the busy flag. -/
def Inside : Pc → Prop
  | .acquired | .pended | .ran _ => True
  | _ => False

/-- The call holds the busy flag and has not bought yet. -/
def Buying (p : Pc) : Prop := p = .acquired ∨ p = .pended

theorem Buying.inside {p : Pc} (h : Buying p) : Inside p := by
  rcases h with rfl | rfl <;> trivial

structure Inv (calls : ι → Call) (s : Sys ι) : Prop where
  excl : ∀ i j, Inside (s.pc i) → Inside (s.pc j) → i = j
  busy : ∀ i, Inside (s.pc i) → s.shared.busy = true
  once : ∀ key, runsFor calls key s ≤ 1
  held : ∀ key, 0 < runsFor calls key s → s.shared.store.Held key
  unbought : ∀ i, Buying (s.pc i) → runsFor calls (calls i).key s = 0
  pended : ∀ i, s.pc i = .pended → s.shared.store.Held (calls i).key

omit [DecidableEq ι] in
theorem inv_init (calls : ι → Call) (sh : Shared) : Inv calls ({ shared := sh } : Sys ι) where
  excl _ _ h := h.elim
  busy _ h := h.elim
  once _ := Nat.zero_le _
  held _ h := absurd h (lt_irrefl _)
  unbought i h := h.inside.elim
  pended i h := by cases h

/-- A step of `i` to `p` that buys nothing keeps the invariant if it forgets no key, leaves the
flag set for whoever holds it, and buys or enters only where that is allowed. -/
theorem Inv.update {calls : ι → Call} {s : Sys ι} (h : Inv calls s) (i : ι) (p : Pc) (sh : Shared)
    (hheld : ∀ key, s.shared.store.Held key → sh.store.Held key)
    (hothers : ∀ j, j ≠ i → Inside (s.pc j) → ¬ Inside p ∧ sh.busy = true)
    (hbusy : Inside p → sh.busy = true)
    (hnew : Buying p → runsFor calls (calls i).key s = 0)
    (hpend : p = .pended → sh.store.Held (calls i).key) :
    Inv calls { shared := sh, pc := Function.update s.pc i p, runs := s.runs } where
  excl j k hj hk := by
    rcases update_cases (P := Inside) hj with ⟨hji, hp⟩ | ⟨hji, hj'⟩ <;>
      rcases update_cases (P := Inside) hk with ⟨hki, hp'⟩ | ⟨hki, hk'⟩
    · exact hji.trans hki.symm
    · exact absurd hp (hothers k hki hk').1
    · exact absurd hp' (hothers j hji hj').1
    · exact h.excl j k hj' hk'
  busy j hj := by
    rcases update_cases (P := Inside) hj with ⟨rfl, hp⟩ | ⟨hji, hj⟩
    · exact hbusy hp
    · exact (hothers j hji hj).2
  once := h.once
  held key hk := hheld key (h.held key hk)
  unbought j hj := by
    rcases update_cases (P := Buying) hj with ⟨rfl, hp⟩ | ⟨hji, hj⟩
    · exact hnew hp
    · exact h.unbought j hj
  pended j hj := by
    rcases update_cases (P := (· = Pc.pended)) hj with ⟨rfl, hp⟩ | ⟨hji, hj⟩
    · exact hpend hp
    · exact hheld _ (h.pended j hj)

theorem Inv.outside {calls : ι → Call} {s : Sys ι} (h : Inv calls s) (i : ι) {p : Pc} (hp : ¬ Inside p)
    {sh : Shared} (hheld : ∀ key, s.shared.store.Held key → sh.store.Held key)
    (hb : sh.busy = s.shared.busy) :
    Inv calls { shared := sh, pc := Function.update s.pc i p, runs := s.runs } := by
  refine h.update i p sh hheld (fun j _ hj => ⟨hp, hb.trans (h.busy j hj)⟩) (fun hi => absurd hi hp)
    (fun hb => absurd hb.inside hp) fun hpp => ?_
  subst hpp
  exact absurd trivial hp

/-- The purchase itself: the only holder of the flag buys for a key that was never bought. -/
theorem Inv.buy {calls : ι → Call} {s : Sys ι} (h : Inv calls s) (i : ι) (hi : s.pc i = .pended) {p : Pc}
    (hp : ¬ Buying p) : Inv calls { shared := s.shared, pc := Function.update s.pc i p, runs := s.runs ++ [i] } := by
  have hin : Inside (s.pc i) := by rw [hi]; trivial
  have h0 : runsFor calls (calls i).key s = 0 := h.unbought i (Or.inr hi)
  have hcount : ∀ key sh pc, runsFor calls key ⟨sh, pc, s.runs ++ [i]⟩ =
      runsFor calls key s + if (calls i).key = key then 1 else 0 := by
    intro key sh pc
    simp [runsFor, List.countP_append, List.countP_cons]
  have hout : ∀ j, j ≠ i → ¬ Inside (s.pc j) := fun j hj hh => hj (h.excl j i hh hin)
  have hself : ∀ j, Inside (Function.update s.pc i p j) → j = i := by
    intro j hj
    rcases update_cases (P := Inside) hj with ⟨rfl, -⟩ | ⟨hji, hj⟩
    · rfl
    · exact absurd hj (hout j hji)
  refine ⟨fun j k hj hk => (hself j hj).trans (hself k hk).symm, fun _ _ => h.busy i hin, ?_, ?_, ?_, ?_⟩
  · intro key
    rw [hcount]
    split_ifs with hk
    · rw [← hk, h0]
    · exact h.once key
  · intro key hk
    rw [hcount] at hk
    split_ifs at hk with he
    · rw [← he]
      exact h.pended i hi
    · exact h.held key (by omega)
  · intro j hj
    rcases update_cases (P := Buying) hj with ⟨rfl, hb⟩ | ⟨hji, hb⟩
    · exact absurd hb hp
    · exact absurd hb.inside (hout j hji)
  · intro j hj
    rcases update_cases (P := Buying) (Or.inr hj) with ⟨rfl, hb⟩ | ⟨hji, hb⟩
    · exact absurd hb hp
    · exact absurd hb.inside (hout j hji)

theorem inv_advance {calls : ι → Call} {s : Sys ι} (h : Inv calls s) (i : ι) (hg : StillNew calls s i) :
    Inv calls (advance calls s i) := by
  unfold advance
  cases hpc : s.pc i with
  | start =>
    dsimp only [step]
    split
    all_goals exact h.outside i (by simp [Inside]) (fun _ hk => hk) rfl
  | passed =>
    dsimp only [step]
    by_cases hb : s.shared.busy = true
    · rw [if_pos hb]
      exact h.outside i (by simp [Inside]) (fun _ hk => hk) rfl
    · rw [if_neg hb]
      have hb' : s.shared.busy = false := by simpa using hb
      refine h.update i .acquired _ (fun _ hk => hk) (fun j _ hj => absurd (h.busy j hj) hb) (fun _ => rfl)
        (fun _ => ?_) (by simp)
      -- the key is still new, so it was never bought
      by_contra hne
      exact (h.held _ (Nat.pos_of_ne_zero hne)).check_ne_new _ (hg hpc hb')
  | acquired =>
    have hin : Inside (s.pc i) := by rw [hpc]; trivial
    dsimp only [step]
    have hheld := fun key (hk : s.shared.store.Held key) =>
      hk.putPending (calls i).key (calls i).hash (calls i).pendingAt
    have hnew := held_putPending s.shared.store (calls i).key (calls i).hash (calls i).pendingAt
    split
    · rename_i store hput
      rw [hput] at hheld hnew
      refine h.update i .pended _ hheld (fun j hj hh => absurd (h.excl j i hh hin) hj) (fun _ => h.busy i hin)
        (fun _ => h.unbought i (Or.inl hpc)) fun _ => hnew
    · rename_i store e hput
      rw [hput] at hheld
      exact h.outside i (by simp [Inside]) hheld rfl
  | pended =>
    dsimp only [step]
    split
    all_goals exact h.buy i hpc (by simp [Buying])
  | ran t =>
    have hin : Inside (s.pc i) := by rw [hpc]; trivial
    dsimp only [step]
    refine h.update i _ _ (fun _ hk => hk) (fun j hj hh => absurd (h.excl j i hh hin) hj) (by simp [Inside])
      (by simp [Buying]) (by simp)
  | cleared t =>
    dsimp only [step]
    have : afterPublish t (calls i).publisher = .published t := by cases (calls i).publisher <;> rfl
    rw [this]
    exact h.outside i (by simp [Inside]) (fun _ hk => hk) rfl
  | published t =>
    dsimp only [step]
    have hheld := fun key (hk : s.shared.store.Held key) =>
      hk.putDone (calls i).key (calls i).hash (successJson t) (calls i).doneAt
    split
    all_goals
      rename_i hput
      rw [hput] at hheld
      exact h.outside i (by simp [Inside]) hheld rfl
  | replied status body => exact h.outside i (by simp [step, Inside]) (fun _ hk => hk) rfl
  | threw e => exact h.outside i (by simp [step, Inside]) (fun _ hk => hk) rfl

/-- In every interleaving in which the busy flag is taken only by calls whose key is still new,
each key is bought at most once. -/
theorem runsFor_le_one (calls : ι → Call) (sh : Shared) (sched : List ι) (s : Sys ι)
    (hrun : Run (guarded (StillNew calls) (ofFun (advance calls))) { shared := sh } sched s) (key : Bytes) :
    runsFor calls key s ≤ 1 := by
  have hinv : Inv calls s := by
    refine hrun.invariant (inv_init calls sh) ?_
    rintro s i s' hi ⟨hg, rfl⟩
    exact inv_advance hi i hg
  exact hinv.once key

/-- Two calls of one request, which the engine completes. -/
def twice : Bool → Call := fun _ =>
  { req := ⟨100, 200, ascii "race"⟩, engine := .ok { quarters := 4, dispensed := 4, phase := ascii "DONE" } }

theorem runsFor_le_one_one_after_another :
    runsFor twice (ascii "race") ((List.replicate 7 true ++ [false]).foldl (advance twice)
      { shared := ⟨{ ttlNs := 0 }, false⟩ }) ≤ 1 :=
  runsFor_le_one twice ⟨{ ttlNs := 0 }, false⟩ (List.replicate 7 true ++ [false]) _
    (Meets.run (by decide)) (ascii "race")

/-- The first call passes its check, the second runs to its end, and then the first goes on:
the engine buys twice for one key. -/
theorem interleaved_calls_buy_twice :
    ¬ ∀ (calls : Bool → Call) (sh : Shared) (sched : List Bool) (s : Sys Bool) (req : PurchaseRequest),
      (∀ i, (calls i).req = req) → Run (ofFun (advance calls)) { shared := sh } sched s →
      runsFor calls req.idemKey s ≤ 1 := by
  intro hclaim
  have hbad := hclaim twice ⟨{ ttlNs := 0 }, false⟩ ([true] ++ List.replicate 7 false ++ List.replicate 6 true) _
    ⟨100, 200, ascii "race"⟩ (fun _ => rfl) (run_foldl _ _ _)
  revert hbad
  decide

end Drawer.Pos.Router
