import Drawer.Spec.TwinFlush

/-! Flushes and pushes side by side. A flush lets go of the queue while its copy of
the head is on its way, and then removes the head of the day. As long as nothing
left the queue in the meantime, that is the twin it sent. -/

namespace Drawer.Twin.HttpDeviceTwinClient
open Transition

variable {ι ν : Type} [DecidableEq ι]

/-- Between two states of the queue: what was the head still is, unless twins have left. -/
structure Fronts (c c' : HttpDeviceTwinClient ν) (gone gone' : ℕ) : Prop where
  le : gone ≤ gone'
  head : gone' = gone → ∀ twin, c.offlineQueue.head? = some twin → c'.offlineQueue.head? = some twin

theorem Fronts.refl (c : HttpDeviceTwinClient ν) (gone : ℕ) : Fronts c c gone gone := ⟨le_rfl, fun _ _ h => h⟩

theorem fronts_popFront (c : HttpDeviceTwinClient ν) (now : String) (gone : ℕ) :
    Fronts c (c.popFront now) gone (gone + (c.offlineQueue.take 1).length) where
  le := Nat.le_add_right _ _
  head hgone twin htwin := by
    cases hq : c.offlineQueue with
    | nil => simp [hq] at htwin
    | cons next rest =>
      rw [hq] at hgone
      simp at hgone

theorem fronts_recordPush (c : HttpDeviceTwinClient ν) (now : String) (twin : DrawerTwin) (out : SyncResult) (gone : ℕ) :
    Fronts c (c.recordPush now twin out) gone (gone + c.displaced out) where
  le := Nat.le_add_right _ _
  head hgone t ht := by
    cases hq : c.offlineQueue with
    | nil => simp [hq] at ht
    | cons next rest =>
      rw [hq] at ht
      cases hkeep : out.ok || out.conflict with
      | true => simpa [recordPush, hkeep, hq] using ht
      | false =>
        by_cases hfull : c.config.maxQueueDepth.toInt ≤ (rest.length : ℤ) + 1
        · simp [displaced, hkeep, hfull, hq] at hgone
        · simpa [recordPush, enqueue, hkeep, hfull, hq] using ht

structure Sound (s : Calls ι ν) : Prop where
  /-- A copy of the head is the head, unless twins have left. -/
  copy : ∀ i k twin, s.pc i = .copied k twin ∨ s.pc i = .accepted k twin →
    k ≤ s.gone ∧ (s.gone = k → s.client.offlineQueue.head? = some twin)
  sent : ∀ i k twin, s.pc i = .accepted k twin → .pushed k twin ∈ s.log
  kept : NoLostUpdate s.log

omit [DecidableEq ι] in
theorem sound_init (c : HttpDeviceTwinClient ν) : Sound ({ client := c } : Calls ι ν) where
  copy _ _ _ h := by simp at h
  sent _ _ _ h := by simp at h
  kept before k twin after h := by simp at h

theorem noLostUpdate_snoc {log : List QueueEvent} (h : NoLostUpdate log) (event : QueueEvent)
    (hevent : ∀ k twin, event = .removed k twin → .pushed k twin ∈ log) : NoLostUpdate (log ++ [event]) := by
  intro before k twin after hlog
  rcases split_snoc hlog with ⟨after', hlog', -⟩ | ⟨rfl, hev, -⟩
  · exact h before k twin after' hlog'
  · exact hevent k twin hev

/-- A step of `i` keeps the invariant if it is honest about the queue, its own copy and the log. -/
theorem Sound.update {s : Calls ι ν} (h : Sound s) (i : ι) {client : HttpDeviceTwinClient ν} {gone : ℕ} {p : CallPc}
    {log : List QueueEvent} (hfronts : Fronts s.client client s.gone gone)
    (hcopy : ∀ k twin, p = .copied k twin ∨ p = .accepted k twin →
      k ≤ gone ∧ (gone = k → client.offlineQueue.head? = some twin))
    (hsent : ∀ k twin, p = .accepted k twin → .pushed k twin ∈ log) (hlog : s.log ⊆ log) (hkept : NoLostUpdate log) :
    Sound { client, gone, pc := Function.update s.pc i p, log } where
  copy j k twin hj := by
    dsimp only at hj ⊢
    by_cases hji : j = i
    · subst hji
      rw [Function.update_self] at hj
      exact hcopy k twin hj
    · rw [Function.update_of_ne hji] at hj
      obtain ⟨hle, hhead⟩ := h.copy j k twin hj
      refine ⟨hle.trans hfronts.le, fun hk => ?_⟩
      -- nothing has left since the copy was made, so nothing left in this step
      have hsame : gone = s.gone := le_antisymm (hk ▸ hle) hfronts.le
      exact hfronts.head hsame twin (hhead (hsame.symm.trans hk))
  sent j k twin hj := by
    dsimp only at hj ⊢
    by_cases hji : j = i
    · subst hji
      rw [Function.update_self] at hj
      exact hsent k twin hj
    · rw [Function.update_of_ne hji] at hj
      exact hlog (h.sent j k twin hj)
  kept := hkept

/-- A call that holds no copy. -/
def CallPc.Free (p : CallPc) : Prop := ∀ k twin, p ≠ .copied k twin ∧ p ≠ .accepted k twin

theorem Sound.free {s : Calls ι ν} (h : Sound s) (i : ι) {client : HttpDeviceTwinClient ν} {gone : ℕ} {p : CallPc}
    (hp : p.Free) {log : List QueueEvent} (hfronts : Fronts s.client client s.gone gone) (hlog : s.log ⊆ log)
    (hkept : NoLostUpdate log) : Sound { client, gone, pc := Function.update s.pc i p, log } := by
  refine h.update i hfronts (fun k twin hcase => ?_) (fun k twin heq => absurd heq (hp k twin).2) hlog hkept
  rcases hcase with heq | heq
  · exact absurd heq (hp k twin).1
  · exact absurd heq (hp k twin).2

theorem Sound.idle {s : Calls ι ν} (h : Sound s) (i : ι) {p : CallPc} (hp : p.Free) :
    Sound { s with pc := Function.update s.pc i p } :=
  h.free i hp (Fronts.refl _ _) (List.Subset.refl _) h.kept

theorem Sound.copied {s : Calls ι ν} (h : Sound s) (i : ι) {next : DrawerTwin} {rest : List DrawerTwin}
    (hq : s.client.offlineQueue = next :: rest) : Sound { s with pc := Function.update s.pc i (.copied s.gone next) } := by
  refine h.update i (Fronts.refl _ _) ?_ (fun k twin heq => by cases heq) (List.Subset.refl _) h.kept
  rintro k twin (heq | heq)
  · obtain ⟨rfl, rfl⟩ := CallPc.copied.inj heq
    exact ⟨le_rfl, fun _ => by rw [hq]; rfl⟩
  · cases heq

theorem Sound.pushed {s : Calls ι ν} (h : Sound s) (i : ι) {k : ℕ} {twin : DrawerTwin} (hp : s.pc i = .copied k twin) :
    Sound { s with pc := Function.update s.pc i (.accepted k twin), log := s.log ++ [.pushed k twin] } := by
  refine h.update i (Fronts.refl _ _) ?_ ?_ (List.subset_append_left _ _) (noLostUpdate_snoc h.kept _ (by simp))
  · rintro k' twin' (heq | heq)
    · cases heq
    · obtain ⟨rfl, rfl⟩ := CallPc.accepted.inj heq
      exact h.copy i k twin (Or.inl hp)
  · rintro k' twin' heq
    obtain ⟨rfl, rfl⟩ := CallPc.accepted.inj heq
    simp

theorem Sound.removed {s : Calls ι ν} (h : Sound s) (i : ι) (now : String) {k : ℕ} {twin : DrawerTwin}
    (hp : s.pc i = .accepted k twin) (hgone : s.gone = k) :
    s.client.offlineQueue.head? = some twin ∧
      Sound { client := s.client.popFront now, gone := s.gone + (s.client.offlineQueue.take 1).length,
              pc := Function.update s.pc i .start, log := s.log ++ [.removed s.gone twin] } := by
  refine ⟨(h.copy i k twin (Or.inr hp)).2 hgone, h.free i (fun _ _ => by simp) (fronts_popFront _ _ _)
    (List.subset_append_left _ _) (noLostUpdate_snoc h.kept _ ?_)⟩
  intro k' twin' heq
  obtain ⟨rfl, rfl⟩ := QueueEvent.removed.inj heq
  rw [hgone]
  exact h.sent i k twin hp

theorem sound_advance {calls : ι → ClientCall} {s : Calls ι ν} {l : ι × Moment} (h : Sound s) (hguard : HeadKept s l) :
    Sound (Calls.advance calls s l) := by
  obtain ⟨i, m⟩ := l
  have hidle := fun p (hp : CallPc.Free p) => h.idle i hp
  cases hp : s.pc i with
  | start =>
    cases hcall : calls i with
    | flush =>
      cases hq : s.client.offlineQueue with
      | nil => simpa [Calls.advance, callStep, hp, hcall, hq] using hidle .done (by simp [CallPc.Free])
      | cons next rest => simpa [Calls.advance, callStep, hp, hcall, hq] using h.copied i hq
    | push twin =>
      cases hans : m.answer with
      | error _ => simpa [Calls.advance, callStep, hp, hcall, hans] using hidle .done (by simp [CallPc.Free])
      | ok out => simpa [Calls.advance, callStep, hp, hcall, hans] using hidle (.answered out) (by simp [CallPc.Free])
  | copied k twin =>
    cases hans : m.answer with
    | error _ => simpa [Calls.advance, callStep, hp, hans] using hidle .done (by simp [CallPc.Free])
    | ok out =>
      cases hok : out.ok with
      | false => simpa [Calls.advance, callStep, hp, hans, hok] using hidle .done (by simp [CallPc.Free])
      | true => simpa [Calls.advance, callStep, hp, hans, hok] using h.pushed i hp
  | accepted k twin =>
    obtain ⟨hhead, hnext⟩ := h.removed i m.now hp (hguard k twin hp)
    simpa [Calls.advance, callStep, hp, hhead] using hnext
  | answered out =>
    cases hcall : calls i with
    | flush => simpa [Calls.advance, callStep, hp, hcall] using hidle .done (by simp [CallPc.Free])
    | push twin =>
      have hnext := h.free i (p := .done) (by simp [CallPc.Free]) (fronts_recordPush s.client m.now twin out s.gone)
        (List.Subset.refl _) h.kept
      simpa [Calls.advance, callStep, hp, hcall] using hnext
  | done => simpa [Calls.advance, callStep, hp] using hidle .done (by simp [CallPc.Free])

/-- Where no flush removes a head after the one it copied has left the queue, no twin is removed unsent. -/
theorem noLostUpdate_run {calls : ι → ClientCall} {c : HttpDeviceTwinClient ν} {sched : List (ι × Moment)} {s : Calls ι ν}
    (h : Run (guarded HeadKept (ofFun (Calls.advance calls))) { client := c } sched s) : NoLostUpdate s.log := by
  refine (Run.invariant (I := Sound) (sound_init c) ?_ h).kept
  rintro t l t' ht ⟨hguard, rfl⟩
  exact sound_advance ht hguard

omit [DecidableEq ι] in
/-- On its own, `push_twin` is its request and its locked section. -/
theorem pushTwin_eq (network : Network ν) (now : String) (c : HttpDeviceTwinClient ν) (twin : DrawerTwin) :
    c.pushTwin network now twin = match c.pushNow network twin with
      | (.error e, c) => (.error e, c)
      | (.ok out, c) => (.ok out, c.recordPush now twin out) := rfl

def fullClient : HttpDeviceTwinClient Unit where
  config := { maxQueueDepth := 1 }
  offlineQueue := [{ drawerId := "d1" }]
  net := ()

/-- A flush, and a push of `d2`. -/
def flushAndPush : Fin 2 → ClientCall
  | 0 => .flush
  | 1 => .push { drawerId := "d2" }

def accepting : Moment := ⟨"now", .ok { ok := true }⟩

def failing : Moment := ⟨"now", .ok { reason := "remote_unavailable" }⟩

theorem noLostUpdate_run_inTurn : NoLostUpdate
    ([(0, accepting), (0, accepting), (0, accepting), (1, failing), (1, failing)].foldl (Calls.advance flushAndPush)
      { client := fullClient }).log := by
  refine noLostUpdate_run (Meets.run ⟨fun k twin h => ?_, fun k twin h => ?_, fun k twin h => ?_, fun k twin h => ?_,
    fun k twin h => ?_, trivial⟩)
  · cases h
  · cases h
  · cases h
    rfl
  · cases h
  · cases h

/-- While `d1` is on its way, `d2` takes its place in the full queue, and it is `d2` that the flush removes. -/
theorem unsent_twin_removed : ¬ ∀ (calls : Fin 2 → ClientCall) (c : HttpDeviceTwinClient Unit) (sched : List (Fin 2 × Moment)),
    1 ≤ c.config.maxQueueDepth.toInt → NoLostUpdate (sched.foldl (Calls.advance calls) { client := c }).log := by
  intro hclaim
  have hbad := hclaim flushAndPush fullClient
    [(0, accepting), (1, failing), (0, accepting), (1, failing), (0, accepting)] (by decide)
  have hsent := hbad [.pushed 0 { drawerId := "d1" }] 1 { drawerId := "d2" } [] rfl
  simp at hsent

end Drawer.Twin.HttpDeviceTwinClient
