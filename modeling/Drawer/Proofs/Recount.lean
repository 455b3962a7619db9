import Drawer.Spec.Dispense

/-! The coins of a call are counted anew in every attempt, so what an attempt counted
before it jammed is missing from the result once another attempt has been made. -/

namespace Drawer.Dispense

/-! ### The hopper -/

/-- The hoppers differ only in what a reset and a start set. -/
def Alike (h h' : HopperParallel) : Prop :=
  h.motorActiveHigh = h'.motorActiveHigh ∧ h.pulsesPerCoin = h'.pulsesPerCoin ∧ h.minIntervalUs = h'.minIntervalUs

theorem Alike.begin {h h' : HopperParallel} (halike : Alike h h') (a : Attempt) : h.begin a = h'.begin a := by
  obtain ⟨hactive, hppc, hinterval⟩ := halike
  simp [HopperParallel.begin, HopperParallel.resetCounters, HopperParallel.start, hactive, hppc, hinterval]

@[simp] theorem stop_coinCount (h : HopperParallel) : h.stop.coinCount = h.coinCount := rfl

theorem pollOnce_alike (h : HopperParallel) (p : Poll) : Alike (h.pollOnce p) h := by
  unfold HopperParallel.pollOnce
  split_ifs
  · exact ⟨rfl, rfl, rfl⟩
  · exact ⟨rfl, rfl, rfl⟩

theorem pollOnce_pulses (h : HopperParallel) (p : Poll) : h.pulses ≤ (h.pollOnce p).pulses := by
  unfold HopperParallel.pollOnce
  split_ifs
  · simp
  · simp

theorem coinCount_nonneg {h : HopperParallel} (hp : 0 ≤ h.pulses) : 0 ≤ h.coinCount := by
  unfold HopperParallel.coinCount
  split_ifs with hppc
  · exact Int.tdiv_nonneg hp (by omega)
  · omega

theorem see_hopper (s : Polling) (p : Poll) : (s.see p).hopper = s.hopper.pollOnce p := by
  simp only [Polling.see]
  split_ifs
  · rfl
  · rfl

/-! ### An attempt -/

section
variable {q : Request} {s : Polling} {ps : List Poll} {h' : HopperParallel} {e : Ending}

theorem poll_hopper (q : Request) (s : Polling) (ps : List Poll) :
    Alike (q.poll s ps).1 s.hopper ∧ s.hopper.pulses ≤ (q.poll s ps).1.pulses := by
  induction ps generalizing s with
  | nil => exact ⟨⟨rfl, rfl, rfl⟩, le_rfl⟩
  | cons p ps ih =>
    have halike := pollOnce_alike s.hopper p
    have hpulses := pollOnce_pulses s.hopper p
    rw [← see_hopper] at halike hpulses
    rw [Request.poll]
    cases q.verdict (s.see p) p with
    | some e => exact ⟨halike, hpulses⟩
    | none =>
      obtain ⟨hrest, hcount⟩ := ih (s.see p)
      exact ⟨⟨hrest.1.trans halike.1, hrest.2.1.trans halike.2.1, hrest.2.2.trans halike.2.2⟩, hpulses.trans hcount⟩

theorem poll_append {before : List Poll} {p : Poll}
    (hbefore : ∀ b r c, before = b ++ r :: c → q.verdict ((b ++ [r]).foldl Polling.see s) r = none)
    (hp : q.verdict ((before ++ [p]).foldl Polling.see s) p = some e) (after : List Poll) :
    q.poll s (before ++ p :: after) = (((before ++ [p]).foldl Polling.see s).hopper.stop, some e) := by
  induction before generalizing s with
  | nil =>
    rw [List.nil_append, Request.poll]
    simp only [List.nil_append, List.foldl_cons, List.foldl_nil] at hp
    simp [hp]
  | cons r before ih =>
    have hr : q.verdict (s.see r) r = none := hbefore [] r before rfl
    rw [List.cons_append, Request.poll]
    simp only [hr]
    exact ih (fun b t c hsplit => hbefore (r :: b) t c (by rw [hsplit]; rfl)) hp

theorem poll_split (h : q.poll s ps = (h', some e)) : ∃ before p after, ps = before ++ p :: after ∧
    (∀ b r c, before = b ++ r :: c → q.verdict ((b ++ [r]).foldl Polling.see s) r = none) ∧
    q.verdict ((before ++ [p]).foldl Polling.see s) p = some e ∧
    h' = ((before ++ [p]).foldl Polling.see s).hopper.stop := by
  induction ps generalizing s with
  | nil => simp [Request.poll] at h
  | cons p ps ih =>
    rw [Request.poll] at h
    cases hv : q.verdict (s.see p) p with
    | some e' =>
      simp only [hv, Prod.mk.injEq, Option.some.injEq] at h
      obtain ⟨rfl, rfl⟩ := h
      exact ⟨[], p, ps, rfl, by simp, hv, rfl⟩
    | none =>
      simp only [hv] at h
      obtain ⟨before, r, after, rfl, hbefore, hr, hh⟩ := ih h
      refine ⟨p :: before, r, after, rfl, fun b t c hsplit => ?_, hr, hh⟩
      cases b with
      | nil =>
        obtain ⟨rfl, -⟩ := List.cons.inj hsplit
        exact hv
      | cons _ b =>
        obtain ⟨rfl, htail⟩ := List.cons.inj hsplit
        exact hbefore b t c htail

theorem poll_motor (h : q.poll s ps = (h', some e)) : h'.motor = !h'.motorActiveHigh := by
  obtain ⟨before, p, after, -, -, -, rfl⟩ := poll_split h
  rfl

/-- The loop ends at the latest when the budget is used up. -/
theorem poll_ends (hlate : ∃ p ∈ ps, millis (p.now - q.start) ≥ q.budgetMs) : (q.poll s ps).2.isSome = true := by
  induction ps generalizing s with
  | nil => simp at hlate
  | cons p ps ih =>
    rw [Request.poll]
    cases hv : q.verdict (s.see p) p with
    | some e => rfl
    | none =>
      have hnow : ¬ millis (p.now - q.start) ≥ q.budgetMs := by
        intro h
        simp only [Request.verdict, if_pos h] at hv
        split_ifs at hv
      obtain ⟨r, hr, hlate⟩ := hlate
      rcases List.mem_cons.mp hr with rfl | hr
      · exact absurd hlate hnow
      · exact ih ⟨r, hr, hlate⟩

end

theorem jams_iff {q : Request} {h : HopperParallel} {a : Attempt} {n : Int} :
    q.Jams h a n ↔ ∃ h', q.poll (h.begin a) a.polls = (h', some .jam) ∧ h'.coinCount = n := by
  constructor
  · rintro ⟨before, p, after, ha, hbefore, hp, rfl⟩
    exact ⟨_, by rw [ha, poll_append hbefore hp after], stop_coinCount _⟩
  · rintro ⟨h', hpoll, rfl⟩
    obtain ⟨before, p, after, ha, hbefore, hp, rfl⟩ := poll_split hpoll
    exact ⟨before, p, after, ha, hbefore, hp, (stop_coinCount _).symm⟩

theorem jams_congr {q : Request} {h h' : HopperParallel} (halike : Alike h h') (a : Attempt) (n : Int) :
    q.Jams h a n ↔ q.Jams h' a n := by
  rw [jams_iff, jams_iff, halike.begin]

/-! ### The attempts of a call -/

section
variable {q : Request} {h h' : HopperParallel} {a : Attempt} {as : List Attempt} {finish attempt : Int} {ok : Bool}
  {reason : String}

theorem dry_congr (halike : Alike h h') : q.Dry h attempt as ↔ q.Dry h' attempt as := by
  unfold Request.Dry
  simp only [jams_congr halike]

/-- What the first attempt has to meet, and what the others have to once it has jammed. -/
theorem dry_cons_iff : q.Dry h attempt (a :: as) ↔
    (attempt < q.cfg.maxRetries → ∀ n, q.Jams h a n → n = 0) ∧ ((∃ m, q.Jams h a m) → q.Dry h (attempt + 1) as) := by
  constructor
  · intro hdry
    refine ⟨fun hleft n hn => hdry [] a as n rfl (by simpa using hleft) (by simp) hn, ?_⟩
    intro hjam before b after n has hleft hbefore hn
    have hcount : attempt + (a :: before).length < q.cfg.maxRetries := by
      rw [List.length_cons]
      push_cast
      omega
    exact hdry (a :: before) b after n (by rw [has]; rfl) hcount (List.forall_mem_cons.mpr ⟨hjam, hbefore⟩) hn
  · rintro ⟨hfirst, hrest⟩ before b after n has hleft hbefore hn
    cases before with
    | nil =>
      obtain ⟨rfl, -⟩ := List.cons.inj has
      exact hfirst (by simpa using hleft) n hn
    | cons c before =>
      obtain ⟨rfl, htail⟩ := List.cons.inj has
      obtain ⟨hjam, hbefore⟩ := List.forall_mem_cons.mp hbefore
      rw [List.length_cons] at hleft
      push_cast at hleft
      exact hrest hjam before b after n htail (by omega) hbefore hn

theorem begin_alike (h : HopperParallel) (a : Attempt) : Alike (h.begin a).hopper h := ⟨rfl, rfl, rfl⟩

theorem Alike.trans {h₁ h₂ h₃ : HopperParallel} (h₁₂ : Alike h₁ h₂) (h₂₃ : Alike h₂ h₃) : Alike h₁ h₃ :=
  ⟨h₁₂.1.trans h₂₃.1, h₁₂.2.1.trans h₂₃.2.1, h₁₂.2.2.trans h₂₃.2.2⟩

theorem attempt_hopper (q : Request) (h : HopperParallel) (a : Attempt) :
    Alike (q.poll (h.begin a) a.polls).1 h ∧ 0 ≤ (q.poll (h.begin a) a.polls).1.coinCount := by
  obtain ⟨halike, hpulses⟩ := poll_hopper q (h.begin a) a.polls
  exact ⟨halike.trans (begin_alike h a), coinCount_nonneg hpulses⟩

/-- How a call goes on with attempt number `attempt` at the readings `a`, in what the rest of the call counts and gives. -/
inductive Goes (q : Request) (finish attempt : Int) (h : HopperParallel) (a : Attempt) (as : List Attempt) : Call → Prop where
  | running (h' : HopperParallel) (hcount : 0 ≤ h'.coinCount) (hpoll : (q.poll (h.begin a) a.polls).2 = none) :
    Goes q finish attempt h a as { counted := [h'.coinCount], hopper := h', result := none }
  | returned (h' : HopperParallel) (res : DispenseResult) (hcount : 0 ≤ h'.coinCount) (hres : res.dispensed = h'.coinCount)
    (hjams : attempt < q.cfg.maxRetries → ∀ m, ¬ q.Jams h a m) (hmotor : h'.motor = !h'.motorActiveHigh) :
    Goes q finish attempt h a as { counted := [h'.coinCount], hopper := h', result := some res }
  | retried (h' : HopperParallel) (halike : Alike h' h) (hcount : 0 ≤ h'.coinCount) (hretry : attempt < q.cfg.maxRetries)
    (hjams : ∀ m, q.Jams h a m ↔ m = h'.coinCount) :
    Goes q finish attempt h a as
      { q.attempts finish (attempt + 1) h' false "JAM" as with
        counted := h'.coinCount :: (q.attempts finish (attempt + 1) h' false "JAM" as).counted }

theorem goes (q : Request) (finish : Int) {attempt : Int} (hleft : attempt ≤ q.cfg.maxRetries) (h : HopperParallel) (ok : Bool)
    (reason : String) (a : Attempt) (as : List Attempt) :
    Goes q finish attempt h a as (q.attempts finish attempt h ok reason (a :: as)) := by
  obtain ⟨halike, hcount⟩ := attempt_hopper q h a
  have hjams : ∀ m, q.Jams h a m ↔ (q.poll (h.begin a) a.polls).2 = some .jam ∧
      m = (q.poll (h.begin a) a.polls).1.coinCount := by
    intro m
    rw [jams_iff]
    constructor
    · rintro ⟨h', hpoll, rfl⟩
      simp [hpoll]
    · rintro ⟨hjam, rfl⟩
      exact ⟨_, Prod.ext rfl hjam, rfl⟩
  rw [Request.attempts, if_pos hleft]
  rcases hpoll : q.poll (h.begin a) a.polls with ⟨h', e⟩
  simp only [hpoll] at halike hcount hjams
  cases e with
  | none => exact .running h' hcount (by rw [hpoll])
  | some e =>
    have hmotor := poll_motor hpoll
    cases e with
    | enough => exact .returned h' _ hcount rfl (fun _ m hm => by simpa using ((hjams m).mp hm).1) hmotor
    | timeout => exact .returned h' _ hcount rfl (fun _ m hm => by simpa using ((hjams m).mp hm).1) hmotor
    | jam =>
      by_cases hretry : attempt < q.cfg.maxRetries
      · simp only [if_pos hretry]
        exact .retried h' halike hcount hretry fun m => by simp [hjams m]
      · simp only [if_neg hretry]
        exact .returned h' _ hcount rfl (fun hlt => absurd hlt hretry) hmotor

theorem dropLast_cons {n : Int} {ns : List Int} (h : ns ≠ []) : (n :: ns).dropLast = n :: ns.dropLast := by
  cases ns with
  | nil => exact absurd rfl h
  | cons m ns => rfl

/-- The hopper never counts less than nothing. -/
theorem counted_nonneg : ∀ n ∈ (q.attempts finish attempt h ok reason as).counted, 0 ≤ n := by
  induction as generalizing attempt h ok reason with
  | nil =>
    rw [Request.attempts]
    split_ifs
    · simp
    · simp
  | cons a as ih =>
    by_cases hleft : attempt ≤ q.cfg.maxRetries
    · have hgoes := goes q finish hleft h ok reason a as
      generalize q.attempts finish attempt h ok reason (a :: as) = c at hgoes ⊢
      cases hgoes with
      | running h' hcount => simpa using hcount
      | returned h' res hcount => simpa using hcount
      | retried h' _ hcount => exact List.forall_mem_cons.mpr ⟨hcount, ih⟩
    · rw [Request.attempts, if_neg hleft]
      simp

/-- A call that has returned gives what its last attempt counted. -/
theorem dispensed_last {res : DispenseResult} (hleft : attempt ≤ q.cfg.maxRetries)
    (hres : (q.attempts finish attempt h ok reason as).result = some res) :
    ∃ ns, (q.attempts finish attempt h ok reason as).counted = ns ++ [res.dispensed] := by
  induction as generalizing attempt h ok reason with
  | nil =>
    rw [Request.attempts, if_pos hleft] at hres
    cases hres
  | cons a as ih =>
    have hgoes := goes q finish hleft h ok reason a as
    generalize q.attempts finish attempt h ok reason (a :: as) = c at hgoes hres ⊢
    cases hgoes with
    | running h' => cases hres
    | returned h' res' _ hdispensed =>
      obtain rfl := Option.some.inj hres
      exact ⟨[], by simp [hdispensed]⟩
    | retried h' _ _ hretry =>
      obtain ⟨ns, hns⟩ := ih (by omega) hres
      exact ⟨h'.coinCount :: ns, by rw [List.cons_append, ← hns]⟩

/-- If the jams are dry, no attempt before the last one counted a coin. -/
theorem dry_counted (hleft : attempt ≤ q.cfg.maxRetries) (hdry : q.Dry h attempt as) :
    ∀ n ∈ (q.attempts finish attempt h ok reason as).counted.dropLast, n = 0 := by
  induction as generalizing attempt h ok reason with
  | nil =>
    rw [Request.attempts, if_pos hleft]
    simp
  | cons a as ih =>
    obtain ⟨hfirst, hrest⟩ := dry_cons_iff.mp hdry
    have hgoes := goes q finish hleft h ok reason a as
    generalize q.attempts finish attempt h ok reason (a :: as) = c at hgoes ⊢
    cases hgoes with
    | running h' => simp
    | returned h' => simp
    | retried h' halike _ hretry hjams =>
      have hjam := (hjams h'.coinCount).mpr rfl
      have htail : ∀ n ∈ (q.attempts finish (attempt + 1) h' false "JAM" as).counted.dropLast, n = 0 :=
        ih (by omega) ((dry_congr halike).mpr (hrest ⟨_, hjam⟩))
      by_cases hnil : (q.attempts finish (attempt + 1) h' false "JAM" as).counted = []
      · simp [hnil]
      · rw [dropLast_cons hnil]
        exact List.forall_mem_cons.mpr ⟨hfirst hretry _ hjam, htail⟩

/-- In a call that has returned every jam with a retry left was followed by the retry. -/
theorem dry_of_counted {res : DispenseResult} (hleft : attempt ≤ q.cfg.maxRetries)
    (hres : (q.attempts finish attempt h ok reason as).result = some res)
    (hzero : ∀ n ∈ (q.attempts finish attempt h ok reason as).counted.dropLast, n = 0) : q.Dry h attempt as := by
  induction as generalizing attempt h ok reason with
  | nil =>
    rw [Request.attempts, if_pos hleft] at hres
    cases hres
  | cons a as ih =>
    have hgoes := goes q finish hleft h ok reason a as
    generalize q.attempts finish attempt h ok reason (a :: as) = c at hgoes hres hzero
    cases hgoes with
    | running h' => cases hres
    | returned h' res' _ _ hjams =>
      refine dry_cons_iff.mpr ⟨fun hlt n hn => absurd hn (hjams hlt n), ?_⟩
      rintro ⟨m, hm⟩ before b after n - hlt
      have hnot : ¬ attempt < q.cfg.maxRetries := fun hlt' => hjams hlt' m hm
      omega
    | retried h' halike _ hretry hjams =>
      obtain ⟨ns, hns⟩ := dispensed_last (by omega) hres
      rw [dropLast_cons (by rw [hns]; simp), List.forall_mem_cons] at hzero
      refine dry_cons_iff.mpr ⟨fun _ n hn => ((hjams n).mp hn).trans hzero.1, fun _ => ?_⟩
      exact (dry_congr halike).mp (ih (by omega) hres hzero.2)

end

/-! ### The coins of a call -/

section
variable {cfg : DispenseConfig} {h : HopperParallel} {coins : Int} {r : Readings}

theorem sum_before {counted before after : List Int} {n : Int} (hzero : ∀ m ∈ counted.dropLast, m = 0)
    (heq : counted = before ++ n :: after) : before.sum = 0 := by
  refine List.sum_eq_zero fun m hm => hzero m ?_
  rw [heq, List.dropLast_append_of_ne_nil (List.cons_ne_nil n after)]
  exact List.mem_append_left _ hm

/-- If the jams of a call are dry and a coin is asked for, the attempts are accounted for, whether the call has returned
or not. -/
theorem accounts_of_dry (hcfg : 0 ≤ cfg.maxRetries) (hcoins : 1 ≤ coins)
    (hdry : Request.Dry { cfg, coins, start := r.start } h 0 r.attempts) : Accounts coins (dispenseCoins cfg h coins r) := by
  have hzero : ∀ n ∈ (dispenseCoins cfg h coins r).counted.dropLast, n = 0 := dry_counted hcfg hdry
  refine ⟨fun res hres => ?_, fun before n after heq => ?_, fun before n heq => ?_⟩
  · obtain ⟨ns, hns⟩ : ∃ ns, (dispenseCoins cfg h coins r).counted = ns ++ [res.dispensed] := dispensed_last hcfg hres
    rw [hns, List.sum_append, sum_before hzero hns]
    simp
  · rw [sum_before hzero heq]
    omega
  · rw [heq, List.sum_append, sum_before hzero heq]
    simp

/-- For a call that has returned: the attempts are accounted for if and only if a coin is asked for and no attempt that
jams with a retry left has counted any. -/
theorem dispense_accounts_iff (hcfg : 0 ≤ cfg.maxRetries) {res : DispenseResult}
    (hres : (dispenseCoins cfg h coins r).result = some res) :
    Accounts coins (dispenseCoins cfg h coins r) ↔
      1 ≤ coins ∧ Request.Dry { cfg, coins, start := r.start } h 0 r.attempts := by
  refine ⟨fun haccounts => ?_, fun hdry => accounts_of_dry hcfg hdry.1 hdry.2⟩
  obtain ⟨ns, hns⟩ : ∃ ns, (dispenseCoins cfg h coins r).counted = ns ++ [res.dispensed] := dispensed_last hcfg hres
  have hnonneg : ∀ n ∈ (dispenseCoins cfg h coins r).counted, 0 ≤ n := counted_nonneg
  have hsum : ns.sum = 0 := by
    have hreported := haccounts.reported res hres
    rw [hns, List.sum_append, List.sum_singleton] at hreported
    omega
  have hzero : ∀ n ∈ ns, n = 0 := fun n hn =>
    List.all_zero_of_le_zero_le_of_sum_eq_zero (fun m hm => hnonneg m (by rw [hns]; exact List.mem_append_left _ hm)) hsum hn
  refine ⟨?_, dry_of_counted hcfg hres ?_⟩
  · have hneeded := haccounts.needed ns res.dispensed [] hns
    omega
  · intro n hn
    have hn' : n ∈ (dispenseCoins cfg h coins r).counted.dropLast := hn
    rw [hns, List.dropLast_concat] at hn'
    exact hzero n hn'

end

/-- Two coins come out at the first attempt. -/
def plain : Readings where
  start := 0
  attempts := [{ level := false, settled := 120000000, polls :=
    [{ level := true, ns := 125000000, now := 125000000 }, { level := false, ns := 128000000, now := 128000000 },
      { level := true, ns := 131000000, now := 131000000 }] }]
  finish := 132000000

/-- One coin comes out and the hopper jams; at the retry two more come out. -/
def jammed : Readings where
  start := 0
  attempts :=
    [{ level := false, settled := 120000000, polls :=
        [{ level := true, ns := 125000000, now := 125000000 }, { level := false, ns := 725000000, now := 725000000 }] },
      { level := false, settled := 945000000, polls :=
        [{ level := true, ns := 950000000, now := 950000000 }, { level := false, ns := 953000000, now := 953000000 },
          { level := true, ns := 956000000, now := 956000000 }] }]
  finish := 957000000

theorem dispense_accounts_iff_plain : Accounts 2 (dispenseCoins {} {} 2 plain) ↔
    1 ≤ (2 : Int) ∧ Request.Dry { cfg := {}, coins := 2, start := 0 } {} 0 plain.attempts :=
  dispense_accounts_iff (by decide)
    (show (dispenseCoins {} {} 2 plain).result =
      some { ok := true, requested := 2, dispensed := 2, pulses := 2, reason := "OK", elapsedMs := 132 } by decide +kernel)

/-- Three coins are counted for the two that were asked for, and two are reported. -/
theorem jammed_unaccounted :
    dispenseCoins {} {} 2 jammed =
      { counted := [1, 2]
        hopper := (dispenseCoins {} {} 2 jammed).hopper
        result := some { ok := true, requested := 2, dispensed := 2, pulses := 2, retries := 1, reason := "OK", elapsedMs := 957 } } ∧
    ¬ Accounts 2 (dispenseCoins {} {} 2 jammed) := by
  have hcall : dispenseCoins {} {} 2 jammed =
      { counted := [1, 2]
        hopper := (dispenseCoins {} {} 2 jammed).hopper
        result := some { ok := true, requested := 2, dispensed := 2, pulses := 2, retries := 1, reason := "OK", elapsedMs := 957 } } := by
    decide +kernel
  refine ⟨hcall, fun h => ?_⟩
  have hreported := h.reported
  rw [hcall] at hreported
  exact absurd (hreported _ rfl) (by decide)

/-! ### The end of a call -/

section
variable {q : Request} {h : HopperParallel} {as : List Attempt} {finish attempt : Int} {ok : Bool} {reason : String}

theorem attempts_motor {res : DispenseResult} (hleft : attempt ≤ q.cfg.maxRetries)
    (hres : (q.attempts finish attempt h ok reason as).result = some res) :
    (q.attempts finish attempt h ok reason as).hopper.motor =
      !(q.attempts finish attempt h ok reason as).hopper.motorActiveHigh := by
  induction as generalizing attempt h ok reason with
  | nil =>
    rw [Request.attempts, if_pos hleft] at hres
    cases hres
  | cons a as ih =>
    have hgoes := goes q finish hleft h ok reason a as
    generalize q.attempts finish attempt h ok reason (a :: as) = c at hgoes hres ⊢
    cases hgoes with
    | running h' => cases hres
    | returned h' res' _ _ _ hmotor => exact hmotor
    | retried h' _ _ hretry => exact ih (by omega) hres

theorem attempts_return (hleft : attempt ≤ q.cfg.maxRetries) (hlength : q.cfg.maxRetries < attempt + as.length)
    (hlate : ∀ a ∈ as, ∃ p ∈ a.polls, millis (p.now - q.start) ≥ q.budgetMs) :
    (q.attempts finish attempt h ok reason as).result.isSome = true := by
  induction as generalizing attempt h ok reason with
  | nil =>
    rw [List.length_nil] at hlength
    omega
  | cons a as ih =>
    obtain ⟨hfirst, hrest⟩ := List.forall_mem_cons.mp hlate
    have hgoes := goes q finish hleft h ok reason a as
    generalize q.attempts finish attempt h ok reason (a :: as) = c at hgoes ⊢
    cases hgoes with
    | running h' _ hpoll =>
      have hends := poll_ends (s := h.begin a) hfirst
      rw [hpoll] at hends
      cases hends
    | returned h' res => rfl
    | retried h' _ _ hretry =>
      rw [List.length_cons] at hlength
      push_cast at hlength
      exact ih (by omega) (by omega) hrest

end

/-- A call that has returned has stopped the motor. -/
theorem stopped {cfg : DispenseConfig} (hcfg : 0 ≤ cfg.maxRetries) {h : HopperParallel} {coins : Int} {r : Readings}
    {res : DispenseResult} (hres : (dispenseCoins cfg h coins r).result = some res) :
    (dispenseCoins cfg h coins r).hopper.motor = !(dispenseCoins cfg h coins r).hopper.motorActiveHigh :=
  attempts_motor hcfg hres

/-- A call returns if the clock passes its budget in every attempt that it may make. -/
theorem returns {cfg : DispenseConfig} (hcfg : 0 ≤ cfg.maxRetries) {h : HopperParallel} {coins : Int} {r : Readings}
    (hlength : cfg.maxRetries < r.attempts.length)
    (hlate : ∀ a ∈ r.attempts, ∃ p ∈ a.polls, millis (p.now - r.start) ≥ Request.budgetMs { cfg, coins, start := r.start }) :
    (dispenseCoins cfg h coins r).result.isSome = true :=
  attempts_return hcfg (by simpa using hlength) hlate

end Drawer.Dispense
