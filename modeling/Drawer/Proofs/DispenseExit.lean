import Drawer.Proofs.Recount

/-! A call of the dispenser ends whatever the sensor reads, since the clock ends every
attempt; its result says whether the request was met. -/

namespace Drawer.Dispense

/-! ### A longer look -/

section
variable {q : Request} {s : Polling} {h h' : HopperParallel} {e : Ending}

theorem poll_longer {ps : List Poll} (hpoll : q.poll s ps = (h', some e)) (more : List Poll) :
    q.poll s (ps ++ more) = (h', some e) := by
  obtain ⟨before, p, after, rfl, hbefore, hp, rfl⟩ := poll_split hpoll
  rw [List.append_assoc, List.cons_append]
  exact poll_append hbefore hp (after ++ more)

/-- The second list reads on where the first one stops, in an attempt or in the whole. -/
inductive Longer : List Attempt → List Attempt → Prop where
  | nil (more : List Attempt) : Longer [] more
  | cons {a a' : Attempt} {as as' : List Attempt} (hlevel : a'.level = a.level) (hsettled : a'.settled = a.settled)
    (hpolls : ∃ more, a'.polls = a.polls ++ more) (h : Longer as as') : Longer (a :: as) (a' :: as')

/-- What a call has come to does not change with the readings after it. -/
theorem attempts_longer {finish : Int} {as as' : List Attempt} (hlonger : Longer as as') {attempt : Int} {ok : Bool}
    {reason : String} (hleft : attempt ≤ q.cfg.maxRetries)
    (hres : (q.attempts finish attempt h ok reason as).result.isSome = true) :
    q.attempts finish attempt h ok reason as' = q.attempts finish attempt h ok reason as := by
  induction hlonger generalizing attempt h ok reason with
  | nil more =>
    rw [Request.attempts, if_pos hleft] at hres
    cases hres
  | @cons a a' as as' hlevel hsettled hpolls _ ih =>
    obtain ⟨more, hpolls⟩ := hpolls
    have hbegin : h.begin a' = h.begin a := by simp only [HopperParallel.begin, hlevel, hsettled]
    rw [Request.attempts, if_pos hleft] at hres ⊢
    rw [Request.attempts, if_pos hleft, hbegin, hpolls]
    rcases hpoll : q.poll (h.begin a) a.polls with ⟨h', e⟩
    rw [hpoll] at hres
    cases e with
    | none => cases hres
    | some e =>
      rw [poll_longer hpoll more]
      cases e with
      | enough => rfl
      | timeout => rfl
      | jam =>
        by_cases hretry : attempt < q.cfg.maxRetries
        · simp only [if_pos hretry] at hres ⊢
          rw [ih (by omega) hres]
        · simp only [if_neg hretry]

theorem cut_polls (a : Endless) {m m' : ℕ} (hm : m ≤ m') : ∃ more, (a.cut m').polls = (a.cut m).polls ++ more := by
  obtain ⟨k, rfl⟩ := Nat.exists_eq_add_of_le hm
  refine ⟨((List.range k).map (m + ·)).map a.polls, ?_⟩
  simp only [Endless.cut, List.range_add, List.map_append]

theorem cut_longer (r : Course) {n n' m m' : ℕ} (hn : n ≤ n') (hm : m ≤ m') :
    Longer (r.cut n m).attempts (r.cut n' m').attempts := by
  obtain ⟨k, rfl⟩ := Nat.exists_eq_add_of_le hn
  simp only [Course.cut, List.range_add]
  generalize List.range n = ks
  induction ks with
  | nil => exact .nil _
  | cons i ks ih => exact .cons rfl rfl (cut_polls (r.attempts i) hm) ih

theorem cut_late {a : Endless} (hgrows : a.Grows) (start budgetMs : Int) :
    ∃ m, ∃ p ∈ (a.cut m).polls, millis (p.now - start) ≥ budgetMs := by
  obtain ⟨n, hn⟩ := hgrows (start + max 0 budgetMs * 1000000)
  refine ⟨n + 1, a.polls n, List.mem_map.mpr ⟨n, List.mem_range.mpr (Nat.lt_succ_self n), rfl⟩, ?_⟩
  have hspan : max 0 budgetMs * 1000000 ≤ (a.polls n).now - start := by omega
  have hmillis : max 0 budgetMs ≤ millis ((a.polls n).now - start) := by
    rw [millis, Int.tdiv_eq_ediv_of_nonneg (by omega)]
    omega
  omega

end

/-- Every call ends. -/
theorem call_returns {cfg : DispenseConfig} (hcfg : 0 ≤ cfg.maxRetries) (h : HopperParallel) (coins : Int) {r : Course}
    (hgrows : ∀ k, (r.attempts k).Grows) : ∃ c, Returns cfg h coins r c ∧ c.result.isSome = true := by
  set budgetMs := Request.budgetMs { cfg, coins, start := r.start }
  choose late hlate using fun k => cut_late (hgrows k) r.start budgetMs
  set K := cfg.maxRetries.toNat + 1
  set N := max K ((Finset.range K).sup late)
  have hK : K ≤ N := le_max_left _ _
  have hN : ∀ k < K, late k ≤ N := fun k hk =>
    (Finset.le_sup (Finset.mem_range.mpr hk)).trans (le_max_right _ _)
  have hends : (dispenseCoins cfg h coins (r.cut K N)).result.isSome = true := by
    refine returns hcfg ?_ ?_
    · simp only [Course.cut, List.length_map, List.length_range]
      omega
    · intro a ha
      obtain ⟨k, hk, rfl⟩ := List.mem_map.mp ha
      obtain ⟨p, hp, hbudget⟩ := hlate k
      obtain ⟨more, hmore⟩ := cut_polls (r.attempts k) (hN k (List.mem_range.mp hk))
      exact ⟨p, by rw [hmore]; exact List.mem_append_left _ hp, hbudget⟩
  refine ⟨_, ⟨N, fun n m hn hm => ?_⟩, hends⟩
  exact attempts_longer (cut_longer r (hK.trans hn) hm) hcfg hends

/-! ### The result -/

section
variable {q : Request} {s : Polling} {h h' : HopperParallel} {e : Ending} {as : List Attempt} {finish attempt : Int} {ok : Bool}
  {reason : String}

theorem poll_enough {ps : List Poll} (hpoll : q.poll s ps = (h', some e)) : e = .enough ↔ q.coins ≤ h'.coinCount := by
  obtain ⟨before, p, after, -, -, hp, rfl⟩ := poll_split hpoll
  rw [stop_coinCount]
  unfold Request.verdict at hp
  split_ifs at hp with hcount hjam hlate
  · exact iff_of_true (Option.some.inj hp).symm hcount
  · obtain rfl := Option.some.inj hp
    exact iff_of_false (by decide) hcount
  · obtain rfl := Option.some.inj hp
    exact iff_of_false (by decide) hcount

theorem exit_enough (hcount : q.coins ≤ h.coinCount) : Exit (q.done h true "OK" attempt finish) where
  ok := by simp [Request.done]
  enough := by simpa [Request.done] using hcount
  short := by simpa [Request.done] using fun _ => hcount
  nothing := by simp [Request.done]

/-- A result with too few: part of the coins are out, or none and the reason says why. -/
theorem exit_short {res : DispenseResult} {why : String} (hwhy : why = "JAM" ∨ why = "TIMEOUT") (hok : res.ok = false)
    (hcount : res.dispensed < res.requested) (hnonneg : 0 ≤ res.dispensed)
    (hreason : res.reason = if 0 < res.dispensed then "PARTIAL" else why) : Exit res := by
  by_cases hsome : 0 < res.dispensed
  · rw [if_pos hsome] at hreason
    exact {
      ok := by simp [hok, hreason]
      enough := by simpa [hok] using hcount
      short := iff_of_true hreason ⟨hsome, hcount⟩
      nothing := by simp [hreason] }
  · rw [if_neg hsome] at hreason
    have hnone : res.dispensed = 0 := by omega
    have hfull : res.reason ≠ "OK" ∧ res.reason ≠ "PARTIAL" := by
      rcases hwhy with rfl | rfl <;> simp [hreason]
    exact {
      ok := by simp [hok, hfull.1]
      enough := by simpa [hok] using hcount
      short := iff_of_false hfull.2 fun h => hsome h.1
      nothing := fun _ => hnone }

theorem exit_jam (hcount : h.coinCount < q.coins) (hnonneg : 0 ≤ h.coinCount) :
    Exit (q.done h false "JAM" attempt finish) :=
  exit_short (Or.inl rfl) rfl hcount hnonneg (by simp [Request.done, hcount])

theorem exit_timeout (hcount : h.coinCount < q.coins) (hnonneg : 0 ≤ h.coinCount) :
    Exit (q.done h false (Ending.timeout.reason h) attempt finish) := by
  refine exit_short (Or.inr rfl) rfl hcount hnonneg ?_
  simp only [Request.done, Ending.reason]
  by_cases hsome : 0 < h.coinCount
  · simp [hsome]
  · simp [hsome]

/-- Whatever a call has come to, its result fits. -/
theorem attempts_exit {res : DispenseResult} (hleft : attempt ≤ q.cfg.maxRetries)
    (hres : (q.attempts finish attempt h ok reason as).result = some res) : Exit res ∧ res.requested = q.coins := by
  induction as generalizing attempt h ok reason with
  | nil =>
    rw [Request.attempts, if_pos hleft] at hres
    cases hres
  | cons a as ih =>
    have hnonneg := (attempt_hopper q h a).2
    rw [Request.attempts, if_pos hleft] at hres
    rcases hpoll : q.poll (h.begin a) a.polls with ⟨h', e⟩
    rw [hpoll] at hres hnonneg
    cases e with
    | none => cases hres
    | some e =>
      have henough := poll_enough hpoll
      cases e with
      | enough =>
        obtain rfl := Option.some.inj hres
        exact ⟨exit_enough (henough.mp rfl), rfl⟩
      | timeout =>
        obtain rfl := Option.some.inj hres
        exact ⟨exit_timeout (not_le.mp fun hle => by simpa using henough.mpr hle) hnonneg, rfl⟩
      | jam =>
        by_cases hretry : attempt < q.cfg.maxRetries
        · simp only [if_pos hretry] at hres
          exact ih (by omega) hres
        · simp only [if_neg hretry] at hres
          obtain rfl := Option.some.inj hres
          exact ⟨exit_jam (not_le.mp fun hle => by simpa using henough.mpr hle) hnonneg, rfl⟩

/-- No more attempts are made than the retries allow. -/
theorem counted_length (q : Request) (finish attempt : Int) (h : HopperParallel) (ok : Bool) (reason : String)
    (as : List Attempt) (hleft : attempt ≤ q.cfg.maxRetries) :
    attempt + (q.attempts finish attempt h ok reason as).counted.length ≤ q.cfg.maxRetries + 1 := by
  induction as generalizing attempt h ok reason with
  | nil =>
    rw [Request.attempts, if_pos hleft]
    simp only [List.length_nil]
    omega
  | cons a as ih =>
    have hgoes := goes q finish hleft h ok reason a as
    generalize q.attempts finish attempt h ok reason (a :: as) = c at hgoes ⊢
    cases hgoes with
    | running h' => simpa using hleft
    | returned h' res => simpa using hleft
    | retried h' _ _ hretry =>
      have hrest := ih (attempt + 1) h' false "JAM" (by omega)
      rw [List.length_cons]
      push_cast
      omega

end

/-- Whatever the sensor reads, a call ends with the motor off after at most one attempt more than the retries, and the
result says whether the request was met. -/
theorem exit_contract (cfg : DispenseConfig) (hcfg : 0 ≤ cfg.maxRetries) (h : HopperParallel) (coins : Int) (r : Course)
    (hgrows : ∀ k, (r.attempts k).Grows) :
    ∃ c res, Returns cfg h coins r c ∧ c.result = some res ∧ c.counted.length ≤ cfg.maxRetries + 1 ∧
      c.hopper.motor = !c.hopper.motorActiveHigh ∧ res.requested = coins ∧ Exit res := by
  obtain ⟨c, ⟨N, hc⟩, hends⟩ := call_returns hcfg h coins hgrows
  obtain ⟨res, hres⟩ := Option.isSome_iff_exists.mp hends
  obtain rfl := hc N N le_rfl le_rfl
  have hlength : 0 + ((dispenseCoins cfg h coins (r.cut N N)).counted.length : Int) ≤ cfg.maxRetries + 1 :=
    counted_length _ _ _ _ _ _ _ hcfg
  obtain ⟨hexit, hrequested⟩ := attempts_exit hcfg hres
  exact ⟨_, res, ⟨N, hc⟩, hres, by omega, stopped hcfg hres, hrequested, hexit⟩

/-- The sensor never rises. -/
def still : Course where
  start := 0
  attempts _ := { level := false, settled := 0, polls := fun n => { level := false, ns := 0, now := n } }
  finish := 0

theorem exit_contract_still :
    ∃ c res, Returns {} {} 3 still c ∧ c.result = some res ∧ c.counted.length ≤ (2 : Int) + 1 ∧
      c.hopper.motor = !c.hopper.motorActiveHigh ∧ res.requested = 3 ∧ Exit res :=
  exit_contract {} (by decide) {} 3 still fun _ ns => ⟨ns.toNat, Int.self_le_toNat ns⟩

end Drawer.Dispense
