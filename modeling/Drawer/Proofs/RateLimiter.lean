import Drawer.Lib.TokenBucket
import Drawer.Spec.RateLimiter

/-! What the rate limiters keep to. The code's doubles follow a token bucket of four tokens that
regains one in ten seconds, up to a slack for what each request rounds. -/

namespace Drawer.Server
open Text Decimal TokenBucket Transition Twin

def bucket : Bucket ℚ := ⟨4, 1 / 10 ^ 10, 1 / 2 ^ 45⟩

/-- What a double stands for. -/
def amountOf : Double → ℚ
  | .finite negative q => signed negative q
  | _ => 0

def RateLimiter.level (l : RateLimiter) : Level ℚ := ⟨amountOf l.tokens, l.last⟩

/-- What every call of `allow` keeps. -/
structure RateLimiter.Sound (l : RateLimiter) : Prop where
  capacity : l.capacity = .finite false 4
  refill : l.refillPerSec = nearest false (1 / 10)
  tokens : ∃ t, l.tokens = .finite false t ∧ 0 ≤ t ∧ t ≤ 4

theorem ofInt_one : Double.ofInt 1 = .finite false 1 := by decide +kernel

theorem ofInt_billion : Double.ofInt 1000000000 = .finite false (10 ^ 9) := by decide +kernel

theorem tenth : nearest false (1 / 10) = .finite false (3602879701896397 / 36028797018963968) := by decide +kernel

theorem ofInt_four : Double.ofInt 4 = .finite false 4 := by decide +kernel

theorem RateLimiter.sound_make (now : ℤ) : (RateLimiter.make now).Sound where
  capacity := ofInt_four
  refill := rfl
  tokens := ⟨4, ofInt_four, by norm_num, le_rfl⟩

theorem slip_le {q c : ℚ} (h : q ≤ c) : slip q ≤ c / 2 ^ 53 + 1 / 2 ^ 200 := by
  unfold slip
  gcongr

/-- The refilled tokens, as the code computes them, are near to those of the bucket. -/
theorem RateLimiter.Sound.refilled {l : RateLimiter} (h : l.Sound) {now : ℤ} (hnow : l.last ≤ now) (hspan : now - l.last < 2 ^ 63) :
    ∃ m, l.capacity.min (l.tokens.add ((seconds (now - l.last)).mul l.refillPerSec)) = .finite false m ∧
      0 ≤ m ∧ m ≤ 4 ∧ |m - bucket.refilled l.level now| ≤ 1 / 2 ^ 46 := by
  obtain ⟨t, ht, ht0, ht4⟩ := h.tokens
  obtain ⟨n, hn⟩ := Int.eq_ofNat_of_zero_le (sub_nonneg.mpr hnow)
  have hn63 : (n : ℚ) ≤ 2 ^ 63 := by
    rw [hn] at hspan
    exact_mod_cast hspan.le
  have hn0 : (0 : ℚ) ≤ n := Nat.cast_nonneg n
  have helapsed : ((now : ℚ) - l.last) = n := by exact_mod_cast congrArg (Int.cast (R := ℚ)) hn
  -- each operation is off by its slip
  obtain ⟨c, hc, hc0, hcn⟩ := Double.ofInt_near (n := n) (by linarith)
  have hcn' := abs_le.mp (hcn.trans (slip_le le_rfl))
  obtain ⟨e, he, he0, hen⟩ := Double.div_near hc0 (show (0 : ℚ) < 10 ^ 9 by norm_num) (by linarith [hcn'.2])
  have hen' := abs_le.mp (hen.trans (slip_le le_rfl))
  obtain ⟨p, hp, hp0, hpn⟩ := Double.mul_near he0 (show (0 : ℚ) ≤ 3602879701896397 / 36028797018963968 by norm_num)
    (by linarith [hcn'.2, hen'.2])
  have hpn' := abs_le.mp (hpn.trans (slip_le le_rfl))
  obtain ⟨a, ha, ha0, han⟩ := Double.add_near ht0 hp0 (by linarith [hcn'.2, hen'.2, hpn'.2])
  have han' := abs_le.mp (han.trans (slip_le le_rfl))
  have hlevel : bucket.refilled l.level now = min 4 (t + n * (1 / 10 ^ 10)) := by
    rw [Bucket.refilled, RateLimiter.level, ht, helapsed]
    rfl
  refine ⟨min 4 a, ?_, le_min (by norm_num) ha0, min_le_left _ _, ?_⟩
  · rw [h.capacity, h.refill, tenth, ht, seconds, hn]
    rw [hc, ofInt_billion, he, hp, ha, Double.min_finite]
  · rw [hlevel]
    -- while neither is full the time is short, and so are the slips
    have hshort : (n : ℚ) ≤ 41 * 10 ^ 9 → |a - (t + n * (1 / 10 ^ 10))| ≤ 1 / 2 ^ 46 := by
      intro hn41
      rw [abs_le]
      constructor <;> linarith
    rcases le_total 4 a with hfull | hnot <;> rcases le_total 4 (t + (n : ℚ) * (1 / 10 ^ 10)) with hfull' | hnot'
    · rw [min_eq_left hfull, min_eq_left hfull', sub_self, abs_zero]
      positivity
    · rw [min_eq_left hfull, min_eq_right hnot', abs_le]
      have hnear := abs_le.mp (hshort (by linarith))
      constructor <;> linarith
    · rw [min_eq_right hnot, min_eq_left hfull', abs_le]
      have hnear := abs_le.mp (hshort (by linarith))
      constructor <;> linarith
    · rw [min_eq_right hnot, min_eq_right hnot']
      exact hshort (by linarith)

/-- A call of `allow` is a request to the bucket. -/
theorem RateLimiter.Sound.allow {l : RateLimiter} (h : l.Sound) {now : ℤ} (hnow : l.last ≤ now) (hspan : now - l.last < 2 ^ 63) :
    (l.allow now).2.Sound ∧ bucket.Step l.level ⟨now, (l.allow now).1⟩ (l.allow now).2.level := by
  obtain ⟨m, hm, hm0, hm4, hnear⟩ := h.refilled hnow hspan
  have hnear' := abs_le.mp hnear
  have hslack : bucket.slack = 1 / 2 ^ 45 := rfl
  by_cases hle : 1 ≤ m
  · have hone : (Double.ofInt 1).le (.finite false m) = true := by
      rw [ofInt_one]
      exact decide_eq_true hle
    obtain ⟨v, hv, hv0, hvn⟩ := Double.sub_near hle (by linarith)
    have hvn' := abs_le.mp (hvn.trans (slip_le (show m - 1 ≤ 3 by linarith)))
    have hallow : l.allow now = (true, { l with tokens := .finite false v, last := now }) := by
      unfold RateLimiter.allow
      dsimp only
      rw [hm, if_pos hone, ofInt_one, hv]
    rw [hallow]
    refine ⟨⟨h.capacity, h.refill, v, rfl, hv0, by linarith⟩, rfl, hv0, ?_, ?_, fun hrefused => by cases hrefused⟩
    · change v + 1 ≤ bucket.refilled l.level now + bucket.slack
      rw [hslack]
      linarith
    · change bucket.refilled l.level now ≤ v + 1 + bucket.slack
      rw [hslack]
      linarith
  · have hone : (Double.ofInt 1).le (.finite false m) = false := by
      rw [ofInt_one]
      exact decide_eq_false hle
    have hallow : l.allow now = (false, { l with tokens := .finite false m, last := now }) := by
      unfold RateLimiter.allow
      dsimp only
      rw [hm, if_neg (by rw [hone]; exact Bool.false_ne_true)]
    rw [hallow]
    refine ⟨⟨h.capacity, h.refill, m, rfl, hm0, hm4⟩, rfl, hm0, ?_, ?_, fun _ => not_le.mp hle⟩
    · change m + 0 ≤ bucket.refilled l.level now + bucket.slack
      rw [hslack]
      linarith
    · change bucket.refilled l.level now ≤ m + 0 + bucket.slack
      rw [hslack]
      linarith

/-! ### Runs -/

variable {ω : Type} {start : Start} {s s' : Front ω} {e : FrontEvent ω} {es : List (FrontEvent ω)} {p : Limited}

/-- The requests at a path, as its limiter answered them. -/
def askedOf (p : Limited) : FrontEvent ω → Option (Request ℚ)
  | .arrival r answer => if r.path = p.path then some ⟨r.now, !limited answer⟩ else none
  | .fleet _ => none

theorem limit_start (s : Front ω) (r : Arrival) : (s.limit r).2.start = s.start ∧ (s.limit r).2.fleet = s.fleet := by
  unfold Front.limit
  split_ifs <;> exact ⟨rfl, rfl⟩

theorem limit_asked (s : Front ω) {r : Arrival} (h : r.path = p.path) :
    (s.limit r).1 = ((s.limiter p).allow r.now).1 ∧ (s.limit r).2.limiter p = ((s.limiter p).allow r.now).2 := by
  have hne : "/command" ≠ "/txn" := by decide
  cases p <;> simp [Front.limit, Front.limiter, h, Limited.path, hne]

theorem limit_other (s : Front ω) {r : Arrival} (h : r.path ≠ p.path) : (s.limit r).2.limiter p = s.limiter p := by
  unfold Front.limit
  cases p with
  | txn =>
    split_ifs with htxn
    · exact absurd htxn h
    · rfl
    · rfl
  | command =>
    split_ifs with htxn hcommand
    · rfl
    · exact absurd hcommand h
    · rfl

theorem preRouting_snd (s : Front ω) (r : Arrival) : (s.preRouting r).2 = (s.limit r).2 := by
  unfold Front.preRouting
  dsimp only
  split_ifs <;> rfl

theorem limited_preRouting (s : Front ω) (r : Arrival) : limited (s.preRouting r).1 = !(s.limit r).1 := by
  unfold Front.preRouting
  dsimp only
  split_ifs with hallowed hblocks
  · rw [hallowed]
    rfl
  · rw [Bool.eq_false_of_not_eq_true hallowed]
    rfl
  · rw [Bool.eq_false_of_not_eq_true hallowed]
    unfold Start.authorize
    split_ifs <;> rfl

theorem passed_spec (s : Front ω) (r : Arrival) (h : (s.preRouting r).1 = .ok ()) :
    s.fleet.blocks r.path = false ∧ s.start.authorize (utf8 r.path) r.auth = .ok () := by
  obtain ⟨hstart, hfleet⟩ := limit_start s r
  unfold Front.preRouting at h
  dsimp only at h
  split_ifs at h with hallowed hblocks
  rw [hfleet] at hblocks
  rw [hstart] at h
  exact ⟨Bool.eq_false_of_not_eq_true hblocks, h⟩

def Front.Sound (s : Front ω) : Prop := ∀ p, (s.limiter p).Sound

theorem Front.sound_open (start : Start) (fleet : FleetManager ω) (now : ℤ) : (Front.open start fleet now).Sound := by
  intro p
  cases p <;> exact RateLimiter.sound_make now

/-- What a step does to a limiter: a request to its bucket, or nothing. -/
theorem Front.Sound.step (hs : s.Sound) (h : s.Step e s') (p : Limited) :
    (s'.limiter p).Sound ∧
      ∀ asked, askedOf p e = asked → match asked with
        | some q => bucket.Step (s.limiter p).level q (s'.limiter p).level
        | none => s'.limiter p = s.limiter p := by
  cases e with
  | fleet m =>
    obtain rfl := h
    exact ⟨by cases p with | txn => exact hs .txn | command => exact hs .command, fun asked hasked => by subst hasked; cases p <;> rfl⟩
  | arrival r answer =>
    obtain ⟨htimely, hpre⟩ := h
    have hs' : s' = (s.limit r).2 := by rw [← preRouting_snd, hpre]
    have hanswer : (!limited answer) = (s.limit r).1 := by
      rw [← Bool.not_not (s.limit r).1, ← limited_preRouting, hpre]
    subst hs'
    by_cases hpath : r.path = p.path
    · obtain ⟨hallowed, hlimiter⟩ := limit_asked s hpath
      obtain ⟨hsound, hstep⟩ := (hs p).allow (htimely p).1 (htimely p).2
      refine ⟨by rw [hlimiter]; exact hsound, fun asked hasked => ?_⟩
      rw [askedOf, if_pos hpath, hanswer, hallowed] at hasked
      subst hasked
      rw [hlimiter]
      exact hstep
    · refine ⟨by rw [limit_other s hpath]; exact hs p, fun asked hasked => ?_⟩
      rw [askedOf, if_neg hpath] at hasked
      subst hasked
      exact limit_other s hpath

/-- To a limiter, a run is the run of its bucket over the requests at its path. -/
theorem Front.Sound.run (hs : s.Sound) (h : Run Front.Step s es s') :
    s'.Sound ∧ ∀ p, Run bucket.Step (s.limiter p).level (es.filterMap (askedOf p)) (s'.limiter p).level := by
  induction h with
  | nil => exact ⟨hs, fun p => Run.nil⟩
  | @snoc es s₁ e s₂ _ hstep ih =>
    refine ⟨fun p => (ih.1.step hstep p).1, fun p => ?_⟩
    have hlast := (ih.1.step hstep p).2
    rw [List.filterMap_append]
    cases hasked : askedOf p e with
    | none =>
      have hsame := hlast none hasked
      rw [List.filterMap_cons_none hasked, List.filterMap_nil, List.append_nil, hsame]
      exact ih.2 p
    | some q =>
      rw [List.filterMap_cons_some hasked, List.filterMap_nil]
      exact Run.snoc (ih.2 p) (hlast (some q) hasked)

/-- The fleet manager there is after some events. -/
def fleetAfter (m : FleetManager ω) (es : List (FrontEvent ω)) : FleetManager ω :=
  es.foldl (fun m e => match e with | .fleet m' => m' | .arrival _ _ => m) m

theorem front_run {fleet : FleetManager ω} {opened : ℤ} (h : Run Front.Step (Front.open start fleet opened) es s) :
    s.start = start ∧ s.fleet = fleetAfter fleet es := by
  induction h with
  | nil => exact ⟨rfl, rfl⟩
  | @snoc es s₁ e s₂ _ hstep ih =>
    unfold fleetAfter at ih ⊢
    rw [List.foldl_append]
    cases e with
    | fleet m =>
      obtain rfl := hstep
      exact ⟨ih.1, rfl⟩
    | arrival r answer =>
      have hs' : s₂ = (s₁.limit r).2 := by rw [← preRouting_snd, hstep.2]
      obtain ⟨hstart, hfleet⟩ := limit_start s₁ r
      rw [hs']
      exact ⟨hstart.trans ih.1, hfleet.trans ih.2⟩

/-- Whether a request at the path passes. -/
def passes (p : Limited) : FrontEvent ω → Bool
  | .arrival r (.ok _) => r.path = p.path
  | _ => false

/-- How many requests at the path pass, and how many there are. -/
def passed (p : Limited) (es : List (FrontEvent ω)) : ℕ := es.countP (passes p)

def arrived (p : Limited) (es : List (FrontEvent ω)) : ℕ := (es.filterMap (askedOf p)).length

theorem passed_le_allowed (p : Limited) (es : List (FrontEvent ω)) : passed p es ≤ allowed (es.filterMap (askedOf p)) := by
  unfold passed allowed
  rw [List.countP_filterMap]
  refine List.countP_mono_left fun e _ hpasses => ?_
  match e with
  | .arrival r (.ok _) =>
    have hpath : r.path = p.path := of_decide_eq_true hpasses
    simp [askedOf, hpath, limited]
  | .arrival r (.error _) => cases hpasses
  | .fleet _ => cases hpasses

theorem asked_within {t₀ t₁ : ℤ} (hwithin : ∀ r answer, FrontEvent.arrival r answer ∈ es → r.path = p.path → t₀ ≤ r.now ∧ r.now ≤ t₁)
    {q : Request ℚ} (hq : q ∈ es.filterMap (askedOf p)) : (t₀ : ℚ) ≤ q.now ∧ q.now ≤ t₁ := by
  obtain ⟨e, he, hasked⟩ := List.mem_filterMap.mp hq
  cases e with
  | fleet m => cases hasked
  | arrival r answer =>
    have hpath : r.path = p.path := by
      by_contra hpath
      rw [askedOf, if_neg hpath] at hasked
      cases hasked
    rw [askedOf, if_pos hpath] at hasked
    obtain rfl := Option.some.inj hasked
    obtain ⟨hfirst, hlast⟩ := hwithin r answer he hpath
    exact ⟨Int.cast_le.mpr hfirst, Int.cast_le.mpr hlast⟩

/-- Whatever comes in whatever order, a request at `/txn` or `/command` passes only with the credentials and while its
drawer is not disabled, and of those in any stretch of time there pass no more than four, and one for each ten seconds. -/
theorem passed_bounded {fleet : FleetManager ω} {opened : ℤ} {before : List (FrontEvent ω)}
    (hbefore : Run Front.Step (Front.open start fleet opened) before s) (h : Run Front.Step s es s') {t₀ t₁ : ℤ} (hle : t₀ ≤ t₁)
    (hwithin : ∀ r answer, .arrival r answer ∈ es → r.path = p.path → t₀ ≤ r.now ∧ r.now ≤ t₁) :
    (∀ l r rest, es = l ++ .arrival r (.ok ()) :: rest →
      (fleetAfter fleet (before ++ l)).blocks r.path = false ∧ start.authorize (utf8 r.path) r.auth = .ok ()) ∧
    (passed p es : ℚ) ≤ 4 + (t₁ - t₀) / 10 ^ 10 + arrived p es / 2 ^ 45 := by
  refine ⟨fun l r rest hes => ?_, ?_⟩
  · subst hes
    obtain ⟨s₁, s₂, hl, hstep, -⟩ := h.cut
    obtain ⟨hstart, hfleet⟩ := front_run (hbefore.append hl)
    have hpassed := passed_spec s₁ r (by rw [hstep.2])
    rw [hstart, hfleet] at hpassed
    exact hpassed
  · have hsound := ((Front.sound_open start fleet opened).run hbefore).1
    have hbucket := (hsound.run h).2 p
    have hallowed : (passed p es : ℚ) ≤ allowed (es.filterMap (askedOf p)) := by exact_mod_cast passed_le_allowed p es
    have htime : (0 : ℚ) ≤ t₁ - t₀ := by
      rw [sub_nonneg]
      exact_mod_cast hle
    rcases eq_or_ne (es.filterMap (askedOf p)) [] with hnone | hne
    · have hzero : allowed (es.filterMap (askedOf p)) = 0 := by rw [hnone]; rfl
      rw [hzero, Nat.cast_zero] at hallowed
      have hnonneg : (0 : ℚ) ≤ 4 + (t₁ - t₀) / 10 ^ 10 + arrived p es / 2 ^ 45 := by positivity
      exact hallowed.trans hnonneg
    · have hbound := allowed_le hbucket hne
      have hfirst := (asked_within hwithin (List.head_mem hne)).1
      have hlast := (asked_within hwithin (List.getLast_mem hne)).2
      have hspan : ((List.getLast _ hne).now - (List.head _ hne).now) * (1 / 10 ^ 10) ≤ ((t₁ : ℚ) - t₀) / 10 ^ 10 := by
        rw [mul_one_div]
        gcongr
      change _ ≤ 4 + _ * (1 / 10 ^ 10) + _ * (1 / 2 ^ 45) at hbound
      rw [mul_one_div _ ((2 : ℚ) ^ 45)] at hbound
      exact hallowed.trans (hbound.trans (by unfold arrived; gcongr))

/-! ### A server on its own device, with requests five seconds apart -/

def sampleStart : Start := ⟨ascii "127.0.0.1", ascii "key", none, false⟩

def sampleArrival : Arrival := ⟨"/txn", ascii "Bearer key", 5000000000⟩

/-- The handler after some of them. -/
def sampleFront : ℕ → Front Unit
  | 0 => .open sampleStart { world := () } 0
  | n + 1 => ((sampleFront n).preRouting sampleArrival).2

def sampleEvent (n : ℕ) : FrontEvent Unit := .arrival sampleArrival ((sampleFront n).preRouting sampleArrival).1

theorem sampleFront_last (n : ℕ) : (∀ p, 0 ≤ ((sampleFront n).limiter p).last ∧ ((sampleFront n).limiter p).last ≤ 5000000000) := by
  induction n with
  | zero =>
    intro p
    cases p <;> decide +kernel
  | succ n ih =>
    intro p
    rw [sampleFront, preRouting_snd]
    by_cases hpath : sampleArrival.path = p.path
    · rw [(limit_asked _ hpath).2]
      have hlast : (((sampleFront n).limiter p).allow sampleArrival.now).2.last = 5000000000 := by
        unfold RateLimiter.allow
        dsimp only
        split_ifs <;> rfl
      rw [hlast]
      decide
    · rw [limit_other _ hpath]
      exact ih p

theorem sampleFront_step (n : ℕ) : (sampleFront n).Step (sampleEvent n) (sampleFront (n + 1)) := by
  refine ⟨fun p => ?_, rfl⟩
  obtain ⟨hfirst, hlast⟩ := sampleFront_last n p
  exact ⟨hlast, by change 5000000000 - _ < _; omega⟩

theorem sampleFront_run (n : ℕ) : Run Front.Step (sampleFront 0) ((List.range n).map sampleEvent) (sampleFront n) := by
  induction n with
  | zero => exact Run.nil
  | succ n ih =>
    rw [List.range_succ, List.map_append]
    exact Run.snoc ih (sampleFront_step n)

/-- Of five requests at once, four pass. -/
theorem passed_bounded_sample : passed .txn ((List.range 5).map sampleEvent) = 4 ∧
    (passed .txn ((List.range 5).map sampleEvent) : ℚ) ≤ 4 + (5000000000 - 5000000000) / 10 ^ 10 + 5 / 2 ^ 45 := by
  have hwithin : ∀ r answer, FrontEvent.arrival r answer ∈ (List.range 5).map sampleEvent → r.path = Limited.txn.path →
      (5000000000 : ℤ) ≤ r.now ∧ r.now ≤ 5000000000 := by
    intro r answer hmem _
    obtain ⟨n, -, hn⟩ := List.mem_map.mp hmem
    obtain ⟨rfl, -⟩ := FrontEvent.arrival.inj hn
    decide
  exact ⟨by decide +kernel, (passed_bounded Run.nil (sampleFront_run 5) le_rfl hwithin).2⟩

/-- The limiter of a path refuses everything for less than ten seconds on end. -/
theorem refused_briefly {fleet : FleetManager ω} {opened : ℤ} {before : List (FrontEvent ω)} {r₀ r₁ : Arrival}
    {a₀ a₁ : Except Refusal Unit} (hbefore : Run Front.Step (Front.open start fleet opened) (before ++ [.arrival r₀ a₀]) s)
    (h : Run Front.Step s (es ++ [.arrival r₁ a₁]) s') (h₀ : r₀.path = p.path) (h₁ : r₁.path = p.path)
    (hrefused : ∀ r answer, .arrival r answer ∈ es ++ [.arrival r₁ a₁] → r.path = p.path → limited answer = true) :
    ((r₁.now - r₀.now : ℤ) : ℚ) < 10 ^ 10 * (1 + (arrived p es + 1) / 2 ^ 45) := by
  obtain ⟨s₁, hrun, hstep⟩ := hbefore.snoc_inv
  have hasked : ∀ {r : Arrival} {a : Except Refusal Unit}, r.path = p.path →
      askedOf p (.arrival r a : FrontEvent ω) = some ⟨r.now, !limited a⟩ :=
    fun hpath => if_pos hpath
  -- the first of them leaves a level that is not negative
  have hsound := ((Front.sound_open start fleet opened).run hrun).1
  have hfirst : bucket.Step (s₁.limiter p).level ⟨r₀.now, !limited a₀⟩ (s.limiter p).level :=
    (hsound.step hstep p).2 _ (hasked h₀)
  have hbucket := (Front.Sound.run (fun p => (hsound.step hstep p).1) h).2 p
  have hnone : ∀ q ∈ (es ++ [FrontEvent.arrival r₁ a₁]).filterMap (askedOf p), q.allowed = false := by
    intro q hq
    obtain ⟨e, he, hqe⟩ := List.mem_filterMap.mp hq
    cases e with
    | fleet m => cases hqe
    | arrival r a =>
      by_cases hpath : r.path = p.path
      · rw [hasked hpath] at hqe
        obtain rfl := Option.some.inj hqe
        change (!limited a) = false
        rw [hrefused r a he hpath]
        rfl
      · rw [askedOf, if_neg hpath] at hqe
        cases hqe
  rw [List.filterMap_append, List.filterMap_cons_some (hasked h₁), List.filterMap_nil] at hbucket hnone
  have hspan := refused_span (by norm_num [bucket]) hfirst.nonneg hbucket hnone
  rw [hfirst.last] at hspan
  change ((r₁.now : ℚ) - r₀.now) * (1 / 10 ^ 10) < 1 + (arrived p es + 1) * (1 / 2 ^ 45) at hspan
  rw [Int.cast_sub]
  linarith

theorem refused_briefly_sample : ((sampleArrival.now - sampleArrival.now : ℤ) : ℚ) <
    10 ^ 10 * (1 + ((arrived .txn ([] : List (FrontEvent Unit)) : ℕ) + 1) / 2 ^ 45) := by
  have hrefused : ∀ r answer, FrontEvent.arrival r answer ∈ [] ++ [sampleEvent 4] → r.path = Limited.txn.path →
      limited answer = true := by
    intro r answer hmem _
    obtain ⟨-, rfl⟩ := FrontEvent.arrival.inj (List.mem_singleton.mp hmem)
    decide +kernel
  exact refused_briefly (Run.snoc (sampleFront_run 3) (sampleFront_step 3)) (Run.snoc Run.nil (sampleFront_step 4)) rfl rfl hrefused

end Drawer.Server
