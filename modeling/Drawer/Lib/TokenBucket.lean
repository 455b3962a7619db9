import Drawer.Lib.Transition

/-! Token buckets. A bucket fills up with time, at a fixed rate, to its capacity, and a request takes
one token if there is one. The levels may be off by a slack at each request, as those of an
implementation that rounds are. -/

namespace TokenBucket
open Transition

variable {K : Type*} [Field K]

structure Bucket (K : Type*) where
  capacity : K
  rate : K
  slack : K

structure Level (K : Type*) where
  tokens : K
  last : K

/-- A request, and how it was answered. -/
structure Request (K : Type*) where
  now : K
  allowed : Bool

def Request.cost (r : Request K) : K := if r.allowed then 1 else 0

def allowed (rs : List (Request K)) : ℕ := rs.countP Request.allowed

theorem allowed_snoc (rs : List (Request K)) (r : Request K) : (allowed (rs ++ [r]) : K) = allowed rs + r.cost := by
  unfold allowed Request.cost
  rw [List.countP_append, List.countP_singleton, Nat.cast_add, Nat.cast_ite, Nat.cast_one, Nat.cast_zero]

variable [LinearOrder K]

/-- What is in the bucket by `now`. -/
def Bucket.refilled (b : Bucket K) (l : Level K) (now : K) : K := min b.capacity (l.tokens + (now - l.last) * b.rate)

/-- A request takes the bucket from one level to another. -/
structure Bucket.Step (b : Bucket K) (l : Level K) (r : Request K) (l' : Level K) : Prop where
  last : l'.last = r.now
  nonneg : 0 ≤ l'.tokens
  spent : l'.tokens + r.cost ≤ b.refilled l r.now + b.slack
  kept : b.refilled l r.now ≤ l'.tokens + r.cost + b.slack
  refused : r.allowed = false → l'.tokens < 1

variable [IsStrictOrderedRing K] {b : Bucket K} {l l' : Level K} {r : Request K} {rs : List (Request K)}

/-- Of requests in a row, no more are allowed than a full bucket holds and the time since the first of them refills. -/
theorem spent_run (h : Run b.Step l rs l') (hne : rs ≠ []) :
    l'.tokens + allowed rs ≤ b.capacity + (l'.last - (rs.head hne).now) * b.rate + rs.length * b.slack := by
  induction h with
  | nil => exact absurd rfl hne
  | @snoc rs s r s' hrun hstep ih =>
    have hlength : ((rs ++ [r]).length : K) * b.slack = rs.length * b.slack + b.slack := by
      rw [List.length_append, List.length_singleton, Nat.cast_add, Nat.cast_one, add_mul, one_mul]
    rw [allowed_snoc, hlength, hstep.last]
    rcases eq_or_ne rs [] with rfl | hbefore
    · have hfull : b.refilled s r.now ≤ b.capacity := min_le_left _ _
      have hspent := hstep.spent
      simp only [allowed, List.countP_nil, List.nil_append, List.head_cons, List.length_nil, Nat.cast_zero]
      linarith
    · have hhead : (rs ++ [r]).head hne = rs.head hbefore := List.head_append_of_ne_nil hbefore
      have hrefilled : b.refilled s r.now ≤ s.tokens + (r.now - s.last) * b.rate := min_le_right _ _
      have hsplit : (r.now - (rs.head hbefore).now) * b.rate =
          (s.last - (rs.head hbefore).now) * b.rate + (r.now - s.last) * b.rate := by ring
      have hspent := hstep.spent
      have hrest := ih hbefore
      rw [hhead, hsplit]
      linarith

theorem allowed_le (h : Run b.Step l rs l') (hne : rs ≠ []) :
    (allowed rs : K) ≤ b.capacity + ((rs.getLast hne).now - (rs.head hne).now) * b.rate + rs.length * b.slack := by
  have hend : 0 ≤ l'.tokens ∧ l'.last = (rs.getLast hne).now := by
    cases h with
    | nil => exact absurd rfl hne
    | snoc _ hstep =>
      rw [List.getLast_append_singleton]
      exact ⟨hstep.nonneg, hstep.last⟩
  have hspent := spent_run h hne
  rw [hend.2] at hspent
  linarith [hend.1]

/-- Requests that are all refused leave to a later one what is refilled in the meantime. -/
theorem kept_run (hroom : 1 + b.slack ≤ b.capacity) (h : Run b.Step l rs l') (hnone : ∀ r ∈ rs, r.allowed = false) :
    l.tokens + (l'.last - l.last) * b.rate ≤ l'.tokens + rs.length * b.slack := by
  induction h with
  | nil => simp
  | @snoc rs s r s' hrun hstep ih =>
    have hrefused := hnone r List.mem_concat_self
    have hcost : r.cost = 0 := by rw [Request.cost, hrefused, if_neg Bool.false_ne_true]
    have hkept := hstep.kept
    have hlow := hstep.refused hrefused
    have hrest := ih fun r hr => hnone r (List.mem_append_left _ hr)
    -- a bucket that refuses is not full
    have hrefilled : b.refilled s r.now = s.tokens + (r.now - s.last) * b.rate := by
      refine (min_choice _ _).resolve_left fun hfull => ?_
      rw [Bucket.refilled, hfull] at hkept
      linarith
    rw [hrefilled] at hkept
    have hsplit : (r.now - l.last) * b.rate = (s.last - l.last) * b.rate + (r.now - s.last) * b.rate := by ring
    rw [List.length_append, List.length_singleton, Nat.cast_add, Nat.cast_one, add_mul, one_mul, hstep.last, hsplit]
    linarith

/-- Requests are all refused only as long as less than one token is refilled. -/
theorem refused_span (hroom : 1 + b.slack ≤ b.capacity) (hl : 0 ≤ l.tokens) (h : Run b.Step l (rs ++ [r]) l')
    (hnone : ∀ q ∈ rs ++ [r], q.allowed = false) : (r.now - l.last) * b.rate < 1 + (rs.length + 1) * b.slack := by
  have hkept := kept_run hroom h hnone
  obtain ⟨s, -, hstep⟩ := h.snoc_inv
  have hlow := hstep.refused (hnone r List.mem_concat_self)
  rw [hstep.last, List.length_append, List.length_singleton, Nat.cast_add, Nat.cast_one] at hkept
  linarith

end TokenBucket
