import Mathlib.Tactic

/-! Logs whose records are numbered and linked by hashes. A record carries its
number, the hash of the record before it and its own hash; the digest of a record
is computed from all of it but its hash. A linked log grows at its end only, and
where digests tell records apart its last hash determines all of it. -/

/-- Where a record has its number, its link and its hash, and how its hash is computed. -/
structure HashChain (α β : Type) where
  number : α → Int
  previous : α → β
  hash : α → β
  digest : α → β

namespace HashChain

variable {α β : Type} (c : HashChain α β)

/-- The record follows a record with the hash `p` as the `n`-th. -/
def Follows (n : Int) (p : β) (e : α) : Prop := c.number e = n ∧ c.previous e = p ∧ c.hash e = c.digest e

/-- The records are linked, from the `n`-th on, to a record with the hash `p`. -/
def Linked : Int → β → List α → Prop
  | _, _, [] => True
  | n, p, e :: l => c.Follows n p e ∧ Linked (n + 1) (c.hash e) l

/-- The hash to link to after `l`. -/
def last (p : β) (l : List α) : β := (l.getLast?.map c.hash).getD p

variable {c}

theorem last_cons (p : β) (e : α) (l : List α) : c.last p (e :: l) = c.last (c.hash e) l := by
  cases l with
  | nil => rfl
  | cons e' l => rw [last, last, List.getLast?_cons_cons, List.getLast?_cons]; rfl

theorem last_append_singleton (p : β) (l : List α) (e : α) : c.last p (l ++ [e]) = c.hash e := by simp [last]

theorem linked_append {n : Int} {p : β} {l l' : List α} :
    c.Linked n p (l ++ l') ↔ c.Linked n p l ∧ c.Linked (n + l.length) (c.last p l) l' := by
  induction l generalizing n p with
  | nil => simp [Linked, last]
  | cons e l ih =>
    have hlength : n + 1 + (l.length : Int) = n + ((e :: l).length : ℕ) := by
      rw [List.length_cons]
      push_cast
      ring
    rw [List.cons_append, Linked, Linked, ih, last_cons, hlength, and_assoc]

theorem linked_append_singleton {n : Int} {p : β} {l : List α} {e : α} :
    c.Linked n p (l ++ [e]) ↔ c.Linked n p l ∧ c.Follows (n + l.length) (c.last p l) e := by
  rw [linked_append]
  simp [Linked]

/-- Two linked logs with the same last hash are the same, if the hash and the digest of a record determine it. -/
theorem Linked.unique {n : Int} {p : β} {l l' : List α} (hl : c.Linked n p l) (hl' : c.Linked n p l')
    (hbinds : ∀ e ∈ l, ∀ e' ∈ l', c.hash e = c.hash e' → c.digest e = c.digest e' → e = e') (hne : l ≠ []) (hne' : l' ≠ [])
    (hlast : c.last p l = c.last p l') : l = l' := by
  induction l using List.reverseRecOn generalizing l' with
  | nil => exact absurd rfl hne
  | append_singleton l e ih =>
    obtain ⟨l', e', rfl⟩ : ∃ r x, l' = r ++ [x] := by
      rcases List.eq_nil_or_concat l' with h | ⟨r, x, h⟩
      · exact absurd h hne'
      · exact ⟨r, x, by simpa using h⟩
    rw [linked_append_singleton] at hl hl'
    rw [last_append_singleton, last_append_singleton] at hlast
    obtain ⟨hl, hnumber, hprevious, hhash⟩ := hl
    obtain ⟨hl', hnumber', hprevious', hhash'⟩ := hl'
    obtain rfl : e = e' := hbinds e (by simp) e' (by simp) hlast (by rw [← hhash, hlast, hhash'])
    -- the last records are the same, so they have the same number and the same link
    have hlength : l.length = l'.length := by omega
    rcases List.eq_nil_or_concat l with rfl | ⟨r, x, hr⟩
    · obtain rfl := List.length_eq_zero_iff.mp (show l'.length = 0 by simpa using hlength.symm)
      rfl
    · have hlne : l ≠ [] := by simp [hr]
      have hlne' : l' ≠ [] := by
        rintro rfl
        simp [hr] at hlength
      rw [ih hl hl' (fun a ha b hb => hbinds a (by simp [ha]) b (by simp [hb])) hlne hlne' (hprevious.symm.trans hprevious')]

end HashChain
