import Drawer.Sanity.Store

/-! How long a recorded key survives in the log. The constructor multiplies the
number of hours by the nanoseconds of a second, so a record is dropped once it is
`ttl_hours` seconds old. -/

namespace Drawer.Pos.IdempotencyStore
open Text

/-- The record of a put: its first time depends on the map it was made in. -/
def Put.record (p : Put) (firstNs : Int) : IdemRec :=
  { key := p.key, payloadHash := p.payloadHash, resultJson := p.result.getD [], firstNs, lastNs := p.now,
    status := match p.result with
      | none => ascii "PENDING"
      | some _ => ascii "DONE" }

theorem readRec_pendingLine (key payloadHash : Bytes) (firstNs lastNs : Int) (result status : Bytes) :
    readRec (pendingLine ⟨key, payloadHash, result, status, firstNs, lastNs⟩) =
      .ok ⟨key, payloadHash, [], ascii "PENDING", firstNs, lastNs⟩ := rfl

theorem readRec_doneLine (key payloadHash : Bytes) (firstNs lastNs : Int) (result status : Bytes) :
    readRec (doneLine ⟨key, payloadHash, result, status, firstNs, lastNs⟩) =
      .ok ⟨key, payloadHash, result, ascii "DONE", firstNs, lastNs⟩ := rfl

/-- A put adds one line to the log if its strings can be dumped, and none otherwise. -/
theorem apply_put_file (s : IdempotencyStore) (p : Put) :
    ∃ line firstNs, readRec line = .ok (p.record firstNs) ∧
      (p.Recorded → (apply s (.put p)).file = s.file ++ [line]) ∧
      (¬ p.Recorded → (apply s (.put p)).file = s.file) := by
  obtain ⟨key, payloadHash, _ | result, now⟩ := p
  · refine ⟨_, _, readRec_pendingLine key payloadHash now now [] (ascii "PENDING"), fun hp => ?_, fun hp => ?_⟩
    · have hv : ∀ text ∈ [key, payloadHash], validUtf8 text = true := hp
      simp only [apply, putPending, writeLine_of_valid _ _ hv]
    · have hv : ¬ ∀ text ∈ [key, payloadHash], validUtf8 text = true := hp
      simp only [apply, putPending, writeLine_of_invalid _ _ hv]
  · refine ⟨_, _, readRec_doneLine key payloadHash
      (if ((s.map.lookup key).getD {}).firstNs ≠ 0 then ((s.map.lookup key).getD {}).firstNs else now) now
      result (ascii "DONE"), fun hp => ?_, fun hp => ?_⟩
    · have hv : ∀ text ∈ [key, payloadHash, result], validUtf8 text = true := hp
      simp only [apply, putDone, writeLine_of_valid _ _ hv]
    · have hv : ¬ ∀ text ∈ [key, payloadHash, result], validUtf8 text = true := hp
      simp only [apply, putDone, writeLine_of_invalid _ _ hv]

/-- The lines of a list of operations, each the line of one of its puts. -/
theorem foldl_apply_file (s : IdempotencyStore) (ops : List Op) :
    ∃ lines, (ops.foldl apply s).file = s.file ++ lines ∧
      ∀ line ∈ lines, ∃ p firstNs, Op.put p ∈ ops ∧ readRec line = .ok (p.record firstNs) := by
  induction ops generalizing s with
  | nil => exact ⟨[], by simp⟩
  | cons op ops ih =>
    obtain ⟨lines, hf, hl⟩ := ih (apply s op)
    have hmem : ∀ line ∈ lines, ∃ p firstNs, Op.put p ∈ op :: ops ∧ readRec line = .ok (p.record firstNs) := by
      intro line hm
      obtain ⟨p, firstNs, hp, hr⟩ := hl line hm
      exact ⟨p, firstNs, List.mem_cons_of_mem _ hp, hr⟩
    cases op with
    | reopen ttlHours readAt sweptAt =>
      refine ⟨lines, ?_, hmem⟩
      rw [List.foldl_cons, hf]
      congr 1
      simp only [apply, openOn, sweepExpired]
      split_ifs <;> rfl
    | put p =>
      obtain ⟨line, firstNs, hr, hin, hout⟩ := apply_put_file s p
      by_cases hp : p.Recorded
      · refine ⟨line :: lines, ?_, ?_⟩
        · rw [List.foldl_cons, hf, hin hp, List.append_assoc, List.singleton_append]
        · intro line' hm
          rcases List.mem_cons.mp hm with rfl | hm
          · exact ⟨p, firstNs, List.mem_cons_self, hr⟩
          · exact hmem line' hm
      · refine ⟨lines, ?_, hmem⟩
        rw [List.foldl_cons, hf, hout hp]

/-- Reading lines of other keys leaves the entry of `key` as it was. -/
theorem lookup_foldl_readLine_ne (ttlNs now : Int) (key : Bytes) (lines : List (Json Bytes))
    (m : Dict Bytes IdemRec) (h : ∀ line ∈ lines, ∀ r, readRec line = .ok r → r.key ≠ key) :
    (lines.foldl (readLine ttlNs now) m).lookup key = m.lookup key := by
  induction lines generalizing m with
  | nil => rfl
  | cons line lines ih =>
    rw [List.foldl_cons, ih _ fun l hl => h l (List.mem_cons_of_mem _ hl)]
    unfold readLine
    split
    · rename_i r hr
      split_ifs
      · rfl
      · rw [Dict.lookup_insert_if, if_neg]
        exact fun he => h line List.mem_cons_self r hr he.symm
    · rfl

/-- If no line of `key` is later than `t`, neither is the entry read for it. -/
theorem lookup_foldl_readLine_le (ttlNs now t : Int) (key : Bytes) (lines : List (Json Bytes))
    (m : Dict Bytes IdemRec) (hm : ∀ r, m.lookup key = some r → r.lastNs ≤ t)
    (h : ∀ line ∈ lines, ∀ r, readRec line = .ok r → r.key = key → r.lastNs ≤ t) :
    ∀ r, (lines.foldl (readLine ttlNs now) m).lookup key = some r → r.lastNs ≤ t := by
  induction lines generalizing m with
  | nil => exact hm
  | cons line lines ih =>
    rw [List.foldl_cons]
    refine ih _ ?_ fun l hl => h l (List.mem_cons_of_mem _ hl)
    intro r hr
    unfold readLine at hr
    split at hr
    · rename_i r' hr'
      split_ifs at hr
      · exact hm r hr
      · rw [Dict.lookup_insert_if] at hr
        split_ifs at hr with hk
        · obtain rfl := Option.some.inj hr
          exact h line List.mem_cons_self _ hr' hk.symm
        · exact hm r hr
    · exact hm r hr

theorem lookup_openOn {ttlHours : Int} (hpos : 0 < ttlHours) (file : List (Json Bytes)) (readAt sweptAt : Int)
    (key : Bytes) :
    (openOn ttlHours file readAt sweptAt).map.lookup key =
      ((file.foldl (readLine (ttlNsOf ttlHours) readAt) ∅).lookup key).filter
        fun r => !decide (sweptAt - r.lastNs > ttlNsOf ttlHours) := by
  have hn : ¬ ttlNsOf ttlHours ≤ 0 := by
    simp only [ttlNsOf]
    omega
  simp only [openOn, sweepExpired, if_neg hn, Dict.lookup_keep]

theorem check_record (s : IdempotencyStore) (p : Put) (firstNs : Int)
    (h : s.map.lookup p.key = some (p.record firstNs)) : (s.check p.key p.payloadHash).1 = p.answer := by
  obtain ⟨key, payloadHash, _ | result, now⟩ := p <;>
    simp [check, h, Put.record, Put.answer, show ascii "DONE" ≠ ascii "PENDING" by decide]

theorem check_new_ne_answer (p : Put) : Check.new ≠ p.answer := by
  unfold Put.answer
  split <;> decide

/-- What the log of a run yields for the key of its last put: the put's record, unless that is expired already;
then it is a record of an earlier put, or none. -/
theorem lookup_log (ttlNs readAt : Int) {s₀ : IdempotencyStore} (hempty : s₀.file = []) {before after : List Op} {p : Put}
    (hrec : p.Recorded) (hbefore : ∀ q, Op.put q ∈ before → q.key = p.key → q.now ≤ p.now)
    (hafter : ∀ q, Op.put q ∈ after → q.key ≠ p.key) :
    ∃ firstNs, ∃ older : Option IdemRec, (∀ r, older = some r → r.lastNs ≤ p.now) ∧
      (((before ++ [Op.put p] ++ after).foldl apply s₀).file.foldl (readLine ttlNs readAt) ∅).lookup p.key =
        if ttlNs > 0 ∧ readAt - p.now > ttlNs then older else some (p.record firstNs) := by
  obtain ⟨old, hold, hold'⟩ := foldl_apply_file s₀ before
  obtain ⟨line, firstNs, hline, hin, -⟩ := apply_put_file (before.foldl apply s₀) p
  obtain ⟨new, hnew, hnew'⟩ := foldl_apply_file (apply (before.foldl apply s₀) (.put p)) after
  have hfile : ((before ++ [Op.put p] ++ after).foldl apply s₀).file = old ++ line :: new := by
    rw [List.foldl_append, List.foldl_append, List.foldl_cons, List.foldl_nil, hnew, hin hrec, hold, hempty]
    simp
  refine ⟨firstNs, (old.foldl (readLine ttlNs readAt) ∅).lookup p.key, ?_, ?_⟩
  · refine lookup_foldl_readLine_le ttlNs readAt p.now p.key old ∅ (by simp) ?_
    intro l hl r hr hk
    obtain ⟨q, n, hq, hr'⟩ := hold' l hl
    rw [hr] at hr'
    obtain rfl := Except.ok.inj hr'
    exact hbefore q hq hk
  · rw [hfile, List.foldl_append, List.foldl_cons, lookup_foldl_readLine_ne]
    · simp only [readLine, hline]
      split_ifs with h1 h2 h2
      · rfl
      · exact absurd h1 h2
      · exact absurd h2 h1
      · exact AList.lookup_insert _
    · intro l hl r hr
      obtain ⟨q, n, hq, hr'⟩ := hnew' l hl
      rw [hr] at hr'
      obtain rfl := Except.ok.inj hr'
      exact hafter q hq

/-- The last put of a key is answered from a reopened store exactly as long as it is at most
`ttl_hours` seconds old. -/
theorem retained_iff (ttlHours : Int) (hpos : 0 < ttlHours) (s₀ : IdempotencyStore) (hempty : s₀.file = [])
    (before after : List Op) (p : Put) (hrec : p.Recorded)
    (hbefore : ∀ q, Op.put q ∈ before → q.key = p.key → q.now ≤ p.now)
    (hafter : ∀ q, Op.put q ∈ after → q.key ≠ p.key) (readAt sweptAt : Int) (hclock : readAt ≤ sweptAt) :
    ((openOn ttlHours ((before ++ [Op.put p] ++ after).foldl apply s₀).file readAt sweptAt).check
        p.key p.payloadHash).1 = p.answer ↔ sweptAt - p.now ≤ ttlHours * 1000000000 := by
  obtain ⟨firstNs, older, holder, hread⟩ := lookup_log (ttlNsOf ttlHours) readAt hempty hrec hbefore hafter
  have hopen := lookup_openOn hpos ((before ++ [Op.put p] ++ after).foldl apply s₀).file readAt sweptAt p.key
  rw [hread] at hopen
  have hns : ttlNsOf ttlHours = ttlHours * 1000000000 := rfl
  refine ⟨fun hans => ?_, fun hfresh => ?_⟩
  · by_contra hlate
    -- the sweep drops whatever is left of the key, and the answer is `new`
    have hnone : (openOn ttlHours ((before ++ [Op.put p] ++ after).foldl apply s₀).file readAt sweptAt).map.lookup
        p.key = none := by
      rw [hopen, Option.filter_eq_none_iff]
      intro r hr
      have hle : r.lastNs ≤ p.now := by
        split_ifs at hr
        · exact holder r hr
        · obtain rfl := Option.some.inj hr
          exact le_rfl
      have hold : sweptAt - r.lastNs > ttlNsOf ttlHours := by omega
      simp [hold]
    simp only [check, hnone] at hans
    exact check_new_ne_answer p hans
  · apply check_record _ p firstNs
    have hkept : ¬ sweptAt - (p.record firstNs).lastNs > ttlNsOf ttlHours := by
      simp only [Put.record]
      omega
    rw [hopen, if_neg (by omega), Option.filter_some, if_pos (by simp [hkept])]

/-- With a 24 hour time to live, a finished purchase is still answered 24 seconds later. -/
theorem retained_iff_seconds :
    ((openOn 24 (([] ++ [Op.put ⟨ascii "k", ascii "100:200", some (ascii "r"), 0⟩] ++ []).foldl apply
        { ttlNs := 0 }).file 0 24000000000).check (ascii "k") (ascii "100:200")).1 = .matchDone :=
  (retained_iff 24 (by decide) { ttlNs := 0 } rfl [] [] ⟨ascii "k", ascii "100:200", some (ascii "r"), 0⟩
    (by decide) (by simp) (by simp) 0 24000000000 (by decide)).mpr (by decide)

/-- With a 24 hour time to live, a purchase recorded one minute ago is forgotten. -/
theorem forgotten_after_a_minute :
    ¬ ∀ (ttlHours : Int) (s₀ : IdempotencyStore) (before after : List Op) (p : Put) (readAt sweptAt : Int),
      0 < ttlHours → s₀.file = [] → p.Recorded →
      (∀ q, Op.put q ∈ before → q.key = p.key → q.now ≤ p.now) → (∀ q, Op.put q ∈ after → q.key ≠ p.key) →
      p.now ≤ readAt → readAt ≤ sweptAt → sweptAt - p.now ≤ ttlHours * 3600 * 1000000000 →
      ((openOn ttlHours ((before ++ [Op.put p] ++ after).foldl apply s₀).file readAt sweptAt).check
        p.key p.payloadHash).1 = p.answer := by
  intro hclaim
  have hbad := hclaim 24 { ttlNs := 0 } [] [] ⟨ascii "k", ascii "100:200", some (ascii "r"), 0⟩
    60000000000 60000000000 (by decide) rfl (by decide) (by simp) (by simp) (by decide) (by decide) (by decide)
  revert hbad
  decide

end Drawer.Pos.IdempotencyStore
