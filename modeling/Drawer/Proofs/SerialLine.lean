import Drawer.Lib.JsonRecord
import Drawer.Lib.Search
import Drawer.Proofs.Busy
import Drawer.Spec.SerialPos

/-! The serial connector against its protocol. It converts amounts as it meets
them, so one that is no number makes it throw; a number is taken from the start
of a text, and a missing amount is 0. On every other line it keeps to the protocol
as long as the router answers. -/

namespace Drawer.Pos.SerialConnector
open Text Journal IdempotencyStore Router

/-! ### The words of a line -/

theorem tokens_eq_words (n : ℕ) (s : Bytes) (h : s.length < n) : tokens n s = words s := by
  induction n generalizing s with
  | zero => omega
  | succ n ih =>
    rw [tokens]
    cases ht : token s with
    | none => exact (token_none ht).symm
    | some p =>
      obtain ⟨w, rest⟩ := p
      obtain ⟨hwords, hlen⟩ := token_some ht
      rw [hwords]
      exact congrArg (w :: ·) (ih rest (by omega))

theorem ascii_equals : ascii "=" = [61] := rfl

/-- A name that occurs is at the start, up to the first equals sign. -/
theorem fieldOf_of_find {name w k b : Bytes} (hn : 61 ∉ name) (h : find (ascii "=") w = some (k, b)) :
    fieldOf name w = if k = name then some (b.drop 1) else none := by
  rw [ascii_equals] at h
  have hk : (61 : UInt8) ∉ k := by
    intro hmem
    obtain ⟨k₁, k₂, rfl, hk₁⟩ := List.eq_append_cons_of_mem hmem
    obtain ⟨b', rfl, rfl⟩ := find_byte_split h
    rw [List.append_assoc] at h
    have hfirst := (find_byte hk₁ (k₂ ++ 61 :: b')).symm.trans h
    simpa using congrArg List.length (Prod.mk.inj (Option.some.inj hfirst)).1
  obtain ⟨b', rfl, rfl⟩ := find_byte_split h
  have hpre : (name ++ ascii "=").isPrefixOf (k ++ 61 :: b') = true ↔ k = name := by
    rw [List.isPrefixOf_iff_prefix]
    constructor
    · rintro ⟨t, ht⟩
      rw [List.append_assoc, ascii_equals] at ht
      exact (append_cons_inj hn hk ht).1.symm
    · rintro rfl
      exact ⟨b', by simp [ascii]⟩
  rw [fieldOf]
  by_cases hkn : k = name
  · subst hkn
    rw [if_pos (hpre.mpr rfl), if_pos rfl]
    simp
  · rw [if_neg fun h => hkn (hpre.mp h), if_neg hkn]

theorem fieldOf_of_find_none {name w : Bytes} (h : find (ascii "=") w = none) : fieldOf name w = none := by
  rw [ascii_equals] at h
  refine if_neg fun hpre => find_byte_eq_none_iff.mp h ?_
  obtain ⟨t, rfl⟩ := List.isPrefixOf_iff_prefix.mp hpre
  simp [ascii]

/-! ### One word -/

/-- The request after the word, if its amounts are numbers. -/
def updated (req : PurchaseRequest) (w : Bytes) : PurchaseRequest :=
  { priceCents := ((fieldOf (ascii "price") w).map number).getD req.priceCents
    depositCents := ((fieldOf (ascii "deposit") w).map number).getD req.depositCents
    idemKey := (fieldOf (ascii "id") w).getD req.idemKey }

/-- The word gives no amount that is not a number. -/
def Numeric (w : Bytes) : Prop := ∀ name ∈ amounts, ∀ v, fieldOf name w = some v → ∃ n, stoi v = .ok n

/-- A word is refused exactly if one of its amounts is no number. -/
theorem readToken_cases (acc : PurchaseRequest × Bool) (w : Bytes) :
    Numeric w ∧ readToken acc w = .ok (updated acc.1 w, acc.2 || (find (ascii "=") w).isSome) ∨
      ¬ Numeric w ∧ ∃ e, readToken acc w = .error e := by
  unfold readToken Numeric updated
  cases hfind : find (ascii "=") w with
  | none => simp [fieldOf_of_find_none hfind]
  | some p =>
    obtain ⟨k, b⟩ := p
    have hid : fieldOf (ascii "id") w = if k = ascii "id" then some (b.drop 1) else none :=
      fieldOf_of_find (by decide) hfind
    have hprice : fieldOf (ascii "price") w = if k = ascii "price" then some (b.drop 1) else none :=
      fieldOf_of_find (by decide) hfind
    have hdeposit : fieldOf (ascii "deposit") w = if k = ascii "deposit" then some (b.drop 1) else none :=
      fieldOf_of_find (by decide) hfind
    have hne : ascii "price" ≠ ascii "id" ∧ ascii "deposit" ≠ ascii "id" ∧ ascii "deposit" ≠ ascii "price" := by decide
    simp only [amounts, List.forall_mem_cons, hid, hprice, hdeposit, setField]
    generalize b.drop 1 = v
    by_cases h1 : k = ascii "id"
    · subst h1
      simp [Except.map, hne.1.symm, hne.2.1.symm]
    by_cases h2 : k = ascii "price"
    · subst h2
      cases hv : stoi v <;> simp [Except.map, hne.1, hne.2.2.symm, hv, number]
    by_cases h3 : k = ascii "deposit"
    · subst h3
      cases hv : stoi v <;> simp [Except.map, hne.2.1, hne.2.2, hv, number]
    simp [Except.map, h1, h2, h3]

/-! ### The whole line -/

theorem getLast?_filterMap_cons {α β : Type} (f : α → Option β) (a : α) (l : List α) :
    ((a :: l).filterMap f).getLast? = ((l.filterMap f).getLast?).or (f a) := by
  cases h : f a with
  | none => simp [List.filterMap_cons_none h]
  | some b =>
    rw [List.filterMap_cons_some h, List.getLast?_cons]
    cases (l.filterMap f).getLast? <;> rfl

def updatedBy (ws : List Bytes) (req : PurchaseRequest) : PurchaseRequest :=
  { priceCents := (((ws.filterMap (fieldOf (ascii "price"))).getLast?).map number).getD req.priceCents
    depositCents := (((ws.filterMap (fieldOf (ascii "deposit"))).getLast?).map number).getD req.depositCents
    idemKey := ((ws.filterMap (fieldOf (ascii "id"))).getLast?).getD req.idemKey }

theorem updatedBy_cons (w : Bytes) (ws : List Bytes) (req : PurchaseRequest) :
    updatedBy (w :: ws) req = updatedBy ws (updated req w) := by
  simp only [updatedBy, updated, getLast?_filterMap_cons, Option.map_or, Option.getD_or]

theorem foldlM_readToken (ws : List Bytes) (acc : PurchaseRequest × Bool) :
    (∀ w ∈ ws, Numeric w) ∧
        ws.foldlM readToken acc = .ok (updatedBy ws acc.1, acc.2 || ws.any fun w => (find (ascii "=") w).isSome) ∨
      (¬ ∀ w ∈ ws, Numeric w) ∧ ∃ e, ws.foldlM readToken acc = .error e := by
  induction ws generalizing acc with
  | nil => exact Or.inl ⟨by simp, by simp [updatedBy]; rfl⟩
  | cons w ws ih =>
    rw [List.forall_mem_cons, List.foldlM_cons]
    rcases readToken_cases acc w with ⟨hw, heq⟩ | ⟨hw, e, heq⟩
    · rw [heq, updatedBy_cons, List.any_cons, ← Bool.or_assoc]
      exact (ih _).imp (fun h => ⟨⟨hw, h.1⟩, h.2⟩) fun h => ⟨fun hall => h.1 hall.2, h.2⟩
    · exact Or.inr ⟨fun hall => hw hall.1, e, by rw [heq]; rfl⟩

def lenient (line : Bytes) : PurchaseRequest :=
  { priceCents := amount line (ascii "price")
    depositCents := amount line (ascii "deposit")
    idemKey := (lineValue line (ascii "id")).getD [] }

theorem forall_numeric_iff (line : Bytes) :
    (∀ w ∈ words line, Numeric w) ↔ ∀ name ∈ amounts, ∀ v ∈ values line name, ∃ n, stoi v = .ok n := by
  simp only [Numeric, values, List.mem_filterMap]
  constructor
  · rintro h name hname v ⟨w, hw, hv⟩
    exact h w hw name hname v hv
  · intro h w hw name hname v hv
    exact h name hname v ⟨w, hw, hv⟩

theorem any_find_of_key {line : Bytes} (h : (lenient line).idemKey ≠ []) :
    ((words line).any fun w => (find (ascii "=") w).isSome) = true := by
  cases hv : lineValue line (ascii "id") with
  | none => exact absurd (by simp [lenient, hv]) h
  | some v =>
    obtain ⟨w, hw, hf⟩ := List.mem_filterMap.mp (List.mem_of_getLast? hv)
    refine List.any_eq_true.mpr ⟨w, hw, Option.isSome_iff_ne_none.mpr fun hnone => ?_⟩
    rw [fieldOf_of_find_none hnone] at hf
    cases hf

theorem accepts_iff (req : PurchaseRequest) : accepts req = true ↔
    req.idemKey ≠ [] ∧ 0 ≤ req.priceCents ∧ req.priceCents ≤ req.depositCents ∧ req.depositCents ≤ 100000 := by
  simp only [accepts, Bool.not_eq_true', Bool.or_eq_false_iff, decide_eq_false_iff_not, not_lt, gt_iff_lt]
  constructor
  · rintro ⟨⟨⟨⟨⟨hkey, hprice⟩, -⟩, -⟩, hmax⟩, hle⟩
    exact ⟨hkey, hprice, hle, hmax⟩
  · rintro ⟨hkey, hprice, hle, hmax⟩
    exact ⟨⟨⟨⟨⟨hkey, hprice⟩, by omega⟩, by omega⟩, hmax⟩, hle⟩

/-- A line is read exactly if its amounts are numbers, and is a request if what is read of it is acceptable. -/
theorem parseReq_cases (line : Bytes) :
    (∀ name ∈ amounts, ∀ v ∈ values line name, ∃ n, stoi v = .ok n) ∧
        parseReq line = .ok (accepts (lenient line), lenient line) ∨
      (¬ ∀ name ∈ amounts, ∀ v ∈ values line name, ∃ n, stoi v = .ok n) ∧ ∃ e, parseReq line = .error e := by
  rw [← forall_numeric_iff, parseReq, tokens_eq_words _ _ (Nat.lt_succ_self _)]
  rcases foldlM_readToken (words line) ({}, false) with ⟨hnum, heq⟩ | ⟨hnum, e, heq⟩
  · refine Or.inl ⟨hnum, ?_⟩
    have hreq : updatedBy (words line) {} = lenient line := rfl
    rw [heq, hreq]
    by_cases hkey : (lenient line).idemKey = []
    · have hacc : accepts (lenient line) = false := by simp [accepts, hkey]
      simp [bind, Except.bind, pure, Except.pure, hacc]
    · simp only [any_find_of_key hkey]
      rfl
  · exact Or.inr ⟨hnum, e, by rw [heq]; rfl⟩

/-! ### The reply -/

section Reply
variable {parse : Bytes → Except Exn (Json Bytes)}

theorem documented_of_replyLine {key body reply : Bytes} {status : Int} (h : replyLine parse key status body = .ok reply) :
    Documented key reply := by
  unfold replyLine at h
  split_ifs at h
  · obtain ⟨j, -, h⟩ := Json.of_bind_ok h
    obtain ⟨change, -, h⟩ := Json.of_bind_ok h
    obtain ⟨coins, -, h⟩ := Json.of_bind_ok h
    obtain ⟨q, -, h⟩ := Json.of_bind_ok h
    obtain ⟨d, -, h⟩ := Json.of_bind_ok h
    obtain ⟨n, -, h⟩ := Json.of_bind_ok h
    obtain ⟨p, -, h⟩ := Json.of_bind_ok h
    exact Or.inl ⟨change, q, d, n, p, (Except.ok.inj h).symm⟩
  all_goals exact Or.inr ⟨_, by simp, (Except.ok.inj h).symm⟩

theorem replyLine_ok_iff (parse : Bytes → Except Exn (Json Bytes)) (key body : Bytes) :
    (∃ reply, replyLine parse key 200 body = .ok reply) ↔ Legible parse body := by
  simp only [replyLine, if_true, Legible, List.forall_mem_cons, List.not_mem_nil, false_imp_iff, implies_true, and_true]
  constructor
  · rintro ⟨reply, h⟩
    obtain ⟨j, hj, h⟩ := Json.of_bind_ok h
    obtain ⟨change, hchange, h⟩ := Json.of_bind_ok h
    obtain ⟨coins, hcoins, h⟩ := Json.of_bind_ok h
    obtain ⟨q, hq, h⟩ := Json.of_bind_ok h
    obtain ⟨d, hd, h⟩ := Json.of_bind_ok h
    obtain ⟨n, hn, h⟩ := Json.of_bind_ok h
    obtain ⟨p, hp, -⟩ := Json.of_bind_ok h
    exact ⟨j, coins, change, hj, hchange, hcoins, ⟨q, hq⟩, ⟨d, hd⟩, ⟨n, hn⟩, ⟨p, hp⟩⟩
  · rintro ⟨j, coins, change, hj, hchange, hcoins, ⟨q, hq⟩, ⟨d, hd⟩, ⟨n, hn⟩, ⟨p, hp⟩⟩
    exact ⟨okLine key change q d n p, by simp only [hj, hchange, hcoins, hq, hd, hn, hp, Json.ok_bind]; rfl⟩

theorem replyLine_ok_of_ne (parse : Bytes → Except Exn (Json Bytes)) (key body : Bytes) {status : Int} (h : status ≠ 200) :
    ∃ reply, replyLine parse key status body = .ok reply := by
  unfold replyLine
  rw [if_neg h]
  split_ifs <;> exact ⟨_, rfl⟩

/-- The router's answer can be written exactly if the purchase gets through. -/
theorem answered_iff (c : Call) (sh : Shared) :
    (∃ status body reply, (handle c sh).2 = .replied status body ∧ replyLine parse c.key status body = .ok reply) ↔
      Answerable parse c sh := by
  unfold Answerable
  rcases hcheck : sh.store.check c.key c.hash with ⟨check, r⟩
  have hfst : (sh.store.check c.key c.hash).1 = check := by rw [hcheck]
  cases check with
  | mismatch =>
    obtain ⟨reply, hreply⟩ := replyLine_ok_of_ne parse c.key mismatchJson (by decide : (409 : Int) ≠ 200)
    exact iff_of_true ⟨409, _, reply, by rw [handle_of_mismatch hfst], hreply⟩ trivial
  | pending =>
    obtain ⟨reply, hreply⟩ := replyLine_ok_of_ne parse c.key pendingJson (by decide : (202 : Int) ≠ 200)
    exact iff_of_true ⟨202, _, reply, by rw [handle_of_pending hfst], hreply⟩ trivial
  | matchDone =>
    have hread := replyLine_ok_iff parse c.key (r.getD {}).resultJson
    rw [handle_of_matchDone hcheck]
    simpa using hread
  | new =>
    cases hb : sh.busy with
    | true =>
      obtain ⟨reply, hreply⟩ := replyLine_ok_of_ne parse c.key busyJson (by decide : (409 : Int) ≠ 200)
      exact iff_of_true ⟨409, _, reply, by rw [handle_of_busy hfst hb], hreply⟩ nofun
    | false =>
      have hpend := putPending_result sh.store c
      rw [handle_of_free hfst hb]
      rcases hput : sh.store.putPending c.key c.hash c.pendingAt with ⟨store, e | ⟨⟩⟩
      · have hkey : ¬ validUtf8 c.key = true := fun hkey => by simpa [hput] using hpend.mpr hkey
        simp [hkey]
      have hkey : validUtf8 c.key = true := hpend.mp (by rw [hput])
      cases c.engine with
      | error e => simp
      | ok t =>
        have hdone := putDone_result store c (successJson t)
        have hread := replyLine_ok_iff parse c.key (successJson t)
        rcases hput' : store.putDone c.key c.hash (successJson t) c.doneAt with ⟨store', e | ⟨⟩⟩
        · have hbad : validUtf8 (successJson t) ≠ true := fun h => by simpa [hput'] using hdone.mpr ⟨hkey, h⟩
          simp [hput', hbad]
        · have hvalid := (hdone.mp (by rw [hput'])).2
          simp [hput', hkey, hvalid, hread]

theorem handleLine_ok_iff {call : PurchaseRequest → Call} {sh : Shared} {line reply : Bytes} {req : PurchaseRequest}
    (h : parseReq line = .ok (true, req)) :
    (handleLine parse call sh line).2 = .ok reply ↔
      ∃ status body, (handle (call req) sh).2 = .replied status body ∧ replyLine parse req.idemKey status body = .ok reply := by
  simp only [handleLine, h]
  rcases handle (call req) sh with ⟨sh', pc⟩
  cases pc <;> simp

end Reply

/-! ### The protocol -/

theorem number_of_plain {v : Bytes} {m n : Int} (hm : stoi v = .ok m) (h : Plain v n) : number v = n := by
  have heq := stoi_plain h
  split_ifs at heq with hout
  · rw [hm] at heq
    cases heq
  · simp [number, heq]

theorem routed_iff {line : Bytes} (h : parseReq line = .ok (accepts (lenient line), lenient line)) (req : PurchaseRequest) :
    routed line = some req ↔ accepts (lenient line) = true ∧ req = lenient line := by
  cases hacc : accepts (lenient line) <;> simp [routed, h, hacc, eq_comm]

/-- A line of numbers asks for what is read of it, or for nothing. -/
theorem asks_iff {line : Bytes} (hnum : ∀ name ∈ amounts, ∀ v ∈ values line name, ∃ n, stoi v = .ok n)
    (req : PurchaseRequest) : Asks line req ↔
      (∀ name ∈ amounts, ∃ v n, lineValue line name = some v ∧ Plain v n) ∧ accepts (lenient line) = true ∧
        req = lenient line := by
  have hread : ∀ name ∈ amounts, ∀ v n, lineValue line name = some v → Plain v n → amount line name = n := by
    intro name hname v n hv hplain
    obtain ⟨m, hm⟩ := hnum name hname v (List.mem_of_getLast? hv)
    simp [amount, hv, number_of_plain hm hplain]
  constructor
  · rintro ⟨⟨hkey, hne⟩, ⟨vp, hvp, hp⟩, ⟨vd, hvd, hd⟩, hrange⟩
    have hreq : req = lenient line := by
      have h1 := hread _ (by simp [amounts]) vp _ hvp hp
      have h2 := hread _ (by simp [amounts]) vd _ hvd hd
      simp only [lenient, h1, h2, hkey]
      rfl
    exact ⟨by simpa [amounts] using ⟨⟨vp, hvp, _, hp⟩, ⟨vd, hvd, _, hd⟩⟩, hreq ▸ (accepts_iff req).mpr ⟨hne, hrange⟩, hreq⟩
  · rintro ⟨hplain, hacc, rfl⟩
    obtain ⟨hne, hrange⟩ := (accepts_iff _).mp hacc
    obtain ⟨vp, p, hvp, hp⟩ := hplain (ascii "price") (by simp [amounts])
    obtain ⟨vd, d, hvd, hd⟩ := hplain (ascii "deposit") (by simp [amounts])
    refine ⟨⟨?_, hne⟩, ⟨vp, hvp, ?_⟩, ⟨vd, hvd, ?_⟩, hrange⟩
    · cases hkey : lineValue line (ascii "id") with
      | none => exact absurd (by simp [lenient, hkey]) hne
      | some key => simp [lenient, hkey]
    · have heq : (lenient line).priceCents = p := hread _ (by simp [amounts]) vp p hvp hp
      rwa [heq]
    · have heq : (lenient line).depositCents = d := hread _ (by simp [amounts]) vd d hvd hd
      rwa [heq]

theorem routes_iff {line : Bytes} (hnum : ∀ name ∈ amounts, ∀ v ∈ values line name, ∃ n, stoi v = .ok n)
    (heq : parseReq line = .ok (accepts (lenient line), lenient line)) :
    (∀ req, routed line = some req ↔ Asks line req) ↔ Clean line := by
  simp only [routed_iff heq, asks_iff hnum]
  constructor
  · intro h
    refine ⟨hnum, fun hkey h0 hle hmax => ?_⟩
    exact ((h _).mp ⟨(accepts_iff _).mpr ⟨hkey, h0, hle, hmax⟩, rfl⟩).1
  · intro h req
    refine ⟨fun hreq => ⟨?_, hreq⟩, fun hreq => hreq.2⟩
    obtain ⟨hkey, h0, hle, hmax⟩ := (accepts_iff _).mp hreq.1
    exact h.plain hkey h0 hle hmax

/-- A line that is read gets a documented reply exactly if what reaches the router gets through. -/
theorem replies_iff (parse : Bytes → Except Exn (Json Bytes)) (surroundings : PurchaseRequest → Call) (sh : Shared)
    {line : Bytes} (heq : parseReq line = .ok (accepts (lenient line), lenient line)) :
    (∃ reply, (handleLine parse (fun req => { surroundings req with req }) sh line).2 = .ok reply ∧
        Documented (lenient line).idemKey reply) ↔
      ∀ req, routed line = some req → Answerable parse { surroundings req with req } sh := by
  simp only [routed_iff heq]
  cases hacc : accepts (lenient line) with
  | false =>
    rw [hacc] at heq
    exact iff_of_true ⟨_, by simp only [handleLine, heq], Or.inr ⟨"BAD id=", by simp, rfl⟩⟩ nofun
  | true =>
    rw [hacc] at heq
    simp only [handleLine_ok_iff heq, true_and, forall_eq, ← answered_iff]
    constructor
    · rintro ⟨reply, ⟨status, body, hhandle, hreply⟩, -⟩
      exact ⟨status, body, reply, hhandle, hreply⟩
    · rintro ⟨status, body, reply, hhandle, hreply⟩
      exact ⟨reply, ⟨status, body, hhandle, hreply⟩, documented_of_replyLine hreply⟩

/-- For every line, the connector keeps to the protocol if and only if the line is clean and what it asks for
gets through the router. -/
theorem conforms_iff (parse : Bytes → Except Exn (Json Bytes)) (surroundings : PurchaseRequest → Call) (sh : Shared)
    (line : Bytes) : Conforms parse (fun req => { surroundings req with req }) sh line ↔
      Clean line ∧ ∀ req, Asks line req → Answerable parse { surroundings req with req } sh := by
  rcases parseReq_cases line with ⟨hnum, heq⟩ | ⟨hnum, e, heq⟩
  · have hreplies := replies_iff parse surroundings sh heq
    have hroutes := routes_iff hnum heq
    constructor
    · intro h
      exact ⟨hroutes.mp h.routes, fun req hreq => hreplies.mp h.replies req ((h.routes req).mpr hreq)⟩
    · rintro ⟨hclean, hanswer⟩
      have hasks := hroutes.mpr hclean
      exact ⟨hreplies.mpr fun req hreq => hanswer req ((hasks req).mp hreq), hasks⟩
  · refine iff_of_false (fun h => ?_) fun h => hnum h.1.numeric
    obtain ⟨reply, hreply, -⟩ := h.replies
    simp [handleLine, heq] at hreply

def garbledLine : Bytes := ascii "REQ id=a price=x00 deposit=200"

/-- The connector throws on it. -/
theorem garbled_line_throws : ¬ ∀ parse (surroundings : PurchaseRequest → Call) sh line,
    Conforms parse (fun req => { surroundings req with req }) sh line := by
  intro h
  obtain ⟨reply, hreply, -⟩ := (h (fun _ => .error .other) (fun _ => sampleCall []) ⟨{ ttlNs := 0 }, false⟩ garbledLine).replies
  have hthrew : parseReq garbledLine = .error .invalidArgument := by decide +kernel
  simp [handleLine, hthrew] at hreply

end Drawer.Pos.SerialConnector
