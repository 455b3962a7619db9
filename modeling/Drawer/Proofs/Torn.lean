import Drawer.Sanity.JournalLine

/-! Torn lines of the journal. A complete file reads as its last record. What is cut
off is read all the same, as the record of the names that it holds so far, and the
next append goes on in the torn line, where the old names come first. -/

namespace Drawer.Journal
open Text Outcome

/-! ### A line that is cut off -/

/-- What stands in the line before the quote that opens the id. -/
def before (e : Entry) : Bytes := 123 :: fieldText (ascii "ts", .str e.ts) ++ ascii "\"id\":"

theorem head_eq (e : Entry) : e.head = before e ++ [34] := by
  have hts : ascii "\x7b\"ts\":\"" = 123 :: 34 :: (ascii "ts" ++ [34, 58, 34]) := by decide
  have hid : ascii "\",\"id\":\"" = 34 :: 44 :: (ascii "\"id\":" ++ [34]) := by decide
  simp only [Entry.head, before, hts, hid, fieldText, Value.text, List.append_assoc, List.cons_append, List.nil_append]

def marks : List (String × Bytes) :=
  [("id", [34]), ("price", []), ("deposit", []), ("change", []), ("quarters", []), ("dispensed", []), ("phase", [34]),
    ("reason", [34])]

theorem passes_ts (e : Entry) {key : String} (hkey : Searched (ascii key)) (hne : ascii "ts" ≠ ascii key) (start : Bytes) :
    Passes (nameMark (ascii key) start) (123 :: fieldText (ascii "ts", .str e.ts)) := by
  have hopen : Passes (nameMark (ascii key) start) [123] := by
    rw [nameMark_eq]
    exact passes_of_notMem (by decide) _
  exact hopen.append (passes_member hkey (show 34 ∉ ascii "ts" by decide) hne e.stamps.1.1)

/-- No name that is searched for stands in the text. -/
def Unmarked (s : Bytes) : Prop := ∀ m ∈ marks, ¬ nameMark (ascii m.1) m.2 <:+: s

theorem unmarked_before (e : Entry) : Unmarked (before e) := by
  have hrest : ∀ m ∈ marks, ascii "ts" ≠ ascii m.1 ∧ ¬ nameMark (ascii m.1) m.2 <:+: ascii "\"id\":" := by decide
  have hkeys : ∀ m ∈ marks, m.1 ∈ ["id", "price", "deposit", "change", "quarters", "phase", "dispensed", "reason"] := by decide
  intro m hm
  rw [before, (passes_ts e (searched m.1 (hkeys m hm)) (hrest m hm).1 m.2).infix_iff]
  exact (hrest m hm).2

theorem Unmarked.shorter {s s' : Bytes} (h : Unmarked s') (hs : s <+: s') : Unmarked s :=
  fun m hm hsub => h m hm (List.IsInfix.trans hsub hs.isInfix)

section
variable {key : String} {a s : Bytes} {d : UInt8}

theorem getStr_none (h : ¬ nameMark (ascii key) [34] <:+: a) (dst : Bytes) : getStr a key dst = dst := by
  simp only [getStr, strMark, find_eq_none_iff.mpr h]

theorem getInt_none (h : ¬ nameMark (ascii key) [] <:+: a) (dst : Int) : getInt a key dst = .ok dst := by
  simp only [getInt, intMark, find_eq_none_iff.mpr h]

theorem getStr_cross (h : ¬ nameMark (ascii key) [34] <:+: a) (hd : d ∉ nameMark (ascii key) [34]) (dst : Bytes) :
    getStr (a ++ d :: s) key dst = getStr (d :: s) key dst := by
  simp only [getStr, strMark, find_cross hd h]
  cases find (nameMark (ascii key) [34]) (d :: s) with
  | none => rfl
  | some p => rfl

theorem getInt_cross (h : ¬ nameMark (ascii key) [] <:+: a) (hd : d ∉ nameMark (ascii key) []) (dst : Int) :
    getInt (a ++ d :: s) key dst = getInt (d :: s) key dst := by
  simp only [getInt, intMark, find_cross hd h]
  cases find (nameMark (ascii key) []) (d :: s) with
  | none => rfl
  | some p => rfl

end

theorem Unmarked.parseLine {s : Bytes} (h : Unmarked s) (out : Txn) : parseLine s out = .ok out := by
  simp only [Journal.parseLine, getStr_none (h ("id", [34]) (by decide)), getInt_none (h ("price", []) (by decide)),
    getInt_none (h ("deposit", []) (by decide)), getInt_none (h ("change", []) (by decide)),
    getInt_none (h ("quarters", []) (by decide)), getInt_none (h ("dispensed", []) (by decide)),
    getStr_none (h ("phase", [34]) (by decide)), getStr_none (h ("reason", [34]) (by decide))]
  rfl

/-- The line after such a text is read as if it stood alone. -/
theorem Holds.cross {a s : Bytes} {t : Txn} (ha : Unmarked a) (h : Holds (123 :: s) t) : Holds (a ++ 123 :: s) t := by
  have hopen : ∀ m ∈ marks, 123 ∉ nameMark (ascii m.1) m.2 := by decide
  have hstr : ∀ key, (key, [34]) ∈ marks → ∀ dst, getStr (a ++ 123 :: s) key dst = getStr (123 :: s) key dst :=
    fun key hkey => getStr_cross (ha (key, [34]) hkey) (hopen (key, [34]) hkey)
  have hint : ∀ key, (key, []) ∈ marks → ∀ dst, getInt (a ++ 123 :: s) key dst = getInt (123 :: s) key dst :=
    fun key hkey => getInt_cross (ha (key, []) hkey) (hopen (key, []) hkey)
  exact
    { id := fun dst => (hstr "id" (by decide) dst).trans (h.id dst)
      phase := fun dst => (hstr "phase" (by decide) dst).trans (h.phase dst)
      reason := fun dst => (hstr "reason" (by decide) dst).trans (h.reason dst)
      price := fun dst => (hint "price" (by decide) dst).trans (h.price dst)
      deposit := fun dst => (hint "deposit" (by decide) dst).trans (h.deposit dst)
      change := fun dst => (hint "change" (by decide) dst).trans (h.change dst)
      quarters := fun dst => (hint "quarters" (by decide) dst).trans (h.quarters dst)
      dispensed := fun dst => (hint "dispensed" (by decide) dst).trans (h.dispensed dst) }

/-- Once the id has begun, it is read from the torn line, up to the first quote of the next. -/
theorem getStr_head (e : Entry) (s dst : Bytes) : getStr (e.head ++ s) "id" dst = s.takeWhile fun b => b ≠ 34 := by
  have hkey := searched "id" (by decide)
  have htext : e.head ++ s = [123] ++ ([(ascii "ts", Value.str e.ts)].flatMap fieldText ++ (nameMark (ascii "id") [34] ++ s)) := by
    rw [head_eq, before, show ascii "\"id\":" = [34] ++ ascii "id" ++ [34, 58] from by decide, nameMark_eq]
    simp
  have hts : ∀ m ∈ [(ascii "ts", Value.str e.ts)], 34 ∉ m.1 ∧ m.1 ≠ ascii "id" ∧ m.2.Bare := by
    intro m hm
    obtain rfl := List.mem_singleton.mp hm
    exact ⟨show 34 ∉ ascii "ts" by decide, show ascii "ts" ≠ ascii "id" by decide, e.stamps.1.1⟩
  have hopen : 34 ∉ ([123] : Bytes) := by decide
  simp only [getStr, strMark, htext, find_member hkey hts hopen]
  rw [show "id".length + 4 = "id".length + 3 + [(34 : UInt8)].length from rfl, drop_mark]

theorem parseLine_id {s : Bytes} {out t : Txn} (h : parseLine s out = .ok t) : t.id = getStr s "id" out.id := by
  obtain ⟨price, -, h⟩ := bind_eq_ok h
  obtain ⟨deposit, -, h⟩ := bind_eq_ok h
  obtain ⟨change, -, h⟩ := bind_eq_ok h
  obtain ⟨quarters, -, h⟩ := bind_eq_ok h
  obtain ⟨dispensed, -, h⟩ := bind_eq_ok h
  cases h
  rfl

/-! ### A file -/

theorem not_mem_toJson (e : Entry) : 10 ∉ toJson e.ts e.host e.txn := by
  obtain ⟨hid, hphase, hreason⟩ := e.writable.texts
  have hkeys : ∀ key ∈ ["\x7b\"ts\":\"", "\",\"id\":\"", "\",\"price\":", ",\"deposit\":", ",\"change\":", ",\"quarters\":",
      ",\"phase\":\"", "\",\"dispensed\":", ",\"reason\":\"", "\",\"host\":\"", "\"\x7d"], 10 ∉ ascii key := by decide
  simp only [List.forall_mem_cons] at hkeys
  have hdecimal : ∀ n : Int, 10 ∉ decimal n := notMem_decimal (by decide)
  unfold toJson
  simp only [List.mem_append, not_or, hkeys, hdecimal, hid.2, hphase.2, hreason.2, e.stamps.1.2, e.stamps.2.2]
  simp

theorem lines_fileOf (entries : List Entry) (s : Bytes) : lines 10 (entries.flatMap Entry.line ++ s) =
    entries.map (fun e => toJson e.ts e.host e.txn) ++ lines 10 s := by
  induction entries with
  | nil => rfl
  | cons e entries ih =>
    rw [List.flatMap_cons, List.append_assoc, Entry.line, line, List.append_assoc, List.singleton_append,
      lines_append (not_mem_toJson e), ih, List.map_cons, List.cons_append]

theorem readLast_of_lines {file s : Bytes} {ls : List Bytes} (h : lines 10 file = ls ++ [s]) (hs : s ≠ []) :
    readLast file = (parseLine s {}).bind fun t => .ok (some t) := by
  have hlast : ((lines 10 file).filter fun l => l ≠ []).getLast? = some s := by
    rw [h, List.filter_append]
    simp [hs]
  rw [readLast, hlast]
  rfl

theorem toJson_ne_nil (e : Entry) : toJson e.ts e.host e.txn ≠ [] := by
  rw [toJson_eq]
  simp

/-- A complete file reads as the list of its records does. -/
theorem readLast_complete (entries : List Entry) :
    readLast (fileOf entries []) = .ok (loadLast (entries.map Entry.txn)) := by
  rcases List.eq_nil_or_concat entries with rfl | ⟨entries, e, rfl⟩
  · rfl
  · rw [List.concat_eq_append]
    have hlines : lines 10 (fileOf (entries ++ [e]) []) =
        entries.map (fun e => toJson e.ts e.host e.txn) ++ [toJson e.ts e.host e.txn] := by
      rw [fileOf, lines_fileOf]
      simp [lines]
    rw [readLast_of_lines hlines (toJson_ne_nil e), e.holds.parseLine]
    simp [Except.bind, loadLast]

theorem readLast_torn (entries : List Entry) {cut : Bytes} (hne : cut ≠ []) (hcut : 10 ∉ cut) :
    readLast (fileOf entries cut) = (parseLine cut {}).bind fun t => .ok (some t) := by
  have hlines : lines 10 (fileOf entries cut) = entries.map (fun e => toJson e.ts e.host e.txn) ++ [cut] := by
    rw [fileOf, lines_fileOf, lines_last hne hcut]
  exact readLast_of_lines hlines hne

/-- The next line goes on in the torn one. -/
theorem readLast_appended (entries : List Entry) {cut : Bytes} (hcut : 10 ∉ cut) (e : Entry) :
    readLast (fileOf entries cut ++ e.line) = (parseLine (cut ++ toJson e.ts e.host e.txn) {}).bind fun t => .ok (some t) := by
  have hmem : 10 ∉ cut ++ toJson e.ts e.host e.txn := by simp [hcut, not_mem_toJson e]
  have hne : cut ++ toJson e.ts e.host e.txn ≠ [] := by simp [toJson_ne_nil e]
  have hfile : fileOf entries cut ++ e.line = entries.flatMap Entry.line ++ (cut ++ toJson e.ts e.host e.txn ++ 10 :: []) := by
    simp [fileOf, Entry.line, line]
  have hlines : lines 10 (fileOf entries cut ++ e.line) =
      entries.map (fun e => toJson e.ts e.host e.txn) ++ [cut ++ toJson e.ts e.host e.txn] := by
    rw [hfile, lines_fileOf, lines_append hmem]
    rfl
  exact readLast_of_lines hlines hne

/-! ### Where the line may be cut off -/

theorem toJson_head (e : Entry) : ∃ s, toJson e.ts e.host e.txn = e.head ++ s := by
  unfold toJson Entry.head
  simp only [List.append_assoc]
  exact ⟨_, rfl⟩

theorem toJson_cons (e : Entry) : ∃ s, toJson e.ts e.host e.txn = 123 :: s := ⟨_, toJson_eq e.ts e.host e.txn⟩

theorem take_line (e : Entry) {n : ℕ} (hn : n < e.line.length) : e.line.take n = (toJson e.ts e.host e.txn).take n := by
  rw [Entry.line, line, List.length_append, List.length_singleton] at hn
  rw [Entry.line, line, List.take_append_of_le_length (by omega)]

theorem take_short (e : Entry) {n : ℕ} (hn : n < e.head.length) : Unmarked ((toJson e.ts e.host e.txn).take n) := by
  obtain ⟨s, hs⟩ := toJson_head e
  rw [head_eq, List.length_append, List.length_singleton] at hn
  rw [hs, head_eq, List.append_assoc, List.take_append_of_le_length (by omega)]
  exact (unmarked_before e).shorter (List.take_prefix _ _)

theorem take_long (e : Entry) {n : ℕ} (hn : e.head.length ≤ n) : ∃ s, (toJson e.ts e.host e.txn).take n = e.head ++ s := by
  obtain ⟨s, hs⟩ := toJson_head e
  exact ⟨s.take (n - e.head.length), by rw [hs, List.take_append, List.take_of_length_le hn]⟩

theorem readLast_short (entries : List Entry) (next : Entry) {n : ℕ} (hpos : 0 < n) (hn : n < next.head.length) :
    readLast (fileOf entries ((toJson next.ts next.host next.txn).take n)) = .ok (some {}) := by
  have hne : (toJson next.ts next.host next.txn).take n ≠ [] := by
    simp [List.take_eq_nil_iff, toJson_ne_nil next]
    omega
  rw [readLast_torn entries hne fun hmem => not_mem_toJson next (List.mem_of_mem_take hmem), (take_short next hn).parseLine]
  rfl

theorem appended_short (entries : List Entry) (next : Entry) {n : ℕ} (hn : n < next.head.length) (e : Entry) :
    readLast (fileOf entries ((toJson next.ts next.host next.txn).take n) ++ e.line) = .ok (some e.txn) := by
  have hholds := e.holds
  obtain ⟨s, hs⟩ := toJson_cons e
  rw [readLast_appended entries (fun hmem => not_mem_toJson next (List.mem_of_mem_take hmem)), hs]
  rw [hs] at hholds
  rw [(hholds.cross (take_short next hn)).parseLine]
  rfl

/-- Once the id has begun, the next record is read with what is left of the old id. -/
theorem appended_long (entries : List Entry) {next : Entry} {n : ℕ} (hn : next.head.length ≤ n) : ∃ s, ∀ e : Entry, ∀ t,
    readLast (fileOf entries ((toJson next.ts next.host next.txn).take n) ++ e.line) = .ok (some t) → t.id = s := by
  obtain ⟨s, hs⟩ := take_long next hn
  refine ⟨(s ++ [123]).takeWhile fun b => b ≠ 34, fun e t h => ?_⟩
  rw [readLast_appended entries (fun hmem => not_mem_toJson next (List.mem_of_mem_take hmem)), hs] at h
  obtain ⟨t', ht', h⟩ := bind_eq_ok h
  obtain rfl : t' = t := by simpa using h
  obtain ⟨r, hr⟩ : ∃ r, toJson e.ts e.host e.txn = 123 :: 34 :: r := ⟨_, toJson_eq e.ts e.host e.txn⟩
  have hopen : s ++ 123 :: 34 :: r = s ++ [123] ++ 34 :: r := by simp
  rw [parseLine_id ht', List.append_assoc, getStr_head, hr, hopen, takeWhile_append_stop]

/-- A record of this id, as it is first written. -/
def pending (id : Bytes) : Txn := { id, price := 300, deposit := 500, change := 200, quarters := 8, phase := ascii "PENDING" }

theorem writable_pending {id : Bytes} (h : Bare id) : Writable (pending id) := by
  have hphase : Bare (ascii "PENDING") := ⟨by decide, by decide⟩
  have hreason : Bare [] := ⟨by decide, by decide⟩
  refine ⟨⟨h, hphase, hreason⟩, ?_⟩
  simp [pending, IsInt]

theorem bare_stamps : Bare (ascii "2024-05-01T12:00:00Z") ∧ Bare (ascii "drawer") :=
  ⟨⟨by decide, by decide⟩, by decide, by decide⟩

def pendingEntry (id : Bytes) (h : Bare id) : Entry :=
  { txn := pending id, ts := ascii "2024-05-01T12:00:00Z", host := ascii "drawer", writable := writable_pending h,
    stamps := bare_stamps }

theorem bare_a : Bare [97] := ⟨by decide, by decide⟩

theorem bare_b : Bare [98] := ⟨by decide, by decide⟩

/-- No cut inside or after the id is got over: the records appended next would all have one id. -/
theorem not_recovers_long {entries : List Entry} {last next : Entry} {n : ℕ} (hn : next.head.length ≤ n) :
    ¬ Recovers entries last next ((toJson next.ts next.host next.txn).take n) := by
  intro h
  obtain ⟨s, hs⟩ := appended_long (entries ++ [last]) hn
  have ha : [97] = s := hs _ _ (h.appended (pendingEntry [97] bare_a))
  have hb : [98] = s := hs _ _ (h.appended (pendingEntry [98] bare_b))
  exact absurd (ha.trans hb.symm) (by decide)

/-- A file is recovered if and only if nothing was left of the torn line, or what was left ends before the text of the id and
one of the two records is the empty one. -/
theorem recovers_iff (entries : List Entry) (last next : Entry) {n : ℕ} (hn : n < next.line.length) :
    Recovers entries last next (next.line.take n) ↔ n = 0 ∨ n < next.head.length ∧ (last.txn = {} ∨ next.txn = {}) := by
  rw [take_line next hn]
  rcases Nat.lt_or_ge n next.head.length with hshort | hlong
  · have happended := appended_short (entries ++ [last]) next hshort
    rcases Nat.eq_zero_or_pos n with rfl | hpos
    · refine iff_of_true ⟨Or.inl ?_, happended⟩ (Or.inl rfl)
      rw [List.take_zero, readLast_complete]
      simp [loadLast]
    · have hread := readLast_short (entries ++ [last]) next hpos hshort
      constructor
      · intro h
        refine Or.inr ⟨hshort, ?_⟩
        rcases h.read with hlast | hnext
        · rw [hread] at hlast
          exact Or.inl (by simpa using hlast.symm)
        · rw [hread] at hnext
          exact Or.inr (by simpa using hnext.symm)
      · rintro (rfl | ⟨-, hlast | hnext⟩)
        · exact absurd hpos (Nat.lt_irrefl 0)
        · exact ⟨Or.inl (by rw [hread, hlast]), happended⟩
        · exact ⟨Or.inr (by rw [hread, hnext]), happended⟩
  · refine iff_of_false (not_recovers_long hlong) ?_
    rintro (rfl | ⟨hshort, -⟩)
    · have hpos : 0 < next.head.length := by simp [head_eq]
      omega
    · omega

theorem recovers_iff_pending : 61 < (pendingEntry [98] bare_b).line.length ∧
    (Recovers [] (pendingEntry [97] bare_a) (pendingEntry [98] bare_b) ((pendingEntry [98] bare_b).line.take 61) ↔
      61 = 0 ∨ 61 < (pendingEntry [98] bare_b).head.length ∧ (pending [97] = {} ∨ pending [98] = {})) :=
  ⟨by decide +kernel, recovers_iff [] (pendingEntry [97] bare_a) (pendingEntry [98] bare_b) (by decide +kernel)⟩

/-- Cut off after the first digit of the deposit, the new purchase is read with that digit, and cut off before the price it
makes the reader throw. -/
theorem torn_purchase : 61 < (pendingEntry [98] bare_b).line.length ∧
    ¬ Recovers [] (pendingEntry [97] bare_a) (pendingEntry [98] bare_b) ((pendingEntry [98] bare_b).line.take 61) ∧
    readLast (fileOf [pendingEntry [97] bare_a] ((pendingEntry [98] bare_b).line.take 61)) =
      .ok (some { id := [98], price := 300, deposit := 5 }) ∧
    readLast (fileOf [pendingEntry [97] bare_a] ((pendingEntry [98] bare_b).line.take 46)) = .error .invalidArgument := by
  have hread : readLast (fileOf [pendingEntry [97] bare_a] ((pendingEntry [98] bare_b).line.take 61)) =
      .ok (some { id := [98], price := 300, deposit := 5 }) := by decide +kernel
  refine ⟨by decide +kernel, fun h => ?_, hread, by decide +kernel⟩
  rcases h.read with hlast | hnext
  · rw [List.nil_append, hread] at hlast
    revert hlast
    decide +kernel
  · rw [List.nil_append, hread] at hnext
    revert hnext
    decide +kernel

end Drawer.Journal
