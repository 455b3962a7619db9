import Drawer.Lib.Members
import Drawer.Lib.Outcome
import Drawer.Spec.JournalText

/-! A complete line of the journal. No text without quotes can pass for the name of a member, so
the first occurrence of a name is where the writer put it, and what is read is what was
written. -/

namespace Drawer.Journal
open Text Outcome

/-! ### Reading a line -/

/-- The members of a line up to the host. -/
def fieldsOf (ts : Bytes) (t : Txn) : List (Bytes × Value) :=
  [(ascii "ts", .str ts), (ascii "id", .str t.id), (ascii "price", .int t.price), (ascii "deposit", .int t.deposit),
    (ascii "change", .int t.change), (ascii "quarters", .int t.quarters), (ascii "phase", .str t.phase),
    (ascii "dispensed", .int t.dispensed), (ascii "reason", .str t.reason)]

theorem toJson_eq (ts host : Bytes) (t : Txn) : toJson ts host t =
    [123] ++ ((fieldsOf ts t).flatMap fieldText ++ (ascii "\"host\":\"" ++ host ++ ascii "\"\x7d")) := by
  have hts : ascii "\x7b\"ts\":\"" = 123 :: 34 :: (ascii "ts" ++ [34, 58, 34]) := by decide
  have hid : ascii "\",\"id\":\"" = 34 :: 44 :: 34 :: (ascii "id" ++ [34, 58, 34]) := by decide
  have hprice : ascii "\",\"price\":" = 34 :: 44 :: 34 :: (ascii "price" ++ [34, 58]) := by decide
  have hdeposit : ascii ",\"deposit\":" = 44 :: 34 :: (ascii "deposit" ++ [34, 58]) := by decide
  have hchange : ascii ",\"change\":" = 44 :: 34 :: (ascii "change" ++ [34, 58]) := by decide
  have hquarters : ascii ",\"quarters\":" = 44 :: 34 :: (ascii "quarters" ++ [34, 58]) := by decide
  have hphase : ascii ",\"phase\":\"" = 44 :: 34 :: (ascii "phase" ++ [34, 58, 34]) := by decide
  have hdispensed : ascii "\",\"dispensed\":" = 34 :: 44 :: 34 :: (ascii "dispensed" ++ [34, 58]) := by decide
  have hreason : ascii ",\"reason\":\"" = 44 :: 34 :: (ascii "reason" ++ [34, 58, 34]) := by decide
  have hhost : ascii "\",\"host\":\"" = 34 :: 44 :: ascii "\"host\":\"" := by decide
  unfold toJson
  simp only [hts, hid, hprice, hdeposit, hchange, hquarters, hphase, hdispensed, hreason, hhost, fieldsOf,
    List.flatMap_cons, List.flatMap_nil, fieldText, Value.text, List.append_assoc, List.cons_append, List.nil_append]

theorem intMark (key : String) : ascii "\"" ++ ascii key ++ ascii "\":" = nameMark (ascii key) [] := by
  rw [nameMark_eq]
  simp [show ascii "\"" = [34] from rfl, show ascii "\":" = [34, 58] from rfl]

theorem strMark (key : String) : ascii "\"" ++ ascii key ++ ascii "\":\"" = nameMark (ascii key) [34] := by
  rw [nameMark_eq]
  simp [show ascii "\"" = [34] from rfl, show ascii "\":\"" = [34, 58, 34] from rfl]

theorem length_ascii (s : String) : (ascii s).length = s.length := by simp [ascii, String.length_toList]

theorem drop_mark (key : String) (start s : Bytes) :
    (nameMark (ascii key) start ++ s).drop (key.length + 3 + start.length) = s := by
  have hlen : (nameMark (ascii key) start).length = key.length + 3 + start.length := by
    rw [nameMark_eq]
    simp [length_ascii]
    omega
  rw [← hlen, List.drop_left]

theorem getStr_of_find {s a rest v : Bytes} {key : String} (hv : 34 ∉ v)
    (h : find (nameMark (ascii key) [34]) s = some (a, nameMark (ascii key) [34] ++ (v ++ 34 :: rest))) (dst : Bytes) :
    getStr s key dst = v := by
  have hdrop := drop_mark key [34] (v ++ 34 :: rest)
  simp only [getStr, strMark, h]
  rw [show key.length + 4 = key.length + 3 + [(34 : UInt8)].length from rfl, hdrop,
    List.takeWhile_append_of_pos (ne_of_not_mem hv)]
  simp

theorem getInt_of_find {s a rest : Bytes} {key : String} {n : Int} (hn : IsInt n)
    (h : find (nameMark (ascii key) []) s = some (a, nameMark (ascii key) [] ++ (decimal n ++ 44 :: rest))) (dst : Int) :
    getInt s key dst = .ok n := by
  have hdrop := drop_mark key [] (decimal n ++ 44 :: rest)
  have hdigits : ∀ b ∈ decimal n, (b ≠ 44 && b ≠ 125) = true := by
    intro b hb
    have hcomma : b ≠ 44 := ne_of_mem_of_not_mem hb (notMem_decimal (by decide) n)
    have hbrace : b ≠ 125 := ne_of_mem_of_not_mem hb (notMem_decimal (by decide) n)
    simp [hcomma, hbrace]
  simp only [getInt, intMark, h]
  rw [show key.length + 3 = key.length + 3 + ([] : Bytes).length from rfl, hdrop, List.takeWhile_append_of_pos hdigits]
  simp [stoi_decimal hn]

/-! ### A complete line -/

theorem fields_bare {ts : Bytes} {t : Txn} (hts : 34 ∉ ts) (ht : Writable t) : ∀ m ∈ fieldsOf ts t, 34 ∉ m.1 ∧ m.2.Bare := by
  obtain ⟨hid, hphase, hreason⟩ := ht.texts
  simp only [fieldsOf, List.forall_mem_cons, Value.Bare]
  refine ⟨⟨by decide, hts⟩, ⟨by decide, hid.1⟩, ⟨by decide, trivial⟩, ⟨by decide, trivial⟩, ⟨by decide, trivial⟩,
    ⟨by decide, trivial⟩, ⟨by decide, hphase.1⟩, ⟨by decide, trivial⟩, ⟨by decide, hreason.1⟩, by simp⟩

theorem fields_nodup (ts : Bytes) (t : Txn) : ((fieldsOf ts t).map Prod.fst).Nodup := by
  have hnames : (fieldsOf ts t).map Prod.fst = ["ts", "id", "price", "deposit", "change", "quarters", "phase", "dispensed",
      "reason"].map ascii := rfl
  rw [hnames]
  decide

theorem searched : ∀ key ∈ ["id", "price", "deposit", "change", "quarters", "phase", "dispensed", "reason"],
    Searched (ascii key) := by
  have hkeys : ∀ key ∈ ["id", "price", "deposit", "change", "quarters", "phase", "dispensed", "reason"],
      34 ∉ ascii key ∧ 58 ∉ ascii key ∧ 44 ∉ ascii key := by decide
  exact fun key hkey => ⟨(hkeys key hkey).1, (hkeys key hkey).2.1, (hkeys key hkey).2.2⟩

section
variable {ts : Bytes} (host : Bytes) {t : Txn} {key : String}

/-- The first occurrence of a name in a line is that of its member. -/
theorem find_field (hts : 34 ∉ ts) (ht : Writable t) (hkey : Searched (ascii key)) {v : Value}
    (hmem : (ascii key, v) ∈ fieldsOf ts t) (start rest : Bytes) (hv : v.text ++ [44] = start ++ rest) :
    ∃ a s, find (nameMark (ascii key) start) (toJson ts host t) = some (a, nameMark (ascii key) start ++ (rest ++ s)) := by
  obtain ⟨ms, ms', hms⟩ := List.append_of_mem hmem
  have hbare := fields_bare hts ht
  have hnodup := fields_nodup ts t
  rw [hms] at hbare hnodup
  simp only [List.map_append, List.map_cons, List.nodup_append, List.mem_cons, List.mem_map] at hnodup
  have hbefore : ∀ m ∈ ms, 34 ∉ m.1 ∧ m.1 ≠ ascii key ∧ m.2.Bare := fun m hm =>
    ⟨(hbare m (List.mem_append_left _ hm)).1, hnodup.2.2 m.1 ⟨m, hm, rfl⟩ (ascii key) (Or.inl rfl),
      (hbare m (List.mem_append_left _ hm)).2⟩
  set tail := ms'.flatMap fieldText ++ (ascii "\"host\":\"" ++ host ++ ascii "\"\x7d") with htail
  have hmember : fieldText (ascii key, v) = nameMark (ascii key) start ++ rest := by
    rw [fieldText, hv, nameMark_eq]
    simp
  have htext : toJson ts host t = [123] ++ (ms.flatMap fieldText ++ (nameMark (ascii key) start ++ (rest ++ tail))) := by
    rw [toJson_eq, hms, List.flatMap_append, List.flatMap_cons, hmember, htail]
    simp only [List.append_assoc]
  exact ⟨_, tail, by rw [htext]; exact find_member hkey hbefore (by decide) _⟩

theorem getStr_field (hts : 34 ∉ ts) (ht : Writable t) (hkey : Searched (ascii key)) {v : Bytes}
    (hmem : (ascii key, .str v) ∈ fieldsOf ts t) (dst : Bytes) : getStr (toJson ts host t) key dst = v := by
  have hv : 34 ∉ v := (fields_bare hts ht _ hmem).2
  obtain ⟨a, s, hfind⟩ := find_field host hts ht hkey hmem [34] (v ++ [34, 44]) (by simp [Value.text])
  have hvalue : v ++ [34, 44] ++ s = v ++ 34 :: 44 :: s := by simp
  rw [hvalue] at hfind
  exact getStr_of_find hv hfind dst

theorem getInt_field (hts : 34 ∉ ts) (ht : Writable t) (hkey : Searched (ascii key)) {n : Int}
    (hmem : (ascii key, .int n) ∈ fieldsOf ts t) (hn : IsInt n) (dst : Int) : getInt (toJson ts host t) key dst = .ok n := by
  obtain ⟨a, s, hfind⟩ := find_field host hts ht hkey hmem [] (decimal n ++ [44]) (by simp [Value.text])
  have hvalue : decimal n ++ [44] ++ s = decimal n ++ 44 :: s := by simp
  rw [hvalue] at hfind
  exact getInt_of_find hn hfind dst

end

/-- What a reader finds of a record in its line. -/
structure Holds (s : Bytes) (t : Txn) : Prop where
  id : ∀ dst, getStr s "id" dst = t.id
  phase : ∀ dst, getStr s "phase" dst = t.phase
  reason : ∀ dst, getStr s "reason" dst = t.reason
  price : ∀ dst, getInt s "price" dst = .ok t.price
  deposit : ∀ dst, getInt s "deposit" dst = .ok t.deposit
  change : ∀ dst, getInt s "change" dst = .ok t.change
  quarters : ∀ dst, getInt s "quarters" dst = .ok t.quarters
  dispensed : ∀ dst, getInt s "dispensed" dst = .ok t.dispensed

theorem Holds.parseLine {s : Bytes} {t : Txn} (h : Holds s t) (out : Txn) : parseLine s out = .ok t := by
  simp only [Journal.parseLine, h.id, h.phase, h.reason, h.price, h.deposit, h.change, h.quarters, h.dispensed]
  rfl

/-- A reader finds the record, whatever the name of the host is. -/
theorem holds_toJson {ts : Bytes} (host : Bytes) {t : Txn} (hts : 34 ∉ ts) (ht : Writable t) : Holds (toJson ts host t) t := by
  obtain ⟨hprice, hdeposit, hchange, hquarters, hdispensed⟩ := ht.numbers
  exact
    { id := getStr_field host hts ht (searched _ (by decide)) (by simp [fieldsOf])
      phase := getStr_field host hts ht (searched _ (by decide)) (by simp [fieldsOf])
      reason := getStr_field host hts ht (searched _ (by decide)) (by simp [fieldsOf])
      price := getInt_field host hts ht (searched _ (by decide)) (by simp [fieldsOf]) hprice
      deposit := getInt_field host hts ht (searched _ (by decide)) (by simp [fieldsOf]) hdeposit
      change := getInt_field host hts ht (searched _ (by decide)) (by simp [fieldsOf]) hchange
      quarters := getInt_field host hts ht (searched _ (by decide)) (by simp [fieldsOf]) hquarters
      dispensed := getInt_field host hts ht (searched _ (by decide)) (by simp [fieldsOf]) hdispensed }

theorem Entry.holds (e : Entry) : Holds (toJson e.ts e.host e.txn) e.txn := holds_toJson e.host e.stamps.1.1 e.writable

end Drawer.Journal
