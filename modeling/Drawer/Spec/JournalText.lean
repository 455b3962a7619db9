import Drawer.Lib.Lines
import Drawer.Lib.Numeral
import Drawer.Lib.Search
import Drawer.Spec.Journal

/-! The text of the journal: how a record is written to its line and read back from
it. The reader takes the first occurrence of every name. `ts` and `host` are the time
and the name of the host when the line is written. -/

namespace Drawer.Journal
open Text

/-- A time of the calendar. -/
structure Tm where
  year : Int
  month : ℕ
  day : ℕ
  hour : ℕ
  minute : ℕ
  second : ℕ

def twoDigits (n : ℕ) : Bytes := (if n < 10 then [48] else []) ++ decimal n

/-- `strftime` with `%FT%TZ`. -/
def strftime (tm : Tm) : Bytes :=
  decimal tm.year ++ ascii "-" ++ twoDigits tm.month ++ ascii "-" ++ twoDigits tm.day ++ ascii "T" ++
  twoDigits tm.hour ++ ascii ":" ++ twoDigits tm.minute ++ ascii ":" ++ twoDigits tm.second ++ ascii "Z"

def toJson (ts host : Bytes) (t : Txn) : Bytes :=
  ascii "\x7b\"ts\":\"" ++ ts ++ ascii "\",\"id\":\"" ++ t.id ++
  ascii "\",\"price\":" ++ decimal t.price ++
  ascii ",\"deposit\":" ++ decimal t.deposit ++
  ascii ",\"change\":" ++ decimal t.change ++
  ascii ",\"quarters\":" ++ decimal t.quarters ++
  ascii ",\"phase\":\"" ++ t.phase ++
  ascii "\",\"dispensed\":" ++ decimal t.dispensed ++
  ascii ",\"reason\":\"" ++ t.reason ++
  ascii "\",\"host\":\"" ++ host ++ ascii "\"\x7d"

/-- What a complete `append` writes. -/
def line (ts host : Bytes) (t : Txn) : Bytes := toJson ts host t ++ [10]

/-- `get_int`: what becomes of the target. -/
def getInt (s : Bytes) (key : String) (dst : Int) : Except Exn Int :=
  match find (ascii "\"" ++ ascii key ++ ascii "\":") s with
  | none => .ok dst
  | some (_, rest) => stoi ((rest.drop (key.length + 3)).takeWhile fun b => b ≠ 44 && b ≠ 125)

/-- `get_str`. -/
def getStr (s : Bytes) (key : String) (dst : Bytes) : Bytes :=
  match find (ascii "\"" ++ ascii key ++ ascii "\":\"") s with
  | none => dst
  | some (_, rest) => (rest.drop (key.length + 4)).takeWhile fun b => b ≠ 34

def parseLine (s : Bytes) (out : Txn) : Except Exn Txn := do
  let id := getStr s "id" out.id
  let price ← getInt s "price" out.price
  let deposit ← getInt s "deposit" out.deposit
  let change ← getInt s "change" out.change
  let quarters ← getInt s "quarters" out.quarters
  let dispensed ← getInt s "dispensed" out.dispensed
  let phase := getStr s "phase" out.phase
  let reason := getStr s "reason" out.reason
  return { id, price, deposit, change, quarters, dispensed, phase, reason }

/-- `load_last` of a file with this content, into a new record. -/
def readLast (file : Bytes) : Except Exn (Option Txn) :=
  match ((lines 10 file).filter fun l => l ≠ []).getLast? with
  | none => .ok none
  | some last => do
    let t ← parseLine last {}
    return some t

/-! ### Torn files -/

/-- The text stands in a line and between quotes as it is. -/
def Bare (s : Bytes) : Prop := 34 ∉ s ∧ 10 ∉ s

def IsInt (n : Int) : Prop := -2147483648 ≤ n ∧ n ≤ 2147483647

/-- A record that can be written: its numbers are of type `int`, and its texts are bare. -/
structure Writable (t : Txn) : Prop where
  texts : Bare t.id ∧ Bare t.phase ∧ Bare t.reason
  numbers : IsInt t.price ∧ IsInt t.deposit ∧ IsInt t.change ∧ IsInt t.quarters ∧ IsInt t.dispensed

/-- A record as it was appended, with the stamps of its line. -/
structure Entry where
  txn : Txn
  ts : Bytes
  host : Bytes
  writable : Writable txn
  stamps : Bare ts ∧ Bare host

def Entry.line (e : Entry) : Bytes := Journal.line e.ts e.host e.txn

/-- What stands in the line before the text of the id. -/
def Entry.head (e : Entry) : Bytes := ascii "\x7b\"ts\":\"" ++ e.ts ++ ascii "\",\"id\":\""

/-- The file of these entries, with a further one cut off after `cut`. -/
def fileOf (entries : List Entry) (cut : Bytes) : Bytes := entries.flatMap Entry.line ++ cut

/-- After the entries, `last` the latest, the line of `next` was cut off after `cut`: the file reads as one of the two, and
with any entry appended as that one. -/
structure Recovers (entries : List Entry) (last next : Entry) (cut : Bytes) : Prop where
  read : readLast (fileOf (entries ++ [last]) cut) = .ok (some last.txn) ∨
    readLast (fileOf (entries ++ [last]) cut) = .ok (some next.txn)
  appended : ∀ e : Entry, readLast (fileOf (entries ++ [last]) cut ++ e.line) = .ok (some e.txn)

end Drawer.Journal
