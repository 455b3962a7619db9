import Mathlib.Data.List.Sort
import Drawer.Lib.Json
import Drawer.Lib.Lexical
import Drawer.Lib.Numeral
import Drawer.Lib.Search

/-! The compact text of a JSON value over byte strings, as nlohmann's `dump()`
writes it: members in the order of their keys, no blanks, quotes, backslashes and
control bytes escaped. How a fraction is written is left to the caller; a text
that is not UTF-8, for which the library raises, is written as it is. -/

namespace Json
open Text

def escapeByte (b : UInt8) : Bytes :=
  if b = 34 then [92, 34]
  else if b = 92 then [92, 92]
  else if b = 8 then ascii "\\b"
  else if b = 9 then ascii "\\t"
  else if b = 10 then ascii "\\n"
  else if b = 12 then ascii "\\f"
  else if b = 13 then ascii "\\r"
  else if b < 32 then ascii "\\u00" ++ [hexByte (b.toNat / 16), hexByte (b.toNat % 16)]
  else [b]

def escapeText (s : Bytes) : Bytes := s.flatMap escapeByte

def quoteText (s : Bytes) : Bytes := 34 :: (escapeText s ++ [34])

/-- A member with its value written out. -/
def memberText (key value : Bytes) : Bytes := quoteText key ++ 58 :: value

/-- The members in the order of their keys. -/
def sortMembers (members : List (Bytes × Bytes)) : List (Bytes × Bytes) :=
  members.insertionSort fun p q => less q.1 p.1 = false

mutual
def dumpText (float : ℚ → Bytes) : Json Bytes → Bytes
  | .null => ascii "null"
  | .bool b => ascii (if b then "true" else "false")
  | .int n => decimal n
  | .float q => float q
  | .str s => quoteText s
  | .arr l => ascii "[" ++ [44].intercalate (dumpTexts float l) ++ ascii "]"
  | .obj members =>
    ascii "\x7b" ++ [44].intercalate ((sortMembers (memberTexts float members)).map fun p => memberText p.1 p.2) ++
    ascii "\x7d"

def dumpTexts (float : ℚ → Bytes) : List (Json Bytes) → List Bytes
  | [] => []
  | j :: rest => dumpText float j :: dumpTexts float rest

def memberTexts (float : ℚ → Bytes) : List (Bytes × Json Bytes) → List (Bytes × Bytes)
  | [] => []
  | (k, v) :: rest => (k, dumpText float v) :: memberTexts float rest
end

theorem dumpTexts_map_str (float : ℚ → Bytes) (l : List Bytes) : dumpTexts float (l.map .str) = l.map quoteText := by
  induction l with
  | nil => rfl
  | cons s l ih => rw [List.map_cons, dumpTexts, ih, dumpText, List.map_cons]

theorem hexByte_ne_quote : ∀ n < 16, hexByte n ≠ 34 := by decide

/-- A quote inside a written text comes right after a backslash. -/
theorem escaped_escapeByte (b : UInt8) : Escaped 34 92 (escapeByte b) := by
  unfold escapeByte
  split_ifs with h34
  · intro u v huv
    rcases List.cons_eq_append_iff.mp huv with ⟨rfl, hv⟩ | ⟨u, rfl, hu⟩
    · exact absurd (List.cons.inj hv).1 (by decide)
    · rcases List.cons_eq_append_iff.mp hu with ⟨rfl, -⟩ | ⟨w, rfl, hw⟩
      · exact ⟨[], rfl⟩
      · exact absurd hw (by simp)
  all_goals refine escaped_of_notMem ?_
  all_goals try decide
  · have h1 := hexByte_ne_quote (b.toNat / 16) (by have := b.toNat_lt; omega)
    have h2 := hexByte_ne_quote (b.toNat % 16) (Nat.mod_lt _ (by decide))
    have h0 : (34 : UInt8) ∉ ascii "\\u00" := by decide
    simp [h0, h1.symm, h2.symm]
  · simpa using Ne.symm h34

theorem escaped_escapeText (s : Bytes) : Escaped 34 92 (escapeText s) := Escaped.flatMap escaped_escapeByte s

end Json
