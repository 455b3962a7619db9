import Drawer.Lib.Lexical
import Mathlib.Data.List.Sort
import Mathlib.Tactic

/-! JSON values, the checked reads of them, and their compact text. A read either
returns, or raises the error of a value of the wrong type. Strings are any type `S`.
The text is the one nlohmann's `dump()` writes: members in the order of their keys,
no blanks, texts in UTF-8 with the control characters escaped; how a fraction is
written is left to the caller. -/

/-- What a call may raise. -/
inductive Exn where
  | typeError (id : ℕ)
  | invalidArgument
  | outOfRange
  | other
  deriving DecidableEq, Repr

inductive Json (S : Type) where
  | null
  | bool (b : Bool)
  | int (n : Int)
  | float (q : ℚ)
  | str (s : S)
  | arr (l : List (Json S))
  | obj (members : List (S × Json S))

namespace Json

variable {S : Type}

/-- `get<std::string>()`. -/
def getStr : Json S → Except Exn S
  | .str s => .ok s
  | _ => .error (.typeError 302)

/-- `get<bool>()`. -/
def getBool : Json S → Except Exn Bool
  | .bool b => .ok b
  | _ => .error (.typeError 302)

/-- `get<long>()`: a number of any kind, a fraction cut towards zero. -/
def getInt : Json S → Except Exn Int
  | .int n => .ok n
  | .float q => .ok (q.num.tdiv q.den)
  | _ => .error (.typeError 302)

/-- `get<double>()`, as the exact number. -/
def getNum : Json S → Except Exn ℚ
  | .int n => .ok n
  | .float q => .ok q
  | _ => .error (.typeError 302)

variable [DecidableEq S]

/-- The member `key` of an object. -/
def member (key : S) : Json S → Option (Json S)
  | .obj members => (members.find? fun p => decide (p.1 = key)).map Prod.snd
  | _ => none

/-- `value(key, dflt)`, reading a present member with `read`. -/
def value {α : Type} (j : Json S) (key : S) (read : Json S → Except Exn α) (dflt : α) : Except Exn α :=
  match j with
  | .obj _ =>
    match j.member key with
    | some v => read v
    | none => .ok dflt
  | _ => .error (.typeError 306)

/-! ### The compact text -/

def hexDigit (n : ℕ) : Char := Char.ofNat (if n < 10 then 48 + n else 87 + n)

def escape (c : Char) : List Char :=
  if c = '"' then ['\\', '"']
  else if c = '\\' then ['\\', '\\']
  else if c = '\n' then ['\\', 'n']
  else if c = '\r' then ['\\', 'r']
  else if c = '\t' then ['\\', 't']
  else if c.toNat = 8 then ['\\', 'b']
  else if c.toNat = 12 then ['\\', 'f']
  else if c.toNat < 32 then ['\\', 'u', '0', '0', hexDigit (c.toNat / 16), hexDigit (c.toNat % 16)]
  else [c]

def quote (s : String) : String := "\"" ++ String.ofList (s.toList.flatMap escape) ++ "\""

/-- The order of the keys of an object. -/
def keyBefore (p q : String × String) : Bool :=
  !Lexical.less (q.1.toList.map Char.toNat) (p.1.toList.map Char.toNat)

def joinMembers (members : List (String × String)) : String :=
  ",".intercalate ((members.insertionSort fun p q => keyBefore p q = true).map fun p => quote p.1 ++ ":" ++ p.2)

mutual
def dump (float : ℚ → String) : Json String → String
  | .null => "null"
  | .bool b => if b then "true" else "false"
  | .int n => toString n
  | .float q => float q
  | .str s => quote s
  | .arr l => "[" ++ ",".intercalate (dumpList float l) ++ "]"
  | .obj members => "\x7b" ++ joinMembers (dumpMembers float members) ++ "\x7d"

def dumpList (float : ℚ → String) : List (Json String) → List String
  | [] => []
  | j :: rest => dump float j :: dumpList float rest

def dumpMembers (float : ℚ → String) : List (String × Json String) → List (String × String)
  | [] => []
  | (k, v) :: rest => (k, dump float v) :: dumpMembers float rest
end

end Json

example : Json.dump (fun _ => "") (.obj [("b", .arr [.int 1, .null]), ("a", .str "x\"y")]) =
    "\x7b\"a\":\"x\\\"y\",\"b\":[1,null]\x7d" := by decide +kernel
