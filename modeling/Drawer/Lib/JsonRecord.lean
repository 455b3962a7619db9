import Drawer.Lib.Json
import Drawer.Lib.Text

/-! Records as JSON objects: the reads of arrays, maps and narrow integers, and
what they give back of a value that was written. -/

namespace Json
open Text

/-- The text that bytes are in UTF-8; of other bytes `dump` raises an error. -/
def textOf (b : Bytes) : Except Exn String :=
  match String.fromUTF8? ⟨b.toArray⟩ with
  | some s => .ok s
  | none => .error (.typeError 316)

def bytesOf (s : String) : Bytes := s.toUTF8.data.toList

theorem bytesOf_textOf {b : Bytes} {s : String} (h : textOf b = .ok s) : bytesOf s = b := by
  unfold textOf at h
  split at h
  · rename_i s' hs
    obtain rfl := Except.ok.inj h
    unfold String.fromUTF8? at hs
    split at hs
    · obtain rfl := Option.some.inj hs
      simp [bytesOf, String.fromUTF8]
    · cases hs
  · cases h

variable {S : Type} {α β : Type}

/-- `get<int>()`: like `get<long>()`, but a truth value counts as a number, and only 32 bits are kept. -/
def getInt32 : Json S → Except Exn Int32
  | .bool b => .ok (if b then 1 else 0)
  | j => j.getInt.map Int32.ofInt

/-- `get<std::vector<T>>()`. -/
def getArr (read : Json S → Except Exn α) : Json S → Except Exn (List α)
  | .arr l => l.mapM read
  | _ => .error (.typeError 302)

/-- `get<std::map<std::string, T>>()`. -/
def getObj (read : Json S → Except Exn α) : Json S → Except Exn (List (S × α))
  | .obj members => members.mapM fun m => do
      let v ← read m.2
      return (m.1, v)
  | _ => .error (.typeError 302)

/-- What a range-for over a value visits. -/
def elements : Json S → List (Json S)
  | .arr l => l
  | .obj members => members.map Prod.snd
  | .null => []
  | j => [j]

/-- What a range-for over `.items()` visits where the value is a temporary, which is gone before the first round: that is
undefined, so the members may come, or anything else, or an exception. -/
abbrev Walk (S : Type) := Json S → Except Exn (List (S × Json S))

/-- The walk that was meant. -/
def members : Walk S
  | .obj members => .ok members
  | _ => .ok []

/-- The walk that throws, as reading a value of another type does. -/
def raises : Walk S := fun _ => .error (.typeError 302)

/-- The file of a store: it is opened, and emptied, before the text to write is made. -/
inductive StoreFile where
  | missing
  | emptied
  | holds (j : Json String)

/-- How a save comes out: before the file is opened the file system may throw, and after that the text may turn out not
to be UTF-8. -/
inductive Saving where
  | done
  | raised (e : Exn) (emptied : Bool)

/-- `contains(key)` and then `at(key)`. -/
def present [DecidableEq S] (j : Json S) (key : S) (read : Json S → Except Exn α) (dflt : α) : Except Exn α :=
  match j.member key with
  | some v => read v
  | none => .ok dflt

@[simp] theorem getStr_str (s : S) : getStr (.str s) = .ok s := rfl

@[simp] theorem getBool_bool (b : Bool) : getBool (.bool b : Json S) = .ok b := rfl

@[simp] theorem getInt_int (n : Int) : getInt (.int n : Json S) = .ok n := rfl

@[simp] theorem getNum_float (q : ℚ) : getNum (.float q : Json S) = .ok q := rfl

@[simp] theorem getInt32_int (n : Int32) : getInt32 (.int n.toInt : Json S) = .ok n := by
  simp [getInt32, getInt, Except.map]

theorem ok_bind (a : α) (f : α → Except Exn β) : (Except.ok a >>= f) = f a := rfl

theorem pure_ok (a : α) : (pure a : Except Exn α) = .ok a := rfl

theorem mapM_ok {f : α → Except Exn β} {g : α → β} {l : List α} (h : ∀ x ∈ l, f x = .ok (g x)) :
    l.mapM f = .ok (l.map g) := by
  induction l with
  | nil => rfl
  | cons x l ih =>
    rw [List.mapM_cons, h x List.mem_cons_self, ih fun y hy => h y (List.mem_cons_of_mem _ hy)]
    rfl

theorem of_bind_ok {x : Except Exn α} {f : α → Except Exn β} {b : β} (h : (x >>= f) = .ok b) :
    ∃ a, x = .ok a ∧ f a = .ok b := by
  cases x with
  | error e => cases h
  | ok a => exact ⟨a, rfl, h⟩

/-- What reads each value back from what was written of it reads a list of them back. -/
theorem mapM_read {write : α → Except Exn β} {read : β → Except Exn α} (h : ∀ a b, write a = .ok b → read b = .ok a)
    {l : List α} {l' : List β} (hl : l.mapM write = .ok l') : l'.mapM read = .ok l := by
  induction l generalizing l' with
  | nil =>
    obtain rfl := Except.ok.inj hl
    rfl
  | cons a l ih =>
    rw [List.mapM_cons] at hl
    obtain ⟨b, hb, hl⟩ := of_bind_ok hl
    obtain ⟨bs, hbs, hl⟩ := of_bind_ok hl
    obtain rfl := Except.ok.inj hl
    rw [List.mapM_cons, h a b hb, ih hbs]
    rfl

@[simp] theorem getArr_map {read : Json S → Except Exn α} {write : α → Json S} (h : ∀ a, read (write a) = .ok a)
    (l : List α) : getArr read (.arr (l.map write)) = .ok l := by
  have hmap := mapM_ok (f := read ∘ write) (g := id) fun a (_ : a ∈ l) => h a
  rw [getArr, List.mapM_map, hmap, List.map_id]

@[simp] theorem getObj_map {read : Json S → Except Exn α} {write : α → Json S} (h : ∀ a, read (write a) = .ok a)
    (l : List (S × α)) : getObj read (.obj (l.map fun m => (m.1, write m.2))) = .ok l := by
  rw [getObj, List.mapM_map]
  refine (mapM_ok (g := id) fun m _ => ?_).trans (by rw [List.map_id])
  simp only [Function.comp_apply, h m.2]
  rfl

variable [DecidableEq S]

theorem member_cons (key k : S) (v : Json S) (members : List (S × Json S)) :
    (Json.obj ((k, v) :: members)).member key = if k = key then some v else (Json.obj members).member key := by
  simp only [member, List.find?_cons]
  by_cases h : k = key <;> simp [h]

theorem value_obj (members : List (S × Json S)) (key : S) (read : Json S → Except Exn α) (dflt : α) :
    (Json.obj members).value key read dflt =
      match (Json.obj members).member key with
      | some v => read v
      | none => .ok dflt := rfl

/-- Of an object, a member with a default can be read if it is not there, or can be read by itself. -/
theorem value_ok_iff {j : Json S} {key : S} {read : Json S → Except Exn α} {dflt : α} :
    (∃ a, j.value key read dflt = .ok a) ↔
      (∃ members, j = .obj members) ∧ ∀ v, j.member key = some v → ∃ a, read v = .ok a := by
  cases j with
  | obj members =>
    rw [value_obj]
    cases hv : (obj members).member key with
    | none => exact iff_of_true ⟨dflt, rfl⟩ ⟨⟨members, rfl⟩, nofun⟩
    | some v => exact ⟨fun h => ⟨⟨members, rfl⟩, fun w hw => Option.some.inj hw ▸ h⟩, fun h => h.2 v rfl⟩
  | _ => exact iff_of_false (fun ⟨_, h⟩ => nomatch h) fun ⟨⟨_, h⟩, _⟩ => nomatch h

end Json
