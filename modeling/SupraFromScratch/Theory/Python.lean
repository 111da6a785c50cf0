/-
# Theory.Python — plain values, attribute dictionaries and reflection

The part of Python's object model a reflective converter looks at.  A value is
plain data or an object of some class with its attribute dictionary, in the
order in which the attributes were assigned.  The class type is a parameter.

* `PyVal.eq` — `==` on plain data: numbers compare across `bool`, `int` and `float`,
  and dictionaries compare as maps, whatever order their keys were inserted in.
* `PyVal.isJsonWith` — JSON all the way down, with the floats of some kind: none
  (`isJson`), the finite ones, which an encoder writes, or all, which a decoder
  answers (`isDecoded`).
* `setItem`, `getAttr`, `iterate`, `getIndex`, `getItem` — `d[k] = v`, attribute
  lookup, `list(v)` and `items[i]`.
* `bind_eq_ok`, `mapM_eq_ok_iff`, `findFirst_eq_ok_iff` — code that may raise, step
  by step and turn by turn of a comprehension or a search.
-/
import SupraFromScratch.Theory.Codec
import Mathlib.Data.List.Forall2

namespace SupraFromScratch.Theory

set_option autoImplicit false

/-- The exceptions a program raises or lets through. -/
inductive PyError where
  | exception (message : String)
  | attributeError (name : String)
  | typeError (message : String)
  | valueError (message : String)
  | indexError (message : String)
  | keyError (key : String)
  | overflowError (message : String)
  | nameError (name : String)
  | runtimeError (message : String)
  | fileExistsError (message : String)
  | fileNotFoundError (path : String)
  deriving DecidableEq, Repr

@[simp] theorem ok_bind {ε α β : Type} (a : α) (f : α → Except ε β) :
    (Except.ok a >>= f) = f a := rfl

@[simp] theorem error_bind {ε α β : Type} (e : ε) (f : α → Except ε β) :
    (Except.error e >>= f) = .error e := rfl

theorem bind_eq_ok {ε α β : Type} {x : Except ε α} {f : α → Except ε β} {b : β} :
    x >>= f = .ok b ↔ ∃ a, x = .ok a ∧ f a = .ok b := by
  cases x with
  | error e =>
    refine ⟨fun h => (by cases h), ?_⟩
    rintro ⟨a, h, -⟩
    cases h
  | ok a => simp

/-- Floating-point numbers, the finite ones through their value. -/
inductive PyFloat where
  | finite (value : Rat)
  | infinite (negative : Bool)
  | nan
  deriving DecidableEq

/-- `==` on floats: no number equals `nan`, not even itself. -/
def PyFloat.eq (a b : PyFloat) : Bool := a = b ∧ a ≠ .nan

def PyFloat.isFinite : PyFloat → Bool
  | .finite _ => true
  | _ => false

inductive PyVal (C : Type) where
  | none
  | bool (b : Bool)
  | int (i : Int)
  | float (x : PyFloat)
  | str (s : String)
  | bytes (b : Bytes)
  | list (items : List (PyVal C))
  | dict (items : List (String × PyVal C))
  | obj (cls : C) (attrs : List (String × PyVal C))

namespace PyVal

variable {C : Type}

/-! ## Equality of plain data -/

mutual

/-- `==` on plain data.  Objects answer through their class and are not plain
data; no object occurs in what this is used to compare. -/
def eq : PyVal C → PyVal C → Bool
  | .none, .none => true
  | .bool a, .bool b => a == b
  | .bool a, .int b => (if a then 1 else 0) == b
  | .int a, .bool b => a == (if b then 1 else 0)
  | .int a, .int b => a == b
  | .bool a, .float b => b.eq (.finite (if a then 1 else 0))
  | .float a, .bool b => a.eq (.finite (if b then 1 else 0))
  | .int a, .float b => b.eq (.finite a)
  | .float a, .int b => a.eq (.finite b)
  | .float a, .float b => a.eq b
  | .str a, .str b => a == b
  | .bytes a, .bytes b => a == b
  | .list a, .list b => eqList a b
  | .dict a, .dict b => a.length == b.length && eqItems a b
  | _, _ => false
termination_by structural x => x

def eqList : List (PyVal C) → List (PyVal C) → Bool
  | [], [] => true
  | x :: xs, y :: ys => eq x y && eqList xs ys
  | _, _ => false
termination_by structural xs => xs

/-- Every key of the first dictionary is in the second with an equal value. -/
def eqItems : List (String × PyVal C) → List (String × PyVal C) → Bool
  | [], _ => true
  | (k, v) :: rest, ys =>
      (match ys.lookup k with
        | some w => eq v w
        | Option.none => false) && eqItems rest ys
termination_by structural xs => xs

end

theorem eqList_map {α : Type} {f : α → PyVal C} {R : α → α → Prop}
    (faithful : ∀ a b, eq (f a) (f b) = true ↔ R a b) :
    ∀ xs ys : List α, eqList (xs.map f) (ys.map f) = true ↔ List.Forall₂ R xs ys
  | [], [] => by simp [eqList]
  | [], _ :: _ => by simp [eqList]
  | _ :: _, [] => by simp [eqList]
  | x :: xs, y :: ys => by
      simp only [List.map_cons, eqList, Bool.and_eq_true, faithful,
        eqList_map faithful xs ys, List.forall₂_cons]

/-- On data rendered faithfully, element by element, list equality is equality. -/
theorem eqList_map_iff {α : Type} {f : α → PyVal C}
    (faithful : ∀ a b, eq (f a) (f b) = true ↔ a = b) (xs ys : List α) :
    eqList (xs.map f) (ys.map f) = true ↔ xs = ys := by
  rw [eqList_map (R := (· = ·)) faithful]
  exact List.forall₂_eq_eq_eq ▸ Iff.rfl

/-! ## JSON -/

mutual

/-- String-keyed dictionaries, lists, strings, integers, booleans, null and the
floats of some kind, all the way down. -/
def isJsonWith (floats : PyFloat → Bool) : PyVal C → Bool
  | .none => true
  | .bool _ => true
  | .int _ => true
  | .float x => floats x
  | .str _ => true
  | .bytes _ => false
  | .list items => isJsonListWith floats items
  | .dict items => isJsonItemsWith floats items
  | .obj _ _ => false
termination_by structural x => x

def isJsonListWith (floats : PyFloat → Bool) : List (PyVal C) → Bool
  | [] => true
  | x :: xs => isJsonWith floats x && isJsonListWith floats xs
termination_by structural xs => xs

def isJsonItemsWith (floats : PyFloat → Bool) : List (String × PyVal C) → Bool
  | [] => true
  | (_, v) :: rest => isJsonWith floats v && isJsonItemsWith floats rest
termination_by structural xs => xs

end

/-- JSON without a float. -/
def isJson (v : PyVal C) : Bool := v.isJsonWith fun _ => false

/-- What a JSON decoder answers: every float, `NaN` and `Infinity` included. -/
def isDecoded (v : PyVal C) : Bool := v.isJsonWith fun _ => true

theorem isJsonListWith_eq_true {floats : PyFloat → Bool} {xs : List (PyVal C)} :
    isJsonListWith floats xs = true ↔ ∀ x ∈ xs, x.isJsonWith floats = true := by
  induction xs with
  | nil => simp [isJsonListWith]
  | cons x xs ih => simp [isJsonListWith, ih]

/-! ## Dictionaries, attributes and iteration -/

/-- `d[k] = v`: a key already present keeps its place. -/
def setItem (k : String) (v : PyVal C) : List (String × PyVal C) → List (String × PyVal C)
  | [] => [(k, v)]
  | (k', v') :: rest => if k' = k then (k, v) :: rest else (k', v') :: setItem k v rest

/-- The attribute of an object with this `__dict__`. -/
def getAttr (name : String) (attrs : List (String × PyVal C)) : Except PyError (PyVal C) :=
  match attrs.lookup name with
  | some v => .ok v
  | Option.none => .error (.attributeError name)

/-- `list(v)`: bytes iterate as integers, text as one-character texts and a
dictionary as its keys. -/
def iterate : PyVal C → Except PyError (List (PyVal C))
  | .bytes b => .ok (b.map fun byte => .int byte.toNat)
  | .str s => .ok (s.toList.map fun c => .str (String.singleton c))
  | .list items => .ok items
  | .dict items => .ok (items.map fun item => .str item.1)
  | _ => .error (.typeError "object is not iterable")

/-- `items[i]` of a list. -/
def getIndex {α : Type} (items : List α) (i : Nat) : Except PyError α :=
  match items[i]? with
  | some x => .ok x
  | Option.none => .error (.indexError "list index out of range")

/-- `items[i]` for a signed index: a negative one counts from the end. -/
def getItem {α : Type} (items : List α) (i : Int) : Except PyError α :=
  if 0 ≤ i then getIndex items i.toNat
  else if 0 ≤ items.length + i then getIndex items (items.length + i).toNat
  else .error (.indexError "list index out of range")

/-- A byte string's integers, as the list an encoder writes. -/
def ofBytes (b : Bytes) : PyVal C := .list (b.map fun byte => .int byte.toNat)

@[simp] theorem isJsonWith_ofBytes (floats : PyFloat → Bool) (b : Bytes) :
    (ofBytes b : PyVal C).isJsonWith floats = true := by
  simp [ofBytes, isJsonWith, isJsonListWith_eq_true]

theorem eq_int_toNat {a b : UInt8} :
    eq (.int a.toNat : PyVal C) (.int b.toNat) = true ↔ a = b := by
  rw [eq, beq_iff_eq, Int.ofNat_inj, UInt8.toNat_inj]

@[simp] theorem eq_ofBytes {a b : Bytes} :
    eq (ofBytes a : PyVal C) (ofBytes b) = true ↔ a = b := by
  simp only [ofBytes, eq]
  exact eqList_map_iff (fun _ _ => eq_int_toNat) a b

/-! ## Comprehensions -/

/-- A comprehension returns exactly when every turn does, with its results in order. -/
theorem mapM_eq_ok_iff {ε α β : Type} {f : α → Except ε β} {xs : List α} {ys : List β} :
    xs.mapM f = .ok ys ↔ List.Forall₂ (fun x y => f x = .ok y) xs ys := by
  induction xs generalizing ys with
  | nil =>
    refine ⟨fun h => ?_, fun related => ?_⟩
    · cases h
      exact .nil
    · cases related
      rfl
  | cons x xs ih =>
    rw [List.mapM_cons]
    refine ⟨fun h => ?_, fun related => ?_⟩
    · obtain ⟨y, hx, h⟩ := bind_eq_ok.mp h
      obtain ⟨rest, hrest, h⟩ := bind_eq_ok.mp h
      cases h
      exact .cons hx (ih.mp hrest)
    · cases related with
      | cons head tail =>
        rw [head, ih.mpr tail]
        rfl

/-- A loop that returns at the first element it looks for. -/
def findFirst {ε α β : Type} (test : α → Except ε Bool) (found : α → Except ε β)
    (missing : Except ε β) : List α → Except ε β
  | [] => missing
  | x :: xs => do if ← test x then found x else findFirst test found missing xs

theorem findFirst_eq_ok_iff {ε α β : Type} {test : α → Except ε Bool} {found : α → Except ε β}
    {missing : Except ε β} {xs : List α} {b : β} :
    findFirst test found missing xs = .ok b ↔
      (∃ before x after, xs = before ++ x :: after ∧ (∀ y ∈ before, test y = .ok false) ∧
        test x = .ok true ∧ found x = .ok b) ∨
      (∀ y ∈ xs, test y = .ok false) ∧ missing = .ok b := by
  induction xs with
  | nil => simp [findFirst]
  | cons x xs ih =>
    rw [findFirst, bind_eq_ok]
    constructor
    · rintro ⟨stop, tested, rest⟩
      cases stop with
      | true => exact Or.inl ⟨[], x, xs, rfl, by simp, tested, rest⟩
      | false =>
        rcases ih.mp rest with ⟨before, y, after, rfl, others, here⟩ | ⟨others, none⟩
        · exact Or.inl ⟨x :: before, y, after, rfl, List.forall_mem_cons.mpr ⟨tested, others⟩, here⟩
        · exact Or.inr ⟨List.forall_mem_cons.mpr ⟨tested, others⟩, none⟩
    · rintro (⟨before, y, after, split, others, tested, here⟩ | ⟨others, none⟩)
      · cases before with
        | nil =>
          cases split
          exact ⟨true, tested, here⟩
        | cons z before =>
          cases split
          obtain ⟨first, others⟩ := List.forall_mem_cons.mp others
          exact ⟨false, first, ih.mpr (Or.inl ⟨before, y, after, rfl, others, tested, here⟩)⟩
      · obtain ⟨first, others⟩ := List.forall_mem_cons.mp others
        exact ⟨false, first, ih.mpr (Or.inr ⟨others, none⟩)⟩

/-- `[pair(x, ys[i]) for i, x in enumerate(xs)]`, from position `k` on: the two
lists side by side, where the second is long enough. -/
theorem mapM_zipIdx_getIndex {α β γ : Type} (pair : α → β → γ) (ys : List β) (xs : List α)
    (k : Nat) :
    ((xs.zipIdx k).mapM fun (x, i) => do return pair x (← getIndex ys i)) =
      if xs.length ≤ (ys.drop k).length then .ok (List.zipWith pair xs (ys.drop k))
      else .error (.indexError "list index out of range") := by
  induction xs generalizing k with
  | nil => rfl
  | cons x xs ih =>
    rw [List.zipIdx_cons, List.mapM_cons, ih]
    cases hdrop : ys.drop k with
    | nil =>
      have missing : ys[k]? = Option.none := by
        rw [List.getElem?_eq_none_iff]
        exact List.drop_eq_nil_iff.mp hdrop
      simp only [getIndex, missing]
      rfl
    | cons y rest =>
      have found : ys[k]? = some y := by
        rw [← List.head?_drop, hdrop, List.head?_cons]
      have later : ys.drop (k + 1) = rest := by
        rw [← List.tail_drop, hdrop, List.tail_cons]
      simp only [getIndex, found, later, List.length_cons, Nat.add_le_add_iff_right]
      by_cases enough : xs.length ≤ rest.length
      · rw [if_pos enough, if_pos enough]
        rfl
      · rw [if_neg enough, if_neg enough]
        rfl

end PyVal

end SupraFromScratch.Theory
