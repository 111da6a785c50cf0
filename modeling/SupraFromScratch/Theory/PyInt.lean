/-
# Theory.PyInt — `int()` and subscripts of plain data

`int()` truncates a float and reads text as a decimal literal of any script:
blanks around it, a sign, and digits with single underscores between them.
Every other value raises, and so does every subscript a value does not have.
-/
import SupraFromScratch.Theory.Python

namespace SupraFromScratch.Theory

set_option autoImplicit false

/-! ## Decimal literals -/

/-- The decimal zeros of Unicode 14; the nine other digits follow each of them. -/
def decimalZeros : List Nat :=
  [0x30, 0x660, 0x6f0, 0x7c0, 0x966, 0x9e6, 0xa66, 0xae6, 0xb66, 0xbe6, 0xc66, 0xce6, 0xd66, 0xde6,
    0xe50, 0xed0, 0xf20, 0x1040, 0x1090, 0x17e0, 0x1810, 0x1946, 0x19d0, 0x1a80, 0x1a90, 0x1b50,
    0x1bb0, 0x1c40, 0x1c50, 0xa620, 0xa8d0, 0xa900, 0xa9d0, 0xa9f0, 0xaa50, 0xabf0, 0xff10, 0x104a0,
    0x10d30, 0x11066, 0x110f0, 0x11136, 0x111d0, 0x112f0, 0x11450, 0x114d0, 0x11650, 0x116c0,
    0x11730, 0x118e0, 0x11950, 0x11c50, 0x11d50, 0x11da0, 0x16a60, 0x16ac0, 0x16b50, 0x1d7ce,
    0x1d7d8, 0x1d7e2, 0x1d7ec, 0x1d7f6, 0x1e140, 0x1e2f0, 0x1e950, 0x1fbf0]

def decimal (c : Char) : Option Nat :=
  (decimalZeros.find? fun first => first ≤ c.toNat ∧ c.toNat < first + 10).map (c.toNat - ·)

/-- The characters `int()` skips around a literal. -/
def isBlank (c : Char) : Bool :=
  let n := c.toNat
  9 ≤ n ∧ n ≤ 13 ∨ 0x2000 ≤ n ∧ n ≤ 0x200a ∨
    n ∈ [0x20, 0x85, 0xa0, 0x1680, 0x2028, 0x2029, 0x202f, 0x205f, 0x3000]

/-- Digits, with single underscores between them. -/
def literalDigits : List Char → Option (List Nat)
  | [] => none
  | [c] => (decimal c).map ([·])
  | c :: '_' :: rest => do return (← decimal c) :: (← literalDigits rest)
  | c :: rest => do return (← decimal c) :: (← literalDigits rest)

/-- The interpreter's limit on the digits of a literal. -/
def maxStrDigits : Nat := 4300

def intOfText (s : String) : Option Int :=
  let body := ((s.toList.dropWhile isBlank).reverse.dropWhile isBlank).reverse
  let (negative, body) := match body with
    | '-' :: rest => (true, rest)
    | '+' :: rest => (false, rest)
    | rest => (false, rest)
  match literalDigits body with
  | some digits =>
      let value : Nat := digits.foldl (fun acc d => 10 * acc + d) 0
      if digits.length ≤ maxStrDigits then some (if negative then -value else value) else none
  | none => none

example : intOfText " -1_000\n" = some (-1000) := by decide

example : intOfText "1__0" = none ∧ intOfText "1.0" = none ∧ intOfText "" = none := by decide

namespace PyVal

variable {C : Type}

/-- `int(v)`. -/
def toInt : PyVal C → Except PyError Int
  | .bool b => .ok (if b then 1 else 0)
  | .int i => .ok i
  | .float (.finite x) => .ok (x.num.tdiv x.den)
  | .float (.infinite _) => .error (.overflowError "cannot convert float infinity to integer")
  | .float .nan => .error (.valueError "cannot convert float NaN to integer")
  | .str s => readLiteral s
  | .bytes b =>
      if b.all (· < 128) then readLiteral (String.ofList (b.map fun byte => Char.ofNat byte.toNat))
      else .error invalidLiteral
  | _ => .error (.typeError
      "int() argument must be a string, a bytes-like object or a real number")
where
  invalidLiteral : PyError := .valueError "invalid literal for int() with base 10"
  readLiteral (s : String) : Except PyError Int :=
    match intOfText s with
    | some i => .ok i
    | Option.none => .error invalidLiteral

/-! ## Tests and subscripts -/

/-- `v is None`. -/
def isNone : PyVal C → Bool
  | .none => true
  | _ => false

theorem isNone_eq_true_iff {v : PyVal C} : v.isNone = true ↔ v = .none := by
  cases v <;> simp [isNone]

/-- `v[key]`. -/
def getKey (key : String) : PyVal C → Except PyError (PyVal C)
  | .dict items =>
      match items.lookup key with
      | some v => .ok v
      | Option.none => .error (.keyError key)
  | .str _ | .list _ | .bytes _ => .error (.typeError "indices must be integers or slices, not str")
  | _ => .error (.typeError "object is not subscriptable")

/-- `bool(v)`. -/
def truth : PyVal C → Bool
  | .none => false
  | .bool b => b
  | .int i => i != 0
  | .float x => x != .finite 0
  | .str s => s != ""
  | .bytes b => !b.isEmpty
  | .list items => !items.isEmpty
  | .dict items => !items.isEmpty
  | .obj _ _ => true

/-- `a, b = v`. -/
def unpackPair (v : PyVal C) : Except PyError (PyVal C × PyVal C) := do
  match ← v.iterate with
  | [a, b] => return (a, b)
  | [] | [_] => throw (.valueError "not enough values to unpack (expected 2)")
  | _ => throw (.valueError "too many values to unpack (expected 2)")

theorem getKey_dict (key : String) (items : List (String × PyVal C)) :
    getKey key (.dict items) = match items.lookup key with
      | some v => .ok v
      | Option.none => .error (.keyError key) := rfl

/-- `v[i]`. -/
def getPos (i : Nat) : PyVal C → Except PyError (PyVal C)
  | .list items => getIndex items i
  | .str s => do return .str (String.singleton (← getIndex s.toList i))
  | .bytes b => do return .int (← getIndex b i).toNat
  | .dict _ => .error (.keyError (toString i)) -- the keys of plain data are text
  | _ => .error (.typeError "object is not subscriptable")

end PyVal

end SupraFromScratch.Theory
