/-
# Theory.Split — splitting a sequence at a separator of several symbols

Scanning from the left, each occurrence of the separator ends a piece, and the
scan goes on behind it: occurrences do not overlap, and there is always one
piece more than there are separators found.

* `split_of_not_infix` — without a separator there is one piece.
* `split_append` — a front free of the separator's first symbol is a piece.
* `splitText_pair` — both together, on text: what was joined comes apart.
-/
import Mathlib.Data.List.Infix

namespace SupraFromScratch.Theory.Split

set_option autoImplicit false

variable {α : Type} [DecidableEq α]

/-- The pieces from a scan's position on, where `skip` symbols of a separator
just found are still to be passed. -/
def pieces (sep : List α) : Nat → List α → List (List α)
  | _, [] => [[]]
  | skip + 1, _ :: xs => pieces sep skip xs
  | 0, x :: xs =>
      if sep <+: x :: xs then [] :: pieces sep (sep.length - 1) xs
      else (pieces sep 0 xs).modifyHead (x :: ·)

def split (sep xs : List α) : List (List α) := pieces sep 0 xs

theorem pieces_append (sep passed rest : List α) :
    pieces sep passed.length (passed ++ rest) = split sep rest := by
  induction passed with
  | nil => rfl
  | cons x passed ih => rw [List.length_cons, List.cons_append, pieces, ih]

theorem split_of_not_infix {sep xs : List α} (free : ¬ sep <:+: xs) : split sep xs = [xs] := by
  induction xs with
  | nil => rfl
  | cons x xs ih =>
    have here : ¬ sep <+: x :: xs := fun starts => free starts.isInfix
    have later : ¬ sep <:+: xs := fun inside => free (List.infix_cons inside)
    rw [split] at ih ⊢
    rw [pieces, if_neg here, ih later, List.modifyHead_cons]

theorem split_append {s : α} {sep front : List α} (free : s ∉ front) (rest : List α) :
    split (s :: sep) (front ++ (s :: sep) ++ rest) = front :: split (s :: sep) rest := by
  induction front with
  | nil =>
    have here : s :: sep <+: s :: (sep ++ rest) := List.prefix_append (s :: sep) rest
    rw [List.nil_append, List.cons_append, split, pieces, if_pos here, List.length_cons,
      Nat.add_sub_cancel, pieces_append]
  | cons x front ih =>
    rw [List.mem_cons, not_or] at free
    have here : ¬ s :: sep <+: x :: (front ++ (s :: sep) ++ rest) := by
      intro starts
      exact free.1 (List.cons_prefix_cons.mp starts).1
    rw [List.cons_append, List.cons_append, split, pieces, if_neg here, ← split, ih free.2,
      List.modifyHead_cons]

/-! ## Text -/

/-- Text split at a separator that has a symbol. -/
def splitText (sep text : String) : List String :=
  (split sep.toList text.toList).map String.ofList

theorem splitText_pair {sep front rest : String} {s : Char} {ss : List Char}
    (symbols : sep.toList = s :: ss) (freeFront : s ∉ front.toList)
    (freeRest : ¬ sep.toList <:+: rest.toList) :
    splitText sep (front ++ sep ++ rest) = [front, rest] := by
  rw [symbols] at freeRest
  rw [splitText, String.toList_append, String.toList_append, symbols,
    split_append freeFront, split_of_not_infix freeRest]
  simp only [List.map_cons, List.map_nil, String.ofList_toList]

/-- Of three colons, the first two are the separator. -/
example : splitText "::" "a:::b" = ["a", ":b"] := by decide

end SupraFromScratch.Theory.Split
