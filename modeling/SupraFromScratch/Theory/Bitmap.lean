/-
# Theory.Bitmap — sets of positions as bits, most significant first

A bitmap of a fixed width marks position `i` with bit `width - 1 - i`, so that
reading its bits from the top lists the marked positions in increasing order.

* `positions_markAll` — reading a bitmap back gives the marked positions in
  increasing order, whatever order they were marked in and however often.
* `ranked_sorted` — an increasing list is read back as it is.
* `length_ranked` — as many bits are set as positions were marked
  exactly when none was marked twice.
-/
import Mathlib.Data.List.Dedup
import Mathlib.Data.List.Sort
import Mathlib.Data.Nat.Bitwise

namespace SupraFromScratch.Theory.Bitmap

set_option autoImplicit false

def mark (width bitmap i : Nat) : Nat := bitmap ||| 1 <<< (width - 1 - i)

def markAll (width : Nat) (marked : List Nat) (bitmap : Nat) : Nat :=
  marked.foldl (mark width) bitmap

/-- The positions of the set bits, from the most significant one. -/
def positions (width bitmap : Nat) : List Nat :=
  (List.range width).filter fun i => bitmap.testBit (width - 1 - i)

/-- The marked positions in increasing order, each once. -/
def ranked (width : Nat) (marked : List Nat) : List Nat :=
  (List.range width).filter (· ∈ marked)

section

variable {width : Nat}

/-- Bits of different positions are different bits. -/
theorem testBit_mark {bitmap i j : Nat} (hi : i < width) (hj : j < width) :
    (mark width bitmap i).testBit (width - 1 - j) =
      (bitmap.testBit (width - 1 - j) || decide (j = i)) := by
  have same : (width - 1 - i = width - 1 - j) = (j = i) := by
    apply propext
    omega
  rw [mark, Nat.testBit_or, Nat.shiftLeft_eq, one_mul, Nat.testBit_two_pow]
  simp only [same]

theorem testBit_markAll {marked : List Nat} (below : ∀ i ∈ marked, i < width) (bitmap : Nat)
    {j : Nat} (hj : j < width) :
    (markAll width marked bitmap).testBit (width - 1 - j) =
      (bitmap.testBit (width - 1 - j) || decide (j ∈ marked)) := by
  induction marked generalizing bitmap with
  | nil => simp [markAll]
  | cons i marked ih =>
    have hi : i < width := below i (by simp)
    have rest : ∀ i ∈ marked, i < width := fun i mem => below i (by simp [mem])
    rw [markAll, List.foldl_cons, ← markAll, ih rest, testBit_mark hi hj]
    simp only [List.mem_cons, Bool.decide_or, Bool.or_assoc]

theorem markAll_lt {marked : List Nat} (below : ∀ i ∈ marked, i < width) {bitmap : Nat}
    (fits : bitmap < 2 ^ width) : markAll width marked bitmap < 2 ^ width := by
  induction marked generalizing bitmap with
  | nil => exact fits
  | cons i marked ih =>
    have hi : i < width := below i (by simp)
    have bit : 1 <<< (width - 1 - i) < 2 ^ width := by
      rw [Nat.shiftLeft_eq, one_mul]
      exact Nat.pow_lt_pow_right (by decide) (by omega)
    apply ih (fun i mem => below i (by simp [mem]))
    exact Nat.or_lt_two_pow fits bit

/-- **Reading back what was marked.** -/
theorem positions_markAll {marked : List Nat} (below : ∀ i ∈ marked, i < width) :
    positions width (markAll width marked 0) = ranked width marked := by
  unfold positions ranked
  apply List.filter_congr
  intro j hj
  rw [testBit_markAll below 0 (List.mem_range.mp hj)]
  simp

theorem mem_ranked {marked : List Nat} (below : ∀ i ∈ marked, i < width) {i : Nat} :
    i ∈ ranked width marked ↔ i ∈ marked := by
  simp only [ranked, List.mem_filter, List.mem_range, decide_eq_true_eq]
  exact ⟨And.right, fun mem => ⟨below i mem, mem⟩⟩

theorem ranked_perm_dedup {marked : List Nat} (below : ∀ i ∈ marked, i < width) :
    (ranked width marked).Perm marked.dedup := by
  have once : (ranked width marked).Nodup := List.nodup_range.filter _
  rw [List.perm_ext_iff_of_nodup once (List.nodup_dedup _)]
  intro i
  rw [mem_ranked below, List.mem_dedup]

/-- Increasing positions are read back in place. -/
theorem ranked_sorted {marked : List Nat} (below : ∀ i ∈ marked, i < width)
    (increasing : marked.Pairwise (· < ·)) : ranked width marked = marked := by
  have once : marked.Nodup := increasing.imp ne_of_lt
  have perm : (ranked width marked).Perm marked := by
    have dedup := ranked_perm_dedup below
    rwa [once.dedup] at dedup
  have sorted : (ranked width marked).Pairwise (· < ·) := List.pairwise_lt_range.filter _
  exact perm.eq_of_pairwise (fun _ _ _ _ hab hba => absurd hab (lt_asymm hba)) sorted increasing

theorem length_ranked {marked : List Nat} (below : ∀ i ∈ marked, i < width) :
    (ranked width marked).length = marked.length ↔ marked.Nodup := by
  rw [(ranked_perm_dedup below).length_eq]
  refine ⟨fun counted => ?_, fun once => by rw [once.dedup]⟩
  have whole := (List.dedup_sublist marked).eq_of_length counted
  exact List.dedup_eq_self.mp whole

end

end SupraFromScratch.Theory.Bitmap
