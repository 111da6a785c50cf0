/-
# Theory.Pending — what was opened and is not closed yet

Some events of a log open something and some close what was opened.  Read from
the left, a log has at every moment a list of what is still open (`pending`).

A log that is a series of rounds, each opening one thing and closing it, and then
a last round that may stop anywhere, never has two things open (`oneAtATime`), and
has opened one for each round (`length_opened`).
-/
import Mathlib.Data.List.Infix

namespace SupraFromScratch.Theory

set_option autoImplicit false

namespace Pending

variable {E X : Type} (opens : E → Option X) (closes : E → X → Bool)

def step (left : List X) (e : E) : List X :=
  left.filter (fun x => !closes e x) ++ (opens e).toList

/-- What is still open after the log. -/
def pending (log : List E) : List X := log.foldl (step opens closes) []

/-- Everything the log opened. -/
def opened (log : List E) : List X := log.filterMap opens

/-- At no moment are two things open. -/
def OneAtATime (log : List E) : Prop :=
  ∀ front, front <+: log → (pending opens closes front).length ≤ 1

def OpensNone (log : List E) : Prop := ∀ e ∈ log, opens e = none

/-- A round: one thing is opened, and it is closed. -/
def Settles (log : List E) : Prop :=
  ∃ before e x after, log = before ++ e :: after ∧ OpensNone opens before ∧ opens e = some x ∧
    OpensNone opens after ∧ ∃ e' ∈ after, closes e' x = true

/-- A round that may have stopped. -/
def OpensOnce (log : List E) : Prop :=
  OpensNone opens log ∨
    ∃ before e x after, log = before ++ e :: after ∧ OpensNone opens before ∧ opens e = some x ∧
      OpensNone opens after

variable {opens closes}

@[simp] theorem opensNone_nil : OpensNone opens [] := by simp [OpensNone]

@[simp] theorem opensNone_cons {e : E} {log : List E} :
    OpensNone opens (e :: log) ↔ opens e = none ∧ OpensNone opens log :=
  List.forall_mem_cons

theorem OpensNone.append {log log' : List E} (none : OpensNone opens log)
    (none' : OpensNone opens log') : OpensNone opens (log ++ log') := by
  intro e mem
  rcases List.mem_append.mp mem with mem | mem
  · exact none e mem
  · exact none' e mem

theorem OpensNone.subset {log log' : List E} (none : OpensNone opens log)
    (sub : log' ⊆ log) : OpensNone opens log' := fun e mem => none e (sub mem)

theorem OpensNone.opened_eq {log : List E} (none : OpensNone opens log) : opened opens log = [] :=
  List.filterMap_eq_nil_iff.mpr none

theorem Settles.opensOnce {log : List E} (settles : Settles opens closes log) :
    OpensOnce opens log := by
  obtain ⟨before, e, x, after, split, quiet, opening, quiet', -⟩ := settles
  exact Or.inr ⟨before, e, x, after, split, quiet, opening, quiet'⟩

/-! ## Rounds that begin quietly -/

theorem OpensOnce.cons_quiet {log log' : List E} (none : OpensNone opens log)
    (once : OpensOnce opens log') : OpensOnce opens (log ++ log') := by
  rcases once with none' | ⟨before, e, x, after, rfl, quiet, opening, quiet'⟩
  · exact Or.inl (none.append none')
  · exact Or.inr ⟨log ++ before, e, x, after, by simp, none.append quiet, opening, quiet'⟩

theorem Settles.cons_quiet {log log' : List E} (none : OpensNone opens log)
    (settles : Settles opens closes log') : Settles opens closes (log ++ log') := by
  obtain ⟨before, e, x, after, rfl, quiet, opening, quiet', closing⟩ := settles
  exact ⟨log ++ before, e, x, after, by simp, none.append quiet, opening, quiet', closing⟩

/-! ## How many are open -/

theorem length_step_le {left : List X} {e : E} (none : opens e = none) :
    (step opens closes left e).length ≤ left.length := by
  rw [step, none]
  simpa using List.length_filter_le _ left

theorem length_foldl_le {log : List E} (none : OpensNone opens log) (left : List X) :
    (log.foldl (step opens closes) left).length ≤ left.length := by
  induction log generalizing left with
  | nil => exact le_refl _
  | cons e log ih =>
    have first : (step opens closes left e).length ≤ left.length :=
      length_step_le (none e List.mem_cons_self)
    exact (ih (none.subset (List.subset_cons_self _ _)) _).trans first

theorem foldl_nil {log : List E} (none : OpensNone opens log) :
    log.foldl (step opens closes) [] = [] :=
  List.length_eq_zero_iff.mp (Nat.le_zero.mp (length_foldl_le none []))

/-- What is closed once does not come back by itself. -/
theorem notMem_foldl {log : List E} (none : OpensNone opens log) {x : X} {left : List X}
    (closed : x ∉ left) : x ∉ log.foldl (step opens closes) left := by
  induction log generalizing left with
  | nil => exact closed
  | cons e log ih =>
    refine ih (none.subset (List.subset_cons_self _ _)) ?_
    rw [step, none e List.mem_cons_self]
    simp [closed]

theorem notMem_foldl_of_closes {log : List E} (none : OpensNone opens log) {x : X}
    (closing : ∃ e ∈ log, closes e x = true) (left : List X) :
    x ∉ log.foldl (step opens closes) left := by
  obtain ⟨e, mem, closing⟩ := closing
  obtain ⟨front, rest, rfl⟩ := List.append_of_mem mem
  rw [List.foldl_append, List.foldl_cons]
  refine notMem_foldl (none.subset (by simp)) ?_
  rw [step, none e mem]
  simp [closing]

theorem pending_append {log log' : List E} (none : OpensNone opens log) :
    pending opens closes (log ++ log') = pending opens closes log' := by
  rw [pending, List.foldl_append, foldl_nil none, pending]

/-! ## Rounds in a row -/

/-- A moment of two logs in a row is one of the first or of the second. -/
theorem prefix_append_cases {front log log' : List E} (pre : front <+: log ++ log') :
    front <+: log ∨ ∃ front', front = log ++ front' ∧ front' <+: log' := by
  rcases List.prefix_or_prefix_of_prefix pre (List.prefix_append log log') with within | ⟨rest, rfl⟩
  · exact Or.inl within
  · exact Or.inr ⟨rest, rfl, (List.prefix_append_right_inj log).mp pre⟩

theorem OneAtATime.cons_quiet {log log' : List E} (none : OpensNone opens log)
    (one : OneAtATime opens closes log') : OneAtATime opens closes (log ++ log') := by
  intro front pre
  rcases prefix_append_cases pre with within | ⟨front', rfl, pre'⟩
  · rw [pending, foldl_nil (none.subset within.subset)]
    exact Nat.zero_le _
  · rw [pending_append none]
    exact one front' pre'

theorem OpensOnce.oneAtATime {log : List E} (once : OpensOnce opens log) :
    OneAtATime opens closes log := by
  intro front pre
  rcases once with none | ⟨before, e, x, after, rfl, quiet, opening, quiet'⟩
  · rw [pending, foldl_nil (none.subset pre.subset)]
    exact Nat.zero_le _
  · rcases prefix_append_cases pre with within | ⟨front', rfl, pre'⟩
    · rw [pending, foldl_nil (quiet.subset within.subset)]
      exact Nat.zero_le _
    · rw [pending, List.foldl_append, foldl_nil quiet]
      cases front' with
      | nil => exact Nat.zero_le _
      | cons e' front' =>
        obtain ⟨rfl, pre''⟩ := List.cons_prefix_cons.mp pre'
        have one : step opens closes [] e' = [x] := by simp [step, opening]
        rw [List.foldl_cons, one]
        exact length_foldl_le (quiet'.subset pre''.subset) [x]

/-- A round leaves nothing open. -/
theorem Settles.pending_eq {log : List E} (settles : Settles opens closes log) :
    pending opens closes log = [] := by
  obtain ⟨before, e, x, after, rfl, quiet, opening, quiet', closing⟩ := settles
  have one : step opens closes [] e = [x] := by simp [step, opening]
  rw [pending, List.foldl_append, foldl_nil quiet, List.foldl_cons, one]
  apply List.eq_nil_iff_forall_not_mem.mpr
  intro y mem
  by_cases same : y = x
  · subst same
    exact notMem_foldl_of_closes quiet' closing _ mem
  · exact notMem_foldl quiet' (by simpa using same) mem

variable {rounds : List (List E)} {last : List E}

/-- **One at a time.**  Rounds that settle, and one that opens at most one thing. -/
theorem oneAtATime (settle : ∀ r ∈ rounds, Settles opens closes r) (once : OpensOnce opens last) :
    OneAtATime opens closes (rounds.flatten ++ last) := by
  induction rounds with
  | nil => exact once.oneAtATime
  | cons r rounds ih =>
    have first := settle r List.mem_cons_self
    intro front pre
    rw [List.flatten_cons, List.append_assoc] at pre
    rcases prefix_append_cases pre with within | ⟨front', rfl, pre'⟩
    · exact first.opensOnce.oneAtATime front within
    · rw [pending, List.foldl_append]
      have nothing : r.foldl (step opens closes) [] = [] := first.pending_eq
      rw [nothing]
      exact ih (fun r' mem => settle r' (List.mem_cons_of_mem _ mem)) front' pre'

theorem pending_flatten (settle : ∀ r ∈ rounds, Settles opens closes r) :
    pending opens closes rounds.flatten = [] := by
  induction rounds with
  | nil => rfl
  | cons r rounds ih =>
    have nothing : r.foldl (step opens closes) [] = [] := (settle r List.mem_cons_self).pending_eq
    rw [List.flatten_cons, pending, List.foldl_append, nothing]
    exact ih fun r' mem => settle r' (List.mem_cons_of_mem _ mem)

/-! ## How many were opened -/

theorem Settles.length_opened {log : List E} (settles : Settles opens closes log) :
    (opened opens log).length = 1 := by
  obtain ⟨before, e, x, after, rfl, quiet, opening, quiet', -⟩ := settles
  rw [opened, List.filterMap_append, List.filterMap_cons_some opening]
  rw [show before.filterMap opens = [] from quiet.opened_eq,
    show after.filterMap opens = [] from quiet'.opened_eq]
  rfl

theorem OpensOnce.length_opened {log : List E} (once : OpensOnce opens log) :
    (opened opens log).length ≤ 1 := by
  rcases once with none | ⟨before, e, x, after, rfl, quiet, opening, quiet'⟩
  · rw [none.opened_eq]
    exact Nat.zero_le _
  · rw [opened, List.filterMap_append, List.filterMap_cons_some opening]
    rw [show before.filterMap opens = [] from quiet.opened_eq,
      show after.filterMap opens = [] from quiet'.opened_eq]
    exact le_refl _

/-- Each round opened one. -/
theorem length_opened (settle : ∀ r ∈ rounds, Settles opens closes r) :
    (opened opens rounds.flatten).length = rounds.length := by
  induction rounds with
  | nil => rfl
  | cons r rounds ih =>
    have one := (settle r List.mem_cons_self).length_opened
    have others := ih fun r' mem => settle r' (List.mem_cons_of_mem _ mem)
    rw [opened] at one others ⊢
    rw [List.flatten_cons, List.filterMap_append, List.length_append, one, others, List.length_cons]
    omega

end Pending

end SupraFromScratch.Theory
