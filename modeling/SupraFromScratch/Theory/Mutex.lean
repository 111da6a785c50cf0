/-
# Theory.Mutex — locks that remember a panic

A call either returns or panics.  A mutex whose holder panics is poisoned, and
taking a poisoned mutex with `lock().unwrap()` panics before the call is made.
Nothing clears the poison.

A pool is a family of such mutexes and a history a list of calls, each made
under one of them.  `poisoned_run` says what a history leaves behind: a mutex is
poisoned exactly when it was, or when a call made under it panics.
-/
import Mathlib.Logic.Function.Basic

namespace SupraFromScratch.Theory

set_option autoImplicit false

/-- How a call ends. -/
inductive Outcome (α : Type) where
  | returned (a : α)
  | panicked (message : String)
  deriving DecidableEq

def Outcome.isPanic {α : Type} : Outcome α → Bool
  | returned _ => false
  | panicked _ => true

structure Mutex where
  poisoned : Bool
  deriving DecidableEq

namespace Mutex

variable {α : Type}

def new : Mutex := ⟨false⟩

/-- What `unwrap` of a poisoned lock panics with. -/
def poisonError : String :=
  "called `Result::unwrap()` on an `Err` value: PoisonError \x7b .. \x7d"

/-- `lock().unwrap()`, and the call made while the lock is held. -/
def hold (m : Mutex) (call : Outcome α) : Outcome α × Mutex :=
  if m.poisoned then (.panicked poisonError, m)
  else (call, ⟨call.isPanic⟩)

theorem hold_poisoned {m : Mutex} (poisoned : m.poisoned = true) (call : Outcome α) :
    m.hold call = (.panicked poisonError, m) := if_pos poisoned

theorem hold_clean {m : Mutex} (clean : m.poisoned = false) (call : Outcome α) :
    (m.hold call).1 = call := by
  rw [hold, clean]
  rfl

/-- The poison stays, and a panic adds it. -/
theorem poisoned_hold (m : Mutex) (call : Outcome α) :
    (m.hold call).2.poisoned = (m.poisoned || call.isPanic) := by
  obtain ⟨poisoned⟩ := m
  cases poisoned <;> rfl

end Mutex

/-! ## Pools -/

namespace MutexPool

variable {I α : Type} [DecidableEq I]

/-- One call under the mutex at `i`. -/
def hold (pool : I → Mutex) (i : I) (call : Outcome α) : Outcome α × (I → Mutex) :=
  (((pool i).hold call).1, Function.update pool i ((pool i).hold call).2)

/-- A history of calls, each under the mutex it picked. -/
def run (pool : I → Mutex) (history : List (I × Outcome α)) : I → Mutex :=
  history.foldl (fun pool p => (hold pool p.1 p.2).2) pool

theorem poisoned_step (pool : I → Mutex) (i : I) (call : Outcome α) (j : I) :
    ((hold pool i call).2 j).poisoned =
      ((pool j).poisoned || (decide (i = j) && call.isPanic)) := by
  by_cases here : i = j
  · subst here
    simp [hold, Mutex.poisoned_hold]
  · have there : j ≠ i := Ne.symm here
    simp [hold, here, there]

/-- **What a history leaves behind.** -/
theorem poisoned_run (pool : I → Mutex) (history : List (I × Outcome α)) (j : I) :
    (run pool history j).poisoned =
      ((pool j).poisoned || history.any fun p => decide (p.1 = j) && p.2.isPanic) := by
  induction history generalizing pool with
  | nil => simp [run]
  | cons p history ih =>
    obtain ⟨i, call⟩ := p
    show (run (hold pool i call).2 history j).poisoned = _
    rw [ih, poisoned_step, List.any_cons, Bool.or_assoc]

end MutexPool

end SupraFromScratch.Theory
