/-
# Theory.LockPool — tasks that each make one call under a lock

Any number of tasks share a family of mutexes.  Each waits for its mutex, makes
its call while it holds it, and gives it back, poisoned if the call panicked;
one that finds its mutex poisoned panics instead.  Waiting, holding and having
ended are separate states, and a schedule is any list of tasks, each entry
letting its task take its next step, if it has one.

`MutexPool` is the same thing one call at a time.  Over every schedule:

* `Inv.run` — the mutexes are what the calls leave behind one at a time, in the
  order in which they ended, and each ends as it would have there;
* `log_run_append` — that order only grows;
* `ended_of_rounds` — nobody waits forever: rounds that let every task have a
  turn end every task, two rounds for each.
-/
import SupraFromScratch.Theory.Mutex
import Mathlib.Algebra.BigOperators.Group.Finset.Basic
import Mathlib.Algebra.Order.BigOperators.Group.Finset
import Mathlib.Data.Fintype.Card

namespace SupraFromScratch.Theory.LockPool

set_option autoImplicit false

/-- How far a task has come. -/
inductive Phase (α : Type) where
  | waiting
  | holding
  | ended (outcome : Outcome α)

/-- The mutexes, the task that holds each, and the order in which tasks ended. -/
structure State (I L α : Type) where
  mutex : L → Mutex
  holder : L → Option I
  phase : I → Phase α
  log : List I

namespace State

variable {I L α : Type}

/-- No task has taken a step. -/
def initial (mutex : L → Mutex) : State I L α where
  mutex := mutex
  holder _ := none
  phase _ := .waiting
  log := []

variable [DecidableEq I] [DecidableEq L]

def acquire (s : State I L α) (l : L) (i : I) : State I L α where
  mutex := s.mutex
  holder := Function.update s.holder l (some i)
  phase := Function.update s.phase i .holding
  log := s.log

/-- The end of a task that was not let in. -/
def turnAway (s : State I L α) (i : I) (outcome : Outcome α) : State I L α where
  mutex := s.mutex
  holder := s.holder
  phase := Function.update s.phase i (.ended outcome)
  log := s.log ++ [i]

/-- The end of a task that made its call. -/
def release (s : State I L α) (l : L) (i : I) (outcome : Outcome α) : State I L α where
  mutex := Function.update s.mutex l ⟨outcome.isPanic⟩
  holder := Function.update s.holder l none
  phase := Function.update s.phase i (.ended outcome)
  log := s.log ++ [i]

end State

section Tasks

variable {I L α : Type} [DecidableEq I] [DecidableEq L] (lockOf : I → L) (call : I → Outcome α)

/-- The next step of a task.  One that finds its mutex held stays where it is. -/
def step (s : State I L α) (i : I) : State I L α :=
  match s.phase i with
  | .waiting =>
    match s.holder (lockOf i) with
    | some _ => s
    | none =>
      if (s.mutex (lockOf i)).poisoned then s.turnAway i (.panicked Mutex.poisonError)
      else s.acquire (lockOf i) i
  | .holding => s.release (lockOf i) i (call i)
  | .ended _ => s

def run (s : State I L α) (schedule : List I) : State I L α :=
  schedule.foldl (step lockOf call) s

/-- The calls of some tasks, with the mutexes they are made under. -/
def callsOf (tasks : List I) : List (L × Outcome α) :=
  tasks.map fun i => (lockOf i, call i)

/-- What a task's call ends with, one call at a time, after those of `before`. -/
def outcomeAfter (mutex : L → Mutex) (before : List I) (i : I) : Outcome α :=
  (MutexPool.hold (MutexPool.run mutex (callsOf lockOf call before)) (lockOf i) (call i)).1

end Tasks

/-! ## What a step can do -/

section Steps

variable {I L α : Type} [DecidableEq I] [DecidableEq L] {lockOf : I → L} {call : I → Outcome α}

theorem run_cons (s : State I L α) (i : I) (schedule : List I) :
    run lockOf call s (i :: schedule) = run lockOf call (step lockOf call s i) schedule := rfl

theorem run_append (s : State I L α) (before later : List I) :
    run lockOf call s (before ++ later) = run lockOf call (run lockOf call s before) later :=
  List.foldl_append

variable (lockOf call) in
/-- The five things a task's step can be. -/
theorem step_cases (s : State I L α) (i : I) :
    (s.phase i = .waiting ∧ (s.holder (lockOf i)).isSome = true ∧ step lockOf call s i = s) ∨
    (s.phase i = .waiting ∧ s.holder (lockOf i) = none ∧ (s.mutex (lockOf i)).poisoned = true ∧
      step lockOf call s i = s.turnAway i (.panicked Mutex.poisonError)) ∨
    (s.phase i = .waiting ∧ s.holder (lockOf i) = none ∧ (s.mutex (lockOf i)).poisoned = false ∧
      step lockOf call s i = s.acquire (lockOf i) i) ∨
    (s.phase i = .holding ∧ step lockOf call s i = s.release (lockOf i) i (call i)) ∨
    ((∃ outcome, s.phase i = .ended outcome) ∧ step lockOf call s i = s) := by
  unfold step
  cases phase : s.phase i with
  | waiting =>
    cases holder : s.holder (lockOf i) with
    | some j => exact Or.inl ⟨rfl, rfl, rfl⟩
    | none =>
      cases poisoned : (s.mutex (lockOf i)).poisoned with
      | true => exact Or.inr (Or.inl ⟨rfl, rfl, rfl, rfl⟩)
      | false => exact Or.inr (Or.inr (Or.inl ⟨rfl, rfl, rfl, rfl⟩))
  | holding => exact Or.inr (Or.inr (Or.inr (Or.inl ⟨rfl, rfl⟩)))
  | ended outcome => exact Or.inr (Or.inr (Or.inr (Or.inr ⟨⟨outcome, rfl⟩, rfl⟩)))

/-- A step is its task's own. -/
theorem phase_step_of_ne (s : State I L α) {i j : I} (other : j ≠ i) :
    (step lockOf call s i).phase j = s.phase j := by
  rcases step_cases lockOf call s i with
    ⟨-, -, h⟩ | ⟨-, -, -, h⟩ | ⟨-, -, -, h⟩ | ⟨-, h⟩ | ⟨-, h⟩ <;> rw [h]
  · exact Function.update_of_ne other _ _
  · exact Function.update_of_ne other _ _
  · exact Function.update_of_ne other _ _

/-- An end is final. -/
theorem ended_run {s : State I L α} {i : I} {outcome : Outcome α}
    (ended : s.phase i = .ended outcome) (schedule : List I) :
    (run lockOf call s schedule).phase i = .ended outcome := by
  induction schedule generalizing s with
  | nil => exact ended
  | cons j schedule ih =>
    rw [run_cons]
    apply ih
    by_cases same : i = j
    · subst same
      simp only [step, ended]
    · rw [phase_step_of_ne s same]
      exact ended

variable (lockOf call) in
/-- A step adds its task to the log, or leaves the log alone. -/
theorem log_step (s : State I L α) (i : I) :
    (step lockOf call s i).log = s.log ∨ (step lockOf call s i).log = s.log ++ [i] := by
  rcases step_cases lockOf call s i with
    ⟨-, -, h⟩ | ⟨-, -, -, h⟩ | ⟨-, -, -, h⟩ | ⟨-, h⟩ | ⟨-, h⟩ <;> rw [h]
  · exact Or.inl rfl
  · exact Or.inr rfl
  · exact Or.inl rfl
  · exact Or.inr rfl
  · exact Or.inl rfl

theorem log_run (s : State I L α) (schedule : List I) :
    s.log <+: (run lockOf call s schedule).log := by
  induction schedule generalizing s with
  | nil => exact List.prefix_rfl
  | cons i schedule ih =>
    rw [run_cons]
    refine List.IsPrefix.trans ?_ (ih _)
    rcases log_step lockOf call s i with h | h <;> rw [h]
    exact List.prefix_append _ _

/-- **The order in which tasks end only grows.** -/
theorem log_run_append (s : State I L α) (before later : List I) :
    (run lockOf call s before).log <+: (run lockOf call s (before ++ later)).log := by
  rw [run_append]
  exact log_run _ later

end Steps

/-! ## One call at a time -/

section Refinement

variable {I L α : Type} [DecidableEq I] [DecidableEq L] {lockOf : I → L} {call : I → Outcome α}
  {mutex : L → Mutex} {s : State I L α}

omit [DecidableEq I] in
theorem run_callsOf_append (before : List I) (i : I) :
    MutexPool.run mutex (callsOf lockOf call (before ++ [i])) =
      (MutexPool.hold (MutexPool.run mutex (callsOf lockOf call before)) (lockOf i) (call i)).2 := by
  simp [MutexPool.run, callsOf]

variable (lockOf call mutex) in
/-- What holds of every state a schedule reaches from these mutexes. -/
structure Inv (s : State I L α) : Prop where
  holding_iff : ∀ i, s.phase i = .holding ↔ s.holder (lockOf i) = some i
  own : ∀ l i, s.holder l = some i → lockOf i = l
  clean : ∀ l i, s.holder l = some i → (s.mutex l).poisoned = false
  mutex_eq : s.mutex = MutexPool.run mutex (callsOf lockOf call s.log)
  logged : ∀ i, i ∈ s.log ↔ ∃ outcome, s.phase i = .ended outcome
  nodup : s.log.Nodup
  outcome : ∀ before i after, s.log = before ++ i :: after →
    s.phase i = .ended (outcomeAfter lockOf call mutex before i)

omit [DecidableEq I] in
theorem inv_initial : Inv lockOf call mutex (State.initial mutex : State I L α) where
  holding_iff i := by simp [State.initial]
  own l i holds := by cases holds
  clean l i holds := by cases holds
  mutex_eq := rfl
  logged i := by simp [State.initial]
  nodup := List.nodup_nil
  outcome before i after split := by cases before <;> cases split

omit [DecidableEq I] in
/-- A mutex has one holder. -/
theorem Inv.exclusive (inv : Inv lockOf call mutex s) {i j : I} (hi : s.phase i = .holding)
    (hj : s.phase j = .holding) (same : lockOf i = lockOf j) : i = j := by
  have holder := (inv.holding_iff i).mp hi
  rw [same, (inv.holding_iff j).mp hj] at holder
  cases holder
  rfl

/-- A task that takes a free, clean mutex. -/
theorem Inv.acquire (inv : Inv lockOf call mutex s) {i : I} (waiting : s.phase i = .waiting)
    (free : s.holder (lockOf i) = none) (clean : (s.mutex (lockOf i)).poisoned = false) :
    Inv lockOf call mutex (s.acquire (lockOf i) i) where
  holding_iff j := by
    by_cases same : j = i
    · subst same
      simp [State.acquire]
    · simp only [State.acquire, Function.update_of_ne same]
      rw [inv.holding_iff j]
      by_cases lock : lockOf j = lockOf i
      · rw [lock, Function.update_self, free]
        simp [Ne.symm same]
      · rw [Function.update_of_ne lock]
  own l j holds := by
    by_cases lock : l = lockOf i
    · subst lock
      simp only [State.acquire, Function.update_self] at holds
      cases holds
      rfl
    · simp only [State.acquire, Function.update_of_ne lock] at holds
      exact inv.own l j holds
  clean l j holds := by
    by_cases lock : l = lockOf i
    · subst lock
      exact clean
    · simp only [State.acquire, Function.update_of_ne lock] at holds
      exact inv.clean l j holds
  mutex_eq := inv.mutex_eq
  logged j := by
    by_cases same : j = i
    · subst same
      have notYet : j ∉ s.log := by
        rw [inv.logged, waiting]
        simp
      simp [State.acquire, notYet]
    · simp only [State.acquire, Function.update_of_ne same]
      exact inv.logged j
  nodup := inv.nodup
  outcome before j after split := by
    have ended := inv.outcome before j after split
    have other : j ≠ i := by
      rintro rfl
      rw [waiting] at ended
      cases ended
    simp only [State.acquire, Function.update_of_ne other]
    exact ended

/-- A task that ends with what its call ends with after the calls in the log. -/
theorem Inv.finish (inv : Inv lockOf call mutex s) {i : I} {s' : State I L α}
    (running : ∀ outcome, s.phase i ≠ .ended outcome)
    (phase : s'.phase = Function.update s.phase i
      (.ended (outcomeAfter lockOf call mutex s.log i)))
    (log : s'.log = s.log ++ [i])
    (mutex_eq : s'.mutex = MutexPool.run mutex (callsOf lockOf call (s.log ++ [i])))
    (holder : ∀ l j, s'.holder l = some j ↔ s.holder l = some j ∧ j ≠ i)
    (clean : ∀ l j, s'.holder l = some j → (s'.mutex l).poisoned = false) :
    Inv lockOf call mutex s' where
  holding_iff j := by
    rw [phase, holder]
    by_cases same : j = i
    · subst same
      simp
    · rw [Function.update_of_ne same, inv.holding_iff j]
      simp [same]
  own l j holds := inv.own l j ((holder l j).mp holds).1
  clean := clean
  mutex_eq := by rw [mutex_eq, log]
  logged j := by
    rw [phase, log, List.mem_append, List.mem_singleton]
    by_cases same : j = i
    · subst same
      simp
    · rw [Function.update_of_ne same, ← inv.logged j]
      simp [same]
  nodup := by
    have notYet : i ∉ s.log := by
      rw [inv.logged]
      rintro ⟨outcome, ended⟩
      exact running outcome ended
    rw [log, ← List.concat_eq_append]
    exact inv.nodup.concat notYet
  outcome before j after split := by
    rw [log] at split
    rcases List.eq_nil_or_concat' after with rfl | ⟨init, last, rfl⟩
    · -- the task that ends now
      obtain ⟨rfl, same⟩ := List.append_inj' split rfl
      cases same
      rw [phase, Function.update_self]
    · -- one that ended before
      have earlier : s.log = before ++ j :: init := by
        have cut : s.log ++ [i] = (before ++ j :: init) ++ [last] := by rw [split]; simp
        exact (List.append_inj' cut rfl).1
      have ended := inv.outcome before j init earlier
      have other : j ≠ i := by
        rintro rfl
        exact running _ ended
      rw [phase, Function.update_of_ne other]
      exact ended

/-- A step keeps the invariant. -/
theorem Inv.step (inv : Inv lockOf call mutex s) (i : I) :
    Inv lockOf call mutex (step lockOf call s i) := by
  rcases step_cases lockOf call s i with
    ⟨-, -, h⟩ | ⟨waiting, free, poisoned, h⟩ | ⟨waiting, free, clean, h⟩ | ⟨holding, h⟩ | ⟨-, h⟩ <;>
    rw [h]
  · exact inv
  · -- the mutex is as the log's calls leave it, so `i` is turned away there too
    have there : (MutexPool.run mutex (callsOf lockOf call s.log) (lockOf i)).poisoned = true := by
      rw [← inv.mutex_eq]
      exact poisoned
    have kept := Mutex.hold_poisoned there (call i)
    refine inv.finish (fun outcome ended => ?_) ?_ rfl ?_ (fun l j => ?_) (fun l j => ?_)
    · rw [waiting] at ended
      cases ended
    · rw [outcomeAfter, MutexPool.hold, kept]
      rfl
    · rw [run_callsOf_append, MutexPool.hold, kept, ← inv.mutex_eq, State.turnAway,
        Function.update_eq_self]
    · refine ⟨fun holds => ⟨holds, ?_⟩, fun holds => holds.1⟩
      rintro rfl
      change s.holder l = some j at holds
      rw [← inv.own l j holds, free] at holds
      cases holds
    · exact inv.clean l j
  · exact inv.acquire waiting free clean
  · have holds := (inv.holding_iff i).mp holding
    have there : (MutexPool.run mutex (callsOf lockOf call s.log) (lockOf i)).poisoned = false := by
      rw [← inv.mutex_eq]
      exact inv.clean _ i holds
    refine inv.finish (fun outcome ended => ?_) ?_ rfl ?_ (fun l j => ?_) (fun l j => ?_)
    · rw [holding] at ended
      cases ended
    · rw [outcomeAfter, MutexPool.hold, Mutex.hold_clean there]
      rfl
    · rw [run_callsOf_append, MutexPool.hold, ← inv.mutex_eq, Mutex.hold, inv.clean _ i holds]
      rfl
    · by_cases lock : l = lockOf i
      · subst lock
        simp only [State.release, Function.update_self, holds]
        simp [eq_comm]
      · simp only [State.release, Function.update_of_ne lock]
        refine ⟨fun held => ⟨held, ?_⟩, fun held => held.1⟩
        rintro rfl
        exact lock (inv.own l j held).symm
    · by_cases lock : l = lockOf i
      · subst lock
        simp [State.release]
      · simp only [State.release, Function.update_of_ne lock]
        exact inv.clean l j
  · exact inv

/-- **Every schedule is one call at a time, in the order in which they ended.** -/
theorem Inv.run (inv : Inv lockOf call mutex s) (schedule : List I) :
    Inv lockOf call mutex (run lockOf call s schedule) := by
  induction schedule generalizing s with
  | nil => exact inv
  | cons i schedule ih =>
    rw [run_cons]
    exact ih (inv.step i)

end Refinement

/-! ## Nobody waits forever -/

/-- The steps a task has left. -/
def Phase.left {α : Type} : Phase α → Nat
  | waiting => 2
  | holding => 1
  | ended _ => 0

section Liveness

variable {I L α : Type} [DecidableEq I] [DecidableEq L] [Fintype I] {lockOf : I → L}
  {call : I → Outcome α} {mutex : L → Mutex} {s : State I L α}

def State.left (s : State I L α) : Nat := ∑ i, (s.phase i).left

omit [DecidableEq I] [DecidableEq L] in
theorem left_initial : (State.initial mutex : State I L α).left = 2 * Fintype.card I := by
  simp [State.left, State.initial, Phase.left, mul_comm]

omit [DecidableEq L] in
/-- A task that comes further leaves the others where they are. -/
theorem left_update {s' : State I L α} {i : I} {phase : Phase α}
    (moved : s'.phase = Function.update s.phase i phase) (further : phase.left < (s.phase i).left) :
    s'.left < s.left := by
  unfold State.left
  refine Finset.sum_lt_sum (fun j _ => ?_) ⟨i, Finset.mem_univ i, ?_⟩
  · by_cases same : j = i
    · subst same
      rw [moved, Function.update_self]
      exact further.le
    · rw [moved, Function.update_of_ne same]
  · rw [moved, Function.update_self]
    exact further

variable (lockOf call) in
/-- A step changes nothing, or leaves fewer steps. -/
theorem left_step (s : State I L α) (i : I) :
    step lockOf call s i = s ∨ (step lockOf call s i).left < s.left := by
  rcases step_cases lockOf call s i with
    ⟨-, -, h⟩ | ⟨phase, -, -, h⟩ | ⟨phase, -, -, h⟩ | ⟨phase, h⟩ | ⟨-, h⟩
  · exact Or.inl h
  · right
    rw [h]
    exact left_update rfl (by simp [phase, Phase.left])
  · right
    rw [h]
    exact left_update rfl (by simp [phase, Phase.left])
  · right
    rw [h]
    exact left_update rfl (by simp [phase, Phase.left])
  · exact Or.inl h

theorem left_run_le (s : State I L α) (schedule : List I) :
    (run lockOf call s schedule).left ≤ s.left := by
  induction schedule generalizing s with
  | nil => exact le_rfl
  | cons i schedule ih =>
    rw [run_cons]
    refine (ih _).trans ?_
    rcases left_step lockOf call s i with same | fewer
    · rw [same]
    · exact fewer.le

variable (lockOf call) in
/-- A schedule gets somewhere unless none of its tasks can take a step. -/
theorem left_run_lt (s : State I L α) (schedule : List I) :
    (run lockOf call s schedule).left < s.left ∨ ∀ i ∈ schedule, step lockOf call s i = s := by
  induction schedule with
  | nil => exact Or.inr fun i none => by cases none
  | cons i schedule ih =>
    rw [run_cons]
    rcases left_step lockOf call s i with same | fewer
    · rw [same]
      refine ih.imp id fun stuck j turn => ?_
      rcases List.mem_cons.mp turn with rfl | later
      · exact same
      · exact stuck j later
    · exact Or.inl ((left_run_le _ schedule).trans_lt fewer)

omit [Fintype I] in
/-- **No deadlock**: where no task can take a step, all have ended. -/
theorem Inv.ended_of_stuck (inv : Inv lockOf call mutex s)
    (stuck : ∀ i, LockPool.step lockOf call s i = s) (i : I) : ∃ outcome, s.phase i = .ended outcome := by
  have notHolding : ∀ j, s.phase j ≠ .holding := by
    intro j holding
    have moved := congrArg (State.phase · j) (stuck j)
    simp [LockPool.step, holding, State.release] at moved
  rcases step_cases lockOf call s i with
    ⟨-, held, -⟩ | ⟨waiting, -, -, h⟩ | ⟨waiting, -, -, h⟩ | ⟨holding, -⟩ | ⟨ended, -⟩
  · obtain ⟨j, holds⟩ := Option.isSome_iff_exists.mp held
    have lock := inv.own _ j holds
    exact absurd ((inv.holding_iff j).mpr (lock.symm ▸ holds)) (notHolding j)
  · have moved := congrArg (State.phase · i) (h.symm.trans (stuck i))
    simp [State.turnAway, waiting] at moved
  · have moved := congrArg (State.phase · i) (h.symm.trans (stuck i))
    simp [State.acquire, waiting] at moved
  · exact absurd holding (notHolding i)
  · exact ended

/-- **Nobody waits forever.**  Rounds that let every task have a turn end all of
them, one round for each step that is left. -/
theorem Inv.ended_of_rounds (inv : Inv lockOf call mutex s) (rounds : List (List I))
    (turns : ∀ round ∈ rounds, ∀ i, i ∈ round) (enough : s.left ≤ rounds.length) (i : I) :
    ∃ outcome, (LockPool.run lockOf call s rounds.flatten).phase i = .ended outcome := by
  induction rounds generalizing s with
  | nil =>
    have none : (s.phase i).left = 0 :=
      (Finset.sum_eq_zero_iff.mp (Nat.le_zero.mp enough)) i (Finset.mem_univ i)
    show ∃ outcome, s.phase i = .ended outcome
    cases phase : s.phase i with
    | waiting => simp [phase, Phase.left] at none
    | holding => simp [phase, Phase.left] at none
    | ended outcome => exact ⟨outcome, rfl⟩
  | cons round rounds ih =>
    rw [List.flatten_cons, run_append]
    rcases left_run_lt lockOf call s round with fewer | stuck
    · refine ih (inv.run round) (fun later mem => turns later (List.mem_cons_of_mem _ mem)) ?_
      rw [List.length_cons] at enough
      omega
    · obtain ⟨outcome, ended⟩ :=
        inv.ended_of_stuck (fun j => stuck j (turns round List.mem_cons_self j)) i
      exact ⟨outcome, ended_run (ended_run ended round) _⟩

end Liveness

end SupraFromScratch.Theory.LockPool
