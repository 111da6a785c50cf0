/-
# Theory.CheckThenAct — workers that look before they write

Any number of workers share one cell.  Each looks whether the cell is empty, and
ends if it is not; prepares a value, which may fail; and writes the value into
the cell.  The three are separate steps, and a schedule is any list of workers,
each entry letting its worker take its next step.

What each of them relies on is that the cell is still empty when it writes.  Over
every schedule:

* `kept_of_exclusive` — if no worker writes while another one is between its look
  and its end, then what is written first stays, and every worker that ends
  later ends because the cell was taken;
* `exclusive_of_kept` — on schedules that let every worker end, only then;
* `exclusive_sequential` — workers that go one after another write alone.
-/
import Mathlib.Logic.Function.Basic
import Mathlib.Data.List.Infix

namespace SupraFromScratch.Theory.CheckThenAct

set_option autoImplicit false

/-- How far a worker has come. -/
inductive Phase (V E : Type) where
  | start
  | checked
  | prepared (v : V)
  | ended (result : Except E V)

/-- Past its look, and not at its end. -/
def Phase.isPending {V E : Type} : Phase V E → Bool
  | checked => true
  | prepared _ => true
  | _ => false

structure State (I V E : Type) where
  cell : Option V
  phase : I → Phase V E

namespace State

variable {I V E : Type}

/-- No worker has taken a step. -/
def initial (cell : Option V) : State I V E where
  cell := cell
  phase _ := .start

variable [DecidableEq I]

def move (s : State I V E) (i : I) (phase : Phase V E) : State I V E where
  cell := s.cell
  phase := Function.update s.phase i phase

def write (s : State I V E) (i : I) (v : V) : State I V E where
  cell := some v
  phase := Function.update s.phase i (.ended (.ok v))

@[simp] theorem cell_move (s : State I V E) (i : I) (phase : Phase V E) :
    (s.move i phase).cell = s.cell := rfl

@[simp] theorem phase_move_same (s : State I V E) (i : I) (phase : Phase V E) :
    (s.move i phase).phase i = phase := by
  simp [move]

theorem phase_move_of_ne (s : State I V E) {i j : I} (other : j ≠ i) (phase : Phase V E) :
    (s.move i phase).phase j = s.phase j := by
  simp [move, other]

@[simp] theorem cell_write (s : State I V E) (i : I) (v : V) : (s.write i v).cell = some v := rfl

@[simp] theorem phase_write_same (s : State I V E) (i : I) (v : V) :
    (s.write i v).phase i = .ended (.ok v) := by
  simp [write]

theorem phase_write_of_ne (s : State I V E) {i j : I} (other : j ≠ i) (v : V) :
    (s.write i v).phase j = s.phase j := by
  simp [write, other]

end State

section Workers

variable {I V E : Type} [DecidableEq I] (prepare : I → Except E V) (taken : E)

/-- The next step of a worker. -/
def step (s : State I V E) (i : I) : State I V E :=
  match s.phase i with
  | .start =>
    match s.cell with
    | some _ => s.move i (.ended (.error taken))
    | none => s.move i .checked
  | .checked =>
    match prepare i with
    | .ok v => s.move i (.prepared v)
    | .error e => s.move i (.ended (.error e))
  | .prepared v => s.write i v
  | .ended _ => s

def run (s : State I V E) (schedule : List I) : State I V E :=
  schedule.foldl (step prepare taken) s

/-- What was written first stays in the cell, and whoever ends later ends because
the cell was taken, in every state the schedule reaches. -/
def Kept (s : State I V E) (schedule : List I) : Prop :=
  ∀ before later, before ++ later <+: schedule →
    ∀ i v, (run prepare taken s before).phase i = .ended (.ok v) →
      (run prepare taken s (before ++ later)).cell = some v ∧
      ∀ j result, (∀ r, (run prepare taken s before).phase j ≠ .ended r) →
        (run prepare taken s (before ++ later)).phase j = .ended result → result = .error taken

/-- No worker writes while another one is between its look and its end. -/
def Exclusive (s : State I V E) (schedule : List I) : Prop :=
  ∀ before i rest, schedule = before ++ i :: rest →
    ∀ v, (run prepare taken s before).phase i = .prepared v →
      ∀ j, j ≠ i → ((run prepare taken s before).phase j).isPending = false

/-- The schedule lets every worker end. -/
def Complete (s : State I V E) (schedule : List I) : Prop :=
  ∀ i, ∃ result, (run prepare taken s schedule).phase i = .ended result

end Workers

/-! ## What a step can do -/

section Steps

variable {I V E : Type} [DecidableEq I] {prepare : I → Except E V} {taken : E}

theorem run_cons (s : State I V E) (i : I) (schedule : List I) :
    run prepare taken s (i :: schedule) = run prepare taken (step prepare taken s i) schedule := rfl

theorem run_append (s : State I V E) (before later : List I) :
    run prepare taken s (before ++ later) =
      run prepare taken (run prepare taken s before) later :=
  List.foldl_append

theorem step_start {s : State I V E} {i : I} (start : s.phase i = .start) :
    step prepare taken s i = s.move i
      (match s.cell with | some _ => .ended (.error taken) | none => .checked) := by
  unfold step
  rw [start]
  cases s.cell <;> rfl

theorem step_checked {s : State I V E} {i : I} (checked : s.phase i = .checked) :
    step prepare taken s i = s.move i
      (match prepare i with | .ok v => .prepared v | .error e => .ended (.error e)) := by
  unfold step
  rw [checked]
  cases prepare i <;> rfl

theorem step_prepared {s : State I V E} {i : I} {v : V} (prepared : s.phase i = .prepared v) :
    step prepare taken s i = s.write i v := by
  unfold step
  rw [prepared]

theorem step_ended {s : State I V E} {i : I} {result : Except E V}
    (ended : s.phase i = .ended result) : step prepare taken s i = s := by
  unfold step
  rw [ended]

variable (prepare taken) in
/-- The five things a worker's step can be. -/
theorem step_cases (s : State I V E) (i : I) :
    (s.phase i = .start ∧ s.cell.isSome = true ∧
      step prepare taken s i = s.move i (.ended (.error taken))) ∨
    (s.phase i = .start ∧ s.cell = none ∧ step prepare taken s i = s.move i .checked) ∨
    (s.phase i = .checked ∧ ∃ p, step prepare taken s i = s.move i p ∧
      ((∃ v, p = .prepared v) ∨ ∃ e, prepare i = .error e ∧ p = .ended (.error e))) ∨
    (∃ v, s.phase i = .prepared v ∧ step prepare taken s i = s.write i v) ∨
    ((∃ r, s.phase i = .ended r) ∧ step prepare taken s i = s) := by
  cases phase : s.phase i with
  | start =>
    rw [step_start phase]
    cases cell : s.cell with
    | some v => exact Or.inl ⟨rfl, rfl, rfl⟩
    | none => exact Or.inr (Or.inl ⟨rfl, rfl, rfl⟩)
  | checked =>
    refine Or.inr (Or.inr (Or.inl ⟨rfl, ?_⟩))
    rw [step_checked phase]
    cases prepared : prepare i with
    | ok v => exact ⟨_, rfl, Or.inl ⟨v, rfl⟩⟩
    | error e => exact ⟨_, rfl, Or.inr ⟨e, rfl, rfl⟩⟩
  | prepared v => exact Or.inr (Or.inr (Or.inr (Or.inl ⟨v, rfl, step_prepared phase⟩)))
  | ended r => exact Or.inr (Or.inr (Or.inr (Or.inr ⟨⟨r, rfl⟩, step_ended phase⟩)))

/-- A step is its worker's own. -/
theorem phase_step_of_ne (s : State I V E) {i j : I} (other : j ≠ i) :
    (step prepare taken s i).phase j = s.phase j := by
  rcases step_cases prepare taken s i with ⟨-, -, h⟩ | ⟨-, -, h⟩ | ⟨-, p, h, -⟩ | ⟨v, -, h⟩ | ⟨-, h⟩
  · rw [h, s.phase_move_of_ne other]
  · rw [h, s.phase_move_of_ne other]
  · rw [h, s.phase_move_of_ne other]
  · rw [h, s.phase_write_of_ne other]
  · rw [h]

/-- An end is final. -/
theorem ended_run {s : State I V E} {i : I} {result : Except E V}
    (ended : s.phase i = .ended result) (schedule : List I) :
    (run prepare taken s schedule).phase i = .ended result := by
  induction schedule generalizing s with
  | nil => exact ended
  | cons j schedule ih =>
    rw [run_cons]
    apply ih
    by_cases same : i = j
    · subst same
      rw [step_ended ended]
      exact ended
    · rw [phase_step_of_ne s same]
      exact ended

/-! ## Once the cell is taken and nobody is on the way to it -/

/-- The cell holds `v`, and no worker is between its look and its end. -/
structure Closed (s : State I V E) (v : V) : Prop where
  cell : s.cell = some v
  quiet : ∀ j, (s.phase j).isPending = false

variable (prepare taken) in
/-- A closed cell stays closed, and a worker that has not started can only find
it taken. -/
theorem Closed.step {s : State I V E} {v : V} (closed : Closed s v) (i : I) :
    Closed (step prepare taken s i) v ∧
      ∀ j, s.phase j = .start → (step prepare taken s i).phase j = .start ∨
        (step prepare taken s i).phase j = .ended (.error taken) := by
  rcases step_cases prepare taken s i with
    ⟨start, -, h⟩ | ⟨-, empty, -⟩ | ⟨checked, -⟩ | ⟨w, prepared, -⟩ | ⟨-, h⟩
  · rw [h]
    refine ⟨⟨closed.cell, fun j => ?_⟩, fun j hj => ?_⟩
    · by_cases same : j = i
      · subst same
        simp [Phase.isPending]
      · rw [s.phase_move_of_ne same]
        exact closed.quiet j
    · by_cases same : j = i
      · subst same
        exact Or.inr (s.phase_move_same _ _)
      · rw [s.phase_move_of_ne same]
        exact Or.inl hj
  · have cell := closed.cell
    rw [empty] at cell
    cases cell
  · have quiet := closed.quiet i
    rw [checked] at quiet
    cases quiet
  · have quiet := closed.quiet i
    rw [prepared] at quiet
    cases quiet
  · rw [h]
    exact ⟨closed, fun j hj => Or.inl hj⟩

variable (prepare taken) in
theorem Closed.run {s : State I V E} {v : V} (closed : Closed s v) (schedule : List I) :
    Closed (run prepare taken s schedule) v ∧
      ∀ j, s.phase j = .start → (CheckThenAct.run prepare taken s schedule).phase j = .start ∨
        (CheckThenAct.run prepare taken s schedule).phase j = .ended (.error taken) := by
  induction schedule generalizing s with
  | nil => exact ⟨closed, fun j hj => Or.inl hj⟩
  | cons i schedule ih =>
    obtain ⟨next, started⟩ := closed.step prepare taken i
    obtain ⟨last, later⟩ := ih next
    refine ⟨last, fun j hj => ?_⟩
    rcases started j hj with still | ended
    · exact later j still
    · exact Or.inr (ended_run ended schedule)

/-! ## While writes are exclusive -/

/-- Whatever was written closed the cell. -/
def Settled (s : State I V E) : Prop :=
  ∀ i v, s.phase i = .ended (.ok v) → Closed s v

omit [DecidableEq I] in
theorem settled_initial (cell : Option V) : Settled (State.initial cell : State I V E) := by
  intro i v written
  cases written

theorem Settled.step {s : State I V E} (settled : Settled s) {i : I}
    (alone : ∀ v, s.phase i = .prepared v → ∀ j, j ≠ i → (s.phase j).isPending = false) :
    Settled (step prepare taken s i) := by
  intro j v written
  by_cases same : j = i
  · subst same
    rcases step_cases prepare taken s j with
      ⟨-, -, h⟩ | ⟨-, -, h⟩ | ⟨-, p, h, prepared | ⟨e, -, failed⟩⟩ | ⟨w, prepared, h⟩ | ⟨-, h⟩
    · simp [h] at written
    · simp [h] at written
    · obtain ⟨w, rfl⟩ := prepared
      simp [h] at written
    · subst failed
      simp [h] at written
    · rw [h, s.phase_write_same] at written
      cases written
      rw [h]
      refine ⟨rfl, fun k => ?_⟩
      by_cases own : k = j
      · subst own
        simp [Phase.isPending]
      · rw [s.phase_write_of_ne own]
        exact alone v prepared k own
    · rw [h] at written ⊢
      exact settled j v written
  · rw [phase_step_of_ne s same] at written
    exact ((settled j v written).step prepare taken i).1

theorem Exclusive.head {s : State I V E} {i : I} {schedule : List I}
    (exclusive : Exclusive prepare taken s (i :: schedule)) :
    ∀ v, s.phase i = .prepared v → ∀ j, j ≠ i → (s.phase j).isPending = false :=
  exclusive [] i schedule rfl

theorem Exclusive.tail {s : State I V E} {i : I} {schedule : List I}
    (exclusive : Exclusive prepare taken s (i :: schedule)) :
    Exclusive prepare taken (CheckThenAct.step prepare taken s i) schedule := by
  rintro before j rest rfl
  exact exclusive (i :: before) j rest rfl

/-- Along an exclusive schedule every state reached is settled. -/
theorem Settled.run {s : State I V E} (settled : Settled s) {schedule : List I}
    (exclusive : Exclusive prepare taken s schedule) {before : List I}
    (reached : before <+: schedule) : Settled (run prepare taken s before) := by
  induction schedule generalizing s before with
  | nil =>
    rw [List.prefix_nil.mp reached]
    exact settled
  | cons i schedule ih =>
    cases before with
    | nil => exact settled
    | cons j before =>
      obtain ⟨rfl, rest⟩ := List.cons_prefix_cons.mp reached
      exact ih (settled.step exclusive.head) exclusive.tail rest

/-- **While writes are exclusive, what was written first stays.** -/
theorem kept_of_exclusive {s : State I V E} (settled : Settled s) {schedule : List I}
    (exclusive : Exclusive prepare taken s schedule) : Kept prepare taken s schedule := by
  intro before later reached i v written
  have closed := settled.run exclusive ((List.prefix_append before later).trans reached) i v written
  obtain ⟨after, started⟩ := closed.run prepare taken later
  rw [run_append]
  refine ⟨after.cell, fun j result running ended => ?_⟩
  have start : (run prepare taken s before).phase j = .start := by
    have quiet := closed.quiet j
    cases phase : (run prepare taken s before).phase j with
    | start => rfl
    | checked =>
      rw [phase] at quiet
      cases quiet
    | prepared w =>
      rw [phase] at quiet
      cases quiet
    | ended r => exact absurd phase (running r)
  rcases started j start with still | failed
  · rw [still] at ended
    cases ended
  · rw [failed] at ended
    cases ended
    rfl

/-! ## What happens to a worker on its way to the cell -/

/-- Past its look: on the way, or ended by its own preparation. -/
def Past (prepare : I → Except E V) (i : I) : Phase V E → Prop
  | .start => False
  | .checked => True
  | .prepared _ => True
  | .ended (.ok _) => True
  | .ended (.error e) => prepare i = .error e

variable (taken) in
theorem Past.step {s : State I V E} {j : I} (past : Past prepare j (s.phase j)) (i : I) :
    Past prepare j ((step prepare taken s i).phase j) := by
  by_cases same : j = i
  · subst same
    rcases step_cases prepare taken s j with
      ⟨start, -⟩ | ⟨start, -⟩ | ⟨-, p, h, prepared | ⟨e, failed, rfl⟩⟩ | ⟨w, -, h⟩ | ⟨-, h⟩
    · rw [start] at past
      exact past.elim
    · rw [start] at past
      exact past.elim
    · obtain ⟨w, rfl⟩ := prepared
      rw [h, s.phase_move_same]
      trivial
    · rw [h, s.phase_move_same]
      exact failed
    · rw [h, s.phase_write_same]
      trivial
    · rw [h]
      exact past
  · rw [phase_step_of_ne s same]
    exact past

variable (taken) in
theorem Past.run {s : State I V E} {j : I} (past : Past prepare j (s.phase j))
    (schedule : List I) : Past prepare j ((run prepare taken s schedule).phase j) := by
  induction schedule generalizing s with
  | nil => exact past
  | cons i schedule ih => exact ih (past.step taken i)

/-- **Only then**, where every worker ends and no preparation fails the way a
taken cell does: a worker overtaken on its way to the cell ends otherwise. -/
theorem exclusive_of_kept {s : State I V E} {schedule : List I}
    (complete : Complete prepare taken s schedule) (own : ∀ i, prepare i ≠ .error taken)
    (kept : Kept prepare taken s schedule) : Exclusive prepare taken s schedule := by
  rintro before i rest rfl v prepared j other
  by_contra pending
  set here := run prepare taken s before with hhere
  have wrote : run prepare taken s (before ++ [i]) = here.write i v := by
    rw [run_append, ← hhere]
    exact step_prepared prepared
  have past : Past prepare j (here.phase j) ∧ ∀ r, here.phase j ≠ .ended r := by
    cases phase : here.phase j with
    | checked => exact ⟨trivial, fun r h => by cases h⟩
    | prepared w => exact ⟨trivial, fun r h => by cases h⟩
    | start =>
      rw [phase] at pending
      exact absurd rfl pending
    | ended r =>
      rw [phase] at pending
      exact absurd rfl pending
  obtain ⟨result, ended⟩ := complete j
  have split : before ++ i :: rest = before ++ [i] ++ rest := by simp
  have overtaken : result = .error taken := by
    refine (kept (before ++ [i]) rest (by rw [split]) i v ?_).2 j result ?_ ?_
    · rw [wrote, here.phase_write_same]
    · rw [wrote, here.phase_write_of_ne other]
      exact past.2
    · rw [← split]
      exact ended
  have last := past.1.run taken (i :: rest)
  rw [hhere, ← run_append, ended, overtaken] at last
  exact own j last

/-! ## One worker alone -/

variable (prepare taken) in
/-- A worker whose three steps follow one another. -/
theorem run_alone {s : State I V E} {i : I} (start : s.phase i = .start) :
    ∃ result, (run prepare taken s [i, i, i]).phase i = .ended result ∧
      (run prepare taken s [i, i, i]).cell =
        (match result with | .ok v => some v | .error _ => s.cell) ∧
      result = if s.cell.isSome then .error taken else prepare i := by
  rw [run_cons, step_start start]
  cases cell : s.cell with
  | some w =>
    set s' := s.move i (.ended (.error taken)) with hs'
    have ended : s'.phase i = .ended (.error taken) := s.phase_move_same i _
    have stay : run prepare taken s' [i, i] = s' := by
      rw [run_cons, step_ended ended, run_cons, step_ended ended]
      rfl
    exact ⟨.error taken, (congrArg (State.phase · i) stay).trans ended,
      (congrArg State.cell stay).trans cell, rfl⟩
  | none =>
    set s' := s.move i .checked with hs'
    have checked : s'.phase i = .checked := s.phase_move_same i _
    show ∃ result, (run prepare taken s' [i, i]).phase i = _ ∧ _
    rw [run_cons, step_checked checked]
    cases prepared : prepare i with
    | ok v =>
      set s'' := s'.move i (.prepared v) with hs''
      have last : run prepare taken s'' [i] = s''.write i v :=
        step_prepared (s'.phase_move_same i _)
      exact ⟨.ok v, (congrArg (State.phase · i) last).trans (s''.phase_write_same i v),
        congrArg State.cell last, rfl⟩
    | error e =>
      set s'' := s'.move i (.ended (.error e)) with hs''
      have ended : s''.phase i = .ended (.error e) := s'.phase_move_same i _
      have last : run prepare taken s'' [i] = s'' := step_ended ended
      exact ⟨.error e, (congrArg (State.phase · i) last).trans ended,
        (congrArg State.cell last).trans cell, rfl⟩

/-! ## One worker after another -/

theorem Exclusive.cons {s : State I V E} {i : I} {schedule : List I}
    (alone : ∀ v, s.phase i = .prepared v → ∀ j, j ≠ i → (s.phase j).isPending = false)
    (exclusive : Exclusive prepare taken (CheckThenAct.step prepare taken s i) schedule) :
    Exclusive prepare taken s (i :: schedule) := by
  intro before j rest split
  cases before with
  | nil =>
    cases split
    exact alone
  | cons k before =>
    cases split
    exact exclusive before j rest rfl

/-- Where only `i` may be on its way, `i` may take any step. -/
theorem Exclusive.own {s : State I V E} {i : I}
    (others : ∀ j, j ≠ i → (s.phase j).isPending = false) {schedule : List I}
    (exclusive : (∀ j, j ≠ i → ((CheckThenAct.step prepare taken s i).phase j).isPending = false) →
      Exclusive prepare taken (CheckThenAct.step prepare taken s i) schedule) :
    Exclusive prepare taken s (i :: schedule) := by
  apply Exclusive.cons
  · exact fun _ _ => others
  · apply exclusive
    intro j other
    rw [phase_step_of_ne s other]
    exact others j other

variable (prepare taken) in
/-- Workers that take their steps one after another write alone. -/
theorem exclusive_sequential {s : State I V E} (quiet : ∀ j, (s.phase j).isPending = false)
    (order : List I) : Exclusive prepare taken s (order.flatMap fun i => [i, i, i]) := by
  induction order generalizing s with
  | nil =>
    intro before i rest split
    cases before <;> cases split
  | cons i order ih =>
    have others : ∀ j, j ≠ i → (s.phase j).isPending = false := fun j _ => quiet j
    refine Exclusive.own others fun others => Exclusive.own others fun others =>
      Exclusive.own others fun others => ih fun j => ?_
    by_cases same : j = i
    · subst same
      have ended : ∃ result, (run prepare taken s [j, j, j]).phase j = .ended result := by
        have now := quiet j
        cases phase : s.phase j with
        | start =>
          obtain ⟨result, ended, -⟩ := run_alone prepare taken phase
          exact ⟨result, ended⟩
        | ended result => exact ⟨result, ended_run phase _⟩
        | checked =>
          rw [phase] at now
          cases now
        | prepared v =>
          rw [phase] at now
          cases now
      obtain ⟨result, ended⟩ := ended
      show (((run prepare taken s [j, j, j]).phase j)).isPending = false
      rw [ended]
      rfl
    · exact others j same

end Steps

end SupraFromScratch.Theory.CheckThenAct
