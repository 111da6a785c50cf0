/-
# Theory.Interact — programs that ask their surroundings

A program returns, raises, or asks a question and goes on with the answer.  What
may be asked, and what an answer is, are parameters.  A run is the trace of what
was asked and answered, with the result; nothing is assumed of the answers, so a
statement about every run (`Runs`) holds whatever the surroundings do, even if
they answer one question differently each time.

* `runs_ask`, `runs_ofExcept`, `runs_bind` — a question, code that asks none, and a
  sequence, which runs as its parts do, one after another.
* `runs_tryFinally` — a part that is run however the one before it ends.
* `runs_forUntil` — a loop with a `break` is the rounds it came through and the
  one it ended in.
* `Asks` — that a program asks nothing but some questions, with a rule for each of
  these forms.
* `Always` — that every trace of it has a property which sequences of traces keep.
* `AtMost` — how many of some questions it may ask.
* `eval` — the result against surroundings that always answer a question alike;
  `eval_bind` evaluates a sequence, and `runs_eval` gives the run it is the result
  of.
-/
import SupraFromScratch.Theory.Python

namespace SupraFromScratch.Theory

set_option autoImplicit false

inductive Prog (Q : Type) (A : Q → Type) (E α : Type) where
  | done (a : α)
  | raise (e : E)
  | ask (q : Q) (next : A q → Prog Q A E α)

structure Event (Q : Type) (A : Q → Type) where
  question : Q
  answer : A question

abbrev Trace (Q : Type) (A : Q → Type) := List (Event Q A)

namespace Prog

variable {Q : Type} {A : Q → Type} {E α β : Type}

protected def bind : Prog Q A E α → (α → Prog Q A E β) → Prog Q A E β
  | done a, f => f a
  | raise e, _ => raise e
  | ask q next, f => ask q fun a => (next a).bind f

instance : Monad (Prog Q A E) where
  pure := done
  bind := Prog.bind

/-- Code that may raise, and asks nothing. -/
def ofExcept : Except E α → Prog Q A E α
  | .ok a => done a
  | .error e => raise e

/-- `for x in xs`, where a turn that answers `true` breaks; whether one did. -/
def forUntil (body : β → Prog Q A E Bool) : List β → Prog Q A E Bool
  | [] => done false
  | x :: xs => (body x).bind fun stop => if stop then done true else forUntil body xs

/-- `try: p finally: last`. -/
def tryFinally : Prog Q A E α → Prog Q A E Unit → Prog Q A E α
  | done a, last => last.bind fun _ => done a
  | raise e, last => last.bind fun _ => raise e
  | ask q next, last => ask q fun a => (next a).tryFinally last

/-- The runs of a program: what it asks and is answered, and how it ends. -/
inductive Runs : Prog Q A E α → Trace Q A → Except E α → Prop
  | done (a : α) : Runs (done a) [] (.ok a)
  | raise (e : E) : Runs (raise e) [] (.error e)
  | ask (q : Q) {next : A q → Prog Q A E α} (a : A q) {t : Trace Q A} {r : Except E α}
      (rest : Runs (next a) t r) : Runs (ask q next) (⟨q, a⟩ :: t) r

/-! ## Sequences -/

section Sequences

variable {t : Trace Q A} {p : Prog Q A E α} {f : α → Prog Q A E β} {r : Except E β}

@[simp] theorem runs_pure {a : α} {r : Except E α} :
    Runs (pure a : Prog Q A E α) t r ↔ t = [] ∧ r = .ok a := by
  constructor
  · intro run
    cases run
    exact ⟨rfl, rfl⟩
  · rintro ⟨rfl, rfl⟩
    exact .done a

@[simp] theorem runs_raise {e : E} {r : Except E α} :
    Runs (raise e : Prog Q A E α) t r ↔ t = [] ∧ r = .error e := by
  constructor
  · intro run
    cases run
    exact ⟨rfl, rfl⟩
  · rintro ⟨rfl, rfl⟩
    exact .raise e

@[simp] theorem runs_ofExcept {x r : Except E α} :
    Runs (ofExcept x : Prog Q A E α) t r ↔ t = [] ∧ r = x := by
  cases x with
  | ok a => exact runs_pure
  | error e => exact runs_raise

theorem Runs.bind_ok {t₁ t₂ : Trace Q A} {a : α} (first : Runs p t₁ (.ok a))
    (second : Runs (f a) t₂ r) : Runs (p >>= f) (t₁ ++ t₂) r := by
  induction p generalizing t₁ with
  | done b =>
    cases first
    exact second
  | raise e => cases first
  | ask q next ih =>
    cases first with
    | ask q b rest => exact .ask q b (ih b rest)

theorem Runs.bind_error {e : E} (first : Runs p t (.error e)) : Runs (p >>= f) t (.error e) := by
  induction p generalizing t with
  | done b => cases first
  | raise e =>
    cases first
    exact .raise e
  | ask q next ih =>
    cases first with
    | ask q b rest => exact .ask q b (ih b rest)

/-- **A sequence**: the first part returns and the second goes on, or the first
part raises. -/
theorem runs_bind : Runs (p >>= f) t r ↔
    (∃ t₁ a t₂, t = t₁ ++ t₂ ∧ Runs p t₁ (.ok a) ∧ Runs (f a) t₂ r) ∨
      ∃ e, r = .error e ∧ Runs p t (.error e) := by
  constructor
  · intro run
    induction p generalizing t with
    | done a => exact Or.inl ⟨[], a, t, rfl, .done a, run⟩
    | raise e =>
      cases run
      exact Or.inr ⟨e, rfl, .raise e⟩
    | ask q next ih =>
      cases run with
      | ask q b rest =>
        rcases ih b rest with ⟨t₁, a, t₂, rfl, first, second⟩ | ⟨e, rfl, first⟩
        · exact Or.inl ⟨_ :: t₁, a, t₂, rfl, .ask q b first, second⟩
        · exact Or.inr ⟨e, rfl, .ask q b first⟩
  · rintro (⟨t₁, a, t₂, rfl, first, second⟩ | ⟨e, rfl, first⟩)
    · exact first.bind_ok second
    · exact first.bind_error

/-- A sequence that returns is two parts that return. -/
theorem runs_bind_ok {b : β} : Runs (p >>= f) t (.ok b) ↔
    ∃ t₁ a t₂, t = t₁ ++ t₂ ∧ Runs p t₁ (.ok a) ∧ Runs (f a) t₂ (.ok b) := by
  rw [runs_bind]
  constructor
  · rintro (split | ⟨e, raised, -⟩)
    · exact split
    · cases raised
  · intro split
    exact Or.inl split

theorem runs_ask {q : Q} {next : A q → Prog Q A E β} :
    Runs (ask q next) t r ↔ ∃ a t', t = ⟨q, a⟩ :: t' ∧ Runs (next a) t' r := by
  constructor
  · intro run
    cases run with
    | ask q a rest => exact ⟨a, _, rfl, rest⟩
  · rintro ⟨a, t', rfl, rest⟩
    exact .ask q a rest

/-- Code that asks nothing, at the end of a sequence. -/
theorem runs_bind_ofExcept {g : α → Except E β} :
    Runs (p >>= fun a => ofExcept (g a)) t r ↔ ∃ r', Runs p t r' ∧ r = r' >>= g := by
  rw [runs_bind]
  constructor
  · rintro (⟨t₁, a, t₂, rfl, first, second⟩ | ⟨e, rfl, first⟩)
    · obtain ⟨rfl, rfl⟩ := runs_ofExcept.mp second
      exact ⟨.ok a, by simpa using first, rfl⟩
    · exact ⟨.error e, first, rfl⟩
  · rintro ⟨r', first, rfl⟩
    cases r' with
    | error e => exact Or.inr ⟨e, rfl, first⟩
    | ok a => exact Or.inl ⟨t, a, [], by simp, first, runs_ofExcept.mpr ⟨rfl, rfl⟩⟩

/-- A function of what a program returns. -/
theorem runs_bind_pure {g : α → β} :
    Runs (p >>= fun a => pure (g a)) t r ↔ ∃ r', Runs p t r' ∧ r = r'.map g := by
  refine (runs_bind_ofExcept (g := fun a => .ok (g a))).trans (exists_congr fun r' => ?_)
  cases r' <;> rfl

theorem runs_ofExcept_bind {x : Except E α} :
    Runs (ofExcept x >>= f) t r ↔
      (∃ a, x = .ok a ∧ Runs (f a) t r) ∨ ∃ e, x = .error e ∧ t = [] ∧ r = .error e := by
  cases x with
  | ok a =>
    change Runs (f a) t r ↔ _
    simp
  | error e =>
    change Runs (raise e) t r ↔ _
    simp

/-- **Cleaning up**: the last part runs however the first one ends, and only an
exception of its own changes how it ends. -/
theorem runs_tryFinally {p : Prog Q A E α} {last : Prog Q A E Unit} {t : Trace Q A} {r : Except E α} :
    Runs (p.tryFinally last) t r ↔
      ∃ t₁ r₁ t₂ r₂, t = t₁ ++ t₂ ∧ Runs p t₁ r₁ ∧ Runs last t₂ r₂ ∧ r = r₂ >>= fun _ => r₁ := by
  constructor
  · intro run
    induction p generalizing t with
    | done a =>
      change Runs (last >>= fun _ => done a) t r at run
      rcases runs_bind.mp run with ⟨t₁, u, t₂, rfl, cleaned, ended⟩ | ⟨e, rfl, cleaned⟩
      · cases ended
        exact ⟨[], .ok a, t₁, .ok u, by simp, .done a, cleaned, rfl⟩
      · exact ⟨[], .ok a, t, .error e, rfl, .done a, cleaned, rfl⟩
    | raise e =>
      change Runs (last >>= fun _ => raise e) t r at run
      rcases runs_bind.mp run with ⟨t₁, u, t₂, rfl, cleaned, ended⟩ | ⟨e', rfl, cleaned⟩
      · cases ended
        exact ⟨[], .error e, t₁, .ok u, by simp, .raise e, cleaned, rfl⟩
      · exact ⟨[], .error e, t, .error e', rfl, .raise e, cleaned, rfl⟩
    | ask q next ih =>
      cases run with
      | ask q a rest =>
        obtain ⟨t₁, r₁, t₂, r₂, rfl, first, cleaned, rfl⟩ := ih a rest
        exact ⟨_ :: t₁, r₁, t₂, r₂, rfl, .ask q a first, cleaned, rfl⟩
  · rintro ⟨t₁, r₁, t₂, r₂, rfl, first, cleaned, rfl⟩
    induction first with
    | done a =>
      show Runs (last >>= fun _ => done a) t₂ _
      cases r₂ with
      | ok u => exact List.append_nil t₂ ▸ cleaned.bind_ok (.done a)
      | error e => exact cleaned.bind_error
    | raise e =>
      show Runs (last >>= fun _ => raise e) t₂ _
      cases r₂ with
      | ok u => exact List.append_nil t₂ ▸ cleaned.bind_ok (.raise e)
      | error e' => exact cleaned.bind_error
    | ask q a rest ih => exact .ask q a ih

end Sequences

/-! ## Loops -/

/-- **A loop** came through some rounds, and ended after the last element, or in
the round of the next one. -/
theorem runs_forUntil {body : β → Prog Q A E Bool} {xs : List β} {t : Trace Q A}
    {r : Except E Bool} :
    Runs (forUntil body xs) t r ↔
      ∃ (rounds : List (β × Trace Q A)) (rest : List β) (last : Trace Q A),
        xs = rounds.map Prod.fst ++ rest ∧ t = (rounds.map Prod.snd).flatten ++ last ∧
          (∀ p ∈ rounds, Runs (body p.1) p.2 (.ok false)) ∧
            match rest with
            | [] => last = [] ∧ r = .ok false
            | x :: _ => r ≠ .ok false ∧ Runs (body x) last r := by
  induction xs generalizing t with
  | nil =>
    constructor
    · intro run
      cases run
      exact ⟨[], [], [], rfl, rfl, by simp, rfl, rfl⟩
    · rintro ⟨rounds, rest, last, split, rfl, -, finish⟩
      obtain ⟨none, rfl⟩ := List.append_eq_nil_iff.mp split.symm
      obtain ⟨rfl, rfl⟩ := finish
      rw [List.map_eq_nil_iff.mp none]
      exact .done false
  | cons x xs ih =>
    have unfold : forUntil body (x :: xs) =
        body x >>= fun stop => if stop then done true else forUntil body xs := rfl
    rw [unfold, runs_bind]
    constructor
    · rintro (⟨t₁, stop, t₂, rfl, turn, later⟩ | ⟨e, rfl, turn⟩)
      · cases stop with
        | true =>
          cases later
          refine ⟨[], x :: xs, t₁, rfl, by simp, by simp, by simp, turn⟩
        | false =>
          obtain ⟨rounds, rest, last, rfl, rfl, through, finish⟩ := ih.mp later
          refine ⟨(x, t₁) :: rounds, rest, last, rfl, by simp, ?_, finish⟩
          intro p mem
          rcases List.mem_cons.mp mem with rfl | mem
          · exact turn
          · exact through p mem
      · exact ⟨[], x :: xs, t, rfl, rfl, by simp, by simp, turn⟩
    · rintro ⟨rounds, rest, last, split, rfl, through, finish⟩
      cases rounds with
      | nil =>
        rw [List.map_nil, List.nil_append] at split
        subst split
        obtain ⟨ended, turn⟩ := finish
        cases r with
        | error e => exact Or.inr ⟨e, rfl, turn⟩
        | ok stop =>
          cases stop with
          | false => exact absurd rfl ended
          | true => exact Or.inl ⟨last, true, [], by simp, turn, .done true⟩
      | cons p rounds =>
        obtain ⟨rfl, tail⟩ := List.cons.inj split
        refine Or.inl ⟨p.2, false, _, ?_, through p List.mem_cons_self, ih.mpr
          ⟨rounds, rest, last, tail, rfl,
            fun p mem => through p (List.mem_cons_of_mem _ mem), finish⟩⟩
        simp

/-! ## What a program may ask -/

section Asks

/-- Nothing but these questions is asked, whatever the answers. -/
def Asks (allowed : Q → Prop) (p : Prog Q A E α) : Prop :=
  ∀ t r, Runs p t r → ∀ event ∈ t, allowed event.question

variable {allowed : Q → Prop}

theorem asks_pure (a : α) : Asks allowed (pure a : Prog Q A E α) := by
  intro t r run event mem
  rw [(runs_pure.mp run).1] at mem
  cases mem

theorem asks_ofExcept (x : Except E α) : Asks allowed (ofExcept x : Prog Q A E α) := by
  intro t r run event mem
  rw [(runs_ofExcept.mp run).1] at mem
  cases mem

theorem asks_ask (allowed : Q → Prop) {q : Q} (ok : allowed q) {next : A q → Prog Q A E α}
    (rest : ∀ a, Asks allowed (next a)) : Asks allowed (ask q next) := by
  intro t r run event mem
  obtain ⟨a, t', rfl, run'⟩ := runs_ask.mp run
  rcases List.mem_cons.mp mem with rfl | mem
  · exact ok
  · exact rest a t' r run' event mem

theorem Asks.bind {p : Prog Q A E α} {f : α → Prog Q A E β} (first : Asks allowed p)
    (second : ∀ a, Asks allowed (f a)) : Asks allowed (p >>= f) := by
  intro t r run event mem
  rcases runs_bind.mp run with ⟨t₁, a, t₂, rfl, run₁, run₂⟩ | ⟨e, rfl, run₁⟩
  · rcases List.mem_append.mp mem with mem | mem
    · exact first t₁ _ run₁ event mem
    · exact second a t₂ r run₂ event mem
  · exact first t _ run₁ event mem

theorem Asks.tryFinally {p : Prog Q A E α} {last : Prog Q A E Unit} (first : Asks allowed p)
    (cleanup : Asks allowed last) : Asks allowed (p.tryFinally last) := by
  intro t r run event mem
  obtain ⟨t₁, r₁, t₂, r₂, rfl, run₁, run₂, -⟩ := runs_tryFinally.mp run
  rcases List.mem_append.mp mem with mem | mem
  · exact first t₁ r₁ run₁ event mem
  · exact cleanup t₂ r₂ run₂ event mem

theorem Asks.forUntil {body : β → Prog Q A E Bool} (turn : ∀ x, Asks allowed (body x))
    (xs : List β) : Asks allowed (forUntil body xs) := by
  induction xs with
  | nil => exact asks_pure false
  | cons x xs ih =>
    refine (turn x).bind fun stop => ?_
    cases stop with
    | true => exact asks_pure true
    | false => exact ih

end Asks

/-! ## What holds of every trace -/

section Always

/-- Every run's trace has a property. -/
def Always (holds : Trace Q A → Prop) (p : Prog Q A E α) : Prop := ∀ t r, Runs p t r → holds t

variable {holds : Trace Q A → Prop}

/-- A property that sequences of traces keep is kept by sequences of programs. -/
theorem Always.bind (append : ∀ t t', holds t → holds t' → holds (t ++ t')) {p : Prog Q A E α}
    {f : α → Prog Q A E β} (first : Always holds p) (second : ∀ a, Always holds (f a)) :
    Always holds (p >>= f) := by
  intro t r run
  rcases runs_bind.mp run with ⟨t₁, a, t₂, rfl, run₁, run₂⟩ | ⟨e, rfl, run₁⟩
  · exact append t₁ t₂ (first t₁ _ run₁) (second a t₂ r run₂)
  · exact first t _ run₁

theorem Always.forUntil (nil : holds []) (append : ∀ t t', holds t → holds t' → holds (t ++ t'))
    {body : β → Prog Q A E Bool} (turn : ∀ x, Always holds (body x)) (xs : List β) :
    Always holds (forUntil body xs) := by
  induction xs with
  | nil =>
    intro t r run
    rw [(runs_pure.mp run).1]
    exact nil
  | cons x xs ih =>
    refine Always.bind append (turn x) fun stop => ?_
    cases stop with
    | true =>
      intro t r run
      rw [(runs_pure.mp run).1]
      exact nil
    | false => exact ih

end Always

/-! ## How often a program may ask -/

section AtMost

/-- No run asks more than `n` of the counted questions. -/
def AtMost (counts : Q → Bool) (n : Nat) (p : Prog Q A E α) : Prop :=
  ∀ t r, Runs p t r → t.countP (fun event => counts event.question) ≤ n

variable {counts : Q → Bool} {n : Nat}

theorem Asks.atMost_zero {p : Prog Q A E α} (others : Asks (fun q => counts q = false) p) :
    AtMost counts 0 p := by
  intro t r run
  apply Nat.le_of_eq
  apply List.countP_eq_zero.mpr
  intro event mem
  rw [others t r run event mem]
  exact Bool.false_ne_true

theorem AtMost.mono {p : Prog Q A E α} {n' : Nat} (most : AtMost counts n p) (le : n ≤ n') :
    AtMost counts n' p :=
  fun t r run => Nat.le_trans (most t r run) le

theorem AtMost.bind {p : Prog Q A E α} {f : α → Prog Q A E β} {k : Nat}
    (first : AtMost counts n p) (second : ∀ a, AtMost counts k (f a)) :
    AtMost counts (n + k) (p >>= f) := by
  intro t r run
  rcases runs_bind.mp run with ⟨t₁, a, t₂, rfl, run₁, run₂⟩ | ⟨e, rfl, run₁⟩
  · rw [List.countP_append]
    exact Nat.add_le_add (first t₁ _ run₁) (second a t₂ r run₂)
  · exact Nat.le_trans (first t _ run₁) (Nat.le_add_right n k)

theorem AtMost.forUntil {body : β → Prog Q A E Bool} (turn : ∀ x, AtMost counts n (body x))
    (xs : List β) : AtMost counts (xs.length * n) (forUntil body xs) := by
  induction xs with
  | nil =>
    intro t r run
    rw [(runs_pure.mp run).1]
    exact Nat.zero_le _
  | cons x xs ih =>
    rw [List.length_cons, Nat.succ_mul, Nat.add_comm]
    refine (turn x).bind fun stop => ?_
    cases stop with
    | true =>
      intro t r run
      rw [(runs_pure.mp run).1]
      exact Nat.zero_le _
    | false => exact ih

end AtMost

/-! ## Surroundings that answer a question always alike -/

section Eval

variable (answers : (q : Q) → A q)

def eval : Prog Q A E α → Except E α
  | done a => .ok a
  | raise e => .error e
  | ask q next => (next (answers q)).eval

/-- A trace in which these answers were given. -/
def Agrees (t : Trace Q A) : Prop := ∀ event ∈ t, event.answer = answers event.question

@[simp] theorem eval_ofExcept (x : Except E α) :
    (ofExcept x : Prog Q A E α).eval answers = x := by
  cases x <;> rfl

@[simp] theorem eval_bind (p : Prog Q A E α) (f : α → Prog Q A E β) :
    (p >>= f).eval answers = p.eval answers >>= fun a => (f a).eval answers := by
  induction p with
  | done a => rfl
  | raise e => rfl
  | ask q next ih => exact ih (answers q)

/-- What they are asked, with what they answer. -/
def trace : Prog Q A E α → Trace Q A
  | done _ => []
  | raise _ => []
  | ask q next => ⟨q, answers q⟩ :: (next (answers q)).trace

theorem runs_trace (p : Prog Q A E α) : Runs p (p.trace answers) (p.eval answers) := by
  induction p with
  | done a => exact .done a
  | raise e => exact .raise e
  | ask q next ih => exact .ask q (answers q) (ih (answers q))

theorem agrees_trace (p : Prog Q A E α) : Agrees answers (p.trace answers) := by
  induction p with
  | done a => simp [trace, Agrees]
  | raise e => simp [trace, Agrees]
  | ask q next ih =>
    intro event mem
    rcases List.mem_cons.mp mem with rfl | mem
    · rfl
    · exact ih (answers q) event mem

theorem runs_eval (p : Prog Q A E α) :
    ∃ t, Runs p t (p.eval answers) ∧ Agrees answers t :=
  ⟨p.trace answers, runs_trace answers p, agrees_trace answers p⟩

end Eval

end Prog

end SupraFromScratch.Theory
