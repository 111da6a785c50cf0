/-
# Theory.WriteLog — ordered logs of writes over a map

A log is a list of keyed actions, applied in order.  `last` is the action a log
leaves standing at a key, and everything a reader can see of a map after a log
is `last` over what the map held (`run_apply`).

* `last_append` — the later log decides, and defers where it is silent.
* `Enumerates.last_eq` — a log that visits a finite map once per key leaves that
  map standing, in whatever order it visits the keys.
* `overlay` — a sequence of finite maps, later ones over earlier ones; it is what
  their logs leave standing one after another (`last_flatMap`).
* `last_forall₂` — reading through an injective renaming of keys and any relation
  of actions, as a store that encodes both does.
* `forM_append_eq_ok` — a loop whose every turn appends one entry to a log, or
  fails, appends a log related to what it loops over, entry by entry.
-/
import Mathlib.Data.List.Forall2
import Mathlib.Logic.Function.Basic

namespace SupraFromScratch.Theory.WriteLog

set_option autoImplicit false

/-! ## Maps over maps -/

section Overlay

variable {K A : Type}

/-- Later maps over earlier ones. -/
def overlay : List (K → Option A) → K → Option A
  | [], _ => none
  | m :: maps, k => (overlay maps k).or (m k)

theorem overlay_append (maps more : List (K → Option A)) (k : K) :
    overlay (maps ++ more) k = (overlay more k).or (overlay maps k) := by
  induction maps with
  | nil => simp [overlay]
  | cons m maps ih => rw [List.cons_append, overlay, overlay, ih, Option.or_assoc]

end Overlay

/-! ## The action left standing -/

section Last

variable {K A : Type} [DecidableEq K]

/-- The last action a log takes at a key. -/
def last : List (K × A) → K → Option A
  | [], _ => none
  | (k', a) :: log, k => (last log k).or (if k' = k then some a else none)

theorem last_append (log more : List (K × A)) (k : K) :
    last (log ++ more) k = (last more k).or (last log k) := by
  induction log with
  | nil => simp [last]
  | cons p log ih => rw [List.cons_append, last, last, ih, Option.or_assoc]

theorem last_eq_none {log : List (K × A)} {k : K} :
    last log k = none ↔ ∀ a, (k, a) ∉ log := by
  induction log with
  | nil => simp [last]
  | cons p log ih =>
    obtain ⟨k', b⟩ := p
    by_cases here : k' = k
    · subst here
      refine ⟨fun silent => ?_, fun absent => absurd List.mem_cons_self (absent b)⟩
      rw [last, if_pos rfl, Option.or_eq_none_iff] at silent
      cases silent.2
    · have there : k ≠ k' := Ne.symm here
      simp [last, here, there, ih]

theorem mem_of_last {log : List (K × A)} {k : K} {a : A} (standing : last log k = some a) :
    (k, a) ∈ log := by
  induction log with
  | nil => cases standing
  | cons p log ih =>
    obtain ⟨k', b⟩ := p
    rw [last] at standing
    cases later : last log k with
    | some c =>
      rw [later] at standing
      cases standing
      exact List.mem_cons_of_mem _ (ih later)
    | none =>
      rw [later, Option.none_or] at standing
      by_cases here : k' = k
      · rw [if_pos here] at standing
        cases standing
        rw [here]
        exact List.mem_cons_self
      · rw [if_neg here] at standing
        cases standing

/-- The log visits each key of the map once, and no other key. -/
structure Enumerates (log : List (K × A)) (m : K → Option A) : Prop where
  once : (log.map Prod.fst).Nodup
  mem_iff : ∀ k a, (k, a) ∈ log ↔ m k = some a

/-- Whatever the order of its visits, the log leaves the map standing. -/
theorem Enumerates.last_eq {log : List (K × A)} {m : K → Option A} (enum : Enumerates log m)
    (k : K) : last log k = m k := by
  cases standing : last log k with
  | some a => exact ((enum.mem_iff k a).mp (mem_of_last standing)).symm
  | none =>
    cases hm : m k with
    | none => rfl
    | some a => exact absurd ((enum.mem_iff k a).mpr hm) (last_eq_none.mp standing a)

/-- A log that visits no key twice enumerates what it leaves standing. -/
theorem enumerates_last {log : List (K × A)} (once : (log.map Prod.fst).Nodup) :
    Enumerates log (last log) where
  once := once
  mem_iff k a := by
    refine ⟨fun mem => ?_, mem_of_last⟩
    induction log with
    | nil => cases mem
    | cons p log ih =>
      rw [List.map_cons, List.nodup_cons] at once
      rcases List.mem_cons.mp mem with rfl | later
      · have silent : last log k = none :=
          last_eq_none.mpr fun b mem => once.1 (List.mem_map.mpr ⟨(k, b), mem, rfl⟩)
        rw [last, silent, if_pos rfl]
        rfl
      · rw [last, ih once.2 later]
        rfl

/-- Logs applied one after another leave the overlay of what each leaves. -/
theorem last_flatMap {B : Type} (log : B → List (K × A)) (bs : List B) (k : K) :
    last (bs.flatMap log) k = overlay (bs.map fun b => last (log b)) k := by
  induction bs with
  | nil => rfl
  | cons b bs ih => rw [List.flatMap_cons, last_append, ih, List.map_cons, overlay]

end Last

/-- Reading through encoded keys and related actions. -/
theorem last_forall₂ {K K' A B : Type} [DecidableEq K] [DecidableEq K'] {f : K → K'}
    (inj : Function.Injective f) {R : A → B → Prop} {log : List (K × A)} {log' : List (K' × B)}
    (related : List.Forall₂ (fun p q => q.1 = f p.1 ∧ R p.2 q.2) log log') (k : K) :
    Option.Rel R (last log k) (last log' (f k)) := by
  induction related with
  | nil => exact Option.Rel.none
  | @cons p q log log' head _ ih =>
    obtain ⟨k', a⟩ := p
    obtain ⟨key, b⟩ := q
    obtain ⟨rfl, hab⟩ := head
    have keys : (f k' = f k) = (k' = k) := propext inj.eq_iff
    simp only [last, keys]
    generalize last log k = standing at ih
    generalize last log' (f k) = standing' at ih
    cases ih with
    | some h => exact Option.Rel.some h
    | none =>
      by_cases here : k' = k
      · rw [if_pos here, if_pos here]
        exact Option.Rel.some hab
      · rw [if_neg here, if_neg here]
        exact Option.Rel.none

/-! ## Maps under logs of writes and deletions -/

section Run

variable {K V : Type} [DecidableEq K]

/-- Apply writes (`some`) and deletions (`none`) in order. -/
def run (m : K → Option V) (log : List (K × Option V)) : K → Option V :=
  log.foldl (fun m op => Function.update m op.1 op.2) m

/-- What a reader sees: the last action at the key, or what was there. -/
theorem run_apply (m : K → Option V) (log : List (K × Option V)) (k : K) :
    run m log k = (last log k).getD (m k) := by
  induction log generalizing m with
  | nil => rfl
  | cons op log ih =>
    obtain ⟨k', v⟩ := op
    show run (Function.update m k' v) log k = _
    rw [ih, last]
    cases last log k with
    | some w => rfl
    | none =>
      by_cases here : k' = k
      · subst here
        simp
      · have there : k ≠ k' := Ne.symm here
        simp [here, there]

end Run

/-! ## Loops that write a log -/

section Loops

variable {α β γ ε : Type}

theorem exists_forall₂ {R : α → β → Prop} {xs : List α} :
    (∃ ys, List.Forall₂ R xs ys) ↔ ∀ x ∈ xs, ∃ y, R x y := by
  induction xs with
  | nil => exact ⟨fun _ _ mem => (by cases mem), fun _ => ⟨[], List.Forall₂.nil⟩⟩
  | cons x xs ih =>
    rw [List.forall_mem_cons, ← ih]
    refine ⟨?_, ?_⟩
    · rintro ⟨_, related⟩
      cases related with
      | cons head rest => exact ⟨⟨_, head⟩, ⟨_, rest⟩⟩
    · rintro ⟨⟨y, head⟩, ⟨ys, rest⟩⟩
      exact ⟨y :: ys, List.Forall₂.cons head rest⟩

/-- Related lists are related position by position. -/
theorem exists_getElem?_of_forall₂ {R : α → β → Prop} {xs : List α} {ys : List β}
    (related : List.Forall₂ R xs ys) {i : Nat} {x : α} (at_i : xs[i]? = some x) :
    ∃ y, ys[i]? = some y ∧ R x y := by
  induction related generalizing i with
  | nil => cases at_i
  | @cons _ y _ _ head _ ih =>
    cases i with
    | zero =>
      cases at_i
      exact ⟨y, rfl, head⟩
    | succ i => exact ih at_i

/-- A bind that keeps its state on errors succeeds exactly when both halves do. -/
theorem bind_eq_ok {σ : Type} {x : EStateM ε σ α} {f : α → EStateM ε σ β} {s s' : σ} {b : β} :
    (x >>= f).run s = .ok b s' ↔ ∃ a mid, x.run s = .ok a mid ∧ (f a).run mid = .ok b s' := by
  rw [EStateM.run_bind]
  cases hx : x.run s with
  | error e mid =>
    refine ⟨fun h => (by cases h), ?_⟩
    rintro ⟨a, mid', h, -⟩
    cases h
  | ok a mid =>
    refine ⟨fun h => ⟨a, mid, rfl, h⟩, ?_⟩
    rintro ⟨a', mid', h, ran⟩
    cases h
    exact ran

theorem forM_append_eq_ok {turn : α → EStateM ε (List β) Unit} {R : α → γ → Prop} {emit : γ → β}
    (spec : ∀ a s s', (turn a).run s = .ok () s' ↔ ∃ c, R a c ∧ s' = s ++ [emit c])
    {as : List α} {s s' : List β} :
    (forM as turn).run s = .ok () s' ↔ ∃ cs, List.Forall₂ R as cs ∧ s' = s ++ cs.map emit := by
  induction as generalizing s with
  | nil =>
    refine ⟨fun h => ?_, ?_⟩
    · cases h
      exact ⟨[], List.Forall₂.nil, (List.append_nil _).symm⟩
    · rintro ⟨cs, related, rfl⟩
      cases related
      rw [List.map_nil, List.append_nil]
      rfl
  | cons a as ih =>
    rw [List.forM_cons, bind_eq_ok]
    refine ⟨?_, ?_⟩
    · rintro ⟨⟨⟩, mid, first, rest⟩
      obtain ⟨c, hc, rfl⟩ := (spec a s mid).mp first
      obtain ⟨cs, related, rfl⟩ := ih.mp rest
      exact ⟨c :: cs, List.Forall₂.cons hc related, by simp⟩
    · rintro ⟨_, related, rfl⟩
      cases related with
      | @cons _ c _ cs hc related =>
        have first := (spec a s (s ++ [emit c])).mpr ⟨c, hc, rfl⟩
        refine ⟨(), _, first, ih.mpr ⟨cs, related, ?_⟩⟩
        simp

end Loops

end SupraFromScratch.Theory.WriteLog
