/-
# Rpc.ConcurrentSubmit — requests that are served at the same time

`submit_txn` hands its validation to a blocking task and awaits it, so the
requests of a server overlap: any number of tasks wait for machines, hold them
and answer, in any order (`Theory.LockPool`).  `submitTxn` serves one request
after another.

* `serve_linearizable` — what overlapping requests answer, and the machines they
  leave behind, are those of the requests served one after another, in the order
  in which they were answered.
* `serve_answers_all` — turns for everybody answer everybody, and which machines
  end poisoned does not depend on the order.
* `serve_answer` — a request is refused for what another one did where that one
  ended before it, in a panic on the same machine, and nowhere else.
-/
import SupraFromScratch.Rpc.SubmitTxn
import SupraFromScratch.Theory.LockPool

namespace SupraFromScratch.Rpc

set_option autoImplicit false

open SupraFromScratch.Theory

section Concurrent

variable {T S C H : Type} (vm : AptosVm T S C H) {poolSize n : Nat}

def Request.tx (req : Request T poolSize) : T :=
  match req.body with
  | .move t => t

/-- What the handler answers once its blocking task has ended. -/
def respond (req : Request T poolSize) : Outcome (Option C) → Except SubmitError H
  | .panicked message => .error (.joinError message)
  | .returned status => (statusResult vm status).map fun _ => vm.committedHash req.tx

/-- The machines and the tasks of `n` requests, after a schedule. -/
def serve (state : RpcState S poolSize) (requests : Fin n → Request T poolSize)
    (schedule : List (Fin n)) : LockPool.State (Fin n) (Fin poolSize) (Option C) :=
  LockPool.run (fun i => (requests i).randomIndex)
    (fun i => ((requests i).call vm state.moveStore).2) (.initial state.vms) schedule

/-- The answer to request `i`, if there is one yet. -/
def answer (state : RpcState S poolSize) (requests : Fin n → Request T poolSize)
    (schedule : List (Fin n)) (i : Fin n) : Option (Except SubmitError H) :=
  match (serve vm state requests schedule).phase i with
  | .ended outcome => some (respond vm (requests i) outcome)
  | _ => none

end Concurrent

/-! ## One request after another -/

section Serve

variable {T S C H : Type} {vm : AptosVm T S C H} {poolSize n : Nat} {state : RpcState S poolSize}
  {requests : Fin n → Request T poolSize}

theorem submitTxn_eq_respond (state : RpcState S poolSize) (req : Request T poolSize) :
    (submitTxn vm state req).1 =
      respond vm req (MutexPool.hold state.vms req.randomIndex (req.call vm state.moveStore).2).1 := by
  obtain ⟨index, tx⟩ := req
  show (match (MutexPool.hold state.vms index (vm.validateTransaction _ state.moveStore)).1 with
    | .panicked message => _
    | .returned status => _) = _
  cases tx with
  | move t =>
    show _ = respond vm ⟨index, .move t⟩ (MutexPool.hold state.vms index
      (vm.validateTransaction t state.moveStore)).1
    cases (MutexPool.hold state.vms index (vm.validateTransaction t state.moveStore)).1 <;> rfl

/-- The tasks' calls are the requests'. -/
theorem callsOf_requests (order : List (Fin n)) :
    LockPool.callsOf (fun i => (requests i).randomIndex)
        (fun i => ((requests i).call vm state.moveStore).2) order =
      (order.map requests).map (Request.call vm state.moveStore) := by
  rw [List.map_map]
  rfl

/-- The sequential history of a schedule, and what it answers. -/
structure Linearizes (vm : AptosVm T S C H) (state : RpcState S poolSize)
    (requests : Fin n → Request T poolSize) (schedule order : List (Fin n)) : Prop where
  nodup : order.Nodup
  answered : ∀ i, i ∈ order ↔ (answer vm state requests schedule i).isSome = true
  answers : ∀ before i after, order = before ++ i :: after →
    answer vm state requests schedule i =
      some (submitTxn vm (state.after vm (before.map requests)) (requests i)).1
  machines : (serve vm state requests schedule).mutex =
    (state.after vm (order.map requests)).vms
  /-- No machine validates for two requests at once. -/
  exclusive : ∀ i j, (serve vm state requests schedule).phase i = .holding →
    (serve vm state requests schedule).phase j = .holding →
      (requests i).randomIndex = (requests j).randomIndex → i = j

theorem inv_serve (schedule : List (Fin n)) :
    LockPool.Inv (fun i => (requests i).randomIndex)
      (fun i => ((requests i).call vm state.moveStore).2) state.vms
      (serve vm state requests schedule) :=
  LockPool.inv_initial.run schedule

theorem isSome_answer (schedule : List (Fin n)) (i : Fin n) :
    (answer vm state requests schedule i).isSome = true ↔
      ∃ outcome, (serve vm state requests schedule).phase i = .ended outcome := by
  unfold answer
  cases (serve vm state requests schedule).phase i <;> simp

/-- The order in which a schedule answers is its sequential history. -/
theorem linearizes_log (schedule : List (Fin n)) :
    Linearizes vm state requests schedule (serve vm state requests schedule).log where
  nodup := (inv_serve schedule).nodup
  answered i := by rw [isSome_answer, (inv_serve schedule).logged]
  answers before i after split := by
    have ended := (inv_serve schedule).outcome before i after split
    rw [submitTxn_eq_respond, after_state, ← callsOf_requests]
    simp only [answer, ended]
    rfl
  machines := by
    rw [(inv_serve schedule).mutex_eq, callsOf_requests, after_state]
  exclusive i j hi hj same := (inv_serve schedule).exclusive hi hj same

/-- **Overlapping requests are requests one after another.**  Every schedule has a
sequential history: its requests answer as `submit_txn` answers them in that
order, and leave the same machines.  The history of a schedule only grows, so an
answer that was given before another request was is before it in the history. -/
theorem serve_linearizable (vm : AptosVm T S C H) (state : RpcState S poolSize)
    (requests : Fin n → Request T poolSize) :
    ∃ order : List (Fin n) → List (Fin n),
      (∀ schedule, Linearizes vm state requests schedule (order schedule)) ∧
        ∀ before later, order before <+: order (before ++ later) :=
  ⟨fun schedule => (serve vm state requests schedule).log, linearizes_log,
    fun before later => LockPool.log_run_append _ before later⟩

/-! ## Every request is answered -/

/-- The machines a history leaves poisoned do not depend on its order. -/
theorem poisoned_machines {schedule order : List (Fin n)}
    (linearizes : Linearizes vm state requests schedule order) (machine : Fin poolSize) :
    ((serve vm state requests schedule).mutex machine).poisoned = true ↔
      (state.vms machine).poisoned = true ∨ ∃ i, (requests i).randomIndex = machine ∧
        (requests i).panics vm state.moveStore = true ∧
          (answer vm state requests schedule i).isSome = true := by
  rw [linearizes.machines, poisoned_after]
  simp only [Bool.or_eq_true, List.any_eq_true, List.mem_map, Bool.and_eq_true,
    decide_eq_true_iff, ← linearizes.answered]
  constructor
  · rintro (poisoned | ⟨_, ⟨i, mem, rfl⟩, there, panics⟩)
    · exact Or.inl poisoned
    · exact Or.inr ⟨i, there, panics, mem⟩
  · rintro (poisoned | ⟨i, there, panics, mem⟩)
    · exact Or.inl poisoned
    · exact Or.inr ⟨_, ⟨i, mem, rfl⟩, there, panics⟩

/-- **Every request is answered.**  Two rounds for each request, in each of which
every request has a turn, answer all of them, and leave poisoned the machines that
were or that a request panicked on. -/
theorem serve_answers_all (vm : AptosVm T S C H) (state : RpcState S poolSize)
    (requests : Fin n → Request T poolSize) (rounds : List (List (Fin n)))
    (turns : ∀ round ∈ rounds, ∀ i, i ∈ round) (enough : 2 * n ≤ rounds.length) :
    (∀ i, (answer vm state requests rounds.flatten i).isSome = true) ∧
      ∀ machine, ((serve vm state requests rounds.flatten).mutex machine).poisoned = true ↔
        (state.vms machine).poisoned = true ∨ ∃ i, (requests i).randomIndex = machine ∧
          (requests i).panics vm state.moveStore = true := by
  have answered : ∀ i, (answer vm state requests rounds.flatten i).isSome = true := by
    intro i
    rw [isSome_answer]
    refine LockPool.inv_initial.ended_of_rounds rounds turns ?_ i
    rw [LockPool.left_initial, Fintype.card_fin]
    exact enough
  refine ⟨answered, fun machine => ?_⟩
  rw [poisoned_machines (linearizes_log rounds.flatten)]
  simp [answered]

/-- One request after a history, from any state: the lock's error if its machine
was poisoned or a request of the history panicked on it, and otherwise what
becomes of its own validation. -/
theorem submitTxn_after (state : RpcState S poolSize) (history : List (Request T poolSize))
    (req : Request T poolSize) :
    (submitTxn vm (state.after vm history) req).1 =
      if (state.vms req.randomIndex).poisoned || history.any fun earlier =>
          decide (earlier.randomIndex = req.randomIndex) && earlier.panics vm state.moveStore
      then .error (.joinError Mutex.poisonError)
      else respond vm req (vm.validateTransaction req.tx state.moveStore) := by
  have store : (state.after vm history).moveStore = state.moveStore := by rw [after_state]
  rw [submitTxn_eq_respond, ← poisoned_after, store, MutexPool.hold]
  cases poisoned : ((state.after vm history).vms req.randomIndex).poisoned with
  | true =>
    rw [Mutex.hold_poisoned poisoned]
    rfl
  | false =>
    rw [Mutex.hold_clean poisoned]
    rfl

/-- **What every request answers.**  Whatever the schedule: the requests answered
are those whose tasks have ended.  One whose machine was poisoned from the start,
or on whose machine a request that ended before it has panicked, is refused with
the lock's error; every other one answers for itself, with the status of its own
validation or with its own panic. -/
theorem serve_answer (vm : AptosVm T S C H) (state : RpcState S poolSize)
    (requests : Fin n → Request T poolSize) (schedule : List (Fin n)) :
    let ended := (serve vm state requests schedule).log
    ended.Nodup ∧
      (∀ i, (answer vm state requests schedule i).isSome = true ↔ i ∈ ended) ∧
      ∀ before i after, ended = before ++ i :: after →
        answer vm state requests schedule i = some
          (if (state.vms (requests i).randomIndex).poisoned || before.any fun j =>
              decide ((requests j).randomIndex = (requests i).randomIndex) &&
                (requests j).panics vm state.moveStore
          then .error (.joinError Mutex.poisonError)
          else match vm.validateTransaction (requests i).tx state.moveStore with
            | .panicked message => .error (.joinError message)
            | .returned status =>
              (statusResult vm status).map fun _ => vm.committedHash (requests i).tx) := by
  intro ended
  have linearizes : Linearizes vm state requests schedule ended := linearizes_log schedule
  refine ⟨linearizes.nodup, fun i => (linearizes.answered i).symm, ?_⟩
  intro before i after split
  rw [linearizes.answers before i after split, submitTxn_after, List.any_map]
  congr 2

end Serve

/-! ### Two requests for one machine -/

/-- The first request panics and the second is valid. -/
def sampleRequests : Fin 2 → Request Nat 1
  | 0 => ⟨0, .move 0⟩
  | 1 => ⟨0, .move 7⟩

theorem serve_answers_all_sample :
    let rounds : List (List (Fin 2)) := List.replicate 4 [1, 0]
    let state : RpcState Unit 1 := RpcState.new ()
    (∀ i, (answer sampleVm state sampleRequests rounds.flatten i).isSome = true) ∧
      ∀ machine, ((serve sampleVm state sampleRequests rounds.flatten).mutex machine).poisoned =
        true ↔ (state.vms machine).poisoned = true ∨ ∃ i, (sampleRequests i).randomIndex = machine ∧
          (sampleRequests i).panics sampleVm state.moveStore = true :=
  serve_answers_all sampleVm _ sampleRequests (List.replicate 4 [1, 0]) (by decide) (by decide)

/-- The second request ends first and keeps its hash, although the first panics on
its machine after it; the other way round it is refused. -/
example : let state : RpcState Unit 1 := RpcState.new ()
    answer sampleVm state sampleRequests [1, 1, 0, 0] 1 = some (.ok 7) ∧
      answer sampleVm state sampleRequests [0, 0, 1, 1] 1 =
        some (.error (.joinError Mutex.poisonError)) := ⟨rfl, rfl⟩

end SupraFromScratch.Rpc
