/-
# Rpc.SubmitTxn — validation on a pool of virtual machines

`lib.rs` and `state.rs`.  A request picks one of the pooled machines at random,
takes its mutex with `lock().unwrap()` and validates its transaction against the
store.  Validation is a function of the transaction and the store, and no
request writes to the store; the only thing a request leaves behind is the mutex
of its machine, poisoned if validation panicked while it was held.

`submitTxn_afterHistory` is the answer to a request after any history: the
transaction's own, unless an earlier request on the same machine panicked, and
then an error whatever the transaction is.
-/
import SupraFromScratch.Theory.Mutex

namespace SupraFromScratch.Rpc

set_option autoImplicit false

open SupraFromScratch.Theory

/-- `AptosVM::validate_transaction`, the status it answers with if it returns,
the hash of a transaction and the text of a status. -/
structure AptosVm (T S C H : Type) where
  validateTransaction : T → S → Outcome (Option C)
  committedHash : T → H
  debug : C → String

inductive SupraTransaction (T : Type) where
  | move (tx : T)

/-- What a request answers instead of a hash. -/
inductive SubmitError where
  | joinError (panic : String)
  | validation (message : String)
  deriving DecidableEq

/-- The store, and the mutexes of the machines. -/
structure RpcState (S : Type) (poolSize : Nat) where
  moveStore : S
  vms : Fin poolSize → Mutex

/-- A request and the index `get_next_vm` draws for it. -/
structure Request (T : Type) (poolSize : Nat) where
  randomIndex : Fin poolSize
  body : SupraTransaction T

section Submit

variable {T S C H : Type} (vm : AptosVm T S C H)

variable {poolSize : Nat}

/-- `RpcState::new`: a fresh machine at every place of the pool, whose size is
the one asked for or the number of processors. -/
def RpcState.new (moveStore : S) : RpcState S poolSize where
  moveStore := moveStore
  vms _ := Mutex.new

/-- `map_or` on the status. -/
def statusResult : Option C → Except SubmitError Unit
  | none => .ok ()
  | some errorCode =>
    .error (.validation ("Transaction validation failed. Reason: " ++ vm.debug errorCode))

/-- `submit_txn`. -/
def submitTxn (state : RpcState S poolSize) (req : Request T poolSize) :
    Except SubmitError H × RpcState S poolSize :=
  let tx := match req.body with
    | .move t => t
  let txHash := vm.committedHash tx
  let (joined, vms) :=
    MutexPool.hold state.vms req.randomIndex (vm.validateTransaction tx state.moveStore)
  let answer := match joined with
    | .panicked message => .error (.joinError message)
    | .returned status => (statusResult vm status).map fun _ => txHash
  (answer, { state with vms })

/-- The state after a history of requests. -/
def RpcState.after (state : RpcState S poolSize) (history : List (Request T poolSize)) :
    RpcState S poolSize :=
  history.foldl (fun state req => (submitTxn vm state req).2) state

/-- Validating the request's transaction panics. -/
def Request.panics (moveStore : S) (req : Request T poolSize) : Bool :=
  match req.body with
  | .move tx => (vm.validateTransaction tx moveStore).isPanic

end Submit

/-! ## Histories -/

section History

variable {T S C H : Type} (vm : AptosVm T S C H) {poolSize : Nat}

/-- The call a request makes, and the mutex it makes it under. -/
def Request.call (moveStore : S) (req : Request T poolSize) : Fin poolSize × Outcome (Option C) :=
  (req.randomIndex, match req.body with
    | .move tx => vm.validateTransaction tx moveStore)

/-- A request leaves the store alone, and the machines as its call does. -/
theorem submitTxn_state (state : RpcState S poolSize) (req : Request T poolSize) :
    (submitTxn vm state req).2 =
      { state with
        vms := (MutexPool.hold state.vms (req.call vm state.moveStore).1
          (req.call vm state.moveStore).2).2 } := rfl

theorem after_state (state : RpcState S poolSize) (history : List (Request T poolSize)) :
    state.after vm history =
      { state with
        vms := MutexPool.run state.vms (history.map (Request.call vm state.moveStore)) } := by
  induction history generalizing state with
  | nil => rfl
  | cons req history ih =>
    show (submitTxn vm state req).2.after vm history = _
    rw [ih, submitTxn_state]
    rfl

/-- A machine is poisoned when a request it served panicked. -/
theorem poisoned_after (state : RpcState S poolSize) (history : List (Request T poolSize))
    (i : Fin poolSize) : ((state.after vm history).vms i).poisoned =
      ((state.vms i).poisoned ||
        history.any fun req => decide (req.randomIndex = i) && req.panics vm state.moveStore) := by
  have left := MutexPool.poisoned_run state.vms (history.map (Request.call vm state.moveStore)) i
  rw [List.any_map] at left
  rw [after_state]
  exact left

/-- What one request answers, from any state. -/
theorem submitTxn_answer (state : RpcState S poolSize) (index : Fin poolSize) (tx : T)
    {status : Option C} (returns : vm.validateTransaction tx state.moveStore = .returned status) :
    (submitTxn vm state ⟨index, .move tx⟩).1 =
      if (state.vms index).poisoned then .error (.joinError Mutex.poisonError)
      else (statusResult vm status).map fun _ => vm.committedHash tx := by
  unfold submitTxn MutexPool.hold
  by_cases poisoned : (state.vms index).poisoned = true
  · rw [if_pos poisoned]
    simp only [Mutex.hold_poisoned poisoned]
  · rw [if_neg poisoned]
    simp only [Mutex.hold_clean (Bool.not_eq_true _ ▸ poisoned), returns]

/-- **The answer after a history.**  It is the transaction's own, unless an
earlier request on the same machine panicked. -/
theorem submitTxn_afterHistory (moveStore : S) (history : List (Request T poolSize))
    (index : Fin poolSize) (tx : T)
    {status : Option C} (returns : vm.validateTransaction tx moveStore = .returned status) :
    let state := (RpcState.new moveStore).after vm history
    (submitTxn vm state ⟨index, .move tx⟩).1 =
      if history.any fun req => decide (req.randomIndex = index) && req.panics vm moveStore then
        .error (.joinError Mutex.poisonError)
      else match status with
        | none => .ok (vm.committedHash tx)
        | some errorCode =>
          .error (.validation
            ("Transaction validation failed. Reason: " ++ vm.debug errorCode)) := by
  intro state
  have poisoned : (state.vms index).poisoned = (false || _) :=
    poisoned_after vm (RpcState.new moveStore) history index
  rw [Bool.false_or] at poisoned
  have store : state.moveStore = moveStore := by
    rw [show state = _ from after_state vm (RpcState.new moveStore) history]
    rfl
  have returnsNow : vm.validateTransaction tx state.moveStore = .returned status := by
    rw [store]
    exact returns
  rw [submitTxn_answer vm state index tx returnsNow, poisoned]
  cases status <;> rfl

end History

/-! ### One panic on the only machine -/

/-- Transactions by number: the first panics, the second is refused. -/
def sampleVm : AptosVm Nat Unit Nat Nat where
  validateTransaction tx _ :=
    match tx with
    | 0 => .panicked "index out of bounds"
    | 1 => .returned (some 5)
    | _ => .returned none
  committedHash tx := tx
  debug code := toString code

theorem submitTxn_afterHistory_sample :
    let history : List (Request Nat 2) := [⟨0, .move 0⟩]
    let state := (RpcState.new ()).after sampleVm history
    (submitTxn sampleVm state ⟨1, .move 2⟩).1 =
      if history.any fun req => decide (req.randomIndex = 1) && req.panics sampleVm () then
        .error (.joinError Mutex.poisonError)
      else .ok 2 :=
  submitTxn_afterHistory sampleVm () [⟨0, .move 0⟩] 1 2 rfl

/-- After a panic, a valid transaction on the same machine is answered with an
error. -/
theorem submitTxn_depends_on_history : ¬ ∀ (poolSize : Nat)
    (history : List (Request Nat poolSize)) (index : Fin poolSize) (tx : Nat)
    (status : Option Nat), sampleVm.validateTransaction tx () = .returned status →
      let state := (RpcState.new ()).after sampleVm history
      match status with
      | none => (submitTxn sampleVm state ⟨index, .move tx⟩).1 = .ok (sampleVm.committedHash tx)
      | some _ => ∃ e, (submitTxn sampleVm state ⟨index, .move tx⟩).1 = .error e := by
  intro always
  let state := (RpcState.new ()).after sampleVm [(⟨0, .move 0⟩ : Request Nat 1)]
  have answered : (submitTxn sampleVm state ⟨0, .move 2⟩).1 = .ok 2 :=
    always 1 [⟨0, .move 0⟩] 0 2 none rfl
  have refused : (submitTxn sampleVm state ⟨0, .move 2⟩).1 =
      .error (.joinError Mutex.poisonError) := rfl
  rw [refused] at answered
  cases answered

end SupraFromScratch.Rpc
