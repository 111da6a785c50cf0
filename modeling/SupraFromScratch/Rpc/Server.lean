/-
# Rpc.Server — a server from its start to its last request

`main.rs` and the two handlers of `lib.rs`.  A process makes its genesis on what
earlier processes left on disk, and then serves requests: `chain_id` reads the
chain's own resource from the store, `submit_txn` validates on a machine of the
pool.

`Process.run_answers` says what every request of every process answers: each chain id is the
one of the process's own genesis, or, where that does not set one, the last that
an earlier process left, whatever was submitted before it; and each submission is
answered as if the chain id had never been asked for.  Serving leaves the disk
alone.
-/
import SupraFromScratch.Rpc.Genesis
import SupraFromScratch.Rpc.SubmitTxn

namespace SupraFromScratch.Rpc

set_option autoImplicit false

open SupraFromScratch.Theory

/-! ## The chain's resource -/

/-- The Move libraries' `ChainIdResource`: where it is kept, how its value is
decoded and the number in it, and `fetch_config` on a view of the state. -/
structure ChainIdConfig (K V R : Type) where
  stateKey : K
  decode : V → Option R
  id : R → UInt8
  fetchConfig : (K → Except String (Option V)) → Option R

/-- A view that fails, a missing value and one that does not decode all read as no
resource. -/
def readResource {V R : Type} (decode : V → Option R) : Except String (Option V) → Option R
  | .ok value => value.bind decode
  | .error _ => none

structure ChainIdConfig.Documented {K V R : Type} (config : ChainIdConfig K V R) : Prop where
  fetchConfig_eq : ∀ view, config.fetchConfig view =
    readResource config.decode (view config.stateKey)

section Handlers

variable {K O V R T C H : Type} (format : StateFormat K O V) (config : ChainIdConfig K V R)
  (vm : AptosVm T MoveStore C H) {poolSize : Nat}

/-- `chain_resource`. -/
def MoveStore.chainResource (store : MoveStore) : Option R :=
  config.fetchConfig (store.getStateValue format)

/-- The answer made of the resource. -/
def chainIdOf : Option R → Except String UInt8
  | some resource => .ok (config.id resource)
  | none => .error "Missing chain resource."

/-- `chain_id`. -/
def chainId (state : RpcState MoveStore poolSize) : Except String UInt8 :=
  chainIdOf config (state.moveStore.chainResource format config)

/-- A request to one of the two routes. -/
inductive Call (T : Type) (poolSize : Nat) where
  | chainId
  | submitTxn (req : Request T poolSize)

inductive Reply (H : Type) where
  | chainId (answer : Except String UInt8)
  | submitTxn (answer : Except SubmitError H)

def handle (state : RpcState MoveStore poolSize) :
    Call T poolSize → Reply H × RpcState MoveStore poolSize
  | .chainId => (.chainId (chainId format config state), state)
  | .submitTxn req => (.submitTxn (submitTxn vm state req).1, (submitTxn vm state req).2)

def serveAll : RpcState MoveStore poolSize → List (Call T poolSize) →
    List (Reply H) × RpcState MoveStore poolSize
  | state, [] => ([], state)
  | state, call :: calls =>
    let (reply, state) := handle format config vm state call
    let (replies, state) := serveAll state calls
    (reply :: replies, state)

/-- A run of `main`: its genesis, and the requests that come. -/
structure Process (K O T : Type) (poolSize : Nat) where
  genesis : GenesisRun K O
  calls : List (Call T poolSize)

/-- What a process answers, and what it leaves on disk. -/
def Process.run (disk : Option Db) (p : Process K O T poolSize) : List (Reply H) × Option Db :=
  match createGenesis format disk p.genesis with
  | (.error _, disk) => ([], disk)
  | (.ok moveStore, _) =>
    let (replies, state) := serveAll format config vm (RpcState.new moveStore) p.calls
    (replies, some state.moveStore.db)

/-- The disk after processes, one after another. -/
def diskAfterProcesses (history : List (Process K O T poolSize)) : Option Db :=
  history.foldl (fun disk p => (p.run format config vm disk).2) none

end Handlers

/-! ## Serving -/

section Serving

variable {K O V R T C H : Type} {format : StateFormat K O V} {config : ChainIdConfig K V R}
  {vm : AptosVm T MoveStore C H} {poolSize : Nat}

/-- The submissions among some requests. -/
def submissionsOf (calls : List (Call T poolSize)) : List (Request T poolSize) :=
  calls.filterMap fun
    | .submitTxn req => some req
    | .chainId => none

theorem handle_state (state : RpcState MoveStore poolSize) (call : Call T poolSize) :
    (handle format config vm state call).2 = state.after vm (submissionsOf [call]) := by
  cases call <;> rfl

theorem after_append (state : RpcState MoveStore poolSize) (before later : List (Request T poolSize)) :
    state.after vm (before ++ later) = (state.after vm before).after vm later :=
  List.foldl_append

theorem submissionsOf_cons (call : Call T poolSize) (calls : List (Call T poolSize)) :
    submissionsOf (call :: calls) = submissionsOf [call] ++ submissionsOf calls := by
  cases call <;> rfl

/-- Only the submissions change the state. -/
theorem serveAll_state (state : RpcState MoveStore poolSize) (calls : List (Call T poolSize)) :
    (serveAll format config vm state calls).2 = state.after vm (submissionsOf calls) := by
  induction calls generalizing state with
  | nil => rfl
  | cons call calls ih =>
    show (serveAll format config vm (handle format config vm state call).2 calls).2 = _
    rw [ih, handle_state, submissionsOf_cons call calls, after_append]

theorem length_serveAll (state : RpcState MoveStore poolSize) (calls : List (Call T poolSize)) :
    (serveAll format config vm state calls).1.length = calls.length := by
  induction calls generalizing state with
  | nil => rfl
  | cons call calls ih =>
    show (serveAll format config vm (handle format config vm state call).2 calls).1.length + 1 = _
    rw [ih, List.length_cons]

/-- The reply to a request is made in the state the ones before have left. -/
theorem serveAll_reply (state : RpcState MoveStore poolSize) (before : List (Call T poolSize))
    (call : Call T poolSize) (later : List (Call T poolSize)) :
    (serveAll format config vm state (before ++ call :: later)).1[before.length]? =
      some (handle format config vm (state.after vm (submissionsOf before)) call).1 := by
  induction before generalizing state with
  | nil => rfl
  | cons first before ih =>
    show (serveAll format config vm (handle format config vm state first).2
      (before ++ call :: later)).1[before.length]? = _
    rw [ih, handle_state, submissionsOf_cons first before, after_append]

/-- No request writes to the store. -/
theorem moveStore_after (state : RpcState MoveStore poolSize)
    (requests : List (Request T poolSize)) :
    (state.after vm requests).moveStore = state.moveStore := by
  rw [after_state]

/-- Serving leaves the disk as the genesis left it. -/
theorem Process.run_disk (p : Process K O T poolSize) (disk : Option Db) :
    (p.run format config vm disk).2 = (createGenesis format disk p.genesis).2 := by
  cases written : p.genesis.written format with
  | none =>
    obtain ⟨⟨e, failed⟩, -⟩ := createGenesis_of_not_written written disk
    unfold run
    cases ran : createGenesis format disk p.genesis with
    | mk result left =>
      rw [ran] at failed
      cases failed
      rfl
  | some writeSet =>
    obtain ⟨store, -, ran⟩ := createGenesis_of_written written disk
    rw [run, ran]
    show some (serveAll format config vm (RpcState.new store) p.calls).2.moveStore.db = some store.db
    rw [serveAll_state, moveStore_after]
    rfl

theorem diskAfterProcesses_eq (history : List (Process K O T poolSize)) :
    diskAfterProcesses format config vm history =
      diskAfter format (history.map Process.genesis) := by
  unfold diskAfterProcesses diskAfter
  rw [List.foldl_map]
  congr 1
  funext disk p
  exact p.run_disk disk

/-! ## What a server answers -/

/-- The value a store has at a key after a genesis on what a history left there. -/
def standing [DecidableEq K] (format : StateFormat K O V) (history : List (GenesisRun K O))
    (g : WriteSet K O) (k : K) : Option V :=
  match g.ops k with
  | some op => format.asStateValue op
  | none => leftover format history k

/-- The reply to a request on a store with this resource, after these submissions. -/
def replyTo (config : ChainIdConfig K V R) (vm : AptosVm T MoveStore C H) (store : MoveStore)
    (resource : Option R) (before : List (Request T poolSize)) : Call T poolSize → Reply H
  | .chainId => .chainId (chainIdOf config resource)
  | .submitTxn req => .submitTxn (submitTxn vm ((RpcState.new store).after vm before) req).1

variable (vm) in
/-- **Every answer of every process.**  The chain id is the process's own, or the
last one left to it; a submission is answered by the submissions before it. -/
theorem Process.run_answers [DecidableEq K] (lawful : format.Lawful) (documented : config.Documented)
    (history : List (Process K O T poolSize)) (p : Process K O T poolSize) {g : WriteSet K O}
    (genesis : p.genesis.changeSet = .ok g) {store : MoveStore}
    (started : (createGenesis format (diskAfterProcesses format config vm history) p.genesis).1 =
      .ok store) :
    let replies := (p.run format config vm (diskAfterProcesses format config vm history)).1
    replies.length = p.calls.length ∧
      ∀ before call later, p.calls = before ++ call :: later →
        replies[before.length]? = some (replyTo config vm store
          ((standing format (history.map Process.genesis) g config.stateKey).bind config.decode)
          (submissionsOf before) call) := by
  intro replies
  have served : replies = (serveAll format config vm (RpcState.new store) p.calls).1 := by
    obtain ⟨written, -⟩ := createGenesis_store lawful genesis started
    obtain ⟨store', -, ran⟩ := createGenesis_of_written written
      (diskAfterProcesses format config vm history)
    rw [ran] at started
    cases started
    show (p.run format config vm _).1 = _
    rw [run, ran]
  have resource : ∀ state : RpcState MoveStore poolSize, state.moveStore = store →
      chainId format config state = chainIdOf config
        ((standing format (history.map Process.genesis) g config.stateKey).bind config.decode) := by
    intro state same
    have read := (createGenesis_store lawful genesis started).2 config.stateKey
    rw [diskAfterProcesses_eq, reads_diskAfter lawful] at read
    rw [chainId, MoveStore.chainResource, documented.fetchConfig_eq, same, read, standing]
    cases g.ops config.stateKey <;> rfl
  refine ⟨served ▸ length_serveAll _ _, ?_⟩
  intro before call later split
  rw [served, split, serveAll_reply]
  cases call with
  | submitTxn req => rfl
  | chainId =>
    rw [handle, resource _ (moveStore_after _ _), replyTo]

end Serving

/-! ### A restart without a chain id -/

def decodeByte (value : Bytes) : Option UInt8 := if value.length = 1 then value.head? else none

/-- The chain id as the one byte it is. -/
def byteConfig : ChainIdConfig Bytes Bytes UInt8 where
  stateKey := [1]
  decode := decodeByte
  id := id
  fetchConfig view := readResource decodeByte (view [1])

theorem byteConfig_documented : byteConfig.Documented where
  fetchConfig_eq _ := rfl

/-- `sampleVm`, whatever the store. -/
def storeVm : AptosVm Nat MoveStore Nat Nat where
  validateTransaction tx _ := sampleVm.validateTransaction tx ()
  committedHash := sampleVm.committedHash
  debug := sampleVm.debug

/-- The first process sets chain id 4 and the second sets another key; it is asked
for the chain id before and after a transaction that panics. -/
def firstProcess : Process Bytes (Option Bytes) Nat 1 where
  genesis := sampleRun [1] [4]
  calls := []

def secondProcess : Process Bytes (Option Bytes) Nat 1 where
  genesis := sampleRun [2] [20]
  calls := [.chainId, .submitTxn ⟨⟨0, Nat.zero_lt_one⟩, .move 0⟩, .chainId]

theorem run_answers_restart :
    let disk := diskAfterProcesses rawFormat byteConfig storeVm [firstProcess]
    ∃ store, (createGenesis rawFormat disk secondProcess.genesis).1 = .ok store ∧
      let replies := (secondProcess.run rawFormat byteConfig storeVm disk).1
      replies.length = secondProcess.calls.length ∧
        ∀ before call later, secondProcess.calls = before ++ call :: later →
          replies[before.length]? = some (replyTo byteConfig storeVm store
            ((standing rawFormat [firstProcess.genesis] (sampleChangeSet [2] [20])
              byteConfig.stateKey).bind byteConfig.decode)
            (submissionsOf before) call) :=
  ⟨_, rfl, Process.run_answers storeVm rawFormat_lawful byteConfig_documented [firstProcess]
    secondProcess rfl rfl⟩

/-- The chain id is still the first process's. -/
example : (secondProcess.run rawFormat byteConfig storeVm
    (diskAfterProcesses rawFormat byteConfig storeVm [firstProcess])).1[2]? =
      some (.chainId (.ok 4)) := rfl

end SupraFromScratch.Rpc
