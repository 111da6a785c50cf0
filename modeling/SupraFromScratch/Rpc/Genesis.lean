/-
# Rpc.Genesis — the store a server starts with

`genesis.rs`.  `create_genesis` opens the database at one fixed path, creating
it only where there is none, and writes the genesis change set of the accounts
and vesting pools it was given.  Nothing empties the database first, so what a
run leaves on disk is in the store of every later one.

`reads_diskAfter` says what a whole history of runs leaves: the last operation
on each key, over the runs that got as far as writing.  Hence
`createGenesis_eq_fresh_iff`: the store is the one the change set alone makes
exactly when every key the change set is silent about was left without a value.
-/
import SupraFromScratch.Rpc.MoveStore

namespace SupraFromScratch.Rpc

set_option autoImplicit false

open SupraFromScratch.Theory

/-! ## One run -/

/-- A run of `create_genesis`: what `generate_genesis` makes of its accounts and
vesting pools, or its panic, and the errors the database answers with. -/
structure GenesisRun (K O : Type) where
  openError : Option String := none
  changeSet : Except String (WriteSet K O)
  writeError : Option String := none

section Run

variable {K O V : Type} (format : StateFormat K O V)

/-- `create_genesis` on what is on disk, and what it leaves there. -/
def createGenesis (disk : Option Db) (run : GenesisRun K O) :
    Except String MoveStore × Option Db :=
  match run.openError with
  | some e => (.error e, disk)
  | none =>
    let moveStore := MoveStore.new disk
    match run.changeSet with
    | .error e => (.error e, some moveStore.db)
    | .ok writeSet =>
      match (addWriteSet format writeSet).run [] with
      | .error e _ => (.error e, some moveStore.db)
      | .ok _ batch =>
        match run.writeError with
        | some e => (.error e, some moveStore.db)
        | none => (.ok (moveStore.write batch), some (moveStore.write batch).db)

/-- The disk after runs on a path where nothing was, each in a process of its own. -/
def diskAfter (history : List (GenesisRun K O)) : Option Db :=
  history.foldl (fun disk run => (createGenesis format disk run).2) none

/-- The write set a run gets as far as writing. -/
def GenesisRun.written (run : GenesisRun K O) : Option (WriteSet K O) :=
  match run.openError, run.changeSet, run.writeError with
  | none, .ok writeSet, none => if writeSet.isEncodable format then some writeSet else none
  | _, _, _ => none

/-- The value a history leaves at a key. -/
def leftover [DecidableEq K] (history : List (GenesisRun K O)) (k : K) : Option V :=
  (WriteLog.overlay ((history.filterMap (GenesisRun.written format)).map WriteSet.ops) k).bind
    format.asStateValue

end Run

/-! ## What is on disk -/

section Disk

variable {K O V : Type} {format : StateFormat K O V}

/-- What the next process reads. -/
def reads (format : StateFormat K O V) (disk : Option Db) (k : K) : Except String (Option V) :=
  (MoveStore.new disk).getStateValue format k

theorem reads_none (k : K) : reads format none k = .ok none := rfl

theorem reads_db (store : MoveStore) (k : K) :
    reads format (some store.db) k = store.getStateValue format k := by
  unfold reads MoveStore.getStateValue
  rw [MoveStore.cfMoveState_new_db]

/-- A run that writes is one batch on the store it opened. -/
theorem createGenesis_of_written {run : GenesisRun K O} {writeSet : WriteSet K O}
    (written : run.written format = some writeSet) (disk : Option Db) :
    ∃ store, (MoveStore.new disk).commit format [writeSet] = .ok store ∧
      createGenesis format disk run = (.ok store, some store.db) := by
  obtain ⟨openError, changeSet, writeError⟩ := run
  unfold GenesisRun.written at written
  cases openError with
  | some e => cases written
  | none =>
    cases changeSet with
    | error e => cases written
    | ok g =>
      cases writeError with
      | some e => cases written
      | none =>
        by_cases encodable : g.isEncodable format = true
        · simp only [encodable, if_true] at written
          cases written
          obtain ⟨batch, added⟩ := (addWriteSet_ok_iff writeSet).mpr encodable
          refine ⟨(MoveStore.new disk).write batch, ?_, ?_⟩
          · simp [MoveStore.commit, added]
          · simp [createGenesis, added]
        · simp [encodable] at written

/-- A run that does not write fails, and leaves what is read alone. -/
theorem createGenesis_of_not_written {run : GenesisRun K O} (silent : run.written format = none)
    (disk : Option Db) : (∃ e, (createGenesis format disk run).1 = .error e) ∧
      ∀ k, reads format (createGenesis format disk run).2 k = reads format disk k := by
  have opened : ∀ k, reads format (some (MoveStore.new disk).db) k = reads format disk k :=
    reads_db (MoveStore.new disk)
  obtain ⟨openError, changeSet, writeError⟩ := run
  unfold createGenesis
  cases openError with
  | some e => exact ⟨⟨e, rfl⟩, fun _ => rfl⟩
  | none =>
    cases changeSet with
    | error e => exact ⟨⟨e, rfl⟩, opened⟩
    | ok g =>
      cases h : (addWriteSet format g).run [] with
      | error e batch =>
        simp only [h]
        exact ⟨⟨e, rfl⟩, opened⟩
      | ok u batch =>
        simp only [h]
        cases writeError with
        | some e => exact ⟨⟨e, rfl⟩, opened⟩
        | none =>
          have encodable : g.isEncodable format = true := (addWriteSet_ok_iff g).mp ⟨batch, h⟩
          simp [GenesisRun.written, encodable] at silent

end Disk

/-! ## Histories -/

section History

variable {K O V : Type} [DecidableEq K] {format : StateFormat K O V} (lawful : format.Lawful)

include lawful

/-- One run puts what it writes over what was there. -/
theorem createGenesis_reads (disk : Option Db) (run : GenesisRun K O) (k : K) :
    reads format (createGenesis format disk run).2 k =
      format.answer ((run.written format).bind fun writeSet => writeSet.ops k)
        (reads format disk k) := by
  cases written : run.written format with
  | none => exact (createGenesis_of_not_written written disk).2 k
  | some writeSet =>
    obtain ⟨store, committed, ran⟩ := createGenesis_of_written written disk
    rw [ran, reads_db, MoveStore.commit_reads lawful _ committed]
    simp [WriteLog.overlay, reads]

/-- **What a history leaves on disk.** -/
theorem reads_diskAfter (history : List (GenesisRun K O)) (k : K) :
    reads format (diskAfter format history) k = .ok (leftover format history k) := by
  have run : ∀ disk, reads format
      (history.foldl (fun disk run => (createGenesis format disk run).2) disk) k =
        format.answer (WriteLog.overlay
          ((history.filterMap (GenesisRun.written format)).map WriteSet.ops) k)
            (reads format disk k) := by
    induction history with
    | nil => exact fun _ => rfl
    | cons first history ih =>
      intro disk
      rw [List.foldl_cons, ih, createGenesis_reads lawful]
      cases written : first.written format with
      | none => rw [List.filterMap_cons_none written]; rfl
      | some writeSet =>
        rw [List.filterMap_cons_some written, List.map_cons, WriteLog.overlay,
          StateFormat.answer_or]
        rfl
  rw [diskAfter, run, reads_none, leftover]
  cases WriteLog.overlay ((history.filterMap (GenesisRun.written format)).map WriteSet.ops) k with
  | none => rfl
  | some op => rfl

/-- The store a successful run returns. -/
theorem createGenesis_store {disk : Option Db} {run : GenesisRun K O} {store : MoveStore}
    {g : WriteSet K O} (genesis : run.changeSet = .ok g)
    (ok : (createGenesis format disk run).1 = .ok store) :
    run.written format = some g ∧
      ∀ k, store.getStateValue format k = format.answer (g.ops k) (reads format disk k) := by
  cases written : run.written format with
  | none =>
    obtain ⟨⟨e, failed⟩, -⟩ := createGenesis_of_not_written written disk
    rw [failed] at ok
    cases ok
  | some writeSet =>
    have same : writeSet = g := by
      obtain ⟨openError, changeSet, writeError⟩ := run
      cases genesis
      unfold GenesisRun.written at written
      cases openError <;> cases writeError <;> simp at written
      exact written.2.symm
    subst same
    obtain ⟨store', committed, ran⟩ := createGenesis_of_written written disk
    rw [ran] at ok
    cases ok
    refine ⟨rfl, fun k => ?_⟩
    rw [MoveStore.commit_reads lawful _ committed]
    simp [WriteLog.overlay, reads]

/-- **When the past does not show.**  A run after any history returns the store
its change set makes on its own exactly when every key the change set does not
mention was left without a value. -/
theorem createGenesis_eq_fresh_iff (history : List (GenesisRun K O)) (run : GenesisRun K O)
    {g : WriteSet K O} (genesis : run.changeSet = .ok g) {store : MoveStore}
    (ok : (createGenesis format (diskAfter format history) run).1 = .ok store) :
    ∃ fresh, (createGenesis format none run).1 = .ok fresh ∧
      ((∀ k, store.getStateValue format k = fresh.getStateValue format k) ↔
        ∀ k, g.ops k = none → leftover format history k = none) := by
  obtain ⟨written, here⟩ := createGenesis_store lawful genesis ok
  obtain ⟨fresh, -, ran⟩ := createGenesis_of_written written none
  have okFresh : (createGenesis format none run).1 = .ok fresh := by rw [ran]
  obtain ⟨-, there⟩ := createGenesis_store lawful genesis okFresh
  refine ⟨fresh, okFresh, ?_⟩
  apply forall_congr'
  intro k
  rw [here, there, reads_diskAfter lawful, reads_none]
  cases mentioned : g.ops k with
  | some op =>
    refine ⟨fun _ silent => ?_, fun _ => rfl⟩
    cases silent
  | none =>
    show Except.ok (leftover format history k) = .ok none ↔ _
    rw [Except.ok.injEq]
    exact ⟨fun clean _ => clean, fun clean => clean rfl⟩

end History

/-! ### An account that is no longer asked for -/

/-- A change set that gives one key a value. -/
def sampleChangeSet (key value : Bytes) : WriteSet Bytes (Option Bytes) :=
  .ofEntries [(key, some value)] (by simp)

def sampleRun (key value : Bytes) : GenesisRun Bytes (Option Bytes) where
  changeSet := .ok (sampleChangeSet key value)

theorem createGenesis_eq_fresh_iff_sample :
    let history := [sampleRun [1] [10]]
    ∃ store, (createGenesis rawFormat (diskAfter rawFormat history) (sampleRun [2] [20])).1 =
        .ok store ∧
      ∃ fresh, (createGenesis rawFormat none (sampleRun [2] [20])).1 = .ok fresh ∧
        ((∀ k, store.getStateValue rawFormat k = fresh.getStateValue rawFormat k) ↔
          ∀ k, (sampleChangeSet [2] [20]).ops k = none → leftover rawFormat history k = none) :=
  ⟨_, rfl, createGenesis_eq_fresh_iff rawFormat_lawful _ _ rfl rfl⟩

/-- The value an earlier run gave to a key is still read. -/
theorem createGenesis_keeps_leftovers : ¬ ∀ (history : List (GenesisRun Bytes (Option Bytes)))
    (run : GenesisRun Bytes (Option Bytes)) (store fresh : MoveStore),
    (createGenesis rawFormat (diskAfter rawFormat history) run).1 = .ok store →
      (createGenesis rawFormat none run).1 = .ok fresh →
        ∀ k, store.getStateValue rawFormat k = fresh.getStateValue rawFormat k := by
  intro same
  have read := same [sampleRun [1] [10]] (sampleRun [2] [20]) _ _ rfl rfl [1]
  revert read
  decide

end SupraFromScratch.Rpc
