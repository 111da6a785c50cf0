/-
# Rpc.MoveStore — the Move state as a column family

`move_store.rs`.  A `MoveStore` is a database with the column family
`cf_move_state`; state keys and state values go into it encoded.  A write set is
added to a batch, entry by entry, and the batch is written as a whole.

The abstract store is a map from state keys to what a read answers.  One batch
overlays its write sets on that map (`commit_reads`), a failed one leaves it
alone, and a run of batches overlays the write sets of those that did not fail
(`getStateValue_runBatches`): which batch a write set was in, and the order in
which it visits its keys, leave no trace.

The key encoding, the value encoding and the reading of a write operation belong
to the Move libraries and are a parameter (`StateFormat`).
-/
import SupraFromScratch.Theory.WriteLog
import SupraFromScratch.Theory.Bcs

namespace SupraFromScratch.Rpc

set_option autoImplicit false

open SupraFromScratch.Theory

/-! ## The database -/

abbrev ColumnFamily := Bytes → Option Bytes

/-- A database, as its column families by name. -/
structure Db where
  cfHandle : String → Option ColumnFamily

inductive BatchOp where
  | putCf (cf : String) (key value : Bytes)
  | deleteCf (cf : String) (key : Bytes)
  deriving DecidableEq

namespace BatchOp

def cf : BatchOp → String
  | putCf cf _ _ => cf
  | deleteCf cf _ => cf

/-- The key, and the value it gets or the loss of it. -/
def entry : BatchOp → Bytes × Option Bytes
  | putCf _ key value => (key, some value)
  | deleteCf _ key => (key, none)

end BatchOp

abbrev WriteBatch := List BatchOp

/-- One operation on the family it names. -/
def Db.apply (db : Db) (op : BatchOp) : Db where
  cfHandle name :=
    if name = op.cf then (db.cfHandle name).map fun m => Function.update m op.entry.1 op.entry.2
    else db.cfHandle name

theorem Db.cfHandle_apply (db : Db) (op : BatchOp) (name : String) :
    (db.apply op).cfHandle name =
      if name = op.cf then
        (db.cfHandle name).map fun m => Function.update m op.entry.1 op.entry.2
      else db.cfHandle name := rfl

/-- A batch is written as a whole, its operations in order. -/
def Db.write (db : Db) (batch : WriteBatch) : Db := batch.foldl Db.apply db

/-- A batch on one family is a log of writes to it. -/
theorem Db.cfHandle_write {name : String} {batch : WriteBatch} (own : ∀ op ∈ batch, op.cf = name)
    (db : Db) : (db.write batch).cfHandle name =
      (db.cfHandle name).map fun m => WriteLog.run m (batch.map BatchOp.entry) := by
  induction batch generalizing db with
  | nil => simp [write, WriteLog.run]
  | cons op batch ih =>
    have rest := ih (fun op mem => own op (List.mem_cons_of_mem _ mem)) (db.apply op)
    have here : name = op.cf := (own op List.mem_cons_self).symm
    show ((db.apply op).write batch).cfHandle name = _
    rw [rest, cfHandle_apply, if_pos here, Option.map_map]
    rfl

/-- Writing neither creates nor drops a family. -/
theorem Db.isSome_cfHandle_write (name : String) (batch : WriteBatch) (db : Db) :
    ((db.write batch).cfHandle name).isSome = (db.cfHandle name).isSome := by
  induction batch generalizing db with
  | nil => rfl
  | cons op batch ih =>
    show (((db.apply op).write batch).cfHandle name).isSome = _
    rw [ih, cfHandle_apply]
    by_cases here : name = op.cf
    · simp [here]
    · simp [here]

def MOVE_STATE_CF_NAME : String := "cf_move_state"

/-- `cf_handle(MOVE_STATE_CF_NAME)` never comes back empty. -/
structure MoveStore where
  db : Db
  has_cf : (db.cfHandle MOVE_STATE_CF_NAME).isSome

/-- What `create_if_missing` makes. -/
def Db.created : Db where
  cfHandle name := if name = "default" then some fun _ => none else none

/-- `create_missing_column_families`: a family that is there keeps its content. -/
def Db.createMissing (db : Db) (name : String) : Db where
  cfHandle other :=
    if other = name then some ((db.cfHandle name).getD fun _ => none) else db.cfHandle other

namespace MoveStore

/-- `MoveStore::new` on what is on disk at its path: an existing database is
opened as it is. -/
def new (disk : Option Db) : MoveStore where
  db := (disk.getD Db.created).createMissing MOVE_STATE_CF_NAME
  has_cf := by simp [Db.createMissing]

def cfMoveState (store : MoveStore) : ColumnFamily :=
  (store.db.cfHandle MOVE_STATE_CF_NAME).get store.has_cf

/-- `db.write` on the store's database. -/
def write (store : MoveStore) (batch : WriteBatch) : MoveStore where
  db := store.db.write batch
  has_cf := by rw [Db.isSome_cfHandle_write]; exact store.has_cf

end MoveStore

/-! ## Keys, values and write sets -/

/-- The Move libraries' encodings of state keys and state values, and the value a
write operation leaves. -/
structure StateFormat (K O V : Type) where
  encoded : K → Bytes
  asStateValue : O → Option V
  toBytes : V → Except String Bytes
  fromBytes : Bytes → Except String V

namespace StateFormat

variable {K O V : Type}

/-- Keys do not collide and values are read back. -/
structure Lawful (format : StateFormat K O V) : Prop where
  encoded_injective : Function.Injective format.encoded
  fromBytes_toBytes : ∀ v bytes, format.toBytes v = .ok bytes → format.fromBytes bytes = .ok v

end StateFormat

/-- A finite map from state keys to write operations, and an order in which a
loop over it visits the keys. -/
structure WriteSet (K O : Type) where
  ops : K → Option O
  visited : List (K × O)
  enumerates : WriteLog.Enumerates visited ops

section Store

variable {K O V : Type} (format : StateFormat K O V)

/-- `get_state_value`. -/
def MoveStore.getStateValue (store : MoveStore) (stateKey : K) : Except String (Option V) :=
  match store.cfMoveState (format.encoded stateKey) with
  | some stateValueBytes => do
    let stateValue ← format.fromBytes stateValueBytes
    return some stateValue
  | none => return none

/-- One turn of the loop of `add_write_set`.  An error leaves the batch as the
turns before have made it. -/
def addWriteOp (p : K × O) : EStateM String WriteBatch Unit := do
  let key := format.encoded p.1
  match format.asStateValue p.2 with
  | none => modify (· ++ [.deleteCf MOVE_STATE_CF_NAME key])
  | some value =>
    match format.toBytes value with
    | .error e => throw e
    | .ok valueToWrite => modify (· ++ [.putCf MOVE_STATE_CF_NAME key valueToWrite])

/-- `add_write_set`. -/
def addWriteSet (writeSet : WriteSet K O) : EStateM String WriteBatch Unit :=
  forM writeSet.visited (addWriteOp format)

/-- Write sets added to one batch in sequence; `?` leaves at the first error and
the batch is dropped, otherwise it is written. -/
def MoveStore.commit (store : MoveStore) (writeSets : List (WriteSet K O)) :
    Except String MoveStore :=
  match (forM writeSets (addWriteSet format)).run [] with
  | .error e _ => .error e
  | .ok _ batch => .ok (store.write batch)

end Store

/-! ## What opening does -/

namespace MoveStore

/-- Opening a database again shows the Move state it was left with. -/
theorem cfMoveState_new_db (store : MoveStore) :
    (new (some store.db)).cfMoveState = store.cfMoveState := by
  apply Option.some.inj
  rw [cfMoveState, Option.some_get, cfMoveState]
  show some ((store.db.cfHandle MOVE_STATE_CF_NAME).getD fun _ => none) = some _
  rw [← Option.get_eq_getD]

end MoveStore

/-! ## What a batch does -/

/-- An operation of a batch on the Move state. -/
def moveStateOp : Bytes × Option Bytes → BatchOp
  | (key, some value) => .putCf MOVE_STATE_CF_NAME key value
  | (key, none) => .deleteCf MOVE_STATE_CF_NAME key

theorem cf_moveStateOp (entry : Bytes × Option Bytes) :
    (moveStateOp entry).cf = MOVE_STATE_CF_NAME := by
  obtain ⟨key, value⟩ := entry
  cases value <;> rfl

@[simp] theorem entry_moveStateOp (entry : Bytes × Option Bytes) :
    (moveStateOp entry).entry = entry := by
  obtain ⟨key, value⟩ := entry
  cases value <;> rfl

theorem MoveStore.cfMoveState_write (store : MoveStore) (log : List (Bytes × Option Bytes)) :
    (store.write (log.map moveStateOp)).cfMoveState = WriteLog.run store.cfMoveState log := by
  have own : ∀ op ∈ log.map moveStateOp, op.cf = MOVE_STATE_CF_NAME := by
    intro op mem
    obtain ⟨entry, -, rfl⟩ := List.mem_map.mp mem
    exact cf_moveStateOp entry
  have entries : (log.map moveStateOp).map BatchOp.entry = log := by
    simp [Function.comp_def]
  have written := Db.cfHandle_write own store.db
  rw [entries] at written
  apply Option.some.inj
  rw [cfMoveState, Option.some_get, cfMoveState]
  refine written.trans ?_
  exact Option.map_eq_some_iff.mpr ⟨_, (Option.some_get store.has_cf).symm, rfl⟩

section Batch

variable {K O V : Type} {format : StateFormat K O V}

/-- What the database keeps of a write operation: its value encoded, or nothing. -/
def StateFormat.Writes (format : StateFormat K O V) (op : O) (written : Option Bytes) : Prop :=
  match format.asStateValue op with
  | none => written = none
  | some value => ∃ bytes, format.toBytes value = .ok bytes ∧ written = some bytes

/-- An entry of a write set and the entry of the database it becomes. -/
def StateFormat.WritesEntry (format : StateFormat K O V) (p : K × O) (q : Bytes × Option Bytes) :
    Prop :=
  q.1 = format.encoded p.1 ∧ format.Writes p.2 q.2

theorem addWriteOp_eq_ok {p : K × O} {batch batch' : WriteBatch} :
    (addWriteOp format p).run batch = .ok () batch' ↔
      ∃ entry, format.WritesEntry p entry ∧ batch' = batch ++ [moveStateOp entry] := by
  unfold addWriteOp StateFormat.WritesEntry StateFormat.Writes
  cases hvalue : format.asStateValue p.2 with
  | none =>
    refine ⟨fun h => ?_, ?_⟩
    · cases h
      exact ⟨(format.encoded p.1, none), ⟨rfl, rfl⟩, rfl⟩
    · rintro ⟨⟨key, value⟩, ⟨rfl, rfl⟩, rfl⟩
      rfl
  | some value =>
    cases hbytes : format.toBytes value with
    | error e =>
      refine ⟨fun h => ?_, ?_⟩
      · simp only [hbytes] at h
        cases h
      · rintro ⟨entry, ⟨-, bytes, h, -⟩, -⟩
        rw [hbytes] at h
        cases h
    | ok bytes =>
      simp only [hbytes]
      refine ⟨fun h => ?_, ?_⟩
      · cases h
        exact ⟨(format.encoded p.1, some bytes), ⟨rfl, bytes, rfl, rfl⟩, rfl⟩
      · rintro ⟨⟨key, written⟩, ⟨rfl, _, h, rfl⟩, rfl⟩
        cases h
        rfl

/-- The loop appends one operation for each entry it visits. -/
theorem forM_addWriteOp_eq_ok {entries : List (K × O)} {batch batch' : WriteBatch} :
    (forM entries (addWriteOp format)).run batch = .ok () batch' ↔
      ∃ log, List.Forall₂ format.WritesEntry entries log ∧
        batch' = batch ++ log.map moveStateOp :=
  WriteLog.forM_append_eq_ok fun _ _ _ => addWriteOp_eq_ok

/-- Write sets in sequence are their entries in sequence. -/
theorem forM_addWriteSet (writeSets : List (WriteSet K O)) :
    forM writeSets (addWriteSet format) =
      forM (writeSets.flatMap WriteSet.visited) (addWriteOp format) := by
  induction writeSets with
  | nil => rfl
  | cons writeSet writeSets ih =>
    rw [List.forM_cons, ih, List.flatMap_cons, List.forM_append]
    rfl

/-- Every value the write set leaves has an encoding. -/
def WriteSet.isEncodable (format : StateFormat K O V) (writeSet : WriteSet K O) : Bool :=
  writeSet.visited.all fun p =>
    match format.asStateValue p.2 with
    | none => true
    | some value => (format.toBytes value).isOk

/-- A batch is written if all its write sets can be encoded. -/
def isWritten (format : StateFormat K O V) (writeSets : List (WriteSet K O)) : Bool :=
  writeSets.all (WriteSet.isEncodable format)

theorem WriteSet.isEncodable_iff (writeSet : WriteSet K O) :
    writeSet.isEncodable format = true ↔
      ∀ p ∈ writeSet.visited, ∃ entry, format.WritesEntry p entry := by
  rw [isEncodable, List.all_eq_true]
  refine forall₂_congr fun p _ => ?_
  unfold StateFormat.WritesEntry StateFormat.Writes
  cases hvalue : format.asStateValue p.2 with
  | none => exact ⟨fun _ => ⟨(format.encoded p.1, none), rfl, rfl⟩, fun _ => rfl⟩
  | some value =>
    show (format.toBytes value).isOk = true ↔ ∃ entry : Bytes × Option Bytes,
      entry.1 = format.encoded p.1 ∧ ∃ bytes, format.toBytes value = .ok bytes ∧ entry.2 = some bytes
    cases format.toBytes value with
    | error e => simp [Except.isOk, Except.toBool]
    | ok bytes => simp [Except.isOk, Except.toBool]

/-- `add_write_set` raises no other error. -/
theorem addWriteSet_ok_iff (writeSet : WriteSet K O) :
    (∃ batch, (addWriteSet format writeSet).run [] = .ok () batch) ↔
      writeSet.isEncodable format = true := by
  rw [writeSet.isEncodable_iff, ← WriteLog.exists_forall₂]
  constructor
  · rintro ⟨batch, ok⟩
    obtain ⟨log, related, -⟩ := forM_addWriteOp_eq_ok.mp ok
    exact ⟨log, related⟩
  · rintro ⟨log, related⟩
    exact ⟨_, forM_addWriteOp_eq_ok.mpr ⟨log, related, rfl⟩⟩

namespace MoveStore

variable (store : MoveStore)

theorem commit_eq_ok {store' : MoveStore} {writeSets : List (WriteSet K O)} :
    store.commit format writeSets = .ok store' ↔
      ∃ log, List.Forall₂ format.WritesEntry (writeSets.flatMap WriteSet.visited) log ∧
        store' = store.write (log.map moveStateOp) := by
  unfold commit
  rw [forM_addWriteSet]
  cases h : (forM (writeSets.flatMap WriteSet.visited) (addWriteOp format)).run [] with
  | ok u batch =>
    obtain ⟨log, related, rfl⟩ := forM_addWriteOp_eq_ok.mp h
    refine ⟨fun written => ⟨log, related, (Except.ok.inj written).symm⟩, ?_⟩
    rintro ⟨log', related', rfl⟩
    rw [forM_addWriteOp_eq_ok.mpr ⟨log', related', rfl⟩] at h
    have same := (EStateM.Result.ok.inj h).2
    exact congrArg (fun batch => Except.ok (store.write batch)) same.symm
  | error e batch =>
    refine ⟨fun written => (by cases written), ?_⟩
    rintro ⟨log, related, -⟩
    rw [forM_addWriteOp_eq_ok.mpr ⟨log, related, rfl⟩] at h
    cases h

/-- A batch is dropped exactly when one of its write sets has no encoding. -/
theorem exists_commit_eq_ok_iff {writeSets : List (WriteSet K O)} :
    (∃ store', store.commit format writeSets = .ok store') ↔ isWritten format writeSets = true := by
  have added : isWritten format writeSets = true ↔
      ∀ p ∈ writeSets.flatMap WriteSet.visited, ∃ entry, format.WritesEntry p entry := by
    simp only [isWritten, List.all_eq_true, WriteSet.isEncodable_iff, List.forall_mem_flatMap]
  rw [added, ← WriteLog.exists_forall₂]
  refine ⟨?_, ?_⟩
  · rintro ⟨store', written⟩
    obtain ⟨log, related, -⟩ := (commit_eq_ok store).mp written
    exact ⟨log, related⟩
  · rintro ⟨log, related⟩
    exact ⟨_, (commit_eq_ok store).mpr ⟨log, related, rfl⟩⟩

end MoveStore

end Batch

/-! ## What is read afterwards -/

/-- What a read answers when `standing` is the last operation on its key. -/
def StateFormat.answer {K O V : Type} (format : StateFormat K O V) (standing : Option O)
    (before : Except String (Option V)) : Except String (Option V) :=
  match standing with
  | some op => .ok (format.asStateValue op)
  | none => before

theorem StateFormat.answer_or {K O V : Type} {format : StateFormat K O V}
    (later earlier : Option O) (before : Except String (Option V)) :
    format.answer (later.or earlier) before =
      format.answer later (format.answer earlier before) := by
  cases later <;> rfl

section Reads

variable {K O V : Type} [DecidableEq K] {format : StateFormat K O V}

namespace MoveStore

variable (lawful : format.Lawful) (store : MoveStore)

include lawful

/-- Reading a key through the database's log is reading it through the entries. -/
theorem getStateValue_write {entries : List (K × O)} {log : List (Bytes × Option Bytes)}
    (related : List.Forall₂ format.WritesEntry entries log) (k : K) :
    (store.write (log.map moveStateOp)).getStateValue format k =
      format.answer (WriteLog.last entries k) (store.getStateValue format k) := by
  have standing := WriteLog.last_forall₂ lawful.encoded_injective related k
  unfold getStateValue
  rw [cfMoveState_write, WriteLog.run_apply]
  generalize WriteLog.last entries k = op at standing
  generalize WriteLog.last log (format.encoded k) = written at standing
  cases standing with
  | none => rfl
  | @some op written writes =>
    unfold StateFormat.Writes at writes
    show _ = Except.ok (format.asStateValue op)
    cases hvalue : format.asStateValue op with
    | none =>
      rw [hvalue] at writes
      cases writes
      rfl
    | some value =>
      rw [hvalue] at writes
      obtain ⟨bytes, encoded, rfl⟩ := writes
      show (format.fromBytes bytes >>= fun v => pure (some v)) = _
      rw [lawful.fromBytes_toBytes value bytes encoded]
      rfl

/-- One batch overlays its write sets on what was read before. -/
theorem commit_reads {store' : MoveStore} {writeSets : List (WriteSet K O)}
    (written : store.commit format writeSets = .ok store') (k : K) :
    store'.getStateValue format k =
      format.answer (WriteLog.overlay (writeSets.map WriteSet.ops) k)
        (store.getStateValue format k) := by
  obtain ⟨log, related, rfl⟩ := (commit_eq_ok store).mp written
  rw [getStateValue_write lawful store related, WriteLog.last_flatMap]
  have visits : (fun writeSet : WriteSet K O => WriteLog.last writeSet.visited) = WriteSet.ops := by
    funext writeSet key
    exact writeSet.enumerates.last_eq key
  rw [visits]

end MoveStore

/-- Batches one after another; one that fails is dropped. -/
def MoveStore.runBatches (format : StateFormat K O V) (store : MoveStore)
    (batches : List (List (WriteSet K O))) : MoveStore :=
  batches.foldl (fun store writeSets => (store.commit format writeSets).toOption.getD store) store

/-- **The store is a map.**  After any run of batches, a read answers with the
last write set that mentions its key, and with the initial content where none
does.  A batch with a value that cannot be encoded has left no trace. -/
theorem MoveStore.getStateValue_runBatches (lawful : format.Lawful) (store : MoveStore)
    (batches : List (List (WriteSet K O))) (k : K) :
    (store.runBatches format batches).getStateValue format k =
      format.answer
        (WriteLog.overlay
          ((batches.filter (isWritten format)).flatten.map WriteSet.ops) k)
        (store.getStateValue format k) := by
  induction batches generalizing store with
  | nil => rfl
  | cons writeSets batches ih =>
    show (((store.commit format writeSets).toOption.getD store).runBatches format
      batches).getStateValue format k = _
    rw [ih]
    cases written : store.commit format writeSets with
    | ok store' =>
      have added := (exists_commit_eq_ok_iff store).mp ⟨store', written⟩
      rw [List.filter_cons_of_pos (p := isWritten format) added, List.flatten_cons, List.map_append,
        WriteLog.overlay_append, StateFormat.answer_or]
      exact congrArg _ (commit_reads lawful store written k)
    | error e =>
      have dropped : ¬ isWritten format writeSets = true := by
        intro added
        obtain ⟨store', ok⟩ := (exists_commit_eq_ok_iff store).mpr added
        rw [written] at ok
        cases ok
      rw [List.filter_cons_of_neg (p := isWritten format) dropped]
      rfl

end Reads

/-! ### A small store -/

/-- The write set that visits these entries, in this order. -/
def WriteSet.ofEntries {K O : Type} [DecidableEq K] (entries : List (K × O))
    (once : (entries.map Prod.fst).Nodup) : WriteSet K O where
  ops := WriteLog.last entries
  visited := entries
  enumerates := WriteLog.enumerates_last once

/-- Raw state keys behind their tag, and values without metadata. -/
def rawFormat : StateFormat Bytes (Option Bytes) Bytes where
  encoded key := 255 :: key
  asStateValue := id
  toBytes value := .ok (0 :: Bcs.writeBytes value)
  fromBytes
    | 0 :: bytes =>
      match (Bcs.byteString "unexpected end of input").read.run bytes with
      | .ok (value, []) => .ok value
      | .ok _ => .error "remaining input"
      | .error e => .error e
    | _ => .error "unexpected variant"

theorem rawFormat_lawful : rawFormat.Lawful where
  encoded_injective _ _ same := (List.cons.inj same).2
  fromBytes_toBytes value bytes written := by
    cases written
    have read := Bcs.byteString_roundTrips "unexpected end of input" value []
    rw [List.append_nil] at read
    show (match (Bcs.byteString "unexpected end of input").read.run (Bcs.writeBytes value) with
      | .ok (value, []) => Except.ok value
      | .ok _ => .error "remaining input"
      | .error e => .error e) = .ok value
    rw [show (Bcs.byteString "unexpected end of input").read.run (Bcs.writeBytes value) =
      .ok (value, []) from read]

/-- A database holding only an empty Move state. -/
def emptyStore : MoveStore where
  db := { cfHandle := fun name => if name = MOVE_STATE_CF_NAME then some fun _ => none else none }
  has_cf := by simp

/-- One batch writes two keys, the next deletes one of them. -/
def sampleBatches : List (List (WriteSet Bytes (Option Bytes))) :=
  [[.ofEntries [([1], some [10]), ([2], some [20])] (by decide)],
    [.ofEntries [([1], none)] (by decide)]]

theorem MoveStore.getStateValue_runBatches_sample :
    (emptyStore.runBatches rawFormat sampleBatches).getStateValue rawFormat [1] =
      rawFormat.answer
        (WriteLog.overlay
          ((sampleBatches.filter (isWritten rawFormat)).flatten.map WriteSet.ops) [1])
        (emptyStore.getStateValue rawFormat [1]) :=
  MoveStore.getStateValue_runBatches rawFormat_lawful emptyStore sampleBatches [1]

end SupraFromScratch.Rpc
