/-
# Client.CheckTransaction — waiting for a transaction

`check_transaction.py` and `check_block.py`.  `wait_for_tx` asks for the status
of a transaction, at once or after each interval, until it is `Success` or the
repetitions are used up, and returns nothing either way.

`waitForTx_runs` says what it asks and when, whatever the node answers: one look
for each repetition, an interval before each, none after the first success, and
only a request that raises stops it otherwise.  A success is the node's own word
for it (`Response.Succeeded`): no failure to read a status is taken for one.
-/
import SupraFromScratch.Client.Session

namespace SupraFromScratch.Client

set_option autoImplicit false

open SupraFromScratch.Theory
open Prog (ofExcept Runs)

/-! ## A transaction and its block -/

section Readers

/-- The status the virtual machine ended with. -/
def readVmStatus (resData : Value) : Except PyError Value := do
  let output ← resData.getKey "output"
  let move ← output.getKey "Move"
  move.getKey "vm_status"

/-- The `try` of `get_transaction_status`. -/
def readStatus (resData : Value) : Except PyError Value := do
  if PyVal.eq (← resData.getKey "status") (.str "Fail") then readVmStatus resData
  else resData.getKey "status"

def statusOf (py : PyStr) (txHash : String) (resData : Value) : Value :=
  match readStatus resData with
  | .ok status => status
  | .error _ =>
    .str ("Failed to get status of transaction " ++ txHash ++ ", with response " ++ py.str resData)

def readBlockTime (d : Value) : Except PyError Int := do
  let header ← d.getKey "block_header"
  let timestamp ← header.getKey "timestamp"
  (← timestamp.getKey "microseconds_since_unix_epoch").toInt

def readBlockHeight (d : Value) : Except PyError Int := do
  let header ← d.getKey "block_header"
  (← header.getKey "height").toInt

def readRound (d : Value) : Except PyError Int := do
  let header ← d.getKey "header"
  let view ← header.getKey "view"
  (← view.getKey "round").toInt

end Readers

def transactionUrl (baseUrl txHash : String) : String :=
  baseUrl ++ "/rpc/v1/transactions/" ++ txHash

def blockUrl (baseUrl : String) (height : Int) (withTxs : Bool) : String :=
  baseUrl ++ "/rpc/v1/block/height/" ++ toString height ++ "?with_finalized_transactions=" ++
    if withTxs then "true" else "false"

def isSuccess (status : Value) : Bool := PyVal.eq status (.str "Success")

namespace Session

variable (py : PyStr) (baseUrl txHash : String)

/-- `get_transaction_info`. -/
def getTransactionInfo : Session Value := getJson (transactionUrl baseUrl txHash)

/-- `get_transaction_status`. -/
def getTransactionStatus : Session Value := do
  let resData ← getTransactionInfo baseUrl txHash
  return statusOf py txHash resData

/-- `get_transaction_block_time`. -/
def getTransactionBlockTime : Session Int := do
  let d ← getTransactionInfo baseUrl txHash
  ofExcept (readBlockTime d)

/-- `get_transaction_block_height`. -/
def getTransactionBlockHeight : Session Int := do
  let d ← getTransactionInfo baseUrl txHash
  ofExcept (readBlockHeight d)

/-- `get_block_by_height`. -/
def getBlockByHeight (height : Int) (withTxs : Bool := false) : Session Value :=
  getJson (blockUrl baseUrl height withTxs)

/-- `get_block_round_by_height`. -/
def getBlockRoundByHeight (height : Int) : Session Int := do
  let d ← getBlockByHeight baseUrl height
  ofExcept (readRound d)

/-- Asks for the status, prints it after `label`, and tests it. -/
def showStatus (label : String) : Session Bool := do
  let status ← getTransactionStatus py baseUrl txHash
  print [.text label, .value status]
  return isSuccess status

/-- One turn of the loop of `wait_for_tx`. -/
def waitTurn (intervalSec : Int) (i : Nat) : Session Bool := do
  sleep intervalSec
  showStatus py baseUrl txHash
    ("Transaction status after " ++ toString ((i + 1) * intervalSec) ++ " seconds: ")

/-- `wait_for_tx`. -/
def waitForTx (repeats intervalSec : Int) (checkFirst : Bool := false) : Session Unit := do
  let found ← if checkFirst then showStatus py baseUrl txHash "Transaction status: " else pure false
  if !found then
    let _ ← Prog.forUntil (waitTurn py baseUrl txHash intervalSec) (List.range repeats.toNat)

end Session

/-! ## What a look sees -/

/-- The node says that the transaction succeeded. -/
def Response.Succeeded (resp : Response) : Prop :=
  readStatus (resp.json.getD (.dict [])) = .ok (.str "Success")

/-- What a look makes of the node's answer. -/
def look (py : PyStr) (txHash : String) (answer : Except PyError Response) :
    Except PyError Bool :=
  (decoded answer).map fun d => isSuccess (statusOf py txHash d)

/-- Nothing but a text equals it. -/
theorem eq_str_iff {v : Value} {s : String} : PyVal.eq v (.str s) = true ↔ v = .str s := by
  cases v <;> simp [PyVal.eq]

/-- `v[key] == text`. -/
def hasText (key text : String) (v : Value) : Except PyError Bool := do
  return PyVal.eq (← v.getKey key) (.str text)

theorem hasText_eq_true {key text : String} {v : Value} :
    hasText key text v = .ok true ↔ v.getKey key = .ok (.str text) := by
  rw [hasText, bind_eq_ok]
  constructor
  · rintro ⟨w, read, same⟩
    rw [read, eq_str_iff.mp (Except.ok.inj same)]
  · intro read
    exact ⟨_, read, congrArg Except.ok (eq_str_iff.mpr rfl)⟩

theorem hasText_eq_false {key text : String} {v : Value} :
    hasText key text v = .ok false ↔ ∃ w, v.getKey key = .ok w ∧ w ≠ .str text := by
  rw [hasText, bind_eq_ok]
  refine exists_congr fun w => and_congr_right fun _ => ?_
  constructor
  · intro differs same
    rw [eq_str_iff.mpr same] at differs
    cases differs
  · intro other
    exact congrArg Except.ok (Bool.eq_false_iff.mpr fun same => other (eq_str_iff.mp same))

/-- The text that stands for an unreadable status is not a success. -/
theorem failed_ne_success (s : String) : "Failed to get status of transaction " ++ s ≠ "Success" := by
  intro same
  have longer := congrArg String.length same
  rw [String.length_append] at longer
  have front : "Failed to get status of transaction ".length = 36 := by decide
  have whole : "Success".length = 7 := by decide
  omega

theorem isSuccess_statusOf (py : PyStr) (txHash : String) (d : Value) :
    isSuccess (statusOf py txHash d) = true ↔ readStatus d = .ok (.str "Success") := by
  rw [isSuccess, eq_str_iff, statusOf]
  cases readStatus d with
  | ok status => simp
  | error e =>
    simp only [PyVal.str.injEq, reduceCtorEq, iff_false]
    rw [String.append_assoc, String.append_assoc]
    exact failed_ne_success _

theorem look_ok {py : PyStr} {txHash : String} {resp : Response} {found : Bool} :
    look py txHash (.ok resp) = .ok found ↔ (found = true ↔ resp.Succeeded) := by
  show Except.ok (isSuccess (statusOf py txHash (resp.json.getD (.dict [])))) = .ok found ↔ _
  rw [Except.ok.injEq, Response.Succeeded, ← isSuccess_statusOf py txHash, Bool.eq_iff_iff]
  exact ⟨Iff.symm, Iff.symm⟩

/-! ## What waiting asks -/

/-- Looks at `url`, an interval before each but the first of a `now`. -/
def waits (url : String) (intervalSec : Int) : Bool → List (Except PyError Response) → Talk
  | _, [] => []
  | true, answer :: later => ⟨.get url, answer⟩ :: waits url intervalSec false later
  | false, answer :: later =>
      ⟨.sleep intervalSec, ()⟩ :: ⟨.get url, answer⟩ :: waits url intervalSec false later

/-- How waiting ends, after looks that saw no success and within `looks` of them. -/
inductive Waited (url : String) (intervalSec : Int) (looks : Nat) (now : Bool)
    (seen : List Response) : Talk → Except PyError Unit → Prop
  | timedOut (all : seen.length = looks) :
      Waited url intervalSec looks now seen (waits url intervalSec now (seen.map .ok)) (.ok ())
  | succeeded (resp : Response) (within : seen.length < looks) (success : resp.Succeeded) :
      Waited url intervalSec looks now seen
        (waits url intervalSec now (seen.map .ok ++ [.ok resp])) (.ok ())
  | failed (e : PyError) (within : seen.length < looks) :
      Waited url intervalSec looks now seen
        (waits url intervalSec now (seen.map .ok ++ [.error e])) (.error e)

/-- Waiting goes on after a first look. -/
theorem Waited.after {url : String} {intervalSec : Int} {looks : Nat} {seen : List Response}
    {t : Talk} {r : Except PyError Unit} (waited : Waited url intervalSec looks false seen t r)
    (resp : Response) :
    Waited url intervalSec (looks + 1) true (resp :: seen) (⟨.get url, .ok resp⟩ :: t) r := by
  cases waited with
  | timedOut all => exact .timedOut (congrArg (· + 1) all)
  | succeeded last within success => exact .succeeded last (Nat.succ_lt_succ within) success
  | failed e within => exact .failed e (Nat.succ_lt_succ within)

theorem waits_false (url : String) (intervalSec : Int) (answers : List (Except PyError Response)) :
    waits url intervalSec false answers =
      answers.flatMap fun answer => [⟨.sleep intervalSec, ()⟩, ⟨.get url, answer⟩] := by
  induction answers with
  | nil => rfl
  | cons answer later ih => rw [waits, ih, List.flatMap_cons]; rfl

section Wait

variable {py : PyStr} {baseUrl txHash : String} {intervalSec : Int} {t : Talk}

open Session

theorem runs_getTransactionStatus {r : Except PyError Value}
    (run : Runs (getTransactionStatus py baseUrl txHash) t r) :
    ∃ answer : Except PyError Response,
      actions t = [⟨.get (transactionUrl baseUrl txHash), answer⟩] ∧
        r = (decoded answer).map (statusOf py txHash) := by
  obtain ⟨r', asked, rfl⟩ := Prog.runs_bind_pure.mp run
  obtain ⟨answer, acted, rfl⟩ := runs_getJson asked
  exact ⟨answer, acted, rfl⟩

theorem runs_showStatus {label : String} {r : Except PyError Bool}
    (run : Runs (showStatus py baseUrl txHash label) t r) :
    ∃ answer : Except PyError Response,
      actions t = [⟨.get (transactionUrl baseUrl txHash), answer⟩] ∧ r = look py txHash answer := by
  rcases Prog.runs_bind.mp run with ⟨t₁, status, t₂, rfl, asked, rest⟩ | ⟨e, rfl, asked⟩
  · obtain ⟨answer, acted, same⟩ := runs_getTransactionStatus asked
    obtain ⟨t', quiet, rest⟩ := runs_print_bind rest
    obtain ⟨rfl, rfl⟩ := Prog.runs_pure.mp rest
    refine ⟨answer, by rw [actions_append, quiet, acted]; rfl, ?_⟩
    cases answer with
    | error e => cases same
    | ok resp =>
      cases same
      rfl
  · obtain ⟨answer, acted, same⟩ := runs_getTransactionStatus asked
    refine ⟨answer, acted, ?_⟩
    cases answer with
    | error e' =>
      cases same
      rfl
    | ok resp => cases same

theorem runs_waitTurn (lawful : 0 ≤ intervalSec) {i : Nat} {r : Except PyError Bool}
    (run : Runs (waitTurn py baseUrl txHash intervalSec i) t r) :
    ∃ answer : Except PyError Response,
      actions t =
        [⟨.sleep intervalSec, ()⟩, ⟨.get (transactionUrl baseUrl txHash), answer⟩] ∧
          r = look py txHash answer := by
  obtain ⟨t', acted, rest⟩ := runs_sleep_bind lawful run
  obtain ⟨answer, asked, rfl⟩ := runs_showStatus rest
  exact ⟨answer, by rw [acted, asked], rfl⟩

/-- Looks that saw no success were answered. -/
theorem exists_responses {answers : List (Except PyError Response)}
    (quiet : ∀ answer ∈ answers, look py txHash answer = .ok false) :
    ∃ seen : List Response, answers = seen.map .ok ∧ ∀ resp ∈ seen, ¬ resp.Succeeded := by
  induction answers with
  | nil => exact ⟨[], rfl, by simp⟩
  | cons answer answers ih =>
    obtain ⟨seen, rfl, unsuccessful⟩ := ih fun other mem => quiet other (List.mem_cons_of_mem _ mem)
    have first := quiet answer List.mem_cons_self
    cases answer with
    | error e => cases first
    | ok resp =>
      refine ⟨resp :: seen, rfl, ?_⟩
      intro other mem
      rcases List.mem_cons.mp mem with rfl | mem
      · intro success
        exact Bool.false_ne_true ((look_ok.mp first).mpr success)
      · exact unsuccessful other mem

/-- The loop alone. -/
theorem runs_waitLoop (lawful : 0 ≤ intervalSec) {looks : Nat} {r : Except PyError Bool}
    (run : Runs (Prog.forUntil (waitTurn py baseUrl txHash intervalSec) (List.range looks)) t r) :
    ∃ seen : List Response, (∀ resp ∈ seen, ¬ resp.Succeeded) ∧
      Waited (transactionUrl baseUrl txHash) intervalSec looks false seen (actions t)
        (r.map fun _ => ()) := by
  obtain ⟨turns, rest, split, quiet, finish⟩ :=
    runs_forUntil_look (fun i t r run => runs_waitTurn lawful run) run
  have answered : ∀ answer ∈ turns.map Prod.snd, look py txHash answer = .ok false := by
    intro answer mem
    obtain ⟨p, source, rfl⟩ := List.mem_map.mp mem
    exact quiet p source
  obtain ⟨seen, same, unsuccessful⟩ := exists_responses answered
  have budget := congrArg List.length split
  have count := congrArg List.length same
  simp only [List.length_range, List.length_append, List.length_map] at budget count
  have acted : (turns.flatMap fun p =>
      [⟨.sleep intervalSec, ()⟩, ⟨.get (transactionUrl baseUrl txHash), p.2⟩]) =
        waits (transactionUrl baseUrl txHash) intervalSec false (seen.map .ok) := by
    rw [← same, waits_false, List.flatMap_map]
  refine ⟨seen, unsuccessful, ?_⟩
  cases rest with
  | nil =>
    obtain ⟨rfl, acts⟩ := finish
    rw [acts, acted]
    exact .timedOut (by simpa [count] using budget.symm)
  | cons i later =>
    obtain ⟨ended, answer, rfl, acts⟩ := finish
    have within : seen.length < looks := by
      rw [List.length_cons] at budget
      omega
    have last : actions t = waits (transactionUrl baseUrl txHash) intervalSec false
        (seen.map .ok ++ [answer]) := by
      rw [acts, acted, waits_false, waits_false, List.flatMap_append]
      rfl
    rw [last]
    cases answer with
    | error e => exact .failed e within
    | ok resp =>
      cases looked : look py txHash (.ok resp) with
      | error e => cases looked
      | ok found =>
        cases found with
        | false => exact absurd looked ended
        | true => exact .succeeded resp within ((look_ok.mp looked).mp rfl)

/-- **What waiting asks, and when it stops.**  Whatever the node answers: the looks
that came before saw no success, and waiting ends when they are used up, at the
first success, or with a request that raises. -/
theorem waitForTx_runs (py : PyStr) (baseUrl txHash : String) (repeats intervalSec : Int)
    (checkFirst : Bool) (lawful : 0 ≤ intervalSec) {t : Talk} {r : Except PyError Unit}
    (run : Runs (waitForTx py baseUrl txHash repeats intervalSec checkFirst) t r) :
    ∃ seen : List Response, (∀ resp ∈ seen, ¬ resp.Succeeded) ∧
      Waited (transactionUrl baseUrl txHash) intervalSec
        (repeats.toNat + if checkFirst then 1 else 0) checkFirst seen (actions t) r := by
  cases checkFirst with
  | false =>
    obtain ⟨r', looped, rfl⟩ := Prog.runs_bind_pure.mp run
    exact runs_waitLoop lawful looped
  | true =>
    rcases Prog.runs_bind.mp run with ⟨t₁, found, t₂, rfl, first, rest⟩ | ⟨e, rfl, first⟩
    · obtain ⟨answer, asked, looked⟩ := runs_showStatus first
      cases answer with
      | error e => cases looked
      | ok resp =>
        rw [actions_append, asked]
        cases found with
        | true =>
          obtain ⟨rfl, rfl⟩ := Prog.runs_pure.mp rest
          exact ⟨[], by simp, .succeeded resp (Nat.succ_pos _) ((look_ok.mp looked.symm).mp rfl)⟩
        | false =>
          obtain ⟨r', looped, rfl⟩ := Prog.runs_bind_pure.mp rest
          obtain ⟨seen, unsuccessful, waited⟩ := runs_waitLoop lawful looped
          refine ⟨resp :: seen, ?_, waited.after resp⟩
          intro other mem
          rcases List.mem_cons.mp mem with rfl | mem
          · intro success
            exact Bool.false_ne_true ((look_ok.mp looked.symm).mpr success)
          · exact unsuccessful other mem
    · obtain ⟨answer, asked, looked⟩ := runs_showStatus first
      cases answer with
      | ok resp => cases looked
      | error e' =>
        cases looked
        rw [asked]
        exact ⟨[], by simp, .failed e (Nat.succ_pos _)⟩

end Wait

/-- A node on which every transaction has succeeded. -/
def executed : Response where
  json := some (.dict [("status", .str "Success")])
  isDecoded := by
    rintro v ⟨⟩
    rfl

def executedNode : Still where
  net := nodeAnswering executed
  post _ _ := .ok executed
  now := 1700000000
  key := ⟨List.replicate 32 7, by simp⟩

theorem waitForTx_runs_executed : ∃ t,
    Runs (Session.waitForTx samplePy "https://rpc-testnet.supra.com" "0xdf33" 3 5) t (.ok ()) ∧
      ∃ seen : List Response, (∀ resp ∈ seen, ¬ resp.Succeeded) ∧
        Waited (transactionUrl "https://rpc-testnet.supra.com" "0xdf33") 5
          ((3 : Int).toNat + if false then 1 else 0) false seen (actions t) (.ok ()) := by
  obtain ⟨t, run, -⟩ := Prog.runs_eval executedNode.answers
    (Session.waitForTx samplePy "https://rpc-testnet.supra.com" "0xdf33" 3 5)
  exact ⟨t, run, waitForTx_runs _ _ _ 3 5 false (by decide) run⟩

end SupraFromScratch.Client
