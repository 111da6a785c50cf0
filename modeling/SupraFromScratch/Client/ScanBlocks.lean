/-
# Client.ScanBlocks — looking for a transaction, block by block

`scan_blocks.py`.  The script asks for one block after another, prints the hash
of every transaction in it, and exits at the one it looks for.  Its `exit(0)` is
a `break` out of both loops.

`scanFrom_runs` is what the scan answers, whatever the node does: found exactly
when a block it asked for holds the transaction, and then no block after that one
is asked for; not found only after every block of the range was read.
-/
import SupraFromScratch.Client.CheckTransaction

namespace SupraFromScratch.Client

set_option autoImplicit false

open SupraFromScratch.Theory
open Prog (ofExcept Runs)

/-- `range(first, stop)`. -/
def pyRange (first stop : Int) : List Int :=
  (List.range (stop - first).toNat).map fun i => first + i

namespace Session

variable (baseUrl targetTxHash : String)

/-- `get_block_txs`. -/
def getBlockTxs (height : Int) : Session Value := do
  let d ← getBlockByHeight baseUrl height true
  ofExcept (d.getKey "transactions")

/-- One transaction of a block. -/
def scanTx (tx : Value) : Session Bool := do
  let txHash ← ofExcept (tx.getKey "hash")
  if PyVal.eq txHash (.str targetTxHash) then
    print [.text "Found target!"]
    return true
  print [.value txHash]
  return false

/-- One block. -/
def scanBlock (h : Int) : Session Bool := do
  let txs ← getBlockTxs baseUrl h
  print [.text ("Block height: " ++ toString h ++ ":")]
  let items ← ofExcept txs.iterate
  Prog.forUntil (scanTx targetTxHash) items

/-- The loop of the script. -/
def scanFrom (first endBlockHeight : Int) : Session Bool :=
  Prog.forUntil (scanBlock baseUrl targetTxHash) (pyRange first (endBlockHeight + 1))

/-- The script, whose first height is the literal 637230; whether it found the
target. -/
def scanBlocks (startTxHash endTxHash : String) (first : Int := 637230) : Session Bool := do
  let startBlockHeight ← getTransactionBlockHeight baseUrl startTxHash
  let endBlockHeight ← getTransactionBlockHeight baseUrl endTxHash
  print [.text ("Start block height: " ++ toString startBlockHeight ++ ", end block height: " ++
    toString endBlockHeight ++ ", number of blocks: " ++
    toString (endBlockHeight - startBlockHeight))]
  scanFrom baseUrl targetTxHash first endBlockHeight

end Session

/-! ## One block -/

/-- The transactions of a block. -/
def Response.transactions (page : Response) : Except PyError (List Value) := do
  (← (page.json.getD (.dict [])).getKey "transactions").iterate

def hasHash (target : String) (tx : Value) : Prop := tx.getKey "hash" = .ok (.str target)

/-- A transaction whose hash is read, and is another one. -/
def hasOtherHash (target : String) (tx : Value) : Prop :=
  ∃ txHash, tx.getKey "hash" = .ok txHash ∧ txHash ≠ .str target

/-- The block holds the target, after transactions with other hashes. -/
def Response.Holds (page : Response) (target : String) : Prop :=
  ∃ before tx after, page.transactions = .ok (before ++ tx :: after) ∧
    (∀ other ∈ before, hasOtherHash target other) ∧ hasHash target tx

/-- Every transaction of the block has another hash. -/
def Response.Lacks (page : Response) (target : String) : Prop :=
  ∃ items, page.transactions = .ok items ∧ ∀ tx ∈ items, hasOtherHash target tx

/-- What the scan makes of the transactions of a block. -/
def searchTxs (target : String) : List Value → Except PyError Bool
  | [] => return false
  | tx :: rest => do
    let txHash ← tx.getKey "hash"
    if PyVal.eq txHash (.str target) then return true else searchTxs target rest

theorem searchTxs_eq (target : String) (items : List Value) :
    searchTxs target items =
      PyVal.findFirst (hasText "hash" target) (fun _ => .ok true) (.ok false) items := by
  induction items with
  | nil => rfl
  | cons tx rest ih =>
    rw [searchTxs, PyVal.findFirst, hasText, ih]
    cases tx.getKey "hash" <;> rfl

theorem searchTxs_eq_true {target : String} {items : List Value} :
    searchTxs target items = .ok true ↔ ∃ before tx after, items = before ++ tx :: after ∧
      (∀ other ∈ before, hasOtherHash target other) ∧ hasHash target tx := by
  rw [searchTxs_eq, PyVal.findFirst_eq_ok_iff]
  simp only [hasText_eq_true, hasText_eq_false]
  constructor
  · rintro (⟨before, tx, after, split, others, here, -⟩ | ⟨-, missing⟩)
    · exact ⟨before, tx, after, split, others, here⟩
    · cases missing
  · rintro ⟨before, tx, after, split, others, here⟩
    exact Or.inl ⟨before, tx, after, split, others, here, trivial⟩

theorem searchTxs_eq_false {target : String} {items : List Value} :
    searchTxs target items = .ok false ↔ ∀ tx ∈ items, hasOtherHash target tx := by
  rw [searchTxs_eq, PyVal.findFirst_eq_ok_iff]
  simp only [hasText_eq_false]
  constructor
  · rintro (⟨-, -, -, -, -, -, found⟩ | ⟨others, -⟩)
    · cases found
    · exact others
  · intro others
    exact Or.inr ⟨others, trivial⟩

/-- What the scan makes of an answer. -/
def searchPage (target : String) (answer : Except PyError Response) : Except PyError Bool := do
  let d ← decoded answer
  let txs ← d.getKey "transactions"
  searchTxs target (← txs.iterate)

theorem searchPage_ok (target : String) (page : Response) :
    searchPage target (.ok page) = page.transactions >>= searchTxs target := by
  show ((page.json.getD (.dict [])).getKey "transactions" >>= fun txs =>
    txs.iterate >>= searchTxs target) = _
  unfold Response.transactions
  cases (page.json.getD (.dict [])).getKey "transactions" <;> rfl

theorem searchPage_eq_true {target : String} {answer : Except PyError Response} :
    searchPage target answer = .ok true ↔ ∃ page, answer = .ok page ∧ page.Holds target := by
  cases answer with
  | error e =>
    refine ⟨fun h => (by cases h), ?_⟩
    rintro ⟨page, same, -⟩
    cases same
  | ok page =>
    rw [searchPage_ok, bind_eq_ok]
    constructor
    · rintro ⟨items, read, found⟩
      obtain ⟨before, tx, after, rfl, others, here⟩ := searchTxs_eq_true.mp found
      exact ⟨page, rfl, before, tx, after, read, others, here⟩
    · rintro ⟨_, same, before, tx, after, read, others, here⟩
      cases same
      exact ⟨_, read, searchTxs_eq_true.mpr ⟨before, tx, after, rfl, others, here⟩⟩

theorem searchPage_eq_false {target : String} {answer : Except PyError Response} :
    searchPage target answer = .ok false ↔ ∃ page, answer = .ok page ∧ page.Lacks target := by
  cases answer with
  | error e =>
    refine ⟨fun h => (by cases h), ?_⟩
    rintro ⟨page, same, -⟩
    cases same
  | ok page =>
    rw [searchPage_ok, bind_eq_ok]
    constructor
    · rintro ⟨items, read, missed⟩
      exact ⟨page, rfl, items, read, searchTxs_eq_false.mp missed⟩
    · rintro ⟨_, same, items, read, others⟩
      cases same
      exact ⟨items, read, searchTxs_eq_false.mpr others⟩

/-! ## What the scan asks -/

/-- The blocks of these heights, one after another, and what was answered. -/
def blockAsks (baseUrl : String) (heights : List Int) (answers : List (Except PyError Response)) :
    Talk :=
  List.zipWith (fun h answer => ⟨.get (blockUrl baseUrl h true), answer⟩) heights answers

/-- How a scan ends, after blocks without the target. -/
inductive Scanned (baseUrl target : String) (heights : List Int) (seen : List Response) :
    Talk → Except PyError Bool → Prop
  | missed (all : seen.length = heights.length) :
      Scanned baseUrl target heights seen (blockAsks baseUrl heights (seen.map .ok)) (.ok false)
  | found (page : Response) (within : seen.length < heights.length) (holds : page.Holds target) :
      Scanned baseUrl target heights seen
        (blockAsks baseUrl heights (seen.map .ok ++ [.ok page])) (.ok true)
  | failed (answer : Except PyError Response) (e : PyError) (within : seen.length < heights.length)
      (raises : searchPage target answer = .error e) :
      Scanned baseUrl target heights seen
        (blockAsks baseUrl heights (seen.map .ok ++ [answer])) (.error e)

theorem blockAsks_append (baseUrl : String) (turns : List (Int × Except PyError Response))
    (heights : List Int) (answers : List (Except PyError Response)) :
    blockAsks baseUrl (turns.map Prod.fst ++ heights) (turns.map Prod.snd ++ answers) =
      (turns.flatMap fun p => [⟨.get (blockUrl baseUrl p.1 true), p.2⟩]) ++
        blockAsks baseUrl heights answers := by
  induction turns with
  | nil => rfl
  | cons p turns ih => exact congrArg (_ :: ·) ih

/-- Blocks that were looked through were answered, and lack the target. -/
theorem exists_pages {target : String} {answers : List (Except PyError Response)}
    (missed : ∀ answer ∈ answers, searchPage target answer = .ok false) :
    ∃ seen : List Response, answers = seen.map .ok ∧ ∀ page ∈ seen, page.Lacks target := by
  induction answers with
  | nil => exact ⟨[], rfl, by simp⟩
  | cons answer answers ih =>
    obtain ⟨seen, rfl, lacks⟩ := ih fun other mem => missed other (List.mem_cons_of_mem _ mem)
    obtain ⟨page, rfl, first⟩ := searchPage_eq_false.mp (missed answer List.mem_cons_self)
    exact ⟨page :: seen, rfl, List.forall_mem_cons.mpr ⟨first, lacks⟩⟩

section Scan

variable {baseUrl target : String} {t : Talk} {r : Except PyError Bool}

open Session

theorem runs_scanTx {tx : Value} (run : Runs (scanTx target tx) t r) :
    actions t = [] ∧ r = (tx.getKey "hash").map fun txHash => PyVal.eq txHash (.str target) := by
  rcases Prog.runs_ofExcept_bind.mp run with ⟨txHash, read, rest⟩ | ⟨e, read, rfl, rfl⟩
  · rw [read]
    by_cases same : PyVal.eq txHash (.str target) = true
    · rw [if_pos same] at rest
      obtain ⟨t', quiet, rest⟩ := runs_print_bind rest
      obtain ⟨rfl, rfl⟩ := Prog.runs_pure.mp rest
      exact ⟨quiet, by simp [Except.map, same]⟩
    · rw [if_neg same] at rest
      obtain ⟨t', quiet, rest⟩ := runs_print_bind rest
      obtain ⟨rfl, rfl⟩ := Prog.runs_pure.mp rest
      exact ⟨quiet, by simp [Except.map, same]⟩
  · rw [read]
    exact ⟨rfl, rfl⟩

/-- Going through a block asks nothing. -/
theorem runs_scanTxs {items : List Value}
    (run : Runs (Prog.forUntil (scanTx target) items) t r) :
    actions t = [] ∧ r = searchTxs target items := by
  induction items generalizing t with
  | nil =>
    cases run
    exact ⟨rfl, rfl⟩
  | cons tx rest ih =>
    rcases Prog.runs_bind.mp run with ⟨t₁, found, t₂, rfl, first, later⟩ | ⟨e, rfl, first⟩
    · obtain ⟨quiet, looked⟩ := runs_scanTx first
      rw [actions_append, quiet, searchTxs]
      cases read : tx.getKey "hash" with
      | error e =>
        rw [read] at looked
        cases looked
      | ok txHash =>
        rw [read] at looked
        cases looked
        by_cases same : PyVal.eq txHash (.str target) = true
        · rw [if_pos same] at later
          cases later
          exact ⟨rfl, by simp [same]; rfl⟩
        · rw [if_neg same] at later
          obtain ⟨quiet', rfl⟩ := ih later
          exact ⟨quiet', by simp [same]⟩
    · obtain ⟨quiet, looked⟩ := runs_scanTx first
      rw [searchTxs]
      cases read : tx.getKey "hash" with
      | error e' =>
        rw [read] at looked
        cases looked
        exact ⟨quiet, rfl⟩
      | ok txHash =>
        rw [read] at looked
        cases looked

/-- One block is one question, and its answer decides. -/
theorem runs_scanBlock {h : Int} (run : Runs (scanBlock baseUrl target h) t r) :
    ∃ answer : Except PyError Response,
      actions t = [⟨.get (blockUrl baseUrl h true), answer⟩] ∧ r = searchPage target answer := by
  have page : ∀ {t : Talk} {r : Except PyError Value}, Runs (getBlockTxs baseUrl h) t r →
      ∃ answer : Except PyError Response, actions t = [⟨.get (blockUrl baseUrl h true), answer⟩] ∧
        r = decoded answer >>= fun d => d.getKey "transactions" := by
    intro t r run
    obtain ⟨r', asked, rfl⟩ := Prog.runs_bind_ofExcept.mp run
    obtain ⟨answer, acted, rfl⟩ := runs_getJson asked
    exact ⟨answer, acted, rfl⟩
  rcases Prog.runs_bind.mp run with ⟨t₁, txs, t₂, rfl, asked, rest⟩ | ⟨e, rfl, asked⟩
  · obtain ⟨answer, acted, read⟩ := page asked
    refine ⟨answer, ?_⟩
    obtain ⟨d, decodes, read⟩ := bind_eq_ok.mp read.symm
    have search : searchPage target answer = txs.iterate >>= searchTxs target := by
      rw [searchPage, decodes, ok_bind, read, ok_bind]
    obtain ⟨t', quiet, rest⟩ := runs_print_bind rest
    rw [actions_append, acted, quiet, search]
    rcases Prog.runs_ofExcept_bind.mp rest with ⟨items, iterates, looped⟩ | ⟨e, iterates, rfl, rfl⟩
    · obtain ⟨silent, rfl⟩ := runs_scanTxs looped
      rw [silent, iterates]
      exact ⟨rfl, rfl⟩
    · rw [iterates]
      exact ⟨rfl, rfl⟩
  · obtain ⟨answer, acted, read⟩ := page asked
    refine ⟨answer, acted, ?_⟩
    rw [searchPage]
    cases decodes : decoded answer with
    | error e' =>
      rw [decodes] at read
      cases read
      rfl
    | ok d =>
      rw [decodes, ok_bind] at read
      rw [ok_bind, ← read]
      rfl

/-- **What the scan answers.**  Whatever the node does, the blocks are asked for in
order, each looked through without the target before the next; the scan is `Found`
at the first block that holds it, and ends without it only after the last. -/
theorem scanFrom_runs (baseUrl target : String) (first endBlockHeight : Int) {t : Talk}
    {r : Except PyError Bool} (run : Runs (scanFrom baseUrl target first endBlockHeight) t r) :
    ∃ seen : List Response, (∀ page ∈ seen, page.Lacks target) ∧
      Scanned baseUrl target (pyRange first (endBlockHeight + 1)) seen (actions t) r := by
  obtain ⟨turns, rest, split, missed, finish⟩ :=
    runs_forUntil_look (fun h t r run => runs_scanBlock run) run
  have lacking : ∀ answer ∈ turns.map Prod.snd, searchPage target answer = .ok false := by
    intro answer mem
    obtain ⟨p, source, rfl⟩ := List.mem_map.mp mem
    exact missed p source
  obtain ⟨seen, same, lacks⟩ := exists_pages lacking
  have count := congrArg List.length same
  simp only [List.length_map] at count
  refine ⟨seen, lacks, ?_⟩
  rw [split]
  cases rest with
  | nil =>
    obtain ⟨rfl, acts⟩ := finish
    have acted := blockAsks_append baseUrl turns [] []
    rw [List.append_nil, List.append_nil, same] at acted
    rw [acts, List.append_nil, ← List.append_nil (List.flatMap _ _)]
    exact acted ▸ .missed (by simp [count])
  | cons h later =>
    obtain ⟨ended, answer, rfl, acts⟩ := finish
    have within : seen.length < (turns.map Prod.fst ++ h :: later).length := by
      simp [← count]
    have acted := blockAsks_append baseUrl turns (h :: later) [answer]
    rw [same] at acted
    have last : blockAsks baseUrl (h :: later) [answer] =
        [⟨.get (blockUrl baseUrl h true), answer⟩] := by simp [blockAsks]
    rw [acts, ← last, ← acted]
    cases looked : searchPage target answer with
    | error e => exact .failed answer e within looked
    | ok found =>
      cases found with
      | false => exact absurd looked ended
      | true =>
        obtain ⟨page, rfl, holds⟩ := searchPage_eq_true.mp looked
        exact .found page within holds

end Scan

/-- A block with one transaction. -/
def oneTransaction : Response where
  json := some (.dict [("transactions", .list [.dict [("hash", .str "0xdf33")]])])
  isDecoded := by
    rintro v ⟨⟩
    rfl

def oneTransactionNode : Still where
  net := nodeAnswering oneTransaction
  post _ _ := .ok oneTransaction
  now := 1700000001
  key := ⟨List.replicate 32 8, by simp⟩

theorem scanFrom_runs_oneTransaction : ∃ t,
    Runs (Session.scanFrom "https://rpc-testnet1.supra.com" "0xdf33" 637230 637232) t (.ok true) ∧
      ∃ seen : List Response, (∀ page ∈ seen, page.Lacks "0xdf33") ∧
        Scanned "https://rpc-testnet1.supra.com" "0xdf33" (pyRange 637230 (637232 + 1)) seen
          (actions t) (.ok true) := by
  obtain ⟨t, run, -⟩ := Prog.runs_eval oneTransactionNode.answers
    (Session.scanFrom "https://rpc-testnet1.supra.com" "0xdf33" 637230 637232)
  exact ⟨t, run, scanFrom_runs _ _ _ _ run⟩

end SupraFromScratch.Client
