/-
# Client.TransferLoop — one transfer after another

The script of `transfer_supra.py`: it sends the same transfer `repeat` times, and
waits each time for the transaction and its block before it goes on.  The waiting
gives up after 30 looks without saying so, but the block's time and height are
asked for right after, and a transaction in no block has neither.

`transferMain_oneAtATime`: whatever the node answers, there is never more than one
transaction of the script's that the node has accepted and not yet reported in a
block, and a run that ends well has submitted exactly `repeat` of them.
-/
import SupraFromScratch.Theory.Pending
import SupraFromScratch.Client.SendTx
import SupraFromScratch.Client.EntryFunc

namespace SupraFromScratch.Client

set_option autoImplicit false

open SupraFromScratch.Theory
open Prog (ofExcept Runs Asks)

/-! ## The script -/

def Sending.senderAddr {T A : Type} (s : Sending T A) : String :=
  s.wallet.sdk.addressStr s.senderAccount.accountAddress.bytes

namespace Session

section Script

variable {T A : Type}

/-- `create_transfer_supra_entry_func`. -/
def createTransferSupraEntryFunc (callSdk : CallSdk T Value) (baseUrl rcptAccountAddr : String)
    (amount : Int) : Session (EntryFunction T × Int) := do
  let maxGas := if ← accountExists baseUrl rcptAccountAddr then 10 else 1020
  let entryFunc ← ofExcept do
    let rcpt ← callSdk.fromStrRelaxed rcptAccountAddr
    createEntryFunc callSdk "supra_account" "transfer" [rcpt.toPy, .int amount]
      [callSdk.struct, callSdk.u64] (← defaultModuleAddr callSdk)
  return (entryFunc, maxGas)

variable (s : Sending T A) (recipientAddr : String)

/-- What a turn does once it has sent. -/
def followUp (senderBalanceBefore rcptBalanceBefore startTime : Int) (txHash : String) :
    Session Unit := do
  let submitTime ← time
  print [.text "Transaction submitted with hash: ", .text txHash]
  waitForTx s.py s.baseUrl txHash 30 1
  let blockTime := (← getTransactionBlockTime s.baseUrl txHash) / 1000000
  let currentTime ← time
  let blockHeight ← getTransactionBlockHeight s.baseUrl txHash
  let rnd ← getBlockRoundByHeight s.baseUrl blockHeight
  let previousRnd ← getBlockRoundByHeight s.baseUrl (blockHeight - 1)
  print [.text "Submission: ", .value (.int (submitTime - startTime)),
    .text "s, Pre-block: ", .value (.int (blockTime - submitTime)),
    .text "s, Block: ", .value (.int (currentTime - blockTime)),
    .text "s, Timeout rounds: ", .value (.int (rnd - previousRnd - 1))]
  let senderBalance ← getAccountSupraCoinBalance s.baseUrl s.senderAddr
  let rcptBalance ← getAccountSupraCoinBalance s.baseUrl recipientAddr
  print [.text "Sender: ", .value (.int (senderBalance - senderBalanceBefore)),
    .text ", Recipient: ", .value (.int (rcptBalance - rcptBalanceBefore))]

/-- One turn of the loop. -/
def transferTurn : Session Unit := do
  let senderBalanceBefore ← getAccountSupraCoinBalance s.baseUrl s.senderAddr
  let rcptBalanceBefore ← getAccountSupraCoinBalance s.baseUrl recipientAddr
  let startTime ← time
  let txHash ← s.session
  followUp s recipientAddr senderBalanceBefore rcptBalanceBefore startTime txHash

/-- The loop. -/
def transferLoop (repeats : Int) : Session Unit := do
  let _ ← Prog.forUntil (fun _ => do transferTurn s recipientAddr; return false)
    (List.range repeats.toNat)

end Script

/-- The script. -/
def transferMain {T A : Type} (py : PyStr) (wallet : Wallet T A) (callSdk : CallSdk T Value)
    (sha3_256 : Bytes → Bytes) (baseUrl : String) (senderAccount : Account)
    (recipientAddr : String) (amount repeats : Int) : Session Unit := do
  let senderAddr := wallet.sdk.addressStr senderAccount.accountAddress.bytes
  print [.text "Transferring ", .value (.int amount), .text " quants from ", .text senderAddr,
    .text " to ", .text recipientAddr, .text "."]
  let (entryFunc, maxGas) ← createTransferSupraEntryFunc callSdk baseUrl recipientAddr amount
  transferLoop
    { py, wallet, sha3_256, baseUrl, senderAccount, payloadContent := .entryFunction entryFunc,
      maxGas, gasPrice := 100 } recipientAddr repeats

end Session

/-! ## Sessions that only read -/

def Ask.IsQuiet (ask : Ask) : Prop := ask.posted = none

/-- Nothing is posted, whatever the answers. -/
def ReadsOnly {α : Type} (p : Session α) : Prop := Asks Ask.IsQuiet p

theorem readsOnly_ask {α : Type} (ask : Ask) (quiet : ask.IsQuiet)
    {next : ask.Answer → Session α} (rest : ∀ a, ReadsOnly (next a)) :
    ReadsOnly (Prog.ask ask next) :=
  Prog.asks_ask Ask.IsQuiet quiet rest

namespace Session

theorem readsOnly_print (line : List Piece) : ReadsOnly (print line) :=
  readsOnly_ask (.print line) rfl fun _ => Prog.asks_pure ()

theorem readsOnly_time : ReadsOnly time := readsOnly_ask .time rfl fun now => Prog.asks_pure now

theorem readsOnly_sleep (seconds : Int) : ReadsOnly (sleep seconds) := by
  unfold sleep
  split
  · exact Prog.asks_ofExcept (.error _)
  · exact readsOnly_ask (.sleep seconds) rfl fun _ => Prog.asks_pure ()

theorem readsOnly_getJson (url : String) : ReadsOnly (getJson url) := by
  have asked : ReadsOnly (requestsGet url) :=
    readsOnly_ask (.get url) rfl fun answer => Prog.asks_ofExcept answer
  refine asked.bind fun resp => ?_
  unfold decode
  cases resp.json with
  | some v => exact Prog.asks_pure v
  | none => exact (readsOnly_print _).bind fun _ => Prog.asks_pure _

section Functions

variable (py : PyStr) (baseUrl : String)

theorem readsOnly_accountExists (addr : String) : ReadsOnly (accountExists baseUrl addr) :=
  (readsOnly_getJson _).bind fun _ => Prog.asks_pure _

theorem readsOnly_getAccountSupraCoinBalance (addr : String) :
    ReadsOnly (getAccountSupraCoinBalance baseUrl addr) := by
  have resource : ReadsOnly (getResourceData baseUrl addr SUPRA_COIN_STORE) :=
    (readsOnly_getJson _).bind fun _ => (Prog.asks_ofExcept _).bind fun _ => Prog.asks_ofExcept _
  refine (readsOnly_accountExists baseUrl addr).bind fun found => ?_
  cases found with
  | false => exact Prog.asks_pure 0
  | true => exact resource.bind fun _ => (Prog.asks_ofExcept _).bind fun _ =>
      (Prog.asks_ofExcept _).bind fun _ => Prog.asks_ofExcept _

theorem readsOnly_getTransactionBlockTime (txHash : String) :
    ReadsOnly (getTransactionBlockTime baseUrl txHash) :=
  (readsOnly_getJson _).bind fun _ => Prog.asks_ofExcept _

theorem readsOnly_getTransactionBlockHeight (txHash : String) :
    ReadsOnly (getTransactionBlockHeight baseUrl txHash) :=
  (readsOnly_getJson _).bind fun _ => Prog.asks_ofExcept _

theorem readsOnly_getBlockRoundByHeight (height : Int) :
    ReadsOnly (getBlockRoundByHeight baseUrl height) :=
  (readsOnly_getJson _).bind fun _ => Prog.asks_ofExcept _

theorem readsOnly_showStatus (txHash label : String) :
    ReadsOnly (showStatus py baseUrl txHash label) :=
  ((readsOnly_getJson _).bind fun _ => Prog.asks_pure _).bind fun _ =>
    (readsOnly_print _).bind fun _ => Prog.asks_pure _

theorem readsOnly_waitForTx (txHash : String) (repeats intervalSec : Int) (checkFirst : Bool) :
    ReadsOnly (waitForTx py baseUrl txHash repeats intervalSec checkFirst) := by
  have turn : ∀ i, ReadsOnly (waitTurn py baseUrl txHash intervalSec i) := fun i =>
    (readsOnly_sleep _).bind fun _ => readsOnly_showStatus py baseUrl txHash _
  have looped : ReadsOnly (do
      let _ ← Prog.forUntil (waitTurn py baseUrl txHash intervalSec) (List.range repeats.toNat)
      return ()) := (Asks.forUntil turn _).bind fun _ => Prog.asks_pure ()
  cases checkFirst with
  | false => exact looped
  | true =>
    refine (readsOnly_showStatus py baseUrl txHash _).bind fun found => ?_
    cases found with
    | true => exact Prog.asks_pure ()
    | false => exact looped

end Functions

end Session

/-! ## Transactions in flight -/

section InFlight

variable (py : PyStr) (baseUrl : String)

/-- A submission, as the hash that is answered. -/
def submits : Event Ask Ask.Answer → Option (Except PyError String)
  | ⟨.post url _, answer⟩ =>
      if url = submitUrl baseUrl then some ((decoded answer).map py.str) else none
  | _ => none

/-- The node answers for a transaction with the block it is in. -/
def reports : Event Ask Ask.Answer → Except PyError String → Bool
  | ⟨.get url, answer⟩, .ok txHash =>
      decide (url = transactionUrl baseUrl txHash) && (decoded answer >>= readBlockHeight).isOk
  | _, _ => false

/-- What was submitted and is not yet reported in a block. -/
def inFlight (acts : Talk) : List (Except PyError String) :=
  Pending.pending (submits py baseUrl) (reports baseUrl) acts

def submissions (acts : Talk) : List (Except PyError String) :=
  Pending.opened (submits py baseUrl) acts

/-- A turn submits at most once, and one that is finished has seen the block. -/
def Turns (p : Session Unit) : Prop :=
  ∀ t r, Runs p t r → Pending.OpensOnce (submits py baseUrl) (actions t) ∧
    (r = .ok () → Pending.Settles (submits py baseUrl) (reports baseUrl) (actions t))

variable {py baseUrl}

theorem submits_of_quiet {event : Event Ask Ask.Answer} (quiet : event.question.IsQuiet) :
    submits py baseUrl event = none := by
  obtain ⟨ask, answer⟩ := event
  cases ask with
  | post url d => cases quiet
  | _ => rfl

theorem ReadsOnly.opensNone {α : Type} {p : Session α} (quiet : ReadsOnly p) {t : Talk}
    {r : Except PyError α} (run : Runs p t r) :
    Pending.OpensNone (submits py baseUrl) (actions t) := by
  intro event mem
  exact submits_of_quiet (quiet t r run event (List.mem_of_mem_filter mem))

theorem Turns.bind_quiet {α : Type} {p : Session α} {f : α → Session Unit} (quiet : ReadsOnly p)
    (rest : ∀ a, Turns py baseUrl (f a)) : Turns py baseUrl (p >>= f) := by
  intro t r run
  rcases Prog.runs_bind.mp run with ⟨t₁, a, t₂, rfl, first, second⟩ | ⟨e, rfl, first⟩
  · obtain ⟨once, settles⟩ := rest a t₂ r second
    rw [actions_append]
    exact ⟨once.cons_quiet (quiet.opensNone first),
      fun ok => (settles ok).cons_quiet (quiet.opensNone first)⟩
  · exact ⟨Or.inl (quiet.opensNone first), fun ok => by cases ok⟩

/-- A sending submits last, and answers the hash of what it submitted. -/
theorem Sending.Sent.submits_cases {T A : Type} {s : Sending T A} {acts : Talk}
    {r : Except PyError String} (sent : s.Sent acts r) :
    (Pending.OpensNone (submits s.py s.baseUrl) acts ∧ ∃ e, r = .error e) ∨
      ∃ before event, acts = before ++ [event] ∧
        Pending.OpensNone (submits s.py s.baseUrl) before ∧
          submits s.py s.baseUrl event = some r := by
  have simulated : ∀ d answer,
      submits s.py s.baseUrl ⟨.post (simulateUrl s.baseUrl) d, answer⟩ = none := fun d answer =>
    if_neg (Ne.symm (Sending.submitUrl_ne_simulateUrl s.baseUrl))
  cases sent with
  | noAccount account e unread => exact Or.inl ⟨by simp [submits], e, rfl⟩
  | noChainId account seq read now chain e unread => exact Or.inl ⟨by simp [submits], e, rfl⟩
  | unsigned o key e raises => exact Or.inl ⟨by simp [submits, opened], e, rfl⟩
  | notSimulated o key body signed encoded e =>
    refine Or.inl ⟨?_, e, rfl⟩
    simp only [opened, List.cons_append, List.nil_append, Pending.opensNone_cons, simulated]
    simp [submits]
  | submitted o key body body' signed signed' encoded simulation answer =>
    refine Or.inr ⟨s.opened o ++ [⟨.randomKey, key⟩,
      ⟨.post (simulateUrl s.baseUrl) body, .ok simulation⟩],
      ⟨.post (submitUrl s.baseUrl) body', answer⟩, by simp, ?_, if_pos rfl⟩
    simp only [opened, List.cons_append, List.nil_append, Pending.opensNone_cons, simulated]
    simp [submits]

/-- A session that returns has been told that the transaction is in a block. -/
def LearnsBlock (baseUrl txHash : String) {α : Type} (p : Session α) : Prop :=
  ∀ t a, Runs p t (.ok a) → ∃ event ∈ actions t, reports baseUrl event (.ok txHash) = true

section Learns

variable {txHash : String} {α β : Type} {p : Session α} {f : α → Session β}

theorem LearnsBlock.bind (learns : LearnsBlock baseUrl txHash p) :
    LearnsBlock baseUrl txHash (p >>= f) := by
  intro t b run
  rcases Prog.runs_bind.mp run with ⟨t₁, a, t₂, rfl, first, -⟩ | ⟨e, raised, -⟩
  · obtain ⟨event, mem, told⟩ := learns t₁ a first
    exact ⟨event, by rw [actions_append]; exact List.mem_append_left _ mem, told⟩
  · cases raised

theorem LearnsBlock.after (learns : ∀ a, LearnsBlock baseUrl txHash (f a)) :
    LearnsBlock baseUrl txHash (p >>= f) := by
  intro t b run
  rcases Prog.runs_bind.mp run with ⟨t₁, a, t₂, rfl, -, second⟩ | ⟨e, raised, -⟩
  · obtain ⟨event, mem, told⟩ := learns a t₂ b second
    exact ⟨event, by rw [actions_append]; exact List.mem_append_right _ mem, told⟩
  · cases raised

end Learns

theorem Session.learnsBlock_getTransactionBlockHeight (baseUrl txHash : String) :
    LearnsBlock baseUrl txHash (getTransactionBlockHeight baseUrl txHash) := by
  intro t height run
  obtain ⟨r, asked, read⟩ := Prog.runs_bind_ofExcept.mp run
  obtain ⟨answer, acted, rfl⟩ := runs_getJson asked
  refine ⟨_, by rw [acted]; exact List.mem_cons_self, ?_⟩
  simp [reports, ← read]
  rfl

section Turn

variable {T A : Type} (s : Sending T A) (recipientAddr : String)

open Session

theorem Session.readsOnly_followUp (senderBefore rcptBefore startTime : Int) (txHash : String) :
    ReadsOnly (followUp s recipientAddr senderBefore rcptBefore startTime txHash) := by
  refine readsOnly_time.bind fun submitTime => (readsOnly_print _).bind fun _ => ?_
  refine (readsOnly_waitForTx _ _ _ _ _ _).bind fun _ => ?_
  refine (readsOnly_getTransactionBlockTime _ _).bind fun _ => readsOnly_time.bind fun _ => ?_
  refine (readsOnly_getTransactionBlockHeight _ _).bind fun blockHeight => ?_
  refine (readsOnly_getBlockRoundByHeight _ _).bind fun rnd => ?_
  refine (readsOnly_getBlockRoundByHeight _ _).bind fun previousRnd => ?_
  refine (readsOnly_print _).bind fun _ => ?_
  refine (readsOnly_getAccountSupraCoinBalance _ _).bind fun senderBalance => ?_
  exact (readsOnly_getAccountSupraCoinBalance _ _).bind fun rcptBalance => readsOnly_print _

theorem Session.learnsBlock_followUp (senderBefore rcptBefore startTime : Int) (txHash : String) :
    LearnsBlock s.baseUrl txHash
      (followUp s recipientAddr senderBefore rcptBefore startTime txHash) := by
  refine .after fun submitTime => .after fun _ => .after fun _ => .after fun _ => .after fun _ => ?_
  exact (learnsBlock_getTransactionBlockHeight s.baseUrl txHash).bind

theorem Session.turns_transferTurn : Turns s.py s.baseUrl (transferTurn s recipientAddr) := by
  refine .bind_quiet (readsOnly_getAccountSupraCoinBalance _ _) fun senderBefore => ?_
  refine .bind_quiet (readsOnly_getAccountSupraCoinBalance _ _) fun rcptBefore => ?_
  refine .bind_quiet readsOnly_time fun startTime => ?_
  intro t r run
  rcases Prog.runs_bind.mp run with ⟨t₁, txHash, t₂, rfl, sending, later⟩ | ⟨e, rfl, sending⟩
  · have quiet : Pending.OpensNone (submits s.py s.baseUrl) (actions t₂) :=
      (readsOnly_followUp s recipientAddr senderBefore rcptBefore startTime txHash).opensNone later
    rcases (s.sent_of_runs sending).submits_cases with ⟨-, e, raised⟩ |
      ⟨before, event, acted, quiet', opening⟩
    · cases raised
    · rw [actions_append, acted, List.append_assoc]
      refine ⟨Or.inr ⟨before, event, _, _, rfl, quiet', opening, quiet⟩, ?_⟩
      rintro rfl
      exact ⟨before, event, _, _, rfl, quiet', opening, quiet,
        learnsBlock_followUp s recipientAddr senderBefore rcptBefore startTime txHash t₂ () later⟩
  · refine ⟨?_, fun ok => by cases ok⟩
    rcases (s.sent_of_runs sending).submits_cases with ⟨quiet, -⟩ |
      ⟨before, event, acted, quiet, opening⟩
    · exact Or.inl quiet
    · exact Or.inr ⟨before, event, _, [], acted, quiet, opening, Pending.opensNone_nil⟩

/-- What the loop has done so far. -/
structure Loops (py : PyStr) (baseUrl : String) (repeats : Int) (acts : Talk)
    (r : Except PyError Unit) : Prop where
  oneAtATime : ∀ moment, moment <+: acts → (inFlight py baseUrl moment).length ≤ 1
  atMost : (submissions py baseUrl acts).length ≤ repeats.toNat
  finished : r = .ok () →
    (submissions py baseUrl acts).length = repeats.toNat ∧ inFlight py baseUrl acts = []

theorem Loops.cons_quiet {py : PyStr} {baseUrl : String} {repeats : Int} {acts acts' : Talk}
    {r : Except PyError Unit} (quiet : Pending.OpensNone (submits py baseUrl) acts)
    (loops : Loops py baseUrl repeats acts' r) : Loops py baseUrl repeats (acts ++ acts') r := by
  have same : submissions py baseUrl (acts ++ acts') = submissions py baseUrl acts' := by
    have none : acts.filterMap (submits py baseUrl) = [] := quiet.opened_eq
    rw [submissions, Pending.opened, List.filterMap_append, none]
    rfl
  refine ⟨Pending.OneAtATime.cons_quiet quiet loops.oneAtATime, same ▸ loops.atMost, fun ok => ?_⟩
  rw [same, inFlight, Pending.pending_append quiet]
  exact loops.finished ok

/-- A turn of the loop, which never breaks. -/
theorem Session.turn_of_runs {t : Talk} {r : Except PyError Bool}
    (run : Runs (do transferTurn s recipientAddr; return false) t r) :
    Pending.OpensOnce (submits s.py s.baseUrl) (actions t) ∧
      (r = .ok false → Pending.Settles (submits s.py s.baseUrl) (reports s.baseUrl) (actions t)) ∧
        (r ≠ .ok false → ∃ e, r = .error e) := by
  obtain ⟨r', turned, rfl⟩ := Prog.runs_bind_pure.mp run
  obtain ⟨once, settles⟩ := turns_transferTurn s recipientAddr t r' turned
  cases r' with
  | error e =>
    refine ⟨once, ?_, fun _ => ⟨e, rfl⟩⟩
    intro ok
    cases ok
  | ok u => exact ⟨once, fun _ => settles rfl, fun other => absurd rfl other⟩

theorem Session.loops_transferLoop (repeats : Int) {t : Talk} {r : Except PyError Unit}
    (run : Runs (transferLoop s recipientAddr repeats) t r) :
    Loops s.py s.baseUrl repeats (actions t) r := by
  obtain ⟨r', looped, rfl⟩ := Prog.runs_bind_pure.mp run
  obtain ⟨rounds, rest, last, split, rfl, through, ended⟩ := Prog.runs_forUntil.mp looped
  have settle : ∀ acts ∈ rounds.map fun p => actions p.2,
      Pending.Settles (submits s.py s.baseUrl) (reports s.baseUrl) acts := by
    intro acts mem
    obtain ⟨p, found, rfl⟩ := List.mem_map.mp mem
    exact (turn_of_runs s recipientAddr (through p found)).2.1 rfl
  have acted : actions ((rounds.map Prod.snd).flatten ++ last) =
      (rounds.map fun p => actions p.2).flatten ++ actions last := by
    rw [actions_append, actions_flatten, List.map_map]
    rfl
  have turns : repeats.toNat = rounds.length + rest.length := by
    have := congrArg List.length split
    simpa using this
  have opened := Pending.length_opened settle
  rw [List.length_map] at opened
  rw [acted]
  cases rest with
  | nil =>
    obtain ⟨rfl, rfl⟩ := ended
    rw [actions_nil, List.append_nil]
    have all : (submissions s.py s.baseUrl (rounds.map fun p => actions p.2).flatten).length =
        repeats.toNat := by
      rw [submissions, opened, turns]
      rfl
    refine ⟨?_, le_of_eq all, fun _ => ⟨all, Pending.pending_flatten settle⟩⟩
    have never := Pending.oneAtATime settle (Or.inl Pending.opensNone_nil)
    rwa [List.append_nil] at never
  | cons x later =>
    obtain ⟨broke, stopped⟩ := ended
    obtain ⟨once, -, raised⟩ := turn_of_runs s recipientAddr stopped
    obtain ⟨e, rfl⟩ := raised broke
    refine ⟨Pending.oneAtATime settle once, ?_, fun ok => by cases ok⟩
    have one := once.length_opened
    rw [submissions, Pending.opened, List.filterMap_append, List.length_append]
    rw [Pending.opened] at opened one
    rw [List.length_cons] at turns
    omega

/-- **One transfer at a time.**  Whatever the node, the clock and the key generator
answer, the script never has two transactions that the node accepted and has not
reported in a block; it submits at most `repeat`, and exactly as many, all of them
reported, if it comes to its end. -/
theorem transferMain_oneAtATime {T A : Type} (py : PyStr) (wallet : Wallet T A)
    (callSdk : CallSdk T Value) (sha3_256 : Bytes → Bytes) (baseUrl : String)
    (senderAccount : Account) (recipientAddr : String) (amount repeats : Int) {t : Talk}
    {r : Except PyError Unit}
    (run : Runs (Session.transferMain py wallet callSdk sha3_256 baseUrl senderAccount
      recipientAddr amount repeats) t r) : Loops py baseUrl repeats (actions t) r := by
  obtain ⟨t', acted, run'⟩ := runs_print_bind run
  rw [acted]
  have quiet : ReadsOnly
      (Session.createTransferSupraEntryFunc callSdk baseUrl recipientAddr amount) :=
    (readsOnly_accountExists _ _).bind fun _ => (Prog.asks_ofExcept _).bind fun _ =>
      Prog.asks_pure _
  rcases Prog.runs_bind.mp run' with ⟨t₁, call, t₂, rfl, creating, looping⟩ | ⟨e, rfl, creating⟩
  · rw [actions_append]
    exact (loops_transferLoop _ recipientAddr repeats looping).cons_quiet (quiet.opensNone creating)
  · have nothing : Pending.OpensNone (submits py baseUrl) (actions t') := quiet.opensNone creating
    refine ⟨(Pending.OpensOnce.oneAtATime (Or.inl nothing)), ?_, fun ok => by cases ok⟩
    rw [submissions, nothing.opened_eq]
    exact Nat.zero_le _

end Turn

end InFlight

/-! ### Two transfers of 20 quants -/

/-- The pages of an account, its coins, a transaction and a block, as one. -/
def everyPage : Response := answering (.dict [("sequence_number", .int 1),
  ("result", .list [.dict [("coin", .dict [("value", .str "1000000")])]]),
  ("status", .str "Success"),
  ("block_header", .dict [("height", .int 637231),
    ("timestamp", .dict [("microseconds_since_unix_epoch", .int 1700000000000000)])]),
  ("header", .dict [("view", .dict [("round", .int 700000)])])]) (by decide)

/-- A node that has every transaction in a block at once. -/
def promptNode : Still where
  net :=
    { get := fun url => .ok (if url = chainIdUrl sampleSending.baseUrl
        then chainSix else everyPage) }
  post := sampleNode.post
  now := sampleNode.now
  key := sampleNode.key

def sampleTransfers (repeats : Int) : Session Unit :=
  Session.transferMain samplePy sampleWallet plainCalls sampleSaltSha3 sampleSending.baseUrl
    sampleSending.senderAccount "0xb8" 20 repeats

theorem sampleTransfers_eval :
    ((sampleTransfers 2).eval promptNode.answers).isOk = true := by
  decide +kernel

theorem transferMain_oneAtATime_twice : ∃ t, Runs (sampleTransfers 2) t (.ok ()) ∧
    Loops samplePy sampleSending.baseUrl 2 (actions t) (.ok ()) := by
  have returns := sampleTransfers_eval
  obtain ⟨t, run, -⟩ := Prog.runs_eval promptNode.answers (sampleTransfers 2)
  cases ended : (sampleTransfers 2).eval promptNode.answers with
  | error e =>
    rw [ended] at returns
    cases returns
  | ok u =>
    rw [ended] at run
    exact ⟨t, run, transferMain_oneAtATime samplePy sampleWallet plainCalls sampleSaltSha3
      sampleSending.baseUrl sampleSending.senderAccount "0xb8" 20 2 run⟩

end SupraFromScratch.Client
