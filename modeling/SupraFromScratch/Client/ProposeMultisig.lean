/-
# Client.ProposeMultisig — proposing a transfer, and finding the proposal

`propose_multisig_tx.py`.  It computes the multisig account's address from the
proposer's, proposes the hash of a transfer, and reads the proposal's number out of
the events of its own transaction.

* `computeMultisigAccountAddr_eq_iff` — one address is one owner and one number.
* `readSequenceNumber_eq_ok_iff` — the number is the first creation event's, of a
  transaction the node calls a success.
* `proposeMain_runs` — what is posted proposes the transfer's hash for that
  address, and a script that comes to its end was told the number it prints for
  the transaction it submitted.
-/
import SupraFromScratch.Client.MultisigScripts
import SupraFromScratch.Client.MultisigProposal
import SupraFromScratch.Client.Airdrop

namespace SupraFromScratch.Client

set_option autoImplicit false

open SupraFromScratch.Theory
open Prog (ofExcept Runs Asks)

/-! ## The address of a multisig account -/

section Address

variable {T : Type} (callSdk : CallSdk T Value)
  (forResourceAccount : AccountAddress → Bytes → AccountAddress)

/-- `compute_multisig_account_addr`. -/
def computeMultisigAccountAddr (accountOwnerAddr : String) (sequenceNumber : Int) :
    Except PyError AccountAddress := do
  let u64 ← (TransactionArgument.mk (.int sequenceNumber) callSdk.u64).encode
  let multisigAccountSeed := Bcs.utf8 "supra_framework::multisig_account" ++ u64
  let ownerAccount ← callSdk.fromStrRelaxed accountOwnerAddr
  return forResourceAccount ownerAccount multisigAccountSeed

/-- What is hashed to the address. -/
def multisigAddressPreimage (owner : AccountAddress) (sequenceNumber : Nat) : Bytes :=
  owner.bytes ++ (Bcs.utf8 "supra_framework::multisig_account" ++ Bcs.le 8 sequenceNumber) ++ [255]

theorem multisigAddressPreimage_inj {owner owner' : AccountAddress} {n n' : Nat}
    (fits : n < 2 ^ 64) (fits' : n' < 2 ^ 64) :
    multisigAddressPreimage owner n = multisigAddressPreimage owner' n' ↔
      owner = owner' ∧ n = n' := by
  constructor
  · intro same
    obtain ⟨front, -⟩ := List.append_inj' same rfl
    obtain ⟨owners, seeds⟩ :=
      List.append_inj front (by rw [owner.length_bytes, owner'.length_bytes])
    refine ⟨AccountAddress.ext owners, ?_⟩
    exact (Bcs.le_inj fits fits').mp (List.append_cancel_left seeds)
  · rintro ⟨rfl, rfl⟩
    rfl

variable {callSdk forResourceAccount}

theorem computeMultisigAccountAddr_eq_ok_iff (layout : callSdk.Layout) {accountOwnerAddr : String}
    {n : Nat} (fits : n < 2 ^ 64) {a : AccountAddress} :
    computeMultisigAccountAddr callSdk forResourceAccount accountOwnerAddr n = .ok a ↔
      ∃ owner, callSdk.fromStrRelaxed accountOwnerAddr = .ok owner ∧
        a = forResourceAccount owner
          (Bcs.utf8 "supra_framework::multisig_account" ++ Bcs.le 8 n) := by
  rw [computeMultisigAccountAddr, (layout.u64 n fits).encode, ok_bind, bind_eq_ok]
  refine exists_congr fun owner => and_congr_right fun _ => ?_
  exact ⟨fun h => (Except.ok.inj h).symm, fun h => h ▸ rfl⟩

/-- **One address, one owner, one number.**  Where the hash does not collide on
these two, two texts and two numbers give one multisig address only if the texts
read as one owner and the numbers are the same. -/
theorem computeMultisigAccountAddr_eq_iff (layout : callSdk.Layout) (sha3_256 : Bytes → Bytes)
    (resource : ∀ creator seed,
      (forResourceAccount creator seed).bytes = sha3_256 (creator.bytes ++ seed ++ [255]))
    {text text' : String} {n n' : Nat} (fits : n < 2 ^ 64) (fits' : n' < 2 ^ 64)
    {a a' owner owner' : AccountAddress}
    (read : callSdk.fromStrRelaxed text = .ok owner)
    (read' : callSdk.fromStrRelaxed text' = .ok owner')
    (noCollision : sha3_256 (multisigAddressPreimage owner n) =
        sha3_256 (multisigAddressPreimage owner' n') →
      multisigAddressPreimage owner n = multisigAddressPreimage owner' n')
    (computed : computeMultisigAccountAddr callSdk forResourceAccount text n = .ok a)
    (computed' : computeMultisigAccountAddr callSdk forResourceAccount text' n' = .ok a') :
    a = a' ↔ owner = owner' ∧ n = n' := by
  have hashed : ∀ {text n a owner}, n < 2 ^ 64 → callSdk.fromStrRelaxed text = .ok owner →
      computeMultisigAccountAddr callSdk forResourceAccount text (n : Nat) = .ok a →
      a.bytes = sha3_256 (multisigAddressPreimage owner n) := by
    intro text n a owner fits read computed
    obtain ⟨owner', read', rfl⟩ := (computeMultisigAccountAddr_eq_ok_iff layout fits).mp computed
    cases read.symm.trans read'
    rw [resource]
    rfl
  rw [← multisigAddressPreimage_inj fits fits']
  constructor
  · intro same
    apply noCollision
    rw [← hashed fits read computed, ← hashed fits' read' computed', same]
  · intro same
    apply AccountAddress.ext
    rw [hashed fits read computed, hashed fits' read' computed', same]

namespace PhraseScripts

/-- The second multisig account of the phrase's first account. -/
def secondMultisigAddr : AccountAddress :=
  ⟨[236, 146, 252, 14, 9, 210, 131, 160, 124, 74, 187, 82, 236, 164, 251, 90, 206, 189, 55, 124,
   38, 196, 195, 188, 121, 48, 189, 39, 173, 126, 227, 208], rfl⟩

def owner : AccountAddress := SamplePhrase.addresses.headD multisigAddr

/-- SHA3-256 on what these two addresses are made of. -/
def addressSha3 (bytes : Bytes) : Bytes :=
  if bytes = multisigAddressPreimage owner 1 then multisigAddr.bytes else secondMultisigAddr.bytes

def resourceAccount (creator : AccountAddress) (seed : Bytes) : AccountAddress :=
  if creator.bytes ++ seed ++ [255] = multisigAddressPreimage owner 1 then multisigAddr
  else secondMultisigAddr

theorem bytes_resourceAccount (creator : AccountAddress) (seed : Bytes) :
    (resourceAccount creator seed).bytes = addressSha3 (creator.bytes ++ seed ++ [255]) :=
  apply_ite AccountAddress.bytes _ _ _

theorem fromStrRelaxed_owner :
    plainCalls.fromStrRelaxed
      "0xeb663b681209e7087d681c5d3eed12aaa8e1915e7c87794542c3f96e94b3d3bf" = .ok owner := by
  decide +kernel

end PhraseScripts

open PhraseScripts in
theorem computeMultisigAccountAddr_eq_iff_phrase :
    multisigAddr = secondMultisigAddr ↔ owner = owner ∧ 1 = 2 :=
  computeMultisigAccountAddr_eq_iff plainCalls_layout addressSha3 bytes_resourceAccount
    (by decide) (by decide) fromStrRelaxed_owner fromStrRelaxed_owner (by decide +kernel)
    ((computeMultisigAccountAddr_eq_ok_iff plainCalls_layout (by decide)).mpr
      ⟨owner, fromStrRelaxed_owner, by decide +kernel⟩)
    ((computeMultisigAccountAddr_eq_ok_iff plainCalls_layout (by decide)).mpr
      ⟨owner, fromStrRelaxed_owner, by decide +kernel⟩)

end Address

/-! ## The proposal -/

/-- `create_propose_multisig_tx_entry_func`. -/
def createProposeMultisigTxEntryFunc {T : Type} (sdk : CallSdk T Value)
    (multisigAccountAddress : AccountAddress) (multisigTransactionPayloadHash : Bytes) :
    Except PyError (EntryFunction T) := do
  createEntryFunc sdk "multisig_account" "create_transaction_with_hash"
    [multisigAccountAddress.toPy, .bytes multisigTransactionPayloadHash] [sdk.struct, sdk.toBytes]
    (← defaultModuleAddr sdk)

/-- The call that proposes a hash. -/
def proposalCall {T : Type} (multisigAddr : AccountAddress) (hash : Bytes) : EntryFunction T where
  module := ⟨smallAddress 1, "multisig_account"⟩
  function := "create_transaction_with_hash"
  tyArgs := []
  args := [multisigAddr.bytes, Bcs.writeBytes hash]

theorem createProposeMultisigTxEntryFunc_eq {T : Type} {sdk : CallSdk T Value}
    (doc : sdk.Documented) (layout : sdk.Layout)
    (one : defaultModuleAddr sdk = .ok (smallAddress 1)) (a : AccountAddress) (hash : Bytes) :
    createProposeMultisigTxEntryFunc sdk a hash = .ok (proposalCall a hash) := by
  rw [createProposeMultisigTxEntryFunc, one, ok_bind]
  apply (createEntryFunc_eq_ok_iff doc (by decide)).mpr
  refine ⟨by simp, rfl, rfl, rfl, ?_⟩
  exact .cons (layout.struct a).encode (.cons (layout.toBytes hash).encode .nil)

/-- A transfer of coins. -/
def transferCall {T : Type} (rcpt : AccountAddress) (amount : Nat) : EntryFunction T where
  module := ⟨smallAddress 1, "supra_account"⟩
  function := "transfer"
  tyArgs := []
  args := [rcpt.bytes, Bcs.le 8 amount]

theorem transferCall_inj {T : Type} {rcpt rcpt' : AccountAddress} {amount amount' : Nat}
    (fits : amount < 2 ^ 64) (fits' : amount' < 2 ^ 64) :
    (transferCall rcpt amount : EntryFunction T) = transferCall rcpt' amount' ↔
      rcpt = rcpt' ∧ amount = amount' := by
  simp only [transferCall, EntryFunction.mk.injEq, List.cons.injEq, true_and, and_true]
  rw [Bcs.le_inj fits fits']
  exact and_congr_left fun _ => ⟨AccountAddress.ext, fun same => same ▸ rfl⟩

/-- What `create_transfer_supra_entry_func` returns, whatever it is told of the
recipient. -/
theorem returns_createTransferSupraEntryFunc {T : Type} {sdk : CallSdk T Value}
    (doc : sdk.Documented) (layout : sdk.Layout)
    (one : defaultModuleAddr sdk = .ok (smallAddress 1)) {baseUrl rcptAccountAddr : String}
    {amount : Nat} (fits : amount < 2 ^ 64) {t : Talk} {call : EntryFunction T × Int}
    (run : Runs (Session.createTransferSupraEntryFunc sdk baseUrl rcptAccountAddr amount) t
      (.ok call)) :
    ∃ rcpt, sdk.fromStrRelaxed rcptAccountAddr = .ok rcpt ∧ call.1 = transferCall rcpt amount ∧
      (call.2 = 10 ∨ call.2 = 1020) := by
  obtain ⟨t₁, found, t₂, rfl, -, run⟩ := Prog.runs_bind_ok.mp run
  obtain ⟨t₃, entryFunc, t₄, -, built, run⟩ := Prog.runs_bind_ok.mp run
  obtain ⟨-, built⟩ := Prog.runs_ofExcept.mp built
  obtain ⟨-, returned⟩ := Prog.runs_pure.mp run
  cases returned
  obtain ⟨rcpt, read, made⟩ := bind_eq_ok.mp built.symm
  have limits : (if found = true then (10 : Int) else 1020) = 10 ∨
      (if found = true then (10 : Int) else 1020) = 1020 := by
    cases found <;> simp
  refine ⟨rcpt, read, ?_, limits⟩
  rw [one, ok_bind] at made
  have encoded : (createEntryFunc sdk "supra_account" "transfer" [rcpt.toPy, .int amount]
      [sdk.struct, sdk.u64] (smallAddress 1)) = .ok (transferCall rcpt amount) := by
    apply (createEntryFunc_eq_ok_iff doc (by decide)).mpr
    refine ⟨by simp, rfl, rfl, rfl, ?_⟩
    exact .cons (layout.struct rcpt).encode (.cons (layout.u64 amount fits).encode .nil)
  exact Except.ok.inj (made.symm.trans encoded)

/-! ## The number of a proposal -/

def CREATE_TRANSACTION_EVENT : String := "0x1::multisig_account::CreateTransactionEvent"

/-- The events of a transaction. -/
def readEvents (txData : Value) : Except PyError (List Value) := do
  let output ← txData.getKey "output"
  let move ← output.getKey "Move"
  (← move.getKey "events").iterate

def isCreation : Value → Except PyError Bool := hasText "type" CREATE_TRANSACTION_EVENT

/-- The number in a creation event. -/
def readCreated (event : Value) : Except PyError Int := do
  let data ← event.getKey "data"
  (← data.getKey "sequence_number").toInt

/-- The loop over the events. -/
def findSequenceNumber (events : List Value) : Except PyError Int :=
  PyVal.findFirst isCreation readCreated (.error (.exception "something went wrong")) events

/-- What `get_multisig_tx_sequence_from_tx_hash` reads. -/
def readSequenceNumber (txData : Value) : Except PyError Int := do
  if !isSuccess (← txData.getKey "status") then
    throw (.exception "transaction is not successfully executed")
  findSequenceNumber (← readEvents txData)

/-- `get_multisig_tx_sequence_from_tx_hash`, whose URL is a global of the script:
a caller from another module has none. -/
def Session.getMultisigTxSequenceFromTxHash (baseUrl : Option String) (txHash : String) :
    Session Int :=
  match baseUrl with
  | none => .raise (.nameError "base_url")
  | some baseUrl => do
    let txData ← getJson (transactionUrl baseUrl txHash)
    ofExcept (readSequenceNumber txData)

/-- **Whose number is read**: the first creation event's, after events of other
types, of a transaction whose status is success. -/
theorem readSequenceNumber_eq_ok_iff {txData : Value} {n : Int} :
    readSequenceNumber txData = .ok n ↔
      txData.getKey "status" = .ok (.str "Success") ∧
        ∃ before event after, readEvents txData = .ok (before ++ event :: after) ∧
          (∀ other ∈ before, ∃ type, other.getKey "type" = .ok type ∧
            type ≠ .str CREATE_TRANSACTION_EVENT) ∧
          event.getKey "type" = .ok (.str CREATE_TRANSACTION_EVENT) ∧ readCreated event = .ok n := by
  have search : ∀ events, findSequenceNumber events = .ok n ↔
      ∃ before event after, events = before ++ event :: after ∧
        (∀ other ∈ before, ∃ type, other.getKey "type" = .ok type ∧
          type ≠ .str CREATE_TRANSACTION_EVENT) ∧
        event.getKey "type" = .ok (.str CREATE_TRANSACTION_EVENT) ∧ readCreated event = .ok n := by
    intro events
    rw [findSequenceNumber, PyVal.findFirst_eq_ok_iff]
    simp only [isCreation, hasText_eq_true, hasText_eq_false, reduceCtorEq, and_false, or_false]
  have status : readSequenceNumber txData = .ok n ↔
      txData.getKey "status" = .ok (.str "Success") ∧
        ∃ events, readEvents txData = .ok events ∧ findSequenceNumber events = .ok n := by
    rw [readSequenceNumber, bind_eq_ok]
    constructor
    · rintro ⟨status, read, rest⟩
      by_cases success : isSuccess status = true
      · rw [eq_str_iff.mp success] at read
        rw [success] at rest
        exact ⟨read, bind_eq_ok.mp rest⟩
      · rw [Bool.not_eq_true] at success
        rw [success] at rest
        cases rest
    · rintro ⟨read, rest⟩
      refine ⟨_, read, ?_⟩
      rw [show isSuccess (.str "Success") = true from eq_str_iff.mpr rfl]
      exact bind_eq_ok.mpr rest
  rw [status]
  refine and_congr_right fun _ => ?_
  constructor
  · rintro ⟨events, read, found⟩
    obtain ⟨before, event, after, rfl, here⟩ := (search events).mp found
    exact ⟨before, event, after, read, here⟩
  · rintro ⟨before, event, after, read, here⟩
    exact ⟨_, read, (search _).mpr ⟨before, event, after, rfl, here⟩⟩

/-! ## The script -/

namespace Machine

variable {T A : Type} (m : Machine T A)

/-- The account is funded where it holds less than is needed. -/
def topUp (baseUrl : String) (multisigAddr : AccountAddress) (balance needed : Int) :
    Session Unit := do
  if balance < needed then
    let txHash ← Session.fundAccountWithFaucet baseUrl (m.text multisigAddr)
    Session.print [.text "Airdrop transaction hash: ", .value txHash]
    Session.watchBalance baseUrl (m.text multisigAddr) 10 5

/-- Its steps until the proposal is sent; the transaction's hash. -/
def propose (baseUrl passwordEntered accountEntered mnemonicFile recipientAddr : String)
    (amount : Int) : Session String := do
  let (senderAccount, senderAddr) ← ofExcept (getAccountAddr m.crypto m.bip m.accountSdk
    passwordEntered accountEntered m.fs mnemonicFile)
  let multisigAddr ← ofExcept
    (computeMultisigAccountAddr m.callSdk m.forResourceAccount senderAddr 1)
  Session.print [.text "Multisig address: ", .text (m.text multisigAddr)]
  let (entryFunc, maxGas) ←
    Session.createTransferSupraEntryFunc m.callSdk baseUrl recipientAddr amount
  let balance ← Session.printBalance baseUrl (m.text multisigAddr)
  m.topUp baseUrl multisigAddr balance (amount + maxGas)
  let entryFuncHash := computeMultisigTxPayloadHash m.wallet.sdk m.sha3_256 entryFunc
  let entryFunc ← ofExcept
    (createProposeMultisigTxEntryFunc m.callSdk multisigAddr entryFuncHash)
  m.sendAndWait baseUrl senderAccount (.entryFunction entryFunc)

/-- `propose_multisig_tx.py`. -/
def proposeMain (baseUrl passwordEntered accountEntered mnemonicFile recipientAddr : String)
    (amount : Int) : Session Unit := do
  let txHash ← m.propose baseUrl passwordEntered accountEntered mnemonicFile recipientAddr amount
  Session.sleep 5
  let sequenceNumber ← Session.getMultisigTxSequenceFromTxHash (some baseUrl) txHash
  Session.print [.text "Multisig sequence number: ", .value (.int sequenceNumber)]

end Machine

/-! ### The phrase's first account proposes 20 quants -/

namespace PhraseScripts

/-- The page of a transaction that made proposal 1. -/
def proposalPage : Response := answering (.dict [("status", .str "Success"),
  ("output", .dict [("Move", .dict [("events", .list [
    .dict [("type", .str "0x1::transaction_fee::FeeStatement"), ("data", .dict [])],
    .dict [("type", .str CREATE_TRANSACTION_EVENT),
      ("data", .dict [("sequence_number", .str "1")])]])])])]) (by decide)

def proposalNode : Still where
  net :=
    { get := fun url =>
        if url = transactionUrl sampleSending.baseUrl "0x3473aa72" then .ok proposalPage
        else promptNode.net.get url }
  post := promptNode.post
  now := promptNode.now
  key := promptNode.key

def proposeTwenty : Session Unit :=
  machine.proposeMain sampleSending.baseUrl "pw" "0" "mnemonic_new_multisig.enc" "0xb8" 20

theorem propose_returns : (proposeTwenty.eval proposalNode.answers).isOk = true := by
  decide +kernel

theorem propose_submits : submitUrl sampleSending.baseUrl ∈
    (posts (proposeTwenty.trace proposalNode.answers)).map Prod.fst := by
  decide +kernel

end PhraseScripts

/-! ## What it does -/

namespace Session

variable (baseUrl accountAddr : String)

theorem readsOnly_printBalance : ReadsOnly (printBalance baseUrl accountAddr) := by
  refine (readsOnly_accountExists baseUrl accountAddr).bind fun found => ?_
  cases found with
  | false => exact (readsOnly_print _).bind fun _ => Prog.asks_pure 0
  | true =>
    exact (readsOnly_getAccountSupraCoinBalance baseUrl accountAddr).bind fun balance =>
      (readsOnly_print _).bind fun _ => Prog.asks_pure balance

theorem readsOnly_fundAccountWithFaucet : ReadsOnly (fundAccountWithFaucet baseUrl accountAddr) := by
  refine (readsOnly_getJson _).bind fun resData => ?_
  cases resData.getKey "Accepted" with
  | ok txHash => exact Prog.asks_pure txHash
  | error e => exact (readsOnly_print _).bind fun _ => Prog.asks_pure _

theorem readsOnly_watchBalance (repeats intervalSec : Int) :
    ReadsOnly (watchBalance baseUrl accountAddr repeats intervalSec) := by
  refine (Asks.forUntil (fun _ => ?_) _).bind fun _ => Prog.asks_pure ()
  refine (readsOnly_sleep intervalSec).bind fun _ => ?_
  exact ((readsOnly_printBalance baseUrl accountAddr).tryFinally (readsOnly_print _)).bind
    fun _ => Prog.asks_pure false

theorem readsOnly_createTransferSupraEntryFunc {T : Type} (callSdk : CallSdk T Value)
    (rcptAccountAddr : String) (amount : Int) :
    ReadsOnly (createTransferSupraEntryFunc callSdk baseUrl rcptAccountAddr amount) :=
  (readsOnly_accountExists _ _).bind fun _ => (Prog.asks_ofExcept _).bind fun _ => Prog.asks_pure _

theorem readsOnly_getMultisigTxSequenceFromTxHash (txHash : String) :
    ReadsOnly (getMultisigTxSequenceFromTxHash (some baseUrl) txHash) :=
  (readsOnly_getJson _).bind fun _ => Prog.asks_ofExcept _

end Session

namespace Machine

variable {T A : Type} {m : Machine T A}

theorem readsOnly_topUp (baseUrl : String) (multisigAddr : AccountAddress)
    (balance needed : Int) : ReadsOnly (m.topUp baseUrl multisigAddr balance needed) := by
  unfold topUp
  by_cases short : balance < needed
  · rw [if_pos short]
    exact (Session.readsOnly_fundAccountWithFaucet _ _).bind fun _ =>
      (Session.readsOnly_print _).bind fun _ => Session.readsOnly_watchBalance _ _ _ _
  · rw [if_neg short]
    exact Prog.asks_pure ()

variable {baseUrl passwordEntered accountEntered mnemonicFile recipientAddr : String}
  {amount : Nat} {t : Talk}

/-- What is posted proposes the transfer's hash for the proposer's first multisig
account. -/
theorem posts_of_propose (documented : m.wallet.Documented) (calls : m.callSdk.Documented)
    (layout : m.callSdk.Layout) (one : defaultModuleAddr m.callSdk = .ok (smallAddress 1))
    (fits : amount < 2 ^ 64) {r : Except PyError String}
    (run : Runs (m.propose baseUrl passwordEntered accountEntered mnemonicFile recipientAddr amount)
      t r) {url : String} {body : Value} (posted : (url, body) ∈ posts t) :
    ∃ senderAccount senderAddr multisigAddr rcpt,
      getAccountAddr m.crypto m.bip m.accountSdk passwordEntered accountEntered m.fs mnemonicFile =
        .ok (senderAccount, senderAddr) ∧
      computeMultisigAccountAddr m.callSdk m.forResourceAccount senderAddr 1 = .ok multisigAddr ∧
      m.callSdk.fromStrRelaxed recipientAddr = .ok rcpt ∧
      m.Posts baseUrl senderAccount (.entryFunction (proposalCall multisigAddr
        (computeMultisigTxPayloadHash m.wallet.sdk m.sha3_256 (transferCall rcpt amount))))
        url body := by
  obtain ⟨⟨senderAccount, senderAddr⟩, derived, run⟩ := ofExcept_posted_after run posted
  obtain ⟨multisigAddr, computed, run⟩ := ofExcept_posted_after run posted
  obtain ⟨_, _, t₁, -, -, run, same⟩ := (Session.readsOnly_print _).posted_after run posted
  rw [same] at posted
  obtain ⟨t₂, call, t₃, -, creating, run, same⟩ :=
    (Session.readsOnly_createTransferSupraEntryFunc _ _ _ _).posted_after run posted
  rw [same] at posted
  obtain ⟨_, balance, t₄, -, -, run, same⟩ :=
    (Session.readsOnly_printBalance _ _).posted_after run posted
  rw [same] at posted
  obtain ⟨_, _, t₅, -, -, run, same⟩ := (readsOnly_topUp _ _ _ _).posted_after run posted
  rw [same] at posted
  obtain ⟨entryFunc, made, run⟩ := ofExcept_posted_after run posted
  obtain ⟨rcpt, read, transfer, -⟩ :=
    returns_createTransferSupraEntryFunc calls layout one fits creating
  rw [transfer, createProposeMultisigTxEntryFunc_eq calls layout one] at made
  cases made
  exact ⟨senderAccount, senderAddr, multisigAddr, rcpt, derived, computed, read,
    posts_of_sendAndWait documented run posted⟩

/-- The script posts nothing after its proposal is sent. -/
theorem posts_of_proposeMain (documented : m.wallet.Documented) (calls : m.callSdk.Documented)
    (layout : m.callSdk.Layout) (one : defaultModuleAddr m.callSdk = .ok (smallAddress 1))
    (fits : amount < 2 ^ 64) {r : Except PyError Unit}
    (run : Runs (m.proposeMain baseUrl passwordEntered accountEntered mnemonicFile recipientAddr
      amount) t r) {url : String} {body : Value} (posted : (url, body) ∈ posts t) :
    ∃ senderAccount senderAddr multisigAddr rcpt,
      getAccountAddr m.crypto m.bip m.accountSdk passwordEntered accountEntered m.fs mnemonicFile =
        .ok (senderAccount, senderAddr) ∧
      computeMultisigAccountAddr m.callSdk m.forResourceAccount senderAddr 1 = .ok multisigAddr ∧
      m.callSdk.fromStrRelaxed recipientAddr = .ok rcpt ∧
      m.Posts baseUrl senderAccount (.entryFunction (proposalCall multisigAddr
        (computeMultisigTxPayloadHash m.wallet.sdk m.sha3_256 (transferCall rcpt amount))))
        url body := by
  have report : ∀ txHash, ReadsOnly (do
      Session.sleep 5
      let sequenceNumber ← Session.getMultisigTxSequenceFromTxHash (some baseUrl) txHash
      Session.print [.text "Multisig sequence number: ", .value (.int sequenceNumber)]) :=
    fun txHash => (Session.readsOnly_sleep 5).bind fun _ =>
      (Session.readsOnly_getMultisigTxSequenceFromTxHash baseUrl txHash).bind fun _ =>
        Session.readsOnly_print _
  obtain ⟨t₁, r₁, -, sent, same⟩ := posted_before report run
  rw [same] at posted
  exact posts_of_propose documented calls layout one fits sent posted

/-- What is returned is the text of the answer to the submission. -/
theorem answer_of_propose {txHash : String}
    (run : Runs (m.propose baseUrl passwordEntered accountEntered mnemonicFile recipientAddr amount)
      t (.ok txHash)) :
    ∃ body resp, ⟨.post (submitUrl baseUrl) body, .ok resp⟩ ∈ t ∧
      txHash = m.py.str (resp.json.getD (.dict [])) := by
  obtain ⟨_, _, t₁, late₁, -, run⟩ := returned_after run
  obtain ⟨_, _, t₂, late₂, -, run⟩ := returned_after run
  obtain ⟨_, _, t₃, late₃, -, run⟩ := returned_after run
  obtain ⟨_, _, t₄, late₄, -, run⟩ := returned_after run
  obtain ⟨_, _, t₅, late₅, -, run⟩ := returned_after run
  obtain ⟨_, _, t₆, late₆, -, run⟩ := returned_after run
  obtain ⟨_, _, t₇, late₇, -, run⟩ := returned_after run
  obtain ⟨body, resp, mem, same⟩ := answer_of_sendAndWait run
  have late : t₇ <:+ t :=
    late₇.trans (late₆.trans (late₅.trans (late₄.trans (late₃.trans (late₂.trans late₁)))))
  exact ⟨body, resp, late.subset mem, same⟩

/-- **What the script proposes, and what it reports.**  Whatever is posted carries
the hash of the transfer asked for, to the address of the proposer's account.  A
run that comes to its end has submitted the proposal, has asked for the
transaction whose hash was answered, and prints the number it was told for it. -/
theorem proposeMain_runs (documented : m.wallet.Documented) (calls : m.callSdk.Documented)
    (layout : m.callSdk.Layout) (one : defaultModuleAddr m.callSdk = .ok (smallAddress 1))
    (fits : amount < 2 ^ 64) {r : Except PyError Unit}
    (run : Runs (m.proposeMain baseUrl passwordEntered accountEntered mnemonicFile recipientAddr
      amount) t r) :
    (∀ url body, (url, body) ∈ posts t → ∃ senderAccount senderAddr multisigAddr rcpt,
      getAccountAddr m.crypto m.bip m.accountSdk passwordEntered accountEntered m.fs mnemonicFile =
        .ok (senderAccount, senderAddr) ∧
      computeMultisigAccountAddr m.callSdk m.forResourceAccount senderAddr 1 = .ok multisigAddr ∧
      m.callSdk.fromStrRelaxed recipientAddr = .ok rcpt ∧
      m.Posts baseUrl senderAccount (.entryFunction (proposalCall multisigAddr
        (computeMultisigTxPayloadHash m.wallet.sdk m.sha3_256 (transferCall rcpt amount))))
        url body) ∧
      (r = .ok () → ∃ body resp page n before before',
        ⟨.post (submitUrl baseUrl) body, .ok resp⟩ ∈ t ∧
        readSequenceNumber (page.json.getD (.dict [])) = .ok n ∧
        actions t = before ++
          [⟨.get (transactionUrl baseUrl (m.py.str (resp.json.getD (.dict [])))), .ok page⟩] ∧
        t = before' ++
          [⟨.print [.text "Multisig sequence number: ", .value (.int n)], ()⟩]) := by
  refine ⟨fun url body posted => posts_of_proposeMain documented calls layout one fits run posted,
    ?_⟩
  · rintro rfl
    obtain ⟨t₁, txHash, t₂, rfl, sent, run⟩ := Prog.runs_bind_ok.mp run
    obtain ⟨t₃, _, t₄, rfl, slept, run⟩ := Prog.runs_bind_ok.mp run
    obtain ⟨t₅, n, t₆, rfl, asked, printed⟩ := Prog.runs_bind_ok.mp run
    obtain ⟨body, resp, mem, rfl⟩ := answer_of_propose sent
    obtain ⟨r', got, read⟩ := Prog.runs_bind_ofExcept.mp asked
    obtain ⟨answer, acted, rfl⟩ := Session.runs_getJson got
    obtain ⟨_, t₇, rfl, ended⟩ := Prog.runs_ask.mp printed
    obtain ⟨rfl, -⟩ := Prog.runs_pure.mp ended
    cases answer with
    | error e => cases read
    | ok page =>
      refine ⟨body, resp, page, n, actions (t₁ ++ t₃), t₁ ++ t₃ ++ t₅, ?_, read.symm, ?_, by simp⟩
      · exact List.mem_append_left _ mem
      · rw [actions_append, actions_append, actions_append, acted, actions_append,
          List.append_assoc]
        rfl

open PhraseScripts in
theorem proposeMain_runs_phrase : ∃ t, Runs proposeTwenty t (.ok ()) ∧
    (∀ url body, (url, body) ∈ posts t → ∃ senderAccount senderAddr account rcpt,
      getAccountAddr machine.crypto machine.bip machine.accountSdk "pw" "0" machine.fs
        "mnemonic_new_multisig.enc" = .ok (senderAccount, senderAddr) ∧
      computeMultisigAccountAddr plainCalls machine.forResourceAccount senderAddr 1 =
        .ok account ∧
      plainCalls.fromStrRelaxed "0xb8" = .ok rcpt ∧
      machine.Posts sampleSending.baseUrl senderAccount (.entryFunction (proposalCall account
        (computeMultisigTxPayloadHash bcsSdk machine.sha3_256 (transferCall rcpt 20))))
        url body) ∧
      (Except.ok () = (Except.ok () : Except PyError Unit) →
        ∃ body resp page n before before',
          ⟨.post (submitUrl sampleSending.baseUrl) body, .ok resp⟩ ∈ t ∧
          readSequenceNumber (page.json.getD (.dict [])) = .ok n ∧
          actions t = before ++ [⟨.get (transactionUrl sampleSending.baseUrl
            (samplePy.str (resp.json.getD (.dict [])))), .ok page⟩] ∧
          t = before' ++
            [⟨.print [.text "Multisig sequence number: ", .value (.int n)], ()⟩]) := by
  obtain ⟨t, body, run, posted⟩ := exists_submitted propose_returns propose_submits
  exact ⟨t, run, proposeMain_runs wallet_documented plainCalls_documented plainCalls_layout rfl
    (by decide) run⟩

end Machine

end SupraFromScratch.Client
