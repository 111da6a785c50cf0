/-
# Client.MultisigAuthMain — two of three keys, without an account module

The script of `multisig_auth.py`.  Its sender is the address of three keys, two of
which sign; the transaction is checked locally and submitted without a simulation.

`multisigAuthMain_runs`: what it submits is the transaction it built, and the wire
form of the signatures, which drops the signers' indices, is one the node's own
check accepts for the bytes that were signed.
-/
import SupraFromScratch.Client.ProposeMultisig

namespace SupraFromScratch.Client

set_option autoImplicit false

open SupraFromScratch.Theory
open Prog (ofExcept Runs Asks)

/-- The SDK's keys of several signers: `AccountAddress.from_key` and
`MultiPublicKey.to_crypto_bytes`. -/
structure MultiKeySdk where
  addressFromKey : MultiPublicKey PublicKey → AccountAddress
  toCryptoBytes : MultiPublicKey PublicKey → Bytes

/-- The body the script submits. -/
def multiTxDict (raw : Value) (publicKey signature : Bytes) : Value :=
  .dict [("Move", .dict [("raw_txn", raw),
    ("authenticator", .dict [("MultiEd25519", .dict [
      ("public_key", .str (String.ofList (hex publicKey))),
      ("signature", .str (String.ofList (hex signature)))])])])]

/-! ## The script -/

namespace Machine

section Script

variable {T A : Type} (m : Machine T A) (multi : MultiKeySdk)

def multisigPublicKey (alice bob carol : Account) : MultiPublicKey PublicKey where
  keys := [m.wallet.publicKey alice.privateKey, m.wallet.publicKey bob.privateKey,
    m.wallet.publicKey carol.privateKey]
  threshold := 2
  length_keys := by simp

/-- Alice's and Carol's signatures. -/
def multisigSignature (alice carol : Account) (msg : Bytes) : MultiSignature where
  signatures := [(0, m.wallet.sign alice.privateKey msg), (2, m.wallet.sign carol.privateKey msg)]
  index_lt := by simp

/-- The script's second step: create, sign, check and submit. -/
def submitMultisig (baseUrl : String) (alice bob carol : Account) (entryFunc : EntryFunction T)
    (maxGas : Int) : Session String := do
  let publicKey := m.multisigPublicKey alice bob carol
  let multisigAddr := multi.addressFromKey publicKey
  let seq ← Session.getAccountSeqNum baseUrl (m.text multisigAddr)
  let rawTx ← Session.createRawTx m.sha3_256 multisigAddr seq
    (.entryFunction entryFunc : PayloadValue T A) maxGas 100 300 none (some baseUrl)
  let bytes ← ofExcept (m.wallet.keyedOf rawTx)
  let signature := m.multisigSignature alice carol bytes
  if !publicKey.verify m.wallet.verify bytes signature then
    Prog.raise (.exception "AssertionError")
  else
    let raw ← ofExcept (payloadToDict m.wallet.sdk.addressStr (rawTx.toPy m.wallet.sdk))
    let signatureBytes ← ofExcept (multisigToCryptoBytes signature)
    Session.submitTxJson m.py baseUrl (multiTxDict raw (multi.toCryptoBytes publicKey) signatureBytes)

/-- `multisig_auth.py`. -/
def multisigAuthMain (baseUrl passwordEntered mnemonicFile recipientAddr : String) (amount : Int) :
    Session Unit := do
  let accounts ← ofExcept
    (loadOwners m.crypto m.bip m.accountSdk passwordEntered m.fs mnemonicFile 3)
  match accounts with
  | [alice, bob, carol] => do
    let multisigAddr := multi.addressFromKey (m.multisigPublicKey alice bob carol)
    Session.print [.text "Multisig account address: ", .text (m.text multisigAddr)]
    let (entryFunc, maxGas) ←
      Session.createTransferSupraEntryFunc m.callSdk baseUrl recipientAddr amount
    let balance ← m.printBalances baseUrl "Sender" multisigAddr recipientAddr "before"
    m.topUp baseUrl multisigAddr balance (amount + maxGas)
    let txHash ← m.submitMultisig multi baseUrl alice bob carol entryFunc maxGas
    Session.print [.text "Transaction submitted with hash: ", .text txHash]
    Session.waitForTx m.py baseUrl txHash 3 5
    let _ ← m.printBalances baseUrl "Sender" multisigAddr recipientAddr "after"
  | _ => Prog.raise (.valueError "expected 3 accounts")

end Script

end Machine

/-! ### The phrase's first and third account sign 20 quants -/

namespace PhraseScripts

open SamplePhrase

/-- The public keys of accounts 0 to 2. -/
def publicKeys : List PublicKey :=
  [firstPublicKey,
    ⟨[112, 102, 5, 105, 18, 136, 127, 49, 167, 129, 5, 180, 223, 234, 64, 166, 145, 114, 163, 137,
      63, 159, 114, 58, 202, 146, 121, 228, 242, 205, 167, 212], rfl⟩,
    ⟨[234, 220, 221, 128, 154, 82, 115, 198, 60, 194, 4, 35, 24, 89, 133, 249, 111, 93, 114, 183,
      32, 116, 82, 123, 104, 69, 139, 151, 83, 64, 155, 230], rfl⟩]

def publicKeyOf (key : Key) : PublicKey :=
  ((keys.zip publicKeys).lookup key).getD key

def aliceSignature : Signature :=
  ⟨[22, 17, 90, 100, 101, 125, 202, 41, 129, 238, 11, 44, 229, 206, 36, 28, 202, 198, 137, 241,
   231, 135, 165, 228, 17, 197, 163, 247, 161, 3, 225, 106, 238, 53, 12, 89, 69, 13, 72, 176,
   188, 192, 108, 229, 144, 119, 120, 251, 236, 252, 156, 111, 227, 74, 129, 42, 245, 62, 52,
   11, 140, 107, 200, 3], rfl⟩

def carolSignature : Signature :=
  ⟨[32, 3, 189, 14, 147, 138, 27, 117, 251, 95, 75, 38, 87, 144, 93, 62, 212, 203, 159, 26, 168,
   129, 254, 249, 25, 189, 76, 191, 61, 56, 173, 92, 116, 175, 22, 222, 251, 65, 173, 128,
   89, 207, 27, 125, 53, 183, 59, 193, 176, 111, 109, 135, 51, 81, 252, 199, 106, 64, 12,
   163, 244, 93, 144, 0], rfl⟩

def signTransfer (key : Key) (_msg : Bytes) : Signature :=
  if key = firstKey then aliceSignature else carolSignature

def threeKeys : Machine TypeTag ScriptArgument :=
  { machine with
    wallet :=
      { sampleWallet with
        publicKey := publicKeyOf
        sign := signTransfer
        verify := fun pubKey msg sig =>
          (keys.zip publicKeys).any fun (key, known) => known = pubKey ∧ sig = signTransfer key msg } }

def threeKeySdk : MultiKeySdk where
  addressFromKey _ :=
    ⟨[194, 232, 37, 222, 173, 177, 173, 65, 202, 29, 180, 1, 44, 6, 201, 90, 172, 220, 30, 179,
      103, 40, 195, 39, 152, 97, 108, 249, 8, 215, 114, 183], rfl⟩
  toCryptoBytes pk := (pk.keys.flatMap fun key => key.1) ++ [UInt8.ofNat pk.threshold]

def transferTwenty : Session Unit :=
  threeKeys.multisigAuthMain threeKeySdk sampleSending.baseUrl "pw" "mnemonic_new_multisig.enc"
    "0xb8" 20

theorem transfer_returns : (transferTwenty.eval promptNode.answers).isOk = true := by
  decide +kernel

theorem transfer_submits : submitUrl sampleSending.baseUrl ∈
    (posts (transferTwenty.trace promptNode.answers)).map Prod.fst := by
  decide +kernel

end PhraseScripts

namespace Machine

/-! ## What it submits -/

section Submitted

variable {T A : Type} {m : Machine T A} {multi : MultiKeySdk} {baseUrl : String}

/-- The two signers, by their bits. -/
def twoSigners (m : Machine T A) (alice carol : Account) (msg : Bytes) : List (Nat × Signature) :=
  [(0, m.wallet.sign alice.privateKey msg), (2, m.wallet.sign carol.privateKey msg)]

theorem twoSigners_below (alice carol : Account) (msg : Bytes) :
    ∀ p ∈ m.twoSigners alice carol msg, p.1 < 32 := by
  simp [twoSigners]

theorem multisigSignature_eq (alice carol : Account) (msg : Bytes) :
    m.multisigSignature alice carol msg =
      .ofSigners (m.twoSigners alice carol msg) (m.twoSigners_below alice carol msg) := rfl

theorem twoSigners_increasing (alice carol : Account) (msg : Bytes) :
    ((m.twoSigners alice carol msg).map Prod.fst).Pairwise (· < ·) := by
  simp [twoSigners]

/-- The transaction between three accounts, from what was read. -/
def multisigTx (m : Machine T A) (multi : MultiKeySdk) (alice bob carol : Account)
    (entryFunc : EntryFunction T) (maxGas : Int) (o : Opening) :
    RawTransaction (TransactionPayload T A) :=
  rawTx m.sha3_256 (multi.addressFromKey (m.multisigPublicKey alice bob carol)) o.sequenceNumber
    (.entryFunction entryFunc) maxGas 100 (o.now + 300) o.chainId

/-- What it was built from. -/
def multisigOpened (m : Machine T A) (multi : MultiKeySdk) (baseUrl : String)
    (alice bob carol : Account) (o : Opening) : Talk :=
  let multisigAddr := multi.addressFromKey (m.multisigPublicKey alice bob carol)
  [⟨.get (accountUrl baseUrl (m.text multisigAddr)), o.account⟩, ⟨.time, o.now⟩,
    ⟨.get (chainIdUrl baseUrl), o.chain⟩]

theorem readsOnly_createRawTx {senderAddr : AccountAddress} {seq maxGas gasPrice timespan : Int}
    {payload : PayloadValue T A} :
    ReadsOnly (Session.createRawTx m.sha3_256 senderAddr seq payload maxGas gasPrice timespan none
      (some baseUrl)) :=
  Session.readsOnly_time.bind fun _ => (Session.readsOnly_getJson _).bind fun _ => Prog.asks_pure _

variable {alice bob carol : Account} {entryFunc : EntryFunction T} {maxGas : Int} {t : Talk}

/-- What is submitted is the transaction built from what this run was told, and
signed so that the node takes it. -/
structure SubmitsMultisig (m : Machine T A) (multi : MultiKeySdk) (baseUrl : String)
    (alice bob carol : Account) (entryFunc : EntryFunction T) (maxGas : Int) (t : Talk)
    (o : Opening) (bytes signature : Bytes) : Prop where
  opened : m.multisigOpened multi baseUrl alice bob carol o <:+: actions t
  keyed : m.wallet.keyedOf (m.multisigTx multi alice bob carol entryFunc maxGas o) = .ok bytes
  accepted : (m.multisigPublicKey alice bob carol).wireAccepts m.wallet.verify bytes signature = true
  signers : readSigners signature = some (m.twoSigners alice carol bytes)
  posts_eq : ∃ raw, payloadToDict m.wallet.sdk.addressStr
      ((m.multisigTx multi alice bob carol entryFunc maxGas o).toPy m.wallet.sdk) = .ok raw ∧
    posts t = [(submitUrl baseUrl,
      multiTxDict raw (multi.toCryptoBytes (m.multisigPublicKey alice bob carol)) signature)]

theorem SubmitsMultisig.mono {o : Opening} {bytes signature : Bytes} {t' : Talk}
    (submits : m.SubmitsMultisig multi baseUrl alice bob carol entryFunc maxGas t o bytes signature)
    (part : t <:+: t') (same : posts t' = posts t) :
    m.SubmitsMultisig multi baseUrl alice bob carol entryFunc maxGas t' o bytes signature :=
  { submits with
    opened := submits.opened.trans (part.filter _)
    posts_eq := same ▸ submits.posts_eq }

theorem submits_of_submitMultisig {r : Except PyError String}
    (run : Runs (m.submitMultisig multi baseUrl alice bob carol entryFunc maxGas) t r)
    {x : String × Value} (posted : x ∈ posts t) :
    ∃ o bytes signature,
      m.SubmitsMultisig multi baseUrl alice bob carol entryFunc maxGas t o bytes signature := by
  have reads : ∀ addr, ReadsOnly (Session.getAccountSeqNum baseUrl addr) := fun addr =>
    (Session.readsOnly_getJson _).bind fun _ => Prog.asks_ofExcept _
  obtain ⟨t₁, seq, t₂, split₁, numbering, run, same₁⟩ := (reads _).posted_after run posted
  rw [same₁] at posted
  obtain ⟨t₃, tx, t₄, split₂, building, run, same₂⟩ :=
    readsOnly_createRawTx.posted_after run posted
  rw [same₂] at posted
  obtain ⟨account, asked, read⟩ := Session.runs_getAccountSeqNum numbering
  obtain ⟨now, chain, acted, built⟩ := runs_createRawTx building
  cases decodes : decoded chain with
  | error e =>
    rw [decodes] at built
    cases built
  | ok chainId =>
    rw [decodes] at built
    cases built
    obtain ⟨bytes, keyed, run⟩ := ofExcept_posted_after run posted
    dsimp only at run
    cases accepted : (m.multisigPublicKey alice bob carol).verify m.wallet.verify bytes
        (m.multisigSignature alice carol bytes) with
    | false =>
      rw [accepted] at run
      obtain ⟨rfl, -⟩ := Prog.runs_raise.mp run
      cases posted
    | true =>
      rw [accepted] at run
      obtain ⟨raw, converted, run⟩ := ofExcept_posted_after run posted
      obtain ⟨signatureBytes, encoded, run⟩ := ofExcept_posted_after run posted
      have increasing := m.twoSigners_increasing alice carol bytes
      rw [multisigSignature_eq] at accepted encoded
      refine ⟨⟨account, seq, read.symm, now, chain, chainId, decodes⟩, bytes, signatureBytes,
        { opened := ?_
          keyed := keyed
          accepted := wireAccepts_of_isAligned accepted
            (MultiSignature.isAligned_ofSigners _ _ _ _ increasing) encoded
          signers := readSigners_encoded increasing encoded
          posts_eq := ⟨raw, converted, ?_⟩ }⟩
      · refine ⟨[], actions t₄, ?_⟩
        rw [split₁, split₂, actions_append, actions_append, asked, acted]
        rfl
      · rw [same₁, same₂]
        rcases runs_submitTxJson run with ⟨e, -, silent, -⟩ | ⟨-, answer, submitted, -⟩
        · rw [← posts_actions, silent] at posted
          cases posted
        · rw [← posts_actions, submitted]
          rfl

/-- **What the script submits.**  It posts nothing but one submission, for the
three accounts of the mnemonic.  The body is the transfer asked for, built from
what this run was told, and its signature is Alice's and Carol's in the form the
node's own check accepts. -/
theorem multisigAuthMain_runs (calls : m.callSdk.Documented) (layout : m.callSdk.Layout)
    (one : defaultModuleAddr m.callSdk = .ok (smallAddress 1))
    {passwordEntered mnemonicFile recipientAddr : String} {amount : Nat} (fits : amount < 2 ^ 64)
    {r : Except PyError Unit}
    (run : Runs (m.multisigAuthMain multi baseUrl passwordEntered mnemonicFile recipientAddr amount)
      t r) {x : String × Value} (posted : x ∈ posts t) :
    ∃ alice bob carol rcpt maxGas o bytes signature,
      loadOwners m.crypto m.bip m.accountSdk passwordEntered m.fs mnemonicFile 3 =
        .ok [alice, bob, carol] ∧
      m.callSdk.fromStrRelaxed recipientAddr = .ok rcpt ∧ (maxGas = 10 ∨ maxGas = 1020) ∧
      m.SubmitsMultisig multi baseUrl alice bob carol (transferCall rcpt amount) maxGas t o bytes
        signature := by
  obtain ⟨accounts, loaded, run⟩ := ofExcept_posted_after run posted
  match accounts with
  | [alice, bob, carol] =>
    dsimp only at run
    obtain ⟨t₁, _, t₂, split₁, -, run, same₁⟩ := (Session.readsOnly_print _).posted_after run posted
    rw [same₁] at posted
    obtain ⟨t₃, call, t₄, split₂, creating, run, same₂⟩ :=
      (Session.readsOnly_createTransferSupraEntryFunc _ _ _ _).posted_after run posted
    rw [same₂] at posted
    obtain ⟨rcpt, read, transfer, limit⟩ :=
      returns_createTransferSupraEntryFunc calls layout one fits creating
    obtain ⟨t₅, balance, t₆, split₃, -, run, same₃⟩ :=
      (readsOnly_printBalances _ _ _ _ _).posted_after run posted
    rw [same₃] at posted
    obtain ⟨t₇, _, t₈, split₄, -, run, same₄⟩ := (readsOnly_topUp _ _ _ _).posted_after run posted
    rw [same₄] at posted
    have waits : ∀ txHash, ReadsOnly (do
        Session.print [.text "Transaction submitted with hash: ", .text txHash]
        Session.waitForTx m.py baseUrl txHash 3 5
        let _ ← m.printBalances baseUrl "Sender"
          (multi.addressFromKey (m.multisigPublicKey alice bob carol)) recipientAddr "after"
        return ()) := fun txHash =>
      (Session.readsOnly_print _).bind fun _ => (Session.readsOnly_waitForTx _ _ _ _ _ _).bind
        fun _ => (readsOnly_printBalances _ _ _ _ _).bind fun _ => Prog.asks_pure ()
    obtain ⟨t₉, r₉, front, run, same₅⟩ := posted_before waits run
    rw [same₅] at posted
    rw [transfer] at run
    obtain ⟨o, bytes, signature, submits⟩ := submits_of_submitMultisig run posted
    refine ⟨alice, bob, carol, rcpt, call.2, o, bytes, signature, loaded, read, limit,
      submits.mono ?_ ?_⟩
    · have last : t₈ <:+ t :=
        ⟨t₁ ++ t₃ ++ t₅ ++ t₇, by simp [split₁, split₂, split₃, split₄, List.append_assoc]⟩
      exact front.isInfix.trans last.isInfix
    · rw [same₁, same₂, same₃, same₄, same₅]
  | [] | [_] | [_, _] | _ :: _ :: _ :: _ :: _ =>
    obtain ⟨rfl, -⟩ := Prog.runs_raise.mp run
    cases posted

open PhraseScripts in
theorem multisigAuthMain_runs_phrase : ∃ t body, Runs transferTwenty t (.ok ()) ∧
    (submitUrl sampleSending.baseUrl, body) ∈ posts t ∧
    ∃ alice bob carol rcpt maxGas o bytes signature,
      loadOwners threeKeys.crypto threeKeys.bip threeKeys.accountSdk "pw" threeKeys.fs
        "mnemonic_new_multisig.enc" 3 = .ok [alice, bob, carol] ∧
      plainCalls.fromStrRelaxed "0xb8" = .ok rcpt ∧ (maxGas = 10 ∨ maxGas = 1020) ∧
      threeKeys.SubmitsMultisig threeKeySdk sampleSending.baseUrl alice bob carol (transferCall rcpt 20)
        maxGas t o bytes signature := by
  obtain ⟨t, body, run, posted⟩ := exists_submitted transfer_returns transfer_submits
  exact ⟨t, body, run, posted, multisigAuthMain_runs plainCalls_documented plainCalls_layout rfl
    (by decide) run posted⟩

end Submitted

end Machine

end SupraFromScratch.Client
