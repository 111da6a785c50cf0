/-
# Client.MultisigScripts — the scripts around a multisig account

What the scripts of a multisig account have in common, and two of them:
`create_multisig_account.py` and `vote_multisig_tx.py`.  Each derives its keys from
a mnemonic file, makes one call, sends it and waits.  `posted_after` and
`posted_before` take a posted body back to the sending it comes from.

`createMultisigMain_posts` and `voteMain_posts`: whatever the node answers, all
that is posted is the call the script was asked for, in the bytes the chain reads,
under the key of the account it was asked from.
-/
import SupraFromScratch.Client.TransferLoop
import SupraFromScratch.Client.DeriveKeys
import SupraFromScratch.Client.MultisigProposal

namespace SupraFromScratch.Client

set_option autoImplicit false

open SupraFromScratch.Theory
open Prog (ofExcept Runs)

/-! ## What a posted body comes from -/

section Posted

variable {α β : Type} {p : Session α} {f : α → Session β} {t : Talk} {r : Except PyError β}
  {x : String × Value}

theorem ReadsOnly.posts_eq (quiet : ReadsOnly p) {r : Except PyError α} (run : Runs p t r) :
    posts t = [] := by
  apply List.filterMap_eq_nil_iff.mpr
  intro event mem
  exact quiet t r run event mem

/-- What the first part does not post is posted after it has returned. -/
theorem posted_after (first : ∀ t r, Runs p t r → x ∉ posts t) (run : Runs (p >>= f) t r)
    (posted : x ∈ posts t) :
    ∃ t₁ a t₂, t = t₁ ++ t₂ ∧ Runs p t₁ (.ok a) ∧ Runs (f a) t₂ r ∧ x ∈ posts t₂ := by
  rcases Prog.runs_bind.mp run with ⟨t₁, a, t₂, rfl, run₁, run₂⟩ | ⟨e, rfl, run₁⟩
  · refine ⟨t₁, a, t₂, rfl, run₁, run₂, ?_⟩
    rw [posts_append] at posted
    rcases List.mem_append.mp posted with early | late
    · exact absurd early (first t₁ _ run₁)
    · exact late
  · exact absurd posted (first t _ run₁)

theorem ReadsOnly.posted_after (quiet : ReadsOnly p) (run : Runs (p >>= f) t r)
    (posted : x ∈ posts t) :
    ∃ t₁ a t₂, t = t₁ ++ t₂ ∧ Runs p t₁ (.ok a) ∧ Runs (f a) t₂ r ∧ posts t = posts t₂ := by
  have silent : ∀ t r, Runs p t r → x ∉ posts t := by
    intro t r run mem
    rw [quiet.posts_eq run] at mem
    cases mem
  obtain ⟨t₁, a, t₂, rfl, run₁, run₂, -⟩ := Client.posted_after silent run posted
  exact ⟨t₁, a, t₂, rfl, run₁, run₂, by rw [posts_append, quiet.posts_eq run₁]; rfl⟩

theorem ofExcept_posted_after {x' : Except PyError α} (run : Runs (ofExcept x' >>= f) t r)
    (posted : x ∈ posts t) : ∃ a, x' = .ok a ∧ Runs (f a) t r := by
  rcases Prog.runs_ofExcept_bind.mp run with returned | ⟨e, -, rfl, -⟩
  · exact returned
  · cases posted

/-- A sequence that returns ends with its second part. -/
theorem returned_after {b : β} (run : Runs (p >>= f) t (.ok b)) :
    ∃ t₁ a t₂, t₂ <:+ t ∧ Runs p t₁ (.ok a) ∧ Runs (f a) t₂ (.ok b) := by
  obtain ⟨t₁, a, t₂, rfl, run₁, run₂⟩ := Prog.runs_bind_ok.mp run
  exact ⟨t₁, a, t₂, List.suffix_append _ _, run₁, run₂⟩

theorem ofExcept_returned_after {x' : Except PyError α} {b : β}
    (run : Runs (ofExcept x' >>= f) t (.ok b)) : ∃ a, x' = .ok a ∧ Runs (f a) t (.ok b) := by
  rcases Prog.runs_ofExcept_bind.mp run with returned | ⟨e, -, -, raised⟩
  · exact returned
  · cases raised

/-- What only reads at the end posts nothing of it. -/
theorem posted_before (rest : ∀ a, ReadsOnly (f a)) (run : Runs (p >>= f) t r) :
    ∃ t₁ r₁, t₁ <+: t ∧ Runs p t₁ r₁ ∧ posts t = posts t₁ := by
  rcases Prog.runs_bind.mp run with ⟨t₁, a, t₂, rfl, run₁, run₂⟩ | ⟨e, rfl, run₁⟩
  · refine ⟨t₁, .ok a, List.prefix_append _ _, run₁, ?_⟩
    rw [posts_append, (rest a).posts_eq run₂, List.append_nil]
  · exact ⟨t, .error e, List.prefix_rfl, run₁, rfl⟩

end Posted

/-! ## The machine -/

/-- What the scripts run on: the libraries, and the files. -/
structure Machine (T A : Type) where
  py : PyStr
  crypto : Crypto
  bip : Bip
  loadKey : String → Except PyError Account
  wallet : Wallet T A
  callSdk : CallSdk T Value
  sha3_256 : Bytes → Bytes
  forResourceAccount : AccountAddress → Bytes → AccountAddress
  fs : FileSystem

namespace Machine

variable {T A : Type} (m : Machine T A)

/-- `str` of an address. -/
def text (a : AccountAddress) : String := m.wallet.sdk.addressStr a.bytes

def accountSdk : AccountSdk where
  loadKey := m.loadKey
  addressStr := m.wallet.sdk.addressStr

/-- A sending with the limits `send_tx` has by default. -/
def sending (baseUrl : String) (senderAccount : Account) (payloadContent : PayloadValue T A) :
    Sending T A :=
  { py := m.py, wallet := m.wallet, sha3_256 := m.sha3_256, baseUrl, senderAccount, payloadContent,
    maxGas := 500000, gasPrice := 100 }

/-- How the scripts send. -/
def sendAndWait (baseUrl : String) (senderAccount : Account) (payloadContent : PayloadValue T A) :
    Session String := do
  let txHash ← (m.sending baseUrl senderAccount payloadContent).session
  Session.print [.text "Transaction submitted with hash: ", .text txHash]
  Session.waitForTx m.py baseUrl txHash 3 5
  return txHash

/-- The balances of a sender and a recipient; the sender's. -/
def printBalances (baseUrl who : String) (senderAddr : AccountAddress)
    (recipientAddr label : String) : Session Int := do
  let balance ← Session.getAccountSupraCoinBalance baseUrl (m.text senderAddr)
  Session.print [.text (who ++ " balance " ++ label ++ " transfer: "), .value (.int balance)]
  let recipientBalance ← Session.getAccountSupraCoinBalance baseUrl recipientAddr
  Session.print [.text ("Recipient balance " ++ label ++ " transfer: "),
    .value (.int recipientBalance)]
  return balance

/-- `create_multisig_account.py`. -/
def createMultisigMain (baseUrl passwordEntered mnemonicFile : String)
    (numSigners threshold : Int) : Session Unit := do
  let privateKeys ← ofExcept
    (loadMultiplePrivateKeys m.crypto m.bip passwordEntered m.fs mnemonicFile numSigners)
  let senderAccount ← ofExcept do m.accountSdk.loadAccount (← PyVal.getIndex privateKeys 0)
  let otherOwners ← ofExcept ((privateKeys.drop 1).mapM m.accountSdk.loadAccount)
  let balance ← Session.getAccountSupraCoinBalance baseUrl (m.text senderAccount.accountAddress)
  Session.print [.text "Sender balance: ", .value (.int balance)]
  let entryFunc ← ofExcept (createCreateMultisigAccountEntryFunc m.callSdk
    (otherOwners.map Account.accountAddress) threshold [] [] 600)
  let _ ← m.sendAndWait baseUrl senderAccount (.entryFunction entryFunc)

/-- `vote_multisig_tx.py`. -/
def voteMain (baseUrl passwordEntered accountEntered mnemonicFile multisigAddress : String)
    (multisigTxSeq : Int) (approved : Bool) : Session Unit := do
  let (senderAccount, _) ← ofExcept (getAccountAddr m.crypto m.bip m.accountSdk passwordEntered
    accountEntered m.fs mnemonicFile)
  let multisigAddr ← ofExcept (m.callSdk.fromStrRelaxed multisigAddress)
  let entryFunc ← ofExcept
    (createVoteMultisigTxEntryFunc m.callSdk multisigAddr multisigTxSeq approved)
  let _ ← m.sendAndWait baseUrl senderAccount (.entryFunction entryFunc)

end Machine

/-! ### The scripts on the phrase -/

namespace PhraseScripts

open SamplePhrase

def firstKey : Key := keys.headD SampleWallet.drawnKey

def firstPublicKey : PublicKey :=
  ⟨[166, 134, 240, 48, 154, 184, 3, 18, 151, 150, 6, 207, 204, 193, 14, 162, 116, 1, 71, 174, 104,
   136, 53, 20, 136, 209, 28, 70, 240, 143, 191, 96], rfl⟩

def publicKey : Equiv.Perm Key := Equiv.swap firstKey firstPublicKey

/-- The signatures the runs below make, by the length of what is signed: those of
the phrase's first account on a creation, an execution, a proposal and a vote, and
those of the key drawn. -/
def signatures : List (Nat × Signature × Signature) :=
  [(321, ⟨[232, 2, 50, 109, 108, 88, 39, 158, 130, 74, 196, 119, 249, 119, 139, 190, 118, 9, 74, 164,
      218, 118, 144, 100, 190, 218, 88, 17, 94, 93, 138, 164, 123, 250, 130, 1, 191, 203,
      222, 241, 135, 117, 19, 210, 180, 126, 2, 247, 5, 104, 205, 180, 241, 146, 54, 238,
      175, 25, 226, 102, 220, 26, 62, 7], rfl⟩,
      ⟨[86, 152, 84, 134, 109, 139, 110, 74, 80, 184, 189, 60, 152, 217, 165, 61, 51, 200, 18, 230,
      89, 174, 126, 29, 103, 14, 155, 10, 228, 231, 190, 106, 80, 80, 31, 193, 37, 200, 19,
      243, 43, 198, 160, 60, 47, 181, 228, 66, 225, 77, 20, 12, 175, 127, 86, 0, 229, 107,
      81, 246, 195, 230, 70, 9], rfl⟩),
    (231, ⟨[155, 88, 60, 143, 34, 86, 139, 204, 22, 81, 147, 74, 178, 173, 233, 183, 113, 241, 154, 172,
      51, 126, 197, 1, 10, 49, 165, 180, 193, 98, 109, 251, 16, 177, 79, 110, 66, 129, 0,
      232, 112, 23, 240, 139, 69, 20, 52, 164, 8, 21, 214, 32, 154, 182, 150, 178, 199, 31,
      226, 172, 4, 162, 199, 11], rfl⟩,
      ⟨[137, 5, 83, 241, 213, 87, 119, 118, 157, 235, 196, 141, 116, 123, 177, 10, 225, 5, 104, 36,
      60, 137, 102, 242, 105, 232, 50, 185, 177, 251, 65, 248, 229, 101, 172, 82, 142, 14,
      13, 59, 233, 26, 230, 50, 64, 132, 178, 213, 70, 100, 164, 189, 59, 140, 112, 204, 140,
      185, 41, 240, 53, 217, 239, 9], rfl⟩),
    (245, ⟨[239, 175, 185, 17, 206, 213, 28, 177, 142, 131, 223, 213, 230, 55, 123, 207, 143, 77, 163,
      166, 145, 1, 98, 95, 49, 251, 0, 231, 243, 245, 233, 59, 247, 60, 179, 239, 34, 20,
      102, 41, 124, 7, 21, 67, 120, 219, 53, 66, 240, 104, 112, 216, 82, 130, 238, 89, 85,
      65, 205, 135, 246, 11, 141, 6], rfl⟩,
      ⟨[215, 37, 148, 63, 204, 143, 131, 32, 59, 193, 211, 210, 234, 213, 96, 167, 197, 82, 200,
      140, 137, 3, 21, 236, 77, 185, 216, 48, 187, 1, 177, 241, 38, 67, 137, 134, 218, 64,
      117, 236, 102, 190, 67, 129, 227, 86, 9, 78, 183, 198, 147, 79, 195, 253, 59, 38, 222,
      141, 8, 91, 191, 183, 157, 2], rfl⟩),
    (211, ⟨[103, 60, 205, 70, 46, 208, 43, 36, 215, 47, 174, 35, 42, 39, 99, 116, 86, 135, 152, 10, 96,
      183, 119, 73, 180, 242, 36, 137, 95, 70, 181, 234, 16, 193, 73, 45, 213, 220, 162, 100,
      57, 27, 128, 223, 180, 229, 34, 246, 204, 233, 210, 156, 191, 189, 63, 24, 141, 225,
      71, 30, 114, 11, 59, 10], rfl⟩,
      ⟨[69, 134, 70, 53, 62, 206, 69, 23, 76, 254, 212, 211, 225, 141, 101, 180, 235, 101, 231, 248,
      150, 139, 180, 70, 189, 216, 39, 88, 162, 31, 177, 199, 168, 35, 219, 78, 14, 34, 18,
      27, 79, 182, 157, 7, 225, 177, 210, 90, 225, 241, 29, 183, 95, 154, 197, 1, 195, 251,
      138, 193, 26, 76, 10, 6], rfl⟩)]

def sign (key : Key) (msg : Bytes) : Signature :=
  match signatures.find? fun entry => entry.1 = msg.length with
  | some (_, own, drawn) => if key = firstKey then own else drawn
  | none => SampleWallet.drawnSignature

def wallet : Wallet TypeTag ScriptArgument :=
  { sampleWallet with
    publicKey := publicKey
    sign := sign
    verify := fun pubKey msg sig => sig = sign (publicKey.symm pubKey) msg }

theorem wallet_documented : wallet.Documented where
  verify_sign key msg := by simp [wallet]
  publicKeyStr_injective := sampleWallet_documented.publicKeyStr_injective
  signatureStr_injective := sampleWallet_documented.signatureStr_injective
  keyed_inRange := sampleWallet_documented.keyed_inRange
  keyed_encodable := sampleWallet_documented.keyed_encodable

/-- The first multisig account of the phrase's first account. -/
def multisigAddr : AccountAddress :=
  ⟨[116, 19, 117, 21, 181, 178, 153, 232, 117, 36, 238, 46, 195, 144, 78, 227, 234, 224, 115, 143,
   179, 199, 201, 118, 103, 188, 23, 76, 202, 100, 41, 66], rfl⟩

def machine : Machine TypeTag ScriptArgument where
  py := samplePy
  crypto := aead
  bip := phraseBip
  loadKey := sdk.loadKey
  wallet := wallet
  callSdk := plainCalls
  sha3_256 bytes :=
    if bytes = Bcs.utf8 "SUPRA::RawTransaction" then sampleSaltSha3 bytes else sampleSha3 bytes
  forResourceAccount _ _ := multisigAddr
  fs := encryptedFile

/-- A script that ends well against a node, and submits. -/
theorem exists_submitted {script : Session Unit} {node : Still}
    (returns : (script.eval node.answers).isOk = true)
    (submitted : (submitUrl sampleSending.baseUrl) ∈
      (posts (script.trace node.answers)).map Prod.fst) :
    ∃ t body, Runs script t (.ok ()) ∧ (submitUrl sampleSending.baseUrl, body) ∈ posts t := by
  have run := Prog.runs_trace node.answers script
  obtain ⟨⟨url, body⟩, mem, rfl⟩ := List.mem_map.mp submitted
  cases ended : script.eval node.answers with
  | error e =>
    rw [ended] at returns
    cases returns
  | ok u =>
    rw [ended] at run
    exact ⟨_, body, run, mem⟩

def create : Session Unit :=
  machine.createMultisigMain sampleSending.baseUrl "pw" "mnemonic_new_multisig.enc" 5 3

def vote : Session Unit :=
  machine.voteMain sampleSending.baseUrl "pw" "0" "mnemonic_new_multisig.enc"
    "0x74137515b5b299e87524ee2ec3904ee3eae0738fb3c7c97667bc174cca642942" 1 true

theorem create_returns : (create.eval promptNode.answers).isOk = true := by decide +kernel

theorem vote_returns : (vote.eval promptNode.answers).isOk = true := by decide +kernel

theorem create_submits : submitUrl sampleSending.baseUrl ∈
    (posts (create.trace promptNode.answers)).map Prod.fst := by decide +kernel

theorem vote_submits : submitUrl sampleSending.baseUrl ∈
    (posts (vote.trace promptNode.answers)).map Prod.fst := by decide +kernel

end PhraseScripts

namespace Machine

variable {T A : Type} (m : Machine T A)

/-! ## What they post -/

/-- The body carries the payload, in a transaction this account built, and signed
by it where it is submitted. -/
def Posts (baseUrl : String) (senderAccount : Account) (payloadContent : PayloadValue T A)
    (url : String) (body : Value) : Prop :=
  let s := m.sending baseUrl senderAccount payloadContent
  ∃ o bytes sig, m.wallet.keyedOf (s.tx o) = .ok bytes ∧ s.Carries o sig body ∧
    (url = simulateUrl baseUrl ∨
      url = submitUrl baseUrl ∧ m.wallet.verify s.pubKey bytes sig = true)

variable {m}

theorem readsOnly_printBalances (baseUrl who : String) (senderAddr : AccountAddress)
    (recipientAddr label : String) :
    ReadsOnly (m.printBalances baseUrl who senderAddr recipientAddr label) := by
  refine (Session.readsOnly_getAccountSupraCoinBalance _ _).bind fun balance => ?_
  refine (Session.readsOnly_print _).bind fun _ => ?_
  exact (Session.readsOnly_getAccountSupraCoinBalance _ _).bind fun recipientBalance =>
    (Session.readsOnly_print _).bind fun _ => Prog.asks_pure balance

theorem sent_of_sendAndWait {baseUrl : String} {senderAccount : Account}
    {payloadContent : PayloadValue T A} {t : Talk} {r : Except PyError String}
    (run : Runs (m.sendAndWait baseUrl senderAccount payloadContent) t r) :
    ∃ acts r', (m.sending baseUrl senderAccount payloadContent).Sent acts r' ∧
      posts t = posts acts := by
  have waits : ∀ txHash, ReadsOnly (do
      Session.print [.text "Transaction submitted with hash: ", .text txHash]
      Session.waitForTx m.py baseUrl txHash 3 5
      return txHash) := fun txHash =>
    (Session.readsOnly_print _).bind fun _ =>
      (Session.readsOnly_waitForTx m.py baseUrl txHash 3 5 false).bind fun _ => Prog.asks_pure _
  obtain ⟨t₁, r₁, -, sent, same⟩ := posted_before waits run
  rw [← posts_actions t₁] at same
  exact ⟨actions t₁, r₁, Sending.sent_of_runs _ sent, same⟩

theorem posts_of_sendAndWait (documented : m.wallet.Documented) {baseUrl : String}
    {senderAccount : Account} {payloadContent : PayloadValue T A} {t : Talk}
    {r : Except PyError String}
    (run : Runs (m.sendAndWait baseUrl senderAccount payloadContent) t r) {url : String}
    {body : Value} (posted : (url, body) ∈ posts t) :
    m.Posts baseUrl senderAccount payloadContent url body := by
  obtain ⟨acts, r', sent, same⟩ := sent_of_sendAndWait run
  rw [same] at posted
  obtain ⟨o, bytes, sig, -, keyed, carries, sentTo⟩ := sent.exists_carries documented posted
  exact ⟨o, bytes, sig, keyed, carries, sentTo⟩

/-- What is returned is the text of the answer to the submission. -/
theorem answer_of_sendAndWait {baseUrl : String} {senderAccount : Account}
    {payloadContent : PayloadValue T A} {t : Talk} {txHash : String}
    (run : Runs (m.sendAndWait baseUrl senderAccount payloadContent) t (.ok txHash)) :
    ∃ body resp, ⟨.post (submitUrl baseUrl) body, .ok resp⟩ ∈ t ∧
      txHash = m.py.str (resp.json.getD (.dict [])) := by
  obtain ⟨t₁, hash, t₂, rfl, sent, rest⟩ := Prog.runs_bind_ok.mp run
  obtain ⟨t₃, -, t₄, rfl, -, rest⟩ := Prog.runs_bind_ok.mp rest
  obtain ⟨t₅, -, t₆, rfl, -, rest⟩ := Prog.runs_bind_ok.mp rest
  obtain ⟨rfl, returned⟩ := Prog.runs_pure.mp rest
  cases returned
  obtain ⟨body, resp, mem, same⟩ :=
    ((m.sending baseUrl senderAccount payloadContent).sent_of_runs sent).answer_of_ok
  exact ⟨body, resp, List.mem_append_left _ (List.mem_of_mem_filter mem), same⟩

/-- The key and the accounts of a script are those `loadOwners` makes. -/
theorem loadOwners_of_parts {passwordEntered mnemonicFile : String} {n : Int}
    {privateKeys : List Key} {senderAccount : Account} {otherOwners : List Account}
    (derived : loadMultiplePrivateKeys m.crypto m.bip passwordEntered m.fs mnemonicFile n =
      .ok privateKeys)
    (first : (do m.accountSdk.loadAccount (← PyVal.getIndex privateKeys 0)) = .ok senderAccount)
    (others : (privateKeys.drop 1).mapM m.accountSdk.loadAccount = .ok otherOwners) :
    loadOwners m.crypto m.bip m.accountSdk passwordEntered m.fs mnemonicFile n =
      .ok (senderAccount :: otherOwners) := by
  rw [loadOwners, derived, ok_bind]
  cases privateKeys with
  | nil => cases first
  | cons key keys =>
    rw [List.mapM_cons, show m.accountSdk.loadAccount key = .ok senderAccount from first, ok_bind,
      show keys.mapM m.accountSdk.loadAccount = .ok otherOwners from others]
    rfl

/-- **What the creation posts.**  The sender is the mnemonic's first account, and the
call names the others as owners. -/
theorem createMultisigMain_posts (documented : m.wallet.Documented)
    (calls : m.callSdk.Documented) (layout : m.callSdk.Layout)
    (one : defaultModuleAddr m.callSdk = .ok (smallAddress 1))
    {baseUrl passwordEntered mnemonicFile : String} {numSigners : Int} {threshold : Nat}
    (fits : threshold < 2 ^ 64) {t : Talk} {r : Except PyError Unit}
    (run : Runs (m.createMultisigMain baseUrl passwordEntered mnemonicFile numSigners threshold)
      t r) {url : String} {body : Value} (posted : (url, body) ∈ posts t) :
    ∃ senderAccount otherOwners,
      loadOwners m.crypto m.bip m.accountSdk passwordEntered m.fs mnemonicFile numSigners =
        .ok (senderAccount :: otherOwners) ∧
      m.Posts baseUrl senderAccount (.entryFunction {
        module := ⟨smallAddress 1, "multisig_account"⟩
        function := "create_with_owners"
        tyArgs := []
        args := [Bcs.writeSequence AccountAddress.bytes (otherOwners.map Account.accountAddress),
          Bcs.le 8 threshold, Bcs.writeSequence Bcs.writeText [],
          Bcs.writeSequence Bcs.writeBytes [], Bcs.le 8 600] }) url body := by
  obtain ⟨privateKeys, derived, run⟩ := ofExcept_posted_after run posted
  obtain ⟨senderAccount, first, run⟩ := ofExcept_posted_after run posted
  obtain ⟨otherOwners, others, run⟩ := ofExcept_posted_after run posted
  refine ⟨senderAccount, otherOwners, loadOwners_of_parts derived first others, ?_⟩
  obtain ⟨_, balance, t₁, -, -, run, same⟩ :=
    (Session.readsOnly_getAccountSupraCoinBalance _ _).posted_after run posted
  rw [same] at posted
  obtain ⟨_, _, t₂, -, -, run, same⟩ := (Session.readsOnly_print _).posted_after run posted
  rw [same] at posted
  obtain ⟨entryFunc, made, run⟩ := ofExcept_posted_after run posted
  have tenMinutes : 600 < 2 ^ 64 := by decide
  cases (createCreateMultisigAccountEntryFunc_eq calls layout one _ [] [] fits tenMinutes).symm.trans
    made
  obtain ⟨t₃, r₃, -, run, same⟩ := posted_before (fun _ => Prog.asks_pure ()) run
  rw [same] at posted
  exact posts_of_sendAndWait documented run posted

open PhraseScripts in
theorem createMultisigMain_posts_phrase : ∃ t body, Runs create t (.ok ()) ∧
    (submitUrl sampleSending.baseUrl, body) ∈ posts t ∧
    ∃ senderAccount otherOwners,
      loadOwners machine.crypto machine.bip machine.accountSdk "pw" machine.fs
        "mnemonic_new_multisig.enc" 5 = .ok (senderAccount :: otherOwners) ∧
      machine.Posts sampleSending.baseUrl senderAccount (.entryFunction {
        module := ⟨smallAddress 1, "multisig_account"⟩
        function := "create_with_owners"
        tyArgs := []
        args := [Bcs.writeSequence AccountAddress.bytes (otherOwners.map Account.accountAddress),
          Bcs.le 8 3, Bcs.writeSequence Bcs.writeText [],
          Bcs.writeSequence Bcs.writeBytes [], Bcs.le 8 600] })
        (submitUrl sampleSending.baseUrl) body := by
  obtain ⟨t, body, run, posted⟩ := exists_submitted create_returns create_submits
  exact ⟨t, body, run, posted, createMultisigMain_posts wallet_documented plainCalls_documented
    plainCalls_layout rfl (by decide) run posted⟩

/-- **What the vote posts.**  The account entered votes on the proposal named, as it
was told to. -/
theorem voteMain_posts (documented : m.wallet.Documented) (calls : m.callSdk.Documented)
    (layout : m.callSdk.Layout) (one : defaultModuleAddr m.callSdk = .ok (smallAddress 1))
    {baseUrl passwordEntered accountEntered mnemonicFile multisigAddress : String}
    {multisigTxSeq : Nat} (fits : multisigTxSeq < 2 ^ 64) {approved : Bool} {t : Talk}
    {r : Except PyError Unit}
    (run : Runs (m.voteMain baseUrl passwordEntered accountEntered mnemonicFile multisigAddress
      multisigTxSeq approved) t r) {url : String} {body : Value}
    (posted : (url, body) ∈ posts t) :
    ∃ senderAccount senderAddr multisigAddr,
      getAccountAddr m.crypto m.bip m.accountSdk passwordEntered accountEntered m.fs mnemonicFile =
        .ok (senderAccount, senderAddr) ∧
      m.callSdk.fromStrRelaxed multisigAddress = .ok multisigAddr ∧
      m.Posts baseUrl senderAccount (.entryFunction {
        module := ⟨smallAddress 1, "multisig_account"⟩
        function := "vote_transanction"
        tyArgs := []
        args := [multisigAddr.bytes, Bcs.le 8 multisigTxSeq, [if approved then 1 else 0]] })
        url body := by
  obtain ⟨⟨senderAccount, senderAddr⟩, derived, run⟩ := ofExcept_posted_after run posted
  obtain ⟨multisigAddr, read, run⟩ := ofExcept_posted_after run posted
  obtain ⟨entryFunc, made, run⟩ := ofExcept_posted_after run posted
  refine ⟨senderAccount, senderAddr, multisigAddr, derived, read, ?_⟩
  rw [createVoteMultisigTxEntryFunc_eq calls layout one multisigAddr fits approved] at made
  cases made
  obtain ⟨t₁, r₁, -, run, same⟩ := posted_before (fun _ => Prog.asks_pure ()) run
  rw [same] at posted
  exact posts_of_sendAndWait documented run posted

open PhraseScripts in
theorem voteMain_posts_phrase : ∃ t body, Runs vote t (.ok ()) ∧
    (submitUrl sampleSending.baseUrl, body) ∈ posts t ∧
    ∃ senderAccount senderAddr account,
      getAccountAddr machine.crypto machine.bip machine.accountSdk "pw" "0" machine.fs
        "mnemonic_new_multisig.enc" = .ok (senderAccount, senderAddr) ∧
      machine.callSdk.fromStrRelaxed
        "0x74137515b5b299e87524ee2ec3904ee3eae0738fb3c7c97667bc174cca642942" = .ok account ∧
      machine.Posts sampleSending.baseUrl senderAccount (.entryFunction {
        module := ⟨smallAddress 1, "multisig_account"⟩
        function := "vote_transanction"
        tyArgs := []
        args := [account.bytes, Bcs.le 8 1, [if true then 1 else 0]] })
        (submitUrl sampleSending.baseUrl) body := by
  obtain ⟨t, body, run, posted⟩ := exists_submitted vote_returns vote_submits
  exact ⟨t, body, run, posted, voteMain_posts wallet_documented plainCalls_documented
    plainCalls_layout rfl (by decide) run posted⟩

end Machine

end SupraFromScratch.Client
