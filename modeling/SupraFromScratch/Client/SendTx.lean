/-
# Client.SendTx — one transaction, from the account query to the submission

`send_tx` of `transfer_supra.py`.  It reads the sender's sequence number and the
chain id, builds the transaction, has it simulated under a key drawn for that, and
submits it under the sender's.

`sendTx_runs` is everything a run can be, whatever the node, the clock and the key
generator answer (`Sent`): five ways to end, of which one submits.  So nothing is
posted before the transaction is built and signed, at most two posts are made and
the submission is the last thing done; it is not made unless a simulation was
answered, and always then, whatever the answer said.
-/
import SupraFromScratch.Client.AuthToDict
import SupraFromScratch.Client.TransferSupra
import SupraFromScratch.Client.CheckTransaction

namespace SupraFromScratch.Client

set_option autoImplicit false

open SupraFromScratch.Theory
open Prog (ofExcept Runs)

def chainIdUrl (baseUrl : String) : String := baseUrl ++ "/rpc/v1/transactions/chain_id"

def simulateUrl (baseUrl : String) : String := baseUrl ++ "/rpc/v1/transactions/simulate"

def submitUrl (baseUrl : String) : String := baseUrl ++ "/rpc/v1/transactions/submit"

/-! ## The functions -/

section Functions

variable {T A : Type} (sha3_256 : Bytes → Bytes)

/-- The transaction `create_raw_tx` makes once it has read clock and chain id. -/
def rawTx (senderAddr : AccountAddress) (senderSequenceNumber : Int)
    (payloadContent : PayloadValue T A) (maxGas gasUnitPrice txExpiryTime : Int)
    (chainId : Value) : RawTransaction (TransactionPayload T A) where
  sender := senderAddr
  sequenceNumber := senderSequenceNumber
  payload := TransactionPayload.ofValue payloadContent
  maxGasAmount := maxGas
  gasUnitPrice := gasUnitPrice
  expirationTimestampsSecs := txExpiryTime
  chainId := chainId
  prehash := supraPrehash sha3_256 .rawTransaction

namespace Session

/-- `create_raw_tx`. -/
def createRawTx (senderAddr : AccountAddress) (senderSequenceNumber : Int)
    (payloadContent : PayloadValue T A) (maxGas : Int := 500000) (gasUnitPrice : Int := 100)
    (txExpiryTimespan : Int := 300) (chainId : Option Int := none)
    (baseUrl : Option String := none) : Session (RawTransaction (TransactionPayload T A)) := do
  let now ← time
  let chainId ← match chainId.filter (· ≠ 0) with
    | some id => pure (.int id)
    | none => getJson (chainIdUrl (baseUrl.getD "None"))
  return rawTx sha3_256 senderAddr senderSequenceNumber payloadContent maxGas gasUnitPrice
    (now + txExpiryTimespan) chainId

/-- The end of `simulate_tx_json`. -/
def printSimulation (resData : Value) : Session Unit :=
  match readVmStatus resData with
  | .ok res => print [.text "Simulation result: ", .value res]
  | .error _ => do
    print [.value resData]
    print [.text "Simulation result: ", .text "Error"]

/-- `simulate_tx_json`. -/
def simulateTxJson (baseUrl : String) (simulateTxDict : Value) : Session Unit := do
  let resData ← postJson (simulateUrl baseUrl) simulateTxDict
  printSimulation resData

/-- `submit_tx_json`. -/
def submitTxJson (py : PyStr) (baseUrl : String) (sendTxDict : Value) : Session String := do
  let resData ← postJson (submitUrl baseUrl) sendTxDict
  return py.str resData

/-- `send_tx`. -/
def sendTx (py : PyStr) (wallet : Wallet T A) (baseUrl : String) (senderAccount : Account)
    (payloadContent : PayloadValue T A) (maxGas : Int := 500000) (gasPrice : Int := 100) :
    Session String := do
  let sequenceNumber ← getAccountSeqNum baseUrl
    (wallet.sdk.addressStr senderAccount.accountAddress.bytes)
  let rawTxn ← createRawTx sha3_256 senderAccount.accountAddress sequenceNumber payloadContent
    maxGas gasPrice 300 none (some baseUrl)
  let simTxDict ← createSimulateTxDict wallet (wallet.publicKey senderAccount.privateKey) rawTxn
  simulateTxJson baseUrl simTxDict
  let sendTxDict ← ofExcept (createSendTxDict wallet senderAccount rawTxn)
  submitTxJson py baseUrl sendTxDict

end Session

end Functions

/-! ## What each of them asks -/

section Parts

variable {T A : Type} {sha3_256 : Bytes → Bytes} {t : Talk} {baseUrl : String}

open Session

/-- The chain id is asked of the node where none is given. -/
theorem runs_createRawTx {senderAddr : AccountAddress} {seq maxGas gasPrice timespan : Int}
    {payload : PayloadValue T A} {r : Except PyError (RawTransaction (TransactionPayload T A))}
    (run : Runs (Session.createRawTx sha3_256 senderAddr seq payload maxGas gasPrice timespan none
      (some baseUrl)) t r) :
    ∃ (now : Int) (answer : Except PyError Response),
      actions t = [⟨.time, now⟩, ⟨.get (chainIdUrl baseUrl), answer⟩] ∧
        r = (decoded answer).map
          (rawTx sha3_256 senderAddr seq payload maxGas gasPrice (now + timespan)) := by
  obtain ⟨now, t', acted, rest⟩ := runs_time_bind run
  obtain ⟨r', asked, rfl⟩ := Prog.runs_bind_pure.mp rest
  obtain ⟨answer, chain, rfl⟩ := runs_getJson asked
  exact ⟨now, answer, by rw [acted, chain]; rfl, rfl⟩

/-- Against a node that always answers alike it is the function `Client.createRawTx`. -/
theorem eval_createRawTx {net : Network} {answers : (ask : Ask) → ask.Answer}
    (serves : Serves net answers) (senderAddr : AccountAddress)
    (seq maxGas gasPrice timespan : Int) (payload : PayloadValue T A) (chainId : Option Int)
    (url : Option String) :
    (Session.createRawTx sha3_256 senderAddr seq payload maxGas gasPrice timespan chainId url).eval
        answers =
      Client.createRawTx sha3_256 net (answers .time) senderAddr seq payload maxGas gasPrice
        timespan chainId url := by
  unfold Session.createRawTx Client.createRawTx
  cases chainId.filter (· ≠ 0) with
  | some id => rfl
  | none =>
    simp only [Prog.eval_bind, eval_getJson serves]
    rfl

theorem runs_printSimulation {resData : Value} {r : Except PyError Unit}
    (run : Runs (printSimulation resData) t r) : actions t = [] ∧ r = .ok () := by
  unfold printSimulation at run
  cases read : readVmStatus resData with
  | ok res =>
    rw [read] at run
    obtain ⟨_, t', rfl, rest⟩ := Prog.runs_ask.mp run
    obtain ⟨rfl, rfl⟩ := Prog.runs_pure.mp rest
    exact ⟨rfl, rfl⟩
  | error e =>
    rw [read] at run
    obtain ⟨t', quiet, rest⟩ := runs_print_bind run
    obtain ⟨_, t'', rfl, last⟩ := Prog.runs_ask.mp rest
    obtain ⟨rfl, rfl⟩ := Prog.runs_pure.mp last
    exact ⟨quiet, rfl⟩

theorem runs_simulateTxJson {d : Value} {r : Except PyError Unit}
    (run : Runs (simulateTxJson baseUrl d) t r) :
    (∃ e, jsonDumps d = .error e ∧ actions t = [] ∧ r = .error e) ∨
      jsonDumps d = .ok () ∧ ∃ answer : Except PyError Response,
        actions t = [⟨.post (simulateUrl baseUrl) d, answer⟩] ∧ r = answer.map fun _ => () := by
  rcases Prog.runs_bind.mp run with ⟨t₁, resData, t₂, rfl, posted, rest⟩ | ⟨e, rfl, posted⟩
  · obtain ⟨quiet, rfl⟩ := runs_printSimulation rest
    rcases runs_postJson posted with ⟨e, -, -, raised⟩ | ⟨encoded, answer, acted, same⟩
    · cases raised
    · refine Or.inr ⟨encoded, answer, by rw [actions_append, quiet, acted]; rfl, ?_⟩
      cases answer with
      | error e => cases same
      | ok resp => rfl
  · rcases runs_postJson posted with ⟨e', encoded, rfl, raised⟩ | ⟨encoded, answer, acted, same⟩
    · cases raised
      exact Or.inl ⟨e, encoded, rfl, rfl⟩
    · refine Or.inr ⟨encoded, answer, acted, ?_⟩
      cases answer with
      | error e' =>
        cases same
        rfl
      | ok resp => cases same

theorem runs_submitTxJson {py : PyStr} {d : Value} {r : Except PyError String}
    (run : Runs (submitTxJson py baseUrl d) t r) :
    (∃ e, jsonDumps d = .error e ∧ actions t = [] ∧ r = .error e) ∨
      jsonDumps d = .ok () ∧ ∃ answer : Except PyError Response,
        actions t = [⟨.post (submitUrl baseUrl) d, answer⟩] ∧ r = (decoded answer).map py.str := by
  obtain ⟨r', posted, rfl⟩ := Prog.runs_bind_pure.mp run
  rcases runs_postJson posted with ⟨e, encoded, rfl, rfl⟩ | ⟨encoded, answer, acted, rfl⟩
  · exact Or.inl ⟨e, encoded, rfl, rfl⟩
  · exact Or.inr ⟨encoded, answer, acted, rfl⟩

theorem runs_createSimulateTxDict {wallet : Wallet T A} {pubKey : PublicKey}
    {rawTxn : RawTransaction (TransactionPayload T A)} {r : Except PyError Value}
    (run : Runs (createSimulateTxDict wallet pubKey rawTxn) t r) :
    ∃ key : Key, actions t = [⟨.randomKey, key⟩] ∧ r = signedTxDict wallet pubKey key rawTxn := by
  obtain ⟨key, t', acted, rest⟩ := runs_randomKey_bind run
  obtain ⟨rfl, rfl⟩ := Prog.runs_ofExcept.mp rest
  exact ⟨key, acted, rfl⟩

end Parts

theorem TransactionPayload.value_ofValue {T A : Type} (v : PayloadValue T A) :
    (ofValue v).value = v := by
  cases v <;> rfl

/-! ## Everything a run can be -/

/-- What a sending is given. -/
structure Sending (T A : Type) where
  py : PyStr
  wallet : Wallet T A
  sha3_256 : Bytes → Bytes
  baseUrl : String
  senderAccount : Account
  payloadContent : PayloadValue T A
  maxGas : Int
  gasPrice : Int

/-- What is read before the transaction is built: a sequence number, the clock and
a chain id. -/
structure Opening where
  account : Except PyError Response
  sequenceNumber : Int
  read_account : decoded account >>= Session.readSeqNum = .ok sequenceNumber
  now : Int
  chain : Except PyError Response
  chainId : Value
  read_chain : decoded chain = .ok chainId

namespace Sending

variable {T A : Type} (s : Sending T A)

def session : Session String :=
  Session.sendTx s.sha3_256 s.py s.wallet s.baseUrl s.senderAccount s.payloadContent s.maxGas
    s.gasPrice

def pubKey : PublicKey := s.wallet.publicKey s.senderAccount.privateKey

def senderUrl : String :=
  accountUrl s.baseUrl (s.wallet.sdk.addressStr s.senderAccount.accountAddress.bytes)

def opened (o : Opening) : Talk :=
  [⟨.get s.senderUrl, o.account⟩, ⟨.time, o.now⟩, ⟨.get (chainIdUrl s.baseUrl), o.chain⟩]

/-- The transaction built from what was read. -/
def tx (o : Opening) : RawTransaction (TransactionPayload T A) :=
  rawTx s.sha3_256 s.senderAccount.accountAddress o.sequenceNumber s.payloadContent s.maxGas
    s.gasPrice (o.now + 300) o.chainId

/-- The five ways a sending ends, with all it did. -/
inductive Sent : Talk → Except PyError String → Prop
  | noAccount (account : Except PyError Response) (e : PyError)
      (unread : decoded account >>= Session.readSeqNum = .error e) :
      Sent [⟨.get s.senderUrl, account⟩] (.error e)
  | noChainId (account : Except PyError Response) (sequenceNumber : Int)
      (read_account : decoded account >>= Session.readSeqNum = .ok sequenceNumber) (now : Int)
      (chain : Except PyError Response) (e : PyError) (unread : decoded chain = .error e) :
      Sent [⟨.get s.senderUrl, account⟩, ⟨.time, now⟩, ⟨.get (chainIdUrl s.baseUrl), chain⟩]
        (.error e)
  | unsigned (o : Opening) (key : Key) (e : PyError)
      (raises : signedTxDict s.wallet s.pubKey key (s.tx o) >>= jsonDumps = .error e) :
      Sent (s.opened o ++ [⟨.randomKey, key⟩]) (.error e)
  | notSimulated (o : Opening) (key : Key) (simulated : Value)
      (signed : signedTxDict s.wallet s.pubKey key (s.tx o) = .ok simulated)
      (encoded : jsonDumps simulated = .ok ()) (e : PyError) :
      Sent (s.opened o ++ [⟨.randomKey, key⟩, ⟨.post (simulateUrl s.baseUrl) simulated, .error e⟩])
        (.error e)
  | submitted (o : Opening) (key : Key) (simulated submitted : Value)
      (signed : signedTxDict s.wallet s.pubKey key (s.tx o) = .ok simulated)
      (signed' : createSendTxDict s.wallet s.senderAccount (s.tx o) = .ok submitted)
      (encoded : jsonDumps submitted = .ok ()) (simulation : Response)
      (answer : Except PyError Response) :
      Sent (s.opened o ++ [⟨.randomKey, key⟩,
          ⟨.post (simulateUrl s.baseUrl) simulated, .ok simulation⟩,
          ⟨.post (submitUrl s.baseUrl) submitted, answer⟩])
        ((decoded answer).map s.py.str)

variable {s}

/-- One transaction signed with two keys: the bodies differ in the signature only,
so both can be sent or neither. -/
theorem exists_signedTxDict {wallet : Wallet T A} {pubKey : PublicKey} {key : Key}
    {rawTxn : RawTransaction (TransactionPayload T A)} {body : Value}
    (signed : signedTxDict wallet pubKey key rawTxn = .ok body) (key' : Key) :
    ∃ body', signedTxDict wallet pubKey key' rawTxn = .ok body' ∧
      jsonDumps body' = jsonDumps body := by
  obtain ⟨bytes, raw, keyed, converted, rfl⟩ := signedTxDict_eq_ok_iff.mp signed
  refine ⟨txDict wallet raw pubKey (wallet.sign key' bytes), ?_, ?_⟩
  · exact signedTxDict_eq_ok_iff.mpr ⟨bytes, raw, keyed, converted, rfl⟩
  · rw [jsonDumps_txDict, jsonDumps_txDict]

open Session

/-- The second half: simulate, then submit. -/
theorem sent_of_opening (o : Opening) {t : Talk} {r : Except PyError String}
    (run : Runs (do
      let simTxDict ← createSimulateTxDict s.wallet s.pubKey (s.tx o)
      simulateTxJson s.baseUrl simTxDict
      let sendTxDict ← ofExcept (createSendTxDict s.wallet s.senderAccount (s.tx o))
      submitTxJson s.py s.baseUrl sendTxDict) t r) : s.Sent (s.opened o ++ actions t) r := by
  rcases Prog.runs_bind.mp run with ⟨t₁, simulated, t₂, rfl, signing, rest⟩ | ⟨e, rfl, signing⟩
  · obtain ⟨key, drawn, signed⟩ := runs_createSimulateTxDict signing
    rw [actions_append, drawn]
    obtain ⟨submitted, signed', same⟩ := exists_signedTxDict signed.symm s.senderAccount.privateKey
    rcases Prog.runs_bind.mp rest with ⟨t₃, _, t₄, rfl, simulating, rest⟩ | ⟨e, rfl, simulating⟩
    · rcases runs_simulateTxJson simulating with ⟨e, -, -, raised⟩ | ⟨encoded, answer, acted, ended⟩
      · cases raised
      · cases answer with
        | error e => cases ended
        | ok simulation =>
          rw [createSendTxDict, show s.wallet.publicKey _ = s.pubKey from rfl, signed'] at rest
          rw [actions_append, acted]
          rcases runs_submitTxJson rest with ⟨e, notEncoded, -, -⟩ | ⟨encoded', answer, acted', rfl⟩
          · rw [same, encoded] at notEncoded
            cases notEncoded
          · rw [acted']
            exact .submitted o key simulated submitted signed.symm signed' encoded' simulation answer
    · rcases runs_simulateTxJson simulating with ⟨e', notEncoded, silent, raised⟩ |
        ⟨encoded, answer, acted, ended⟩
      · cases raised
        rw [silent]
        refine .unsigned o key e ?_
        rw [← signed, ok_bind, notEncoded]
      · cases answer with
        | ok simulation => cases ended
        | error e' =>
          cases ended
          rw [acted]
          exact .notSimulated o key simulated signed.symm encoded e
  · obtain ⟨key, drawn, raised⟩ := runs_createSimulateTxDict signing
    rw [drawn]
    refine .unsigned o key e ?_
    rw [← raised, error_bind]

/-- Whatever the node, the clock and the key generator answer, a run is one of the
five. -/
theorem sent_of_runs (s : Sending T A) {t : Talk} {r : Except PyError String}
    (run : Runs s.session t r) : s.Sent (actions t) r := by
  rcases Prog.runs_bind.mp run with ⟨t₁, seq, t₂, rfl, numbering, rest⟩ | ⟨e, rfl, numbering⟩
  · obtain ⟨account, asked, read⟩ := runs_getAccountSeqNum numbering
    rw [actions_append, asked]
    rcases Prog.runs_bind.mp rest with ⟨t₃, rawTxn, t₄, rfl, building, rest⟩ | ⟨e, rfl, building⟩
    · obtain ⟨now, chain, acted, built⟩ := runs_createRawTx building
      cases decodes : decoded chain with
      | error e =>
        rw [decodes] at built
        cases built
      | ok chainId =>
        rw [decodes] at built
        cases built
        rw [actions_append, acted, ← List.append_assoc]
        exact sent_of_opening ⟨account, seq, read.symm, now, chain, chainId, decodes⟩ rest
    · obtain ⟨now, chain, acted, built⟩ := runs_createRawTx building
      cases decodes : decoded chain with
      | ok chainId =>
        rw [decodes] at built
        cases built
      | error e' =>
        rw [decodes] at built
        cases built
        rw [acted]
        exact .noChainId account seq read.symm now chain e decodes
  · obtain ⟨account, asked, read⟩ := runs_getAccountSeqNum numbering
    rw [asked]
    exact .noAccount account e read.symm

/-! ## What is posted -/

section Posts

variable (s)

theorem tx_isCreated (o : Opening) : IsCreated s.sha3_256 (s.tx o) := by
  refine ⟨⟨fun _ => o.chain⟩, o.now, s.senderAccount.accountAddress, o.sequenceNumber,
    s.payloadContent, s.maxGas, s.gasPrice, 300, none, some s.baseUrl, ?_⟩
  have asked : getJson ⟨fun _ => o.chain⟩ (chainIdUrl s.baseUrl) = .ok o.chainId := by
    rw [← o.read_chain]
    cases o.chain <;> rfl
  unfold createRawTx
  exact bind_eq_ok.mpr ⟨o.chainId, asked, rfl⟩

/-- The body is the transaction's, under the sender's public key and with the
signature `sig`, and every field of it fits the wire. -/
structure Carries (o : Opening) (sig : Signature) (body : Value) : Prop where
  encodable : (s.tx o).Encodable
  plain : s.payloadContent.isPlain = true
  body_eq : ∃ payload, s.payloadContent.toDict s.wallet.sdk = .ok payload ∧
    body = txDict s.wallet ((s.tx o).toDict s.wallet.sdk payload) s.pubKey sig

variable {s}

theorem exists_carries (documented : s.wallet.Documented) {o : Opening} {key : Key} {body : Value}
    (signed : signedTxDict s.wallet s.pubKey key (s.tx o) = .ok body)
    (encoded : jsonDumps body = .ok ()) :
    ∃ bytes, s.wallet.keyedOf (s.tx o) = .ok bytes ∧
      s.Carries o (s.wallet.sign key bytes) body := by
  obtain ⟨bytes, raw, keyed, converted, rfl⟩ := signedTxDict_eq_ok_iff.mp signed
  rw [(s.tx_isCreated o).payloadToDict_eq s.wallet.sdk] at converted
  obtain ⟨payload, inner, built⟩ := bind_eq_ok.mp converted
  cases built
  rw [show (s.tx o).payload.value = s.payloadContent from
    TransactionPayload.value_ofValue _] at inner
  rw [jsonDumps_txDict] at encoded
  have json := isJsonWith_of_jsonDumps _ encoded
  rw [RawTransaction.toDict_isJsonWith, Bool.and_eq_true] at json
  have fits := documented.keyed_encodable _ _ keyed
  refine ⟨bytes, keyed, ⟨fits.1, fits.2, fits.3, fits.4, fits.5⟩, ?_, payload, inner, rfl⟩
  exact (PayloadValue.toDict_isJsonWith_iff _ s.wallet.sdk _).mp ⟨payload, inner, json.1⟩

theorem submitUrl_ne_simulateUrl (baseUrl : String) : submitUrl baseUrl ≠ simulateUrl baseUrl := by
  intro same
  have := congrArg String.toList same
  rw [submitUrl, simulateUrl, String.toList_append, String.toList_append,
    List.append_cancel_left_eq] at this
  revert this
  decide

@[simp] theorem posts_opened (o : Opening) : posts (s.opened o) = [] := rfl

/-- Whatever is posted carries the transaction that was opened, and what is
submitted is signed by the sender. -/
theorem Sent.exists_carries (documented : s.wallet.Documented) {acts : Talk}
    {r : Except PyError String} (sent : s.Sent acts r) {url : String} {body : Value}
    (posted : (url, body) ∈ posts acts) :
    ∃ o bytes sig, s.opened o <+: acts ∧ s.wallet.keyedOf (s.tx o) = .ok bytes ∧
      s.Carries o sig body ∧ (url = simulateUrl s.baseUrl ∨
        url = submitUrl s.baseUrl ∧ s.wallet.verify s.pubKey bytes sig = true) := by
  cases sent with
  | noAccount account e unread => simp [Ask.posted] at posted
  | noChainId account seq read now chain e unread => simp [Ask.posted] at posted
  | unsigned o key e raises => simp [Ask.posted] at posted
  | notSimulated o key simulated signed encoded e =>
    obtain ⟨bytes, keyed, carries⟩ := Sending.exists_carries documented signed encoded
    simp [Ask.posted] at posted
    obtain ⟨rfl, rfl⟩ := posted
    exact ⟨o, bytes, _, List.prefix_append _ _, keyed, carries, Or.inl rfl⟩
  | submitted o key simulated submitted signed signed' encoded simulation answer =>
    simp [Ask.posted] at posted
    rcases posted with ⟨rfl, rfl⟩ | ⟨rfl, rfl⟩
    · obtain ⟨body', signed'', same⟩ := exists_signedTxDict signed' key
      rw [show s.wallet.publicKey _ = s.pubKey from rfl, signed] at signed''
      cases signed''
      obtain ⟨bytes, keyed, carries⟩ :=
        Sending.exists_carries documented signed (same.trans encoded)
      exact ⟨o, bytes, _, List.prefix_append _ _, keyed, carries, Or.inl rfl⟩
    · obtain ⟨bytes, keyed, carries⟩ := Sending.exists_carries documented signed' encoded
      exact ⟨o, bytes, _, List.prefix_append _ _, keyed, carries,
        Or.inr ⟨rfl, documented.verify_sign _ _⟩⟩

/-- **Everything `send_tx` can do**, and what it can post: a transaction built
from what this run was told, whose fields fit the wire, and to be submitted only
under the sender's own signature of it. -/
theorem sendTx_runs (documented : s.wallet.Documented) {t : Talk} {r : Except PyError String}
    (run : Runs s.session t r) :
    s.Sent (actions t) r ∧ ∀ url body, (url, body) ∈ posts t →
      ∃ o bytes sig, s.opened o <+: actions t ∧ s.wallet.keyedOf (s.tx o) = .ok bytes ∧
        s.Carries o sig body ∧ (url = simulateUrl s.baseUrl ∨
          url = submitUrl s.baseUrl ∧ s.wallet.verify s.pubKey bytes sig = true) := by
  have sent := s.sent_of_runs run
  refine ⟨sent, fun url body posted => ?_⟩
  rw [← posts_actions] at posted
  exact sent.exists_carries documented posted

/-- One body is one transaction under one key. -/
theorem Carries.same (documented : s.wallet.Documented) (prints : s.wallet.sdk.PrintsInjectively)
    {s' : Sending T A} (wallet : s'.wallet = s.wallet) (hash : s'.sha3_256 = s.sha3_256)
    {o o' : Opening} {sig sig' : Signature} {body : Value} (carries : s.Carries o sig body)
    (carries' : s'.Carries o' sig' body) :
    s'.tx o' = s.tx o ∧ s'.pubKey = s.pubKey ∧ sig' = sig := by
  obtain ⟨payload, converted, same⟩ := carries.body_eq
  obtain ⟨payload', converted', same'⟩ := carries'.body_eq
  rw [wallet] at converted' same'
  rw [same] at same'
  simp only [txDict, RawTransaction.toDict, PyVal.dict.injEq, PyVal.str.injEq,
    PyVal.int.injEq, List.cons.injEq, Prod.mk.injEq, true_and, and_true] at same'
  obtain ⟨⟨sender, seq, rfl, gas, price, expiry, chain⟩, pubKey, signature⟩ := same'
  have value : s.payloadContent = s'.payloadContent :=
    (PayloadValue.eq_toDict prints carries.plain carries'.plain converted converted').mp
      ((PayloadValue.eq_toDict prints carries.plain carries.plain converted converted).mpr rfl)
  refine ⟨?_, documented.publicKeyStr_injective pubKey.symm,
    documented.signatureStr_injective signature.symm⟩
  have addresses := prints _ _ sender
  simp only [tx, rawTx] at addresses seq gas price expiry chain ⊢
  rw [hash, addresses, seq, value, gas, price, expiry, chain]

/-- **Who posts a body has posted its transaction.**  Two sendings, whatever they
were given and told, post one body only for one transaction and under one key. -/
theorem posted_once (documented : s.wallet.Documented) (prints : s.wallet.sdk.PrintsInjectively)
    {s' : Sending T A} (wallet : s'.wallet = s.wallet) (hash : s'.sha3_256 = s.sha3_256)
    {t t' : Talk} {r r' : Except PyError String} (run : Runs s.session t r)
    (run' : Runs s'.session t' r') {url url' : String} {body : Value}
    (posted : (url, body) ∈ posts t) (posted' : (url', body) ∈ posts t') :
    ∃ o o', s.opened o <+: actions t ∧ s'.opened o' <+: actions t' ∧ s'.tx o' = s.tx o ∧
      s'.pubKey = s.pubKey := by
  rw [← posts_actions] at posted posted'
  obtain ⟨o, -, sig, opened, -, carries, -⟩ :=
    (s.sent_of_runs run).exists_carries documented posted
  obtain ⟨o', -, sig', opened', -, carries', -⟩ :=
    (s'.sent_of_runs run').exists_carries (by rw [wallet]; exact documented) posted'
  obtain ⟨tx, pubKey, -⟩ := carries.same documented prints wallet hash carries'
  exact ⟨o, o', opened, opened', tx, pubKey⟩

/-- Who returns has posted twice. -/
theorem Sent.posts_of_ok {acts : Talk} {txHash : String} (sent : s.Sent acts (.ok txHash)) :
    ∃ simulated submitted,
      posts acts = [(simulateUrl s.baseUrl, simulated), (submitUrl s.baseUrl, submitted)] := by
  generalize ended : (Except.ok txHash : Except PyError String) = r at sent
  cases sent with
  | submitted o key simulated submitted signed signed' encoded simulation answer =>
    exact ⟨simulated, submitted, by simp [Ask.posted]⟩
  | _ => cases ended

/-- Who submits has simulated, and has posted nothing else. -/
theorem Sent.posts_of_submitted {acts : Talk} {r : Except PyError String} (sent : s.Sent acts r)
    {body : Value} (posted : (submitUrl s.baseUrl, body) ∈ posts acts) :
    ∃ simulated,
      posts acts = [(simulateUrl s.baseUrl, simulated), (submitUrl s.baseUrl, body)] := by
  have other := submitUrl_ne_simulateUrl s.baseUrl
  cases sent with
  | noAccount account e unread => simp [Ask.posted] at posted
  | noChainId account seq read now chain e unread => simp [Ask.posted] at posted
  | unsigned o key e raises => simp [Ask.posted] at posted
  | notSimulated o key simulated signed encoded e => simp [Ask.posted, other] at posted
  | submitted o key simulated submitted signed signed' encoded simulation answer =>
    simp only [posts_append, posts_opened, posts_cons, posts_nil, Ask.posted, Option.toList_none,
      Option.toList_some, List.nil_append, List.cons_append, List.mem_cons, Prod.mk.injEq, other,
      false_and, true_and, false_or, List.not_mem_nil, or_false] at posted
    subst posted
    exact ⟨simulated, by simp [Ask.posted]⟩

/-- What is returned is the text of the answer to the submission. -/
theorem Sent.answer_of_ok {acts : Talk} {txHash : String} (sent : s.Sent acts (.ok txHash)) :
    ∃ body resp, ⟨.post (submitUrl s.baseUrl) body, .ok resp⟩ ∈ acts ∧
      txHash = s.py.str (resp.json.getD (.dict [])) := by
  generalize ended : (Except.ok txHash : Except PyError String) = r at sent
  cases sent with
  | submitted o key simulated submitted signed signed' encoded simulation answer =>
    cases answer with
    | error e => cases ended
    | ok resp => exact ⟨submitted, resp, by simp, Except.ok.inj ended⟩
  | _ => cases ended

end Posts

end Sending

/-! ### A transfer of 20 quants -/

/-- A node's answer of one JSON value. -/
def answering (v : Value) (plain : v.isDecoded = true) : Response where
  json := some v
  isDecoded := by
    rintro w ⟨⟩
    exact plain

def sampleSending : Sending TypeTag ScriptArgument where
  py := samplePy
  wallet := sampleWallet
  sha3_256 := sampleSaltSha3
  baseUrl := "https://rpc-testnet.supra.com"
  senderAccount := ⟨SampleWallet.senderAddress, SampleWallet.senderKey⟩
  payloadContent := .entryFunction (sampleTransfer 20)
  maxGas := 10
  gasPrice := 100

def chainSix : Response := answering (.int 6) rfl

def acceptedHash : Response := answering (.str "0x3473aa72") rfl

/-- A node of chain 6, on which every account has sent one transaction. -/
def sampleNode : Still where
  net :=
    { get := fun url => .ok (if url = chainIdUrl sampleSending.baseUrl
        then chainSix else accountResponse) }
  post _ _ := .ok acceptedHash
  now := 1700000000
  key := SampleWallet.drawnKey

theorem sampleSending_eval :
    sampleSending.session.eval sampleNode.answers = .ok "0x3473aa72" := by
  rfl

theorem exists_sampleSending_run : ∃ t, Runs sampleSending.session t (.ok "0x3473aa72") := by
  obtain ⟨t, run, -⟩ := Prog.runs_eval sampleNode.answers sampleSending.session
  exact ⟨t, sampleSending_eval ▸ run⟩

theorem sendTx_runs_transfer : ∃ t, Runs sampleSending.session t (.ok "0x3473aa72") ∧
    sampleSending.Sent (actions t) (.ok "0x3473aa72") ∧ ∀ url body, (url, body) ∈ posts t →
      ∃ o bytes sig, sampleSending.opened o <+: actions t ∧
        sampleWallet.keyedOf (sampleSending.tx o) = .ok bytes ∧ sampleSending.Carries o sig body ∧
          (url = simulateUrl sampleSending.baseUrl ∨ url = submitUrl sampleSending.baseUrl ∧
            sampleWallet.verify sampleSending.pubKey bytes sig = true) := by
  obtain ⟨t, run⟩ := exists_sampleSending_run
  exact ⟨t, run, Sending.sendTx_runs sampleWallet_documented run⟩

/-- The node at the same second, to a sender that drew another key: it refuses the
simulation and loses the submission. -/
def losingNode : Still where
  net := sampleNode.net
  post url _ :=
    if url = submitUrl sampleSending.baseUrl then .error (.exception "Read timed out.")
    else .ok (answering (.str "EINVALID_AUTH_KEY") rfl)
  now := sampleNode.now
  key := SampleWallet.senderPublicKey

/-- Tried once in vain, and once more: one transaction. -/
theorem posted_once_transfer : ∃ t t' body,
    Runs sampleSending.session t (.error (.exception "Read timed out.")) ∧
      Runs sampleSending.session t' (.ok "0x3473aa72") ∧
      (submitUrl sampleSending.baseUrl, body) ∈ posts t ∧
      (submitUrl sampleSending.baseUrl, body) ∈ posts t' ∧
      ∃ o o', sampleSending.opened o <+: actions t ∧ sampleSending.opened o' <+: actions t' ∧
        sampleSending.tx o' = sampleSending.tx o ∧ sampleSending.pubKey = sampleSending.pubKey := by
  have run := Prog.runs_trace losingNode.answers sampleSending.session
  have run' := Prog.runs_trace sampleNode.answers sampleSending.session
  have lost : sampleSending.session.eval losingNode.answers =
      .error (.exception "Read timed out.") := rfl
  have same : posts (sampleSending.session.trace losingNode.answers) =
      posts (sampleSending.session.trace sampleNode.answers) := rfl
  rw [lost] at run
  rw [sampleSending_eval] at run'
  obtain ⟨simulated, submitted, posted⟩ := (sampleSending.sent_of_runs run').posts_of_ok
  have mem : (submitUrl sampleSending.baseUrl, submitted) ∈
      posts (sampleSending.session.trace sampleNode.answers) := by
    rw [← posts_actions, posted]
    simp
  exact ⟨_, _, submitted, run, run', same ▸ mem, mem, Sending.posted_once sampleWallet_documented
    bcsSdk_printsInjectively rfl rfl run run' (same ▸ mem) mem⟩

end SupraFromScratch.Client
