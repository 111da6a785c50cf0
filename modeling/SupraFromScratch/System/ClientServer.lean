/-
# System.ClientServer — the client's transactions and the server's answers

The server of `rpc_server` has two routes: the chain id and the submission.  A
sending asks for an account first, so on this server alone it gets no further.
Where a full node behind the same URL answers the other routes, the server's two
answers reach the client at whatever point of its service and between whatever
requests of others.

The server answers an error as a JSON text with status 500, and the client looks
at no status.  So an error reaches the client as an answer: where the chain id
is, and where the hash is.  `sendTx_served` says what becomes of either.  A text
for a chain id stops the sending before anything is posted, and the chain id
signed is always the server's own; a refusal is returned as if it were the hash.
-/
import SupraFromScratch.Client.SendTx
import SupraFromScratch.Rpc.ConcurrentSubmit
import SupraFromScratch.Rpc.Server

namespace SupraFromScratch.System

set_option autoImplicit false

open SupraFromScratch.Theory SupraFromScratch.Client SupraFromScratch.Rpc
open Prog (Runs)

/-! ## Replies as responses -/

/-- How the server reads a body and writes its replies: the JSON of a transaction,
the response to a body that is none, and the texts of a hash and of a task that
could not be joined. -/
structure Wire (T H : Type) where
  parse : Value → Option T
  rejected : Value → Response
  hashText : H → String
  joinErrorText : String → String

section Replies

variable {T H : Type} (wire : Wire T H)

/-- `to_string` of an error. -/
def Wire.errorText : SubmitError → String
  | .joinError panic => wire.joinErrorText panic
  | .validation message => message

/-- The text in the reply to a submission. -/
def Wire.submitText : Except SubmitError H → String
  | .ok txHash => wire.hashText txHash
  | .error e => wire.errorText e

/-- The body of a reply, which `error_response` makes of an error. -/
def Wire.body : Reply H → Value
  | .chainId (.ok id) => .int id.toNat
  | .chainId (.error message) => .str message
  | .submitTxn answer => .str (wire.submitText answer)

theorem Wire.isDecoded_body (reply : Reply H) : (wire.body reply).isDecoded = true := by
  cases reply with
  | chainId answer => cases answer <;> rfl
  | submitTxn answer => rfl

def Wire.response (reply : Reply H) : Response := answering (wire.body reply) (wire.isDecoded_body reply)

theorem decoded_response (reply : Reply H) :
    decoded (.ok (wire.response reply)) = .ok (wire.body reply) := rfl

/-- What a route that is not registered answers: status 404, without a body. -/
def notFound : Response := .notJson

end Replies

/-! ## A server behind a session -/

/-- A server that has started: its store, and what it is made of. -/
structure Server (K O V R T C H : Type) (poolSize : Nat) where
  format : StateFormat K O V
  config : ChainIdConfig K V R
  vm : AptosVm T MoveStore C H
  wire : Wire T H
  store : MoveStore

namespace Server

variable {K O V R T C H : Type} {poolSize : Nat} (server : Server K O V R T C H poolSize)

def resource : Option R := server.store.chainResource server.format server.config

/-- The server after some submissions. -/
def after (history : List (Request T poolSize)) : RpcState MoveStore poolSize :=
  (RpcState.new server.store).after server.vm history

/-- What `submit_txn` answers to a transaction, after a history and on a machine. -/
def submitAnswer (history : List (Request T poolSize)) (index : Fin poolSize) (tx : T) :
    Except SubmitError H :=
  (submitTxn server.vm (server.after history) ⟨index, .move tx⟩).1

/-- Every request for a chain id or with a transaction that gets a response gets
this server's.  The other routes, which it does not have, are answered elsewhere. -/
structure Answers (baseUrl : String) (t : Talk) : Prop where
  chainId : ∀ resp : Response, ⟨.get (chainIdUrl baseUrl), .ok resp⟩ ∈ t → ∃ history,
    resp = server.wire.response
      (.chainId (chainId server.format server.config (server.after history)))
  submitTxn : ∀ (d : Value) (resp : Response), ⟨.post (submitUrl baseUrl) d, .ok resp⟩ ∈ t →
    match server.wire.parse d with
    | some tx => ∃ history index,
        resp = server.wire.response (.submitTxn (server.submitAnswer history index tx))
    | none => resp = server.wire.rejected d

/-- No page of the client's but this server's two routes. -/
structure Alone (baseUrl : String) (t : Talk) : Prop extends server.Answers baseUrl t where
  get : ∀ url resp, url ≠ chainIdUrl baseUrl → ⟨.get url, .ok resp⟩ ∈ t → resp = notFound
  post : ∀ url d resp, url ≠ submitUrl baseUrl → ⟨.post url d, .ok resp⟩ ∈ t → resp = notFound

/-- The chain id is the resource's, after any history. -/
theorem chainId_after (history : List (Request T poolSize)) :
    chainId server.format server.config (server.after history) =
      chainIdOf server.config server.resource := by
  rw [chainId, after, moveStore_after]
  rfl

/-- An accepted transaction is answered by its own hash. -/
theorem eq_committedHash {history : List (Request T poolSize)} {index : Fin poolSize} {tx : T}
    {txHash : H} (accepted : server.submitAnswer history index tx = .ok txHash) :
    txHash = server.vm.committedHash tx := by
  rw [submitAnswer, submitTxn_eq_respond] at accepted
  revert accepted
  cases (MutexPool.hold (server.after history).vms index _).1 with
  | panicked message =>
    intro accepted
    cases accepted
  | returned status =>
    cases status with
    | some code =>
      intro accepted
      cases accepted
    | none =>
      intro accepted
      cases accepted
      rfl

end Server

/-! ## What becomes of a sending -/

section Served

variable {K O V R T C H U A : Type} {poolSize : Nat} {server : Server K O V R T C H poolSize}
  {s : Sending U A}

/-- The chain id read is the body of the server's reply. -/
theorem chainId_of_opened {o : Opening} {acts : Talk} (opened : s.opened o <+: acts)
    (answers : server.Answers s.baseUrl acts) :
    o.chainId = server.wire.body (.chainId (chainIdOf server.config server.resource)) := by
  have asked : ⟨.get (chainIdUrl s.baseUrl), o.chain⟩ ∈ acts :=
    opened.subset (by simp [Sending.opened])
  have read := o.read_chain
  cases answered : o.chain with
  | error e =>
    rw [answered] at read
    cases read
  | ok resp =>
    rw [answered] at asked read
    obtain ⟨history, rfl⟩ := answers.chainId resp asked
    rw [decoded_response, server.chainId_after] at read
    exact (Except.ok.inj read).symm

theorem senderUrl_ne_chainIdUrl (s : Sending U A) : s.senderUrl ≠ chainIdUrl s.baseUrl := by
  intro same
  have chars := congrArg String.toList same
  simp only [Sending.senderUrl, accountUrl, chainIdUrl, String.toList_append, List.append_assoc,
    List.append_cancel_left_eq] at chars
  -- the two paths part after `/rpc/v1/`
  have parted := congrArg (·[8]?) chars
  simp at parted

/-- An account that was read is an account page, and this server has none. -/
theorem not_read_of_alone {acts : Talk} (alone : server.Alone s.baseUrl acts)
    {account : Except PyError Response} (asked : ⟨.get s.senderUrl, account⟩ ∈ acts) {n : Int} :
    decoded account >>= Session.readSeqNum ≠ .ok n := by
  intro read
  cases account with
  | error e => cases read
  | ok resp =>
    rw [alone.get s.senderUrl resp (senderUrl_ne_chainIdUrl s) asked] at read
    cases read

/-- What is posted is for the server's own chain. -/
theorem exists_resource (documented : s.wallet.Documented) {acts : Talk}
    {r : Except PyError String} (sent : s.Sent acts r) (answers : server.Answers s.baseUrl acts)
    {url : String} {body : Value} (posted : (url, body) ∈ posts acts) :
    ∃ resource o sig, server.resource = some resource ∧ s.opened o <+: acts ∧
      s.Carries o sig body ∧ o.chainId = .int (server.config.id resource).toNat := by
  obtain ⟨o, bytes, sig, opened, -, carries, -⟩ := sent.exists_carries documented posted
  have read := chainId_of_opened opened answers
  have fits := carries.encodable.chainId
  cases found : server.resource with
  | none =>
    rw [found] at read
    rw [show (s.tx o).chainId = o.chainId from rfl, read] at fits
    rcases fits with ⟨id, -, isInt⟩ | ⟨b, isBool⟩
    · cases isInt
    · cases isBool
  | some resource =>
    rw [found] at read
    exact ⟨resource, o, sig, rfl, opened, carries, read⟩

/-- What is returned is the text of the server's reply. -/
theorem exists_reply {acts : Talk} {txHash : String} (sent : s.Sent acts (.ok txHash))
    (answers : server.Answers s.baseUrl acts) :
    ∃ body, (submitUrl s.baseUrl, body) ∈ posts acts ∧
      match server.wire.parse body with
      | some tx => ∃ history index answer, server.submitAnswer history index tx = answer ∧
          txHash = server.wire.submitText answer ∧
            ∀ h, answer = .ok h → h = server.vm.committedHash tx
      | none => txHash = s.py.str ((server.wire.rejected body).json.getD (.dict [])) := by
  obtain ⟨body, resp, posted, rfl⟩ := sent.answer_of_ok
  refine ⟨body, mem_posts posted, ?_⟩
  have replied := answers.submitTxn body resp posted
  cases parsed : server.wire.parse body with
  | none =>
    rw [parsed] at replied
    rw [replied]
  | some tx =>
    rw [parsed] at replied
    obtain ⟨history, index, rfl⟩ := replied
    refine ⟨history, index, _, rfl, s.py.str_text _, fun h accepted => ?_⟩
    exact server.eq_committedHash accepted

/-- **What the server's answers come to.**  On the server alone a sending asks for
the account and stops.  Where the other routes are answered elsewhere, everything
posted is for the server's own chain, and a server without one is posted nothing;
what is returned for the hash is the text of the server's reply to a transaction
that was posted, a refusal as well as its hash. -/
theorem sendTx_served (documented : s.wallet.Documented) {t : Talk} {r : Except PyError String}
    (run : Runs s.session t r) :
    (server.Alone s.baseUrl (actions t) → posts t = [] ∧
      ∃ account : Except PyError Response, actions t = [⟨.get s.senderUrl, account⟩] ∧
        r = .error (match account with
          | .ok _ => .keyError "sequence_number"
          | .error e => e)) ∧
    (server.Answers s.baseUrl (actions t) →
      (∀ url body, (url, body) ∈ posts t → ∃ resource o sig, server.resource = some resource ∧
        s.opened o <+: actions t ∧ s.Carries o sig body ∧
          o.chainId = .int (server.config.id resource).toNat) ∧
      ∀ txHash, r = .ok txHash → ∃ body, (submitUrl s.baseUrl, body) ∈ posts t ∧
        match server.wire.parse body with
        | some tx => ∃ history index answer, server.submitAnswer history index tx = answer ∧
            txHash = server.wire.submitText answer ∧
              ∀ h, answer = .ok h → h = server.vm.committedHash tx
        | none => txHash = s.py.str ((server.wire.rejected body).json.getD (.dict []))) := by
  have sent := s.sent_of_runs run
  rw [← posts_actions]
  refine ⟨fun alone => ?_, fun answers => ⟨fun url body => exists_resource documented sent answers, ?_⟩⟩
  · generalize actions t = acts at sent alone
    have opened : ∀ (o : Opening) (rest : Talk), acts ≠ s.opened o ++ rest := by
      rintro o rest rfl
      exact not_read_of_alone alone (by simp [Sending.opened]) o.read_account
    cases sent with
    | noAccount account e unread =>
      refine ⟨by simp [Ask.posted], account, rfl, ?_⟩
      cases account with
      | error e' =>
        cases unread
        rfl
      | ok resp =>
        rw [alone.get s.senderUrl resp (senderUrl_ne_chainIdUrl s) (by simp)] at unread
        cases unread
        rfl
    | noChainId account seq read now chain e unread =>
      exact absurd read (not_read_of_alone alone (by simp))
    | unsigned o key e raises => exact absurd rfl (opened o _)
    | notSimulated o key simulated signed encoded e => exact absurd rfl (opened o _)
    | submitted o key simulated submitted signed signed' encoded simulation answer =>
      exact absurd rfl (opened o _)
  · rintro txHash rfl
    exact exists_reply sent answers

end Served

/-! ### A server of chain 6 -/

def sampleServer : Server Bytes (Option Bytes) Bytes UInt8 Nat Nat Nat 1 where
  format := rawFormat
  config := byteConfig
  vm := storeVm
  wire :=
    { parse := fun _ => some 2
      rejected := fun _ => errorPage
      hashText := toString
      joinErrorText := fun panic => "task panicked with message " ++ panic }
  store := emptyStore.runBatches rawFormat [[sampleChangeSet [1] [6]]]

theorem sampleServer_chainId :
    chainId sampleServer.format sampleServer.config (sampleServer.after []) = .ok 6 := rfl

theorem sampleServer_submit : sampleServer.submitAnswer [] 0 2 = .ok 2 := rfl

/-- A gateway: the server's two routes, and a full node behind it. -/
def gateway : Still where
  net :=
    { get := fun url =>
        if url = chainIdUrl sampleSending.baseUrl
        then .ok (sampleServer.wire.response (.chainId (.ok 6))) else sampleNode.net.get url }
  post url d :=
    if url = submitUrl sampleSending.baseUrl
    then .ok (sampleServer.wire.response (.submitTxn (.ok 2))) else sampleNode.post url d
  now := sampleNode.now
  key := sampleNode.key

/-- The server, and nothing else. -/
def bareServer : Still where
  net :=
    { get := fun url => .ok (if url = chainIdUrl sampleSending.baseUrl
        then sampleServer.wire.response (.chainId (.ok 6)) else notFound) }
  post url _ := .ok (if url = submitUrl sampleSending.baseUrl
    then sampleServer.wire.response (.submitTxn (.ok 2)) else notFound)
  now := sampleNode.now
  key := sampleNode.key

/-- Whoever passes the server's two routes on answers as the server. -/
theorem answers_of_agrees {node : Still} {t : Talk} (agrees : Prog.Agrees node.answers t)
    (get : node.net.get (chainIdUrl sampleSending.baseUrl) =
      .ok (sampleServer.wire.response (.chainId (.ok 6))))
    (post : ∀ d, node.post (submitUrl sampleSending.baseUrl) d =
      .ok (sampleServer.wire.response (.submitTxn (.ok 2)))) :
    sampleServer.Answers sampleSending.baseUrl (actions t) where
  chainId resp mem := by
    refine ⟨[], ?_⟩
    rw [sampleServer_chainId]
    have given : .ok resp = node.net.get (chainIdUrl sampleSending.baseUrl) :=
      agrees _ (List.mem_of_mem_filter mem)
    rw [get] at given
    exact Except.ok.inj given
  submitTxn d resp mem := by
    refine ⟨[], 0, ?_⟩
    rw [sampleServer_submit]
    have given : .ok resp = node.post (submitUrl sampleSending.baseUrl) d :=
      agrees _ (List.mem_of_mem_filter mem)
    rw [post] at given
    exact Except.ok.inj given

theorem gateway_answers {t : Talk} (agrees : Prog.Agrees gateway.answers t) :
    sampleServer.Answers sampleSending.baseUrl (actions t) :=
  answers_of_agrees agrees (by simp [gateway]) (by simp [gateway])

theorem bareServer_alone {t : Talk} (agrees : Prog.Agrees bareServer.answers t) :
    sampleServer.Alone sampleSending.baseUrl (actions t) where
  toAnswers := answers_of_agrees agrees (by simp [bareServer]) (by simp [bareServer])
  get url resp other mem := by
    have given := agrees _ (List.mem_of_mem_filter mem)
    exact (Except.ok.inj given).trans (if_neg other)
  post url d resp other mem := by
    have given := agrees _ (List.mem_of_mem_filter mem)
    exact (Except.ok.inj given).trans (if_neg other)

theorem sampleSending_gateway : sampleSending.session.eval gateway.answers = .ok "2" := by
  rfl

/-- Behind a gateway the transfer is answered by its hash, and on the server alone
nothing is posted. -/
theorem sendTx_served_transfer :
    (∃ t, Runs sampleSending.session t (.ok "2") ∧
      (∀ url body, (url, body) ∈ posts t → ∃ resource o sig, sampleServer.resource = some resource ∧
        sampleSending.opened o <+: actions t ∧ sampleSending.Carries o sig body ∧
          o.chainId = .int (sampleServer.config.id resource).toNat) ∧
      ∀ txHash, Except.ok "2" = (.ok txHash : Except PyError String) → ∃ body,
        (submitUrl sampleSending.baseUrl, body) ∈ posts t ∧
          match sampleServer.wire.parse body with
          | some tx => ∃ history index answer,
              sampleServer.submitAnswer history index tx = answer ∧
                txHash = sampleServer.wire.submitText answer ∧
                  ∀ h, answer = .ok h → h = sampleServer.vm.committedHash tx
          | none => txHash =
              sampleSending.py.str ((sampleServer.wire.rejected body).json.getD (.dict []))) ∧
    ∃ t r, Runs sampleSending.session t r ∧ posts t = [] ∧
      ∃ account : Except PyError Response, actions t = [⟨.get sampleSending.senderUrl, account⟩] ∧
        r = .error (match account with
          | .ok _ => .keyError "sequence_number"
          | .error e => e) := by
  constructor
  · obtain ⟨t, run, agrees⟩ := Prog.runs_eval gateway.answers sampleSending.session
    rw [sampleSending_gateway] at run
    exact ⟨t, run, (sendTx_served sampleWallet_documented run).2 (gateway_answers agrees)⟩
  · obtain ⟨t, run, agrees⟩ := Prog.runs_eval bareServer.answers sampleSending.session
    exact ⟨t, _, run, (sendTx_served sampleWallet_documented run).1 (bareServer_alone agrees)⟩

example : sampleSending.session.eval bareServer.answers = .error (.keyError "sequence_number") := rfl

end SupraFromScratch.System
