/-
# Client.ExecuteMultisig — executing what was proposed

`execute_multisig_tx.py`.  It asks the node everything there is to ask about the
account and its next proposal, and then sends the transfer as a multisig execution.

* `executeMain_runs` — it submits only after every view was answered with a
  result, and what it submits executes the transfer it was asked for.
* `executeMain_proposeMain` — what one script executes hashes to what the other
  proposed exactly if both were asked for the same transfer.
-/
import SupraFromScratch.Client.ViewMultisig
import SupraFromScratch.Client.ProposeMultisig

namespace SupraFromScratch.Client

set_option autoImplicit false

open SupraFromScratch.Theory
open Prog (ofExcept Runs Asks)

/-! ## The script -/

namespace Machine

section Script

variable {T A : Type} (m : Machine T A) (baseUrl : String)

/-- The address of an owner the node names. -/
def readOwner : Value → Except PyError AccountAddress
  | .str addr => m.callSdk.fromStrRelaxed addr
  | _ => .error (.typeError "fromhex() argument must be str")

/-- One turn of the loop over the owners. -/
def voteTurn (multisigAddr : AccountAddress) (seqNum : Int) (addr : Value) : Session Bool := do
  let voter ← ofExcept (m.readOwner addr)
  let resData ← Session.getMultisigTxVote m.text baseUrl multisigAddr seqNum voter
  let (voted, vote) ← ofExcept resData.unpackPair
  Session.print [.text "Voted: ", .value voted, .text ", vote: ", .value vote]
  return false

/-- What the script asks before it makes its transfer. -/
def inspect (multisigAddr : AccountAddress) (ownerAddrs : List String) : Session Unit := do
  let multisigOwners ← Session.getMultisigAccountOwners m.text baseUrl multisigAddr
  Session.print [.text "Multisig account owners: ", .value multisigOwners]
  Session.print [.text "Owners: ", .value (.list (ownerAddrs.map .str))]
  let lastResolvedSeq ← Session.getMultisigAccountLastResolvedSeq m.text baseUrl multisigAddr
  Session.print [.text "Multisig last resolved seq: ", .value (.int lastResolvedSeq)]
  let nextSeq ← Session.getMultisigAccountNextSequenceNumber m.text baseUrl multisigAddr
  Session.print [.text "Multisig current sequence number: ", .value (.int (nextSeq - 1))]
  let threshold ← Session.getMultisigNumSignaturesRequired m.text baseUrl multisigAddr
  Session.print [.text "Multisig threshold: ", .value (.int threshold)]
  let canBeExecuted ←
    Session.getMultisigTxCanBeExecuted m.text baseUrl multisigAddr (lastResolvedSeq + 1)
  Session.print [.text "Multisig tx can be executed: ", .value (.bool canBeExecuted)]
  let addrs ← ofExcept multisigOwners.iterate
  let _ ← Prog.forUntil (m.voteTurn baseUrl multisigAddr (lastResolvedSeq + 1)) addrs

/-- `execute_multisig_tx.py`. -/
def executeMain (passwordEntered mnemonicFile recipientAddr : String) (amount : Int) :
    Session Unit := do
  let owners ← ofExcept
    (loadOwners m.crypto m.bip m.accountSdk passwordEntered m.fs mnemonicFile 5)
  let ownerAddrs := owners.map fun owner => m.text owner.accountAddress
  let senderAccount ← ofExcept (PyVal.getIndex owners 0)
  let senderAddr ← ofExcept (PyVal.getIndex ownerAddrs 0)
  let multisigAddr ← ofExcept
    (computeMultisigAccountAddr m.callSdk m.forResourceAccount senderAddr 1)
  Session.print [.text "Multisig address: ", .text (m.text multisigAddr)]
  m.inspect baseUrl multisigAddr ownerAddrs
  let (entryFunc, _) ←
    Session.createTransferSupraEntryFunc m.callSdk baseUrl recipientAddr amount
  let multisig := createMultisig multisigAddr entryFunc
  let _ ← m.printBalances baseUrl "Multisig" multisigAddr recipientAddr "before"
  let _ ← m.sendAndWait baseUrl senderAccount (.multisig multisig)
  let _ ← m.printBalances baseUrl "Multisig" multisigAddr recipientAddr "after"

end Script

/-! ## What an inspection asks -/

/-- The node was asked for a view and answered it with this result. -/
def Told (baseUrl : String) (t : Talk) (fullFunctionName : String) (args : List String)
    (result : Value) : Prop :=
  ∃ page : Response, ⟨.post (viewUrl baseUrl) (viewBody fullFunctionName args), .ok page⟩ ∈ t ∧
    page.HasResult result

section Inspection

variable {T A : Type} (m : Machine T A) (baseUrl : String) (a : AccountAddress)

/-- The views of an account and of its proposal `seqNum`. -/
def inspectionPosts (seqNum : Int) (voters : List AccountAddress) : List (String × Value) :=
  [viewBody "0x1::multisig_account::owners" [m.text a],
    viewBody "0x1::multisig_account::last_resolved_sequence_number" [m.text a],
    viewBody "0x1::multisig_account::next_sequence_number" [m.text a],
    viewBody "0x1::multisig_account::num_signatures_required" [m.text a],
    viewBody "0x1::multisig_account::can_be_executed" [m.text a, toString seqNum]].map
      (viewUrl baseUrl, ·) ++
    voters.map fun voter => (viewUrl baseUrl,
      viewBody "0x1::multisig_account::vote" [m.text a, toString seqNum, m.text voter])

/-- What an inspection that comes to its end has asked, and was told. -/
structure Inspected (t : Talk) (lastResolvedSeq : Int) (voters : List AccountAddress) : Prop where
  owners : ∃ result owners addrs, Told baseUrl t "0x1::multisig_account::owners" [m.text a] result ∧
    result.getPos 0 = .ok owners ∧ owners.iterate = .ok addrs ∧
      List.Forall₂ (fun addr voter => m.readOwner addr = .ok voter) addrs voters
  lastResolved : ∃ result, Told baseUrl t "0x1::multisig_account::last_resolved_sequence_number"
    [m.text a] result ∧ (result.getPos 0 >>= PyVal.toInt) = .ok lastResolvedSeq
  next : ∃ result n, Told baseUrl t "0x1::multisig_account::next_sequence_number" [m.text a] result ∧
    (result.getPos 0 >>= PyVal.toInt) = .ok n
  threshold : ∃ result n, Told baseUrl t "0x1::multisig_account::num_signatures_required" [m.text a]
    result ∧ (result.getPos 0 >>= PyVal.toInt) = .ok n
  executable : ∃ result v, Told baseUrl t "0x1::multisig_account::can_be_executed"
    [m.text a, toString (lastResolvedSeq + 1)] result ∧ result.getPos 0 = .ok v
  votes : ∀ voter ∈ voters, ∃ result pair, Told baseUrl t "0x1::multisig_account::vote"
    [m.text a, toString (lastResolvedSeq + 1), m.text voter] result ∧ result.unpackPair = .ok pair
  asked : posts t = m.inspectionPosts baseUrl a (lastResolvedSeq + 1) voters

variable {baseUrl}

theorem Told.mono {t t' : Talk} {name : String} {args : List String} {result : Value}
    (told : Told baseUrl t name args result) (part : t ⊆ t') : Told baseUrl t' name args result := by
  obtain ⟨page, mem, has⟩ := told
  exact ⟨page, part mem, has⟩

/-- A view whose answer was good for something. -/
theorem told_of_answer {α : Type} {read : Value → Except PyError α}
    (empty : ∃ e, read (.dict []) = .error e) {t : Talk} {name : String} {args : List String}
    {answer : Except PyError Response} {v : α}
    (acted : actions t = [⟨.post (viewUrl baseUrl) (viewBody name args), answer⟩])
    (taken : viewed answer >>= read = .ok v) :
    (∃ result, Told baseUrl t name args result ∧ read result = .ok v) ∧
      posts t = [(viewUrl baseUrl, viewBody name args)] := by
  obtain ⟨page, result, rfl, has, value⟩ := (viewed_bind_eq_ok empty).mp taken
  have mem : ⟨.post (viewUrl baseUrl) (viewBody name args), .ok page⟩ ∈ actions t := by
    rw [acted]
    exact List.mem_singleton.mpr rfl
  refine ⟨⟨result, ⟨page, List.mem_of_mem_filter mem, has⟩, value⟩, ?_⟩
  rw [← posts_actions, acted]
  rfl

theorem told_of_viewFirst {t : Talk} {name : String} {args : List String} {v : Value}
    (run : Runs (Session.viewFirst baseUrl name args) t (.ok v)) :
    (∃ result, Told baseUrl t name args result ∧ result.getPos 0 = .ok v) ∧
      posts t = [(viewUrl baseUrl, viewBody name args)] := by
  obtain ⟨answer, acted, taken⟩ := Session.runs_viewFirst run
  exact told_of_answer ⟨_, rfl⟩ acted taken.symm

theorem told_of_viewInt {t : Talk} {name : String} {args : List String} {n : Int}
    (run : Runs (Session.viewInt baseUrl name args) t (.ok n)) :
    (∃ result, Told baseUrl t name args result ∧ (result.getPos 0 >>= PyVal.toInt) = .ok n) ∧
      posts t = [(viewUrl baseUrl, viewBody name args)] := by
  obtain ⟨answer, acted, taken⟩ := Session.runs_viewInt run
  rw [bind_assoc] at taken
  have empty : ∃ e, (fun v : Value => v.getPos 0 >>= PyVal.toInt) (.dict []) = .error e := ⟨_, rfl⟩
  exact told_of_answer empty acted taken.symm

variable {m a}

/-- A turn that comes to its end was told the owner's vote, and never breaks. -/
theorem told_of_voteTurn {seqNum : Int} {addr : Value} {t : Talk} {stop : Bool}
    (run : Runs (m.voteTurn baseUrl a seqNum addr) t (.ok stop)) :
    stop = false ∧ ∃ voter, m.readOwner addr = .ok voter ∧
      (∃ result pair, Told baseUrl t "0x1::multisig_account::vote"
        [m.text a, toString seqNum, m.text voter] result ∧ result.unpackPair = .ok pair) ∧
      posts t = [(viewUrl baseUrl, viewBody "0x1::multisig_account::vote"
        [m.text a, toString seqNum, m.text voter])] := by
  obtain ⟨voter, readVoter, run⟩ := ofExcept_returned_after run
  obtain ⟨t₁, resData, t₂, rfl, asked, run⟩ := Prog.runs_bind_ok.mp run
  obtain ⟨pair, unpacked, run⟩ := ofExcept_returned_after run
  obtain ⟨t₃, _, t₄, rfl, printed, run⟩ := Prog.runs_bind_ok.mp run
  obtain ⟨rfl, returned⟩ := Prog.runs_pure.mp run
  cases returned
  obtain ⟨answer, acted, same⟩ := Session.runs_invokeModuleViewFunction asked
  have taken : viewed answer >>= PyVal.unpackPair = .ok pair := by
    rw [← same]
    exact unpacked
  obtain ⟨⟨result, told, value⟩, sent⟩ := told_of_answer ⟨_, rfl⟩ acted taken
  refine ⟨rfl, voter, readVoter, ⟨result, pair, told.mono ?_, value⟩, ?_⟩
  · intro event mem
    simp [mem]
  · simp [sent, (Session.readsOnly_print _).posts_eq printed]

/-- The loop over the owners asks for all their votes, in order. -/
theorem told_of_votes {seqNum : Int} {addrs : List Value} {t : Talk} {stop : Bool}
    (run : Runs (Prog.forUntil (m.voteTurn baseUrl a seqNum) addrs) t (.ok stop)) :
    ∃ voters, List.Forall₂ (fun addr voter => m.readOwner addr = .ok voter) addrs voters ∧
      (∀ voter ∈ voters, ∃ result pair, Told baseUrl t "0x1::multisig_account::vote"
        [m.text a, toString seqNum, m.text voter] result ∧ result.unpackPair = .ok pair) ∧
      posts t = voters.map fun voter => (viewUrl baseUrl,
        viewBody "0x1::multisig_account::vote" [m.text a, toString seqNum, m.text voter]) := by
  induction addrs generalizing t with
  | nil =>
    obtain ⟨rfl, -⟩ := Prog.runs_pure.mp run
    exact ⟨[], .nil, by simp, rfl⟩
  | cons addr addrs ih =>
    obtain ⟨t₁, stop', t₂, rfl, turn, rest⟩ := Prog.runs_bind_ok.mp run
    obtain ⟨rfl, voter, readVoter, told, sent⟩ := told_of_voteTurn turn
    obtain ⟨voters, readVoters, tolds, sents⟩ := ih rest
    refine ⟨voter :: voters, .cons readVoter readVoters, ?_, by simp [sent, sents]⟩
    intro other mem
    rcases List.mem_cons.mp mem with rfl | mem
    · obtain ⟨result, pair, told, value⟩ := told
      exact ⟨result, pair, told.mono (List.subset_append_left _ _), value⟩
    · obtain ⟨result, pair, told, value⟩ := tolds other mem
      exact ⟨result, pair, told.mono (List.subset_append_right _ _), value⟩

theorem inspected_of_runs {ownerAddrs : List String} {t : Talk}
    (run : Runs (m.inspect baseUrl a ownerAddrs) t (.ok ())) :
    ∃ lastResolvedSeq voters, m.Inspected baseUrl a t lastResolvedSeq voters := by
  have shown : ∀ {line : List Piece} {f : Unit → Session Unit} {t : Talk},
      Runs (Session.print line >>= f) t (.ok ()) →
        ∃ t', t = ⟨.print line, ()⟩ :: t' ∧ Runs (f ()) t' (.ok ()) := by
    intro line f t run
    obtain ⟨_, t', rfl, rest⟩ := Prog.runs_ask.mp run
    exact ⟨t', rfl, rest⟩
  obtain ⟨t₁, owners, u₁, split₁, view, run⟩ := Prog.runs_bind_ok.mp run
  obtain ⟨⟨result₁, told₁, value₁⟩, sent₁⟩ := told_of_viewFirst view
  obtain ⟨v₁, line₁, run⟩ := shown run
  obtain ⟨w₁, line₁', run⟩ := shown run
  obtain ⟨t₂, lastResolvedSeq, u₂, split₂, view, run⟩ := Prog.runs_bind_ok.mp run
  obtain ⟨⟨result₂, told₂, value₂⟩, sent₂⟩ := told_of_viewInt view
  obtain ⟨v₂, line₂, run⟩ := shown run
  obtain ⟨t₃, nextSeq, u₃, split₃, view, run⟩ := Prog.runs_bind_ok.mp run
  obtain ⟨⟨result₃, told₃, value₃⟩, sent₃⟩ := told_of_viewInt view
  obtain ⟨v₃, line₃, run⟩ := shown run
  obtain ⟨t₄, threshold, u₄, split₄, view, run⟩ := Prog.runs_bind_ok.mp run
  obtain ⟨⟨result₄, told₄, value₄⟩, sent₄⟩ := told_of_viewInt view
  obtain ⟨v₄, line₄, run⟩ := shown run
  obtain ⟨t₅, canBeExecuted, u₅, split₅, view, run⟩ := Prog.runs_bind_ok.mp run
  obtain ⟨r₅, view, ended⟩ := Prog.runs_bind_pure.mp view
  cases r₅ with
  | error e => cases ended
  | ok first =>
  obtain ⟨⟨result₅, told₅, value₅⟩, sent₅⟩ := told_of_viewFirst view
  obtain ⟨v₅, line₅, run⟩ := shown run
  obtain ⟨addrs, iterated, run⟩ := ofExcept_returned_after run
  obtain ⟨t₆, stop, u₆, split₆, votes, returned⟩ := Prog.runs_bind_ok.mp run
  obtain ⟨nothing, -⟩ := Prog.runs_pure.mp returned
  obtain ⟨voters, readVoters, tolds, sent₆⟩ := told_of_votes votes
  subst split₁ line₁ line₁' split₂ line₂ split₃ line₃ split₄ line₄ split₅ line₅ split₆ nothing
  refine ⟨lastResolvedSeq, voters,
    { owners := ⟨result₁, owners, addrs, told₁.mono ?_, value₁, iterated, readVoters⟩
      lastResolved := ⟨result₂, told₂.mono ?_, value₂⟩
      next := ⟨result₃, nextSeq, told₃.mono ?_, value₃⟩
      threshold := ⟨result₄, threshold, told₄.mono ?_, value₄⟩
      executable := ⟨result₅, first, told₅.mono ?_, value₅⟩
      votes := ?_
      asked := ?_ }⟩
  case refine_6 =>
    intro voter mem
    obtain ⟨result, pair, told, value⟩ := tolds voter mem
    refine ⟨result, pair, told.mono ?_, value⟩
    intro event mem
    simp [mem]
  case refine_7 =>
    simp [inspectionPosts, sent₁, sent₂, sent₃, sent₄, sent₅, sent₆, Ask.posted]
  all_goals
    intro event mem
    simp [mem]

end Inspection

end Machine

/-! ### The phrase's first account executes 20 quants -/

namespace PhraseScripts

/-- What the node says of the account, whose last resolved proposal is 0. -/
def viewAnswers : List (String × Value) :=
  [("0x1::multisig_account::owners", .list [.list (SamplePhrase.addresses.map fun owner =>
      .str (SampleWallet.hexText owner.bytes))]),
    ("0x1::multisig_account::last_resolved_sequence_number", .list [.str "0"]),
    ("0x1::multisig_account::next_sequence_number", .list [.str "2"]),
    ("0x1::multisig_account::num_signatures_required", .list [.str "3"]),
    ("0x1::multisig_account::can_be_executed", .list [.bool true]),
    ("0x1::multisig_account::vote", .list [.bool true, .bool true])]

def viewPage (fullFunctionName : String) : Response :=
  match viewAnswers.lookup fullFunctionName with
  | some result =>
      if plain : (PyVal.dict [("result", result)] : Value).isDecoded = true then
        answering (.dict [("result", result)]) plain
      else acceptedHash
  | none => acceptedHash

def viewNode : Still where
  net := promptNode.net
  post url d :=
    match d.getKey "function" with
    | .ok (.str name) => .ok (viewPage name)
    | _ => promptNode.post url d
  now := promptNode.now
  key := promptNode.key

def executeTransfer (amount : Nat) : Session Unit :=
  machine.executeMain sampleSending.baseUrl "pw" "mnemonic_new_multisig.enc" "0xb8" amount

def executeTwenty : Session Unit := executeTransfer 20

theorem executeTransfer_returns : ∀ amount ∈ [20, 21],
    ((executeTransfer amount).eval viewNode.answers).isOk = true := by
  decide +kernel

theorem executeTransfer_submits : ∀ amount ∈ [20, 21], submitUrl sampleSending.baseUrl ∈
    (posts ((executeTransfer amount).trace viewNode.answers)).map Prod.fst := by
  decide +kernel

theorem execute_returns : (executeTwenty.eval viewNode.answers).isOk = true :=
  executeTransfer_returns 20 (by decide)

theorem execute_submits : submitUrl sampleSending.baseUrl ∈
    (posts (executeTwenty.trace viewNode.answers)).map Prod.fst :=
  executeTransfer_submits 20 (by decide)

end PhraseScripts

namespace Machine

/-! ## What it posts -/

/-- A question that posts nothing, or a view. -/
def AtMostViews (baseUrl : String) (ask : Ask) : Prop :=
  ∀ x, ask.posted = some x → x.1 = viewUrl baseUrl

section Execution

variable {T A : Type} {m : Machine T A} {baseUrl : String}

theorem ReadsOnly.asks_atMostViews {α : Type} {p : Session α} (quiet : ReadsOnly p) :
    Asks (AtMostViews baseUrl) p := by
  intro t r run event mem x posted
  rw [show event.question.posted = none from quiet t r run event mem] at posted
  cases posted

theorem asks_view (name : String) (args : List String) :
    Asks (AtMostViews baseUrl) (Session.invokeModuleViewFunction baseUrl name args) := by
  intro t r run event mem x posted
  obtain ⟨answer, acted, -⟩ := Session.runs_invokeModuleViewFunction run
  have mem' : x ∈ posts t := List.mem_filterMap.mpr ⟨event, mem, posted⟩
  rw [← posts_actions, acted] at mem'
  cases List.mem_singleton.mp mem'
  rfl

theorem asks_viewFirst (name : String) (args : List String) :
    Asks (AtMostViews baseUrl) (Session.viewFirst baseUrl name args) :=
  (asks_view name args).bind fun _ => Prog.asks_ofExcept _

theorem asks_viewInt (name : String) (args : List String) :
    Asks (AtMostViews baseUrl) (Session.viewInt baseUrl name args) :=
  (asks_viewFirst name args).bind fun _ => Prog.asks_ofExcept _

theorem asks_inspect (a : AccountAddress) (ownerAddrs : List String) :
    Asks (AtMostViews baseUrl) (m.inspect baseUrl a ownerAddrs) := by
  have printed : ∀ line, Asks (AtMostViews baseUrl) (Session.print line) := fun line =>
    ReadsOnly.asks_atMostViews (Session.readsOnly_print line)
  have turn : ∀ seqNum addr,
      Asks (AtMostViews baseUrl) (m.voteTurn baseUrl a seqNum addr) := fun seqNum addr =>
    (Prog.asks_ofExcept _).bind fun voter => (asks_view _ _).bind fun resData =>
      (Prog.asks_ofExcept _).bind fun pair => (printed _).bind fun _ => Prog.asks_pure false
  refine (asks_viewFirst _ _).bind fun owners => (printed _).bind fun _ => (printed _).bind
    fun _ => ?_
  refine (asks_viewInt _ _).bind fun lastResolvedSeq => (printed _).bind fun _ => ?_
  refine (asks_viewInt _ _).bind fun nextSeq => (printed _).bind fun _ => ?_
  refine (asks_viewInt _ _).bind fun threshold => (printed _).bind fun _ => ?_
  refine ((asks_viewFirst _ _).bind fun first => Prog.asks_pure first.truth).bind
    fun canBeExecuted => (printed _).bind fun _ => ?_
  refine (Prog.asks_ofExcept _).bind fun addrs => ?_
  exact (Asks.forUntil (turn (lastResolvedSeq + 1)) addrs).bind fun _ => Prog.asks_pure ()

theorem viewUrl_ne_submitUrl (baseUrl : String) : viewUrl baseUrl ≠ submitUrl baseUrl := by
  intro same
  have := congrArg String.toList same
  rw [viewUrl, submitUrl, String.toList_append, String.toList_append,
    List.append_cancel_left_eq] at this
  revert this
  decide

/-- An inspection submits nothing. -/
theorem not_submitted_of_inspect {a : AccountAddress} {ownerAddrs : List String} {body : Value}
    (t : Talk) (r : Except PyError Unit) (run : Runs (m.inspect baseUrl a ownerAddrs) t r) :
    (submitUrl baseUrl, body) ∉ posts t := by
  intro posted
  obtain ⟨event, mem, here⟩ := List.mem_filterMap.mp posted
  exact viewUrl_ne_submitUrl baseUrl (asks_inspect a ownerAddrs t r run event mem _ here).symm

variable {passwordEntered mnemonicFile recipientAddr : String} {amount : Nat} {t : Talk}

/-- Where the script submits, its inspection is over and it is sending the transfer
to the multisig account. -/
theorem sends_of_executeMain (calls : m.callSdk.Documented) (layout : m.callSdk.Layout)
    (one : defaultModuleAddr m.callSdk = .ok (smallAddress 1)) (fits : amount < 2 ^ 64)
    {r : Except PyError Unit}
    (run : Runs (m.executeMain baseUrl passwordEntered mnemonicFile recipientAddr amount) t r)
    {body : Value} (posted : (submitUrl baseUrl, body) ∈ posts t) :
    ∃ senderAccount otherOwners multisigAddr rcpt ownerAddrs before inspection after sending sent,
      loadOwners m.crypto m.bip m.accountSdk passwordEntered m.fs mnemonicFile 5 =
        .ok (senderAccount :: otherOwners) ∧
      computeMultisigAccountAddr m.callSdk m.forResourceAccount
        (m.text senderAccount.accountAddress) 1 = .ok multisigAddr ∧
      m.callSdk.fromStrRelaxed recipientAddr = .ok rcpt ∧
      Runs (m.inspect baseUrl multisigAddr ownerAddrs) inspection (.ok ()) ∧
      Runs (m.sendAndWait baseUrl senderAccount
        (.multisig (createMultisig multisigAddr (transferCall rcpt amount)))) sending sent ∧
      t = before ++ inspection ++ after ∧ posts t = posts inspection ++ posts sending ∧
      (submitUrl baseUrl, body) ∈ posts sending := by
  obtain ⟨owners, derived, run⟩ := ofExcept_posted_after run posted
  obtain ⟨senderAccount, first, run⟩ := ofExcept_posted_after run posted
  obtain ⟨senderAddr, firstAddr, run⟩ := ofExcept_posted_after run posted
  obtain ⟨multisigAddr, computed, run⟩ := ofExcept_posted_after run posted
  obtain ⟨t₁, _, t₂, split₁, -, run, same₁⟩ := (Session.readsOnly_print _).posted_after run posted
  rw [same₁] at posted
  obtain ⟨inspection, _, t₃, split₂, inspecting, run, posted⟩ :=
    posted_after not_submitted_of_inspect run posted
  obtain ⟨t₄, call, t₅, -, creating, run, same₂⟩ :=
    (Session.readsOnly_createTransferSupraEntryFunc _ _ _ _).posted_after run posted
  rw [same₂] at posted
  obtain ⟨rcpt, read, transfer, -⟩ :=
    returns_createTransferSupraEntryFunc calls layout one fits creating
  obtain ⟨t₆, _, t₇, -, -, run, same₃⟩ := (readsOnly_printBalances _ _ _ _ _).posted_after run posted
  rw [same₃] at posted
  obtain ⟨t₈, r₈, -, sends, same₄⟩ := posted_before
    (fun _ => (readsOnly_printBalances _ _ _ _ _).bind fun _ => Prog.asks_pure ()) run
  rw [same₄] at posted
  rw [transfer] at sends
  cases owners with
  | nil => cases first
  | cons owner otherOwners =>
    cases first
    cases firstAddr
    refine ⟨senderAccount, otherOwners, multisigAddr, rcpt, _, t₁, inspection, t₃, t₈, r₈, derived,
      computed, read, inspecting, sends, ?_, ?_, posted⟩
    · rw [split₁, split₂, List.append_assoc]
    · rw [same₁, split₂, posts_append, same₂, same₃, same₄]

/-- **What is executed, and after what.**  Where the script submits, the sender is
the mnemonic's first account, and the body executes the transfer asked for under
the address of that account's multisig account.  Before that the node answered
every view with a result: five of the account and its next proposal, and the vote
of every owner it named.  Nothing else is posted but the simulation. -/
theorem executeMain_runs (documented : m.wallet.Documented) (calls : m.callSdk.Documented)
    (layout : m.callSdk.Layout) (one : defaultModuleAddr m.callSdk = .ok (smallAddress 1))
    (fits : amount < 2 ^ 64) {r : Except PyError Unit}
    (run : Runs (m.executeMain baseUrl passwordEntered mnemonicFile recipientAddr amount) t r)
    {body : Value} (posted : (submitUrl baseUrl, body) ∈ posts t) :
    ∃ senderAccount otherOwners multisigAddr rcpt,
      loadOwners m.crypto m.bip m.accountSdk passwordEntered m.fs mnemonicFile 5 =
        .ok (senderAccount :: otherOwners) ∧
      computeMultisigAccountAddr m.callSdk m.forResourceAccount
        (m.text senderAccount.accountAddress) 1 = .ok multisigAddr ∧
      m.callSdk.fromStrRelaxed recipientAddr = .ok rcpt ∧
      m.Posts baseUrl senderAccount
        (.multisig (createMultisig multisigAddr (transferCall rcpt amount)))
        (submitUrl baseUrl) body ∧
      ∃ before inspection after lastResolvedSeq voters simulated,
        t = before ++ inspection ++ after ∧
        m.Inspected baseUrl multisigAddr inspection lastResolvedSeq voters ∧
        posts t = posts inspection ++ [(simulateUrl baseUrl, simulated),
          (submitUrl baseUrl, body)] := by
  obtain ⟨senderAccount, otherOwners, multisigAddr, rcpt, _, before, inspection, after, sending, sent,
    loaded, computed, read, inspecting, run, split, same, posted⟩ :=
    sends_of_executeMain calls layout one fits run posted
  obtain ⟨lastResolvedSeq, voters, inspected⟩ := inspected_of_runs inspecting
  have carried := posts_of_sendAndWait documented run posted
  obtain ⟨acts, r', submission, sentPosts⟩ := sent_of_sendAndWait run
  rw [sentPosts] at posted
  obtain ⟨simulated, both⟩ := submission.posts_of_submitted posted
  refine ⟨senderAccount, otherOwners, multisigAddr, rcpt, loaded, computed, read, carried, before,
    inspection, after, lastResolvedSeq, voters, simulated, split, inspected, ?_⟩
  rw [same, sentPosts, both]
  rfl

open PhraseScripts in
theorem executeMain_runs_phrase : ∃ t body, Runs executeTwenty t (.ok ()) ∧
    (submitUrl sampleSending.baseUrl, body) ∈ posts t ∧
    ∃ senderAccount otherOwners account rcpt,
      loadOwners machine.crypto machine.bip machine.accountSdk "pw" machine.fs
        "mnemonic_new_multisig.enc" 5 = .ok (senderAccount :: otherOwners) ∧
      computeMultisigAccountAddr plainCalls machine.forResourceAccount
        (machine.text senderAccount.accountAddress) 1 = .ok account ∧
      plainCalls.fromStrRelaxed "0xb8" = .ok rcpt ∧
      machine.Posts sampleSending.baseUrl senderAccount
        (.multisig (createMultisig account (transferCall rcpt 20)))
        (submitUrl sampleSending.baseUrl) body ∧
      ∃ before inspection after lastResolvedSeq voters simulated,
        t = before ++ inspection ++ after ∧
        machine.Inspected sampleSending.baseUrl account inspection lastResolvedSeq voters ∧
        posts t = posts inspection ++ [(simulateUrl sampleSending.baseUrl, simulated),
          (submitUrl sampleSending.baseUrl, body)] := by
  obtain ⟨t, body, run, posted⟩ := exists_submitted execute_returns execute_submits
  exact ⟨t, body, run, posted, executeMain_runs wallet_documented plainCalls_documented
    plainCalls_layout rfl (by decide) run posted⟩

/-- **Executed is what was proposed.**  One mnemonic's first account proposes, and
later executes, whatever each of the runs was told.  What it submits is for one
multisig account, and the inner payload of the execution hashes to the hash
proposed exactly if both runs were asked for the same transfer. -/
theorem executeMain_proposeMain (documented : m.wallet.Documented) (calls : m.callSdk.Documented)
    (layout : m.callSdk.Layout) (one : defaultModuleAddr m.callSdk = .ok (smallAddress 1))
    {typeTag : T → Bytes} (sdkLayout : m.wallet.sdk.Layout typeTag)
    (free : PrefixFree m.wallet.sdk.entryFunction.write) {accountEntered : String}
    (firstAccount : (PyVal.str accountEntered : Value).toInt = .ok 0) (fits : amount < 2 ^ 64)
    {baseUrl' recipientAddr' : String} {amount' : Nat} (fits' : amount' < 2 ^ 64) {t' : Talk}
    {r r' : Except PyError Unit}
    (proposes : Runs (m.proposeMain baseUrl passwordEntered accountEntered mnemonicFile
      recipientAddr amount) t r)
    (executes : Runs (m.executeMain baseUrl' passwordEntered mnemonicFile recipientAddr' amount')
      t' r') {body body' : Value} (posted : (submitUrl baseUrl, body) ∈ posts t)
    (posted' : (submitUrl baseUrl', body') ∈ posts t') :
    ∃ account multisigAddr rcpt rcpt',
      m.callSdk.fromStrRelaxed recipientAddr = .ok rcpt ∧
      m.callSdk.fromStrRelaxed recipientAddr' = .ok rcpt' ∧
      m.Posts baseUrl account (.entryFunction (proposalCall multisigAddr
        (computeMultisigTxPayloadHash m.wallet.sdk m.sha3_256 (transferCall rcpt amount))))
        (submitUrl baseUrl) body ∧
      m.Posts baseUrl' account
        (.multisig (createMultisig multisigAddr (transferCall rcpt' amount')))
        (submitUrl baseUrl') body' ∧
      ((m.sha3_256 ((⟨transferCall rcpt' amount'⟩ : MultiSigTransactionPayload T).serialize
            m.wallet.sdk) =
          m.sha3_256 ((⟨transferCall rcpt amount⟩ : MultiSigTransactionPayload T).serialize
            m.wallet.sdk) →
        (⟨transferCall rcpt' amount'⟩ : MultiSigTransactionPayload T).serialize m.wallet.sdk =
          (⟨transferCall rcpt amount⟩ : MultiSigTransactionPayload T).serialize m.wallet.sdk) →
      (m.sha3_256 (innerPayloadBytes (executionBytes m.wallet.sdk multisigAddr
          (transferCall rcpt' amount'))) =
        computeMultisigTxPayloadHash m.wallet.sdk m.sha3_256 (transferCall rcpt amount) ↔
          rcpt' = rcpt ∧ amount' = amount)) := by
  obtain ⟨senderAccount, otherOwners, multisigAddr, rcpt', _, _, _, _, sending, _, loaded, computed',
    read', -, run, -, -, posted'⟩ := sends_of_executeMain calls layout one fits' executes posted'
  have carried' := posts_of_sendAndWait documented run posted'
  obtain ⟨senderAccount', senderAddr, multisigAddr', rcpt, derived, computed, read, carried⟩ :=
    posts_of_proposeMain documented calls layout one fits proposes posted
  have same := getAccountAddr_of_loadOwners m.accountSdk loaded firstAccount List.getElem?_cons_zero
  cases derived.symm.trans same
  cases computed.symm.trans computed'
  refine ⟨senderAccount, multisigAddr, rcpt, rcpt', read, read', carried, carried', ?_⟩
  intro noCollision
  rw [innerPayloadBytes_execution sdkLayout, computeMultisigTxPayloadHash,
    ← transferCall_inj fits' fits (T := T)]
  constructor
  · intro hashes
    exact (MultiSigTransactionPayload.serialize_inj free).mp (noCollision hashes)
  · intro calls
    rw [calls]

open PhraseScripts in
theorem executeMain_proposeMain_phrase : ∃ t body, Runs proposeTwenty t (.ok ()) ∧
    (submitUrl sampleSending.baseUrl, body) ∈ posts t ∧
    ∀ amount ∈ ([20, 21] : List Nat), ∃ t' body', Runs (executeTransfer amount) t' (.ok ()) ∧
    (submitUrl sampleSending.baseUrl, body') ∈ posts t' ∧
    ∃ account multisigAccount rcpt rcpt',
      plainCalls.fromStrRelaxed "0xb8" = .ok rcpt ∧ plainCalls.fromStrRelaxed "0xb8" = .ok rcpt' ∧
      machine.Posts sampleSending.baseUrl account (.entryFunction (proposalCall multisigAccount
        (computeMultisigTxPayloadHash bcsSdk machine.sha3_256 (transferCall rcpt 20))))
        (submitUrl sampleSending.baseUrl) body ∧
      machine.Posts sampleSending.baseUrl account
        (.multisig (createMultisig multisigAccount (transferCall rcpt' amount)))
        (submitUrl sampleSending.baseUrl) body' ∧
      ((machine.sha3_256 ((⟨transferCall rcpt' amount⟩ :
            MultiSigTransactionPayload TypeTag).serialize bcsSdk) =
          machine.sha3_256 ((⟨transferCall rcpt 20⟩ :
            MultiSigTransactionPayload TypeTag).serialize bcsSdk) →
        (⟨transferCall rcpt' amount⟩ : MultiSigTransactionPayload TypeTag).serialize bcsSdk =
          (⟨transferCall rcpt 20⟩ : MultiSigTransactionPayload TypeTag).serialize bcsSdk) →
      (machine.sha3_256 (innerPayloadBytes (executionBytes bcsSdk multisigAccount
          (transferCall rcpt' amount))) =
        computeMultisigTxPayloadHash bcsSdk machine.sha3_256 (transferCall rcpt 20) ↔
          rcpt' = rcpt ∧ amount = 20)) := by
  obtain ⟨t, body, proposes, posted⟩ := exists_submitted propose_returns propose_submits
  refine ⟨t, body, proposes, posted, fun amount known => ?_⟩
  have small : amount < 2 ^ 64 := by
    simp only [List.mem_cons, List.not_mem_nil, or_false] at known
    omega
  obtain ⟨t', body', executes, posted'⟩ :=
    exists_submitted (executeTransfer_returns amount known) (executeTransfer_submits amount known)
  exact ⟨t', body', executes, posted', executeMain_proposeMain wallet_documented
    plainCalls_documented plainCalls_layout rfl bcsSdk_layout
    bcsSdk_roundTrips.entryFunction.prefixFree (by decide) (by decide) small proposes executes
    posted posted'⟩

end Execution

end Machine

end SupraFromScratch.Client
