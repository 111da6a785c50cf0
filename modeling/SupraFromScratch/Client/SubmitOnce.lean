/-
# Client.SubmitOnce — no more than was asked for, and nothing unseen

Five scripts send through `send_tx`: the transfers, and the four of the multisig
account.  `submit_once` holds of all of them and whatever the node answers: a
script submits at most as often as it was asked to, also where a submission
fails, and every transaction it submits is one the node has answered a
simulation of in the same run.
-/
import SupraFromScratch.Client.ExecuteMultisig

namespace SupraFromScratch.Client

set_option autoImplicit false

open SupraFromScratch.Theory
open Prog (ofExcept Runs Asks AtMost Always)

/-! ## Submissions -/

def Ask.isSubmission (baseUrl : String) : Ask → Bool
  | .post url _ => url == submitUrl baseUrl
  | _ => false

/-- The transaction in a body. -/
def readRawTxn (body : Value) : Except PyError Value := do
  (← body.getKey "Move").getKey "raw_txn"

/-- Before a body is submitted, one with its transaction was simulated, and the
node has answered. -/
def SimulatedFirst (baseUrl : String) (t : Talk) : Prop :=
  ∀ before body answer after, t = before ++ ⟨.post (submitUrl baseUrl) body, answer⟩ :: after →
    ∃ simulated resp raw, ⟨.post (simulateUrl baseUrl) simulated, .ok resp⟩ ∈ before ∧
      readRawTxn simulated = .ok raw ∧ readRawTxn body = .ok raw

/-- A session that submits at most `n` times, and only what was simulated first. -/
structure Orderly {α : Type} (baseUrl : String) (n : Nat) (p : Session α) : Prop where
  atMost : AtMost (Ask.isSubmission baseUrl) n p
  simulatedFirst : Always (SimulatedFirst baseUrl) p

section Rules

variable {baseUrl : String} {α β : Type} {p : Session α} {f : α → Session β} {n k : Nat}

theorem simulatedFirst_of_none {t : Talk}
    (none : ∀ event ∈ t, event.question.isSubmission baseUrl = false) : SimulatedFirst baseUrl t := by
  rintro before body answer after rfl
  have other := none ⟨.post (submitUrl baseUrl) body, answer⟩ (by simp)
  simp [Ask.isSubmission] at other

theorem SimulatedFirst.append (t t' : Talk) (first : SimulatedFirst baseUrl t)
    (second : SimulatedFirst baseUrl t') : SimulatedFirst baseUrl (t ++ t') := by
  intro before body answer after split
  rcases List.append_eq_append_iff.mp split with ⟨early, rfl, late⟩ | ⟨late, rfl, rest⟩
  · obtain ⟨simulated, resp, raw, mem, same⟩ := second early body answer after late
    exact ⟨simulated, resp, raw, List.mem_append_right _ mem, same⟩
  · cases late with
    | nil =>
      obtain ⟨simulated, resp, raw, mem, -⟩ := second [] body answer after rest.symm
      cases mem
    | cons event late =>
      obtain ⟨rfl, -⟩ := List.cons.inj rest
      exact first before body answer late rfl

/-- What submits nothing is orderly. -/
theorem orderly_of_none (none : Asks (fun ask => ask.isSubmission baseUrl = false) p) :
    Orderly baseUrl 0 p where
  atMost := none.atMost_zero
  simulatedFirst t r run := simulatedFirst_of_none (none t r run)

theorem ReadsOnly.orderly (quiet : ReadsOnly p) : Orderly baseUrl 0 p := by
  apply orderly_of_none
  intro t r run event mem
  have silent : event.question.posted = none := quiet t r run event mem
  cases asked : event.question with
  | post url d =>
    rw [asked] at silent
    cases silent
  | _ => rfl

theorem Orderly.mono (orderly : Orderly baseUrl n p) (le : n ≤ k) : Orderly baseUrl k p :=
  ⟨orderly.atMost.mono le, orderly.simulatedFirst⟩

theorem Orderly.bind (first : Orderly baseUrl n p) (second : ∀ a, Orderly baseUrl k (f a)) :
    Orderly baseUrl (n + k) (p >>= f) where
  atMost := first.atMost.bind fun a => (second a).atMost
  simulatedFirst := .bind SimulatedFirst.append first.simulatedFirst
    fun a => (second a).simulatedFirst

theorem Orderly.before (first : Orderly baseUrl n p) (second : ∀ a, ReadsOnly (f a)) :
    Orderly baseUrl n (p >>= f) :=
  first.bind fun a => (second a).orderly

theorem Orderly.after (first : Orderly baseUrl 0 p) (second : ∀ a, Orderly baseUrl n (f a)) :
    Orderly baseUrl n (p >>= f) :=
  (first.bind second).mono (Nat.le_of_eq (Nat.zero_add n))

theorem orderly_ofExcept_bind {x : Except PyError α} (rest : ∀ a, Orderly baseUrl n (f a)) :
    Orderly baseUrl n (ofExcept x >>= f) :=
  .after (ReadsOnly.orderly (Prog.asks_ofExcept x)) rest

theorem Orderly.forUntil {body : β → Session Bool} (turn : ∀ x, Orderly baseUrl n (body x))
    (xs : List β) : Orderly baseUrl (xs.length * n) (Prog.forUntil body xs) where
  atMost := .forUntil (fun x => (turn x).atMost) xs
  simulatedFirst := .forUntil (simulatedFirst_of_none (by simp)) SimulatedFirst.append
    (fun x => (turn x).simulatedFirst) xs

end Rules

/-! ## One sending -/

section Sent

variable {T A : Type} {s : Sending T A} {acts : Talk} {r : Except PyError String}

/-- The bodies of one transaction hold it, whoever signs them. -/
theorem readRawTxn_signedTxDict {key key' : Key} {o : Opening} {simulated submitted : Value}
    (signed : signedTxDict s.wallet s.pubKey key (s.tx o) = .ok simulated)
    (signed' : signedTxDict s.wallet s.pubKey key' (s.tx o) = .ok submitted) :
    ∃ raw, readRawTxn simulated = .ok raw ∧ readRawTxn submitted = .ok raw := by
  obtain ⟨_, raw, _, converted, rfl⟩ := signedTxDict_eq_ok_iff.mp signed
  obtain ⟨_, raw', _, converted', rfl⟩ := signedTxDict_eq_ok_iff.mp signed'
  cases converted.symm.trans converted'
  exact ⟨raw, rfl, rfl⟩

/-- A sending submits nothing, or one body, and that at its end. -/
theorem Sending.Sent.submits (sent : s.Sent acts r) :
    (∀ event ∈ acts, event.question.isSubmission s.baseUrl = false) ∨
      ∃ before simulated resp body answer raw,
        acts = before ++ [⟨.post (simulateUrl s.baseUrl) simulated, .ok resp⟩,
          ⟨.post (submitUrl s.baseUrl) body, answer⟩] ∧
        (∀ event ∈ before, event.question.isSubmission s.baseUrl = false) ∧
        readRawTxn simulated = .ok raw ∧ readRawTxn body = .ok raw := by
  have other := (submitUrl_ne_simulateUrl s.baseUrl).symm
  cases sent with
  | noAccount account e unread => simp [Ask.isSubmission]
  | noChainId account seq read now chain e unread => simp [Ask.isSubmission]
  | unsigned o key e raises => simp [Sending.opened, Ask.isSubmission]
  | notSimulated o key simulated signed encoded e =>
    simp [Sending.opened, Ask.isSubmission, other]
  | submitted o key simulated submitted signed signed' encoded simulation answer =>
    obtain ⟨raw, same, same'⟩ := readRawTxn_signedTxDict signed signed'
    refine Or.inr ⟨s.opened o ++ [⟨.randomKey, key⟩], simulated, simulation, submitted, answer, raw,
      by simp, ?_, same, same'⟩
    simp [Sending.opened, Ask.isSubmission]

/-- The prints of a talk are no submissions. -/
theorem countP_actions (baseUrl : String) (t : Talk) :
    (actions t).countP (fun event => event.question.isSubmission baseUrl) =
      t.countP fun event => event.question.isSubmission baseUrl := by
  rw [actions, List.countP_filter]
  apply List.countP_congr
  rintro ⟨ask, answer⟩ -
  cases ask <;> simp [Ask.isSubmission, Ask.isPrint]

theorem simulatedFirst_of_actions {baseUrl : String} {t : Talk}
    (first : SimulatedFirst baseUrl (actions t)) : SimulatedFirst baseUrl t := by
  rintro before body answer after rfl
  obtain ⟨simulated, resp, raw, mem, same⟩ :=
    first (actions before) body answer (actions after) (by rw [actions_append]; rfl)
  exact ⟨simulated, resp, raw, List.mem_of_mem_filter mem, same⟩

/-- The only submission of a talk that ends with it. -/
theorem only_submission {baseUrl : String} {front before after : Talk}
    {event other : Event Ask Ask.Answer}
    (none : ∀ event ∈ front, event.question.isSubmission baseUrl = false)
    (submits : other.question.isSubmission baseUrl = true)
    (split : front ++ [event] = before ++ other :: after) : before = front ∧ other = event := by
  rcases List.append_eq_append_iff.mp split with ⟨mid, rfl, last⟩ | ⟨mid, rfl, rest⟩
  · cases mid with
    | nil => exact ⟨List.append_nil _, (List.cons.inj last).1.symm⟩
    | cons m mid => simp at last
  · cases mid with
    | nil => exact ⟨(List.append_nil _).symm, (List.cons.inj rest).1⟩
    | cons m mid =>
      have same : other = m := (List.cons.inj rest).1
      rw [none other (by simp [same])] at submits
      cases submits

theorem countP_of_none {baseUrl : String} {t : Talk}
    (none : ∀ event ∈ t, event.question.isSubmission baseUrl = false) :
    t.countP (fun event => event.question.isSubmission baseUrl) = 0 := by
  apply List.countP_eq_zero.mpr
  intro event mem
  rw [none event mem]
  exact Bool.false_ne_true

/-- `send_tx` simulates, and then submits. -/
theorem orderly_sendTx (s : Sending T A) : Orderly s.baseUrl 1 s.session := by
  have other : ∀ body,
      (Ask.post (simulateUrl s.baseUrl) body).isSubmission s.baseUrl = false := fun body =>
    beq_false_of_ne (Sending.submitUrl_ne_simulateUrl s.baseUrl).symm
  refine ⟨fun t r run => ?_, fun t r run => simulatedFirst_of_actions ?_⟩
  · rw [← countP_actions]
    rcases (s.sent_of_runs run).submits with none |
      ⟨front, simulated, resp, body, answer, raw, acted, none, -⟩
    · rw [countP_of_none none]
      exact Nat.zero_le 1
    · rw [acted, List.countP_append, countP_of_none none, List.countP_cons_of_neg (by simp [other])]
      exact (Nat.zero_add _).symm ▸ List.countP_le_length
  · rcases (s.sent_of_runs run).submits with none |
      ⟨front, simulated, resp, submitted, answer, raw, acted, none, same, same'⟩
    · exact simulatedFirst_of_none none
    · rw [acted, List.append_cons]
      intro before body answer' after split
      have quiet : ∀ event ∈ front ++ [⟨.post (simulateUrl s.baseUrl) simulated, .ok resp⟩],
          event.question.isSubmission s.baseUrl = false := by
        intro event mem
        rcases List.mem_append.mp mem with mem | mem
        · exact none event mem
        · rw [List.mem_singleton.mp mem]
          exact other simulated
      -- the submission is the last act, and the simulation the one before it
      obtain ⟨rfl, submission⟩ := only_submission quiet (by simp [Ask.isSubmission]) split
      cases submission
      exact ⟨simulated, resp, raw, by simp, same, same'⟩

end Sent

/-! ## The scripts -/

section Scripts

variable {T A : Type} {m : Machine T A} {baseUrl : String}

theorem orderly_sendAndWait (senderAccount : Account) (payloadContent : PayloadValue T A) :
    Orderly baseUrl 1 (m.sendAndWait baseUrl senderAccount payloadContent) := by
  refine .before (orderly_sendTx (m.sending baseUrl senderAccount payloadContent)) fun txHash => ?_
  exact (Session.readsOnly_print _).bind fun _ =>
    (Session.readsOnly_waitForTx m.py baseUrl txHash 3 5 false).bind fun _ => Prog.asks_pure _

theorem orderly_transferLoop (s : Sending T A) (recipientAddr : String) (repeats : Int) :
    Orderly s.baseUrl repeats.toNat (Session.transferLoop s recipientAddr repeats) := by
  have turn : Orderly s.baseUrl 1 (Session.transferTurn s recipientAddr) := by
    refine .after (Session.readsOnly_getAccountSupraCoinBalance _ _).orderly fun senderBefore => ?_
    refine .after (Session.readsOnly_getAccountSupraCoinBalance _ _).orderly fun rcptBefore => ?_
    refine .after Session.readsOnly_time.orderly fun startTime => ?_
    exact .before (orderly_sendTx s) fun txHash =>
      Session.readsOnly_followUp s recipientAddr senderBefore rcptBefore startTime txHash
  have turns := Orderly.forUntil
    (fun _ => turn.before fun _ => Prog.asks_pure false) (List.range repeats.toNat)
  rw [List.length_range, Nat.mul_one] at turns
  exact turns.before fun _ => Prog.asks_pure ()

/-- Views are no submissions. -/
theorem orderly_inspect (multisigAddr : AccountAddress) (ownerAddrs : List String) :
    Orderly baseUrl 0 (m.inspect baseUrl multisigAddr ownerAddrs) := by
  apply orderly_of_none
  intro t r run event mem
  have views := Machine.asks_inspect multisigAddr ownerAddrs t r run event mem
  cases asked : event.question with
  | post url d =>
    have view : url = viewUrl baseUrl := views (url, d) (by rw [asked]; rfl)
    rw [view]
    exact beq_false_of_ne (Machine.viewUrl_ne_submitUrl baseUrl)
  | _ => rfl

/-- A run of a script that sends through `send_tx`, as it is asked for. -/
inductive Invocation where
  | transfer (senderAccount : Account) (recipientAddr : String) (amount repeats : Int)
  | createMultisig (passwordEntered mnemonicFile : String) (numSigners threshold : Int)
  | propose (passwordEntered accountEntered mnemonicFile recipientAddr : String) (amount : Int)
  | vote (passwordEntered accountEntered mnemonicFile multisigAddress : String)
      (multisigTxSeq : Int) (approved : Bool)
  | execute (passwordEntered mnemonicFile recipientAddr : String) (amount : Int)

namespace Invocation

def session (m : Machine T A) (baseUrl : String) : Invocation → Session Unit
  | transfer senderAccount recipientAddr amount repeats =>
      Session.transferMain m.py m.wallet m.callSdk m.sha3_256 baseUrl senderAccount recipientAddr
        amount repeats
  | createMultisig passwordEntered mnemonicFile numSigners threshold =>
      m.createMultisigMain baseUrl passwordEntered mnemonicFile numSigners threshold
  | propose passwordEntered accountEntered mnemonicFile recipientAddr amount =>
      m.proposeMain baseUrl passwordEntered accountEntered mnemonicFile recipientAddr amount
  | vote passwordEntered accountEntered mnemonicFile multisigAddress multisigTxSeq approved =>
      m.voteMain baseUrl passwordEntered accountEntered mnemonicFile multisigAddress multisigTxSeq
        approved
  | execute passwordEntered mnemonicFile recipientAddr amount =>
      m.executeMain baseUrl passwordEntered mnemonicFile recipientAddr amount

/-- How often it was asked to submit: the transfers `repeat` times, the others once. -/
def limit : Invocation → Nat
  | transfer _ _ _ repeats => repeats.toNat
  | _ => 1

end Invocation

theorem orderly_transferMain (senderAccount : Account) (recipientAddr : String)
    (amount repeats : Int) :
    Orderly baseUrl repeats.toNat (Session.transferMain m.py m.wallet m.callSdk m.sha3_256 baseUrl
      senderAccount recipientAddr amount repeats) := by
  refine .after (Session.readsOnly_print _).orderly fun _ => ?_
  refine .after (Session.readsOnly_createTransferSupraEntryFunc _ _ _ _).orderly fun call => ?_
  obtain ⟨entryFunc, maxGas⟩ := call
  exact orderly_transferLoop
    { py := m.py, wallet := m.wallet, sha3_256 := m.sha3_256, baseUrl, senderAccount
      payloadContent := .entryFunction entryFunc, maxGas, gasPrice := 100 } recipientAddr repeats

theorem orderly_createMultisigMain (passwordEntered mnemonicFile : String)
    (numSigners threshold : Int) :
    Orderly baseUrl 1
      (m.createMultisigMain baseUrl passwordEntered mnemonicFile numSigners threshold) := by
  refine orderly_ofExcept_bind fun privateKeys => orderly_ofExcept_bind fun senderAccount => ?_
  refine orderly_ofExcept_bind fun otherOwners => ?_
  refine .after (Session.readsOnly_getAccountSupraCoinBalance _ _).orderly fun balance => ?_
  refine .after (Session.readsOnly_print _).orderly fun _ => ?_
  refine orderly_ofExcept_bind fun entryFunc => ?_
  exact (orderly_sendAndWait _ _).before fun _ => Prog.asks_pure ()

theorem orderly_proposeMain (passwordEntered accountEntered mnemonicFile recipientAddr : String)
    (amount : Int) :
    Orderly baseUrl 1 (m.proposeMain baseUrl passwordEntered accountEntered mnemonicFile
      recipientAddr amount) := by
  have proposes : Orderly baseUrl 1 (m.propose baseUrl passwordEntered accountEntered mnemonicFile
      recipientAddr amount) := by
    refine orderly_ofExcept_bind fun sender => orderly_ofExcept_bind fun multisigAddr => ?_
    refine .after (Session.readsOnly_print _).orderly fun _ => ?_
    refine .after (Session.readsOnly_createTransferSupraEntryFunc _ _ _ _).orderly fun call => ?_
    refine .after (Session.readsOnly_printBalance _ _).orderly fun balance => ?_
    refine .after (Machine.readsOnly_topUp _ _ _ _).orderly fun _ => ?_
    exact orderly_ofExcept_bind fun entryFunc => orderly_sendAndWait _ _
  exact proposes.before fun txHash => (Session.readsOnly_sleep 5).bind fun _ =>
    (Session.readsOnly_getMultisigTxSequenceFromTxHash baseUrl txHash).bind fun _ =>
      Session.readsOnly_print _

theorem orderly_voteMain (passwordEntered accountEntered mnemonicFile multisigAddress : String)
    (multisigTxSeq : Int) (approved : Bool) :
    Orderly baseUrl 1 (m.voteMain baseUrl passwordEntered accountEntered mnemonicFile
      multisigAddress multisigTxSeq approved) := by
  refine orderly_ofExcept_bind fun sender => orderly_ofExcept_bind fun multisigAddr => ?_
  refine orderly_ofExcept_bind fun entryFunc => ?_
  exact (orderly_sendAndWait _ _).before fun _ => Prog.asks_pure ()

theorem orderly_executeMain (passwordEntered mnemonicFile recipientAddr : String) (amount : Int) :
    Orderly baseUrl 1
      (m.executeMain baseUrl passwordEntered mnemonicFile recipientAddr amount) := by
  refine orderly_ofExcept_bind fun owners => orderly_ofExcept_bind fun senderAccount => ?_
  refine orderly_ofExcept_bind fun senderAddr => orderly_ofExcept_bind fun multisigAddr => ?_
  refine .after (Session.readsOnly_print _).orderly fun _ => ?_
  refine .after (orderly_inspect _ _) fun _ => ?_
  refine .after (Session.readsOnly_createTransferSupraEntryFunc _ _ _ _).orderly fun call => ?_
  refine .after (Machine.readsOnly_printBalances _ _ _ _ _).orderly fun balance => ?_
  exact (orderly_sendAndWait _ _).before fun _ =>
    (Machine.readsOnly_printBalances _ _ _ _ _).bind fun _ => Prog.asks_pure ()

theorem Invocation.orderly (script : Invocation) :
    Orderly baseUrl script.limit (script.session m baseUrl) := by
  cases script with
  | transfer => exact orderly_transferMain _ _ _ _
  | createMultisig => exact orderly_createMultisigMain _ _ _ _
  | propose => exact orderly_proposeMain _ _ _ _ _
  | vote => exact orderly_voteMain _ _ _ _ _ _
  | execute => exact orderly_executeMain _ _ _ _

/-- **At most what was asked for, and nothing unseen.**  Whatever the node answers,
and however the script ends, it submits no more often than it was asked to, and
before each submission the node has answered a simulation of that transaction. -/
theorem submit_once (m : Machine T A) (baseUrl : String) (script : Invocation) {t : Talk}
    {r : Except PyError Unit} (run : Runs (script.session m baseUrl) t r) :
    t.countP (fun event => event.question.isSubmission baseUrl) ≤ script.limit ∧
      SimulatedFirst baseUrl t :=
  ⟨script.orderly.atMost t r run, script.orderly.simulatedFirst t r run⟩

open Machine PhraseScripts in
theorem submit_once_execute : ∃ t body, Runs executeTwenty t (.ok ()) ∧
    (submitUrl sampleSending.baseUrl, body) ∈ posts t ∧
    t.countP (fun event => event.question.isSubmission sampleSending.baseUrl) ≤ 1 ∧
      SimulatedFirst sampleSending.baseUrl t := by
  obtain ⟨t, body, run, posted⟩ := exists_submitted execute_returns execute_submits
  exact ⟨t, body, run, posted, submit_once machine sampleSending.baseUrl
    (.execute "pw" "mnemonic_new_multisig.enc" "0xb8" 20) run⟩

end Scripts

end SupraFromScratch.Client
