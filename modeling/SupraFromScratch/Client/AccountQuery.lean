/-
# Client.AccountQuery — what a failed account query is taken for

An answer of the accounts endpoint is an account, the absence of one, or
neither (`AccountAnswer`).  The client has two markers for "nothing there":
`get_json` answers `{}` where it failed, and `account_exists` looks for `None`.
So a failed query is an existing account to every caller of `account_exists`,
and only `get_account_seq_num` raises on it.

`notMistaken_iff` says exactly which answers are taken for what they are.
-/
import SupraFromScratch.Client.CheckBalance
import SupraFromScratch.Client.EntryFunc

namespace SupraFromScratch.Client

set_option autoImplicit false

open SupraFromScratch.Theory

/-! ## The callers -/

section Callers

variable {T : Type} (net : Network) (sdk : CallSdk T Value) (baseUrl accountAddr : String)

/-- `get_account_seq_num`. -/
def getAccountSeqNum : Except PyError Int := do
  let account ← getAccount net baseUrl accountAddr
  (← account.getKey "sequence_number").toInt

/-- `create_transfer_supra_entry_func`: the call and its gas limit. -/
def createTransferSupraEntryFunc (rcptAccountAddr : String) (amount : Int) :
    Except PyError (EntryFunction T × Int) := do
  let maxGas := if ← accountExists net baseUrl rcptAccountAddr then 10 else 1020
  let rcpt ← sdk.fromStrRelaxed rcptAccountAddr
  let entryFunc ← createEntryFunc sdk "supra_account" "transfer" [rcpt.toPy, .int amount]
    [sdk.struct, sdk.u64] (← defaultModuleAddr sdk)
  return (entryFunc, maxGas)

end Callers

/-! ## What an answer says -/

inductive AccountAnswer where
  | account (sequenceNumber : Int)
  | absent
  | unreadable
  deriving DecidableEq, Repr

def AccountAnswer.ofNumber : Except PyError Int → AccountAnswer
  | .ok sequenceNumber => .account sequenceNumber
  | .error _ => .unreadable

/-- A node answers `null` for no account, and an object with a sequence number
for an account; anything else says nothing about the account. -/
def Response.accountAnswer (resp : Response) : AccountAnswer :=
  match resp.json with
  | some .none => .absent
  | some (.dict items) =>
      match items.lookup "sequence_number" with
      | some v => .ofNumber v.toInt
      | none => .unreadable
  | _ => .unreadable

section Answers

variable {net : Network} {baseUrl accountAddr : String} {resp : Response}

theorem Response.accountAnswer_eq_absent_iff :
    resp.accountAnswer = .absent ↔ resp.json = some .none := by
  unfold accountAnswer
  refine ⟨fun h => ?_, fun h => by rw [h]⟩
  split at h
  · assumption
  · split at h
    · rename_i v _
      cases hnumber : v.toInt <;> simp [AccountAnswer.ofNumber, hnumber] at h
    · cases h
  · cases h

theorem getAccount_eq (answered : net.get (accountUrl baseUrl accountAddr) = .ok resp) :
    getAccount net baseUrl accountAddr = .ok (resp.json.getD (.dict [])) := by
  rw [getAccount, getJson, answered]
  rfl

/-- The existence test tells absence from everything else. -/
theorem accountExists_eq (answered : net.get (accountUrl baseUrl accountAddr) = .ok resp) :
    accountExists net baseUrl accountAddr = .ok (decide (resp.accountAnswer ≠ .absent)) := by
  have marker : (resp.json.getD (.dict [])).isNone = decide (resp.accountAnswer = .absent) := by
    rw [Bool.eq_iff_iff, decide_eq_true_iff, Response.accountAnswer_eq_absent_iff,
      PyVal.isNone_eq_true_iff]
    cases resp.json <;> simp
  rw [accountExists, getAccount_eq answered]
  change Except.ok (!(resp.json.getD (.dict [])).isNone) = _
  rw [marker, ← decide_not]

theorem getAccountSeqNum_eq_ok_iff
    (answered : net.get (accountUrl baseUrl accountAddr) = .ok resp) {n : Int} :
    getAccountSeqNum net baseUrl accountAddr = .ok n ↔ resp.accountAnswer = .account n := by
  have unread {e : PyError} : (Except.error e : Except PyError Int) = .ok n ↔
      AccountAnswer.unreadable = .account n := by simp
  rw [getAccountSeqNum, getAccount_eq answered, ok_bind, Response.accountAnswer]
  cases resp.json with
  | none => exact unread
  | some v =>
    rw [Option.getD_some]
    cases v with
    | dict items =>
      dsimp only
      rw [PyVal.getKey_dict]
      cases items.lookup "sequence_number" with
      | none => exact unread
      | some w =>
        change w.toInt = _ ↔ AccountAnswer.ofNumber w.toInt = _
        cases w.toInt with
        | error e => exact unread
        | ok m => simp [AccountAnswer.ofNumber]
    | none => exact ⟨fun h => (by cases h), fun h => (by cases h)⟩
    | _ => exact unread

end Answers

/-! ## What follows from the existence test -/

/-- The balance goes on to the coin store: it depends on that endpoint's answer. -/
def ReadsBalance (net : Network) (baseUrl accountAddr : String) : Prop :=
  ∃ net' : Network,
    (∀ url, url ≠ resourceUrl baseUrl accountAddr SUPRA_COIN_STORE → net'.get url = net.get url) ∧
    getAccountSupraCoinBalance net' baseUrl accountAddr ≠
      getAccountSupraCoinBalance net baseUrl accountAddr

/-- The same node, with one endpoint down. -/
def Network.without (net : Network) (url : String) (e : PyError) : Network where
  get u := if u = url then .error e else net.get u

section Consequences

variable {net net' : Network} {baseUrl accountAddr : String}

theorem accountUrl_ne_resourceUrl (resourceType : String) :
    accountUrl baseUrl accountAddr ≠ resourceUrl baseUrl accountAddr resourceType := by
  intro same
  have lengths := congrArg String.length same
  have shown : "/resources/".length = 11 := by decide
  rw [resourceUrl, String.length_append, String.length_append, shown] at lengths
  omega

/-- One answer decides the existence test. -/
theorem accountExists_congr
    (same : net'.get (accountUrl baseUrl accountAddr) = net.get (accountUrl baseUrl accountAddr)) :
    accountExists net' baseUrl accountAddr = accountExists net baseUrl accountAddr := by
  unfold accountExists getAccount getJson
  rw [same]

theorem balance_eq_error {e : PyError}
    (asked : accountExists net baseUrl accountAddr = .error e) :
    getAccountSupraCoinBalance net baseUrl accountAddr = .error e := by
  rw [getAccountSupraCoinBalance, asked, error_bind]

theorem balance_eq_zero (asked : accountExists net baseUrl accountAddr = .ok false) :
    getAccountSupraCoinBalance net baseUrl accountAddr = .ok 0 := by
  rw [getAccountSupraCoinBalance, asked]
  rfl

theorem balance_without {e : PyError}
    (asked : accountExists net baseUrl accountAddr = .ok true) :
    getAccountSupraCoinBalance
      (net.without (resourceUrl baseUrl accountAddr SUPRA_COIN_STORE) e) baseUrl accountAddr =
        .error e := by
  have same : accountExists (net.without (resourceUrl baseUrl accountAddr SUPRA_COIN_STORE) e)
      baseUrl accountAddr = .ok true := by
    rw [← asked]
    exact accountExists_congr (if_neg (accountUrl_ne_resourceUrl SUPRA_COIN_STORE))
  have down : (net.without (resourceUrl baseUrl accountAddr SUPRA_COIN_STORE) e).get
      (resourceUrl baseUrl accountAddr SUPRA_COIN_STORE) = .error e := if_pos rfl
  rw [getAccountSupraCoinBalance, same, ok_bind, getResourceData, getJson, down]
  rfl

/-- A balance is read exactly where the account is taken to exist. -/
theorem readsBalance_iff :
    ReadsBalance net baseUrl accountAddr ↔ accountExists net baseUrl accountAddr = .ok true := by
  constructor
  · rintro ⟨net', same, differs⟩
    have asked := accountExists_congr (same _ (accountUrl_ne_resourceUrl SUPRA_COIN_STORE))
    cases hex : accountExists net baseUrl accountAddr with
    | error e =>
      rw [hex] at asked
      exact absurd ((balance_eq_error asked).trans (balance_eq_error hex).symm) differs
    | ok found =>
      cases found with
      | false =>
        rw [hex] at asked
        exact absurd ((balance_eq_zero asked).trans (balance_eq_zero hex).symm) differs
      | true => rfl
  · intro asked
    -- of two ways to be down, one is not what the balance is now
    have other : ∃ e, .error e ≠ getAccountSupraCoinBalance net baseUrl accountAddr := by
      by_cases first : .error (.runtimeError "") = getAccountSupraCoinBalance net baseUrl accountAddr
      · refine ⟨.exception "", ?_⟩
        rw [← first]
        simp
      · exact ⟨_, first⟩
    obtain ⟨e, differs⟩ := other
    refine ⟨net.without (resourceUrl baseUrl accountAddr SUPRA_COIN_STORE) e,
      fun url elsewhere => if_neg elsewhere, ?_⟩
    rw [balance_without asked]
    exact differs

/-- The gas limit of a transfer is the existence test's. -/
theorem createTransferSupraEntryFunc_gas {T : Type} {sdk : CallSdk T Value} {amount : Int}
    {call : EntryFunction T × Int}
    (created : createTransferSupraEntryFunc net sdk baseUrl accountAddr amount = .ok call) :
    ∃ found, accountExists net baseUrl accountAddr = .ok found ∧
      call.2 = if found then 10 else 1020 := by
  unfold createTransferSupraEntryFunc at created
  obtain ⟨found, asked, created⟩ := bind_eq_ok.mp created
  obtain ⟨rcpt, -, created⟩ := bind_eq_ok.mp created
  obtain ⟨moduleAddr, -, created⟩ := bind_eq_ok.mp created
  obtain ⟨entryFunc, -, created⟩ := bind_eq_ok.mp created
  cases created
  exact ⟨found, asked, rfl⟩

end Consequences

/-! ## Failed queries -/

/-- The answer is one that a sequence number is read from. -/
def IsAccount (net : Network) (baseUrl accountAddr : String) : Prop :=
  ∃ n, getAccountSeqNum net baseUrl accountAddr = .ok n

/-- Nothing but an account is taken for an existing account: not by the test, not
for a transfer's gas, not for a balance. -/
structure NotMistaken (net : Network) (baseUrl accountAddr : String) : Prop where
  existence : accountExists net baseUrl accountAddr = .ok true → IsAccount net baseUrl accountAddr
  gas : ∀ {T : Type} (sdk : CallSdk T Value) (amount : Int) (e : EntryFunction T),
    createTransferSupraEntryFunc net sdk baseUrl accountAddr amount = .ok (e, 10) →
      IsAccount net baseUrl accountAddr
  balance : ReadsBalance net baseUrl accountAddr → IsAccount net baseUrl accountAddr

/-- **What is taken for what it is.**  Exactly the answers that are an account or
the absence of one. -/
theorem notMistaken_iff {net : Network} {baseUrl accountAddr : String} {resp : Response}
    (answered : net.get (accountUrl baseUrl accountAddr) = .ok resp) :
    NotMistaken net baseUrl accountAddr ↔ resp.accountAnswer ≠ .unreadable := by
  constructor
  · intro right unreadable
    have asked : accountExists net baseUrl accountAddr = .ok true := by
      rw [accountExists_eq answered, unreadable]
      rfl
    obtain ⟨n, read⟩ := right.existence asked
    rw [getAccountSeqNum_eq_ok_iff answered, unreadable] at read
    cases read
  · intro readable
    have existence : accountExists net baseUrl accountAddr = .ok true →
        IsAccount net baseUrl accountAddr := by
      intro asked
      rw [accountExists_eq answered, Except.ok.injEq, decide_eq_true_iff] at asked
      cases hanswer : resp.accountAnswer with
      | account n => exact ⟨n, (getAccountSeqNum_eq_ok_iff answered).mpr hanswer⟩
      | absent => exact absurd hanswer asked
      | unreadable => exact absurd hanswer readable
    refine ⟨existence, ?_, fun reads => existence (readsBalance_iff.mp reads)⟩
    intro T sdk amount e created
    obtain ⟨found, asked, gas⟩ := createTransferSupraEntryFunc_gas created
    cases found with
    | false => cases gas
    | true => exact existence asked

/-- A node that answers every request with this. -/
def nodeAnswering (resp : Response) : Network where
  get _ := .ok resp

/-- An account with one transaction. -/
def accountResponse : Response where
  json := some (.dict [("sequence_number", .int 1), ("authentication_key", .str "0x0b")])
  isDecoded := by
    rintro v ⟨⟩
    rfl

theorem notMistaken_iff_account :
    NotMistaken (nodeAnswering accountResponse) "https://rpc-mainnet.supra.com" "0xb8" ↔
      accountResponse.accountAnswer ≠ .unreadable :=
  notMistaken_iff rfl

/-- A gateway's error page. -/
def errorPage : Response := .notJson

/-- An outage is an existing account to a transfer's gas limit. -/
theorem errorPage_mistaken :
    let net := nodeAnswering errorPage
    let url := "https://rpc-mainnet.supra.com"
    accountExists net url "0xb8" = .ok true ∧
      (createTransferSupraEntryFunc net plainCalls url "0xb8" 20).map Prod.snd = .ok 10 ∧
      getAccountSeqNum net url "0xb8" = .error (.keyError "sequence_number") ∧
      ¬ NotMistaken net url "0xb8" := by
  refine ⟨rfl, rfl, rfl, ?_⟩
  intro right
  obtain ⟨n, read⟩ := right.existence rfl
  cases read

end SupraFromScratch.Client
