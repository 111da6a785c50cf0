/-
# Client.ViewMultisig — asking what a multisig account holds

`view_multisig_tx.py`.  A view is a post that changes nothing.  Where the node
does not answer with a result, the client goes on with an empty dictionary, and
every getter takes something out of it: all but the vote's take the first element,
and the vote's caller takes two.

`viewed_bind_eq_ok` says that what cannot be taken out of the empty dictionary, as
neither of these can, was taken out of the node's own result.
-/
import SupraFromScratch.Client.Session

namespace SupraFromScratch.Client

set_option autoImplicit false

open SupraFromScratch.Theory
open Prog (ofExcept Runs)

def viewUrl (baseUrl : String) : String := baseUrl ++ "/rpc/v1/view"

/-- The body of a view. -/
def viewBody (fullFunctionName : String) (args : List String) (typeArgs : List String := []) :
    Value :=
  .dict [("function", .str fullFunctionName), ("type_arguments", .list (typeArgs.map .str)),
    ("arguments", .list (args.map .str))]

/-- The result in what the node answers. -/
def readResult (res : Value) : Except PyError Value := res.getKey "result"

namespace Session

/-- `invoke_module_view_function`. -/
def invokeModuleViewFunction (baseUrl fullFunctionName : String) (args : List String)
    (typeArgs : List String := []) : Session Value := do
  let res ← postJson (viewUrl baseUrl) (viewBody fullFunctionName args typeArgs)
  match readResult res with
  | .ok result => return result
  | .error _ => do
    print [.text "Error in invoke_module_view_function: ", .value res]
    return .dict []

section Getters

-- `text` is `str` of an address
variable (text : AccountAddress → String) (baseUrl : String)

/-- The first result of a view, as all getters but the vote's take it. -/
def viewFirst (fullFunctionName : String) (args : List String) : Session Value := do
  let resData ← invokeModuleViewFunction baseUrl fullFunctionName args
  ofExcept (resData.getPos 0)

/-- The same, as a number. -/
def viewInt (fullFunctionName : String) (args : List String) : Session Int := do
  let first ← viewFirst baseUrl fullFunctionName args
  ofExcept first.toInt

/-- `get_multisig_account_owners`. -/
def getMultisigAccountOwners (accountAddr : AccountAddress) : Session Value :=
  viewFirst baseUrl "0x1::multisig_account::owners" [text accountAddr]

/-- `get_multisig_account_last_resolved_seq`. -/
def getMultisigAccountLastResolvedSeq (accountAddr : AccountAddress) : Session Int :=
  viewInt baseUrl "0x1::multisig_account::last_resolved_sequence_number" [text accountAddr]

/-- `get_multisig_account_next_sequence_number`. -/
def getMultisigAccountNextSequenceNumber (accountAddr : AccountAddress) : Session Int :=
  viewInt baseUrl "0x1::multisig_account::next_sequence_number" [text accountAddr]

/-- `get_multisig_num_signatures_required`. -/
def getMultisigNumSignaturesRequired (accountAddr : AccountAddress) : Session Int :=
  viewInt baseUrl "0x1::multisig_account::num_signatures_required" [text accountAddr]

/-- `get_multisig_tx_can_be_executed`. -/
def getMultisigTxCanBeExecuted (accountAddr : AccountAddress) (seqNum : Int) : Session Bool := do
  let first ← viewFirst baseUrl "0x1::multisig_account::can_be_executed"
    [text accountAddr, toString seqNum]
  return first.truth

/-- `get_multisig_tx_vote`, which answers the whole result. -/
def getMultisigTxVote (accountAddr : AccountAddress) (seqNum : Int) (voterAddr : AccountAddress) :
    Session Value :=
  invokeModuleViewFunction baseUrl "0x1::multisig_account::vote"
    [text accountAddr, toString seqNum, text voterAddr]

end Getters

end Session

/-! ## What a view answers -/

/-- What the client goes on with. -/
def viewed (answer : Except PyError Response) : Except PyError Value :=
  (decoded answer).map fun res => match readResult res with
    | .ok result => result
    | .error _ => .dict []

/-- The node answers with this result. -/
def Response.HasResult (resp : Response) (result : Value) : Prop :=
  readResult (resp.json.getD (.dict [])) = .ok result

section Viewed

variable {answer : Except PyError Response}

/-- What cannot be read off the empty dictionary is read off the node's result. -/
theorem viewed_bind_eq_ok {α : Type} {read : Value → Except PyError α}
    (empty : ∃ e, read (.dict []) = .error e) {a : α} :
    viewed answer >>= read = .ok a ↔
      ∃ resp result, answer = .ok resp ∧ resp.HasResult result ∧ read result = .ok a := by
  obtain ⟨e, raises⟩ := empty
  constructor
  · intro taken
    cases answer with
    | error e' => cases taken
    | ok resp =>
      change read (match readResult (resp.json.getD (.dict [])) with
        | .ok result => result
        | .error _ => .dict []) = .ok a at taken
      cases result : readResult (resp.json.getD (.dict [])) with
      | ok v =>
        rw [result] at taken
        exact ⟨resp, v, rfl, result, taken⟩
      | error e' =>
        rw [result] at taken
        rw [raises] at taken
        cases taken
  · rintro ⟨resp, result, rfl, has, taken⟩
    change read (match readResult (resp.json.getD (.dict [])) with
      | .ok result => result
      | .error _ => .dict []) = .ok a
    rw [show readResult (resp.json.getD (.dict [])) = .ok result from has]
    exact taken

end Viewed

/-! ## What a view asks -/

theorem jsonDumpsList_map_str (items : List String) :
    jsonDumpsList (items.map fun s => (.str s : Value)) = .ok () := by
  induction items with
  | nil => rfl
  | cons s items ih => exact ih

/-- Every view can be sent. -/
theorem jsonDumps_viewBody (name : String) (args typeArgs : List String) :
    jsonDumps (viewBody name args typeArgs) = .ok () := by
  simp only [viewBody, jsonDumps, jsonDumpsItems, jsonDumpsList_map_str]
  rfl

namespace Session

variable {baseUrl name : String} {args : List String} {t : Talk}

theorem runs_invokeModuleViewFunction {typeArgs : List String} {r : Except PyError Value}
    (run : Runs (invokeModuleViewFunction baseUrl name args typeArgs) t r) :
    ∃ answer : Except PyError Response,
      actions t = [⟨.post (viewUrl baseUrl) (viewBody name args typeArgs), answer⟩] ∧
        r = viewed answer := by
  have sent : ∀ {t' r'}, Runs (postJson (viewUrl baseUrl) (viewBody name args typeArgs)) t' r' →
      ∃ answer : Except PyError Response,
        actions t' = [⟨.post (viewUrl baseUrl) (viewBody name args typeArgs), answer⟩] ∧
          r' = decoded answer := by
    intro t' r' posted
    rcases runs_postJson posted with ⟨e, unsent, -⟩ | ⟨-, asked⟩
    · rw [jsonDumps_viewBody] at unsent
      cases unsent
    · exact asked
  rcases Prog.runs_bind.mp run with ⟨t₁, res, t₂, rfl, posted, rest⟩ | ⟨e, rfl, posted⟩
  · obtain ⟨answer, acted, answered⟩ := sent posted
    have ended : actions t₂ = [] ∧ r = .ok (match readResult res with
        | .ok result => result
        | .error _ => .dict []) := by
      cases result : readResult res with
      | ok v =>
        rw [result] at rest
        obtain ⟨rfl, rfl⟩ := Prog.runs_pure.mp rest
        exact ⟨rfl, rfl⟩
      | error e =>
        rw [result] at rest
        obtain ⟨t', quiet, last⟩ := runs_print_bind rest
        obtain ⟨rfl, rfl⟩ := Prog.runs_pure.mp last
        exact ⟨quiet, rfl⟩
    refine ⟨answer, by rw [actions_append, ended.1, acted]; rfl, ?_⟩
    rw [viewed, ← answered]
    exact ended.2
  · obtain ⟨answer, acted, answered⟩ := sent posted
    exact ⟨answer, acted, by rw [viewed, ← answered]; rfl⟩

theorem runs_viewFirst {r : Except PyError Value} (run : Runs (viewFirst baseUrl name args) t r) :
    ∃ answer : Except PyError Response,
      actions t = [⟨.post (viewUrl baseUrl) (viewBody name args), answer⟩] ∧
        r = viewed answer >>= PyVal.getPos 0 := by
  obtain ⟨r', asked, rfl⟩ := Prog.runs_bind_ofExcept.mp run
  obtain ⟨answer, acted, rfl⟩ := runs_invokeModuleViewFunction asked
  exact ⟨answer, acted, rfl⟩

theorem runs_viewInt {r : Except PyError Int} (run : Runs (viewInt baseUrl name args) t r) :
    ∃ answer : Except PyError Response,
      actions t = [⟨.post (viewUrl baseUrl) (viewBody name args), answer⟩] ∧
        r = viewed answer >>= PyVal.getPos 0 >>= PyVal.toInt := by
  obtain ⟨r', asked, rfl⟩ := Prog.runs_bind_ofExcept.mp run
  obtain ⟨answer, acted, rfl⟩ := runs_viewFirst asked
  exact ⟨answer, acted, rfl⟩

end Session

end SupraFromScratch.Client
