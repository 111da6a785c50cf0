/-
# Client.CheckBalance — what the node answers

`check_balance.py`.  A response either decodes to plain data or does not, and
`get_json` answers an empty dictionary for the ones that do not.  The network is
a parameter: any request may raise, and any body may come back.

The callers of `get_json` tell an account from its absence by `None` alone.
-/
import SupraFromScratch.Client.Sdk
import SupraFromScratch.Theory.PyInt

namespace SupraFromScratch.Client

set_option autoImplicit false

open SupraFromScratch.Theory

/-- A response, through what decoding its body gives: plain data, or nothing
where `resp.json()` raises. -/
structure Response where
  json : Option Value
  isDecoded : ∀ v, json = some v → v.isDecoded = true

/-- A response whose body is not JSON. -/
def Response.notJson : Response where
  json := none
  isDecoded := by
    intro v none_some
    cases none_some

/-- The node behind `requests`. -/
structure Network where
  get : String → Except PyError Response

/-- `get_json`. -/
def getJson (net : Network) (url : String) : Except PyError Value := do
  let resp ← net.get url
  return resp.json.getD (.dict []) -- the `except` branch

theorem Response.isDecoded_getD (resp : Response) : (resp.json.getD (.dict [])).isDecoded = true := by
  cases hjson : resp.json with
  | none => rfl
  | some v => exact resp.isDecoded v hjson

/-- Whatever comes back, the client goes on with plain data. -/
theorem getJson_isDecoded {net : Network} {url : String} {v : Value}
    (answered : getJson net url = .ok v) : v.isDecoded = true := by
  obtain ⟨resp, -, decoded⟩ := bind_eq_ok.mp answered
  cases decoded
  exact resp.isDecoded_getD

/-! ## Accounts and balances -/

section Accounts

variable (net : Network) (baseUrl accountAddr : String)

def accountUrl : String := baseUrl ++ "/rpc/v1/accounts/" ++ accountAddr

def resourceUrl (resourceType : String) : String :=
  accountUrl baseUrl accountAddr ++ "/resources/" ++ resourceType

/-- `get_account`. -/
def getAccount : Except PyError Value := getJson net (accountUrl baseUrl accountAddr)

/-- `account_exists`. -/
def accountExists : Except PyError Bool := do
  return !(← getAccount net baseUrl accountAddr).isNone

/-- `get_resource_data`. -/
def getResourceData (resourceType : String) : Except PyError Value := do
  let resData ← getJson net (resourceUrl baseUrl accountAddr resourceType)
  let result ← resData.getKey "result"
  result.getPos 0

def SUPRA_COIN_STORE : String := "0x1::coin::CoinStore<0x1::supra_coin::SupraCoin>"

/-- `get_account_supra_coin_balance`. -/
def getAccountSupraCoinBalance : Except PyError Int := do
  if !(← accountExists net baseUrl accountAddr) then
    return 0
  let resData ← getResourceData net baseUrl accountAddr SUPRA_COIN_STORE
  let coin ← resData.getKey "coin"
  (← coin.getKey "value").toInt

end Accounts

end SupraFromScratch.Client
