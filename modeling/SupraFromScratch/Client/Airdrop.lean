/-
# Client.Airdrop — test coins, and watching for them

`airdrop.py`.  The watch sleeps, prints the balance in a `try`, and says in its
`finally` that it will try again.  A `finally` does not catch: the exception goes
on once the line is printed.

`watchBalance_runs`: the rounds of a watch are the queries that came through, and
the first one that does not is the last, whatever its line says.
-/
import SupraFromScratch.Client.CheckTransaction

namespace SupraFromScratch.Client

set_option autoImplicit false

open SupraFromScratch.Theory
open Prog (ofExcept Runs)

def faucetUrl (baseUrl accountAddr : String) : String :=
  baseUrl ++ "/rpc/v1/wallet/faucet/" ++ accountAddr

namespace Session

section Accounts

variable (baseUrl accountAddr : String)

/-- `fund_account_with_faucet`. -/
def fundAccountWithFaucet : Session Value := do
  let resData ← getJson (faucetUrl baseUrl accountAddr)
  match resData.getKey "Accepted" with
  | .ok txHash => return txHash
  | .error _ => do
    print [.text "Faucet error with message: ", .value resData]
    return .str ""

/-- `print_balance`. -/
def printBalance : Session Int := do
  if ← accountExists baseUrl accountAddr then
    let balance ← getAccountSupraCoinBalance baseUrl accountAddr
    print [.text "Current balance for account ", .text accountAddr, .text " in Supra quants: ",
      .value (.int balance)]
    return balance
  else
    print [.text "New account ", .text accountAddr, .text " with 0 balance."]
    return 0

/-- One turn of `watch_balance`, which never breaks. -/
def watchTurn (intervalSec : Int) : Session Bool := do
  sleep intervalSec
  let _ ← (printBalance baseUrl accountAddr).tryFinally (print [.text "Try again in 5 seconds."])
  return false

/-- `watch_balance`. -/
def watchBalance (repeats intervalSec : Int) : Session Unit := do
  let _ ← Prog.forUntil (fun _ => watchTurn baseUrl accountAddr intervalSec)
    (List.range repeats.toNat)

end Accounts

/-! ## What a watch does -/

/-- A round, from its balance query. -/
def watchRound (intervalSec : Int) (queried : Talk) : Talk :=
  ⟨.sleep intervalSec, ()⟩ :: queried ++ [⟨.print [.text "Try again in 5 seconds."], ()⟩]

section Watch

variable {baseUrl accountAddr : String} {intervalSec : Int} {t : Talk}

/-- The query decides how a round ends; the line is printed either way. -/
theorem runs_watchTurn (lawful : 0 ≤ intervalSec) {r : Except PyError Bool}
    (run : Runs (watchTurn baseUrl accountAddr intervalSec) t r) :
    ∃ queried balance, Runs (printBalance baseUrl accountAddr) queried balance ∧
      t = watchRound intervalSec queried ∧ r = balance.map fun _ => false := by
  rw [watchTurn, sleep, if_neg (by omega)] at run
  obtain ⟨_, t', rfl, rest⟩ := Prog.runs_ask.mp run
  obtain ⟨r', tried, rfl⟩ := Prog.runs_bind_pure.mp rest
  obtain ⟨queried, balance, line, r₂, rfl, query, cleaned, rfl⟩ := Prog.runs_tryFinally.mp tried
  obtain ⟨_, t'', rfl, ended⟩ := Prog.runs_ask.mp cleaned
  obtain ⟨rfl, rfl⟩ := Prog.runs_pure.mp ended
  exact ⟨queried, balance, query, rfl, by rw [ok_bind]⟩

/-- Rounds that came through, each from its query. -/
theorem exists_queries (lawful : 0 ≤ intervalSec) (rounds : List (Nat × Talk))
    (through : ∀ p ∈ rounds, Runs (watchTurn baseUrl accountAddr intervalSec) p.2 (.ok false)) :
    ∃ queries : List (Talk × Int), queries.length = rounds.length ∧
      (∀ q ∈ queries, Runs (printBalance baseUrl accountAddr) q.1 (.ok q.2)) ∧
        (rounds.map Prod.snd).flatten = queries.flatMap fun q => watchRound intervalSec q.1 := by
  induction rounds with
  | nil => exact ⟨[], rfl, by simp, rfl⟩
  | cons p rounds ih =>
    obtain ⟨queries, sized, came, acted⟩ := ih fun q mem => through q (List.mem_cons_of_mem _ mem)
    obtain ⟨queried, balance, query, turned, ended⟩ :=
      runs_watchTurn lawful (through p List.mem_cons_self)
    cases balance with
    | error e => cases ended
    | ok amount =>
      refine ⟨(queried, amount) :: queries, by simp [sized], ?_, by simp [turned, acted]⟩
      intro q mem
      rcases List.mem_cons.mp mem with rfl | mem
      · exact query
      · exact came q mem

/-- **A watch ends with its first failure.**  Its rounds sleep, query and print
one line; it returns exactly after `repeats` queries that came through, and it
raises what the first other query raises, although that round prints its line
like every other. -/
theorem watchBalance_runs (lawful : 0 ≤ intervalSec) {repeats : Int} {r : Except PyError Unit}
    (run : Runs (watchBalance baseUrl accountAddr repeats intervalSec) t r) :
    ∃ queries : List (Talk × Int),
      (∀ q ∈ queries, Runs (printBalance baseUrl accountAddr) q.1 (.ok q.2)) ∧
        ((r = .ok () ∧ queries.length = repeats.toNat ∧
            t = queries.flatMap fun q => watchRound intervalSec q.1) ∨
          ∃ queried e, r = .error e ∧ queries.length < repeats.toNat ∧
            Runs (printBalance baseUrl accountAddr) queried (.error e) ∧
              t = (queries.flatMap fun q => watchRound intervalSec q.1) ++
                watchRound intervalSec queried) := by
  obtain ⟨r', looped, rfl⟩ := Prog.runs_bind_pure.mp run
  obtain ⟨rounds, rest, last, split, rfl, through, finish⟩ := Prog.runs_forUntil.mp looped
  obtain ⟨queries, sized, came, acted⟩ := exists_queries lawful rounds through
  have turns : repeats.toNat = rounds.length + rest.length := by
    have := congrArg List.length split
    simpa using this
  refine ⟨queries, came, ?_⟩
  cases rest with
  | nil =>
    obtain ⟨rfl, rfl⟩ := finish
    exact Or.inl ⟨rfl, by rw [sized, turns]; rfl, by rw [acted, List.append_nil]⟩
  | cons i later =>
    obtain ⟨broke, turn⟩ := finish
    obtain ⟨queried, balance, query, rfl, rfl⟩ := runs_watchTurn lawful turn
    cases balance with
    | ok amount => exact absurd rfl broke
    | error e =>
      refine Or.inr ⟨queried, e, rfl, ?_, query, by rw [acted]⟩
      rw [sized, turns, List.length_cons]
      omega

end Watch

end Session

/-- A node that knows every account, and the balance of none. -/
def balanceless : Still where
  net := nodeAnswering accountResponse
  post _ _ := .ok accountResponse
  now := 1700000000
  key := executedNode.key

/-- The first query raises, and there is no second one. -/
theorem watchBalance_runs_balanceless : ∃ t,
    Runs (Session.watchBalance "https://rpc-testnet.supra.com" "0xb8" 10 5) t
        (.error (.keyError "result")) ∧
      ∃ queries : List (Talk × Int),
        (∀ q ∈ queries,
          Runs (Session.printBalance "https://rpc-testnet.supra.com" "0xb8") q.1 (.ok q.2)) ∧
        (((.error (.keyError "result") : Except PyError Unit) = .ok () ∧
            queries.length = (10 : Int).toNat ∧
              t = queries.flatMap fun q => Session.watchRound 5 q.1) ∨
          ∃ queried e, (.error (.keyError "result") : Except PyError Unit) = .error e ∧
            queries.length < (10 : Int).toNat ∧
              Runs (Session.printBalance "https://rpc-testnet.supra.com" "0xb8") queried (.error e) ∧
                t = (queries.flatMap fun q => Session.watchRound 5 q.1) ++
                  Session.watchRound 5 queried) := by
  obtain ⟨t, run, -⟩ := Prog.runs_eval balanceless.answers
    (Session.watchBalance "https://rpc-testnet.supra.com" "0xb8" 10 5)
  exact ⟨t, run, Session.watchBalance_runs (by decide) run⟩

end SupraFromScratch.Client
