/-
# Client.Session — the client's conversations

A session of the client asks the node for pages, posts to it, sleeps, looks at
the clock, draws keys and prints, and nothing is assumed of what it is answered
(`Theory.Interact`): a node may answer one question differently every time, and
may not answer at all.  What is printed decides nothing, so a run is looked at
through its `actions`, the events that are not prints.

The functions of `check_balance.py` are sessions of one or two questions
(`runs_getJson` and what follows from it); against a node that always answers
alike they are the functions of `Client.CheckBalance` (`eval_getJson` and so on).
-/
import SupraFromScratch.Theory.Interact
import SupraFromScratch.Client.AccountQuery
import SupraFromScratch.Client.Crypto

namespace SupraFromScratch.Client

set_option autoImplicit false

open SupraFromScratch.Theory
open Prog (ofExcept Runs)

/-! ## What a session asks -/

/-- A piece of a printed line: text, or a value or response put into it. -/
inductive Piece where
  | text (s : String)
  | value (v : Value)
  | response (resp : Response)
  | responseText (resp : Response)

inductive Ask where
  | get (url : String)
  | post (url : String) (json : Value)
  | sleep (seconds : Int)
  | time
  | randomKey
  | print (line : List Piece)

namespace Ask

/-- A request may raise, and the clock is read in whole seconds. -/
@[reducible] def Answer : Ask → Type
  | get _ => Except PyError Response
  | post _ _ => Except PyError Response
  | sleep _ => Unit
  | time => Int
  | randomKey => Key
  | print _ => Unit

def isPrint : Ask → Bool
  | print _ => true
  | _ => false

/-- The URL and the body of a post. -/
def posted : Ask → Option (String × Value)
  | post url json => some (url, json)
  | _ => none

end Ask

abbrev Session (α : Type) := Prog Ask Ask.Answer PyError α

abbrev Talk := Trace Ask Ask.Answer

/-- What a session did, besides printing. -/
def actions (t : Talk) : Talk := t.filter fun event => !event.question.isPrint

@[simp] theorem actions_nil : actions [] = [] := rfl

@[simp] theorem actions_append (t t' : Talk) : actions (t ++ t') = actions t ++ actions t' :=
  List.filter_append _ _

theorem actions_flatten (ts : List Talk) : actions ts.flatten = (ts.map actions).flatten :=
  List.filter_flatten

/-- What a session posted. -/
def posts (t : Talk) : List (String × Value) := t.filterMap fun event => event.question.posted

@[simp] theorem posts_nil : posts [] = [] := rfl

@[simp] theorem posts_append (t t' : Talk) : posts (t ++ t') = posts t ++ posts t' :=
  List.filterMap_append

@[simp] theorem posts_cons (event : Event Ask Ask.Answer) (t : Talk) :
    posts (event :: t) = event.question.posted.toList ++ posts t := by
  cases posted : event.question.posted with
  | none => exact List.filterMap_cons_none posted
  | some p => exact List.filterMap_cons_some posted

theorem mem_posts {url : String} {d : Value} {answer : Except PyError Response} {t : Talk}
    (mem : ⟨.post url d, answer⟩ ∈ t) : (url, d) ∈ posts t :=
  List.mem_filterMap.mpr ⟨_, mem, rfl⟩

/-- A print posts nothing. -/
theorem posts_actions (t : Talk) : posts (actions t) = posts t := by
  induction t with
  | nil => rfl
  | cons event t ih =>
    obtain ⟨ask, answer⟩ := event
    cases ask with
    | print line => exact ih
    | _ => exact (posts_cons _ _).trans ((congrArg _ ih).trans (posts_cons _ _).symm)

/-- `str`, and what it makes of text. -/
structure PyStr where
  str : Value → String
  str_text : ∀ s, str (.str s) = s

/-! ## The body of a post -/

mutual

/-- Whether `requests.post` can encode its `json`: it raises on the first value
that JSON has no form for. -/
def jsonDumps : Value → Except PyError Unit
  | .float (.finite _) => return ()
  | .float _ => throw (.exception "Out of range float values are not JSON compliant")
  | .bytes _ => throw (.typeError "Object of type bytes is not JSON serializable")
  | .obj _ _ => throw (.typeError "Object is not JSON serializable")
  | .list items => jsonDumpsList items
  | .dict items => jsonDumpsItems items
  | _ => return ()
termination_by structural v => v

def jsonDumpsList : List Value → Except PyError Unit
  | [] => return ()
  | v :: rest => do
    jsonDumps v
    jsonDumpsList rest
termination_by structural items => items

def jsonDumpsItems : List (String × Value) → Except PyError Unit
  | [] => return ()
  | (_, v) :: rest => do
    jsonDumps v
    jsonDumpsItems rest
termination_by structural items => items

end

mutual

/-- What is sent is JSON, and its floats are finite. -/
theorem isJsonWith_of_jsonDumps :
    ∀ v : Value, jsonDumps v = .ok () → v.isJsonWith PyFloat.isFinite = true
  | .none, _ => rfl
  | .bool _, _ => rfl
  | .int _, _ => rfl
  | .float (.finite _), _ => rfl
  | .float (.infinite _), encoded => by cases encoded
  | .float .nan, encoded => by cases encoded
  | .str _, _ => rfl
  | .bytes _, encoded => by cases encoded
  | .obj _ _, encoded => by cases encoded
  | .list items, encoded => isJsonListWith_of_jsonDumps items encoded
  | .dict items, encoded => isJsonItemsWith_of_jsonDumps items encoded

theorem isJsonListWith_of_jsonDumps :
    ∀ items : List Value, jsonDumpsList items = .ok () →
      PyVal.isJsonListWith PyFloat.isFinite items = true
  | [], _ => rfl
  | v :: rest, encoded => by
    obtain ⟨_, first, others⟩ := bind_eq_ok.mp encoded
    rw [PyVal.isJsonListWith, isJsonWith_of_jsonDumps v first,
      isJsonListWith_of_jsonDumps rest others]
    rfl

theorem isJsonItemsWith_of_jsonDumps :
    ∀ items : List (String × Value), jsonDumpsItems items = .ok () →
      PyVal.isJsonItemsWith PyFloat.isFinite items = true
  | [], _ => rfl
  | (_, v) :: rest, encoded => by
    obtain ⟨_, first, others⟩ := bind_eq_ok.mp encoded
    rw [PyVal.isJsonItemsWith, isJsonWith_of_jsonDumps v first,
      isJsonItemsWith_of_jsonDumps rest others]
    rfl

end

/-! ## Requests -/

/-- What the client goes on with: the body, or an empty dictionary where it does
not decode. -/
def decoded (answer : Except PyError Response) : Except PyError Value :=
  answer.map fun resp => resp.json.getD (.dict [])

namespace Session

def print (line : List Piece) : Session Unit := .ask (.print line) .done

/-- `time.sleep`. -/
def sleep (seconds : Int) : Session Unit :=
  if seconds < 0 then .raise (.valueError "sleep length must be non-negative")
  else .ask (.sleep seconds) .done

/-- `int(time.time())`. -/
def time : Session Int := .ask .time .done

/-- `PrivateKey.random()`. -/
def randomKey : Session Key := .ask .randomKey .done

/-- `requests.get`. -/
def requestsGet (url : String) : Session Response := .ask (.get url) ofExcept

/-- `requests.post`. -/
def requestsPost (url : String) (d : Value) : Session Response := do
  ofExcept (jsonDumps d)
  .ask (.post url d) ofExcept

/-- `resp.json()`, and the `except` branch of both callers. -/
def decode (caller : String) (resp : Response) : Session Value :=
  match resp.json with
  | some v => return v
  | none => do
    print [.text (caller ++ ": error decoding JSON "), .response resp, .text ", with error text: ",
      .responseText resp]
    return .dict []

/-- `get_json`. -/
def getJson (url : String) : Session Value := do
  decode "get_json" (← requestsGet url)

/-- `post_json`. -/
def postJson (url : String) (d : Value) : Session Value := do
  decode "post_json" (← requestsPost url d)

section Accounts

variable (baseUrl accountAddr : String)

/-- `get_account`. -/
def getAccount : Session Value := getJson (accountUrl baseUrl accountAddr)

/-- `account_exists`. -/
def accountExists : Session Bool := do
  return !(← getAccount baseUrl accountAddr).isNone

/-- `get_resource_data`. -/
def getResourceData (resourceType : String) : Session Value := do
  let resData ← getJson (resourceUrl baseUrl accountAddr resourceType)
  let result ← ofExcept (resData.getKey "result")
  ofExcept (result.getPos 0)

/-- `get_account_supra_coin_balance`. -/
def getAccountSupraCoinBalance : Session Int := do
  if !(← accountExists baseUrl accountAddr) then
    return 0
  let resData ← getResourceData baseUrl accountAddr SUPRA_COIN_STORE
  let coin ← ofExcept (resData.getKey "coin")
  let value ← ofExcept (coin.getKey "value")
  ofExcept value.toInt

/-- The sequence number of an account. -/
def readSeqNum (account : Value) : Except PyError Int := do
  (← account.getKey "sequence_number").toInt

/-- `get_account_seq_num`. -/
def getAccountSeqNum : Session Int := do
  let account ← getAccount baseUrl accountAddr
  ofExcept (readSeqNum account)

end Accounts

/-! ## What they ask -/

section Runs

variable {t : Talk} {url : String} {d : Value} {r : Except PyError Value}

theorem runs_decode {caller : String} {resp : Response} (run : Runs (decode caller resp) t r) :
    actions t = [] ∧ r = .ok (resp.json.getD (.dict [])) := by
  unfold decode at run
  cases json : resp.json with
  | some v =>
    rw [json] at run
    obtain ⟨rfl, rfl⟩ := Prog.runs_pure.mp run
    exact ⟨rfl, rfl⟩
  | none =>
    simp only [json, print] at run
    obtain ⟨u, t', rfl, rest⟩ := Prog.runs_ask.mp run
    obtain ⟨rfl, rfl⟩ := Prog.runs_pure.mp rest
    exact ⟨rfl, rfl⟩

/-- Decoding asks nothing, so a request that is decoded is the request. -/
theorem runs_decoded (ask : Ask) (shown : ask.isPrint = false) {caller : String}
    (received : ask.Answer → Except PyError Response)
    (run : Runs (Prog.ask ask (fun a => ofExcept (received a)) >>= decode caller) t r) :
    ∃ a, actions t = [⟨ask, a⟩] ∧ r = decoded (received a) := by
  have only : ∀ a, actions [⟨ask, a⟩] = [⟨ask, a⟩] := fun a => by simp [actions, shown]
  rcases Prog.runs_bind.mp run with ⟨t₁, resp, t₂, rfl, asked, rest⟩ | ⟨e, rfl, asked⟩
  · obtain ⟨a, t', rfl, raised⟩ := Prog.runs_ask.mp asked
    obtain ⟨rfl, same⟩ := Prog.runs_ofExcept.mp raised
    obtain ⟨quiet, rfl⟩ := runs_decode rest
    refine ⟨a, ?_, by rw [← same]; rfl⟩
    rw [actions_append, quiet, only, List.append_nil]
  · obtain ⟨a, t', rfl, raised⟩ := Prog.runs_ask.mp asked
    obtain ⟨rfl, same⟩ := Prog.runs_ofExcept.mp raised
    exact ⟨a, only a, by rw [← same]; rfl⟩

/-- One request, and the client goes on with what comes back. -/
theorem runs_getJson (run : Runs (getJson url) t r) :
    ∃ answer : Except PyError Response, actions t = [⟨.get url, answer⟩] ∧ r = decoded answer :=
  runs_decoded (.get url) rfl (fun answer => answer) run

/-- A body that has no JSON form is not sent. -/
theorem runs_postJson (run : Runs (postJson url d) t r) :
    (∃ e, jsonDumps d = .error e ∧ t = [] ∧ r = .error e) ∨
      jsonDumps d = .ok () ∧ ∃ answer : Except PyError Response,
        actions t = [⟨.post url d, answer⟩] ∧ r = decoded answer := by
  unfold postJson requestsPost at run
  cases encoded : jsonDumps d with
  | error e =>
    rw [encoded] at run
    obtain ⟨rfl, rfl⟩ := Prog.runs_raise.mp run
    exact Or.inl ⟨e, rfl, rfl, rfl⟩
  | ok u =>
    rw [encoded] at run
    exact Or.inr ⟨rfl, runs_decoded (.post url d) rfl (fun answer => answer) run⟩

variable {baseUrl accountAddr : String}

theorem runs_getAccountSeqNum {r : Except PyError Int}
    (run : Runs (getAccountSeqNum baseUrl accountAddr) t r) :
    ∃ answer : Except PyError Response,
      actions t = [⟨.get (accountUrl baseUrl accountAddr), answer⟩] ∧
        r = decoded answer >>= readSeqNum := by
  obtain ⟨r', asked, rfl⟩ := Prog.runs_bind_ofExcept.mp run
  obtain ⟨answer, acted, rfl⟩ := runs_getJson asked
  exact ⟨answer, acted, rfl⟩

/-! ### Steps without an answer to look at -/

section Steps

variable {α : Type} {r : Except PyError α}

theorem runs_print_bind {line : List Piece} {f : Unit → Session α}
    (run : Runs (print line >>= f) t r) : ∃ t', actions t = actions t' ∧ Runs (f ()) t' r := by
  obtain ⟨_, t', rfl, rest⟩ := Prog.runs_ask.mp run
  exact ⟨t', rfl, rest⟩

theorem runs_sleep_bind {seconds : Int} (lawful : 0 ≤ seconds) {f : Unit → Session α}
    (run : Runs (sleep seconds >>= f) t r) :
    ∃ t', actions t = ⟨.sleep seconds, ()⟩ :: actions t' ∧ Runs (f ()) t' r := by
  rw [sleep, if_neg (by omega)] at run
  obtain ⟨_, t', rfl, rest⟩ := Prog.runs_ask.mp run
  exact ⟨t', rfl, rest⟩

theorem runs_time_bind {f : Int → Session α} (run : Runs (time >>= f) t r) :
    ∃ (now : Int) (t' : Talk), actions t = ⟨.time, now⟩ :: actions t' ∧ Runs (f now) t' r := by
  obtain ⟨now, t', rfl, rest⟩ := Prog.runs_ask.mp run
  exact ⟨now, t', rfl, rest⟩

theorem runs_randomKey_bind {f : Key → Session α} (run : Runs (randomKey >>= f) t r) :
    ∃ (key : Key) (t' : Talk), actions t = ⟨.randomKey, key⟩ :: actions t' ∧ Runs (f key) t' r := by
  obtain ⟨key, t', rfl, rest⟩ := Prog.runs_ask.mp run
  exact ⟨key, t', rfl, rest⟩

end Steps

/-! ### Loops -/

section Loops

variable {β γ : Type} {body : β → Session Bool} {acts : β → γ → Talk}
  {look : β → γ → Except PyError Bool}

/-- Rounds that do not break, each as what it saw. -/
theorem exists_seen (turn : ∀ x t r, Runs (body x) t r → ∃ a, actions t = acts x a ∧ r = look x a)
    (rounds : List (β × Talk)) (through : ∀ p ∈ rounds, Runs (body p.1) p.2 (.ok false)) :
    ∃ seen : List (β × γ), seen.map Prod.fst = rounds.map Prod.fst ∧
      (∀ p ∈ seen, look p.1 p.2 = .ok false) ∧
        actions (rounds.map Prod.snd).flatten = seen.flatMap fun p => acts p.1 p.2 := by
  induction rounds with
  | nil => exact ⟨[], rfl, by simp, rfl⟩
  | cons p rounds ih =>
    obtain ⟨seen, same, quiet, acted⟩ := ih fun q mem => through q (List.mem_cons_of_mem _ mem)
    obtain ⟨a, first, looked⟩ := turn _ _ _ (through p List.mem_cons_self)
    refine ⟨(p.1, a) :: seen, by simp [same], ?_, by simp [acted, first]⟩
    intro q mem
    rcases List.mem_cons.mp mem with rfl | mem
    · exact looked.symm
    · exact quiet q mem

/-- **A loop that looks until it sees something**: everything it saw before its
last look was nothing, and the last look decides. -/
theorem runs_forUntil_look
    (turn : ∀ x t r, Runs (body x) t r → ∃ a, actions t = acts x a ∧ r = look x a) {xs : List β}
    {r : Except PyError Bool} (run : Runs (Prog.forUntil body xs) t r) :
    ∃ (seen : List (β × γ)) (rest : List β), xs = seen.map Prod.fst ++ rest ∧
      (∀ p ∈ seen, look p.1 p.2 = .ok false) ∧
        match rest with
        | [] => r = .ok false ∧ actions t = seen.flatMap fun p => acts p.1 p.2
        | x :: _ => r ≠ .ok false ∧ ∃ a, r = look x a ∧
            actions t = (seen.flatMap fun p => acts p.1 p.2) ++ acts x a := by
  obtain ⟨rounds, rest, last, rfl, rfl, through, finish⟩ := Prog.runs_forUntil.mp run
  obtain ⟨seen, same, quiet, acted⟩ := exists_seen turn rounds through
  refine ⟨seen, rest, by rw [same], quiet, ?_⟩
  cases rest with
  | nil =>
    obtain ⟨rfl, rfl⟩ := finish
    exact ⟨rfl, by rw [List.append_nil, acted]⟩
  | cons x later =>
    obtain ⟨ended, run⟩ := finish
    obtain ⟨a, first, looked⟩ := turn _ _ _ run
    exact ⟨ended, a, looked, by rw [actions_append, acted, first]⟩

end Loops

end Runs

/-! ## Against a node that always answers alike -/

section Eval

variable {net : Network} {answers : (ask : Ask) → ask.Answer}

/-- The pages these answers give are the node's. -/
def Serves (net : Network) (answers : (ask : Ask) → ask.Answer) : Prop :=
  ∀ url, answers (.get url) = net.get url

theorem eval_decode (caller : String) (resp : Response) :
    (decode caller resp).eval answers = .ok (resp.json.getD (.dict [])) := by
  unfold decode
  cases resp.json <;> rfl

variable (serves : Serves net answers)

include serves

theorem eval_getJson (url : String) : (getJson url).eval answers = Client.getJson net url := by
  have page : (requestsGet url).eval answers = net.get url := by
    have same : answers (.get url) = net.get url := serves url
    rw [← same]
    exact Prog.eval_ofExcept answers (answers (.get url))
  rw [getJson, Prog.eval_bind, page, Client.getJson]
  congr 1
  funext resp
  exact eval_decode _ resp

variable (baseUrl accountAddr : String)

theorem eval_accountExists :
    (accountExists baseUrl accountAddr).eval answers =
      Client.accountExists net baseUrl accountAddr := by
  rw [accountExists, Prog.eval_bind, getAccount, eval_getJson serves]
  rfl

theorem eval_getAccountSeqNum :
    (getAccountSeqNum baseUrl accountAddr).eval answers =
      Client.getAccountSeqNum net baseUrl accountAddr := by
  rw [getAccountSeqNum, Prog.eval_bind, getAccount, eval_getJson serves]
  simp only [Prog.eval_ofExcept]
  rfl

theorem eval_getAccountSupraCoinBalance :
    (getAccountSupraCoinBalance baseUrl accountAddr).eval answers =
      Client.getAccountSupraCoinBalance net baseUrl accountAddr := by
  rw [getAccountSupraCoinBalance, Prog.eval_bind, eval_accountExists serves,
    Client.getAccountSupraCoinBalance]
  congr 1
  funext found
  cases found with
  | false => rfl
  | true =>
    simp only [Bool.not_true, Bool.false_eq_true, if_false, getResourceData, Prog.eval_bind,
      eval_getJson serves, Prog.eval_ofExcept]
    rfl

end Eval

end Session

/-! ### Surroundings for the examples -/

/-- A node, a clock and a source of keys that never change. -/
structure Still where
  net : Network
  post : String → Value → Except PyError Response
  now : Int
  key : Key

def Still.answers (still : Still) : (ask : Ask) → ask.Answer
  | .get url => still.net.get url
  | .post url d => still.post url d
  | .sleep _ => ()
  | .time => still.now
  | .randomKey => still.key
  | .print _ => ()

theorem Still.serves (still : Still) : Session.Serves still.net still.answers := fun _ => rfl

/-- `str` on what the examples print. -/
def samplePy : PyStr where
  str
    | .str s => s
    | .int i => toString i
    | .none => "None"
    | _ => "{}"
  str_text _ := rfl

end SupraFromScratch.Client
