/-
# Client.StoreRace — several writers of one mnemonic file

`store_mnemonic` and `store_mnemonic_fido2` look whether the file exists, then
ask for a password (and a touch of the security key), and only then open the file
for writing, which truncates whatever is there by now.  The three steps of any
number of runs interleave; a run is a worker of `Theory.CheckThenAct` whose
preparation is its own encryption.

`storeRuns_kept` says which schedules keep the first mnemonic that was stored.
`storeRuns_alone` ties the steps to the two functions: a run whose steps follow
one another does what the function does.
-/
import SupraFromScratch.Theory.CheckThenAct
import SupraFromScratch.Client.GenMnemonic
import SupraFromScratch.Client.GenMnemonicFido2

namespace SupraFromScratch.Client

set_option autoImplicit false

open SupraFromScratch.Theory

/-! ## The runs -/

/-- A run of one of the two functions, with its arguments, its randomness and the
devices and variables of its process. -/
inductive StoreRun where
  | genMnemonic (salt : {bytes : Bytes // bytes.length = 16})
      (nonce : {bytes : Bytes // bytes.length = 12}) (password mnemonic : String)
  | genMnemonicFido2 (devices : List Authenticator) (globals : Globals) (random : Randomness)
      (password mnemonic : String) (credentialId : Bytes)

section Runs

variable (crypto : Crypto)

/-- Reading the password and encrypting: the bytes to write, or what the run
raises before it opens the file. -/
def StoreRun.prepare : StoreRun → Except PyError Bytes
  | .genMnemonic salt nonce password mnemonic =>
    .ok (mnemonicFile crypto salt.1 nonce.1 password mnemonic)
  | .genMnemonicFido2 devices globals random password mnemonic _ =>
    (fido2Sealed crypto devices globals random password mnemonic).map Fido2Locals.file

/-- The function, called with nobody else on the path. -/
def StoreRun.call (fs : FileSystem) (filePath : String) : StoreRun → Except PyError FileSystem
  | .genMnemonic salt nonce password mnemonic =>
    storeMnemonic crypto salt nonce password fs mnemonic filePath
  | .genMnemonicFido2 devices globals random password mnemonic credentialId =>
    (storeMnemonicFido2 crypto devices globals random password fs mnemonic filePath
      credentialId).map Prod.snd

variable {I : Type} [DecidableEq I] (runs : I → StoreRun) (filePath : String)

/-- The file on the path and how far each run has come. -/
abbrev StoreState (I : Type) := CheckThenAct.State I Bytes PyError

/-- The runs, each taking its next step where the schedule names it. -/
def storeRuns (state : StoreState I) (schedule : List I) : StoreState I :=
  CheckThenAct.run (fun i => (runs i).prepare crypto) (alreadyExists filePath) state schedule

/-- Once a run has written, the file stays what it wrote in every state reached,
and every other run that ends later raises `FileExistsError`. -/
def KeepsMnemonic (file : Option Bytes) (schedule : List I) : Prop :=
  ∀ before later, before ++ later <+: schedule →
    ∀ i content, (storeRuns crypto runs filePath (.initial file) before).phase i =
        .ended (.ok content) →
      (storeRuns crypto runs filePath (.initial file) (before ++ later)).cell = some content ∧
      ∀ j result, (∀ r, (storeRuns crypto runs filePath (.initial file) before).phase j ≠
          .ended r) →
        (storeRuns crypto runs filePath (.initial file) (before ++ later)).phase j =
            .ended result → result = .error (alreadyExists filePath)

/-- Whenever a run writes, no other run is between its existence check and its end. -/
def WritesAlone (file : Option Bytes) (schedule : List I) : Prop :=
  ∀ before i rest, schedule = before ++ i :: rest →
    ∀ content, (storeRuns crypto runs filePath (.initial file) before).phase i =
        .prepared content →
      ∀ j, j ≠ i →
        ((storeRuns crypto runs filePath (.initial file) before).phase j).isPending = false

end Runs

/-! ## A run alone -/

section Alone

variable {crypto : Crypto}

theorem StoreRun.call_eq (run : StoreRun) (fs : FileSystem) (filePath : String) :
    run.call crypto fs filePath =
      (if fs.exists filePath then .error (alreadyExists filePath) else run.prepare crypto).map
        (fs.write filePath) := by
  cases run with
  | genMnemonic salt nonce password mnemonic =>
    rw [call, storeMnemonic]
    by_cases present : fs.exists filePath = true
    · rw [if_pos present, if_pos present]
      rfl
    · rw [if_neg present, if_neg present]
      rfl
  | genMnemonicFido2 devices globals random password mnemonic credentialId =>
    rw [call, storeMnemonicFido2_eq]
    by_cases present : fs.exists filePath = true
    · rw [if_pos present, if_pos present]
      rfl
    · rw [if_neg present, if_neg present, prepare]
      cases fido2Sealed crypto devices globals random password mnemonic <;> rfl

variable {I : Type} [DecidableEq I] (runs : I → StoreRun)

/-- The steps of a run, one after another, are its function. -/
theorem storeRuns_alone (fs : FileSystem) (filePath : String) {state : StoreState I}
    (file : state.cell = fs filePath) {i : I} (start : state.phase i = .start) :
    ∃ result, (storeRuns crypto runs filePath state [i, i, i]).phase i = .ended result ∧
      (runs i).call crypto fs filePath = result.map (fs.write filePath) ∧
      (storeRuns crypto runs filePath state [i, i, i]).cell =
        (match result with | .ok content => some content | .error _ => fs filePath) := by
  obtain ⟨result, ended, cell, settled⟩ :=
    CheckThenAct.run_alone (fun i => (runs i).prepare crypto) (alreadyExists filePath) start
  refine ⟨result, ended, ?_, ?_⟩
  · rw [StoreRun.call_eq, settled, file]
    rfl
  · rw [← file, storeRuns, cell]
    cases result <;> rfl

end Alone

/-! ## Runs together -/

section Together

variable {I : Type} [DecidableEq I]

/-- **When a stored mnemonic is kept.**  Over any schedule of any runs, if every
write is made alone; and where the schedule lets every run end and no run raises
`FileExistsError` of its own, only then. -/
theorem storeRuns_kept (crypto : Crypto) (runs : I → StoreRun) (filePath : String)
    (file : Option Bytes) (schedule : List I) :
    (WritesAlone crypto runs filePath file schedule →
      KeepsMnemonic crypto runs filePath file schedule) ∧
    ((∀ i, ∃ result, (storeRuns crypto runs filePath (.initial file) schedule).phase i =
        .ended result) →
      (∀ i, (runs i).prepare crypto ≠ .error (alreadyExists filePath)) →
        KeepsMnemonic crypto runs filePath file schedule →
          WritesAlone crypto runs filePath file schedule) := by
  constructor
  · exact CheckThenAct.kept_of_exclusive (CheckThenAct.settled_initial file)
  · exact CheckThenAct.exclusive_of_kept

/-- Runs one after another keep it. -/
theorem keepsMnemonic_sequential (crypto : Crypto) (runs : I → StoreRun) (filePath : String)
    (file : Option Bytes) (order : List I) :
    KeepsMnemonic crypto runs filePath file (order.flatMap fun i => [i, i, i]) :=
  CheckThenAct.kept_of_exclusive (CheckThenAct.settled_initial file)
    (CheckThenAct.exclusive_sequential _ _ (fun _ => rfl) order)

end Together

/-! ### Two runs at once -/

/-- AES-GCM of "abandon" and of "zoo", each under its run's key and nonce. -/
def sampleAbandon : Bytes :=
  [185, 31, 167, 197, 120, 193, 25, 163, 39, 85, 50, 226, 5, 66, 230, 210, 77, 22, 13, 1, 162, 155,
    52]

def sampleZoo : Bytes :=
  [126, 175, 149, 224, 32, 68, 82, 205, 231, 189, 208, 37, 56, 22, 124, 128, 177, 51, 37]

/-- The primitives on the password "pw" and the salts, nonces and mnemonics below. -/
def samplePair : Crypto where
  scrypt salt _ :=
    if salt = List.replicate 16 2 then
      ⟨[157, 2, 185, 197, 45, 218, 13, 190, 84, 145, 32, 74, 83, 135, 177, 9, 74, 44, 176, 111, 166,
        171, 82, 172, 36, 235, 228, 221, 41, 89, 4, 229], rfl⟩
    else
      ⟨[5, 172, 156, 243, 124, 230, 53, 95, 61, 110, 183, 176, 133, 84, 126, 179, 25, 141, 137, 147,
        26, 173, 2, 14, 245, 60, 84, 202, 199, 27, 125, 140], rfl⟩
  hmacSha256 _ _ := ⟨List.replicate 32 1, by simp⟩
  encrypt _ _ plaintext := if plaintext = Bcs.utf8 "abandon" then sampleAbandon else sampleZoo
  decrypt _ _ ciphertext :=
    if ciphertext = sampleAbandon then .ok (Bcs.utf8 "abandon")
    else if ciphertext = sampleZoo then .ok (Bcs.utf8 "zoo")
    else .error (.exception "InvalidTag")

/-- Two mnemonics for one path. -/
def sampleRuns (i : Fin 2) : StoreRun :=
  if i = 0 then
    .genMnemonic ⟨List.replicate 16 2, by simp⟩ ⟨List.replicate 12 2, by simp⟩ "pw" "abandon"
  else .genMnemonic ⟨List.replicate 16 3, by simp⟩ ⟨List.replicate 12 3, by simp⟩ "pw" "zoo"

theorem storeRuns_kept_sequential :
    KeepsMnemonic samplePair sampleRuns "mnemonic.enc" none [0, 0, 0, 1, 1, 1] :=
  (storeRuns_kept samplePair sampleRuns "mnemonic.enc" none [0, 0, 0, 1, 1, 1]).1
    (CheckThenAct.exclusive_sequential _ _ (fun _ => rfl) [0, 1])

/-- Both find the path free, and the second write takes the first one's place. -/
theorem storeRuns_overwrite : ¬ ∀ (runs : Fin 2 → StoreRun) (file : Option Bytes)
    (schedule : List (Fin 2)), KeepsMnemonic samplePair runs "mnemonic.enc" file schedule := by
  intro always
  have kept := always sampleRuns none [0, 1, 0, 1, 0, 1] [0, 1, 0, 1, 0] [1] List.prefix_rfl 0 _ rfl
  have overwritten := kept.1
  revert overwritten
  decide

end SupraFromScratch.Client
