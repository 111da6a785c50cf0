/-
# Client.CredentialBinding — which credential a mnemonic ends up under

`store_mnemonic_fido2` takes a credential id and reads another one: its parameter
is spelled `crediential_id`, and the name `credential_id` in its body is a
variable of the module.  What a run asks the authenticator, the key it derives
and the header of the file it writes all follow that variable.

`isBound_iff` is about two runs on the same arguments in two processes: both are
bound to the credential id they were given exactly when the variable holds it in
both.  `assertionRequests` says what a run asks; `storeMnemonicFido2_asks` and
`storeMnemonicFido2_refused` tie it to the run.
-/
import SupraFromScratch.Client.GenMnemonicFido2

namespace SupraFromScratch.Client

set_option autoImplicit false

open SupraFromScratch.Theory

/-! ## What a run asks -/

/-- The credential an assertion is asked for, and the salt of its HMAC secret. -/
structure AssertionRequest where
  credentialId : Bytes
  salt1 : Bytes
  deriving DecidableEq

/-- The assertions `store_mnemonic_fido2` asks for: one, where the path is free, a
device is plugged in and the module's variable is defined. -/
def assertionRequests (devices : List Authenticator) (globals : Globals) (random : Randomness)
    (fs : FileSystem) (filePath : String) : List AssertionRequest :=
  if fs.exists filePath then []
  else
    match createClient devices, globals.getCredentialId with
    | .ok _, .ok credentialId => [⟨credentialId, random.fido2Salt.1⟩]
    | _, _ => []

section Asks

variable {crypto : Crypto} {device device' : Authenticator} {others : List Authenticator}
  {globals : Globals} {random : Randomness} {password : String} {fs : FileSystem}
  {mnemonic filePath : String} {credentialId : Bytes}

theorem assertionRequests_of_absent (absent : fs.exists filePath = false) :
    assertionRequests (device :: others) globals random fs filePath =
      (globals.credentialId.map fun used => ⟨used, random.fido2Salt.1⟩).toList := by
  unfold assertionRequests
  rw [absent, if_neg Bool.false_ne_true]
  unfold Globals.getCredentialId
  cases globals.credentialId <;> rfl

/-- All a run learns from the authenticator are the answers to these requests. -/
theorem storeMnemonicFido2_asks
    (alike : ∀ request ∈ assertionRequests (device :: others) globals random fs filePath,
      device.hmacGetSecret request.credentialId request.salt1 =
        device'.hmacGetSecret request.credentialId request.salt1) :
    storeMnemonicFido2 crypto (device :: others) globals random password fs mnemonic filePath
        credentialId =
      storeMnemonicFido2 crypto (device' :: others) globals random password fs mnemonic filePath
        credentialId := by
  rw [storeMnemonicFido2_eq, storeMnemonicFido2_eq]
  by_cases present : fs.exists filePath = true
  · rw [if_pos present, if_pos present]
  · rw [assertionRequests_of_absent (Bool.not_eq_true _ ▸ present)] at alike
    rw [if_neg present, if_neg present, fido2Sealed_eq, fido2Sealed_eq]
    cases hg : globals.credentialId with
    | none => rfl
    | some used =>
      have answer : device.hmacGetSecret used random.fido2Salt.1 =
          device'.hmacGetSecret used random.fido2Salt.1 := alike ⟨used, _⟩ (by simp [hg])
      simp only [answer]

/-- And it asks them: a request that is refused ends the run. -/
theorem storeMnemonicFido2_refused {request : AssertionRequest}
    (asked : request ∈ assertionRequests (device :: others) globals random fs filePath)
    {e : PyError} (refused : device.hmacGetSecret request.credentialId request.salt1 = .error e) :
    storeMnemonicFido2 crypto (device :: others) globals random password fs mnemonic filePath
      credentialId = .error e := by
  rw [storeMnemonicFido2_eq]
  by_cases present : fs.exists filePath = true
  · rw [assertionRequests, if_pos present] at asked
    cases asked
  · rw [assertionRequests_of_absent (Bool.not_eq_true _ ▸ present)] at asked
    rw [if_neg present, fido2Sealed_eq]
    cases hg : globals.credentialId with
    | none => simp [hg] at asked
    | some used =>
      simp only [hg, Option.map_some, Option.toList_some, List.mem_singleton] at asked
      subst asked
      simp only [refused]
      rfl

end Asks

/-! ## Two runs on the same arguments -/

section TwoRuns

variable (crypto : Crypto) (devices : List Authenticator)

/-- Two runs with the same arguments, randomness and authenticator, in processes
of their own, both ask for the credential id they were given and write one file,
which starts with it. -/
def IsBound (globals globals' : Globals) (random : Randomness) (password : String)
    (fs fs' : FileSystem) (mnemonic filePath : String) (credentialId : Bytes) : Prop :=
  assertionRequests devices globals random fs filePath = [⟨credentialId, random.fido2Salt.1⟩] ∧
  assertionRequests devices globals' random fs' filePath = [⟨credentialId, random.fido2Salt.1⟩] ∧
  ∃ stored stored' after after' file,
    storeMnemonicFido2 crypto devices globals random password fs mnemonic filePath credentialId =
      .ok (stored, after) ∧
    storeMnemonicFido2 crypto devices globals' random password fs' mnemonic filePath
      credentialId = .ok (stored', after') ∧
    after filePath = some file ∧ after' filePath = some file ∧ credentialId <+: file

end TwoRuns

section Bound

variable {crypto : Crypto} {device : Authenticator} {others : List Authenticator}

theorem credentialId_of_assertionRequests {globals : Globals} {random : Randomness}
    {fs : FileSystem} {filePath : String} (absent : fs.exists filePath = false)
    {credentialId : Bytes} :
    assertionRequests (device :: others) globals random fs filePath =
        [⟨credentialId, random.fido2Salt.1⟩] ↔ globals.credentialId = some credentialId := by
  rw [assertionRequests_of_absent absent]
  cases globals.credentialId <;> simp

/-- **What a stored mnemonic is bound to.**  On free paths, with an authenticator
that knows the credential, two runs are both bound to the credential id they were
given exactly when the module's variable holds it in both. -/
theorem isBound_iff (globals globals' : Globals) (random : Randomness) (password : String)
    {fs fs' : FileSystem} (mnemonic : String) {filePath : String}
    (absent : fs.exists filePath = false) (absent' : fs'.exists filePath = false)
    {credentialId secret : Bytes}
    (issued : device.hmacGetSecret credentialId random.fido2Salt.1 = .ok secret) :
    IsBound crypto (device :: others) globals globals' random password fs fs' mnemonic filePath
        credentialId ↔
      globals.credentialId = some credentialId ∧ globals'.credentialId = some credentialId := by
  constructor
  · rintro ⟨asked, asked', -⟩
    exact ⟨(credentialId_of_assertionRequests absent).mp asked,
      (credentialId_of_assertionRequests absent').mp asked'⟩
  · rintro ⟨bound, bound'⟩
    refine ⟨(credentialId_of_assertionRequests absent).mpr bound,
      (credentialId_of_assertionRequests absent').mpr bound', ?_⟩
    have wrote : storeMnemonicFido2 crypto (device :: others) globals random password fs mnemonic
        filePath credentialId = .ok (_, fs.write filePath _) :=
      storeMnemonicFido2_of_secret absent bound issued
    have wrote' : storeMnemonicFido2 crypto (device :: others) globals' random password fs'
        mnemonic filePath credentialId = .ok (_, fs'.write filePath _) :=
      storeMnemonicFido2_of_secret absent' bound' issued
    refine ⟨_, _, _, _, _, wrote, wrote', fs.write_same filePath _, fs'.write_same filePath _, ?_⟩
    simp [Fido2Locals.file, sealed, List.append_assoc]

end Bound

/-! ### A variable that holds another credential id -/

theorem isBound_iff_fiftySeven :
    IsBound sampleCrypto [sampleAuthenticator] ⟨some (List.replicate 57 1)⟩
        ⟨some (List.replicate 57 2)⟩ sampleRandomness "pw" (fun _ => none) (fun _ => none) "abandon"
        "mnemonic.enc" (List.replicate 57 1) ↔
      (some (List.replicate 57 1) : Option Bytes) = some (List.replicate 57 1) ∧
        (some (List.replicate 57 2) : Option Bytes) = some (List.replicate 57 1) :=
  isBound_iff _ _ sampleRandomness "pw" "abandon" rfl rfl rfl

/-- A process in which the variable is another credential's asks for that one. -/
theorem not_isBound_otherCredential : ¬ ∀ (globals globals' : Globals) (random : Randomness)
    (password : String) (fs fs' : FileSystem) (mnemonic filePath : String) (credentialId : Bytes),
    fs.exists filePath = false → fs'.exists filePath = false →
      IsBound sampleCrypto [sampleAuthenticator] globals globals' random password fs fs' mnemonic
        filePath credentialId := by
  intro always
  obtain ⟨-, asked, -⟩ := always ⟨some [1]⟩ ⟨some [2]⟩ sampleRandomness "pw" (fun _ => none)
    (fun _ => none) "abandon" "mnemonic.enc" [1] rfl rfl
  revert asked
  decide

end SupraFromScratch.Client
