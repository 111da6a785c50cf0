/-
# Client.GenMnemonicFido2 — a mnemonic under a password and a security key

`gen_mnemonic_fido2.py`.  The file is a credential id, two salts, a nonce and
the ciphertext, one after another; the reader cuts it at fixed offsets and takes
57 bytes for the credential id, whatever length the authenticator gave it.  The
writer, moreover, takes the credential id from a module-level variable and not
from its parameter.

`isRecovered_iff` says when a mnemonic comes back: the variable holds the
credential id of the call, and that credential id is 57 bytes long.
-/
import SupraFromScratch.Client.Crypto

namespace SupraFromScratch.Client

set_option autoImplicit false

open SupraFromScratch.Theory

/-! ## The authenticator and the process -/

/-- The HMAC secret of an assertion for one credential id and salt, or the error
of an authenticator that does not know the credential. -/
structure Authenticator where
  hmacGetSecret : Bytes → Bytes → Except PyError Bytes

/-- `create_client`: the first device that is plugged in. -/
def createClient (devices : List Authenticator) : Except PyError Authenticator :=
  match devices with
  | device :: _ => return device
  | [] => throw (.runtimeError "No FIDO2 device found")

/-- The module-level variable the writer reads, if the module has defined it. -/
structure Globals where
  credentialId : Option Bytes

def Globals.getCredentialId (globals : Globals) : Except PyError Bytes :=
  match globals.credentialId with
  | some credentialId => return credentialId
  | none => throw (.nameError "credential_id")

/-- What `os.urandom` answers in one run of the writer. -/
structure Randomness where
  fido2Salt : {bytes : Bytes // bytes.length = 32}
  passwordSalt : {bytes : Bytes // bytes.length = 16}
  nonce : {bytes : Bytes // bytes.length = 12}

/-- The local variables at the end of a run of the writer or the reader. -/
structure Fido2Locals where
  credentialId : Bytes
  fido2Salt : Bytes
  passwordSalt : Bytes
  nonce : Bytes
  ciphertext : Bytes
  hmacSecret : Bytes
  finalKey : Key

/-! ## Writer and reader -/

section Fido2

variable (crypto : Crypto) (devices : List Authenticator)

/-- `store_mnemonic_fido2`.  The parameter is spelled as in the source, and is
not read. -/
def storeMnemonicFido2 (globals : Globals) (random : Randomness) (passwordEntered : String)
    (fs : FileSystem) (mnemonic filePath : String) (_crediential_id : Bytes) :
    Except PyError (Fido2Locals × FileSystem) := do
  if fs.exists filePath then
    throw (.fileExistsError
      ("Error: The file '" ++ filePath ++ "' already exists. Choose a different file path."))
  -- Step 1: obtain HMAC secret
  let client ← createClient devices
  let credentialId ← globals.getCredentialId
  let fido2Salt := random.fido2Salt.1
  let hmacSecret ← client.hmacGetSecret credentialId fido2Salt
  -- Step 2: obtain a key derived from a password
  let password := Bcs.utf8 passwordEntered
  let passwordSalt := random.passwordSalt.1
  let passwordKey := crypto.scrypt passwordSalt password
  -- Step 3: hash the HMAC secret and the password-derived key together
  let finalKey := crypto.hmacSha256 hmacSecret passwordKey.1
  -- Step 4: encrypt using final key
  let nonce := random.nonce.1
  let ciphertext := crypto.encrypt finalKey nonce (Bcs.utf8 mnemonic)
  let fs := fs.write filePath (credentialId ++ fido2Salt ++ passwordSalt ++ nonce ++ ciphertext)
  return ({ credentialId, fido2Salt, passwordSalt, nonce, ciphertext, hmacSecret, finalKey }, fs)

/-- The reads from the open file: credential id, salts, nonce and ciphertext. -/
def readParts : StateM Bytes (Bytes × Bytes × Bytes × Bytes × Bytes) := do
  let credentialId ← readSize 57
  let fido2Salt ← readSize 32
  let passwordSalt ← readSize 16
  let nonce ← readSize 12
  let ciphertext ← readRest
  return (credentialId, fido2Salt, passwordSalt, nonce, ciphertext)

/-- `load_mnemonic_fido2`.  Only the decryption is inside the `try`. -/
def loadMnemonicFido2 (passwordEntered : String) (fs : FileSystem) (filePath : String) :
    Except PyError (Fido2Locals × String) := do
  let password := Bcs.utf8 passwordEntered
  let content ← fs.open filePath
  let (credentialId, fido2Salt, passwordSalt, nonce, ciphertext) := (readParts.run content).1
  let passwordKey := crypto.scrypt passwordSalt password
  let client ← createClient devices
  let hmacSecret ← client.hmacGetSecret credentialId fido2Salt
  let finalKey := crypto.hmacSha256 hmacSecret passwordKey.1
  let mnemonic := match decryptText crypto finalKey nonce ciphertext with
    | .ok mnemonic => mnemonic
    | .error _ => ""
  return ({ credentialId, fido2Salt, passwordSalt, nonce, ciphertext, hmacSecret, finalKey },
    mnemonic)

/-- The reader, run on what the writer wrote for a credential id, cuts the file
into that credential id and the writer's other parts, asks for the same secret,
derives the same key and returns the mnemonic. -/
def IsRecovered (globals : Globals) (random : Randomness) (password : String) (fs : FileSystem)
    (mnemonic filePath : String) (credentialId : Bytes) : Prop :=
  ∃ stored fs', storeMnemonicFido2 crypto devices globals random password fs mnemonic filePath
      credentialId = .ok (stored, fs') ∧
    loadMnemonicFido2 crypto devices password fs' filePath =
      .ok ({ stored with credentialId := credentialId }, mnemonic)

end Fido2

/-! ## Cutting the file apart -/

def Fido2Locals.file (run : Fido2Locals) : Bytes :=
  run.credentialId ++ run.fido2Salt ++ run.passwordSalt ++ run.nonce ++ run.ciphertext

/-- The reads lose nothing: put together again they are the file. -/
theorem readParts_join (content : Bytes) :
    let (credentialId, fido2Salt, passwordSalt, nonce, ciphertext) := (readParts.run content).1
    credentialId ++ fido2Salt ++ passwordSalt ++ nonce ++ ciphertext = content := by
  show content.take 57 ++ (content.drop 57).take 32 ++ ((content.drop 57).drop 32).take 16 ++
    (((content.drop 57).drop 32).drop 16).take 12 ++
      (((content.drop 57).drop 32).drop 16).drop 12 = content
  simp only [List.append_assoc, List.take_append_drop]

/-- A whole salt behind it makes the first read a full one. -/
theorem readParts_width {content credentialId fido2Salt : Bytes} {others : Bytes × Bytes × Bytes}
    (read : (readParts.run content).1 = (credentialId, fido2Salt, others))
    (width : fido2Salt.length = 32) : credentialId.length = 57 := by
  have first : content.take 57 = credentialId := congrArg Prod.fst read
  have second : (content.drop 57).take 32 = fido2Salt := congrArg (fun parts => parts.2.1) read
  have long : 57 + 32 ≤ content.length := by
    rw [← second, List.length_take, List.length_drop] at width
    omega
  rw [← first, List.length_take]
  omega

/-- At the reader's own widths the file comes apart where it was put together. -/
theorem readParts_append {credentialId fido2Salt passwordSalt nonce : Bytes} (ciphertext : Bytes)
    (h₁ : credentialId.length = 57) (h₂ : fido2Salt.length = 32) (h₃ : passwordSalt.length = 16)
    (h₄ : nonce.length = 12) :
    (readParts.run (credentialId ++ fido2Salt ++ passwordSalt ++ nonce ++ ciphertext)).1 =
      (credentialId, fido2Salt, passwordSalt, nonce, ciphertext) := by
  simp only [List.append_assoc]
  unfold readParts
  show ((readSize 57 >>= _) _).1 = _
  simp only [bind, StateT.bind, run_readSize_append h₁, run_readSize_append h₂,
    run_readSize_append h₃, run_readSize_append h₄]
  rfl

/-! ## What each of them does -/

section Runs

variable {crypto : Crypto} {device : Authenticator} {others : List Authenticator}

/-- The local variables that follow from a credential id and its secret. -/
def sealed (crypto : Crypto) (random : Randomness) (password mnemonic : String)
    (credentialId hmacSecret : Bytes) : Fido2Locals :=
  let finalKey := crypto.hmacSha256 hmacSecret
    (crypto.scrypt random.passwordSalt.1 (Bcs.utf8 password)).1
  { credentialId, fido2Salt := random.fido2Salt.1, passwordSalt := random.passwordSalt.1
    nonce := random.nonce.1, hmacSecret, finalKey
    ciphertext := crypto.encrypt finalKey random.nonce.1 (Bcs.utf8 mnemonic) }

/-- Steps 1 to 4 of the writer. -/
def fido2Sealed (crypto : Crypto) (devices : List Authenticator) (globals : Globals)
    (random : Randomness) (password mnemonic : String) : Except PyError Fido2Locals := do
  let client ← createClient devices
  let credentialId ← globals.getCredentialId
  let hmacSecret ← client.hmacGetSecret credentialId random.fido2Salt.1
  return sealed crypto random password mnemonic credentialId hmacSecret

/-- The writer is its guard, its four steps, and one write. -/
theorem storeMnemonicFido2_eq (devices : List Authenticator) (globals : Globals)
    (random : Randomness) (password : String) (fs : FileSystem) (mnemonic filePath : String)
    (credentialId : Bytes) :
    storeMnemonicFido2 crypto devices globals random password fs mnemonic filePath credentialId =
      if fs.exists filePath then .error (alreadyExists filePath)
      else (fido2Sealed crypto devices globals random password mnemonic).map fun stored =>
        (stored, fs.write filePath stored.file) := by
  unfold storeMnemonicFido2 fido2Sealed
  by_cases present : fs.exists filePath = true
  · rw [if_pos present, if_pos present]
    rfl
  · rw [if_neg present, if_neg present]
    cases createClient devices with
    | error e => rfl
    | ok client =>
      cases globals.getCredentialId with
      | error e => rfl
      | ok used =>
        simp only [ok_bind]
        cases client.hmacGetSecret used random.fido2Salt.1 with
        | error e => rfl
        | ok secret => rfl

theorem fido2Sealed_eq (globals : Globals) (random : Randomness) (password mnemonic : String) :
    fido2Sealed crypto (device :: others) globals random password mnemonic =
      match globals.credentialId with
      | none => .error (.nameError "credential_id")
      | some used => (device.hmacGetSecret used random.fido2Salt.1).map
          (sealed crypto random password mnemonic used) := by
  unfold fido2Sealed Globals.getCredentialId
  cases globals.credentialId with
  | none => rfl
  | some used => rfl

theorem storeMnemonicFido2_eq_ok {globals : Globals} {random : Randomness} {password : String}
    {fs fs' : FileSystem} {mnemonic filePath : String} {credentialId : Bytes}
    {stored : Fido2Locals}
    (h : storeMnemonicFido2 crypto (device :: others) globals random password fs mnemonic filePath
      credentialId = .ok (stored, fs')) :
    ∃ used secret, globals.credentialId = some used ∧
      device.hmacGetSecret used random.fido2Salt.1 = .ok secret ∧
      stored = sealed crypto random password mnemonic used secret ∧
      fs' = fs.write filePath stored.file := by
  rw [storeMnemonicFido2_eq, fido2Sealed_eq] at h
  split at h
  · cases h
  · cases hg : globals.credentialId with
    | none =>
      rw [hg] at h
      cases h
    | some used =>
      cases hs : device.hmacGetSecret used random.fido2Salt.1 with
      | error e =>
        simp only [hg, hs] at h
        cases h
      | ok secret =>
        simp only [hg, hs] at h
        cases h
        exact ⟨used, secret, rfl, hs, rfl, rfl⟩

theorem storeMnemonicFido2_of_secret {globals : Globals} {random : Randomness}
    {password : String} {fs : FileSystem} {mnemonic filePath : String}
    {credentialId used secret : Bytes} (absent : fs.exists filePath = false)
    (bound : globals.credentialId = some used)
    (asked : device.hmacGetSecret used random.fido2Salt.1 = .ok secret) :
    storeMnemonicFido2 crypto (device :: others) globals random password fs mnemonic filePath
        credentialId =
      .ok (sealed crypto random password mnemonic used secret,
        fs.write filePath (sealed crypto random password mnemonic used secret).file) := by
  rw [storeMnemonicFido2_eq, fido2Sealed_eq, absent, bound, if_neg Bool.false_ne_true]
  show (Except.map _ (Except.map _ (device.hmacGetSecret used random.fido2Salt.1))) = _
  rw [asked]
  rfl

/-- A run of the reader, on the parts it cuts the file into. -/
theorem loadMnemonicFido2_eq {password : String} {fs : FileSystem} {filePath : String}
    {content credentialId fido2Salt passwordSalt nonce ciphertext : Bytes}
    (opened : fs.open filePath = .ok content)
    (parts : (readParts.run content).1 =
      (credentialId, fido2Salt, passwordSalt, nonce, ciphertext)) :
    loadMnemonicFido2 crypto (device :: others) password fs filePath = (do
      let hmacSecret ← device.hmacGetSecret credentialId fido2Salt
      let finalKey := crypto.hmacSha256 hmacSecret
        (crypto.scrypt passwordSalt (Bcs.utf8 password)).1
      return ({ credentialId, fido2Salt, passwordSalt, nonce, ciphertext, hmacSecret, finalKey },
        match decryptText crypto finalKey nonce ciphertext with
        | .ok mnemonic => mnemonic
        | .error _ => "")) := by
  unfold loadMnemonicFido2
  rw [opened]
  simp only [ok_bind, parts]
  rfl

/-- What comes back was stored under the variable's credential id, and all of it
was read as the credential id. -/
theorem credentialId_of_isRecovered {globals : Globals} {random : Randomness} {password : String}
    {fs : FileSystem} {mnemonic filePath : String} {credentialId : Bytes}
    (recovered : IsRecovered crypto (device :: others) globals random password fs mnemonic filePath
      credentialId) :
    globals.credentialId = some credentialId ∧ credentialId.length = 57 := by
  obtain ⟨stored, fs', wrote, loaded⟩ := recovered
  obtain ⟨used, usedSecret, bound, -, rfl, rfl⟩ := storeMnemonicFido2_eq_ok wrote
  set stored := sealed crypto random password mnemonic used usedSecret with hstored
  have opened := fs.open_write filePath stored.file
  rcases parts : (readParts.run stored.file).1 with
    ⟨readId, readSalt, readPasswordSalt, readNonce, readCiphertext⟩
  rw [loadMnemonicFido2_eq opened parts] at loaded
  -- the reader's parts are the writer's, with the credential id of the call
  have same : readId = credentialId ∧ readSalt = stored.fido2Salt ∧
      readPasswordSalt = stored.passwordSalt ∧ readNonce = stored.nonce ∧
        readCiphertext = stored.ciphertext := by
    obtain ⟨readSecret, -, returned⟩ := bind_eq_ok.mp loaded
    have locals := congrArg Prod.fst (Except.ok.inj returned)
    simp only [Fido2Locals.mk.injEq] at locals
    exact ⟨locals.1, locals.2.1, locals.2.2.1, locals.2.2.2.1, locals.2.2.2.2.1⟩
  obtain ⟨rfl, rfl, rfl, rfl, rfl⟩ := same
  have joined := readParts_join stored.file
  rw [parts] at joined
  have front : readId = used := by
    simp only [Fido2Locals.file, List.append_cancel_right_eq] at joined
    exact joined
  exact ⟨front ▸ bound, readParts_width parts random.fido2Salt.2⟩

theorem isRecovered_of_credentialId (lawful : crypto.Lawful) {globals : Globals}
    {random : Randomness} (password : String) {fs : FileSystem} (mnemonic : String)
    {filePath : String} (absent : fs.exists filePath = false) {credentialId secret : Bytes}
    (issued : device.hmacGetSecret credentialId random.fido2Salt.1 = .ok secret)
    (bound : globals.credentialId = some credentialId) (width : credentialId.length = 57) :
    IsRecovered crypto (device :: others) globals random password fs mnemonic filePath
      credentialId := by
  set stored := sealed crypto random password mnemonic credentialId secret with hstored
  have parts : (readParts.run stored.file).1 = (credentialId, stored.fido2Salt,
      stored.passwordSalt, stored.nonce, stored.ciphertext) :=
    readParts_append stored.ciphertext width random.fido2Salt.2 random.passwordSalt.2
      random.nonce.2
  have decrypted : decryptText crypto stored.finalKey stored.nonce stored.ciphertext =
      .ok mnemonic := decryptText_encrypt lawful stored.finalKey random.nonce.2 mnemonic
  refine ⟨stored, _, storeMnemonicFido2_of_secret absent bound issued, ?_⟩
  rw [loadMnemonicFido2_eq (fs.open_write filePath stored.file) parts]
  have asked : device.hmacGetSecret credentialId stored.fido2Salt = .ok secret := issued
  rw [asked]
  show Except.ok (_, match decryptText crypto stored.finalKey stored.nonce stored.ciphertext with
    | .ok mnemonic => mnemonic
    | .error _ => "") = _
  rw [decrypted]
  rfl

/-- **When a mnemonic comes back.**  On a free path, with an authenticator that
knows the credential, the reader recovers what the writer stored exactly when the
module's variable holds that credential id and it is 57 bytes long. -/
theorem isRecovered_iff (lawful : crypto.Lawful) (globals : Globals) (random : Randomness)
    (password : String) {fs : FileSystem} (mnemonic : String) {filePath : String}
    (absent : fs.exists filePath = false) {credentialId secret : Bytes}
    (issued : device.hmacGetSecret credentialId random.fido2Salt.1 = .ok secret) :
    IsRecovered crypto (device :: others) globals random password fs mnemonic filePath
        credentialId ↔
      globals.credentialId = some credentialId ∧ credentialId.length = 57 := by
  refine ⟨credentialId_of_isRecovered, ?_⟩
  rintro ⟨bound, width⟩
  exact isRecovered_of_credentialId lawful password mnemonic absent issued bound width

end Runs

/-! ### A longer credential id -/

/-- An authenticator that answers one secret. -/
def sampleAuthenticator : Authenticator where
  hmacGetSecret _ _ := .ok (List.replicate 32 7)

def sampleRandomness : Randomness where
  fido2Salt := ⟨List.replicate 32 0, by simp⟩
  passwordSalt := ⟨List.replicate 16 0, by simp⟩
  nonce := ⟨List.replicate 12 0, by simp⟩

/-- AES-GCM of "abandon" under the key of `sampleCrypto`. -/
def sampleCiphertext : Bytes :=
  [110, 100, 71, 244, 253, 183, 183, 52, 13, 34, 146, 193, 114, 193, 194, 74, 220, 118, 197, 12,
    188, 127, 122]

/-- The primitives on the password "pw", the salts and nonce above and the
mnemonic "abandon". -/
def sampleCrypto : Crypto where
  scrypt _ _ :=
    ⟨[191, 183, 66, 40, 146, 83, 89, 204, 3, 36, 35, 72, 4, 127, 212, 54, 199, 47, 198, 142, 203,
      247, 183, 225, 168, 185, 76, 20, 249, 111, 33, 161], rfl⟩
  hmacSha256 _ _ :=
    ⟨[133, 144, 60, 118, 154, 105, 54, 66, 147, 80, 117, 69, 91, 60, 207, 161, 214, 125, 198, 8, 0,
      217, 74, 83, 92, 44, 7, 131, 243, 27, 175, 230], rfl⟩
  encrypt _ _ plaintext :=
    if plaintext = Bcs.utf8 "abandon" then sampleCiphertext else 0 :: plaintext
  decrypt _ _ ciphertext :=
    if ciphertext = sampleCiphertext then .ok (Bcs.utf8 "abandon")
    else match ciphertext with
      | 0 :: plaintext => .ok plaintext
      | _ => .error (.exception "InvalidTag")

theorem sampleCrypto_lawful : sampleCrypto.Lawful where
  decrypt_encrypt key nonce plaintext _ := by
    by_cases known : plaintext = Bcs.utf8 "abandon"
    · simp [sampleCrypto, known]
    · simp [sampleCrypto, known, sampleCiphertext]

theorem isRecovered_iff_fiftySeven :
    IsRecovered sampleCrypto [sampleAuthenticator] ⟨some (List.replicate 57 1)⟩ sampleRandomness
        "pw" (fun _ => none) "abandon" "mnemonic.enc" (List.replicate 57 1) ↔
      (some (List.replicate 57 1) : Option Bytes) = some (List.replicate 57 1) ∧
        (List.replicate 57 (1 : UInt8)).length = 57 :=
  isRecovered_iff sampleCrypto_lawful _ sampleRandomness "pw" "abandon" rfl rfl

/-- A credential id of 64 bytes is cut short, even where the variable holds it. -/
theorem not_isRecovered_sixtyFour : ¬ ∀ (globals : Globals) (random : Randomness)
    (password : String) (fs : FileSystem) (mnemonic filePath : String) (credentialId : Bytes),
    fs.exists filePath = false → globals.credentialId = some credentialId →
      IsRecovered sampleCrypto [sampleAuthenticator] globals random password fs mnemonic filePath
        credentialId := by
  intro always
  have recovered := always ⟨some (List.replicate 64 1)⟩ sampleRandomness "pw" (fun _ => none)
    "abandon" "mnemonic.enc" (List.replicate 64 1) rfl rfl
  have width := (credentialId_of_isRecovered recovered).2
  revert width
  decide

end SupraFromScratch.Client
