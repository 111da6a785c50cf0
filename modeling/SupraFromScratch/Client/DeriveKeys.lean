/-
# Client.DeriveKeys — private keys out of a mnemonic file

`derive_keys.py`, `get_account_addr` of `airdrop.py` and `encrypt_mnemonic.py`.
The reader of a mnemonic file answers the empty text where it cannot decrypt, and
its callers do not look at it: they derive keys from whatever text they get.  What
stands between a wrong password and somebody else's keys is the seed generator,
which refuses the empty text.

* `loadMultiplePrivateKeys_eq_ok_iff` — keys come out exactly when the file holds
  a mnemonic under the password, and then they are that mnemonic's.
* `encryptMnemonic_loads` — what `encrypt_mnemonic.py` writes gives the keys of the
  stripped text it read, the same ones to every caller.
-/
import SupraFromScratch.Client.GenMnemonic
import SupraFromScratch.Client.AuthToDict
import SupraFromScratch.Theory.PyInt

namespace SupraFromScratch.Client

set_option autoImplicit false

open SupraFromScratch.Theory

/-! ## Keys of a mnemonic -/

/-- `Bip39SeedGenerator(mnemonic).Generate()`, and the private key of an account
under a seed. -/
structure Bip where
  seed : String → Except PyError Bytes
  privateKey : Bytes → Int → Except PyError Key

/-- The empty text is no mnemonic. -/
def Bip.RefusesEmpty (bip : Bip) : Prop := ∃ e, bip.seed "" = .error e

section Scripts

variable (crypto : Crypto) (bip : Bip)

/-- `generate_bip44_account`. -/
def generateBip44Account (mnemonic : String) (accountNumber : Int) : Except PyError Key := do
  let seedBytes ← bip.seed mnemonic
  bip.privateKey seedBytes accountNumber

/-- `load_private_key`, with what is entered at the two prompts. -/
def loadPrivateKey (passwordEntered accountEntered : String) (fs : FileSystem)
    (filePath : String) : Except PyError Key := do
  let mnemonic ← loadMnemonic crypto passwordEntered fs filePath
  let accountNumber ← (PyVal.str accountEntered : Value).toInt
  generateBip44Account bip mnemonic accountNumber

/-- `load_multiple_private_keys`. -/
def loadMultiplePrivateKeys (passwordEntered : String) (fs : FileSystem) (filePath : String)
    (numAccounts : Int) : Except PyError (List Key) := do
  let mnemonic ← loadMnemonic crypto passwordEntered fs filePath
  (List.range numAccounts.toNat).mapM fun (accountNumber : Nat) =>
    generateBip44Account bip mnemonic accountNumber

/-- `Account.load_key` of a key's digits, and `str` of an address. -/
structure AccountSdk where
  loadKey : String → Except PyError Account
  addressStr : Bytes → String

def AccountSdk.loadAccount (sdk : AccountSdk) (key : Key) : Except PyError Account :=
  sdk.loadKey (String.ofList (hex key.1))

/-- `get_account_addr`. -/
def getAccountAddr (sdk : AccountSdk) (passwordEntered accountEntered : String) (fs : FileSystem)
    (mnemonicFile : String) : Except PyError (Account × String) := do
  let privateKey ← loadPrivateKey crypto bip passwordEntered accountEntered fs mnemonicFile
  let senderAccount ← sdk.loadAccount privateKey
  return (senderAccount, sdk.addressStr senderAccount.accountAddress.bytes)

/-- The owners of `execute_multisig_tx.py`. -/
def loadOwners (sdk : AccountSdk) (passwordEntered : String) (fs : FileSystem)
    (mnemonicFile : String) (numAccounts : Int) : Except PyError (List Account) := do
  let privateKeys ← loadMultiplePrivateKeys crypto bip passwordEntered fs mnemonicFile numAccounts
  privateKeys.mapM sdk.loadAccount

end Scripts

/-! ## Text files -/

/-- `str.isspace` of a character. -/
def isSpace (c : Char) : Bool := isBlank c || (0x1c ≤ c.toNat && c.toNat ≤ 0x1f)

/-- `str.strip`. -/
def strip (s : String) : String :=
  String.ofList ((s.toList.dropWhile isSpace).reverse.dropWhile isSpace).reverse

/-- Reading in text mode makes every line end a newline. -/
def universalNewlines : List Char → List Char
  | [] => []
  | '\r' :: '\n' :: rest => '\n' :: universalNewlines rest
  | c :: rest => (if c = '\r' then '\n' else c) :: universalNewlines rest

/-- `open(path, "r").read()`, of a file in UTF-8. -/
def FileSystem.readText (fs : FileSystem) (path : String) : Except PyError String := do
  let data ← fs.open path
  let text ← Bcs.ofUtf8 (.valueError "invalid UTF-8") data
  return String.ofList (universalNewlines text.toList)

/-- `encrypt_mnemonic.py`. -/
def encryptMnemonic (crypto : Crypto) (salt : {bytes : Bytes // bytes.length = 16})
    (nonce : {bytes : Bytes // bytes.length = 12}) (passwordEntered : String) (fs : FileSystem)
    (inputFile mnemonicFile : String) : Except PyError FileSystem := do
  let text ← fs.readText inputFile
  storeMnemonic crypto salt nonce passwordEntered fs (strip text) mnemonicFile

/-! ## What a mnemonic file holds -/

/-- Decryption raises on what is shorter than the tag, and on what no encryption
under the key and nonce made. -/
structure Crypto.Authenticates (crypto : Crypto) : Prop where
  short : ∀ key nonce ciphertext, ciphertext.length < 16 →
    ∃ e, crypto.decrypt key nonce ciphertext = .error e
  forged : ∀ key nonce ciphertext, nonce.length = 12 →
    (∀ plaintext, ciphertext ≠ crypto.encrypt key nonce plaintext) →
      ∃ e, crypto.decrypt key nonce ciphertext = .error e

section Holds

variable {crypto : Crypto} {bip : Bip} {password filePath : String} {fs : FileSystem}

/-- The file holds the mnemonic under the password. -/
def FileSystem.HoldsMnemonic (fs : FileSystem) (crypto : Crypto)
    (filePath password mnemonic : String) : Prop :=
  ∃ (salt : {bytes : Bytes // bytes.length = 16}) (nonce : {bytes : Bytes // bytes.length = 12}),
    fs filePath = some (Client.mnemonicFile crypto salt.1 nonce.1 password mnemonic)

theorem FileSystem.open_of_some {content : Bytes} (here : fs filePath = some content) :
    fs.open filePath = .ok content := by
  rw [FileSystem.open, here]
  rfl

theorem loadMnemonic_of_holds (lawful : crypto.Lawful) {mnemonic : String}
    (holds : fs.HoldsMnemonic crypto filePath password mnemonic) :
    loadMnemonic crypto password fs filePath = .ok mnemonic := by
  obtain ⟨salt, nonce, here⟩ := holds
  rw [loadMnemonic_of_open (FileSystem.open_of_some here)]
  obtain ⟨hsalt, hnonce, hciphertext⟩ :=
    slices_mnemonicFile crypto salt.2 nonce.2 password mnemonic
  rw [hsalt, hnonce, hciphertext, decryptText_encrypt lawful _ nonce.2]

/-- What some run of the writer left holds a mnemonic. -/
theorem holds_of_isStored {content : Bytes} (here : fs filePath = some content)
    (stored : IsStored crypto password content) :
    ∃ mnemonic, fs.HoldsMnemonic crypto filePath password mnemonic := by
  obtain ⟨salt, nonce, fs', mnemonic, path, fs'', written, left⟩ := stored
  unfold storeMnemonic at written
  split at written
  · cases written
  · cases written
    rw [FileSystem.write_same] at left
    exact ⟨mnemonic, salt, nonce, here.trans left.symm⟩

/-- A file whose nonce is cut short has no ciphertext, so decryption refuses it
whatever it makes of the nonce. -/
theorem isStored_of_authenticates (lawful : crypto.Lawful) (authenticates : crypto.Authenticates)
    {mnemonic : String} {data : Bytes}
    (decrypted : decryptText crypto (crypto.scrypt (data.take 16) (Bcs.utf8 password))
      ((data.take 28).drop 16) (data.drop 28) = .ok mnemonic) : IsStored crypto password data := by
  obtain ⟨plaintext, hplain, decoded⟩ := bind_eq_ok.mp decrypted
  have tagged : 16 ≤ (data.drop 28).length := by
    by_contra short
    obtain ⟨e, raised⟩ := authenticates.short _ ((data.take 28).drop 16) _ (not_le.mp short)
    rw [raised] at hplain
    cases hplain
  have width : ((data.take 28).drop 16).length = 12 := by
    rw [List.length_drop] at tagged
    rw [List.length_drop, List.length_take]
    omega
  have made := lawful.of_decrypt width (authenticates.forged _ _ _ width) hplain
  exact isStored_of_slices width (Bcs.utf8_of_ofUtf8 _ decoded ▸ made)

/-- Only a mnemonic the file holds is read, and the empty text. -/
theorem holds_of_loadMnemonic (lawful : crypto.Lawful) (authenticates : crypto.Authenticates)
    {mnemonic : String} (loaded : loadMnemonic crypto password fs filePath = .ok mnemonic)
    (some_text : mnemonic ≠ "") : fs.HoldsMnemonic crypto filePath password mnemonic := by
  cases here : fs filePath with
  | none =>
    simp only [loadMnemonic, FileSystem.open, here] at loaded
    cases loaded
  | some content =>
    have read := loaded
    rw [loadMnemonic_of_open (FileSystem.open_of_some here), Except.ok.injEq] at read
    cases decrypted : decryptText crypto (crypto.scrypt (content.take 16) (Bcs.utf8 password))
        ((content.take 28).drop 16) (content.drop 28) with
    | error e =>
      rw [decrypted] at read
      exact absurd read.symm some_text
    | ok text =>
      obtain ⟨held, holds⟩ :=
        holds_of_isStored here (isStored_of_authenticates lawful authenticates decrypted)
      rw [loadMnemonic_of_holds lawful holds, Except.ok.injEq] at loaded
      exact loaded ▸ holds

end Holds

/-! ### Five accounts of one phrase -/

namespace SamplePhrase

def phrase : String :=
  "abandon abandon abandon abandon abandon abandon abandon abandon abandon abandon abandon about"

def seed : Bytes :=
  [94, 176, 11, 189, 220, 240, 105, 8, 72, 137, 168, 171, 145, 85, 86, 129, 101, 245, 196, 83,
   204, 184, 94, 112, 129, 26, 174, 214, 246, 218, 95, 193, 154, 90, 196, 11, 56, 156, 211, 112,
   208, 134, 32, 109, 236, 138, 166, 196, 61, 174, 166, 105, 15, 32, 173, 61, 141, 72, 178, 210,
   206, 158, 56, 228]

/-- The private keys of accounts 0 to 4. -/
def keys : List Key :=
  [⟨[204, 146, 192, 234, 248, 2, 6, 216, 23, 241, 80, 226, 25, 23, 247, 151, 228, 156, 246, 68,
      163, 58, 197, 20, 222, 60, 49, 107, 170, 47, 27, 245], rfl⟩,
    ⟨[76, 111, 90, 107, 104, 118, 49, 221, 82, 243, 44, 151, 69, 126, 137, 95, 181, 121, 71, 185,
      184, 39, 198, 105, 124, 17, 205, 123, 42, 7, 92, 91], rfl⟩,
    ⟨[215, 12, 33, 8, 128, 63, 183, 16, 162, 26, 117, 139, 185, 193, 89, 170, 74, 236, 67, 149,
      177, 52, 54, 48, 5, 181, 91, 9, 114, 18, 171, 126], rfl⟩,
    ⟨[48, 61, 169, 13, 64, 91, 9, 157, 170, 135, 254, 61, 206, 30, 31, 24, 3, 255, 236, 38, 116,
      64, 63, 184, 91, 9, 85, 206, 83, 14, 58, 182], rfl⟩,
    ⟨[239, 30, 102, 44, 93, 235, 218, 3, 60, 42, 137, 245, 156, 160, 34, 238, 247, 176, 200, 33,
      197, 164, 127, 199, 172, 72, 111, 150, 82, 84, 223, 48], rfl⟩]

/-- Their addresses. -/
def addresses : List AccountAddress :=
  [⟨[235, 102, 59, 104, 18, 9, 231, 8, 125, 104, 28, 93, 62, 237, 18, 170, 168, 225, 145, 94, 124,
      135, 121, 69, 66, 195, 249, 110, 148, 179, 211, 191], rfl⟩,
    ⟨[248, 103, 55, 45, 254, 193, 63, 182, 192, 116, 13, 75, 87, 67, 99, 104, 94, 16, 230, 242, 67,
      233, 85, 79, 250, 143, 110, 105, 142, 148, 14, 250], rfl⟩,
    ⟨[107, 9, 187, 32, 247, 254, 106, 71, 30, 94, 15, 233, 135, 82, 40, 224, 193, 190, 200, 69,
      226, 103, 227, 65, 7, 185, 104, 201, 200, 149, 40, 66], rfl⟩,
    ⟨[202, 199, 79, 242, 10, 181, 188, 150, 245, 183, 134, 212, 110, 24, 81, 184, 14, 175, 176,
      232, 89, 141, 216, 250, 1, 93, 6, 244, 215, 11, 207, 157], rfl⟩,
    ⟨[124, 110, 137, 2, 111, 179, 226, 99, 26, 106, 174, 183, 151, 55, 54, 212, 3, 47, 72, 241,
      126, 43, 118, 235, 125, 133, 28, 163, 64, 121, 243, 129], rfl⟩]

def accounts : List Account := List.zipWith Account.mk addresses keys

/-- AES-GCM of the phrase under the password "pw", with a salt and nonce of zeros. -/
def ciphertext : Bytes :=
  [223, 191, 123, 174, 54, 118, 80, 146, 154, 28, 220, 251, 102, 179, 253, 113, 76, 7, 76, 89,
   169, 223, 255, 226, 186, 14, 141, 30, 230, 36, 220, 154, 148, 214, 169, 47, 52, 179, 254, 123,
   70, 94, 107, 251, 140, 176, 137, 132, 176, 128, 78, 150, 108, 191, 156, 193, 121, 168, 16,
   217, 164, 210, 131, 1, 133, 167, 89, 106, 96, 176, 162, 51, 106, 127, 172, 53, 13, 223, 58,
   188, 247, 40, 85, 53, 242, 62, 230, 67, 188, 86, 25, 43, 87, 44, 15, 34, 3, 193, 81, 18, 40,
   193, 235, 33, 213, 76, 164, 22, 144]

/-- The primitives around that encryption: of any other plaintext the tag is zeros,
in front. -/
def aead : Crypto where
  scrypt _ _ := ⟨samplePasswordKey, length_samplePasswordKey⟩
  hmacSha256 := sampleAead.hmacSha256
  encrypt _ _ plaintext :=
    if plaintext = Bcs.utf8 phrase then ciphertext else List.replicate 16 0 ++ plaintext
  decrypt _ nonce made :=
    if nonce.length < 8 ∨ 128 < nonce.length then
      .error (.valueError "Nonce must be between 8 and 128 bytes")
    else if made = ciphertext then .ok (Bcs.utf8 phrase)
    else if made.take 16 = List.replicate 16 0 ∧ made.drop 16 ≠ Bcs.utf8 phrase then
      .ok (made.drop 16)
    else .error (.exception "InvalidTag")

theorem aead_lawful : aead.Lawful where
  decrypt_encrypt key nonce plaintext width := by
    by_cases known : plaintext = Bcs.utf8 phrase
    · simp [aead, known, width]
    · simp only [aead, if_neg known, width]
      rw [if_neg (by decide), if_neg, if_pos]
      · rfl
      · exact ⟨rfl, known⟩
      · intro same
        have first := congrArg List.head? same
        simp [ciphertext, List.replicate_succ] at first

theorem aead_authenticates : aead.Authenticates where
  short key nonce made short := by
    have unknown : made ≠ ciphertext := by
      rintro rfl
      exact absurd short (by decide)
    have untagged : made.take 16 ≠ List.replicate 16 0 := by
      intro tag
      have width := congrArg List.length tag
      rw [List.length_take, List.length_replicate] at width
      omega
    simp only [aead, if_neg unknown, if_neg fun tagged => untagged (And.left tagged)]
    split <;> exact ⟨_, rfl⟩
  forged key nonce made width foreign := by
    have unknown : made ≠ ciphertext := by
      have differs := foreign (Bcs.utf8 phrase)
      simpa [aead] using differs
    have unmade : ¬ (made.take 16 = List.replicate 16 0 ∧ made.drop 16 ≠ Bcs.utf8 phrase) := by
      rintro ⟨tag, other⟩
      apply foreign (made.drop 16)
      simp only [aead, if_neg other]
      rw [← tag, List.take_append_drop]
    simp only [aead, if_neg unknown, if_neg unmade]
    split <;> exact ⟨_, rfl⟩

/-- The derivation, on the phrase. -/
def phraseBip : Bip where
  seed mnemonic :=
    if mnemonic = phrase then .ok seed else .error (.valueError "Invalid mnemonic")
  privateKey fromSeed n :=
    match keys[n.toNat]? with
    | some key => if fromSeed = seed ∧ 0 ≤ n then .ok key else .error (.valueError "Invalid index")
    | none => .error (.valueError "Invalid index")

theorem phraseBip_refusesEmpty : phraseBip.RefusesEmpty := ⟨_, rfl⟩

def sdk : AccountSdk where
  loadKey digits :=
    match accounts.find? fun account => digits = String.ofList (hex account.privateKey.1) with
    | some account => .ok account
    | none => .error (.valueError "non-hexadecimal number found in fromhex() arg")
  addressStr := SampleWallet.hexText

/-- The phrase in a text file, with a line end after it. -/
def textFile : FileSystem := fun path =>
  if path = "../secret_recovery_phrase.txt" then some (Bcs.utf8 (phrase ++ "\n")) else none

/-- The file `encrypt_mnemonic.py` makes of it. -/
def encryptedFile : FileSystem :=
  textFile.write "mnemonic_new_multisig.enc"
    (mnemonicFile aead (List.replicate 16 0) (List.replicate 12 0) "pw" phrase)

theorem readText_phrase :
    textFile.readText "../secret_recovery_phrase.txt" = .ok (phrase ++ "\n") := by
  decide +kernel

theorem strip_phrase : strip (phrase ++ "\n") = phrase := by decide +kernel

end SamplePhrase

/-! ## Which keys come out -/

section Keys

variable {crypto : Crypto} {bip : Bip} {password filePath : String} {fs : FileSystem}

/-- **Keys come out of nothing but a mnemonic.**  For at least one account: the
file holds a mnemonic under the password, and the keys are that mnemonic's, by
number. -/
theorem loadMultiplePrivateKeys_eq_ok_iff (lawful : crypto.Lawful)
    (authenticates : crypto.Authenticates) (refusesEmpty : bip.RefusesEmpty) {numAccounts : Int} (some_account : 0 < numAccounts)
    {keys : List Key} :
    loadMultiplePrivateKeys crypto bip password fs filePath numAccounts = .ok keys ↔
      ∃ mnemonic, fs.HoldsMnemonic crypto filePath password mnemonic ∧
        List.Forall₂ (fun (i : Nat) key => generateBip44Account bip mnemonic i = .ok key)
          (List.range numAccounts.toNat) keys := by
  constructor
  · intro loaded
    obtain ⟨mnemonic, read, derived⟩ := bind_eq_ok.mp loaded
    refine ⟨mnemonic, holds_of_loadMnemonic lawful authenticates read ?_,
      PyVal.mapM_eq_ok_iff.mp derived⟩
    rintro rfl
    obtain ⟨e, raises⟩ := refusesEmpty
    obtain ⟨n, count⟩ : ∃ n, numAccounts.toNat = n + 1 := ⟨numAccounts.toNat - 1, by omega⟩
    have first := PyVal.mapM_eq_ok_iff.mp derived
    rw [count, List.range_succ_eq_map] at first
    cases first with
    | cons key _ =>
      rw [generateBip44Account, raises] at key
      cases key
  · rintro ⟨mnemonic, holds, derived⟩
    rw [loadMultiplePrivateKeys, loadMnemonic_of_holds lawful holds]
    exact PyVal.mapM_eq_ok_iff.mpr derived

open SamplePhrase in
theorem loadMultiplePrivateKeys_phrase :
    loadMultiplePrivateKeys aead phraseBip "pw" encryptedFile "mnemonic_new_multisig.enc" 2 =
      .ok (keys.take 2) :=
  (loadMultiplePrivateKeys_eq_ok_iff aead_lawful aead_authenticates phraseBip_refusesEmpty
    (by decide)).mpr
    ⟨phrase, ⟨⟨_, rfl⟩, ⟨_, rfl⟩, FileSystem.write_same _ _ _⟩,
      .cons rfl (.cons rfl .nil)⟩

/-- What is stored is held, in the one file that is new. -/
theorem holds_of_storeMnemonic {salt : {bytes : Bytes // bytes.length = 16}}
    {nonce : {bytes : Bytes // bytes.length = 12}} {mnemonic : String} {fs' : FileSystem}
    (stored : storeMnemonic crypto salt nonce password fs mnemonic filePath = .ok fs') :
    fs filePath = none ∧ (∀ path ≠ filePath, fs' path = fs path) ∧
      fs'.HoldsMnemonic crypto filePath password mnemonic := by
  cases absent : fs.exists filePath with
  | true =>
    rw [storeMnemonic, absent] at stored
    cases stored
  | false =>
    rw [storeMnemonic_of_absent salt nonce password mnemonic absent] at stored
    cases stored
    refine ⟨by simpa [FileSystem.exists] using absent, ?_, salt, nonce, ?_⟩
    · intro path other
      exact Function.update_of_ne other _ _
    · exact FileSystem.write_same _ _ _

/-- The owner with a number is the account whose number is entered. -/
theorem getAccountAddr_of_loadOwners (sdk : AccountSdk) {n : Int} {owners : List Account}
    (loaded : loadOwners crypto bip sdk password fs filePath n = .ok owners) {entered : String}
    {i : Nat} (number : (PyVal.str entered : Value).toInt = .ok (i : Int)) {owner : Account}
    (numbered : owners[i]? = some owner) :
    getAccountAddr crypto bip sdk password entered fs filePath =
      .ok (owner, sdk.addressStr owner.accountAddress.bytes) := by
  obtain ⟨privateKeys, derived, loaded⟩ := bind_eq_ok.mp loaded
  obtain ⟨mnemonic, read, derived⟩ := bind_eq_ok.mp derived
  have keys := PyVal.mapM_eq_ok_iff.mp derived
  have accounts := PyVal.mapM_eq_ok_iff.mp loaded
  obtain ⟨inOwners, rfl⟩ := List.getElem?_eq_some_iff.mp numbered
  have inKeys : i < privateKeys.length := accounts.length_eq ▸ inOwners
  have inRange : i < (List.range n.toNat).length := keys.length_eq ▸ inKeys
  have key := keys.get inRange inKeys
  have account := accounts.get inKeys inOwners
  simp only [List.get_eq_getElem, List.getElem_range] at key account
  rw [getAccountAddr, loadPrivateKey, read, ok_bind, number, ok_bind, key, ok_bind, account]
  rfl

/-- **What `encrypt_mnemonic.py` writes.**  It writes one new file, and under the
same password every script derives the keys of the stripped text: all of them, or
the one whose number is entered, or the accounts they are the keys of. -/
theorem encryptMnemonic_loads (lawful : crypto.Lawful) (bip : Bip) (sdk : AccountSdk)
    {salt : {bytes : Bytes // bytes.length = 16}} {nonce : {bytes : Bytes // bytes.length = 12}}
    {inputFile mnemonicFile : String} {fs' : FileSystem}
    (encrypted : encryptMnemonic crypto salt nonce password fs inputFile mnemonicFile = .ok fs') :
    ∃ text, fs.readText inputFile = .ok text ∧ fs mnemonicFile = none ∧
      (∀ path ≠ mnemonicFile, fs' path = fs path) ∧
      (∀ n : Int, loadMultiplePrivateKeys crypto bip password fs' mnemonicFile n =
        (List.range n.toNat).mapM fun (i : Nat) => generateBip44Account bip (strip text) i) ∧
      (∀ entered (i : Int), (PyVal.str entered : Value).toInt = .ok i →
        loadPrivateKey crypto bip password entered fs' mnemonicFile =
          generateBip44Account bip (strip text) i) ∧
      ∀ (n : Int) owners, loadOwners crypto bip sdk password fs' mnemonicFile n = .ok owners →
        ∀ entered (i : Nat), (PyVal.str entered : Value).toInt = .ok (i : Int) → ∀ owner,
          owners[i]? = some owner → getAccountAddr crypto bip sdk password entered fs'
            mnemonicFile = .ok (owner, sdk.addressStr owner.accountAddress.bytes) := by
  obtain ⟨text, read, stored⟩ := bind_eq_ok.mp encrypted
  obtain ⟨absent, others, holds⟩ := holds_of_storeMnemonic stored
  have loaded := loadMnemonic_of_holds lawful holds
  refine ⟨text, read, absent, others, ?_, ?_, ?_⟩
  · intro n
    rw [loadMultiplePrivateKeys, loaded]
    rfl
  · intro entered i number
    rw [loadPrivateKey, loaded, ok_bind, number]
    rfl
  · intro n owners derived entered i number owner numbered
    exact getAccountAddr_of_loadOwners sdk derived number numbered

open SamplePhrase in
theorem encryptMnemonic_phrase :
    encryptMnemonic aead ⟨List.replicate 16 0, rfl⟩ ⟨List.replicate 12 0, rfl⟩ "pw" textFile
        "../secret_recovery_phrase.txt" "mnemonic_new_multisig.enc" = .ok encryptedFile := by
  rw [encryptMnemonic, readText_phrase, ok_bind, strip_phrase]
  exact storeMnemonic_of_absent _ _ _ _ rfl

open SamplePhrase in
theorem encryptMnemonic_loads_phrase :
    ∃ text, textFile.readText "../secret_recovery_phrase.txt" = .ok text ∧
      textFile "mnemonic_new_multisig.enc" = none ∧
      (∀ path ≠ "mnemonic_new_multisig.enc", encryptedFile path = textFile path) ∧
      (∀ n : Int,
        loadMultiplePrivateKeys aead phraseBip "pw" encryptedFile "mnemonic_new_multisig.enc" n =
          (List.range n.toNat).mapM fun (i : Nat) => generateBip44Account phraseBip (strip text) i) ∧
      (∀ entered (i : Int), (PyVal.str entered : Value).toInt = .ok i →
        loadPrivateKey aead phraseBip "pw" entered encryptedFile "mnemonic_new_multisig.enc" =
          generateBip44Account phraseBip (strip text) i) ∧
      ∀ (n : Int) owners,
        loadOwners aead phraseBip sdk "pw" encryptedFile "mnemonic_new_multisig.enc" n = .ok owners →
        ∀ entered (i : Nat), (PyVal.str entered : Value).toInt = .ok (i : Int) → ∀ owner,
          owners[i]? = some owner →
            getAccountAddr aead phraseBip sdk "pw" entered encryptedFile "mnemonic_new_multisig.enc" =
              .ok (owner, sdk.addressStr owner.accountAddress.bytes) :=
  encryptMnemonic_loads aead_lawful phraseBip sdk encryptMnemonic_phrase

end Keys

end SupraFromScratch.Client
