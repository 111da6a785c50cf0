/-
# Client.GenMnemonic — a mnemonic under a password

`gen_mnemonic.py`.  The file is a salt, a nonce and the ciphertext; the reader
slices it at 16 and 28 without looking at its length.  A slice of a short file is
short, so whatever the file holds, the reader gets as far as the decryption, and
an exception raised there is caught.

`loadMnemonic_exact_or_refused`: what the writer wrote is read back, and every
other content reads as the empty mnemonic.
-/
import SupraFromScratch.Client.Crypto

namespace SupraFromScratch.Client

set_option autoImplicit false

open SupraFromScratch.Theory

/-- Decryption raises on a nonce of another length, and on what no encryption
under the key and nonce made. -/
structure Crypto.Refuses (crypto : Crypto) : Prop where
  wrong_nonce : ∀ key nonce ciphertext, nonce.length ≠ 12 →
    ∃ e, crypto.decrypt key nonce ciphertext = .error e
  forged : ∀ key nonce ciphertext, (∀ plaintext, ciphertext ≠ crypto.encrypt key nonce plaintext) →
    ∃ e, crypto.decrypt key nonce ciphertext = .error e

/-- What no encryption made is refused: then only an encryption of what is returned
is decrypted. -/
theorem Crypto.Lawful.of_decrypt {crypto : Crypto} (lawful : crypto.Lawful) {key : Key}
    {nonce ciphertext plaintext : Bytes} (width : nonce.length = 12)
    (forged : (∀ plaintext, ciphertext ≠ crypto.encrypt key nonce plaintext) →
      ∃ e, crypto.decrypt key nonce ciphertext = .error e)
    (decrypted : crypto.decrypt key nonce ciphertext = .ok plaintext) :
    ciphertext = crypto.encrypt key nonce plaintext := by
  by_cases made : ∃ p, ciphertext = crypto.encrypt key nonce p
  · obtain ⟨p, rfl⟩ := made
    rw [lawful.decrypt_encrypt key nonce p width] at decrypted
    cases decrypted
    rfl
  · obtain ⟨e, raised⟩ := forged fun p same => made ⟨p, same⟩
    rw [decrypted] at raised
    cases raised

/-- Decryption succeeds on nothing but an encryption of what it returns. -/
theorem Crypto.Refuses.of_decrypt {crypto : Crypto} (refuses : crypto.Refuses)
    (lawful : crypto.Lawful) {key : Key} {nonce ciphertext plaintext : Bytes}
    (decrypted : crypto.decrypt key nonce ciphertext = .ok plaintext) :
    nonce.length = 12 ∧ ciphertext = crypto.encrypt key nonce plaintext := by
  have width : nonce.length = 12 := by
    by_contra other
    obtain ⟨e, raised⟩ := refuses.wrong_nonce key nonce ciphertext other
    rw [decrypted] at raised
    cases raised
  exact ⟨width, lawful.of_decrypt width (refuses.forged key nonce ciphertext) decrypted⟩

/-! ## Writer and reader -/

section Mnemonic

variable (crypto : Crypto)

/-- The bytes `store_mnemonic` writes. -/
def mnemonicFile (salt nonce : Bytes) (passwordEntered mnemonic : String) : Bytes :=
  let password := Bcs.utf8 passwordEntered
  let key := crypto.scrypt salt password
  let ciphertext := crypto.encrypt key nonce (Bcs.utf8 mnemonic)
  salt ++ nonce ++ ciphertext

/-- `store_mnemonic`, on the salt and nonce `os.urandom` answers. -/
def storeMnemonic (salt : {bytes : Bytes // bytes.length = 16})
    (nonce : {bytes : Bytes // bytes.length = 12}) (passwordEntered : String) (fs : FileSystem)
    (mnemonic filePath : String) : Except PyError FileSystem := do
  if fs.exists filePath then
    throw (alreadyExists filePath)
  return fs.write filePath (mnemonicFile crypto salt.1 nonce.1 passwordEntered mnemonic)

/-- `load_mnemonic`.  Only the decryption is inside the `try`. -/
def loadMnemonic (passwordEntered : String) (fs : FileSystem) (filePath : String) :
    Except PyError String := do
  let password := Bcs.utf8 passwordEntered
  let data ← fs.open filePath
  let salt := data.take 16
  let nonce := (data.take 28).drop 16
  let ciphertext := data.drop 28
  let key := crypto.scrypt salt password
  match decryptText crypto key nonce ciphertext with
  | .ok mnemonic => return mnemonic
  | .error _ => return ""

/-- Some run of the writer with this password leaves this content. -/
def IsStored (password : String) (content : Bytes) : Prop :=
  ∃ salt nonce fs mnemonic filePath fs',
    storeMnemonic crypto salt nonce password fs mnemonic filePath = .ok fs' ∧
      fs' filePath = some content

end Mnemonic

/-! ## What is read -/

section Read

variable {crypto : Crypto}

theorem storeMnemonic_of_absent (salt : {bytes : Bytes // bytes.length = 16})
    (nonce : {bytes : Bytes // bytes.length = 12}) (password : String) {fs : FileSystem}
    (mnemonic : String) {filePath : String} (absent : fs.exists filePath = false) :
    storeMnemonic crypto salt nonce password fs mnemonic filePath =
      .ok (fs.write filePath (mnemonicFile crypto salt.1 nonce.1 password mnemonic)) := by
  rw [storeMnemonic, absent]
  rfl

/-- An existing file never makes the reader raise. -/
theorem loadMnemonic_of_open {password : String} {fs : FileSystem} {filePath : String}
    {data : Bytes} (opened : fs.open filePath = .ok data) :
    loadMnemonic crypto password fs filePath =
      .ok (match decryptText crypto (crypto.scrypt (data.take 16) (Bcs.utf8 password))
          ((data.take 28).drop 16) (data.drop 28) with
        | .ok mnemonic => mnemonic
        | .error _ => "") := by
  unfold loadMnemonic
  rw [opened]
  simp only [ok_bind]
  cases decryptText crypto (crypto.scrypt (data.take 16) (Bcs.utf8 password))
    ((data.take 28).drop 16) (data.drop 28) <;> rfl

/-- The slices are the parts, where the parts have their lengths. -/
theorem slices_mnemonicFile (crypto : Crypto) {salt nonce : Bytes} (h₁ : salt.length = 16)
    (h₂ : nonce.length = 12) (password mnemonic : String) :
    let data := mnemonicFile crypto salt nonce password mnemonic
    data.take 16 = salt ∧ (data.take 28).drop 16 = nonce ∧
      data.drop 28 = crypto.encrypt (crypto.scrypt salt (Bcs.utf8 password)) nonce
        (Bcs.utf8 mnemonic) := by
  intro data
  have front : (salt ++ nonce).length = 28 := by simp [h₁, h₂]
  have joined : data = salt ++ nonce ++ crypto.encrypt
      (crypto.scrypt salt (Bcs.utf8 password)) nonce (Bcs.utf8 mnemonic) := rfl
  refine ⟨?_, ?_, ?_⟩
  · rw [joined, List.append_assoc, List.take_left' h₁]
  · rw [joined, List.take_left' front, List.drop_left' h₁]
  · rw [joined, List.drop_left' front]

/-- A content whose last part encrypts a mnemonic is what the writer writes. -/
theorem isStored_of_slices {password mnemonic : String} {data : Bytes}
    (width : ((data.take 28).drop 16).length = 12)
    (made : data.drop 28 = crypto.encrypt (crypto.scrypt (data.take 16) (Bcs.utf8 password))
      ((data.take 28).drop 16) (Bcs.utf8 mnemonic)) : IsStored crypto password data := by
  -- a nonce of full length has a full salt before it
  have long : 28 ≤ data.length := by
    rw [List.length_drop, List.length_take] at width
    omega
  have saltWidth : (data.take 16).length = 16 := by
    rw [List.length_take]
    omega
  have joined : mnemonicFile crypto (data.take 16) ((data.take 28).drop 16) password mnemonic =
      data := by
    show data.take 16 ++ (data.take 28).drop 16 ++ crypto.encrypt _ _ _ = data
    have front : data.take 16 = (data.take 28).take 16 := by rw [List.take_take]; rfl
    rw [← made, front, List.take_append_drop, List.take_append_drop]
  refine ⟨⟨_, saltWidth⟩, ⟨_, width⟩, fun _ => none, mnemonic, "", _,
    storeMnemonic_of_absent _ _ password mnemonic rfl, ?_⟩
  rw [FileSystem.write_same, joined]

/-- A mnemonic comes out of nothing but what the writer wrote. -/
theorem isStored_of_decryptText (lawful : crypto.Lawful) (refuses : crypto.Refuses)
    {password mnemonic : String} {data : Bytes}
    (decrypted : decryptText crypto (crypto.scrypt (data.take 16) (Bcs.utf8 password))
      ((data.take 28).drop 16) (data.drop 28) = .ok mnemonic) : IsStored crypto password data := by
  obtain ⟨plaintext, hplain, decoded⟩ := bind_eq_ok.mp decrypted
  obtain ⟨width, made⟩ := refuses.of_decrypt lawful hplain
  exact isStored_of_slices width (Bcs.utf8_of_ofUtf8 _ decoded ▸ made)

/-- **Read back exactly, or refused.**  What the writer wrote under a password
reads as the mnemonic; a file the writer never writes under the password reads as
the empty text, and raises nothing. -/
theorem loadMnemonic_exact_or_refused (lawful : crypto.Lawful) (refuses : crypto.Refuses) :
    (∀ salt nonce password (fs : FileSystem) mnemonic filePath, fs.exists filePath = false →
      ∃ fs', storeMnemonic crypto salt nonce password fs mnemonic filePath = .ok fs' ∧
        loadMnemonic crypto password fs' filePath = .ok mnemonic) ∧
    ∀ password (fs : FileSystem) filePath content, fs filePath = some content →
      ¬ IsStored crypto password content → loadMnemonic crypto password fs filePath = .ok "" := by
  constructor
  · intro salt nonce password fs mnemonic filePath absent
    refine ⟨_, storeMnemonic_of_absent salt nonce password mnemonic absent, ?_⟩
    rw [loadMnemonic_of_open (fs.open_write filePath _)]
    obtain ⟨hsalt, hnonce, hciphertext⟩ :=
      slices_mnemonicFile crypto salt.2 nonce.2 password mnemonic
    rw [hsalt, hnonce, hciphertext, decryptText_encrypt lawful _ nonce.2]
  · intro password fs filePath content opened foreign
    have openedFile : fs.open filePath = .ok content := by
      rw [FileSystem.open, opened]
      rfl
    rw [loadMnemonic_of_open openedFile]
    cases decrypted : decryptText crypto (crypto.scrypt (content.take 16) (Bcs.utf8 password))
        ((content.take 28).drop 16) (content.drop 28) with
    | error e => rfl
    | ok mnemonic => exact absurd (isStored_of_decryptText lawful refuses decrypted) foreign

end Read

/-! ### A file under "pw" -/

/-- Scrypt of the password "pw" and a salt of zeros. -/
def samplePasswordKey : Bytes :=
  [191, 183, 66, 40, 146, 83, 89, 204, 3, 36, 35, 72, 4, 127, 212, 54, 199, 47, 198, 142, 203, 247,
    183, 225, 168, 185, 76, 20, 249, 111, 33, 161]

theorem length_samplePasswordKey : samplePasswordKey.length = 32 := rfl

/-- AES-GCM of "abandon" under that key. -/
def sampleMnemonicCiphertext : Bytes :=
  [223, 191, 123, 174, 54, 118, 80, 79, 214, 59, 29, 206, 224, 181, 214, 242, 190, 4, 214, 218, 57,
    214, 235]

/-- The primitives on the password "pw", a salt and nonce of zeros and the
mnemonic "abandon". -/
def sampleAead : Crypto where
  scrypt _ _ := ⟨samplePasswordKey, length_samplePasswordKey⟩
  hmacSha256 key _ := ⟨List.replicate 32 (key.headD 0), by simp⟩
  encrypt _ _ plaintext :=
    if plaintext = Bcs.utf8 "abandon" then sampleMnemonicCiphertext else 0 :: plaintext
  decrypt _ nonce ciphertext :=
    if nonce.length ≠ 12 then .error (.valueError "Nonce must be 12 bytes")
    else if ciphertext = sampleMnemonicCiphertext then .ok (Bcs.utf8 "abandon")
    else if ciphertext.head? = some 0 ∧ ciphertext.tail ≠ Bcs.utf8 "abandon" then .ok ciphertext.tail
    else .error (.exception "InvalidTag")

theorem sampleAead_lawful : sampleAead.Lawful where
  decrypt_encrypt key nonce plaintext width := by
    by_cases known : plaintext = Bcs.utf8 "abandon"
    · simp [sampleAead, known, width]
    · simp [sampleAead, known, width, sampleMnemonicCiphertext]

theorem sampleAead_refuses : sampleAead.Refuses where
  wrong_nonce key nonce ciphertext other := ⟨_, if_pos other⟩
  forged key nonce ciphertext foreign := by
    have unknown : ciphertext ≠ sampleMnemonicCiphertext := by
      have differs := foreign (Bcs.utf8 "abandon")
      simpa [sampleAead] using differs
    have unmade : ¬ (ciphertext.head? = some 0 ∧ ciphertext.tail ≠ Bcs.utf8 "abandon") := by
      rintro ⟨head, other⟩
      apply foreign ciphertext.tail
      simp only [sampleAead, if_neg other]
      exact List.eq_cons_of_mem_head? head
    by_cases width : nonce.length = 12
    · simp only [sampleAead, width, ne_eq, not_true_eq_false, if_false, unknown]
      exact ⟨_, if_neg unmade⟩
    · exact ⟨_, if_pos width⟩

theorem loadMnemonic_exact_or_refused_sample :
    (∀ salt nonce password (fs : FileSystem) mnemonic filePath, fs.exists filePath = false →
      ∃ fs', storeMnemonic sampleAead salt nonce password fs mnemonic filePath = .ok fs' ∧
        loadMnemonic sampleAead password fs' filePath = .ok mnemonic) ∧
    ∀ password (fs : FileSystem) filePath content, fs filePath = some content →
      ¬ IsStored sampleAead password content →
        loadMnemonic sampleAead password fs filePath = .ok "" :=
  loadMnemonic_exact_or_refused sampleAead_lawful sampleAead_refuses

end SupraFromScratch.Client
