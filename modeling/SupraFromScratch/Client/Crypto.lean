/-
# Client.Crypto — the primitives behind a mnemonic file, and the files

Key derivation, message authentication and authenticated encryption come from a
library and are a parameter.  Keys are 32 bytes, as both derivations make them.
What is assumed of the primitives is that they are functions, which their types
say, and that decryption undoes encryption (`Crypto.Lawful`).
-/
import SupraFromScratch.Theory.Bcs
import SupraFromScratch.Theory.Python

namespace SupraFromScratch.Client

set_option autoImplicit false

open SupraFromScratch.Theory

/-! ## Primitives -/

abbrev Key := {key : Bytes // key.length = 32}

/-- Scrypt of a salt and a password, HMAC-SHA256 of a key and a message, and
AES-GCM without associated data under a key and a nonce. -/
structure Crypto where
  scrypt : Bytes → Bytes → Key
  hmacSha256 : Bytes → Bytes → Key
  encrypt : Key → Bytes → Bytes → Bytes
  decrypt : Key → Bytes → Bytes → Except PyError Bytes

/-- Decryption undoes encryption under the same key and 12-byte nonce. -/
structure Crypto.Lawful (crypto : Crypto) : Prop where
  decrypt_encrypt : ∀ key nonce plaintext, nonce.length = 12 →
    crypto.decrypt key nonce (crypto.encrypt key nonce plaintext) = .ok plaintext

section Text

variable (crypto : Crypto)

/-- `aesgcm.decrypt(nonce, ciphertext, None).decode()`. -/
def decryptText (finalKey : Key) (nonce ciphertext : Bytes) : Except PyError String := do
  let plaintext ← crypto.decrypt finalKey nonce ciphertext
  Bcs.ofUtf8 (.valueError "invalid UTF-8") plaintext

variable {crypto}

theorem decryptText_encrypt (lawful : crypto.Lawful) (finalKey : Key) {nonce : Bytes}
    (width : nonce.length = 12) (mnemonic : String) :
    decryptText crypto finalKey nonce (crypto.encrypt finalKey nonce (Bcs.utf8 mnemonic)) =
      .ok mnemonic := by
  rw [decryptText, lawful.decrypt_encrypt finalKey nonce _ width]
  exact Bcs.ofUtf8_utf8 _ mnemonic

end Text

/-! ## Files -/

/-- The files of the machine, by path. -/
abbrev FileSystem := String → Option Bytes

def FileSystem.exists (fs : FileSystem) (path : String) : Bool := (fs path).isSome

def FileSystem.open (fs : FileSystem) (path : String) : Except PyError Bytes :=
  match fs path with
  | some content => return content
  | none => throw (.fileNotFoundError path)

/-- What a writer raises where there is a file already. -/
def alreadyExists (filePath : String) : PyError :=
  .fileExistsError
    ("Error: The file '" ++ filePath ++ "' already exists. Choose a different file path.")

/-- Opening for writing truncates what is there. -/
def FileSystem.write (fs : FileSystem) (path : String) (content : Bytes) : FileSystem :=
  Function.update fs path (some content)

@[simp] theorem FileSystem.write_same (fs : FileSystem) (path : String) (content : Bytes) :
    fs.write path content path = some content := by
  simp [write]

theorem FileSystem.open_write (fs : FileSystem) (path : String) (content : Bytes) :
    (fs.write path content).open path = .ok content := by
  simp [FileSystem.open, write]
  rfl

/-- `f.read(size)` on what is left of an open file. -/
def readSize (size : Nat) : StateM Bytes Bytes := fun rest => (rest.take size, rest.drop size)

/-- `f.read()`. -/
def readRest : StateM Bytes Bytes := fun rest => (rest, [])

theorem run_readSize_append {size : Nat} {front : Bytes} (width : front.length = size)
    (rest : Bytes) : readSize size (front ++ rest) = (front, rest) := by
  rw [readSize, List.take_left' width, List.drop_left' width]

end SupraFromScratch.Client
