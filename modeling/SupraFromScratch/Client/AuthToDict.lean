/-
# Client.AuthToDict — the authenticator beside the transaction

The rest of `transfer_supra.py` that makes a body: `auth_to_dict`, the second of
its two reflective converters, and `create_tx_dict`, which puts its output beside
the dictionary of the transaction.

Keys, signatures and `keyed()` belong to the SDK and are a parameter (`Wallet`).
`keyed()` may raise, as it does on a chain id that is not a byte; what is assumed
of the rest is that a signature verifies (`Wallet.Documented`).

`signedTxDict_eq_ok_iff` is what a body is, and `jsonDumps_txDict` says that it is
the transaction alone that decides whether a body can be sent.
-/
import SupraFromScratch.Client.Session
import SupraFromScratch.Client.MultisigAuth
import SupraFromScratch.Client.BcsSdk
import SupraFromScratch.Client.PayloadToDict

namespace SupraFromScratch.Client

set_option autoImplicit false

open SupraFromScratch.Theory

/-! ## Keys and signatures -/

abbrev PublicKey := {key : Bytes // key.length = 32}

/-- The SDK's keys and signatures, `str` of both, and `keyed()` of a transaction
whose payload serializes to the given bytes. -/
structure Wallet (T A : Type) where
  sdk : Sdk T A
  publicKey : Key → PublicKey
  sign : Key → Bytes → Signature
  verify : PublicKey → Bytes → Signature → Bool
  publicKeyStr : PublicKey → String
  signatureStr : Signature → String
  keyed : RawTransaction Bytes → Except PyError Bytes

/-- `keyed()` returns only for numbers that fit their fields; a `bool` encodes as
the number it is. -/
structure RawTransaction.Encodable {P : Type} (t : RawTransaction P) : Prop where
  sequenceNumber : 0 ≤ t.sequenceNumber ∧ t.sequenceNumber < 2 ^ 64
  maxGasAmount : 0 ≤ t.maxGasAmount ∧ t.maxGasAmount < 2 ^ 64
  gasUnitPrice : 0 ≤ t.gasUnitPrice ∧ t.gasUnitPrice < 2 ^ 64
  expirationTimestampsSecs : 0 ≤ t.expirationTimestampsSecs ∧ t.expirationTimestampsSecs < 2 ^ 64
  chainId : (∃ id : Nat, id < 2 ^ 8 ∧ t.chainId = .int id) ∨ ∃ b, t.chainId = .bool b

structure Wallet.Documented {T A : Type} (wallet : Wallet T A) : Prop where
  verify_sign : ∀ key msg, wallet.verify (wallet.publicKey key) msg (wallet.sign key msg) = true
  publicKeyStr_injective : Function.Injective wallet.publicKeyStr
  signatureStr_injective : Function.Injective wallet.signatureStr
  keyed_inRange : ∀ t, t.InRange → wallet.keyed t = .ok (wallet.sdk.keyed t)
  keyed_encodable : ∀ t bytes, wallet.keyed t = .ok bytes → t.Encodable

/-- An account: its address and its private key. -/
structure Account where
  accountAddress : AccountAddress
  privateKey : Key

/-! ## The converter -/

/-- A value `auth_to_dict` comes across: an instance of `PublicKey` or
`Signature`, through its `str`, with its attributes; an authenticator; another
object; or a value without attributes. -/
inductive AuthVal where
  | publicKey (text : String) (attrs : List (String × AuthVal))
  | signature (text : String) (attrs : List (String × AuthVal))
  | authenticator (variant : Nat) (authenticator : AuthVal)
  | object (attrs : List (String × AuthVal))
  | plain (v : Value)

namespace AuthVal

def ED25519 : Nat := 0

mutual

/-- `auth_to_dict`. -/
def toDict : AuthVal → Except PyError Value
  | authenticator variant inner =>
      if variant = ED25519 then do
        let d ← toDict inner
        return .dict [("Ed25519", d)]
      else throw (.runtimeError "NotImplementedError")
  | publicKey _ attrs => do return .dict (← itemsToDict attrs [])
  | signature _ attrs => do return .dict (← itemsToDict attrs [])
  | object attrs => do return .dict (← itemsToDict attrs [])
  | plain _ => throw (.attributeError "__dict__")
termination_by structural v => v

/-- The loop over `obj.__dict__.items()`, with the dictionary built so far. -/
def itemsToDict : List (String × AuthVal) → Attrs → Except PyError Attrs
  | [], result => return result
  | (k, v) :: rest, result =>
      match v with
      | publicKey text _ => itemsToDict rest (PyVal.setItem k (.str text) result)
      | signature text _ => itemsToDict rest (PyVal.setItem k (.str text) result)
      | plain v => itemsToDict rest (PyVal.setItem k v result)
      | authenticator variant inner => do
        let d ← toDict (authenticator variant inner)
        itemsToDict rest (PyVal.setItem k d result)
      | object attrs => do
        let d ← toDict (object attrs)
        itemsToDict rest (PyVal.setItem k d result)
termination_by structural attrs => attrs

end

end AuthVal

section Bodies

variable {T A : Type} (wallet : Wallet T A)

/-- `Authenticator(Ed25519Authenticator(pub_key, sig))`, with what the keys hold. -/
def ed25519Authenticator (pubKey : PublicKey) (sig : Signature) : AuthVal :=
  .authenticator AuthVal.ED25519 (.object
    [("public_key", .publicKey (wallet.publicKeyStr pubKey) [("key", .plain (.bytes pubKey.1))]),
      ("signature", .signature (wallet.signatureStr sig) [("signature", .plain (.bytes sig.1))])])

/-- `create_tx_dict`. -/
def createTxDict (pubKey : PublicKey) (sig : Signature)
    (rawTxn : RawTransaction (TransactionPayload T A)) : Except PyError Value := do
  let auth := ed25519Authenticator wallet pubKey sig
  let raw ← payloadToDict wallet.sdk.addressStr (rawTxn.toPy wallet.sdk)
  let authenticator ← auth.toDict
  return .dict [("Move", .dict [("raw_txn", raw), ("authenticator", authenticator)])]

/-- `raw_txn.keyed()`. -/
def Wallet.keyedOf (rawTxn : RawTransaction (TransactionPayload T A)) : Except PyError Bytes :=
  wallet.keyed (rawTxn.withPayload (rawTxn.payload.serialize wallet.sdk))

/-- `create_tx_dict` around a signature of `keyed()`, which both callers make. -/
def signedTxDict (pubKey : PublicKey) (privateKey : Key)
    (rawTxn : RawTransaction (TransactionPayload T A)) : Except PyError Value := do
  let bytes ← wallet.keyedOf rawTxn
  createTxDict wallet pubKey (wallet.sign privateKey bytes) rawTxn

/-- `create_send_tx_dict`. -/
def createSendTxDict (senderAccount : Account)
    (rawTxn : RawTransaction (TransactionPayload T A)) : Except PyError Value :=
  signedTxDict wallet (wallet.publicKey senderAccount.privateKey) senderAccount.privateKey rawTxn

/-- `create_simulate_tx_dict`: a key of its own signs under the sender's. -/
def Session.createSimulateTxDict (senderPubKey : PublicKey)
    (rawTxn : RawTransaction (TransactionPayload T A)) : Session Value := do
  let privateKey ← randomKey
  Prog.ofExcept (signedTxDict wallet senderPubKey privateKey rawTxn)

/-! ## What a body is -/

/-- The body around the dictionary of a transaction. -/
def txDict (raw : Value) (pubKey : PublicKey) (sig : Signature) : Value :=
  .dict [("Move", .dict [("raw_txn", raw),
    ("authenticator", .dict [("Ed25519", .dict [("public_key", .str (wallet.publicKeyStr pubKey)),
      ("signature", .str (wallet.signatureStr sig))])])])]

variable {wallet}

theorem toDict_ed25519Authenticator (pubKey : PublicKey) (sig : Signature) :
    (ed25519Authenticator wallet pubKey sig).toDict =
      .ok (.dict [("Ed25519", .dict [("public_key", .str (wallet.publicKeyStr pubKey)),
        ("signature", .str (wallet.signatureStr sig))])]) := rfl

theorem createTxDict_eq (pubKey : PublicKey) (sig : Signature)
    (rawTxn : RawTransaction (TransactionPayload T A)) :
    createTxDict wallet pubKey sig rawTxn =
      (payloadToDict wallet.sdk.addressStr (rawTxn.toPy wallet.sdk)).map
        fun raw => txDict wallet raw pubKey sig := by
  rw [createTxDict]
  simp only [toDict_ed25519Authenticator]
  cases payloadToDict wallet.sdk.addressStr (rawTxn.toPy wallet.sdk) <;> rfl

/-- **What a body is**: the transaction's dictionary, and a signature of its
`keyed()` under the private key. -/
theorem signedTxDict_eq_ok_iff {pubKey : PublicKey} {privateKey : Key}
    {rawTxn : RawTransaction (TransactionPayload T A)} {body : Value} :
    signedTxDict wallet pubKey privateKey rawTxn = .ok body ↔
      ∃ bytes raw, wallet.keyedOf rawTxn = .ok bytes ∧
        payloadToDict wallet.sdk.addressStr (rawTxn.toPy wallet.sdk) = .ok raw ∧
          body = txDict wallet raw pubKey (wallet.sign privateKey bytes) := by
  unfold signedTxDict
  rw [bind_eq_ok]
  refine exists_congr fun bytes => ?_
  rw [createTxDict_eq]
  cases payloadToDict wallet.sdk.addressStr (rawTxn.toPy wallet.sdk) with
  | error e => simp [Except.map]
  | ok raw => simp [Except.map, eq_comm]

/-- Whether a body can be sent is up to the transaction. -/
theorem jsonDumps_txDict (raw : Value) (pubKey : PublicKey) (sig : Signature) :
    jsonDumps (txDict wallet raw pubKey sig) = jsonDumps raw := by
  simp only [txDict, jsonDumps, jsonDumpsItems]
  cases jsonDumps raw <;> rfl

end Bodies

/-! ### The keys of one sender -/

namespace SampleWallet

def senderKey : Key := ⟨List.replicate 32 9, by simp⟩

/-- The key drawn for a simulation. -/
def drawnKey : Key := ⟨List.replicate 32 10, by simp⟩

/-- The sender's public key. -/
def senderPublicKey : PublicKey :=
  ⟨[253, 23, 36, 56, 90, 160, 199, 91, 100, 251, 120, 205, 96, 47, 161, 217, 145, 253, 235, 247,
    107, 19, 197, 142, 215, 2, 234, 200, 53, 233, 246, 24], rfl⟩

/-- The SHA3-256 of the public key and a zero. -/
def senderAddress : AccountAddress :=
  ⟨[152, 218, 235, 232, 120, 144, 126, 57, 203, 19, 80, 226, 136, 227, 176, 73, 243, 90, 230, 132,
    41, 191, 48, 214, 116, 12, 117, 209, 70, 55, 183, 92], rfl⟩

/-- The signature of a transfer of 20 quants, the sender's second transaction on
chain 6, under the sender's key. -/
def senderSignature : Signature :=
  ⟨[50, 56, 15, 161, 108, 125, 230, 102, 79, 94, 53, 19, 59, 10, 51, 154, 40, 59, 40, 21, 60, 82,
    94, 132, 182, 55, 198, 254, 35, 212, 132, 0, 65, 67, 126, 60, 155, 80, 211, 51, 222, 229, 142,
    200, 195, 181, 19, 109, 220, 241, 206, 190, 196, 86, 228, 62, 200, 117, 158, 158, 32, 70, 123,
    11], rfl⟩

/-- The signature of the same transfer under the key drawn. -/
def drawnSignature : Signature :=
  ⟨[181, 142, 240, 106, 104, 170, 208, 122, 30, 25, 254, 124, 130, 56, 44, 89, 168, 152, 35, 94,
    193, 152, 23, 141, 143, 218, 165, 130, 43, 194, 92, 244, 145, 41, 168, 44, 137, 63, 95, 223,
    234, 214, 89, 240, 69, 246, 135, 75, 30, 234, 173, 252, 228, 60, 125, 184, 67, 210, 142, 156,
    25, 26, 174, 3], rfl⟩

/-- The sender's keys are known, and every other key is its own public key. -/
def publicKey : Equiv.Perm Key := Equiv.swap senderKey senderPublicKey

def sign (key : Key) (_msg : Bytes) : Signature :=
  if key = senderKey then senderSignature else drawnSignature

def fits64 (n : Int) : Bool := decide (0 ≤ n ∧ n < 2 ^ 64)

def fitsChainId : Value → Bool
  | .int id => decide (0 ≤ id ∧ id < 2 ^ 8)
  | .bool _ => true
  | _ => false

def fits (t : RawTransaction Bytes) : Bool :=
  fits64 t.sequenceNumber && fits64 t.maxGasAmount && fits64 t.gasUnitPrice &&
    fits64 t.expirationTimestampsSecs && fitsChainId t.chainId

theorem fitsChainId_iff {v : Value} :
    fitsChainId v = true ↔ (∃ id : Nat, id < 2 ^ 8 ∧ v = .int id) ∨ ∃ b, v = .bool b := by
  cases v with
  | int id =>
    simp only [fitsChainId, decide_eq_true_eq, PyVal.int.injEq, reduceCtorEq, exists_false, or_false]
    refine ⟨fun fits => ⟨id.toNat, by omega, by omega⟩, ?_⟩
    rintro ⟨n, small, rfl⟩
    omega
  | _ => simp [fitsChainId]

theorem fits_iff {t : RawTransaction Bytes} : fits t = true ↔ t.Encodable := by
  simp only [fits, fits64, Bool.and_eq_true, decide_eq_true_eq, fitsChainId_iff]
  refine ⟨fun ⟨⟨⟨⟨seq, gas⟩, price⟩, expiry⟩, chain⟩ => ⟨seq, gas, price, expiry, chain⟩, ?_⟩
  rintro ⟨seq, gas, price, expiry, chain⟩
  exact ⟨⟨⟨⟨seq, gas⟩, price⟩, expiry⟩, chain⟩

/-- `str` of a key or a signature. -/
def hexText (bytes : Bytes) : String := String.ofList ('0' :: 'x' :: hex bytes)

theorem hexText_injective {bytes bytes' : Bytes} (same : hexText bytes = hexText bytes') :
    bytes = bytes' := by
  simp only [hexText, String.ofList_inj, List.cons.injEq, true_and] at same
  exact hex_injective same

end SampleWallet

open SampleWallet in
/-- The keys around `bcsSdk`, on one transaction of one sender. -/
def sampleWallet : Wallet TypeTag ScriptArgument where
  sdk := bcsSdk
  publicKey := publicKey
  sign := sign
  verify pubKey msg sig := sig = sign (publicKey.symm pubKey) msg
  publicKeyStr pubKey := hexText pubKey.1
  signatureStr sig := hexText sig.1
  keyed t := if fits t then .ok (bcsSdk.keyed t) else .error (.exception "Cannot encode")

theorem sampleWallet_documented : sampleWallet.Documented where
  verify_sign key msg := by simp [sampleWallet]
  publicKeyStr_injective _ _ same := Subtype.ext (SampleWallet.hexText_injective same)
  signatureStr_injective _ _ same := Subtype.ext (SampleWallet.hexText_injective same)
  keyed_inRange t range := by
    have encodable : t.Encodable :=
      ⟨range.1, range.2, range.3, range.4, Or.inl range.5⟩
    simp [sampleWallet, SampleWallet.fits_iff.mpr encodable]
  keyed_encodable t bytes keyed := by
    by_cases fits : SampleWallet.fits t = true
    · exact SampleWallet.fits_iff.mp fits
    · simp [sampleWallet, fits] at keyed

end SupraFromScratch.Client
