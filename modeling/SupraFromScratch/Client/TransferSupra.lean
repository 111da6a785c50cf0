/-
# Client.TransferSupra — one transaction, written twice

`transfer_supra.py`.  `create_raw_tx` builds a transaction; the client signs
`keyed()`, the prehash and then the binary fields, and posts the dictionary
`payload_to_dict` makes of the same object.  The node sees both, so both must
name the same transaction.

* `created_toDict_isJson_iff` — the dictionary exists and is JSON exactly for the plain
  payloads and a chain id without a float: a script or a type argument never
  leaves the client, and the chain id is whatever the node calls it.
* `toDict_eq_iff_keyed_eq` — on the plain payloads the two encoders separate
  exactly the same transactions, and both separate all of them.
-/
import SupraFromScratch.Client.PayloadToDict
import SupraFromScratch.Client.CheckBalance

namespace SupraFromScratch.Client

set_option autoImplicit false

open SupraFromScratch.Theory

/-! ## Building a transaction -/

section Create

variable {T A : Type} (sha3_256 : Bytes → Bytes)

/-- `supra_prehash` of an object of class `cls`. -/
def supraPrehash (cls : PyClass) : Bytes :=
  let salt := if cls = .multiAgentRawTransaction then "SUPRA::RawTransactionWithData"
    else "SUPRA::RawTransaction"
  sha3_256 (Bcs.utf8 salt)

/-- `create_raw_tx` at the time `now`.  A chain id that is missing or 0 is asked
of the node, and taken as the node gives it. -/
def createRawTx (net : Network) (now : Int) (senderAddr : AccountAddress)
    (senderSequenceNumber : Int) (payloadContent : PayloadValue T A) (maxGas : Int := 500000)
    (gasUnitPrice : Int := 100) (txExpiryTimespan : Int := 300) (chainId : Option Int := none)
    (baseUrl : Option String := none) :
    Except PyError (RawTransaction (TransactionPayload T A)) := do
  let txExpiryTime := now + txExpiryTimespan
  let chainId ← match chainId.filter (· ≠ 0) with
    | some id => pure (.int id)
    | none => getJson net (baseUrl.getD "None" ++ "/rpc/v1/transactions/chain_id")
  return {
    sender := senderAddr
    sequenceNumber := senderSequenceNumber
    payload := TransactionPayload.ofValue payloadContent
    maxGasAmount := maxGas
    gasUnitPrice := gasUnitPrice
    expirationTimestampsSecs := txExpiryTime
    chainId := chainId
    prehash := supraPrehash sha3_256 .rawTransaction
  }

/-- The transactions `create_raw_tx` returns, whatever it is called with and
whatever the clock and the node say. -/
def IsCreated (t : RawTransaction (TransactionPayload T A)) : Prop :=
  ∃ net now senderAddr senderSequenceNumber payloadContent maxGas gasUnitPrice txExpiryTimespan
    chainId baseUrl,
    createRawTx sha3_256 net now senderAddr senderSequenceNumber payloadContent maxGas gasUnitPrice
      txExpiryTimespan chainId baseUrl = .ok t

end Create

section Created

variable {T A : Type} {sha3_256 : Bytes → Bytes} {t : RawTransaction (TransactionPayload T A)}

/-- What every created transaction has, besides the arguments it was given. -/
theorem IsCreated.spec (created : IsCreated sha3_256 t) :
    t.prehash = supraPrehash sha3_256 .rawTransaction ∧ t.chainId.isDecoded = true := by
  obtain ⟨net, now, sender, seq, payload, maxGas, price, timespan, chainId, url, h⟩ := created
  unfold createRawTx at h
  cases hid : chainId.filter (· ≠ 0) with
  | some id =>
    rw [hid] at h
    cases h
    exact ⟨rfl, rfl⟩
  | none =>
    rw [hid] at h
    obtain ⟨v, asked, h⟩ := bind_eq_ok.mp h
    cases h
    exact ⟨rfl, getJson_isDecoded asked⟩

/-- The dictionary of a created transaction is built around its payload's. -/
theorem IsCreated.payloadToDict_eq (created : IsCreated sha3_256 t) (sdk : Sdk T A) :
    payloadToDict sdk.addressStr (t.toPy sdk) = (do
      let d ← t.payload.value.toDict sdk
      return t.toDict sdk d) := by
  refine payloadToDict_rawTransaction sdk t ?_
  intro cls attrs isObject
  have json := created.spec.2
  rw [isObject] at json
  cases json

/-- **What can be posted.**  The dictionary of a created transaction exists and
is JSON all the way down, without a float, exactly when its payload is plain and
there is no float in its chain id. -/
theorem created_toDict_isJson_iff (sdk : Sdk T A) (created : IsCreated sha3_256 t) :
    (∃ d, payloadToDict sdk.addressStr (t.toPy sdk) = .ok d ∧ d.isJson = true) ↔
      t.payload.value.isPlain = true ∧ t.chainId.isJson = true := by
  rw [created.payloadToDict_eq sdk, ← PayloadValue.toDict_isJsonWith_iff (fun _ => false) sdk]
  constructor
  · rintro ⟨_, converted, json⟩
    obtain ⟨d, inner, built⟩ := bind_eq_ok.mp converted
    cases built
    rw [PyVal.isJson, RawTransaction.toDict_isJsonWith, Bool.and_eq_true] at json
    exact ⟨⟨d, inner, json.1⟩, json.2⟩
  · rintro ⟨⟨d, inner, json⟩, chainId⟩
    refine ⟨t.toDict sdk d, bind_eq_ok.mpr ⟨d, inner, rfl⟩, ?_⟩
    rw [PyVal.isJson, RawTransaction.toDict_isJsonWith, Bool.and_eq_true]
    exact ⟨json, chainId⟩

end Created

/-! ### Payloads that are not plain -/

/-- A node that cannot be reached. -/
def offline : Network where
  get _ := .error (.exception "Connection refused")

/-- SHA3-256 on the salt of a plain transaction. -/
def sampleSaltSha3 (_salt : Bytes) : Bytes :=
  [136, 209, 110, 209, 171, 166, 215, 125, 82, 26, 175, 173, 166, 214, 233, 45,
    122, 23, 69, 39, 173, 180, 87, 173, 250, 102, 169, 197, 160, 241, 254, 55]

/-- A transaction of a small sender on chain 6, at the epoch. -/
def sampleRawTx (payload : PayloadValue TypeTag ScriptArgument) :
    RawTransaction (TransactionPayload TypeTag ScriptArgument) where
  sender := smallAddress 9
  sequenceNumber := 0
  payload := TransactionPayload.ofValue payload
  maxGasAmount := 500000
  gasUnitPrice := 100
  expirationTimestampsSecs := 300
  chainId := .int 6
  prehash := supraPrehash sampleSaltSha3 .rawTransaction

theorem sampleRawTx_isCreated (payload : PayloadValue TypeTag ScriptArgument) :
    IsCreated sampleSaltSha3 (sampleRawTx payload) :=
  ⟨offline, 0, smallAddress 9, 0, payload, 500000, 100, 300, some 6, none, rfl⟩

def sampleScript : Script TypeTag ScriptArgument where
  code := [0xa1, 0x1c, 0xeb, 0x0b]
  tyArgs := []
  args := []

theorem created_toDict_isJson_iff_script :
    let t := sampleRawTx (.script sampleScript)
    (∃ d, payloadToDict bcsSdk.addressStr (t.toPy bcsSdk) = .ok d ∧ d.isJson = true) ↔
      t.payload.value.isPlain = true ∧ t.chainId.isJson = true :=
  created_toDict_isJson_iff bcsSdk (sampleRawTx_isCreated _)

/-- A script's code stays in its dictionary as raw bytes. -/
theorem script_not_json : ¬ ∀ t : RawTransaction (TransactionPayload TypeTag ScriptArgument),
    IsCreated sampleSaltSha3 t →
      ∃ d, payloadToDict bcsSdk.addressStr (t.toPy bcsSdk) = .ok d ∧ d.isJson = true := by
  intro always
  obtain ⟨d, converted, json⟩ := always _ (sampleRawTx_isCreated (.script sampleScript))
  rw [(sampleRawTx_isCreated _).payloadToDict_eq bcsSdk] at converted
  cases converted
  revert json
  decide

/-! ## The bytes that are signed -/

section Keyed

variable {T A : Type} {sdk : Sdk T A} {typeTag : T → Bytes}

/-- `keyed()`: the prehash, then the transaction around its serialized payload. -/
def keyed (sdk : Sdk T A) (t : RawTransaction (TransactionPayload T A)) : Bytes :=
  sdk.keyed (t.withPayload (t.payload.serialize sdk))

/-- An entry function without type arguments comes off the front. -/
theorem EntryFunction.write_append_inj (layout : sdk.Layout typeTag) {e e' : EntryFunction T}
    (plain : e.tyArgs = []) (plain' : e'.tyArgs = []) {s s' : Bytes} :
    sdk.entryFunction.write e ++ s = sdk.entryFunction.write e' ++ s' ↔ e = e' ∧ s = s' := by
  obtain ⟨⟨address, name⟩, function, tyArgs, args⟩ := e
  obtain ⟨⟨address', name'⟩, function', tyArgs', args'⟩ := e'
  cases plain
  cases plain'
  have argsFree := Bcs.writeSequence_prefixFree Bcs.writeBytes_prefixFree
  simp only [layout.entryFunction, List.append_assoc, accountAddress_bytes_prefixFree.append_inj,
    Bcs.writeText_prefixFree.append_inj, List.append_cancel_left_eq, argsFree.append_inj,
    EntryFunction.mk.injEq, ModuleId.mk.injEq, true_and, and_assoc]

theorem Multisig.serialize_append_inj (layout : sdk.Layout typeTag) {m m' : Multisig T}
    (plain : (PayloadValue.multisig m : PayloadValue T A).isPlain = true)
    (plain' : (PayloadValue.multisig m' : PayloadValue T A).isPlain = true) {s s' : Bytes} :
    m.serialize sdk ++ s = m'.serialize sdk ++ s' ↔ m = m' ∧ s = s' := by
  obtain ⟨address, payload⟩ := m
  obtain ⟨address', payload'⟩ := m'
  unfold serialize
  simp only [layout.accountAddress, layout.bool, List.append_assoc,
    accountAddress_bytes_prefixFree.append_inj, Multisig.mk.injEq]
  cases payload with
  | none => cases payload' <;> simp
  | some p =>
    obtain ⟨e⟩ := p
    cases payload' with
    | none => simp
    | some p' =>
      obtain ⟨e'⟩ := p'
      have inner : sdk.entryFunction.write e ++ s = sdk.entryFunction.write e' ++ s' ↔
          e = e' ∧ s = s' :=
        EntryFunction.write_append_inj layout (PayloadValue.isPlain_multisig.mp plain)
          (PayloadValue.isPlain_multisig.mp plain')
      simp [MultiSigTransactionPayload.serialize, inner, and_assoc]

/-- Plain payloads come off the front of what is signed. -/
theorem TransactionPayload.serialize_append_inj (layout : sdk.Layout typeTag)
    {p p' : TransactionPayload T A} (plain : p.value.isPlain = true)
    (plain' : p'.value.isPlain = true) {s s' : Bytes} :
    p.serialize sdk ++ s = p'.serialize sdk ++ s' ↔ p = p' ∧ s = s' := by
  refine ⟨fun same => ?_, by rintro ⟨rfl, rfl⟩; rfl⟩
  rw [← p.ofValue_value, ← p'.ofValue_value] at same ⊢
  unfold serialize at same
  simp only [List.append_assoc, layout.uleb128] at same
  obtain ⟨variants, same⟩ := Bcs.uleb128_prefixFree.append_inj.mp same
  cases hv : p.value with
  | script s =>
    rw [hv] at plain
    cases plain
  | entryFunction e =>
    cases hv' : p'.value with
    | script s =>
      rw [hv'] at plain'
      cases plain'
    | multisig m' =>
      rw [hv, hv'] at variants
      cases variants
    | entryFunction e' =>
      rw [hv] at plain same
      rw [hv'] at plain' same
      obtain ⟨rfl, rfl⟩ := (EntryFunction.write_append_inj layout
        (PayloadValue.isPlain_entryFunction.mp plain)
        (PayloadValue.isPlain_entryFunction.mp plain')).mp same
      exact ⟨rfl, rfl⟩
  | multisig m =>
    cases hv' : p'.value with
    | script s =>
      rw [hv'] at plain'
      cases plain'
    | entryFunction e' =>
      rw [hv, hv'] at variants
      cases variants
    | multisig m' =>
      rw [hv] at plain same
      rw [hv'] at plain' same
      obtain ⟨rfl, rfl⟩ := (Multisig.serialize_append_inj layout plain plain').mp same
      exact ⟨rfl, rfl⟩

/-- A 64-bit field comes off the front. -/
theorem u64_append_inj {n m : Int} (hn : 0 ≤ n ∧ n < 2 ^ 64) (hm : 0 ≤ m ∧ m < 2 ^ 64)
    {s s' : Bytes} : Bcs.le 8 n.toNat ++ s = Bcs.le 8 m.toNat ++ s' ↔ n = m ∧ s = s' := by
  rw [Bcs.le_append_inj (by omega) (by omega)]
  have cast : n.toNat = m.toNat ↔ n = m := by omega
  rw [cast]

/-- Two transactions with one prehash sign the same bytes only if they agree. -/
theorem keyed_inj (layout : sdk.Layout typeTag) {t t' : RawTransaction (TransactionPayload T A)}
    (range : t.InRange) (range' : t'.InRange) (plain : t.payload.value.isPlain = true)
    (plain' : t'.payload.value.isPlain = true) (salted : t.prehash = t'.prehash) :
    keyed sdk t = keyed sdk t' ↔ t = t' := by
  refine ⟨fun same => ?_, by rintro rfl; rfl⟩
  obtain ⟨id, hid, chainId⟩ := range.chainId
  obtain ⟨id', hid', chainId'⟩ := range'.chainId
  have bytes := layout.keyed _ id (range.withPayload (t.payload.serialize sdk)) chainId
  have bytes' := layout.keyed _ id' (range'.withPayload (t'.payload.serialize sdk)) chainId'
  unfold keyed at same
  rw [bytes, bytes'] at same
  simp only [RawTransaction.withPayload, salted, List.append_assoc, List.append_cancel_left_eq,
    accountAddress_bytes_prefixFree.append_inj,
    u64_append_inj range.sequenceNumber range'.sequenceNumber,
    TransactionPayload.serialize_append_inj layout plain plain',
    u64_append_inj range.maxGasAmount range'.maxGasAmount,
    u64_append_inj range.gasUnitPrice range'.gasUnitPrice,
    u64_append_inj range.expirationTimestampsSecs range'.expirationTimestampsSecs,
    Bcs.le_inj (w := 1) hid hid'] at same
  obtain ⟨sender, seq, payload, gas, price, expiry, sameId⟩ := same
  cases t
  cases t'
  simp_all

end Keyed

/-! ## The two encoders agree -/

section Agree

variable {T A : Type} {sdk : Sdk T A} {typeTag : T → Bytes} {sha3_256 : Bytes → Bytes}
  {t t' : RawTransaction (TransactionPayload T A)}

/-- The dictionaries of created transactions separate them. -/
theorem eq_toDict_iff (prints : sdk.PrintsInjectively) (created : IsCreated sha3_256 t)
    (created' : IsCreated sha3_256 t') (range : t.InRange) (range' : t'.InRange)
    (plain : t.payload.value.isPlain = true) (plain' : t'.payload.value.isPlain = true)
    {d d' : Value} (converted : t.payload.value.toDict sdk = .ok d)
    (converted' : t'.payload.value.toDict sdk = .ok d') :
    PyVal.eq (t.toDict sdk d) (t'.toDict sdk d') = true ↔ t = t' := by
  obtain ⟨id, hid, chainId⟩ := range.chainId
  obtain ⟨id', hid', chainId'⟩ := range'.chainId
  have sameId : PyVal.eq t.chainId t'.chainId = true ↔ t.chainId = t'.chainId := by
    rw [chainId, chainId']
    simp [PyVal.eq]
  have samePayload : PyVal.eq d d' = true ↔ t.payload = t'.payload := by
    rw [PayloadValue.eq_toDict prints plain plain' converted converted']
    exact ⟨TransactionPayload.ext, fun same => by rw [same]⟩
  have salted : t.prehash = t'.prehash := created.spec.1.trans created'.spec.1.symm
  rw [RawTransaction.eq_toDict prints, sameId, samePayload]
  cases t
  cases t'
  simp only [RawTransaction.mk.injEq] at salted ⊢
  simp [salted]

/-- **The body posted and the bytes signed name the same transaction.**  Over
created transactions with plain payloads, the dictionaries agree exactly when the
signed bytes do, and either one only when every field does. -/
theorem toDict_eq_iff_keyed_eq (layout : sdk.Layout typeTag) (prints : sdk.PrintsInjectively)
    (created : IsCreated sha3_256 t) (created' : IsCreated sha3_256 t') (range : t.InRange)
    (range' : t'.InRange) (plain : t.payload.value.isPlain = true)
    (plain' : t'.payload.value.isPlain = true) :
    ∃ d d', payloadToDict sdk.addressStr (t.toPy sdk) = .ok d ∧
      payloadToDict sdk.addressStr (t'.toPy sdk) = .ok d' ∧
      (PyVal.eq d d' = true ↔ keyed sdk t = keyed sdk t') ∧
      (PyVal.eq d d' = true → t = t') ∧ (keyed sdk t = keyed sdk t' → t = t') := by
  obtain ⟨p, converted, -⟩ := (PayloadValue.toDict_isJsonWith_iff (fun _ => true) sdk _).mpr plain
  obtain ⟨p', converted', -⟩ := (PayloadValue.toDict_isJsonWith_iff (fun _ => true) sdk _).mpr plain'
  have dicts := eq_toDict_iff prints created created' range range' plain plain' converted converted'
  have bytes := keyed_inj layout range range' plain plain'
    (created.spec.1.trans created'.spec.1.symm)
  refine ⟨t.toDict sdk p, t'.toDict sdk p', ?_, ?_, dicts.trans bytes.symm, dicts.mp, bytes.mp⟩
  · rw [created.payloadToDict_eq, converted]
    rfl
  · rw [created'.payloadToDict_eq, converted']
    rfl

end Agree

theorem sampleRawTx_inRange (payload : PayloadValue TypeTag ScriptArgument) :
    (sampleRawTx payload).InRange where
  sequenceNumber := by simp [sampleRawTx]
  maxGasAmount := by simp [sampleRawTx]
  gasUnitPrice := by simp [sampleRawTx]
  expirationTimestampsSecs := by simp [sampleRawTx]
  chainId := ⟨6, by decide, rfl⟩

/-- Two transfers that differ in one byte of their amount. -/
theorem toDict_eq_iff_keyed_eq_amount :
    let t := sampleRawTx (.entryFunction (sampleTransfer 20))
    let t' := sampleRawTx (.entryFunction (sampleTransfer 21))
    ∃ d d', payloadToDict bcsSdk.addressStr (t.toPy bcsSdk) = .ok d ∧
      payloadToDict bcsSdk.addressStr (t'.toPy bcsSdk) = .ok d' ∧
      (PyVal.eq d d' = true ↔ keyed bcsSdk t = keyed bcsSdk t') ∧
      (PyVal.eq d d' = true → t = t') ∧ (keyed bcsSdk t = keyed bcsSdk t' → t = t') :=
  toDict_eq_iff_keyed_eq bcsSdk_layout bcsSdk_printsInjectively (sampleRawTx_isCreated _)
    (sampleRawTx_isCreated _) (sampleRawTx_inRange _) (sampleRawTx_inRange _) rfl rfl

end SupraFromScratch.Client
