/-
# Client.TransactionPayload — the payload format, its two encoders and its decoder

`transaction_payload.py`.  A payload is a variant tag and a script, an entry
function or a multisig execution; a multisig execution is an address, a presence
flag and, behind a tag of its own, the entry function the owners approved.

`deserialize_serialize` says the decoder undoes the encoder in the middle of any
longer input.  The converse is where the two inner and outer tags part ways: the
outer tag is matched against the three values written and anything else raises,
while the inner one is read and thrown away.  `deserialize_canonical_iff` says
the decoder accepts only encodings exactly on the inputs whose inner tag is the
one the encoder writes.
-/
import SupraFromScratch.Client.BcsSdk

namespace SupraFromScratch.Client

set_option autoImplicit false

open SupraFromScratch.Theory

/-! ## Values -/

/-- The payload of an on-chain multisig transaction.  For now only entry
functions are supported. -/
structure MultiSigTransactionPayload (T : Type) where
  transactionPayload : EntryFunction T
  deriving DecidableEq

structure Multisig (T : Type) where
  multisigAddress : AccountAddress
  transactionPayload : Option (MultiSigTransactionPayload T)
  deriving DecidableEq

/-- What a payload object may hold. -/
inductive PayloadValue (T A : Type) where
  | script (s : Script T A)
  | entryFunction (e : EntryFunction T)
  | multisig (m : Multisig T)
  deriving DecidableEq

def PayloadValue.cls {T A : Type} : PayloadValue T A → PyClass
  | .script _ => .script
  | .entryFunction _ => .entryFunction
  | .multisig _ => .multisig

namespace TransactionPayload

def SCRIPT : Nat := 0
def SCRIPT_FUNCTION : Nat := 2
def MULTISIG : Nat := 3

/-- The dispatch of `__init__` on the class of its argument. -/
def variantOf : PyClass → Except PyError Nat
  | .script => .ok SCRIPT
  | .entryFunction => .ok SCRIPT_FUNCTION
  | .multisig => .ok MULTISIG
  | _ => .error (.exception "Invalid type")

end TransactionPayload

/-- A payload's variant is the one `__init__` found for its value. -/
structure TransactionPayload (T A : Type) where
  variant : Nat
  value : PayloadValue T A
  variant_eq : TransactionPayload.variantOf value.cls = .ok variant

/-! ## Encoders and decoders -/

section Format

variable {T A : Type} (sdk : Sdk T A)

namespace MultiSigTransactionPayload

def serialize (p : MultiSigTransactionPayload T) : Bytes :=
  sdk.uleb128.write 0 ++ sdk.entryFunction.write p.transactionPayload

def deserialize : Reader PyError (MultiSigTransactionPayload T) := do
  let _ ← sdk.uleb128.read -- whatever tag stands here, it is taken for 0
  let transactionPayload ← sdk.entryFunction.read
  return { transactionPayload }

end MultiSigTransactionPayload

namespace Multisig

def serialize (m : Multisig T) : Bytes :=
  sdk.accountAddress.write m.multisigAddress ++
    sdk.bool.write m.transactionPayload.isSome ++
    match m.transactionPayload with
    | some p => p.serialize sdk
    | none => []

def deserialize : Reader PyError (Multisig T) := do
  let multisigAddress ← sdk.accountAddress.read
  let payloadPresent ← sdk.bool.read
  if payloadPresent then
    let p ← MultiSigTransactionPayload.deserialize sdk
    return { multisigAddress, transactionPayload := some p }
  else
    return { multisigAddress, transactionPayload := none }

end Multisig

def PayloadValue.serialize : PayloadValue T A → Bytes
  | .script s => sdk.script.write s
  | .entryFunction e => sdk.entryFunction.write e
  | .multisig m => m.serialize sdk

namespace TransactionPayload

/-- `__init__` on a value of one of its three classes. -/
def ofValue : PayloadValue T A → TransactionPayload T A
  | .script s => ⟨SCRIPT, .script s, rfl⟩
  | .entryFunction e => ⟨SCRIPT_FUNCTION, .entryFunction e, rfl⟩
  | .multisig m => ⟨MULTISIG, .multisig m, rfl⟩

def serialize (p : TransactionPayload T A) : Bytes :=
  sdk.uleb128.write p.variant ++ p.value.serialize sdk

def deserialize : Reader PyError (TransactionPayload T A) := do
  let variant ← sdk.uleb128.read
  if variant = SCRIPT then
    let s ← sdk.script.read
    return ofValue (.script s)
  else if variant = SCRIPT_FUNCTION then
    let e ← sdk.entryFunction.read
    return ofValue (.entryFunction e)
  else if variant = MULTISIG then
    let m ← Multisig.deserialize sdk
    return ofValue (.multisig m)
  else
    throw (.exception "Invalid type")

end TransactionPayload

end Format

/-! ## A payload is its value -/

namespace TransactionPayload

variable {T A : Type}

theorem ofValue_value (p : TransactionPayload T A) : ofValue p.value = p := by
  obtain ⟨variant, value, variant_eq⟩ := p
  cases value <;> cases variant_eq <;> rfl

theorem ext {p q : TransactionPayload T A} (same : p.value = q.value) : p = q := by
  rw [← ofValue_value p, same, ofValue_value q]

theorem cls_eq_of_variant_eq {p q : TransactionPayload T A} (same : p.variant = q.variant) :
    p.value.cls = q.value.cls := by
  have tags : variantOf p.value.cls = variantOf q.value.cls := by
    rw [p.variant_eq, q.variant_eq, same]
  revert tags
  cases p.value <;> cases q.value <;>
    simp [PayloadValue.cls, variantOf, SCRIPT, SCRIPT_FUNCTION, MULTISIG]

end TransactionPayload

/-! ## What each reader accepts -/

section Reads

variable {T A : Type} {sdk : Sdk T A}

theorem MultiSigTransactionPayload.deserialize_eq_ok {input rest : Bytes}
    {p : MultiSigTransactionPayload T} :
    (deserialize sdk).run input = .ok (p, rest) ↔
      ∃ tag afterTag, sdk.uleb128.read.run input = .ok (tag, afterTag) ∧
        sdk.entryFunction.read.run afterTag = .ok (p.transactionPayload, rest) := by
  unfold deserialize
  constructor
  · intro h
    obtain ⟨tag, afterTag, htag, h⟩ := Reader.run_bind_eq_ok.mp h
    obtain ⟨e, afterFunction, he, h⟩ := Reader.run_bind_eq_ok.mp h
    cases Reader.run_pure_eq_ok.mp h
    exact ⟨tag, afterTag, htag, he⟩
  · rintro ⟨tag, afterTag, htag, he⟩
    rw [Reader.run_bind_of_ok htag, Reader.run_bind_of_ok he]
    rfl

theorem Multisig.deserialize_eq_ok {input rest : Bytes} {m : Multisig T} :
    (deserialize sdk).run input = .ok (m, rest) ↔
      ∃ afterAddress afterFlag,
        sdk.accountAddress.read.run input = .ok (m.multisigAddress, afterAddress) ∧
        sdk.bool.read.run afterAddress = .ok (m.transactionPayload.isSome, afterFlag) ∧
        match m.transactionPayload with
        | none => rest = afterFlag
        | some p => (MultiSigTransactionPayload.deserialize sdk).run afterFlag = .ok (p, rest) := by
  unfold deserialize
  constructor
  · intro h
    obtain ⟨address, afterAddress, haddress, h⟩ := Reader.run_bind_eq_ok.mp h
    obtain ⟨present, afterFlag, hflag, h⟩ := Reader.run_bind_eq_ok.mp h
    cases present with
    | false =>
      cases Reader.run_pure_eq_ok.mp h
      exact ⟨afterAddress, _, haddress, hflag, rfl⟩
    | true =>
      obtain ⟨p, afterPayload, hp, h⟩ := Reader.run_bind_eq_ok.mp h
      cases Reader.run_pure_eq_ok.mp h
      exact ⟨afterAddress, afterFlag, haddress, hflag, hp⟩
  · obtain ⟨address, payload⟩ := m
    rintro ⟨afterAddress, afterFlag, haddress, hflag, h⟩
    rw [Reader.run_bind_of_ok haddress, Reader.run_bind_of_ok hflag]
    cases payload with
    | none => cases h; rfl
    | some p => exact Reader.run_bind_of_ok h

/-- A payload value reads from what stands behind its variant tag. -/
def PayloadValue.ReadsFrom (sdk : Sdk T A) (input rest : Bytes) : PayloadValue T A → Prop
  | .script s => sdk.script.read.run input = .ok (s, rest)
  | .entryFunction e => sdk.entryFunction.read.run input = .ok (e, rest)
  | .multisig m => (Multisig.deserialize sdk).run input = .ok (m, rest)

/-- Of each class one value reads from an input. -/
theorem PayloadValue.eq_of_readsFrom {input rest rest' : Bytes} {v w : PayloadValue T A}
    (cls : v.cls = w.cls) (hv : v.ReadsFrom sdk input rest) (hw : w.ReadsFrom sdk input rest') :
    v = w := by
  cases v <;> cases w <;> cases cls
  all_goals
    unfold ReadsFrom at hv hw
    rw [hv] at hw
    cases hw
    rfl

theorem TransactionPayload.deserialize_eq_ok {input rest : Bytes} {p : TransactionPayload T A} :
    (deserialize sdk).run input = .ok (p, rest) ↔
      ∃ afterVariant, sdk.uleb128.read.run input = .ok (p.variant, afterVariant) ∧
        p.value.ReadsFrom sdk afterVariant rest := by
  unfold deserialize
  constructor
  · intro h
    obtain ⟨variant, afterVariant, hvariant, h⟩ := Reader.run_bind_eq_ok.mp h
    refine ⟨afterVariant, ?_⟩
    split_ifs at h with script entryFunction multisig
    · obtain ⟨s, last, hs, h⟩ := Reader.run_bind_eq_ok.mp h
      cases Reader.run_pure_eq_ok.mp h
      subst script
      exact ⟨hvariant, hs⟩
    · obtain ⟨e, last, he, h⟩ := Reader.run_bind_eq_ok.mp h
      cases Reader.run_pure_eq_ok.mp h
      subst entryFunction
      exact ⟨hvariant, he⟩
    · obtain ⟨m, last, hm, h⟩ := Reader.run_bind_eq_ok.mp h
      cases Reader.run_pure_eq_ok.mp h
      subst multisig
      exact ⟨hvariant, hm⟩
    · exact (Reader.run_throw_eq_ok.mp h).elim
  · rw [← p.ofValue_value]
    rintro ⟨afterVariant, hvariant, h⟩
    rw [Reader.run_bind_of_ok hvariant]
    revert h
    cases p.value with
    | script s => exact fun h => Reader.run_bind_of_ok h
    | entryFunction e => exact fun h => Reader.run_bind_of_ok h
    | multisig m => exact fun h => Reader.run_bind_of_ok h

/-- An outer tag that no payload is written with raises. -/
theorem TransactionPayload.deserialize_invalid_type {input rest : Bytes} {variant : Nat}
    (read : sdk.uleb128.read.run input = .ok (variant, rest))
    (unknown : variant ≠ SCRIPT ∧ variant ≠ SCRIPT_FUNCTION ∧ variant ≠ MULTISIG) :
    (deserialize sdk).run input = .error (.exception "Invalid type") := by
  unfold deserialize
  rw [Reader.run_bind_of_ok read, if_neg unknown.1, if_neg unknown.2.1, if_neg unknown.2.2]
  rfl

end Reads

/-! ## Decoding undoes encoding -/

section RoundTrip

variable {T A : Type} {sdk : Sdk T A} (trips : sdk.RoundTrips)

include trips

theorem MultiSigTransactionPayload.deserialize_serialize_run (p : MultiSigTransactionPayload T)
    (rest : Bytes) :
    (deserialize sdk).run (p.serialize sdk ++ rest) = .ok (p, rest) := by
  unfold serialize deserialize
  rw [List.append_assoc, trips.uleb128.run_bind, trips.entryFunction.run_bind]
  rfl

theorem Multisig.deserialize_serialize_run (m : Multisig T) (rest : Bytes) :
    (deserialize sdk).run (m.serialize sdk ++ rest) = .ok (m, rest) := by
  obtain ⟨address, payload⟩ := m
  unfold serialize deserialize
  simp only [List.append_assoc]
  rw [trips.accountAddress.run_bind, trips.bool.run_bind]
  cases payload with
  | none => rfl
  | some p =>
    have inner := MultiSigTransactionPayload.deserialize_serialize_run trips p rest
    exact Reader.run_bind_of_ok inner

theorem PayloadValue.readsFrom_serialize (v : PayloadValue T A) (rest : Bytes) :
    v.ReadsFrom sdk (v.serialize sdk ++ rest) rest := by
  cases v with
  | script s => exact trips.script s rest
  | entryFunction e => exact trips.entryFunction e rest
  | multisig m => exact Multisig.deserialize_serialize_run trips m rest

/-- **Decoding undoes encoding**, for every payload and whatever bytes follow. -/
theorem TransactionPayload.deserialize_serialize (p : TransactionPayload T A) (rest : Bytes) :
    (deserialize sdk).run (p.serialize sdk ++ rest) = .ok (p, rest) := by
  apply deserialize_eq_ok.mpr
  refine ⟨p.value.serialize sdk ++ rest, ?_, p.value.readsFrom_serialize trips rest⟩
  rw [serialize, List.append_assoc]
  exact trips.uleb128 p.variant _

/-- Payloads of equal encodings are equal. -/
theorem TransactionPayload.serialize_inj {p q : TransactionPayload T A} :
    p.serialize sdk = q.serialize sdk ↔ p = q := by
  refine ⟨fun same => ?_, fun same => by rw [same]⟩
  unfold serialize at same
  obtain ⟨variants, values⟩ := trips.uleb128.prefixFree.append_inj.mp same
  have hp := p.value.readsFrom_serialize trips []
  have hq := q.value.readsFrom_serialize trips []
  rw [values] at hp
  exact ext (PayloadValue.eq_of_readsFrom (cls_eq_of_variant_eq variants) hp hq)

end RoundTrip

/-- An approved transfer, executed and followed by the next field's bytes. -/
theorem TransactionPayload.deserialize_serialize_multisig :
    let p := ofValue (A := ScriptArgument) (.multisig ⟨smallAddress 7, some ⟨sampleTransfer 20⟩⟩)
    (deserialize bcsSdk).run (p.serialize bcsSdk ++ [1, 2]) = .ok (p, [1, 2]) :=
  deserialize_serialize bcsSdk_roundTrips _ _

/-! ## When what is accepted is an encoding -/

section Accepts

variable {T A : Type} {sdk : Sdk T A}

/-- The input reads to the end of a multisig payload with `tag` before its entry
function. -/
def ReadsInnerTag (sdk : Sdk T A) (input : Bytes) (tag : Nat) : Prop :=
  ∃ afterVariant address afterAddress afterFlag afterTag e rest,
    sdk.uleb128.read.run input = .ok (TransactionPayload.MULTISIG, afterVariant) ∧
    sdk.accountAddress.read.run afterVariant = .ok (address, afterAddress) ∧
    sdk.bool.read.run afterAddress = .ok (true, afterFlag) ∧
    sdk.uleb128.read.run afterFlag = .ok (tag, afterTag) ∧
    sdk.entryFunction.read.run afterTag = .ok (e, rest)

/-- Behind an inner tag the encoder writes, a multisig body is its encoding. -/
theorem Multisig.eq_serialize_of_deserialize (canonical : sdk.Canonical) {input rest : Bytes}
    {m : Multisig T} (h : (deserialize sdk).run input = .ok (m, rest))
    (inner : ∀ afterAddress afterFlag tag afterTag e,
      sdk.accountAddress.read.run input = .ok (m.multisigAddress, afterAddress) →
      sdk.bool.read.run afterAddress = .ok (true, afterFlag) →
      sdk.uleb128.read.run afterFlag = .ok (tag, afterTag) →
      sdk.entryFunction.read.run afterTag = .ok (e, rest) → tag = 0) :
    input = m.serialize sdk ++ rest := by
  obtain ⟨afterAddress, afterFlag, haddress, hflag, h⟩ := deserialize_eq_ok.mp h
  have address := canonical.accountAddress _ _ _ haddress
  have flag := canonical.bool _ _ _ hflag
  obtain ⟨multisigAddress, payload⟩ := m
  cases payload with
  | none =>
    rw [address, flag, h]
    simp [serialize]
  | some p =>
    obtain ⟨tag, afterTag, htag, he⟩ := MultiSigTransactionPayload.deserialize_eq_ok.mp h
    have zero : tag = 0 := inner _ _ _ _ _ haddress hflag htag he
    rw [address, flag, canonical.uleb128 _ _ _ htag, canonical.entryFunction _ _ _ he, zero]
    simp [serialize, MultiSigTransactionPayload.serialize]

/-- **What the decoder accepts is an encoding, exactly when the inner tag is.**
The reader throws the inner tag away, so a nonzero one decodes to a payload that
encodes differently. -/
theorem TransactionPayload.deserialize_canonical_iff (canonical : sdk.Canonical)
    (tags : Function.Injective sdk.uleb128.write) (input : Bytes) :
    (∀ p rest, (deserialize sdk).run input = .ok (p, rest) → input = p.serialize sdk ++ rest) ↔
      ∀ tag, ReadsInnerTag sdk input tag → tag = 0 := by
  constructor
  · rintro accepted tag
      ⟨afterVariant, address, afterAddress, afterFlag, afterTag, e, rest, hv, ha, hf, ht, he⟩
    let m : Multisig T := ⟨address, some ⟨e⟩⟩
    have hm : (Multisig.deserialize sdk).run afterVariant = .ok (m, rest) :=
      Multisig.deserialize_eq_ok.mpr ⟨afterAddress, afterFlag, ha, hf,
        MultiSigTransactionPayload.deserialize_eq_ok.mpr ⟨tag, afterTag, ht, he⟩⟩
    have decoded := accepted (ofValue (.multisig m)) rest
      (deserialize_eq_ok.mpr ⟨afterVariant, hv, hm⟩)
    -- both spellings share everything around the inner tag
    rw [canonical.uleb128 _ _ _ hv, canonical.accountAddress _ _ _ ha, canonical.bool _ _ _ hf,
      canonical.uleb128 _ _ _ ht, canonical.entryFunction _ _ _ he] at decoded
    simp only [ofValue, serialize, PayloadValue.serialize, Multisig.serialize,
      MultiSigTransactionPayload.serialize, m, Option.isSome_some, List.append_assoc,
      List.append_cancel_left_eq] at decoded
    exact tags (List.append_cancel_right decoded)
  · intro inner p rest h
    obtain ⟨afterVariant, hvariant, hvalue⟩ := deserialize_eq_ok.mp h
    rw [serialize, canonical.uleb128 _ _ _ hvariant, List.append_assoc, List.append_cancel_left_eq]
    cases hp : p.value with
    | script s =>
      rw [hp] at hvalue
      exact canonical.script _ _ _ hvalue
    | entryFunction e =>
      rw [hp] at hvalue
      exact canonical.entryFunction _ _ _ hvalue
    | multisig m =>
      have isMultisig : p.variant = MULTISIG := by rw [← p.ofValue_value, hp]; rfl
      rw [hp] at hvalue
      refine Multisig.eq_serialize_of_deserialize canonical hvalue ?_
      intro afterAddress afterFlag tag afterTag e ha hf ht he
      exact inner tag ⟨afterVariant, _, afterAddress, afterFlag, afterTag, e, rest,
        isMultisig ▸ hvariant, ha, hf, ht, he⟩

end Accepts

/-- A multisig execution with the inner tag 7, which no encoder writes. -/
def innerTagSeven : Bytes :=
  bcsSdk.uleb128.write TransactionPayload.MULTISIG ++
    (bcsSdk.accountAddress.write (smallAddress 7) ++ (bcsSdk.bool.write true ++
      (bcsSdk.uleb128.write 7 ++ (bcsSdk.entryFunction.write (sampleTransfer 20) ++ []))))

theorem TransactionPayload.deserialize_canonical_iff_innerTagSeven :
    (∀ p rest, (deserialize bcsSdk).run innerTagSeven = .ok (p, rest) →
      innerTagSeven = p.serialize bcsSdk ++ rest) ↔
      ∀ tag, ReadsInnerTag bcsSdk innerTagSeven tag → tag = 0 :=
  deserialize_canonical_iff bcsSdk_canonical bcsSdk_roundTrips.uleb128.prefixFree.injective _

/-- The decoder takes the inner tag 7 for the tag it writes. -/
theorem TransactionPayload.deserialize_accepts_innerTagSeven :
    bcsSdk.Canonical ∧ ¬ ∀ (input : Bytes) p rest,
      (deserialize bcsSdk).run input = .ok (p, rest) → input = p.serialize bcsSdk ++ rest := by
  refine ⟨bcsSdk_canonical, fun accepted => ?_⟩
  let m : Multisig TypeTag := ⟨smallAddress 7, some ⟨sampleTransfer 20⟩⟩
  have inner := MultiSigTransactionPayload.deserialize_eq_ok.mpr
    ⟨7, _, bcsSdk_roundTrips.uleb128 _ _, bcsSdk_roundTrips.entryFunction (sampleTransfer 20) []⟩
  have body : (Multisig.deserialize bcsSdk).run _ = .ok (m, []) :=
    Multisig.deserialize_eq_ok.mpr ⟨_, _, bcsSdk_roundTrips.accountAddress _ _,
      bcsSdk_roundTrips.bool true _, inner⟩
  have decoded : (deserialize bcsSdk).run innerTagSeven = .ok (ofValue (.multisig m), []) :=
    deserialize_eq_ok.mpr ⟨_, bcsSdk_roundTrips.uleb128 _ _, body⟩
  have encoded := accepted _ _ _ decoded
  revert encoded
  decide

end SupraFromScratch.Client
