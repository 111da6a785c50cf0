/-
# Client.MultisigProposal — what a proposal's hash stands for

`propose_multisig_tx.py` stores the hash of a stand-alone inner payload; much
later `execute_multisig_tx.py` sends a transaction that carries an inner payload
inside a multisig execution.  The chain compares the stored hash with the hash of
the bytes carried.  The two byte strings are built by different routes, and
`innerPayloadBytes_execution` says they are the same encoder's output, whatever
the multisig address; so under one hash exactly the approved entry function can
be executed (`executed_iff_proposed`).
-/
import SupraFromScratch.Client.TransactionPayload

namespace SupraFromScratch.Client

set_option autoImplicit false

open SupraFromScratch.Theory

section Proposal

variable {T A : Type} (sdk : Sdk T A) (sha3_256 : Bytes → Bytes)

/-- The hash a proposal stores. -/
def computeMultisigTxPayloadHash (entryFunc : EntryFunction T) : Bytes :=
  let payload : MultiSigTransactionPayload T := { transactionPayload := entryFunc }
  sha3_256 (payload.serialize sdk)

/-- The payload an owner executes. -/
def createMultisig (multisigAddr : AccountAddress) (entryFunc : EntryFunction T) : Multisig T where
  multisigAddress := multisigAddr
  transactionPayload := some { transactionPayload := entryFunc }

/-- The bytes of the execution transaction's payload. -/
def executionBytes (multisigAddr : AccountAddress) (entryFunc : EntryFunction T) : Bytes :=
  let payload : TransactionPayload T A :=
    TransactionPayload.ofValue (.multisig (createMultisig multisigAddr entryFunc))
  payload.serialize sdk

/-- What follows the variant tag, the 32-byte address and the presence byte. -/
def innerPayloadBytes (payload : Bytes) : Bytes := payload.drop (1 + 32 + 1)

end Proposal

section Laws

variable {T A : Type} {sdk : Sdk T A} {typeTag : T → Bytes}

/-- The bytes carried are the stand-alone inner payload's, at every address. -/
theorem innerPayloadBytes_execution (layout : sdk.Layout typeTag) (a : AccountAddress)
    (e : EntryFunction T) :
    innerPayloadBytes (executionBytes sdk a e) =
      (⟨e⟩ : MultiSigTransactionPayload T).serialize sdk := by
  have variant : sdk.uleb128.write TransactionPayload.MULTISIG = [3] := by
    rw [layout.uleb128]
    rfl
  have envelope : executionBytes sdk a e = [3] ++ a.bytes ++ [1] ++
      (⟨e⟩ : MultiSigTransactionPayload T).serialize sdk := by
    simp [executionBytes, TransactionPayload.serialize, TransactionPayload.ofValue,
      PayloadValue.serialize, createMultisig, Multisig.serialize, variant, layout.accountAddress,
      layout.bool]
  rw [innerPayloadBytes, envelope]
  exact List.drop_left' (by simp [a.length_bytes])

theorem MultiSigTransactionPayload.serialize_inj (free : PrefixFree sdk.entryFunction.write)
    {e e' : EntryFunction T} :
    (⟨e'⟩ : MultiSigTransactionPayload T).serialize sdk =
      (⟨e⟩ : MultiSigTransactionPayload T).serialize sdk ↔ e' = e := by
  unfold serialize
  rw [List.append_cancel_left_eq]
  exact free.injective.eq_iff

/-- **What is proposed is what can be executed.**  The bytes an execution carries
hash to the proposal's hash exactly when it executes the proposed entry function,
and the multisig address changes nothing in them. -/
theorem executed_iff_proposed (layout : sdk.Layout typeTag)
    (free : PrefixFree sdk.entryFunction.write) (sha3_256 : Bytes → Bytes)
    (a : AccountAddress) (e e' : EntryFunction T)
    (noCollision : sha3_256 ((⟨e'⟩ : MultiSigTransactionPayload T).serialize sdk) =
        sha3_256 ((⟨e⟩ : MultiSigTransactionPayload T).serialize sdk) →
      (⟨e'⟩ : MultiSigTransactionPayload T).serialize sdk =
        (⟨e⟩ : MultiSigTransactionPayload T).serialize sdk) :
    (sha3_256 (innerPayloadBytes (executionBytes sdk a e')) =
        computeMultisigTxPayloadHash sdk sha3_256 e ↔ e' = e) ∧
      ∀ b, innerPayloadBytes (executionBytes sdk b e') =
        innerPayloadBytes (executionBytes sdk a e') := by
  refine ⟨?_, fun b => ?_⟩
  · rw [innerPayloadBytes_execution layout, computeMultisigTxPayloadHash]
    constructor
    · intro hashes
      exact (MultiSigTransactionPayload.serialize_inj free).mp (noCollision hashes)
    · rintro rfl
      rfl
  · rw [innerPayloadBytes_execution layout, innerPayloadBytes_execution layout]

/-- SHA3-256 on the inner payloads of two sample transfers. -/
def sampleSha3 (bytes : Bytes) : Bytes :=
  if bytes = (⟨sampleTransfer 20⟩ : MultiSigTransactionPayload TypeTag).serialize bcsSdk then
    [67, 115, 196, 165, 143, 191, 15, 235, 34, 62, 146, 17, 136, 228, 240, 223,
      20, 250, 22, 202, 76, 195, 39, 92, 60, 229, 145, 165, 163, 186, 193, 210]
  else
    [251, 11, 30, 69, 70, 147, 246, 17, 180, 168, 253, 28, 249, 74, 236, 222,
      25, 222, 83, 191, 73, 59, 6, 112, 30, 157, 173, 60, 134, 99, 33, 21]

/-- An execution that sends 21 quants where 20 were approved does not match. -/
theorem executed_iff_proposed_amount :
    (sampleSha3 (innerPayloadBytes (executionBytes bcsSdk (smallAddress 7) (sampleTransfer 21))) =
        computeMultisigTxPayloadHash bcsSdk sampleSha3 (sampleTransfer 20) ↔
          sampleTransfer 21 = sampleTransfer 20) ∧
      ∀ b, innerPayloadBytes (executionBytes bcsSdk b (sampleTransfer 21)) =
        innerPayloadBytes (executionBytes bcsSdk (smallAddress 7) (sampleTransfer 21)) :=
  executed_iff_proposed bcsSdk_layout bcsSdk_roundTrips.entryFunction.prefixFree sampleSha3
    (smallAddress 7) (sampleTransfer 20) (sampleTransfer 21) (by decide)

end Laws

end SupraFromScratch.Client
