/-
# Client.Sdk — the SDK's values, and what the client assumes of the SDK

The client builds its transactions from values of a third-party SDK and calls
that SDK to serialize them.  The values are modelled here with the attributes
the client reads.  The SDK's own writers and readers are not: they are the
fields of `Sdk`, a parameter of everything above, and what the client relies on
is stated about them as four separate assumptions.

* `Sdk.RoundTrips` — a reader undoes its writer, whatever follows.
* `Sdk.Canonical` — a reader accepts only what its writer writes.
* `Sdk.Layout` — the writers follow the binary canonical layout.
* `Sdk.PrintsInjectively` — two addresses do not print alike.

Type tags and script arguments are opaque: the client only passes them through.
-/
import SupraFromScratch.Theory.Bcs
import SupraFromScratch.Theory.Python

namespace SupraFromScratch.Client

set_option autoImplicit false

open SupraFromScratch.Theory

/-! ## Values -/

/-- The classes whose objects reach the client's reflective code. -/
inductive PyClass where
  | transactionPayload
  | multiSigTransactionPayload
  | multisig
  | script
  | entryFunction
  | moduleId
  | accountAddress
  | typeTag
  | scriptArgument
  | rawTransaction
  | multiAgentRawTransaction
  | boundMethod
  deriving DecidableEq, Repr

/-- A value of the client's processes. -/
abbrev Value := PyVal PyClass

/-- The attribute dictionary of an object. -/
abbrev Attrs := List (String × Value)

/-- The constructor refuses every other length. -/
structure AccountAddress where
  bytes : Bytes
  length_bytes : bytes.length = 32
  deriving DecidableEq

structure ModuleId where
  address : AccountAddress
  name : String
  deriving DecidableEq

structure EntryFunction (T : Type) where
  module : ModuleId
  function : String
  tyArgs : List T
  args : List Bytes
  deriving DecidableEq

structure Script (T A : Type) where
  code : Bytes
  tyArgs : List T
  args : List A
  deriving DecidableEq

/-- A raw transaction with the bytes its `prehash` method answers.  Python
integers are unbounded and the chain id may be any answer of the node, so the
wire's ranges are a predicate (`RawTransaction.InRange`). -/
structure RawTransaction (P : Type) where
  sender : AccountAddress
  sequenceNumber : Int
  payload : P
  maxGasAmount : Int
  gasUnitPrice : Int
  expirationTimestampsSecs : Int
  chainId : Value
  prehash : Bytes

theorem AccountAddress.ext {a b : AccountAddress} (same : a.bytes = b.bytes) : a = b := by
  cases a
  cases b
  cases same
  rfl

namespace RawTransaction

variable {P Q : Type}

/-- The same transaction around another payload. -/
def withPayload (t : RawTransaction P) (payload : Q) : RawTransaction Q := { t with payload }

/-- Sequence number, gas and expiry fit 64 bits and the chain id fits 8. -/
structure InRange (t : RawTransaction P) : Prop where
  sequenceNumber : 0 ≤ t.sequenceNumber ∧ t.sequenceNumber < 2 ^ 64
  maxGasAmount : 0 ≤ t.maxGasAmount ∧ t.maxGasAmount < 2 ^ 64
  gasUnitPrice : 0 ≤ t.gasUnitPrice ∧ t.gasUnitPrice < 2 ^ 64
  expirationTimestampsSecs :
    0 ≤ t.expirationTimestampsSecs ∧ t.expirationTimestampsSecs < 2 ^ 64
  chainId : ∃ id : Nat, id < 2 ^ 8 ∧ t.chainId = .int id

/-- The ranges say nothing about the payload. -/
theorem InRange.withPayload {t : RawTransaction P} (range : t.InRange) (payload : Q) :
    (t.withPayload payload).InRange where
  sequenceNumber := range.sequenceNumber
  maxGasAmount := range.maxGasAmount
  gasUnitPrice := range.gasUnitPrice
  expirationTimestampsSecs := range.expirationTimestampsSecs
  chainId := range.chainId

end RawTransaction

/-! ## The SDK's code -/

/-- The SDK's writers and readers, `str` of an address (through the bytes it
holds), the attribute dictionaries of the values the client passes through, and
`keyed()` of a transaction whose payload serializes to the given bytes. -/
structure Sdk (T A : Type) where
  uleb128 : Codec PyError Nat
  bool : Codec PyError Bool
  accountAddress : Codec PyError AccountAddress
  script : Codec PyError (Script T A)
  entryFunction : Codec PyError (EntryFunction T)
  addressStr : Bytes → String
  typeTagAttrs : T → Attrs
  scriptArgumentAttrs : A → Attrs
  keyed : RawTransaction Bytes → Bytes

namespace Sdk

variable {T A : Type} (sdk : Sdk T A)

/-- Every reader the payload decoder calls undoes its writer. -/
structure RoundTrips : Prop where
  uleb128 : sdk.uleb128.RoundTrips
  bool : sdk.bool.RoundTrips
  accountAddress : sdk.accountAddress.RoundTrips
  script : sdk.script.RoundTrips
  entryFunction : sdk.entryFunction.RoundTrips

/-- Every reader the payload decoder calls accepts only what its writer writes. -/
structure Canonical : Prop where
  uleb128 : sdk.uleb128.Canonical
  bool : sdk.bool.Canonical
  accountAddress : sdk.accountAddress.Canonical
  script : sdk.script.Canonical
  entryFunction : sdk.entryFunction.Canonical

/-- The writers follow the binary canonical layout: fixed-width addresses and
integers, a length before text, byte strings and sequences, and nothing between
fields.  `typeTag` is the layout of a type tag. -/
structure Layout (typeTag : T → Bytes) : Prop where
  uleb128 : ∀ n, sdk.uleb128.write n = Bcs.uleb128 n
  bool : ∀ b, sdk.bool.write b = [if b then 1 else 0]
  accountAddress : ∀ a, sdk.accountAddress.write a = a.bytes
  entryFunction : ∀ e, sdk.entryFunction.write e =
    e.module.address.bytes ++ Bcs.writeText e.module.name ++ Bcs.writeText e.function ++
      Bcs.writeSequence typeTag e.tyArgs ++ Bcs.writeSequence Bcs.writeBytes e.args
  keyed : ∀ (t : RawTransaction Bytes) (id : Nat), t.InRange → t.chainId = .int id →
    sdk.keyed t = t.prehash ++ (t.sender.bytes ++ Bcs.le 8 t.sequenceNumber.toNat ++ t.payload ++
      Bcs.le 8 t.maxGasAmount.toNat ++ Bcs.le 8 t.gasUnitPrice.toNat ++
      Bcs.le 8 t.expirationTimestampsSecs.toNat ++ Bcs.le 1 id)

/-- Two addresses do not print alike. -/
def PrintsInjectively : Prop :=
  ∀ a b : AccountAddress, sdk.addressStr a.bytes = sdk.addressStr b.bytes → a = b

end Sdk

theorem accountAddress_bytes_prefixFree : PrefixFree AccountAddress.bytes :=
  PrefixFree.of_length 32 AccountAddress.length_bytes fun _ _ => AccountAddress.ext

end SupraFromScratch.Client
