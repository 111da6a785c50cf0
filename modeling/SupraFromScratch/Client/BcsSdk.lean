/-
# Client.BcsSdk — an SDK that keeps every assumption

The assumptions of `Client.Sdk` hold together: `bcsSdk` writes each value in the
binary canonical layout, reads it back strictly and prints addresses as
`Client.AddressText` does, and satisfies all four of them.  It carries the type
tags without operands and the byte-vector script argument; results that need no
particular tag are about every `Sdk`.
-/
import SupraFromScratch.Client.AddressText

namespace SupraFromScratch.Client

set_option autoImplicit false

open SupraFromScratch.Theory

/-! ## Operands -/

/-- The type tags without operands, under their numbers. -/
inductive TypeTag where
  | bool
  | u8
  | u64
  | u128
  | address
  | signer
  | u16
  | u32
  | u256
  deriving DecidableEq, Repr

namespace TypeTag

def variant : TypeTag → Nat
  | bool => 0
  | u8 => 1
  | u64 => 2
  | u128 => 3
  | address => 4
  | signer => 5
  | u16 => 8
  | u32 => 9
  | u256 => 10

def all : List TypeTag := [bool, u8, u64, u128, address, signer, u16, u32, u256]

/-- The tag with this number. -/
def ofVariant (n : Nat) : Except PyError TypeTag :=
  match all.find? (·.variant = n) with
  | some t => .ok t
  | none => .error (.exception "Invalid type")

theorem ofVariant_variant (t : TypeTag) : ofVariant t.variant = .ok t := by
  cases t <;> rfl

theorem variant_of_ofVariant {n : Nat} {t : TypeTag} (h : ofVariant n = .ok t) : t.variant = n := by
  unfold ofVariant at h
  split at h
  · rename_i found hfind
    cases h
    simpa using List.find?_some hfind
  · cases h

end TypeTag

/-- A script argument holding a byte vector. -/
structure ScriptArgument where
  value : Bytes
  deriving DecidableEq

namespace ScriptArgument

def U8_VECTOR : Nat := 4

def ofPair : Nat × Bytes → Except PyError ScriptArgument
  | (variant, value) =>
      if variant = U8_VECTOR then .ok ⟨value⟩
      else .error (.exception "Invalid ScriptArgument variant")

end ScriptArgument

/-! ## Codecs -/

namespace BcsSdk

/-- What a strict reader raises on a short or malformed input. -/
def malformed : PyError := .exception "Unexpected end of input"

def typeTag : Codec PyError TypeTag :=
  (Bcs.uleb malformed).relabel TypeTag.ofVariant TypeTag.variant

def scriptArgument : Codec PyError ScriptArgument :=
  ((Bcs.uleb malformed).pair (Bcs.byteString malformed)).relabel ScriptArgument.ofPair
    fun a => (ScriptArgument.U8_VECTOR, a.value)

def accountAddress : Codec PyError AccountAddress :=
  (Bcs.fixed malformed 32).relabel (fun b => .ok ⟨b.1, b.2⟩) fun a => ⟨a.bytes, a.length_bytes⟩

def moduleId : Codec PyError ModuleId :=
  (accountAddress.pair (Bcs.text malformed)).relabel (fun p => .ok ⟨p.1, p.2⟩)
    fun m => (m.address, m.name)

def entryFunction : Codec PyError (EntryFunction TypeTag) :=
  (moduleId.pair ((Bcs.text malformed).pair ((Bcs.sequence malformed typeTag).pair
    (Bcs.sequence malformed (Bcs.byteString malformed))))).relabel
      (fun p => .ok ⟨p.1, p.2.1, p.2.2.1, p.2.2.2⟩)
      fun e => (e.module, e.function, e.tyArgs, e.args)

def script : Codec PyError (Script TypeTag ScriptArgument) :=
  ((Bcs.byteString malformed).pair ((Bcs.sequence malformed typeTag).pair
    (Bcs.sequence malformed scriptArgument))).relabel
      (fun p => .ok ⟨p.1, p.2.1, p.2.2⟩) fun s => (s.code, s.tyArgs, s.args)

/-- `keyed()`: the prehash and then the fields in order. -/
def keyed (t : RawTransaction Bytes) : Bytes :=
  t.prehash ++ (t.sender.bytes ++ Bcs.le 8 t.sequenceNumber.toNat ++ t.payload ++
    Bcs.le 8 t.maxGasAmount.toNat ++ Bcs.le 8 t.gasUnitPrice.toNat ++
    Bcs.le 8 t.expirationTimestampsSecs.toNat ++
    match t.chainId with
    | .int id => Bcs.le 1 id.toNat
    | .bool b => Bcs.le 1 b.toNat -- a `bool` is the number it is
    | _ => [])

end BcsSdk

open BcsSdk in
def bcsSdk : Sdk TypeTag ScriptArgument where
  uleb128 := Bcs.uleb malformed
  bool := Bcs.flag malformed
  accountAddress := accountAddress
  script := script
  entryFunction := entryFunction
  addressStr := addressStr
  typeTagAttrs _ := [("value", .obj .typeTag [])]
  scriptArgumentAttrs a :=
    [("variant", .int ScriptArgument.U8_VECTOR), ("value", .bytes a.value)]
  keyed := keyed

/-! ## The assumptions hold -/

namespace BcsSdk

theorem sequence_roundTrips {α : Type} {c : Codec PyError α} (hc : c.RoundTrips) :
    (Bcs.sequence malformed c).RoundTrips :=
  (Bcs.uleb_roundTrips malformed).sequence hc

theorem sequence_canonical {α : Type} {c : Codec PyError α} (hc : c.Canonical) :
    (Bcs.sequence malformed c).Canonical :=
  (Bcs.uleb_canonical malformed).sequence hc

theorem typeTag_roundTrips : typeTag.RoundTrips :=
  (Bcs.uleb_roundTrips malformed).relabel TypeTag.ofVariant_variant

theorem typeTag_canonical : typeTag.Canonical :=
  (Bcs.uleb_canonical malformed).relabel fun _ _ => TypeTag.variant_of_ofVariant

theorem scriptArgument_roundTrips : scriptArgument.RoundTrips :=
  ((Bcs.uleb_roundTrips malformed).pair (Bcs.byteString_roundTrips malformed)).relabel fun _ => rfl

theorem scriptArgument_canonical : scriptArgument.Canonical := by
  refine ((Bcs.uleb_canonical malformed).pair (Bcs.byteString_canonical malformed)).relabel ?_
  rintro ⟨variant, value⟩ a h
  simp only [ScriptArgument.ofPair] at h
  split at h
  · rename_i vector
    cases h
    rw [vector]
  · cases h

theorem accountAddress_roundTrips : accountAddress.RoundTrips :=
  (Bcs.fixed_roundTrips malformed 32).relabel fun _ => rfl

theorem accountAddress_canonical : accountAddress.Canonical :=
  (Bcs.fixed_canonical malformed 32).relabel fun _ _ h => by cases h; rfl

theorem entryFunction_roundTrips : entryFunction.RoundTrips := by
  have moduleId : moduleId.RoundTrips :=
    (accountAddress_roundTrips.pair (Bcs.text_roundTrips malformed)).relabel fun _ => rfl
  have args := sequence_roundTrips (Bcs.byteString_roundTrips malformed)
  exact (moduleId.pair ((Bcs.text_roundTrips malformed).pair
    ((sequence_roundTrips typeTag_roundTrips).pair args))).relabel fun _ => rfl

theorem entryFunction_canonical : entryFunction.Canonical := by
  have moduleId : moduleId.Canonical :=
    (accountAddress_canonical.pair (Bcs.text_canonical malformed)).relabel
      fun _ _ h => by cases h; rfl
  have args := sequence_canonical (Bcs.byteString_canonical malformed)
  exact (moduleId.pair ((Bcs.text_canonical malformed).pair
    ((sequence_canonical typeTag_canonical).pair args))).relabel fun _ _ h => by cases h; rfl

theorem script_roundTrips : script.RoundTrips :=
  ((Bcs.byteString_roundTrips malformed).pair ((sequence_roundTrips typeTag_roundTrips).pair
    (sequence_roundTrips scriptArgument_roundTrips))).relabel fun _ => rfl

theorem script_canonical : script.Canonical :=
  ((Bcs.byteString_canonical malformed).pair ((sequence_canonical typeTag_canonical).pair
    (sequence_canonical scriptArgument_canonical))).relabel fun _ _ h => by cases h; rfl

end BcsSdk

theorem bcsSdk_roundTrips : bcsSdk.RoundTrips where
  uleb128 := Bcs.uleb_roundTrips _
  bool := Bcs.flag_roundTrips _
  accountAddress := BcsSdk.accountAddress_roundTrips
  script := BcsSdk.script_roundTrips
  entryFunction := BcsSdk.entryFunction_roundTrips

theorem bcsSdk_canonical : bcsSdk.Canonical where
  uleb128 := Bcs.uleb_canonical _
  bool := Bcs.flag_canonical _
  accountAddress := BcsSdk.accountAddress_canonical
  script := BcsSdk.script_canonical
  entryFunction := BcsSdk.entryFunction_canonical

theorem bcsSdk_layout : bcsSdk.Layout BcsSdk.typeTag.write where
  uleb128 _ := rfl
  bool _ := rfl
  accountAddress _ := rfl
  entryFunction e := by
    change (e.module.address.bytes ++ Bcs.writeText e.module.name) ++ (Bcs.writeText e.function ++
      (Bcs.writeSequence _ e.tyArgs ++ Bcs.writeSequence _ e.args)) = _
    simp only [List.append_assoc]
    rfl
  keyed t id _ chainId := by
    change BcsSdk.keyed t = _
    simp only [BcsSdk.keyed, chainId, Int.toNat_natCast]

theorem bcsSdk_printsInjectively : bcsSdk.PrintsInjectively := fun a b same =>
  AccountAddress.ext (addressStr_inj a.length_bytes b.length_bytes same)

/-! ## Sample values -/

/-- The address whose number fits one byte. -/
def smallAddress (n : UInt8) : AccountAddress := ⟨List.replicate 31 0 ++ [n], by simp⟩

/-- A transfer of `amount` quants to a small address. -/
def sampleTransfer (amount : UInt8) : EntryFunction TypeTag where
  module := ⟨smallAddress 1, "supra_account"⟩
  function := "transfer"
  tyArgs := []
  args := [(smallAddress 0xb8).bytes, [amount, 0, 0, 0, 0, 0, 0, 0]]

end SupraFromScratch.Client
