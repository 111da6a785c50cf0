/-
# Client.EntryFunc — a call of an on-chain function, through text

`create_entry_func` of `transfer_supra.py`, and two of its callers.  The SDK
builds a call from the text of a module id, so a module's address is printed
and read back before it is called; the arguments are paired with their encoders
by position.

`createEntryFunc_eq_ok_iff` says what comes of both routes for every address
and any two lists.  A missing encoder raises, and a surplus one is ignored.
-/
import SupraFromScratch.Theory.Split
import SupraFromScratch.Theory.WriteLog
import SupraFromScratch.Client.PayloadToDict

namespace SupraFromScratch.Client

set_option autoImplicit false

open SupraFromScratch.Theory

/-! ## The SDK's part -/

/-- A method of the serializer: it works on the output so far, or raises. -/
abbrev Encoder (V : Type) := V → StateT Bytes (Except PyError) Unit

structure TransactionArgument (V : Type) where
  value : V
  encoder : Encoder V

/-- The bytes an encoder writes for a value, on a serializer of its own. -/
def TransactionArgument.encode {V : Type} (arg : TransactionArgument V) : Except PyError Bytes := do
  let ((), output) ← (arg.encoder arg.value).run []
  return output

/-- What the client calls to build an entry function. -/
structure CallSdk (T V : Type) where
  fromStr : String → Except PyError AccountAddress
  fromStrRelaxed : String → Except PyError AccountAddress
  moduleIdStr : ModuleId → String
  moduleIdFromStr : String → Except PyError ModuleId
  natural : String → String → List T → List (TransactionArgument V) →
    Except PyError (EntryFunction T)
  struct : Encoder V
  u64 : Encoder V
  bool : Encoder V
  str : Encoder V
  toBytes : Encoder V
  sequenceSerializer : Encoder V → Encoder V

/-- Module ids print as the address, two colons and the name, and are read by
splitting at two colons, the address strictly; `EntryFunction.natural` reads
its module id and encodes its arguments in order. -/
structure CallSdk.Documented {T V : Type} (sdk : CallSdk T V) : Prop where
  prints : ∀ m, sdk.moduleIdStr m = addressStr m.address.bytes ++ "::" ++ m.name
  splits : ∀ text, sdk.moduleIdFromStr text = (do
    let parts := Split.splitText "::" text
    let address ← sdk.fromStr (← PyVal.getIndex parts 0)
    return ⟨address, ← PyVal.getIndex parts 1⟩)
  strict : ReadsStrictly sdk.fromStr
  natural : ∀ moduleId function tyArgs args, sdk.natural moduleId function tyArgs args = (do
    let module ← sdk.moduleIdFromStr moduleId
    let byteArgs ← args.mapM TransactionArgument.encode
    return { module, function, tyArgs, args := byteArgs })

/-! ## The client's part -/

section Client

variable {T V : Type} (sdk : CallSdk T V)

/-- The default of `module_addr`. -/
def defaultModuleAddr : Except PyError AccountAddress := sdk.fromStrRelaxed "1"

/-- `create_entry_func`. -/
def createEntryFunc (moduleName functionName : String) (functionArgs : List V)
    (functionArgsEncoders : List (Encoder V)) (moduleAddr : AccountAddress)
    (typeArgs : List T := []) : Except PyError (EntryFunction T) := do
  let args ← functionArgs.zipIdx.mapM fun (arg, i) => do
    return TransactionArgument.mk arg (← PyVal.getIndex functionArgsEncoders i)
  sdk.natural (sdk.moduleIdStr ⟨moduleAddr, moduleName⟩) functionName typeArgs args

end Client

section Callers

variable {T : Type} (sdk : CallSdk T Value)

/-- `create_create_multisig_account_entry_func`. -/
def createCreateMultisigAccountEntryFunc (additionalOwners : List AccountAddress)
    (numSignaturesRequired : Int) (metadataKeys : List String) (metadataValues : List Bytes)
    (timeoutDuration : Int) : Except PyError (EntryFunction T) := do
  createEntryFunc sdk "multisig_account" "create_with_owners"
    [.list (additionalOwners.map AccountAddress.toPy), .int numSignaturesRequired,
      .list (metadataKeys.map .str), .list (metadataValues.map .bytes), .int timeoutDuration]
    [sdk.sequenceSerializer sdk.struct, sdk.u64, sdk.sequenceSerializer sdk.str,
      sdk.sequenceSerializer sdk.toBytes, sdk.u64]
    (← defaultModuleAddr sdk)

/-- `create_vote_multisig_tx_entry_func`.  The chain's function is spelled so. -/
def createVoteMultisigTxEntryFunc (multisigAccountAddr : AccountAddress) (multisigSeqNum : Int)
    (approved : Bool) : Except PyError (EntryFunction T) := do
  createEntryFunc sdk "multisig_account" "vote_transanction"
    [multisigAccountAddr.toPy, .int multisigSeqNum, .bool approved]
    [sdk.struct, sdk.u64, sdk.bool]
    (← defaultModuleAddr sdk)

end Callers

/-! ## An SDK that keeps the assumptions -/

namespace PlainCalls

/-- `from_str_relaxed`: one to 64 digits, `0x` in front or not. -/
def fromStrRelaxed (address : String) : Except PyError AccountAddress :=
  let digits := if "0x".toList <+: address.toList then address.toList.drop 2 else address.toList
  if digits.length < 1 then
    .error (.runtimeError
      "Hex string is too short, must be 1 to 64 chars long, excluding the leading 0x.")
  else if 64 < digits.length then
    .error (.runtimeError
      "Hex string is too long, must be 1 to 64 chars long, excluding the leading 0x.")
  else match unhex (List.replicate (64 - digits.length) '0' ++ digits) with
    | some bytes =>
        if sized : bytes.length = 32 then .ok ⟨bytes, sized⟩
        else .error (.exception "Expected address of length 32")
    | none => .error (.valueError "non-hexadecimal number found in fromhex() arg")

/-- `from_str`: the long form, or the short one of a special address. -/
def fromStr (address : String) : Except PyError AccountAddress := do
  if ¬ "0x".toList <+: address.toList then
    throw (.runtimeError "Hex string must start with a leading 0x.")
  let out ← fromStrRelaxed address
  if address.toList.length = 66 ∨ isSpecial out.bytes = true ∧ address.toList.length = 3 then
    return out
  throw (.runtimeError "The given hex string is not in LONG form or a SHORT special address.")

/-- What the relaxed reader makes of `0x` and up to 64 digits. -/
theorem fromStrRelaxed_prefixed {digits : List Char} {a : AccountAddress}
    (some_digit : 1 ≤ digits.length) (fits : digits.length ≤ 64)
    (value : unhex (List.replicate (64 - digits.length) '0' ++ digits) = some a.bytes) :
    fromStrRelaxed (String.ofList ('0' :: 'x' :: digits)) = .ok a := by
  have starts : "0x".toList <+: '0' :: 'x' :: digits := ⟨digits, rfl⟩
  simp only [fromStrRelaxed, String.toList_ofList, if_pos starts, List.drop_succ_cons,
    List.drop_zero, if_neg (show ¬ digits.length < 1 by omega),
    if_neg (show ¬ 64 < digits.length by omega), value, dif_pos a.length_bytes]

theorem fromStr_readsStrictly : ReadsStrictly fromStr where
  long := by
    intro digits a value
    have size : digits.length = 64 := by rw [length_of_unhex value, a.length_bytes]
    have relaxed : fromStrRelaxed (String.ofList ('0' :: 'x' :: digits)) = .ok a := by
      apply fromStrRelaxed_prefixed (by omega) (by omega)
      rw [size]
      exact value
    have starts : "0x".toList <+: '0' :: 'x' :: digits := ⟨digits, rfl⟩
    have long : ('0' :: 'x' :: digits).length = 66 := by
      rw [List.length_cons, List.length_cons, size]
    unfold fromStr
    rw [String.toList_ofList, if_neg (not_not.mpr starts), relaxed]
    exact if_pos (Or.inl long)
  short := by
    intro digit value a hvalue bytes
    have small : value < 16 := digitValue_lt hvalue
    have last : unhex ['0', digit] = some [UInt8.ofNat value] := by
      rw [unhex, hvalue]
      simp [unhex, digitValue]
    have relaxed : fromStrRelaxed (String.ofList ['0', 'x', digit]) = .ok a := by
      apply fromStrRelaxed_prefixed (by simp) (by simp)
      rw [bytes]
      exact unhex_zeros last 31
    have special : isSpecial a.bytes = true := by
      rw [bytes]
      simp [isSpecial]
      omega
    have starts : "0x".toList <+: ['0', 'x', digit] := ⟨[digit], rfl⟩
    unfold fromStr
    rw [String.toList_ofList, if_neg (not_not.mpr starts), relaxed]
    exact if_pos (Or.inr ⟨special, rfl⟩)

/-- Adds to the output. -/
def put (bytes : Bytes) : StateT Bytes (Except PyError) Unit :=
  modify (· ++ bytes)

def struct : Encoder Value
  | .obj .accountAddress [("address", .bytes bytes)] => put bytes
  | _ => throw (.attributeError "serialize")

def u64 : Encoder Value
  | .int i =>
      if 0 ≤ i ∧ i < 2 ^ 64 then put (Bcs.le 8 i.toNat)
      else throw (.exception "Cannot encode value into u64")
  | _ => throw (.typeError "not supported between instances")

def bool : Encoder Value
  | .bool b => put [if b then 1 else 0]
  | _ => throw (.typeError "int() argument must be a number")

def str : Encoder Value
  | .str s => put (Bcs.writeText s)
  | _ => throw (.attributeError "encode")

def toBytes : Encoder Value
  | .bytes bytes => put (Bcs.writeBytes bytes)
  | _ => throw (.typeError "can't concat to bytes")

def sequenceSerializer (valueEncoder : Encoder Value) : Encoder Value
  | .list items => do
      put (Bcs.uleb128 items.length)
      items.forM valueEncoder
  | _ => throw (.typeError "object has no len()")

def moduleIdFromStr (text : String) : Except PyError ModuleId := do
  let parts := Split.splitText "::" text
  let address ← fromStr (← PyVal.getIndex parts 0)
  return ⟨address, ← PyVal.getIndex parts 1⟩

end PlainCalls

open PlainCalls in
def plainCalls : CallSdk TypeTag Value where
  fromStr := fromStr
  fromStrRelaxed := fromStrRelaxed
  moduleIdStr m := addressStr m.address.bytes ++ "::" ++ m.name
  moduleIdFromStr := moduleIdFromStr
  natural moduleId function tyArgs args := do
    let module ← moduleIdFromStr moduleId
    let byteArgs ← args.mapM TransactionArgument.encode
    return { module, function, tyArgs, args := byteArgs }
  struct := struct
  u64 := u64
  bool := bool
  str := str
  toBytes := toBytes
  sequenceSerializer := sequenceSerializer

theorem plainCalls_documented : plainCalls.Documented where
  prints _ := rfl
  splits _ := rfl
  strict := PlainCalls.fromStr_readsStrictly
  natural _ _ _ _ := rfl

/-! ## What is called -/

section Calls

variable {T V : Type} {sdk : CallSdk T V}

/-- **A module id survives its text**, for a name without two colons. -/
theorem CallSdk.Documented.moduleIdFromStr_moduleIdStr (doc : sdk.Documented) {m : ModuleId}
    (plain : ¬ "::".toList <:+: m.name.toList) :
    sdk.moduleIdFromStr (sdk.moduleIdStr m) = .ok m := by
  have parts : Split.splitText "::" (sdk.moduleIdStr m) =
      [addressStr m.address.bytes, m.name] := by
    rw [doc.prints]
    exact Split.splitText_pair rfl (colon_notMem_addressStr m.address.bytes) plain
  have first : PyVal.getIndex [addressStr m.address.bytes, m.name] 0 =
      .ok (addressStr m.address.bytes) := rfl
  rw [doc.splits, parts]
  simp only [first, ok_bind, doc.strict.read_addressStr]
  rfl

theorem CallSdk.Documented.natural_eq_ok_iff (doc : sdk.Documented) {m : ModuleId}
    (plain : ¬ "::".toList <:+: m.name.toList) {function : String} {tyArgs : List T}
    {args : List (TransactionArgument V)} {e : EntryFunction T} :
    sdk.natural (sdk.moduleIdStr m) function tyArgs args = .ok e ↔
      e.module = m ∧ e.function = function ∧ e.tyArgs = tyArgs ∧
        List.Forall₂ (fun arg bytes => arg.encode = .ok bytes) args e.args := by
  rw [doc.natural, doc.moduleIdFromStr_moduleIdStr plain, ← PyVal.mapM_eq_ok_iff]
  cases args.mapM TransactionArgument.encode with
  | error err =>
    refine ⟨fun h => (by cases h), ?_⟩
    rintro ⟨-, -, -, h⟩
    cases h
  | ok byteArgs =>
    obtain ⟨module, function', tyArgs', args'⟩ := e
    refine ⟨fun h => ?_, ?_⟩
    · cases h
      exact ⟨rfl, rfl, rfl, rfl⟩
    · rintro ⟨rfl, rfl, rfl, h⟩
      cases h
      rfl

/-- What `create_entry_func` comes to, on any two lists. -/
theorem createEntryFunc_eq_ok_iff (doc : sdk.Documented) {moduleName functionName : String}
    (plain : ¬ "::".toList <:+: moduleName.toList) {args : List V} {encoders : List (Encoder V)}
    {moduleAddr : AccountAddress} {tyArgs : List T} {e : EntryFunction T} :
    createEntryFunc sdk moduleName functionName args encoders moduleAddr tyArgs = .ok e ↔
      args.length ≤ encoders.length ∧ e.module = ⟨moduleAddr, moduleName⟩ ∧
        e.function = functionName ∧ e.tyArgs = tyArgs ∧
        List.Forall₂ (fun arg bytes => arg.encode = .ok bytes)
          (List.zipWith TransactionArgument.mk args encoders) e.args := by
  unfold createEntryFunc
  rw [PyVal.mapM_zipIdx_getIndex, List.drop_zero]
  by_cases enough : args.length ≤ encoders.length
  · rw [if_pos enough, and_iff_right enough]
    exact doc.natural_eq_ok_iff (m := ⟨moduleAddr, moduleName⟩) plain
  · rw [if_neg enough]
    refine ⟨fun h => (by cases h), ?_⟩
    rintro ⟨h, -⟩
    exact absurd h enough

/-- **The call asked for is the call made.**  Any address, special or not, any
module name without two colons and any two lists of one length: where every
encoder succeeds on its argument, the entry function names that module and that
function and carries what each encoder writes, position by position. -/
theorem createEntryFunc_calls (doc : sdk.Documented) (moduleAddr : AccountAddress)
    {moduleName : String} (plain : ¬ "::".toList <:+: moduleName.toList) (functionName : String)
    (tyArgs : List T) {args : List V} {encoders : List (Encoder V)}
    (paired : args.length = encoders.length)
    (encodes : ∀ (i : Nat) arg encoder, args[i]? = some arg → encoders[i]? = some encoder →
      ∃ bytes, (TransactionArgument.mk arg encoder).encode = .ok bytes) :
    ∃ e, createEntryFunc sdk moduleName functionName args encoders moduleAddr tyArgs = .ok e ∧
      e.module = ⟨moduleAddr, moduleName⟩ ∧ e.function = functionName ∧ e.tyArgs = tyArgs ∧
      e.args.length = args.length ∧
      ∀ (i : Nat) arg encoder, args[i]? = some arg → encoders[i]? = some encoder →
        ∃ bytes, e.args[i]? = some bytes ∧
          (TransactionArgument.mk arg encoder).encode = .ok bytes := by
  have each : ∀ call ∈ List.zipWith TransactionArgument.mk args encoders,
      ∃ bytes, call.encode = .ok bytes := by
    intro call mem
    obtain ⟨i, at_i⟩ := List.mem_iff_getElem?.mp mem
    obtain ⟨arg, encoder, harg, hencoder, rfl⟩ := List.getElem?_zipWith_eq_some.mp at_i
    exact encodes i arg encoder harg hencoder
  obtain ⟨byteArgs, related⟩ := WriteLog.exists_forall₂.mpr each
  refine ⟨⟨⟨moduleAddr, moduleName⟩, functionName, tyArgs, byteArgs⟩,
    (createEntryFunc_eq_ok_iff doc plain).mpr ⟨paired.le, rfl, rfl, rfl, related⟩,
    rfl, rfl, rfl, ?_, ?_⟩
  · rw [← related.length_eq, List.length_zipWith, ← paired, Nat.min_self]
  · intro i arg encoder harg hencoder
    have at_i : (List.zipWith TransactionArgument.mk args encoders)[i]? =
        some ⟨arg, encoder⟩ :=
      List.getElem?_zipWith_eq_some.mpr ⟨arg, encoder, harg, hencoder, rfl⟩
    exact WriteLog.exists_getElem?_of_forall₂ related at_i

end Calls

/-- The first address that prints long, under a name with colons of its own. -/
theorem createEntryFunc_calls_pastSpecial :
    (¬ "::".toList <:+: ":supra_account:".toList) ∧
    ∃ e, createEntryFunc plainCalls ":supra_account:" "transfer"
        [(smallAddress 0xb8).toPy, .int 20] [plainCalls.struct, plainCalls.u64]
        (smallAddress 0x10) [.u64] = .ok e ∧
      e.module = ⟨smallAddress 0x10, ":supra_account:"⟩ ∧ e.function = "transfer" ∧
      e.tyArgs = [.u64] ∧ e.args.length = 2 ∧
      ∀ (i : Nat) arg encoder, [(smallAddress 0xb8).toPy, .int 20][i]? = some arg →
        [plainCalls.struct, plainCalls.u64][i]? = some encoder →
        ∃ bytes, e.args[i]? = some bytes ∧
          (TransactionArgument.mk arg encoder).encode = .ok bytes := by
  have plain : ¬ "::".toList <:+: ":supra_account:".toList := by decide
  refine ⟨plain, createEntryFunc_calls plainCalls_documented (smallAddress 0x10) plain "transfer"
    [.u64] rfl ?_⟩
  intro i arg encoder harg hencoder
  match i with
  | 0 =>
    cases harg
    cases hencoder
    exact ⟨_, rfl⟩
  | 1 =>
    cases harg
    cases hencoder
    exact ⟨_, rfl⟩
  | i + 2 => cases harg

/-! ## The callers -/

/-- The encoder adds these bytes for this value, whatever was written before. -/
def Encoder.Writes {V : Type} (encoder : Encoder V) (value : V) (bytes : Bytes) : Prop :=
  ∀ output, (encoder value).run output = .ok ((), output ++ bytes)

theorem Encoder.Writes.encode {V : Type} {encoder : Encoder V} {value : V} {bytes : Bytes}
    (writes : encoder.Writes value bytes) :
    (TransactionArgument.mk value encoder).encode = .ok bytes := by
  rw [TransactionArgument.encode, writes []]
  rfl

/-- The serializer's methods follow the binary canonical layout. -/
structure CallSdk.Layout {T : Type} (sdk : CallSdk T Value) : Prop where
  struct : ∀ a : AccountAddress, sdk.struct.Writes a.toPy a.bytes
  u64 : ∀ n : Nat, n < 2 ^ 64 → sdk.u64.Writes (.int n) (Bcs.le 8 n)
  bool : ∀ b, sdk.bool.Writes (.bool b) [if b then 1 else 0]
  str : ∀ s, sdk.str.Writes (.str s) (Bcs.writeText s)
  toBytes : ∀ b, sdk.toBytes.Writes (.bytes b) (Bcs.writeBytes b)
  sequence : ∀ {α : Type} {encoder : Encoder Value} {toPy : α → Value} {write : α → Bytes},
    (∀ a, encoder.Writes (toPy a) (write a)) → ∀ items : List α,
      (sdk.sequenceSerializer encoder).Writes (.list (items.map toPy))
        (Bcs.writeSequence write items)

theorem PlainCalls.u64_writes {n : Nat} (small : n < 2 ^ 64) :
    Encoder.Writes PlainCalls.u64 (.int n) (Bcs.le 8 n) := by
  intro output
  rw [u64, if_pos (by omega), Int.toNat_natCast]
  rfl

theorem plainCalls_layout : plainCalls.Layout where
  struct _ _ := rfl
  u64 _ small := PlainCalls.u64_writes small
  bool _ _ := rfl
  str _ _ := rfl
  toBytes _ _ := rfl
  sequence := by
    intro α encoder toPy write writes items output
    -- the length is out; each item then adds its own bytes
    have loop : ∀ output, ((items.map toPy).forM encoder).run output =
        .ok ((), output ++ items.flatMap write) := by
      induction items with
      | nil =>
        intro output
        rw [List.flatMap_nil, List.append_nil]
        rfl
      | cons a items ih =>
        intro output
        change (encoder (toPy a) >>= fun _ => (items.map toPy).forM encoder).run output = _
        rw [StateT.run_bind, writes a output]
        change ((items.map toPy).forM encoder).run (output ++ write a) = _
        rw [ih, List.flatMap_cons, List.append_assoc]
    change ((items.map toPy).forM encoder).run
      (output ++ Bcs.uleb128 (items.map toPy).length) = _
    rw [loop, List.length_map, Bcs.writeSequence, List.append_assoc]

section Callers

variable {T : Type} {sdk : CallSdk T Value}

/-- A new account's owners, threshold, metadata and timeout, as the chain reads them. -/
theorem createCreateMultisigAccountEntryFunc_eq (doc : sdk.Documented) (layout : sdk.Layout)
    (one : defaultModuleAddr sdk = .ok (smallAddress 1)) (owners : List AccountAddress)
    {threshold timeout : Nat} (keys : List String) (values : List Bytes)
    (hthreshold : threshold < 2 ^ 64) (htimeout : timeout < 2 ^ 64) :
    createCreateMultisigAccountEntryFunc sdk owners threshold keys values timeout = .ok {
      module := ⟨smallAddress 1, "multisig_account"⟩
      function := "create_with_owners"
      tyArgs := []
      args := [Bcs.writeSequence AccountAddress.bytes owners, Bcs.le 8 threshold,
        Bcs.writeSequence Bcs.writeText keys, Bcs.writeSequence Bcs.writeBytes values,
        Bcs.le 8 timeout] } := by
  rw [createCreateMultisigAccountEntryFunc, one, ok_bind]
  apply (createEntryFunc_eq_ok_iff doc (by decide)).mpr
  refine ⟨by simp, rfl, rfl, rfl, ?_⟩
  exact .cons (layout.sequence layout.struct owners).encode
    (.cons (layout.u64 threshold hthreshold).encode
    (.cons (layout.sequence layout.str keys).encode
    (.cons (layout.sequence layout.toBytes values).encode
    (.cons (layout.u64 timeout htimeout).encode .nil))))

/-- A vote names the account, the proposal and the decision. -/
theorem createVoteMultisigTxEntryFunc_eq (doc : sdk.Documented) (layout : sdk.Layout)
    (one : defaultModuleAddr sdk = .ok (smallAddress 1)) (a : AccountAddress) {seqNum : Nat}
    (hseqNum : seqNum < 2 ^ 64) (approved : Bool) :
    createVoteMultisigTxEntryFunc sdk a seqNum approved = .ok {
      module := ⟨smallAddress 1, "multisig_account"⟩
      function := "vote_transanction"
      tyArgs := []
      args := [a.bytes, Bcs.le 8 seqNum, [if approved then 1 else 0]] } := by
  rw [createVoteMultisigTxEntryFunc, one, ok_bind]
  apply (createEntryFunc_eq_ok_iff doc (by decide)).mpr
  refine ⟨by simp, rfl, rfl, rfl, ?_⟩
  exact .cons (layout.struct a).encode
    (.cons (layout.u64 seqNum hseqNum).encode
    (.cons (layout.bool approved).encode .nil))

end Callers

end SupraFromScratch.Client
