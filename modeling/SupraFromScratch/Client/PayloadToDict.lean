/-
# Client.PayloadToDict — the reflective JSON converter

`payload_to_dict` walks an object's attribute dictionary and decides, attribute
by attribute, from its name, its class and whether it has a `__dict__` of its
own.  It is modelled on untyped values, with the source's tests in the source's
order, and applied to the objects the client's typed values are (`toPy`).

The equations at the end say what the converter makes of each of them.  Two
attributes fall through every test: a list of type tags and a script's code are
stored as they are.
-/
import SupraFromScratch.Client.TransactionPayload

namespace SupraFromScratch.Client

set_option autoImplicit false

open SupraFromScratch.Theory

/-! ## The objects -/

section Objects

variable {T A : Type} (sdk : Sdk T A)

def AccountAddress.toPy (a : AccountAddress) : Value :=
  .obj .accountAddress [("address", .bytes a.bytes)]

def ModuleId.toPy (m : ModuleId) : Value :=
  .obj .moduleId [("address", m.address.toPy), ("name", .str m.name)]

def tyArgsToPy (tyArgs : List T) : Value :=
  .list (tyArgs.map fun t => .obj .typeTag (sdk.typeTagAttrs t))

def EntryFunction.toPy (e : EntryFunction T) : Value :=
  .obj .entryFunction [("module", e.module.toPy), ("function", .str e.function),
    ("ty_args", tyArgsToPy sdk e.tyArgs), ("args", .list (e.args.map .bytes))]

def Script.toPy (s : Script T A) : Value :=
  .obj .script [("code", .bytes s.code), ("ty_args", tyArgsToPy sdk s.tyArgs),
    ("args", .list (s.args.map fun a => .obj .scriptArgument (sdk.scriptArgumentAttrs a)))]

def MultiSigTransactionPayload.toPy (p : MultiSigTransactionPayload T) : Value :=
  .obj .multiSigTransactionPayload [("transaction_payload", p.transactionPayload.toPy sdk)]

def Multisig.toPy (m : Multisig T) : Value :=
  .obj .multisig [("multisig_address", m.multisigAddress.toPy),
    ("transaction_payload", match m.transactionPayload with
      | some p => p.toPy sdk
      | none => .none)]

def PayloadValue.toPy : PayloadValue T A → Value
  | .script s => s.toPy sdk
  | .entryFunction e => e.toPy sdk
  | .multisig m => m.toPy sdk

def TransactionPayload.toPy (p : TransactionPayload T A) : Value :=
  .obj .transactionPayload [("variant", .int p.variant), ("value", p.value.toPy sdk)]

/-- The constructor's attributes, and the prehash method bound to the object. -/
def RawTransaction.toPy (t : RawTransaction (TransactionPayload T A)) : Value :=
  .obj .rawTransaction [("sender", t.sender.toPy), ("sequence_number", .int t.sequenceNumber),
    ("payload", t.payload.toPy sdk), ("max_gas_amount", .int t.maxGasAmount),
    ("gas_unit_price", .int t.gasUnitPrice),
    ("expiration_timestamps_secs", .int t.expirationTimestampsSecs), ("chain_id", t.chainId),
    ("prehash", .obj .boundMethod [])]

end Objects

/-! ## The converter -/

section Converter

variable (addressStr : Bytes → String)

/-- `str()` of an address object. -/
def strOfAddress (attrs : Attrs) : Except PyError String := do
  match ← PyVal.getAttr "address" attrs with
  | .bytes b => return addressStr b
  | _ => throw (.typeError "address is not bytes")

/-- The tag a payload's value is stored under. -/
def payloadTag : Value → Except PyError String
  | .obj .entryFunction _ => return "EntryFunction"
  | .obj .multisig _ => return "Multisig"
  | .obj .script _ => return "Script"
  | _ => throw (.exception "Unknown payload type")

/-- A name the converter skips. -/
def isSkipped (k : String) : Bool := k.toList.head? == some '_' || k == "prehash"

/-- `list(item)`, as a value. -/
def listOf (item : Value) : Except PyError Value := do
  return .list (← PyVal.iterate item)

mutual

/-- `payload_to_dict`.  An object without a `__dict__` raises. -/
def payloadToDict : Value → Except PyError Value
  | .obj _ attrs => do
    let result ← itemsToDict attrs []
    return .dict result
  | _ => throw (.attributeError "__dict__")
termination_by structural v => v

/-- The loop over `obj.__dict__.items()`, with the dictionary built so far. -/
def itemsToDict : Attrs → Attrs → Except PyError Attrs
  | [], result => return result
  | (k, v) :: rest, result =>
    if isSkipped k then itemsToDict rest result
    else
      match v with
      | .obj .transactionPayload attrs => do
        let d ← attrToDict "value" payloadTag attrs
        itemsToDict rest (PyVal.setItem k d result)
      | .obj .multiSigTransactionPayload attrs => do
        let d ← attrToDict "transaction_payload" (fun _ => return "EntryFunction") attrs
        itemsToDict rest (PyVal.setItem k d result)
      | .obj .accountAddress attrs => do
        let s ← strOfAddress addressStr attrs
        itemsToDict rest (PyVal.setItem k (.str s) result)
      | v =>
        if k = "args" then do
          let items ← PyVal.iterate v
          let lists ← items.mapM listOf
          itemsToDict rest (PyVal.setItem k (.list lists) result)
        else if k = "expiration_timestamps_secs" then
          itemsToDict rest (PyVal.setItem "expiration_timestamp_secs" v result)
        else
          match v with
          | .obj _ attrs => do
            let nested ← itemsToDict attrs [] -- recursively handle nested objects
            itemsToDict rest (PyVal.setItem k (.dict nested) result)
          | v => itemsToDict rest (PyVal.setItem k v result)
termination_by structural attrs => attrs

/-- The attribute `name`, converted, as the only entry of a dictionary under the
tag `tag` gives it. -/
def attrToDict (name : String) (tag : Value → Except PyError String) :
    Attrs → Except PyError Value
  | [] => throw (.attributeError name)
  | (k, v) :: rest =>
    if k = name then do
      let t ← tag v
      let d ← payloadToDict v
      return .dict [(t, d)]
    else attrToDict name tag rest
termination_by structural attrs => attrs

end

-- The equations of the three functions are long: they are generated here, once,
-- and not by each of the lemmas that unfold one.
section

attribute [local simp] payloadToDict itemsToDict attrToDict

end

end Converter

/-! ## What it makes of each object -/

section Equations

variable {T A : Type} (sdk : Sdk T A)

def ModuleId.toDict (m : ModuleId) : Value :=
  .dict [("address", .str (sdk.addressStr m.address.bytes)), ("name", .str m.name)]

def EntryFunction.toDict (e : EntryFunction T) : Value :=
  .dict [("module", e.module.toDict sdk), ("function", .str e.function),
    ("ty_args", tyArgsToPy sdk e.tyArgs), ("args", .list (e.args.map PyVal.ofBytes))]

def Multisig.toDict (m : Multisig T) : Value :=
  .dict [("multisig_address", .str (sdk.addressStr m.multisigAddress.bytes)),
    ("transaction_payload", match m.transactionPayload with
      | some p => .dict [("EntryFunction", p.transactionPayload.toDict sdk)]
      | none => .none)]

/-- Without arguments the code and the type arguments are copied; `list` of a
script argument raises. -/
def Script.toDict (s : Script T A) : Except PyError Value :=
  match s.args with
  | [] => .ok (.dict [("code", .bytes s.code), ("ty_args", tyArgsToPy sdk s.tyArgs),
      ("args", .list [])])
  | _ :: _ => .error (.typeError "object is not iterable")

def PayloadValue.toDict : PayloadValue T A → Except PyError Value
  | .script s => do return .dict [("Script", ← s.toDict sdk)]
  | .entryFunction e => .ok (.dict [("EntryFunction", e.toDict sdk)])
  | .multisig m => .ok (.dict [("Multisig", m.toDict sdk)])

/-- The dictionary of a transaction around the dictionary of its payload. -/
def RawTransaction.toDict {P : Type} (t : RawTransaction P) (payload : Value) : Value :=
  .dict [("sender", .str (sdk.addressStr t.sender.bytes)),
    ("sequence_number", .int t.sequenceNumber), ("payload", payload),
    ("max_gas_amount", .int t.maxGasAmount), ("gas_unit_price", .int t.gasUnitPrice),
    ("expiration_timestamp_secs", .int t.expirationTimestampsSecs), ("chain_id", t.chainId)]

theorem listOf_args (args : List Bytes) :
    (args.map PyVal.bytes).mapM listOf = .ok (args.map PyVal.ofBytes) := by
  induction args with
  | nil => rfl
  | cons arg args ih =>
    rw [List.map_cons, List.mapM_cons, ih]
    rfl

/-! ### One attribute -/

/-- A name with no case of its own. -/
def isOrdinary (k : String) : Bool :=
  !isSkipped k && k != "args" && k != "expiration_timestamps_secs"

theorem isOrdinary_iff {k : String} : isOrdinary k = true ↔
    isSkipped k = false ∧ k ≠ "args" ∧ k ≠ "expiration_timestamps_secs" := by
  simp [isOrdinary, and_assoc]

variable (rest result : Attrs)

theorem itemsToDict_skipped {k : String} (skipped : isSkipped k = true) (v : Value) :
    itemsToDict sdk.addressStr ((k, v) :: rest) result =
      itemsToDict sdk.addressStr rest result := by
  cases v with
  | obj cls attrs => cases cls <;> simp [itemsToDict, skipped]
  | _ => simp [itemsToDict, skipped]

theorem itemsToDict_address {k : String} (kept : isSkipped k = false) (a : AccountAddress) :
    itemsToDict sdk.addressStr ((k, a.toPy) :: rest) result =
      itemsToDict sdk.addressStr rest
        (PyVal.setItem k (.str (sdk.addressStr a.bytes)) result) := by
  rw [AccountAddress.toPy, itemsToDict, kept]
  rfl

/-- Plain data under an ordinary name is stored as it is. -/
theorem itemsToDict_plain {k : String} (ordinary : isOrdinary k = true) {v : Value}
    (plain : ∀ cls attrs, v ≠ .obj cls attrs) :
    itemsToDict sdk.addressStr ((k, v) :: rest) result =
      itemsToDict sdk.addressStr rest (PyVal.setItem k v result) := by
  obtain ⟨kept, notArgs, notExpiry⟩ := isOrdinary_iff.mp ordinary
  cases v with
  | obj cls attrs => exact absurd rfl (plain cls attrs)
  | _ => simp [itemsToDict, kept, notArgs, notExpiry]

theorem itemsToDict_args (args : List Bytes) :
    itemsToDict sdk.addressStr (("args", .list (args.map .bytes)) :: rest) result =
      itemsToDict sdk.addressStr rest
        (PyVal.setItem "args" (.list (args.map PyVal.ofBytes)) result) := by
  have kept : isSkipped "args" = false := by decide
  simp only [itemsToDict, kept, Bool.false_eq_true, if_false, if_true, PyVal.iterate]
  change ((args.map PyVal.bytes).mapM listOf >>= _) = _
  rw [listOf_args]
  rfl

theorem itemsToDict_expiration (i : Int) :
    itemsToDict sdk.addressStr (("expiration_timestamps_secs", .int i) :: rest) result =
      itemsToDict sdk.addressStr rest
        (PyVal.setItem "expiration_timestamp_secs" (.int i) result) := by
  have kept : isSkipped "expiration_timestamps_secs" = false := by decide
  simp [itemsToDict, kept]

/-- An object of a class without a case of its own becomes a dictionary. -/
theorem itemsToDict_moduleId {k : String} (ordinary : isOrdinary k = true) (m : ModuleId) :
    itemsToDict sdk.addressStr ((k, m.toPy) :: rest) result =
      itemsToDict sdk.addressStr rest (PyVal.setItem k (m.toDict sdk) result) := by
  obtain ⟨kept, notArgs, notExpiry⟩ := isOrdinary_iff.mp ordinary
  have nested : itemsToDict sdk.addressStr
      [("address", m.address.toPy), ("name", .str m.name)] [] =
      .ok [("address", .str (sdk.addressStr m.address.bytes)), ("name", .str m.name)] := by
    rw [itemsToDict_address sdk _ _ (by decide), itemsToDict_plain sdk _ _ (by decide) (by simp)]
    rfl
  simp only [ModuleId.toPy, itemsToDict, kept, Bool.false_eq_true, if_false, notArgs, notExpiry,
    nested]
  rfl

/-! ### One object -/

theorem payloadToDict_entryFunction (e : EntryFunction T) :
    payloadToDict sdk.addressStr (e.toPy sdk) = .ok (e.toDict sdk) := by
  rw [EntryFunction.toPy, payloadToDict, itemsToDict_moduleId sdk _ _ (by decide),
    itemsToDict_plain sdk _ _ (by decide) (by simp),
    itemsToDict_plain sdk _ _ (by decide) (by simp [tyArgsToPy]), itemsToDict_args]
  rfl

theorem payloadToDict_multisig (m : Multisig T) :
    payloadToDict sdk.addressStr (m.toPy sdk) = .ok (m.toDict sdk) := by
  obtain ⟨address, payload⟩ := m
  rw [Multisig.toPy, payloadToDict, itemsToDict_address sdk _ _ (by decide)]
  cases payload with
  | none =>
    rw [itemsToDict_plain sdk _ _ (by decide) (by simp)]
    rfl
  | some p =>
    simp only [MultiSigTransactionPayload.toPy]
    rw [itemsToDict, if_neg (by decide)]
    simp only [attrToDict, if_true, payloadToDict_entryFunction]
    rfl

theorem payloadToDict_script (s : Script T A) :
    payloadToDict sdk.addressStr (s.toPy sdk) = s.toDict sdk := by
  obtain ⟨code, tyArgs, args⟩ := s
  rw [Script.toPy, payloadToDict, itemsToDict_plain sdk _ _ (by decide) (by simp),
    itemsToDict_plain sdk _ _ (by decide) (by simp [tyArgsToPy])]
  have kept : isSkipped "args" = false := by decide
  cases args with
  | nil => rfl
  | cons a as =>
    simp only [List.map_cons, itemsToDict, kept, Bool.false_eq_true, if_false, if_true]
    rfl

/-- The value under its own tag, as the dictionary's entry for the payload. -/
theorem itemsToDict_payload {k : String} (kept : isSkipped k = false) (p : TransactionPayload T A) :
    itemsToDict sdk.addressStr ((k, p.toPy sdk) :: rest) result = (do
      let d ← p.value.toDict sdk
      itemsToDict sdk.addressStr rest (PyVal.setItem k d result)) := by
  rw [TransactionPayload.toPy, itemsToDict, kept, if_neg Bool.false_ne_true]
  have notVariant : ("variant" = "value") = False := by decide
  simp only [attrToDict, notVariant, if_true, if_false]
  cases p.value with
  | script s =>
    change (payloadToDict sdk.addressStr (s.toPy sdk) >>= fun d => _) >>= _ = _
    rw [payloadToDict_script, PayloadValue.toDict]
  | entryFunction e =>
    change (payloadToDict sdk.addressStr (e.toPy sdk) >>= fun d => _) >>= _ = _
    rw [payloadToDict_entryFunction]
    rfl
  | multisig m =>
    change (payloadToDict sdk.addressStr (m.toPy sdk) >>= fun d => _) >>= _ = _
    rw [payloadToDict_multisig]
    rfl

/-- **A transaction's dictionary**: every field once, the expiry under the wire's
name for it, the prehash left out. -/
theorem payloadToDict_rawTransaction (t : RawTransaction (TransactionPayload T A))
    (plain : ∀ cls attrs, t.chainId ≠ .obj cls attrs) :
    payloadToDict sdk.addressStr (t.toPy sdk) = (do
      let d ← t.payload.value.toDict sdk
      return t.toDict sdk d) := by
  rw [RawTransaction.toPy, payloadToDict, itemsToDict_address sdk _ _ (by decide),
    itemsToDict_plain sdk _ _ (by decide) (by simp), itemsToDict_payload sdk _ _ (by decide)]
  cases t.payload.value.toDict sdk with
  | error e => rfl
  | ok d =>
    change (itemsToDict _ _ _ >>= fun result => pure (PyVal.dict result)) = _
    rw [itemsToDict_plain sdk _ _ (by decide) (by simp),
      itemsToDict_plain sdk _ _ (by decide) (by simp), itemsToDict_expiration,
      itemsToDict_plain sdk _ _ (by decide) plain, itemsToDict_skipped sdk _ _ (by decide)]
    rfl

end Equations

/-! ## Which dictionaries are JSON -/

/-- No script, and no type arguments on the entry function carried, if any. -/
def PayloadValue.isPlain {T A : Type} : PayloadValue T A → Bool
  | .script _ => false
  | .entryFunction e => e.tyArgs.isEmpty
  | .multisig m => m.transactionPayload.all fun p => p.transactionPayload.tyArgs.isEmpty

namespace PayloadValue

variable {T A : Type}

theorem isPlain_entryFunction {e : EntryFunction T} :
    (entryFunction e : PayloadValue T A).isPlain = true ↔ e.tyArgs = [] :=
  List.isEmpty_iff

theorem isPlain_multisig {a : AccountAddress} {e : EntryFunction T} :
    (multisig ⟨a, some ⟨e⟩⟩ : PayloadValue T A).isPlain = true ↔ e.tyArgs = [] :=
  List.isEmpty_iff

end PayloadValue

section Json

variable {T A : Type} {sdk : Sdk T A}

open PyVal (isJsonWith isJsonListWith isJsonItemsWith)

variable (floats : PyFloat → Bool)

theorem tyArgsToPy_isJsonWith (tyArgs : List T) :
    (tyArgsToPy sdk tyArgs).isJsonWith floats = tyArgs.isEmpty := by
  cases tyArgs <;> simp [tyArgsToPy, isJsonWith, isJsonListWith]

theorem EntryFunction.toDict_isJsonWith (e : EntryFunction T) :
    (e.toDict sdk).isJsonWith floats = e.tyArgs.isEmpty := by
  have args : isJsonListWith floats (e.args.map PyVal.ofBytes : List Value) = true :=
    PyVal.isJsonListWith_eq_true.mpr (by simp)
  simp [EntryFunction.toDict, ModuleId.toDict, isJsonWith, isJsonItemsWith, tyArgsToPy_isJsonWith,
    args]

theorem Multisig.toDict_isJsonWith (m : Multisig T) :
    (m.toDict sdk).isJsonWith floats =
      m.transactionPayload.all fun p => p.transactionPayload.tyArgs.isEmpty := by
  obtain ⟨address, payload⟩ := m
  cases payload <;>
    simp [Multisig.toDict, isJsonWith, isJsonItemsWith, EntryFunction.toDict_isJsonWith]

/-- A script's code is left as bytes. -/
theorem Script.toDict_isJsonWith {s : Script T A} {d : Value} (converted : s.toDict sdk = .ok d) :
    d.isJsonWith floats = false := by
  unfold Script.toDict at converted
  split at converted
  · cases converted
    simp [isJsonWith, isJsonItemsWith]
  · cases converted

/-- The payload's dictionary is JSON exactly for the plain payloads; there is no
float in it. -/
theorem PayloadValue.toDict_isJsonWith_iff (sdk : Sdk T A) (v : PayloadValue T A) :
    (∃ d, v.toDict sdk = .ok d ∧ d.isJsonWith floats = true) ↔ v.isPlain = true := by
  cases v with
  | script s =>
    refine ⟨?_, fun plain => absurd plain (by simp [isPlain])⟩
    rintro ⟨d, converted, json⟩
    cases inner : s.toDict sdk with
    | error e => simp [toDict, inner] at converted
    | ok code =>
      have notJson := Script.toDict_isJsonWith floats inner
      simp only [toDict, inner] at converted
      cases converted
      simp [isJsonWith, isJsonItemsWith, notJson] at json
  | entryFunction e =>
    simp [toDict, isJsonWith, isJsonItemsWith, EntryFunction.toDict_isJsonWith, isPlain]
  | multisig m =>
    simp [toDict, isJsonWith, isJsonItemsWith, Multisig.toDict_isJsonWith, isPlain]

theorem RawTransaction.toDict_isJsonWith {P : Type} (t : RawTransaction P) (d : Value) :
    (t.toDict sdk d).isJsonWith floats =
      (d.isJsonWith floats && t.chainId.isJsonWith floats) := by
  simp [RawTransaction.toDict, isJsonWith, isJsonItemsWith]

end Json

/-! ## Dictionaries compared -/

section Compare

variable {T A : Type} {sdk : Sdk T A} (prints : sdk.PrintsInjectively)

include prints

theorem eq_addressStr {a b : AccountAddress} :
    (sdk.addressStr a.bytes == sdk.addressStr b.bytes) = true ↔ a = b := by
  rw [beq_iff_eq]
  exact ⟨prints a b, fun same => by rw [same]⟩

theorem EntryFunction.eq_toDict {e e' : EntryFunction T} (plain : e.tyArgs = [])
    (plain' : e'.tyArgs = []) :
    PyVal.eq (e.toDict sdk) (e'.toDict sdk) = true ↔ e = e' := by
  obtain ⟨⟨address, name⟩, function, tyArgs, args⟩ := e
  obtain ⟨⟨address', name'⟩, function', tyArgs', args'⟩ := e'
  cases plain
  cases plain'
  have same : PyVal.eqList (args.map PyVal.ofBytes : List Value) (args'.map PyVal.ofBytes) = true ↔
      args = args' := PyVal.eqList_map_iff (fun _ _ => PyVal.eq_ofBytes) args args'
  simp [EntryFunction.toDict, ModuleId.toDict, tyArgsToPy, PyVal.eq, PyVal.eqItems, PyVal.eqList,
    List.lookup_cons, eq_addressStr prints, same, and_assoc]

theorem Multisig.eq_toDict {m m' : Multisig T}
    (plain : (PayloadValue.multisig m : PayloadValue T A).isPlain = true)
    (plain' : (PayloadValue.multisig m' : PayloadValue T A).isPlain = true) :
    PyVal.eq (m.toDict sdk) (m'.toDict sdk) = true ↔ m = m' := by
  obtain ⟨address, payload⟩ := m
  obtain ⟨address', payload'⟩ := m'
  have addresses : (sdk.addressStr address.bytes == sdk.addressStr address'.bytes) = true ↔
      address = address' := eq_addressStr prints
  cases payload with
  | none =>
    cases payload' <;>
      simp [Multisig.toDict, PyVal.eq, PyVal.eqItems, List.lookup_cons, addresses]
  | some p =>
    obtain ⟨e⟩ := p
    cases payload' with
    | none => simp [Multisig.toDict, PyVal.eq, PyVal.eqItems, List.lookup_cons]
    | some p' =>
      obtain ⟨e'⟩ := p'
      have inner : PyVal.eq (e.toDict sdk) (e'.toDict sdk) = true ↔ e = e' :=
        EntryFunction.eq_toDict prints (PayloadValue.isPlain_multisig.mp plain)
          (PayloadValue.isPlain_multisig.mp plain')
      simp [Multisig.toDict, PyVal.eq, PyVal.eqItems, List.lookup_cons, addresses, inner]

/-- Plain payloads have equal dictionaries only when they are equal. -/
theorem PayloadValue.eq_toDict {v v' : PayloadValue T A} (plain : v.isPlain = true)
    (plain' : v'.isPlain = true) {d d' : Value} (converted : v.toDict sdk = .ok d)
    (converted' : v'.toDict sdk = .ok d') : PyVal.eq d d' = true ↔ v = v' := by
  cases v with
  | script s => simp [isPlain] at plain
  | entryFunction e =>
    cases converted
    cases v' with
    | script s => simp [isPlain] at plain'
    | entryFunction e' =>
      cases converted'
      have inner : PyVal.eq (e.toDict sdk) (e'.toDict sdk) = true ↔ e = e' :=
        EntryFunction.eq_toDict prints (isPlain_entryFunction.mp plain)
          (isPlain_entryFunction.mp plain')
      simp [PyVal.eq, PyVal.eqItems, inner]
    | multisig m' =>
      cases converted'
      simp [PyVal.eq, PyVal.eqItems, List.lookup_cons]
  | multisig m =>
    cases converted
    cases v' with
    | script s => simp [isPlain] at plain'
    | entryFunction e' =>
      cases converted'
      simp [PyVal.eq, PyVal.eqItems, List.lookup_cons]
    | multisig m' =>
      cases converted'
      simp [PyVal.eq, PyVal.eqItems, Multisig.eq_toDict (A := A) prints plain plain']

/-- Two transactions' dictionaries agree exactly field by field. -/
theorem RawTransaction.eq_toDict {P Q : Type} {t : RawTransaction P} {t' : RawTransaction Q}
    {d d' : Value} :
    PyVal.eq (t.toDict sdk d) (t'.toDict sdk d') = true ↔
      t.sender = t'.sender ∧ t.sequenceNumber = t'.sequenceNumber ∧ PyVal.eq d d' = true ∧
        t.maxGasAmount = t'.maxGasAmount ∧ t.gasUnitPrice = t'.gasUnitPrice ∧
        t.expirationTimestampsSecs = t'.expirationTimestampsSecs ∧
        PyVal.eq t.chainId t'.chainId = true := by
  have senders : (sdk.addressStr t.sender.bytes == sdk.addressStr t'.sender.bytes) = true ↔
      t.sender = t'.sender := eq_addressStr prints
  simp [RawTransaction.toDict, PyVal.eq, PyVal.eqItems, List.lookup_cons, senders]

end Compare

end SupraFromScratch.Client
