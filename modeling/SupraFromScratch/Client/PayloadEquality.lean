/-
# Client.PayloadEquality — which payloads compare equal

`TransactionPayload.__eq__` compares the variants and then the values with `==`.
What that does is up to the class of the values: scripts and entry functions
compare field by field, in the SDK, while `Multisig` defines no `__eq__` and so
compares by object identity.  Equality is therefore modelled on objects, with the
identity of each payload's value, and not on contents alone.

`eq_iff_serialize_iff` says when `==` on payloads is equality of their encodings:
unless the two hold different multisig objects of equal contents.  A payload that
was just decoded always holds a new object, so a multisig payload never equals
what its own encoding decodes to.
-/
import SupraFromScratch.Client.TransactionPayload

namespace SupraFromScratch.Client

set_option autoImplicit false

open SupraFromScratch.Theory

/-! ## Objects and their identity -/

/-- The `__eq__` of the SDK's two classes of values. -/
structure SdkEq (T A : Type) where
  script : Script T A → Script T A → Bool
  entryFunction : EntryFunction T → EntryFunction T → Bool

/-- They compare field by field. -/
structure SdkEq.FieldByField {T A : Type} (sdkEq : SdkEq T A) : Prop where
  script : ∀ s s', sdkEq.script s s' = true ↔ s = s'
  entryFunction : ∀ e e', sdkEq.entryFunction e e' = true ↔ e = e'

abbrev ObjectId := Nat

/-- The payload values of a process, by the identity of the object. -/
abbrev Memory (T A : Type) := ObjectId → PayloadValue T A

/-- A payload in a process: its variant, and which object its value is. -/
structure PayloadObject {T A : Type} (mem : Memory T A) where
  variant : Nat
  value : ObjectId
  variant_eq : TransactionPayload.variantOf (mem value).cls = .ok variant

section Equality

variable {T A : Type} (sdkEq : SdkEq T A) {mem : Memory T A}

/-- `==` on two values.  Without an `__eq__` for both, it is identity. -/
def valueEq (mem : Memory T A) (x y : ObjectId) : Bool :=
  match mem x, mem y with
  | .script s, .script s' => sdkEq.script s s'
  | .entryFunction e, .entryFunction e' => sdkEq.entryFunction e e'
  | _, _ => x == y

namespace PayloadObject

/-- `__eq__`. -/
def eq (p q : PayloadObject mem) : Bool :=
  p.variant == q.variant && valueEq sdkEq mem p.value q.value

/-- What the payload holds, whichever object holds it. -/
def content (p : PayloadObject mem) : TransactionPayload T A := ⟨p.variant, mem p.value, p.variant_eq⟩

/-- Two different multisig objects of equal contents. -/
def HoldCopies (p q : PayloadObject mem) : Prop :=
  p.value ≠ q.value ∧ ∃ m, mem p.value = .multisig m ∧ mem q.value = .multisig m

end PayloadObject

end Equality

/-- An encoding decodes to nothing but the payload encoded. -/
theorem eq_of_deserialize_serialize {T A : Type} {sdk : Sdk T A} (trips : sdk.RoundTrips)
    {p q : TransactionPayload T A} {rest : Bytes}
    (decoded : (TransactionPayload.deserialize sdk).run (p.serialize sdk) = .ok (q, rest)) :
    q = p := by
  obtain ⟨after, variant, value⟩ := TransactionPayload.deserialize_eq_ok.mp decoded
  have written := trips.uleb128 p.variant (p.value.serialize sdk)
  rw [TransactionPayload.serialize, written] at variant
  simp only [Except.ok.injEq, Prod.mk.injEq] at variant
  obtain ⟨variants, rfl⟩ := variant
  have reads := p.value.readsFrom_serialize trips []
  rw [List.append_nil] at reads
  exact TransactionPayload.ext (PayloadValue.eq_of_readsFrom
    (TransactionPayload.cls_eq_of_variant_eq variants.symm) value reads)

/-! ## What `==` says -/

section Says

variable {T A : Type} {sdkEq : SdkEq T A} (fields : sdkEq.FieldByField) {mem : Memory T A}

include fields

/-- On values, `==` is equality of contents, and of identity for a multisig. -/
theorem valueEq_iff (x y : ObjectId) :
    valueEq sdkEq mem x y = true ↔
      mem x = mem y ∧ ∀ m, mem x = .multisig m → x = y := by
  unfold valueEq
  have identity : (x == y) = true → mem x = mem y := fun same => by rw [beq_iff_eq.mp same]
  cases hx : mem x <;> cases hy : mem y
  case script.script s s' => simp [fields.script]
  case entryFunction.entryFunction e e' => simp [fields.entryFunction]
  case multisig.multisig m m' =>
    rw [hx, hy] at identity
    simp only [beq_iff_eq, PayloadValue.multisig.injEq] at identity ⊢
    exact ⟨fun same => ⟨identity same, fun _ _ => same⟩, fun same => same.2 m rfl⟩
  all_goals
    rw [hx, hy] at identity
    refine ⟨fun same => absurd (identity same) (by simp), fun same => absurd same.1 (by simp)⟩

theorem PayloadObject.eq_iff (p q : PayloadObject mem) :
    p.eq sdkEq q = true ↔ p.content = q.content ∧ ¬ p.HoldCopies q := by
  have contents : p.content = q.content ↔ mem p.value = mem q.value :=
    ⟨congrArg TransactionPayload.value, fun same => TransactionPayload.ext same⟩
  have variants : p.content = q.content → p.variant = q.variant :=
    congrArg TransactionPayload.variant
  rw [eq, Bool.and_eq_true, beq_iff_eq, valueEq_iff fields]
  constructor
  · rintro ⟨-, same, identity⟩
    refine ⟨contents.mpr same, ?_⟩
    rintro ⟨different, m, held, -⟩
    exact different (identity m held)
  · rintro ⟨same, noCopies⟩
    refine ⟨variants same, contents.mp same, fun m held => ?_⟩
    by_contra different
    exact noCopies ⟨different, m, held, (contents.mp same) ▸ held⟩

/-- **Equal payloads and equal encodings.**  Two payloads compare equal exactly
when they encode alike, unless they hold two multisig objects of equal contents;
and what an encoding decodes to, a new object, compares equal to the payload
exactly when that is no multisig. -/
theorem eq_iff_serialize_iff {sdk : Sdk T A} (trips : sdk.RoundTrips) (p q : PayloadObject mem) :
    ((p.eq sdkEq q = true ↔ p.content.serialize sdk = q.content.serialize sdk) ↔
      ¬ p.HoldCopies q) ∧
    ∀ rest, (TransactionPayload.deserialize sdk).run (p.content.serialize sdk) =
        .ok (q.content, rest) → q.value ≠ p.value →
      (q.eq sdkEq p = true ↔ ∀ m, mem p.value ≠ .multisig m) := by
  rw [PayloadObject.eq_iff fields, PayloadObject.eq_iff fields,
    TransactionPayload.serialize_inj trips]
  refine ⟨?_, fun rest decoded new => ?_⟩
  · constructor
    · intro agree copies
      have same : p.content = q.content := by
        obtain ⟨-, m, hp, hq⟩ := copies
        exact TransactionPayload.ext (hp.trans hq.symm)
      exact (agree.mpr same).2 copies
    · exact fun noCopies => and_iff_left noCopies
  · have same : q.content = p.content := eq_of_deserialize_serialize trips decoded
    have held : mem q.value = mem p.value := congrArg TransactionPayload.value same
    constructor
    · rintro ⟨-, noCopies⟩ m hm
      exact noCopies ⟨new, m, held.trans hm, hm⟩
    · intro other
      refine ⟨same, ?_⟩
      rintro ⟨-, m, -, hm⟩
      exact other m hm

end Says

/-! ### The same execution, built twice -/

/-- Classes that compare field by field. -/
def sampleEq : SdkEq TypeTag ScriptArgument where
  script s s' := decide (s = s')
  entryFunction e e' := decide (e = e')

theorem sampleEq_fieldByField : sampleEq.FieldByField where
  script _ _ := decide_eq_true_iff
  entryFunction _ _ := decide_eq_true_iff

/-- Every object is the execution of one approved transfer. -/
def sampleMemory : Memory TypeTag ScriptArgument := fun _ =>
  .multisig ⟨smallAddress 7, some ⟨sampleTransfer 20⟩⟩

def samplePayload (value : ObjectId) : PayloadObject sampleMemory where
  variant := TransactionPayload.MULTISIG
  value := value
  variant_eq := rfl

theorem eq_iff_serialize_iff_copies :
    let p := samplePayload 0
    let q := samplePayload 1
    ((p.eq sampleEq q = true ↔ p.content.serialize bcsSdk = q.content.serialize bcsSdk) ↔
      ¬ p.HoldCopies q) ∧
    ∀ rest, (TransactionPayload.deserialize bcsSdk).run (p.content.serialize bcsSdk) =
        .ok (q.content, rest) → q.value ≠ p.value →
      (q.eq sampleEq p = true ↔ ∀ m, sampleMemory p.value ≠ .multisig m) :=
  eq_iff_serialize_iff sampleEq_fieldByField bcsSdk_roundTrips (samplePayload 0) (samplePayload 1)

/-- Two executions of one transfer encode alike and do not compare equal. -/
theorem copies_differ : ¬ ∀ (mem : Memory TypeTag ScriptArgument) (p q : PayloadObject mem),
    p.eq sampleEq q = true ↔ p.content.serialize bcsSdk = q.content.serialize bcsSdk := by
  intro agree
  have alike := agree sampleMemory (samplePayload 0) (samplePayload 1)
  have differ : (samplePayload 0).eq sampleEq (samplePayload 1) = false := rfl
  rw [differ] at alike
  exact Bool.false_ne_true (alike.mpr rfl)

end SupraFromScratch.Client
