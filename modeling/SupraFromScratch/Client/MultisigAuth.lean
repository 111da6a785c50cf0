/-
# Client.MultisigAuth — a multisig authenticator, checked twice

`multisig_auth.py`.  The local check reads the signer index kept with each
signature.  The wire form drops the indices: it is the signatures in the order of
the list, followed by a bitmap of the signers, and the node pairs the k-th
signature with the k-th set bit.

`wireAccepts_iff_isAligned` says when the two agree on a list the local check
accepts: no index is negative, no signer signs twice, and every signature stands
at the rank of its signer among the signers, or verifies under the key of the
signer of that rank as well.  A negative index is one the constructor and the
local check take, as Python's `keys[i]` does, and the encoder has no bit for.
Lists of positions in increasing order are always aligned, and the wire form of
such a list is read back as the list (`readSigners_multisigToCryptoBytes`).
-/
import SupraFromScratch.Theory.Bitmap
import SupraFromScratch.Theory.Bcs
import SupraFromScratch.Theory.Python

namespace SupraFromScratch.Client

set_option autoImplicit false

open SupraFromScratch.Theory

/-! ## Keys and signatures -/

/-- A signature, through its `data()`. -/
abbrev Signature := {data : Bytes // data.length = 64}

/-- The constructor refuses indices from 32 on, and no others. -/
structure MultiSignature where
  signatures : List (Int × Signature)
  index_lt : ∀ p ∈ signatures, p.1 < 32

structure MultiPublicKey (K : Type) where
  keys : List K
  threshold : Nat
  length_keys : keys.length ≤ 32

namespace MultiSignature

def BITMAP_NUM_OF_BYTES : Nat := 4

/-- The signatures of signers given by their bits. -/
def ofSigners (signers : List (Nat × Signature)) (below : ∀ p ∈ signers, p.1 < 32) :
    MultiSignature where
  signatures := signers.map fun p => ((p.1 : Int), p.2)
  index_lt p mem := by
    obtain ⟨q, source, rfl⟩ := List.mem_map.mp mem
    exact Int.ofNat_lt.mpr (below q source)

def indices (sig : MultiSignature) : List Int := sig.signatures.map Prod.fst

/-- The bits of the signers, where their indices name bits. -/
def positions (sig : MultiSignature) : List Nat := sig.indices.map Int.toNat

/-- Every index names a bit. -/
def Named (sig : MultiSignature) : Prop := ∀ i ∈ sig.indices, 0 ≤ i

theorem positions_lt (sig : MultiSignature) : ∀ i ∈ sig.positions, i < 32 := by
  intro i mem
  obtain ⟨j, hj, rfl⟩ := List.mem_map.mp mem
  obtain ⟨p, hp, rfl⟩ := List.mem_map.mp hj
  have below := sig.index_lt p hp
  omega

theorem length_positions (sig : MultiSignature) :
    sig.positions.length = sig.signatures.length := by
  simp [positions, indices]

/-- Named signers are told apart by their bits. -/
theorem Named.nodup_positions {sig : MultiSignature} (named : sig.Named) :
    sig.positions.Nodup ↔ sig.indices.Nodup := by
  refine ⟨List.Nodup.of_map _, fun once => once.map_on ?_⟩
  intro i hi j hj same
  have hi' := named i hi
  have hj' := named j hj
  omega

section OfSigners

variable {signers : List (Nat × Signature)} {below : ∀ p ∈ signers, p.1 < 32}

@[simp] theorem positions_ofSigners : (ofSigners signers below).positions = signers.map Prod.fst := by
  simp [positions, indices, ofSigners, Function.comp_def]

theorem named_ofSigners : (ofSigners signers below).Named := by
  intro i mem
  simp only [indices, ofSigners, List.map_map, List.mem_map, Function.comp_apply] at mem
  obtain ⟨p, -, rfl⟩ := mem
  exact Int.natCast_nonneg p.1

end OfSigners

end MultiSignature

/-! ## The encoder -/

/-- `1 << shift`. -/
def shiftOne (shift : Int) : Except PyError Nat :=
  if shift < 0 then throw (.valueError "negative shift count") else return 1 <<< shift.toNat

/-- `n.to_bytes(width, "big")`. -/
def toBytesBig (n width : Nat) : Except PyError Bytes :=
  if n < 256 ^ width then return Bcs.be width n
  else throw (.overflowError "int too big to convert")

/-- One turn of the encoder's loop, on the bitmap and the signature bytes. -/
def addSignature (state : Nat × Bytes) (signature : Int × Signature) :
    Except PyError (Nat × Bytes) := do
  let bit ← shiftOne (31 - signature.1)
  return (state.1 ||| bit, state.2 ++ signature.2.1)

/-- `multisig_to_crypto_bytes`. -/
def multisigToCryptoBytes (sig : MultiSignature) : Except PyError Bytes := do
  let (bitmap, signatureBytes) ← sig.signatures.foldlM addSignature (0, [])
  let bitmapBytes ← toBytesBig bitmap MultiSignature.BITMAP_NUM_OF_BYTES
  return signatureBytes ++ bitmapBytes

/-! ## The two checks -/

section Checks

variable {K : Type} (verifyKey : K → Bytes → Signature → Bool)

/-- `keys[i]` accepts the signature, if there is such a key. -/
def MultiPublicKey.accepts (pk : MultiPublicKey K) (msg : Bytes) (i : Int) (s : Signature) : Bool :=
  match PyVal.getItem pk.keys i with
  | .ok key => verifyKey key msg s
  | .error _ => false

/-- `MultiPublicKey.verify`: each signature under the key of its index.  What is
raised on the way is a refusal. -/
def MultiPublicKey.verify (pk : MultiPublicKey K) (msg : Bytes) (sig : MultiSignature) : Bool :=
  decide (pk.threshold ≤ sig.signatures.length) &&
    sig.signatures.all fun (i, s) => pk.accepts verifyKey msg i s

/-- The wire form's signatures and bitmap. -/
def readMultiSignature (bytes : Bytes) : Option (List Signature × Nat) :=
  if bytes.length < MultiSignature.BITMAP_NUM_OF_BYTES then none
  else
    let body := bytes.take (bytes.length - MultiSignature.BITMAP_NUM_OF_BYTES)
    let bitmap := Bcs.ofBE (bytes.drop (bytes.length - MultiSignature.BITMAP_NUM_OF_BYTES))
    match ((Bcs.fixed () 64).readMany (body.length / 64)).run body with
    | .ok (signatures, []) => some (signatures, bitmap)
    | _ => none

/-- The wire check: as many set bits as signatures, at least the threshold, and
the k-th signature under the key of the k-th set bit from the top. -/
def MultiPublicKey.wireAccepts (pk : MultiPublicKey K) (msg bytes : Bytes) : Bool :=
  match readMultiSignature bytes with
  | none => false
  | some (signatures, bitmap) =>
    let signers := Bitmap.positions 32 bitmap
    signers.length == signatures.length && decide (pk.threshold ≤ signatures.length) &&
      (signers.zip signatures).all fun (i, s) => pk.accepts verifyKey msg i s

end Checks

/-! ## What the encoder writes -/

namespace MultiSignature

/-- The bitmap of some indices.  A negative one shifts past the four bytes. -/
def bitmapOf (indices : List Int) (bitmap : Nat) : Nat :=
  indices.foldl (fun bitmap i => bitmap ||| 1 <<< (31 - i).toNat) bitmap

/-- The loop marks the indices and appends the signatures. -/
theorem foldlM_addSignature :
    ∀ (signatures : List (Int × Signature)), (∀ p ∈ signatures, p.1 < 32) →
      ∀ (bitmap : Nat) (bytes : Bytes),
        signatures.foldlM addSignature (bitmap, bytes) =
          .ok (bitmapOf (signatures.map Prod.fst) bitmap,
            bytes ++ signatures.flatMap fun p => p.2.1)
  | [], _, bitmap, bytes => by
      rw [List.flatMap_nil, List.append_nil]
      rfl
  | (i, s) :: signatures, below, bitmap, bytes => by
      have hi : i < 32 := below (i, s) (by simp)
      have step : addSignature (bitmap, bytes) (i, s) =
          .ok (bitmap ||| 1 <<< (31 - i).toNat, bytes ++ s.1) := by
        unfold addSignature shiftOne
        rw [if_neg (by omega)]
        rfl
      rw [List.foldlM_cons, step]
      have rest := foldlM_addSignature signatures (fun p mem => below p (by simp [mem]))
        (bitmap ||| 1 <<< (31 - i).toNat) (bytes ++ s.1)
      refine rest.trans ?_
      simp [bitmapOf]

/-- No bit is lost, and every index sets its own. -/
theorem le_bitmapOf (indices : List Int) (bitmap : Nat) :
    bitmap ≤ bitmapOf indices bitmap ∧
      ∀ i ∈ indices, 1 <<< (31 - i).toNat ≤ bitmapOf indices bitmap := by
  induction indices generalizing bitmap with
  | nil => exact ⟨Nat.le_refl bitmap, by simp⟩
  | cons i indices ih =>
    obtain ⟨kept, set⟩ := ih (bitmap ||| 1 <<< (31 - i).toNat)
    refine ⟨Nat.le_trans Nat.left_le_or kept, List.forall_mem_cons.mpr ⟨?_, set⟩⟩
    exact Nat.le_trans Nat.right_le_or kept

/-- Indices that name bits mark them. -/
theorem bitmapOf_eq {indices : List Int} (named : ∀ i ∈ indices, 0 ≤ i) (bitmap : Nat) :
    bitmapOf indices bitmap = Bitmap.markAll 32 (indices.map Int.toNat) bitmap := by
  induction indices generalizing bitmap with
  | nil => rfl
  | cons i indices ih =>
    obtain ⟨hi, rest⟩ := List.forall_mem_cons.mp named
    have shift : (31 - i).toNat = 31 - i.toNat := by omega
    simp only [bitmapOf, List.foldl_cons, List.map_cons, Bitmap.markAll, Bitmap.mark, shift]
    exact ih rest _

variable (sig : MultiSignature)

/-- The signers, as the trailing bytes spell them. -/
def bitmap : Nat := bitmapOf sig.indices 0

/-- The bitmap fits its bytes exactly when every index names a bit. -/
theorem bitmap_lt_iff : sig.bitmap < 256 ^ BITMAP_NUM_OF_BYTES ↔ sig.Named := by
  constructor
  · intro fits i mem
    by_contra negative
    have set : 1 <<< (31 - i).toNat ≤ sig.bitmap := (le_bitmapOf sig.indices 0).2 i mem
    have past : 2 ^ 32 ≤ 1 <<< (31 - i).toNat := by
      rw [Nat.shiftLeft_eq, one_mul]
      exact Nat.pow_le_pow_right (by decide) (by omega)
    have width : 256 ^ BITMAP_NUM_OF_BYTES = 2 ^ 32 := by decide
    omega
  · intro named
    rw [bitmap, bitmapOf_eq named]
    exact Bitmap.markAll_lt sig.positions_lt (by decide)

/-- **What the encoder returns.**  It raises exactly on a negative index. -/
theorem multisigToCryptoBytes_eq_ok_iff {bytes : Bytes} :
    multisigToCryptoBytes sig = .ok bytes ↔ sig.Named ∧
      bytes = (sig.signatures.flatMap fun p => p.2.1) ++
        Bcs.be BITMAP_NUM_OF_BYTES sig.bitmap := by
  unfold multisigToCryptoBytes
  rw [foldlM_addSignature sig.signatures sig.index_lt]
  show (toBytesBig sig.bitmap BITMAP_NUM_OF_BYTES >>= fun tail => pure (_ ++ tail)) = _ ↔ _
  rw [toBytesBig, ← bitmap_lt_iff]
  by_cases fits : sig.bitmap < 256 ^ BITMAP_NUM_OF_BYTES
  · rw [if_pos fits]
    constructor
    · intro encoded
      cases encoded
      exact ⟨fits, rfl⟩
    · rintro ⟨-, rfl⟩
      rfl
  · rw [if_neg fits]
    constructor
    · intro encoded
      cases encoded
    · rintro ⟨fits', -⟩
      exact absurd fits' fits

/-- What the node reads from it. -/
theorem readMultiSignature_encoded (named : sig.Named) :
    readMultiSignature
        ((sig.signatures.flatMap fun p => p.2.1) ++ Bcs.be BITMAP_NUM_OF_BYTES sig.bitmap) =
      some (sig.signatures.map Prod.snd, sig.bitmap) := by
  set body := sig.signatures.flatMap fun p => p.2.1 with hbody
  have chunks : body = (sig.signatures.map Prod.snd).flatMap (Bcs.fixed () 64).write := by
    rw [List.flatMap_map]
    rfl
  have count : body.length / 64 = (sig.signatures.map Prod.snd).length := by
    have width : body.length = sig.signatures.length * 64 := by
      have each : ∀ p ∈ sig.signatures, p.2.1.length = 64 := fun p _ => p.2.2
      rw [hbody, List.length_flatMap, List.map_congr_left each]
      simp
    rw [width, List.length_map, Nat.mul_div_cancel _ (by decide)]
  have read := (Bcs.fixed_roundTrips () 64).readMany (sig.signatures.map Prod.snd) []
  have front : (body ++ Bcs.be BITMAP_NUM_OF_BYTES sig.bitmap).length - BITMAP_NUM_OF_BYTES =
      body.length := by
    rw [List.length_append, Bcs.length_be, Nat.add_sub_cancel]
  unfold readMultiSignature
  rw [if_neg (by rw [List.length_append, Bcs.length_be]; omega)]
  simp only [front, List.take_left, List.drop_left, Bcs.ofBE_be (sig.bitmap_lt_iff.mpr named), count]
  rw [List.append_nil, ← chunks] at read
  rw [read]

/-- Its bits are the signers in increasing order. -/
theorem positions_bitmap (named : sig.Named) :
    Bitmap.positions 32 sig.bitmap = Bitmap.ranked 32 sig.positions := by
  rw [bitmap, bitmapOf_eq named]
  exact Bitmap.positions_markAll sig.positions_lt

end MultiSignature

/-! ## When the two checks agree -/

section Agree

variable {K : Type} (verifyKey : K → Bytes → Signature → Bool) (pk : MultiPublicKey K)
  (msg : Bytes) (sig : MultiSignature)

/-- Every index names a bit, no signer signs twice, and the signature at every rank
is one its signer's key accepts: its own, or another one it takes as well. -/
structure MultiSignature.IsAligned : Prop where
  named : sig.Named
  once : sig.indices.Nodup
  ranked : ∀ (k : Nat) (i : Int) (s : Signature) (j : Nat), sig.signatures[k]? = some (i, s) →
    (Bitmap.ranked 32 sig.positions)[k]? = some j →
      (j : Int) = i ∨ pk.accepts verifyKey msg j s = true

theorem all_zip_iff {α β : Type} {xs : List α} {ys : List β} {ok : α × β → Bool} :
    (xs.zip ys).all ok = true ↔
      ∀ (k : Nat) x y, xs[k]? = some x → ys[k]? = some y → ok (x, y) = true := by
  rw [List.all_eq_true]
  refine ⟨fun all k x y hx hy => ?_, fun all p mem => ?_⟩
  · exact all _ (List.mem_of_getElem? (List.getElem?_zip_eq_some.mpr ⟨hx, hy⟩))
  · obtain ⟨k, hk⟩ := List.mem_iff_getElem?.mp mem
    obtain ⟨hx, hy⟩ := List.getElem?_zip_eq_some.mp hk
    exact all k p.1 p.2 hx hy

/-- The wire check of the encoder's output, in terms of the list it was given. -/
theorem wireAccepts_encoded {bytes : Bytes} (encoded : multisigToCryptoBytes sig = .ok bytes) :
    pk.wireAccepts verifyKey msg bytes = true ↔
      sig.indices.Nodup ∧ pk.threshold ≤ sig.signatures.length ∧
        ∀ (k : Nat) (j : Nat) s, (Bitmap.ranked 32 sig.positions)[k]? = some j →
          (sig.signatures.map Prod.snd)[k]? = some s → pk.accepts verifyKey msg j s = true := by
  obtain ⟨named, rfl⟩ := sig.multisigToCryptoBytes_eq_ok_iff.mp encoded
  have counted : (Bitmap.ranked 32 sig.positions).length = sig.signatures.length ↔
      sig.indices.Nodup := by
    rw [← sig.length_positions, Bitmap.length_ranked sig.positions_lt, named.nodup_positions]
  unfold MultiPublicKey.wireAccepts
  rw [sig.readMultiSignature_encoded named]
  simp only [sig.positions_bitmap named, Bool.and_eq_true, beq_iff_eq, List.length_map, counted,
    decide_eq_true_eq, all_zip_iff, and_assoc]

/-- What the local check has seen. -/
theorem verify_eq_true : pk.verify verifyKey msg sig = true ↔
    pk.threshold ≤ sig.signatures.length ∧
      ∀ p ∈ sig.signatures, pk.accepts verifyKey msg p.1 p.2 = true := by
  simp [MultiPublicKey.verify]

variable {verifyKey pk msg sig}

theorem wireAccepts_of_isAligned (accepted : pk.verify verifyKey msg sig = true)
    (aligned : sig.IsAligned verifyKey pk msg) {bytes : Bytes}
    (encoded : multisigToCryptoBytes sig = .ok bytes) :
    pk.wireAccepts verifyKey msg bytes = true := by
  obtain ⟨enough, each⟩ := (verify_eq_true verifyKey pk msg sig).mp accepted
  apply (wireAccepts_encoded verifyKey pk msg sig encoded).mpr
  refine ⟨aligned.once, enough, fun k j s rank entry => ?_⟩
  rw [List.getElem?_map, Option.map_eq_some_iff] at entry
  obtain ⟨⟨i, s'⟩, entry, rfl⟩ := entry
  rcases aligned.ranked k i s' j entry rank with own | other
  · -- the local check has seen this very pair
    have checked := each (i, s') (List.mem_of_getElem? entry)
    rwa [own]
  · exact other

variable (verifyKey pk msg sig)

/-- **A list the local check accepts is valid on the wire exactly when it is
aligned.** -/
theorem wireAccepts_iff_isAligned (accepted : pk.verify verifyKey msg sig = true) :
    (∃ bytes, multisigToCryptoBytes sig = .ok bytes ∧
      pk.wireAccepts verifyKey msg bytes = true) ↔ sig.IsAligned verifyKey pk msg := by
  refine ⟨?_, fun aligned => ?_⟩
  · rintro ⟨bytes, encoded, wire⟩
    obtain ⟨once, -, ranked⟩ := (wireAccepts_encoded verifyKey pk msg sig encoded).mp wire
    have named := (sig.multisigToCryptoBytes_eq_ok_iff.mp encoded).1
    refine ⟨named, once, fun k i s j entry rank => Or.inr (ranked k j s rank ?_)⟩
    rw [List.getElem?_map, entry]
    rfl
  · have encoded := sig.multisigToCryptoBytes_eq_ok_iff.mpr ⟨aligned.named, rfl⟩
    exact ⟨_, encoded, wireAccepts_of_isAligned accepted aligned encoded⟩

/-- Positions listed in increasing order are aligned, whatever the keys accept. -/
theorem MultiSignature.isAligned_ofSigners {signers : List (Nat × Signature)}
    (below : ∀ p ∈ signers, p.1 < 32) (increasing : (signers.map Prod.fst).Pairwise (· < ·)) :
    (ofSigners signers below).IsAligned verifyKey pk msg where
  named := named_ofSigners
  once := by
    rw [← named_ofSigners.nodup_positions, positions_ofSigners]
    exact increasing.imp ne_of_lt
  ranked := by
    intro k i s j entry rank
    rw [positions_ofSigners, Bitmap.ranked_sorted (by simpa using below) increasing,
      List.getElem?_map] at rank
    rw [ofSigners, List.getElem?_map] at entry
    cases here : signers[k]? with
    | none =>
      rw [here] at rank
      cases rank
    | some p =>
      rw [here] at rank entry
      cases rank
      cases entry
      exact Or.inl rfl

end Agree

/-! ### Two signers in the other order -/

/-- Three owners, two of whom must sign; a key is its owner's byte. -/
def sampleOwners : MultiPublicKey UInt8 where
  keys := [0xa1, 0xb0, 0xca]
  threshold := 2
  length_keys := by decide

def sampleSign (key : UInt8) : Signature := ⟨List.replicate 64 key, by simp⟩

/-- A key accepts its owner's signature only. -/
def sampleVerify (key : UInt8) (_msg : Bytes) (s : Signature) : Bool := s = sampleSign key

/-- Carol's signature listed before Alice's. -/
def carolThenAlice : MultiSignature where
  signatures := [(2, sampleSign 0xca), (0, sampleSign 0xa1)]
  index_lt := by decide

theorem wireAccepts_iff_isAligned_carolThenAlice :
    (∃ bytes, multisigToCryptoBytes carolThenAlice = .ok bytes ∧
      sampleOwners.wireAccepts sampleVerify [1] bytes = true) ↔
        carolThenAlice.IsAligned sampleVerify sampleOwners [1] :=
  wireAccepts_iff_isAligned sampleVerify sampleOwners [1] carolThenAlice (by decide)

/-- Accepted locally, refused by the node. -/
theorem carolThenAlice_refused : ¬ ∀ (pk : MultiPublicKey UInt8) (msg : Bytes)
    (sig : MultiSignature), pk.verify sampleVerify msg sig = true →
      ∃ bytes, multisigToCryptoBytes sig = .ok bytes ∧
        pk.wireAccepts sampleVerify msg bytes = true := by
  intro always
  obtain ⟨bytes, encoded, wire⟩ := always sampleOwners [1] carolThenAlice (by decide)
  obtain ⟨-, -, ranked⟩ :=
    (wireAccepts_encoded sampleVerify sampleOwners [1] carolThenAlice encoded).mp wire
  -- the bitmap names Alice first, the bytes carry Carol's signature first
  have first := ranked 0 0 (sampleSign 0xca) (by decide) rfl
  revert first
  decide

/-! ## Reading the signers back -/

/-- The list behind a wire form: the k-th signature belongs to the k-th set bit
from the top. -/
def readSigners (bytes : Bytes) : Option (List (Nat × Signature)) := do
  let (signatures, bitmap) ← readMultiSignature bytes
  let signers := Bitmap.positions 32 bitmap
  guard (signers.length = signatures.length)
  return signers.zip signatures

/-- Signers in increasing order are read back as they were. -/
theorem readSigners_encoded {signers : List (Nat × Signature)} {below : ∀ p ∈ signers, p.1 < 32}
    (increasing : (signers.map Prod.fst).Pairwise (· < ·)) {bytes : Bytes}
    (encoded : multisigToCryptoBytes (MultiSignature.ofSigners signers below) = .ok bytes) :
    readSigners bytes = some signers := by
  set sig := MultiSignature.ofSigners signers below with hsig
  obtain ⟨named, rfl⟩ := sig.multisigToCryptoBytes_eq_ok_iff.mp encoded
  have signers_eq : Bitmap.positions 32 sig.bitmap = signers.map Prod.fst := by
    rw [sig.positions_bitmap named, hsig, MultiSignature.positions_ofSigners]
    exact Bitmap.ranked_sorted (by simpa using below) increasing
  have signatures_eq : sig.signatures.map Prod.snd = signers.map Prod.snd := by
    simp [hsig, MultiSignature.ofSigners, Function.comp_def]
  unfold readSigners
  rw [sig.readMultiSignature_encoded named]
  have halves : (signers.map Prod.fst).zip (signers.map Prod.snd) = signers :=
    (List.zip_of_prod rfl rfl).symm
  simp [signers_eq, signatures_eq, halves]

/-- **The encoder is undone** on signers in increasing order: its bitmap fits the
four bytes, so it does not raise, and reading its bytes gives the list back. -/
theorem readSigners_multisigToCryptoBytes (signers : List (Nat × Signature))
    (below : ∀ p ∈ signers, p.1 < 32) (increasing : (signers.map Prod.fst).Pairwise (· < ·)) :
    let sig := MultiSignature.ofSigners signers below
    ∃ bitmap signatureBytes bytes,
      sig.signatures.foldlM addSignature (0, []) = .ok (bitmap, signatureBytes) ∧
        bitmap < 256 ^ MultiSignature.BITMAP_NUM_OF_BYTES ∧
        multisigToCryptoBytes sig = .ok bytes ∧ readSigners bytes = some signers := by
  intro sig
  have named : sig.Named := MultiSignature.named_ofSigners
  have encoded := sig.multisigToCryptoBytes_eq_ok_iff.mpr ⟨named, rfl⟩
  exact ⟨sig.bitmap, _, _, MultiSignature.foldlM_addSignature _ sig.index_lt 0 [],
    sig.bitmap_lt_iff.mpr named, encoded, readSigners_encoded increasing encoded⟩

/-- The list the script signs with. -/
def aliceThenCarol : List (Nat × Signature) := [(0, sampleSign 0xa1), (2, sampleSign 0xca)]

theorem readSigners_multisigToCryptoBytes_aliceThenCarol :
    let sig := MultiSignature.ofSigners aliceThenCarol (by decide)
    ∃ bitmap signatureBytes bytes,
      sig.signatures.foldlM addSignature (0, []) = .ok (bitmap, signatureBytes) ∧
        bitmap < 256 ^ MultiSignature.BITMAP_NUM_OF_BYTES ∧
        multisigToCryptoBytes sig = .ok bytes ∧ readSigners bytes = some aliceThenCarol :=
  readSigners_multisigToCryptoBytes aliceThenCarol (by decide) (by decide)

end SupraFromScratch.Client
