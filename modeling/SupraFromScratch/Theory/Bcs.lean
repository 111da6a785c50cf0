/-
# Theory.Bcs — the byte layouts of a binary canonical serialization

* `le w n`, `be w n` — the low `w` bytes of `n`; injective below `256 ^ w`, and
  read back by `ofLE`.
* `uleb128` — seven bits a byte, lowest first, every byte but the last with its
  high bit set.  Its reader refuses a number spelled with a zero last byte, so a
  number has one spelling.
* `flag` — one byte, zero or one.
* `fixed`, `byteString`, `text` — a byte string of known width, one behind its
  length, and UTF-8 text behind the length of its bytes.

Each codec comes with the two laws of `Theory.Codec`; a record layout is then a
chain of `Codec.pair`s.
-/
import SupraFromScratch.Theory.Codec
import Mathlib.Tactic.Ring

namespace SupraFromScratch.Theory.Bcs

set_option autoImplicit false

/-! ## Fixed-width integers -/

/-- The low `w` bytes of `n`, least significant first. -/
def le : Nat → Nat → Bytes
  | 0, _ => []
  | w + 1, n => UInt8.ofNat (n % 256) :: le w (n / 256)

/-- The low `w` bytes of `n`, most significant first. -/
def be (w n : Nat) : Bytes := (le w n).reverse

/-- Little-endian bytes as a natural. -/
def ofLE : Bytes → Nat
  | [] => 0
  | b :: bs => b.toNat + 256 * ofLE bs

/-- Big-endian bytes as a natural. -/
def ofBE (bytes : Bytes) : Nat := ofLE bytes.reverse

@[simp] theorem length_le (w n : Nat) : (le w n).length = w := by
  induction w generalizing n with
  | zero => rfl
  | succ w ih => simp [le, ih]

@[simp] theorem length_be (w n : Nat) : (be w n).length = w := by simp [be]

theorem ofLE_le {w n : Nat} (fits : n < 256 ^ w) : ofLE (le w n) = n := by
  induction w generalizing n with
  | zero => simp at fits; subst fits; rfl
  | succ w ih =>
    have high : n / 256 < 256 ^ w := by
      rw [pow_succ] at fits
      omega
    have low : (UInt8.ofNat (n % 256)).toNat = n % 256 := by simp
    rw [le, ofLE, ih high, low]
    omega

theorem ofBE_be {w n : Nat} (fits : n < 256 ^ w) : ofBE (be w n) = n := by
  simp [ofBE, be, ofLE_le fits]

theorem le_inj {w n m : Nat} (hn : n < 256 ^ w) (hm : m < 256 ^ w) :
    le w n = le w m ↔ n = m := by
  constructor
  · intro same
    rw [← ofLE_le hn, same, ofLE_le hm]
  · rintro rfl; rfl

/-- Integers of one width come off the front of longer byte strings. -/
theorem le_append_inj {w n m : Nat} {s t : Bytes} (hn : n < 256 ^ w) (hm : m < 256 ^ w) :
    le w n ++ s = le w m ++ t ↔ n = m ∧ s = t := by
  constructor
  · intro same
    obtain ⟨front, back⟩ := List.append_inj same (by rw [length_le, length_le])
    exact ⟨(le_inj hn hm).mp front, back⟩
  · rintro ⟨rfl, rfl⟩; rfl

/-! ## Exact reads -/

section Readers

variable {ε : Type} (short : ε)

/-- Exactly `width` bytes. -/
def readExact (width : Nat) : Reader ε Bytes := fun input =>
  if width ≤ input.length then .ok (input.take width, input.drop width) else .error short

theorem run_readExact_append {bytes rest : Bytes} :
    (readExact short bytes.length).run (bytes ++ rest) = .ok (bytes, rest) := by
  simp [readExact, StateT.run]

theorem run_readExact_eq_ok {width : Nat} {input : Bytes} {out : Bytes × Bytes} :
    (readExact short width).run input = .ok out ↔
      out.1.length = width ∧ input = out.1 ++ out.2 := by
  constructor
  · intro h
    simp only [readExact, StateT.run] at h
    split at h
    · cases h
      exact ⟨by simpa, by simp⟩
    · cases h
  · obtain ⟨bytes, rest⟩ := out
    rintro ⟨rfl, rfl⟩
    exact run_readExact_append short

/-- A byte string of known width. -/
def fixed (width : Nat) : Codec ε {bytes : Bytes // bytes.length = width} where
  write bytes := bytes.1
  read := do
    let bytes ← readExact short width
    if sized : bytes.length = width then pure ⟨bytes, sized⟩ else throw short

theorem fixed_roundTrips (width : Nat) : (fixed short width).RoundTrips := by
  rintro ⟨bytes, rfl⟩ rest
  simp only [fixed]
  rw [Reader.run_bind_of_ok (run_readExact_append short), dif_pos rfl]
  rfl

theorem fixed_canonical (width : Nat) : (fixed short width).Canonical := by
  intro input bytes rest h
  obtain ⟨raw, mid, hraw, hmid⟩ := Reader.run_bind_eq_ok.mp h
  obtain ⟨sized, rfl⟩ := (run_readExact_eq_ok short).mp hraw
  rw [dif_pos sized] at hmid
  cases Reader.run_pure_eq_ok.mp hmid
  rfl

/-- One byte. -/
def readByte : Reader ε UInt8
  | [] => .error short
  | b :: rest => .ok (b, rest)

theorem run_readByte_eq_ok {input : Bytes} {out : UInt8 × Bytes} :
    (readByte short).run input = .ok out ↔ input = out.1 :: out.2 := by
  cases input with
  | nil => constructor <;> intro h <;> cases h
  | cons b rest =>
    constructor
    · intro h; cases h; rfl
    · intro h; cases h; rfl

/-! ## Flags -/

/-- One byte, zero or one; any other byte is refused. -/
def flag : Codec ε Bool where
  write b := [if b then 1 else 0]
  read := do
    let byte ← readByte short
    if byte = 0 then pure false else if byte = 1 then pure true else throw short

theorem flag_roundTrips : (flag short).RoundTrips := by
  intro b rest
  cases b <;> rfl

theorem flag_canonical : (flag short).Canonical := by
  intro input b rest h
  obtain ⟨byte, mid, hbyte, hmid⟩ := Reader.run_bind_eq_ok.mp h
  rw [run_readByte_eq_ok] at hbyte
  subst hbyte
  split at hmid
  · rename_i zero
    cases Reader.run_pure_eq_ok.mp hmid
    simp [flag, zero]
  · split at hmid
    · rename_i one
      cases Reader.run_pure_eq_ok.mp hmid
      simp [flag, one]
    · exact (Reader.run_throw_eq_ok.mp hmid).elim

/-! ## Unsigned LEB128 -/

/-- The fuel is the number itself, which always suffices (`uleb128_of_ge`). -/
def uleb128Aux : Nat → Nat → Bytes
  | 0, n => [UInt8.ofNat n]
  | fuel + 1, n =>
      if n < 128 then [UInt8.ofNat n]
      else UInt8.ofNat (n % 128 + 128) :: uleb128Aux fuel (n / 128)

def uleb128 (n : Nat) : Bytes := uleb128Aux n n

theorem uleb128Aux_fuel (fuel more n : Nat) (enough : n ≤ fuel) (also : n ≤ more) :
    uleb128Aux fuel n = uleb128Aux more n := by
  induction fuel generalizing more n with
  | zero =>
    obtain rfl : n = 0 := by omega
    cases more <;> rfl
  | succ fuel ih =>
    cases more with
    | zero =>
      obtain rfl : n = 0 := by omega
      rfl
    | succ more =>
      simp only [uleb128Aux]
      split
      · rfl
      · rw [ih more (n / 128) (by omega) (by omega)]

theorem uleb128_of_lt {n : Nat} (small : n < 128) : uleb128 n = [UInt8.ofNat n] := by
  cases n with
  | zero => rfl
  | succ n => simp [uleb128, uleb128Aux, small]

theorem uleb128_of_ge {n : Nat} (large : 128 ≤ n) :
    uleb128 n = UInt8.ofNat (n % 128 + 128) :: uleb128 (n / 128) := by
  obtain ⟨m, rfl⟩ : ∃ m, n = m + 1 := ⟨n - 1, by omega⟩
  rw [uleb128, uleb128Aux, if_neg (by omega), uleb128Aux_fuel m _ _ (by omega) le_rfl]
  rfl

/-- A continued number whose rest is zero had a shorter spelling. -/
def readUleb128 : Bytes → Except ε (Nat × Bytes)
  | [] => .error short
  | b :: rest =>
      if b.toNat < 128 then .ok (b.toNat, rest)
      else
        match readUleb128 rest with
        | .ok (0, _) => .error short
        | .ok (high, last) => .ok (b.toNat - 128 + 128 * high, last)
        | .error e => .error e

/-- Numbers at their natural length. -/
def uleb : Codec ε Nat where
  write := uleb128
  read := readUleb128 short

theorem uleb_roundTrips : (uleb short).RoundTrips := by
  intro n rest
  change readUleb128 short (uleb128 n ++ rest) = _
  induction n using Nat.strongRecOn with
  | ind n ih =>
    by_cases small : n < 128
    · have byte : (UInt8.ofNat n).toNat = n := by simp; omega
      simp [uleb128_of_lt small, readUleb128, byte, small]
    · have byte : (UInt8.ofNat (n % 128 + 128)).toNat = n % 128 + 128 := by simp; omega
      obtain ⟨high, hhigh⟩ : ∃ high, n / 128 = high + 1 := ⟨n / 128 - 1, by omega⟩
      rw [uleb128_of_ge (by omega), List.cons_append, readUleb128, byte, if_neg (by omega),
        ih (n / 128) (by omega), hhigh]
      simp only [Except.ok.injEq, Prod.mk.injEq, and_true]
      omega

theorem uleb_canonical : (uleb short).Canonical := by
  intro input
  induction input with
  | nil => intro n rest h; cases h
  | cons b input ih =>
    intro n rest h
    change readUleb128 short (b :: input) = _ at h
    rw [readUleb128] at h
    have bounded : b.toNat < 256 := b.toNat_lt
    split at h
    · rename_i small
      cases h
      simp [uleb, uleb128_of_lt small]
    · split at h
      · cases h
      · rename_i high tail nonzero hread
        cases h
        have positive : high ≠ 0 := nonzero
        have split : uleb128 (b.toNat - 128 + 128 * high) = b :: uleb128 high := by
          rw [uleb128_of_ge (by omega)]
          have low : (b.toNat - 128 + 128 * high) % 128 + 128 = b.toNat := by omega
          have rest : (b.toNat - 128 + 128 * high) / 128 = high := by omega
          rw [low, rest]
          simp
        change b :: input = uleb128 _ ++ rest
        rw [split, List.cons_append]
        exact congrArg (b :: ·) (ih high rest hread)
      · cases h

/-! ## Byte strings and text -/

/-- A byte string behind its length. -/
def writeBytes (bytes : Bytes) : Bytes := uleb128 bytes.length ++ bytes

def byteString : Codec ε Bytes where
  write := writeBytes
  read := do
    let width ← (uleb short).read
    readExact short width

theorem byteString_roundTrips : (byteString short).RoundTrips := by
  intro bytes rest
  change StateT.run _ (uleb128 bytes.length ++ bytes ++ rest) = _
  rw [List.append_assoc]
  exact ((uleb_roundTrips short).run_bind bytes.length _ _).trans (run_readExact_append short)

theorem byteString_canonical : (byteString short).Canonical := by
  intro input bytes rest h
  obtain ⟨width, mid, rfl, hmid⟩ := (uleb_canonical short).of_run_bind h
  obtain ⟨rfl, rfl⟩ := (run_readExact_eq_ok short).mp hmid
  simp [byteString, writeBytes, uleb]

/-- The UTF-8 bytes of a text. -/
def utf8 (s : String) : Bytes := s.toUTF8.data.toList

/-- The text a byte string spells, if it is valid UTF-8. -/
def ofUtf8 (bytes : Bytes) : Except ε String :=
  if valid : (ByteArray.mk bytes.toArray).IsValidUTF8 then .ok (String.fromUTF8 _ valid)
  else .error short

theorem ofUtf8_utf8 (s : String) : ofUtf8 short (utf8 s) = .ok s := by
  have bytes : ByteArray.mk (utf8 s).toArray = s.toByteArray := by
    simp [utf8]
  have valid : (ByteArray.mk (utf8 s).toArray).IsValidUTF8 := bytes ▸ s.isValidUTF8
  rw [ofUtf8, dif_pos valid]
  exact congrArg Except.ok (String.toByteArray_inj.mp bytes)

theorem utf8_of_ofUtf8 {bytes : Bytes} {s : String} (h : ofUtf8 short bytes = .ok s) :
    utf8 s = bytes := by
  rw [ofUtf8] at h
  split at h
  · cases h
    simp [utf8, String.fromUTF8]
  · cases h

/-- Text behind the length of its UTF-8 bytes. -/
def writeText (s : String) : Bytes := writeBytes (utf8 s)

def text : Codec ε String := (byteString short).relabel (ofUtf8 short) utf8

theorem text_roundTrips : (text short).RoundTrips :=
  (byteString_roundTrips short).relabel (ofUtf8_utf8 short)

theorem text_canonical : (text short).Canonical :=
  (byteString_canonical short).relabel fun _ _ => utf8_of_ofUtf8 short

/-- Elements behind their count. -/
def writeSequence {α : Type} (write : α → Bytes) (as : List α) : Bytes :=
  uleb128 as.length ++ as.flatMap write

def sequence {α : Type} (c : Codec ε α) : Codec ε (List α) := Codec.sequence (uleb short) c

end Readers

/-! ## The writers delimit themselves -/

theorem uleb128_prefixFree : PrefixFree uleb128 := (uleb_roundTrips ()).prefixFree

theorem writeBytes_prefixFree : PrefixFree writeBytes := (byteString_roundTrips ()).prefixFree

theorem writeText_prefixFree : PrefixFree writeText := (text_roundTrips ()).prefixFree

theorem writeSequence_prefixFree {α : Type} {write : α → Bytes} (free : PrefixFree write) :
    PrefixFree (writeSequence write) := by
  intro as bs s t same
  simp only [writeSequence, List.append_assoc] at same
  obtain ⟨counted, tails⟩ := uleb128_prefixFree _ _ _ _ same
  exact free.flatMap_inj as bs s t counted tails

end SupraFromScratch.Theory.Bcs
