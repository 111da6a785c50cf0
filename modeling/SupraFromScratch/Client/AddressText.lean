/-
# Client.AddressText — how an account address prints and reads

The sixteen special addresses, `0x0` to `0xf`, print short: `0x` and one digit.
Every other address prints long: `0x` and two digits for each of its 32 bytes.
The two forms have different lengths and each is injective, so no two addresses
print alike (`addressStr_inj`).

`ReadsStrictly` is what a strict reader makes of either form.  Such a reader
reads back what is printed (`ReadsStrictly.read_addressStr`), on both sides of
the boundary between the forms.
-/
import SupraFromScratch.Client.Sdk

namespace SupraFromScratch.Client

set_option autoImplicit false

open SupraFromScratch.Theory

/-! ## Hexadecimal digits -/

def hexDigit (n : Nat) : Char := Char.ofNat (if n < 10 then 48 + n else 87 + n)

/-- The two digits of each byte, most significant first. -/
def hex : Bytes → List Char
  | [] => []
  | b :: bs => hexDigit (b.toNat / 16) :: hexDigit (b.toNat % 16) :: hex bs

theorem hexDigit_inj : ∀ n < 16, ∀ m < 16, hexDigit n = hexDigit m → n = m := by decide

@[simp] theorem length_hex (bs : Bytes) : (hex bs).length = 2 * bs.length := by
  induction bs with
  | nil => rfl
  | cons b bs ih =>
    simp only [hex, List.length_cons, ih]
    omega

theorem hex_injective : ∀ {as bs : Bytes}, hex as = hex bs → as = bs
  | [], [], _ => rfl
  | [], _ :: _, h => by simp [hex] at h
  | _ :: _, [], h => by simp [hex] at h
  | a :: as, b :: bs, h => by
      simp only [hex, List.cons.injEq] at h
      have ha : a.toNat < 256 := a.toNat_lt
      have hb : b.toNat < 256 := b.toNat_lt
      have high := hexDigit_inj _ (by omega) _ (by omega) h.1
      have low := hexDigit_inj _ (by omega) _ (by omega) h.2.1
      have same : a = b := UInt8.toNat_inj.mp (by omega)
      rw [same, hex_injective h.2.2]

/-! ## The two forms -/

/-- All bytes but the last are zero and the last is below sixteen. -/
def isSpecial (bytes : Bytes) : Bool :=
  bytes.dropLast.all (· == 0) && bytes.getLast?.any (·.toNat < 16)

def addressStr (bytes : Bytes) : String :=
  String.ofList ('0' :: 'x' ::
    if isSpecial bytes then [hexDigit (bytes.getLast?.elim 0 UInt8.toNat)] else hex bytes)

theorem eq_of_isSpecial {bytes : Bytes} (special : isSpecial bytes = true) :
    ∃ last : UInt8, last.toNat < 16 ∧
      bytes = List.replicate (bytes.length - 1) 0 ++ [last] := by
  simp only [isSpecial, Bool.and_eq_true, List.all_eq_true, beq_iff_eq] at special
  obtain ⟨zeros, small⟩ := special
  rcases List.eq_nil_or_concat bytes with rfl | ⟨front, last, rfl⟩
  · simp at small
  · rw [List.concat_eq_append] at *
    simp only [List.dropLast_concat, List.getLast?_concat, Option.any_some,
      decide_eq_true_eq] at zeros small
    refine ⟨last, small, ?_⟩
    rw [List.length_append, List.length_singleton, Nat.add_sub_cancel,
      ← List.eq_replicate_of_mem zeros]

/-- The two forms, with the bytes behind each. -/
theorem addressStr_cases (bytes : Bytes) :
    (∃ last : UInt8, last.toNat < 16 ∧ bytes = List.replicate (bytes.length - 1) 0 ++ [last] ∧
      addressStr bytes = String.ofList ['0', 'x', hexDigit last.toNat]) ∨
    addressStr bytes = String.ofList ('0' :: 'x' :: hex bytes) := by
  unfold addressStr
  by_cases special : isSpecial bytes = true
  · obtain ⟨last, small, split⟩ := eq_of_isSpecial special
    have ends : bytes.getLast? = some last := by rw [split, List.getLast?_concat]
    rw [if_pos special, ends]
    exact .inl ⟨last, small, split, rfl⟩
  · rw [if_neg special]
    exact .inr rfl

/-- **No two addresses print alike.** -/
theorem addressStr_inj {as bs : Bytes} (sizeA : as.length = 32) (sizeB : bs.length = 32)
    (same : addressStr as = addressStr bs) : as = bs := by
  simp only [addressStr, String.ofList_inj, List.cons.injEq, true_and] at same
  split_ifs at same with specialA specialB specialB
  · obtain ⟨a, smallA, ha⟩ := eq_of_isSpecial specialA
    obtain ⟨b, smallB, hb⟩ := eq_of_isSpecial specialB
    rw [ha, hb] at same
    simp only [List.getLast?_concat, Option.elim_some, List.cons.injEq, and_true] at same
    have lasts : a = b := UInt8.toNat_inj.mp (hexDigit_inj _ smallA _ smallB same)
    rw [ha, hb, sizeA, sizeB, lasts]
  · have := congrArg List.length same
    simp [sizeB] at this
  · have := congrArg List.length same
    simp [sizeA] at this
  · exact hex_injective same

/-! ## Reading -/

/-- The value of a digit, in either case. -/
def digitValue (c : Char) : Option Nat :=
  if '0' ≤ c ∧ c ≤ '9' then some (c.toNat - 48)
  else if 'a' ≤ c ∧ c ≤ 'f' then some (c.toNat - 87)
  else if 'A' ≤ c ∧ c ≤ 'F' then some (c.toNat - 55)
  else none

/-- Two digits a byte, most significant first. -/
def unhex : List Char → Option Bytes
  | [] => some []
  | [_] => none
  | high :: low :: digits => do
      let h ← digitValue high
      let l ← digitValue low
      let bytes ← unhex digits
      return UInt8.ofNat (16 * h + l) :: bytes

theorem digitValue_hexDigit : ∀ n < 16, digitValue (hexDigit n) = some n := by decide

theorem unhex_hex (bs : Bytes) : unhex (hex bs) = some bs := by
  induction bs with
  | nil => rfl
  | cons b bs ih =>
    have hb : b.toNat < 256 := b.toNat_lt
    have whole : UInt8.ofNat (16 * (b.toNat / 16) + b.toNat % 16) = b := by
      rw [Nat.div_add_mod, UInt8.ofNat_toNat]
    rw [hex, unhex, digitValue_hexDigit _ (by omega), digitValue_hexDigit _ (by omega), ih]
    simp only [Option.bind_eq_bind, Option.bind_some, Option.pure_def, whole]

theorem length_of_unhex {digits : List Char} {bytes : Bytes} (h : unhex digits = some bytes) :
    digits.length = 2 * bytes.length := by
  fun_induction unhex digits generalizing bytes with
  | case1 =>
    cases h
    rfl
  | case2 => cases h
  | case3 high low digits ih =>
    simp only [Option.bind_eq_bind, Option.bind_eq_some_iff, Option.pure_def,
      Option.some.injEq] at h
    obtain ⟨_, -, _, -, rest, hrest, rfl⟩ := h
    simp only [List.length_cons, ih hrest]
    omega

theorem unhex_zeros {digits : List Char} {bytes : Bytes} (h : unhex digits = some bytes) (k : Nat) :
    unhex (List.replicate (2 * k) '0' ++ digits) = some (List.replicate k 0 ++ bytes) := by
  have zero : digitValue '0' = some 0 := by decide
  induction k with
  | zero => exact h
  | succ k ih =>
    have pair : 2 * (k + 1) = 2 * k + 1 + 1 := by omega
    rw [pair, List.replicate_succ, List.replicate_succ, List.cons_append, List.cons_append, unhex,
      zero, ih]
    rfl

theorem digitValue_lt {digit : Char} {value : Nat} (h : digitValue digit = some value) :
    value < 16 := by
  unfold digitValue at h
  split_ifs at h with decimal lower upper
  · cases h
    have top : digit.toNat ≤ 57 := decimal.2
    omega
  · cases h
    have top : digit.toNat ≤ 102 := lower.2
    omega
  · cases h
    have top : digit.toNat ≤ 70 := upper.2
    omega

/-- A strict reader takes the long form, `0x` and 64 digits, and for a special
address also the short one, `0x` and its one digit. -/
structure ReadsStrictly (read : String → Except PyError AccountAddress) : Prop where
  long : ∀ (digits : List Char) (a : AccountAddress), unhex digits = some a.bytes →
    read (String.ofList ('0' :: 'x' :: digits)) = .ok a
  short : ∀ (digit : Char) (value : Nat) (a : AccountAddress), digitValue digit = some value →
    a.bytes = List.replicate 31 0 ++ [UInt8.ofNat value] →
      read (String.ofList ['0', 'x', digit]) = .ok a

/-- **Reading undoes printing.** -/
theorem ReadsStrictly.read_addressStr {read : String → Except PyError AccountAddress}
    (strict : ReadsStrictly read) (a : AccountAddress) : read (addressStr a.bytes) = .ok a := by
  obtain ⟨last, small, bytes, printed⟩ | printed := addressStr_cases a.bytes
  · rw [printed]
    apply strict.short _ _ a (digitValue_hexDigit _ small)
    rw [UInt8.ofNat_toNat, bytes, a.length_bytes]
  · rw [printed]
    exact strict.long _ a (unhex_hex a.bytes)

theorem colon_notMem_hex (bytes : Bytes) : ':' ∉ hex bytes := by
  have digit : ∀ n < 16, ':' ≠ hexDigit n := by decide
  induction bytes with
  | nil => exact List.not_mem_nil
  | cons b bytes ih =>
    have hb : b.toNat < 256 := b.toNat_lt
    simp only [hex, List.mem_cons, not_or]
    exact ⟨digit _ (by omega), digit _ (by omega), ih⟩

theorem colon_notMem_addressStr (bytes : Bytes) : ':' ∉ (addressStr bytes).toList := by
  have digit : ∀ n < 16, ':' ∉ ['0', 'x', hexDigit n] := by decide
  obtain ⟨last, small, -, printed⟩ | printed := addressStr_cases bytes
  · rw [printed, String.toList_ofList]
    exact digit _ small
  · rw [printed, String.toList_ofList]
    simp only [List.mem_cons, not_or]
    exact ⟨by decide, by decide, colon_notMem_hex bytes⟩

end SupraFromScratch.Client
