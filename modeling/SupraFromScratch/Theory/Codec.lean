/-
# Theory.Codec — writers, with-remainder readers, and unambiguous framing

A wire format is a writer into bytes and a reader that consumes a prefix of its
input and hands back the rest.  Two laws relate them and neither implies the
other:

* `Codec.RoundTrips` — reading what was written, whatever follows it, gives the
  value back and leaves exactly what followed;
* `Codec.Canonical` — the reader accepts only what the writer writes, so no
  value has two encodings.

`PrefixFree` is the writer's half alone: an encoding can be cut off the front of
any longer byte string.  It is what a concatenation of fields without
separators needs from every field but the last, and what `RoundTrips` gives.

Both laws are closed under the combinators a record format is made of: pairing,
relabelling along an inverse pair, and a counted sequence.
-/
import Mathlib.Data.List.Basic

namespace SupraFromScratch.Theory

set_option autoImplicit false

/-- A byte string. -/
abbrev Bytes := List UInt8

/-- A reader consumes a prefix of its input, or fails. -/
abbrev Reader (ε α : Type) := StateT Bytes (Except ε) α

namespace Reader

variable {ε α β : Type}

theorem run_bind_of_ok {x : Reader ε α} {f : α → Reader ε β} {input rest : Bytes} {a : α}
    (h : x.run input = .ok (a, rest)) : (x >>= f).run input = (f a).run rest := by
  rw [StateT.run_bind, h]
  rfl

/-- A bind succeeds exactly when its first reader does and the second one
continues where it stopped. -/
theorem run_bind_eq_ok {x : Reader ε α} {f : α → Reader ε β} {input : Bytes} {out : β × Bytes} :
    (x >>= f).run input = .ok out ↔
      ∃ a rest, x.run input = .ok (a, rest) ∧ (f a).run rest = .ok out := by
  rw [StateT.run_bind]
  constructor
  · intro h
    cases hx : x.run input with
    | error e => rw [hx] at h; cases h
    | ok p => rw [hx] at h; exact ⟨p.1, p.2, rfl, h⟩
  · rintro ⟨a, rest, hx, hf⟩
    rw [hx]
    exact hf

@[simp] theorem run_pure_eq_ok {a : α} {input : Bytes} {out : α × Bytes} :
    (pure a : Reader ε α).run input = .ok out ↔ out = (a, input) := by
  rw [StateT.run_pure]
  constructor
  · intro h; cases h; rfl
  · rintro rfl; rfl

@[simp] theorem run_throw_eq_ok {e : ε} {input : Bytes} {out : α × Bytes} :
    (throw e : Reader ε α).run input = .ok out ↔ False := by
  constructor
  · intro h; cases h
  · exact False.elim

end Reader

/-! ## Prefix-free writers -/

/-- Encodings that can be cut off the front of any longer byte string. -/
def PrefixFree {α : Type} (write : α → Bytes) : Prop :=
  ∀ (a b : α) (s t : Bytes), write a ++ s = write b ++ t → a = b ∧ s = t

namespace PrefixFree

variable {α β : Type}

theorem injective {write : α → Bytes} (free : PrefixFree write) : Function.Injective write := by
  intro a b same
  exact (free a b [] [] (by rw [same])).1

/-- Cutting the same position of two longer byte strings. -/
theorem append_inj {write : α → Bytes} (free : PrefixFree write) {a b : α} {s t : Bytes} :
    write a ++ s = write b ++ t ↔ a = b ∧ s = t := by
  constructor
  · exact free a b s t
  · rintro ⟨rfl, rfl⟩; rfl

theorem of_length {write : α → Bytes} (width : Nat) (sized : ∀ a, (write a).length = width)
    (inj : Function.Injective write) : PrefixFree write := by
  intro a b s t same
  obtain ⟨front, back⟩ := List.append_inj same (by rw [sized, sized])
  exact ⟨inj front, back⟩

/-- Writing elements one after another is unambiguous once the count is known. -/
theorem flatMap_inj {write : α → Bytes} (free : PrefixFree write) :
    ∀ (xs ys : List α) (s t : Bytes), xs.length = ys.length →
      xs.flatMap write ++ s = ys.flatMap write ++ t → xs = ys ∧ s = t
  | [], [], s, t, _, same => by simpa using same
  | [], _ :: _, _, _, counted, _ => by simp at counted
  | _ :: _, [], _, _, counted, _ => by simp at counted
  | x :: xs, y :: ys, s, t, counted, same => by
      simp only [List.flatMap_cons, List.append_assoc] at same
      obtain ⟨rfl, tails⟩ := free _ _ _ _ same
      obtain ⟨rfl, rfl⟩ := flatMap_inj free xs ys s t (by simpa using counted) tails
      exact ⟨rfl, rfl⟩

end PrefixFree

/-! ## Codecs and their two laws -/

/-- A writer and a reader of one type of value. -/
structure Codec (ε α : Type) where
  write : α → Bytes
  read : Reader ε α

namespace Codec

variable {ε α β : Type}

/-- Reading what was written gives the value back and leaves what followed it. -/
def RoundTrips (c : Codec ε α) : Prop :=
  ∀ a rest, c.read.run (c.write a ++ rest) = .ok (a, rest)

/-- The reader accepts only what the writer writes. -/
def Canonical (c : Codec ε α) : Prop :=
  ∀ input a rest, c.read.run input = .ok (a, rest) → input = c.write a ++ rest

theorem RoundTrips.prefixFree {c : Codec ε α} (trips : c.RoundTrips) : PrefixFree c.write := by
  intro a b s t same
  have readA := trips a s
  rw [same, trips b t] at readA
  cases readA
  exact ⟨rfl, rfl⟩

/-- One step of reading a record: the field at the front comes off. -/
theorem RoundTrips.run_bind {c : Codec ε α} (trips : c.RoundTrips) (a : α) (rest : Bytes)
    (f : α → Reader ε β) : (c.read >>= f).run (c.write a ++ rest) = (f a).run rest :=
  Reader.run_bind_of_ok (trips a rest)

/-- One step of inverting an accepted record: the field stood at the front. -/
theorem Canonical.of_run_bind {c : Codec ε α} (canonical : c.Canonical) {f : α → Reader ε β}
    {input : Bytes} {out : β × Bytes} (h : (c.read >>= f).run input = .ok out) :
    ∃ a rest, input = c.write a ++ rest ∧ (f a).run rest = .ok out := by
  obtain ⟨a, rest, hread, hrest⟩ := Reader.run_bind_eq_ok.mp h
  exact ⟨a, rest, canonical _ _ _ hread, hrest⟩

/-! ### Pairs -/

def pair (c : Codec ε α) (d : Codec ε β) : Codec ε (α × β) where
  write p := c.write p.1 ++ d.write p.2
  read := do
    let a ← c.read
    let b ← d.read
    pure (a, b)

theorem RoundTrips.pair {c : Codec ε α} {d : Codec ε β} (hc : c.RoundTrips)
    (hd : d.RoundTrips) : (c.pair d).RoundTrips := by
  rintro ⟨a, b⟩ rest
  simp only [Codec.pair, List.append_assoc]
  rw [hc.run_bind, hd.run_bind]
  rfl

theorem Canonical.pair {c : Codec ε α} {d : Codec ε β} (hc : c.Canonical) (hd : d.Canonical) :
    (c.pair d).Canonical := by
  rintro input ⟨a, b⟩ rest h
  obtain ⟨a', mid, rfl, hmid⟩ := hc.of_run_bind h
  obtain ⟨b', last, rfl, hlast⟩ := hd.of_run_bind hmid
  cases Reader.run_pure_eq_ok.mp hlast
  simp [Codec.pair]

/-! ### Relabelling -/

/-- Carry a format along `back`; the reader relabels, or refuses, through `accept`. -/
def relabel (c : Codec ε α) (accept : α → Except ε β) (back : β → α) : Codec ε β where
  write b := c.write (back b)
  read := do
    let a ← c.read
    liftM (accept a)

theorem run_liftM_eq_ok {x : Except ε β} {input : Bytes} {out : β × Bytes} :
    (liftM x : Reader ε β).run input = .ok out ↔ x = .ok out.1 ∧ out.2 = input := by
  cases x with
  | error e =>
    constructor
    · intro h; cases h
    · rintro ⟨h, -⟩; cases h
  | ok b =>
    constructor
    · intro h; cases h; exact ⟨rfl, rfl⟩
    · rintro ⟨h, rfl⟩; cases h; rfl

theorem RoundTrips.relabel {c : Codec ε α} {accept : α → Except ε β} {back : β → α}
    (hc : c.RoundTrips) (undo : ∀ b, accept (back b) = .ok b) :
    (c.relabel accept back).RoundTrips := by
  intro b rest
  simp only [Codec.relabel]
  rw [hc.run_bind]
  exact run_liftM_eq_ok.mpr ⟨undo b, rfl⟩

theorem Canonical.relabel {c : Codec ε α} {accept : α → Except ε β} {back : β → α}
    (hc : c.Canonical) (undo : ∀ a b, accept a = .ok b → back b = a) :
    (c.relabel accept back).Canonical := by
  intro input b rest h
  obtain ⟨a, mid, rfl, hmid⟩ := hc.of_run_bind h
  obtain ⟨accepted, rfl⟩ := run_liftM_eq_ok.mp hmid
  simp only [Codec.relabel, undo a b accepted]

/-! ### Counted sequences -/

/-- Read exactly `count` elements. -/
def readMany (c : Codec ε α) : Nat → Reader ε (List α)
  | 0 => pure []
  | count + 1 => do
    let a ← c.read
    let as ← readMany c count
    pure (a :: as)

/-- A sequence is its length and then its elements. -/
def sequence (length : Codec ε Nat) (c : Codec ε α) : Codec ε (List α) where
  write as := length.write as.length ++ as.flatMap c.write
  read := do
    let count ← length.read
    readMany c count

theorem RoundTrips.readMany {c : Codec ε α} (hc : c.RoundTrips) (as : List α) (rest : Bytes) :
    (c.readMany as.length).run (as.flatMap c.write ++ rest) = .ok (as, rest) := by
  induction as with
  | nil => rfl
  | cons a as ih =>
    simp only [List.flatMap_cons, List.length_cons, List.append_assoc, Codec.readMany]
    rw [hc.run_bind, Reader.run_bind_of_ok ih]
    rfl

theorem Canonical.readMany {c : Codec ε α} (hc : c.Canonical) (count : Nat) :
    ∀ (input : Bytes) (as : List α) (rest : Bytes), (c.readMany count).run input = .ok (as, rest) →
      as.length = count ∧ input = as.flatMap c.write ++ rest := by
  induction count with
  | zero =>
    intro input as rest h
    cases Reader.run_pure_eq_ok.mp h
    exact ⟨rfl, rfl⟩
  | succ count ih =>
    intro input as rest h
    obtain ⟨a, mid, rfl, hmid⟩ := hc.of_run_bind h
    obtain ⟨more, last, hmore, hlast⟩ := Reader.run_bind_eq_ok.mp hmid
    obtain ⟨counted, rfl⟩ := ih mid more last hmore
    cases Reader.run_pure_eq_ok.mp hlast
    exact ⟨by simp [counted], by simp⟩

theorem RoundTrips.sequence {length : Codec ε Nat} {c : Codec ε α} (hlen : length.RoundTrips)
    (hc : c.RoundTrips) : (sequence length c).RoundTrips := by
  intro as rest
  simp only [Codec.sequence, List.append_assoc]
  rw [hlen.run_bind]
  exact hc.readMany as rest

theorem Canonical.sequence {length : Codec ε Nat} {c : Codec ε α} (hlen : length.Canonical)
    (hc : c.Canonical) : (sequence length c).Canonical := by
  intro input as rest h
  obtain ⟨count, mid, rfl, hmid⟩ := hlen.of_run_bind h
  obtain ⟨rfl, rfl⟩ := hc.readMany count mid as rest hmid
  simp [Codec.sequence]

end Codec

end SupraFromScratch.Theory
