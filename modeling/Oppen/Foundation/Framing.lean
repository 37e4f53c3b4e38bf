import Mathlib.Algebra.Group.Nat.Defs
import Mathlib.Data.List.Basic
import Mathlib.Data.Set.Basic
import Mathlib.Logic.Function.Basic

/-! # Self-delimiting encodings

An encoding is self-delimiting on a domain when a word of that domain can be
read off the front of any longer string in only one way. Concatenating
self-delimiting encodings keeps the property, so a record whose fields are
framed one after the other is determined by its encoding.
-/

namespace Foundation

variable {α β γ σ : Type}

/-- Words of the domain can be read off the front of a string in one way only. -/
def SelfDelimiting (domain : Set α) (encode : α → List σ) : Prop :=
  ∀ ⦃first⦄, first ∈ domain → ∀ ⦃second⦄, second ∈ domain → ∀ ⦃left right : List σ⦄,
    encode first ++ left = encode second ++ right → first = second ∧ left = right

/-- A self delimiting encoding is injective: the framing needs nothing after the value to tell
values apart. -/
theorem SelfDelimiting.injOn {domain : Set α} {encode : α → List σ}
    (delimited : SelfDelimiting domain encode) : Set.InjOn encode domain := by
  intro first inFirst second inSecond same
  have padded : encode first ++ [] = encode second ++ [] := by rw [same]
  exact (delimited inFirst inSecond padded).1

/-- Injective words of one common length are self-delimiting. -/
theorem SelfDelimiting.of_length {domain : Set α} {encode : α → List σ} (width : Nat)
    (lengths : ∀ value, (encode value).length = width) (injective : Set.InjOn encode domain) :
    SelfDelimiting domain encode := by
  intro first inFirst second inSecond left right same
  have widths : (encode first).length = (encode second).length := by rw [lengths, lengths]
  obtain ⟨words, rests⟩ := List.append_inj same widths
  exact ⟨injective inFirst inSecond words, rests⟩

/-- A constant word before a self-delimiting one. -/
theorem SelfDelimiting.const_append {domain : Set α} {encode : α → List σ} (tag : List σ)
    (delimited : SelfDelimiting domain encode) :
    SelfDelimiting domain (fun value => tag ++ encode value) := by
  intro first inFirst second inSecond left right same
  rw [List.append_assoc, List.append_assoc] at same
  exact delimited inFirst inSecond (List.append_cancel_left same)

/-- A word preceded by its length, the length itself written self-delimitingly. -/
theorem SelfDelimiting.lengthPrefixed {lengths : Set Nat} {encodeLength : Nat → List σ}
    (delimited : SelfDelimiting lengths encodeLength) :
    SelfDelimiting {word : List σ | word.length ∈ lengths}
      (fun word => encodeLength word.length ++ word) := by
  intro first inFirst second inSecond left right same
  rw [List.append_assoc, List.append_assoc] at same
  obtain ⟨sameLength, rest⟩ := delimited inFirst inSecond same
  exact List.append_inj rest sameLength

/-- An optional word preceded by a presence symbol. -/
theorem SelfDelimiting.option {domain : Set α} {encode : α → List σ} {absent present : σ}
    (delimited : SelfDelimiting domain encode) (distinct : absent ≠ present) :
    SelfDelimiting {value : Option α | ∀ inner ∈ value, inner ∈ domain}
      (fun value => match value with
        | none => [absent]
        | some inner => present :: encode inner) := by
  intro first inFirst second inSecond left right same
  match first, second with
  | none, none => exact ⟨rfl, by simpa only [List.cons_append, List.nil_append,
      List.cons.injEq, true_and] using same⟩
  | none, some _ =>
      simp only [List.cons_append, List.cons.injEq] at same
      exact absurd same.1 distinct
  | some _, none =>
      simp only [List.cons_append, List.cons.injEq] at same
      exact absurd same.1.symm distinct
  | some one, some two =>
      simp only [List.cons_append, List.cons.injEq, true_and] at same
      obtain ⟨values, rests⟩ := delimited (inFirst one rfl) (inSecond two rfl) same
      exact ⟨congrArg some values, rests⟩

/-! ## Big-endian integers -/

/-- The `width` low-order base-256 digits of a number, most significant first. -/
def bigEndian : (width number : Nat) → List UInt8
  | 0, _ => []
  | width + 1, number => bigEndian width (number / 256) ++ [UInt8.ofNat number]

/-- The big endian form has the width that was asked for. -/
@[simp] theorem length_bigEndian (width number : Nat) :
    (bigEndian width number).length = width := by
  induction width generalizing number with
  | zero => rfl
  | succ width ih => simp only [bigEndian, List.length_append, ih, List.length_singleton]

/-- The big endian form tells apart the numbers that fit in its width. -/
theorem bigEndian_injOn (width : Nat) :
    Set.InjOn (bigEndian width) {number | number < 256 ^ width} := by
  induction width with
  | zero =>
      intro first inFirst second inSecond _
      change first < 1 at inFirst
      change second < 1 at inSecond
      omega
  | succ width ih =>
      intro first inFirst second inSecond same
      simp only [bigEndian] at same
      obtain ⟨high, low⟩ := List.append_inj' same rfl
      have bound (number : Nat) (small : number < 256 ^ (width + 1)) :
          number / 256 < 256 ^ width :=
        Nat.div_lt_of_lt_mul (by rw [Nat.pow_succ] at small; omega)
      have quotients : first / 256 = second / 256 :=
        ih (bound first inFirst) (bound second inSecond) high
      have digits : (UInt8.ofNat first).toNat = (UInt8.ofNat second).toNat := by
        rw [List.cons.inj low |>.1]
      simp only [UInt8.toNat_ofNat'] at digits
      omega

/-- Fixed-width big-endian integers are self-delimiting. -/
theorem selfDelimiting_bigEndian (width : Nat) :
    SelfDelimiting {number | number < 256 ^ width} (bigEndian width) :=
  .of_length width (length_bigEndian width) (bigEndian_injOn width)

end Foundation
