import Mathlib.Algebra.Order.Field.Rat
import Mathlib.Tactic.FieldSimp
import Mathlib.Tactic.Ring
import Oppen.Ledger.Event

/-! # Decimals and pilot errors

What the pilot accounting uses of `rust_decimal`, and the stops and errors whose
amounts are decimals.
-/

namespace Oppen.Ledger

/-- What the ledger uses of `rust_decimal`, documented as free of round-off errors: an
operation that returns a decimal returns the exact value. It does while the exact value fits the
ninety-six bits and the twenty-eight places of a decimal; results that do not fit are not covered.
Comparison is by value. -/
structure Decimals where
  Decimal : Type
  value : Decimal → ℚ
  /-- `Decimal::from` an integer. -/
  ofInt : Int → Decimal
  /-- `Decimal::from_str_exact`. -/
  fromStrExact : String → Option Decimal
  /-- `rust_decimal::serde::str` reading a text. -/
  deserialize : String → Option Decimal
  /-- `Decimal::to_string`. -/
  display : Decimal → String
  checkedAdd : Decimal → Decimal → Option Decimal
  checkedSub : Decimal → Decimal → Option Decimal
  checkedMul : Decimal → Decimal → Option Decimal
  neg : Decimal → Decimal
  value_ofInt : ∀ number, value (ofInt number) = number
  value_checkedAdd : ∀ left right sum, checkedAdd left right = some sum →
    value sum = value left + value right
  value_checkedSub : ∀ left right difference, checkedSub left right = some difference →
    value difference = value left - value right
  value_checkedMul : ∀ left right product, checkedMul left right = some product →
    value product = value left * value right
  value_neg : ∀ decimal, value (neg decimal) = -value decimal

/-- `Decimal::ZERO`. -/
def Decimals.zero (dec : Decimals) : dec.Decimal := dec.ofInt 0

/-- `Ord::max`. -/
def Decimals.max (dec : Decimals) (left right : dec.Decimal) : dec.Decimal :=
  if dec.value left ≤ dec.value right then right else left

@[simp] theorem Decimals.value_zero (dec : Decimals) : dec.value dec.zero = 0 := by
  rw [zero, dec.value_ofInt, Int.cast_zero]

/-- The larger of two decimals has the larger value. -/
theorem Decimals.value_max (dec : Decimals) (left right : dec.Decimal) :
    dec.value (dec.max left right) = Max.max (dec.value left) (dec.value right) := by
  unfold Decimals.max
  split
  · rename_i below
    exact (max_eq_right below).symm
  · rename_i above
    exact (max_eq_left (not_le.mp above).le).symm

/-! ## Exact decimals -/

/-- A decimal as a coefficient and a number of fraction digits. -/
structure FixedPoint where
  coefficient : Int
  scale : Nat
  deriving DecidableEq, Repr

namespace FixedPoint

def value (decimal : FixedPoint) : ℚ := decimal.coefficient / 10 ^ decimal.scale

/-- The coefficient at a larger number of fraction digits. -/
def rescale (decimal : FixedPoint) (scale : Nat) : Int :=
  decimal.coefficient * 10 ^ (scale - decimal.scale)

def add (left right : FixedPoint) : FixedPoint :=
  let scale := Nat.max left.scale right.scale
  ⟨left.rescale scale + right.rescale scale, scale⟩

def neg (decimal : FixedPoint) : FixedPoint := ⟨-decimal.coefficient, decimal.scale⟩

def mul (left right : FixedPoint) : FixedPoint :=
  ⟨left.coefficient * right.coefficient, left.scale + right.scale⟩

/-- Digits, with a point before the fraction if there is one. -/
def parseDigits (chars : List Char) : Option FixedPoint :=
  let whole := chars.takeWhile Char.isDigit
  match chars.dropWhile Char.isDigit with
  | [] => if whole = [] then none else some ⟨Nat.ofDigitChars 10 whole 0, 0⟩
  | '.' :: fraction =>
      if whole = [] ∨ fraction = [] ∨ fraction.all Char.isDigit = false then none
      else some ⟨Nat.ofDigitChars 10 (whole ++ fraction) 0, fraction.length⟩
  | _ => none

def parse (text : String) : Option FixedPoint :=
  match text.toList with
  | '-' :: rest => (parseDigits rest).map neg
  | chars => parseDigits chars

def display (decimal : FixedPoint) : String :=
  let digits := (Nat.toDigits 10 decimal.coefficient.natAbs).leftpad (decimal.scale + 1) '0'
  let whole := digits.take (digits.length - decimal.scale)
  let fraction := digits.drop (digits.length - decimal.scale)
  String.ofList ((if decimal.coefficient < 0 then ['-'] else []) ++ whole ++
    if fraction = [] then [] else '.' :: fraction)

/-- The digits of a coefficient, with zeros in front up to one digit before the point. -/
def digits (decimal : FixedPoint) : List Char :=
  (Nat.toDigits 10 decimal.coefficient.natAbs).leftpad (decimal.scale + 1) '0'

/-- A decimal's digits are digits. -/
theorem isDigit_digits (decimal : FixedPoint) : ∀ char ∈ decimal.digits, char.isDigit = true := by
  intro char member
  rcases List.mem_append.mp member with padding | digit
  · rw [(List.mem_replicate.mp padding).2]
    rfl
  · exact Nat.isDigit_of_mem_toDigits (by decide) (by decide) digit

/-- The digits of a decimal are read back as its coefficient. -/
theorem ofDigitChars_digits (decimal : FixedPoint) :
    Nat.ofDigitChars 10 decimal.digits 0 = decimal.coefficient.natAbs := by
  rw [digits, List.leftpad, Nat.ofDigitChars_append, Nat.ofDigitChars_replicate_zero, Nat.mul_zero,
    Nat.ofDigitChars_ten_toDigits]

/-- Digits are taken up to what follows them. -/
theorem takeWhile_digits {digits rest : List Char} (all : ∀ char ∈ digits, char.isDigit = true)
    (ends : ∀ char ∈ rest.head?, char.isDigit = false) :
    (digits ++ rest).takeWhile Char.isDigit = digits ∧
      (digits ++ rest).dropWhile Char.isDigit = rest := by
  have stops : rest.takeWhile Char.isDigit = [] ∧ rest.dropWhile Char.isDigit = rest := by
    cases rest with
    | nil => exact ⟨rfl, rfl⟩
    | cons char rest =>
        have other := ends char rfl
        exact ⟨List.takeWhile_cons_of_neg (by rw [other]; exact Bool.false_ne_true),
          List.dropWhile_cons_of_neg (by rw [other]; exact Bool.false_ne_true)⟩
  rw [List.takeWhile_append_of_pos all, List.dropWhile_append_of_pos all, stops.1, stops.2,
    List.append_nil]
  exact ⟨rfl, rfl⟩

/-- The digits on both sides of the point are read back. -/
theorem parseDigits_display (decimal : FixedPoint) :
    parseDigits (decimal.digits.take (decimal.digits.length - decimal.scale) ++
      if decimal.digits.drop (decimal.digits.length - decimal.scale) = [] then []
      else '.' :: decimal.digits.drop (decimal.digits.length - decimal.scale)) =
      some ⟨decimal.coefficient.natAbs, decimal.scale⟩ := by
  have long : decimal.scale + 1 ≤ decimal.digits.length := by
    rw [digits, List.length_leftpad]
    exact le_max_left _ _
  have value := ofDigitChars_digits decimal
  have all := isDigit_digits decimal
  generalize decimal.digits = digits at long value all
  have split := List.take_append_drop (digits.length - decimal.scale) digits
  have width : (digits.drop (digits.length - decimal.scale)).length = decimal.scale := by
    rw [List.length_drop]
    omega
  have whole : digits.take (digits.length - decimal.scale) ≠ [] := by
    intro empty
    have none := congrArg List.length empty
    rw [List.length_take, List.length_nil] at none
    omega
  have wholeDigits : ∀ char ∈ digits.take (digits.length - decimal.scale), char.isDigit = true :=
    fun char member => all char (List.mem_of_mem_take member)
  have fractionDigits : ∀ char ∈ digits.drop (digits.length - decimal.scale), char.isDigit = true :=
    fun char member => all char (List.mem_of_mem_drop member)
  generalize digits.take (digits.length - decimal.scale) = front at split whole wholeDigits ⊢
  generalize digits.drop (digits.length - decimal.scale) = fraction at split width fractionDigits ⊢
  rw [← split] at value
  by_cases none : fraction = []
  · subst none
    obtain ⟨taken, dropped⟩ := @takeWhile_digits _ [] wholeDigits (by rintro _ ⟨⟩)
    rw [if_pos rfl, parseDigits, taken, dropped]
    change (if front = [] then _ else _) = _
    rw [List.append_nil] at value
    rw [if_neg whole, value, ← width]
    rfl
  · obtain ⟨taken, dropped⟩ := @takeWhile_digits _ ('.' :: fraction) wholeDigits
      (by rintro _ ⟨⟩; rfl)
    rw [if_neg none, parseDigits, taken, dropped]
    change (if front = [] ∨ fraction = [] ∨ fraction.all Char.isDigit = false then _ else _) = _
    rw [if_neg, value, width]
    rw [List.all_eq_true.mpr fractionDigits]
    simp only [whole, none, Bool.true_eq_false, or_self, not_false_eq_true]

/-- **A decimal is read back from its text.** -/
theorem parse_display (decimal : FixedPoint) : parse decimal.display = some decimal := by
  have body := parseDigits_display decimal
  have nonempty : decimal.digits.take (decimal.digits.length - decimal.scale) ≠ [] := by
    intro empty
    have none := congrArg List.length empty
    rw [List.length_take, List.length_nil, digits, List.length_leftpad] at none
    omega
  have leading : ∀ char ∈ decimal.digits.take (decimal.digits.length - decimal.scale),
      char.isDigit = true := fun char member =>
    isDigit_digits decimal char (List.mem_of_mem_take member)
  have shown : decimal.display.toList = (if decimal.coefficient < 0 then ['-'] else []) ++
      (decimal.digits.take (decimal.digits.length - decimal.scale) ++
        if decimal.digits.drop (decimal.digits.length - decimal.scale) = [] then []
        else '.' :: decimal.digits.drop (decimal.digits.length - decimal.scale)) := by
    rw [display, String.toList_ofList, List.append_assoc]
    rfl
  rw [parse, shown]
  by_cases negative : decimal.coefficient < 0
  · rw [if_pos negative]
    rw [List.singleton_append]
    change Option.map neg (parseDigits _) = _
    rw [body, Option.map_some, neg, Int.ofNat_natAbs_of_nonpos negative.le, Int.neg_neg]
  · rw [if_neg negative, List.nil_append]
    obtain ⟨first, front, same⟩ := List.exists_cons_of_ne_nil nonempty
    rw [same] at body leading ⊢
    have digit := leading first (List.mem_cons_self ..)
    split
    · rename_i signed
      rw [List.cons_append] at signed
      rw [(List.cons.inj signed).1] at digit
      exact absurd digit (by decide)
    · rw [body, Int.natAbs_of_nonneg (not_lt.mp negative)]

/-- Writing a decimal with more places keeps its value. -/
theorem value_rescale {decimal : FixedPoint} {scale : Nat} (wide : decimal.scale ≤ scale) :
    (decimal.rescale scale : ℚ) / 10 ^ scale = decimal.value := by
  have split : (10 : ℚ) ^ scale = 10 ^ (scale - decimal.scale) * 10 ^ decimal.scale := by
    rw [← pow_add, Nat.sub_add_cancel wide]
  rw [rescale, value, split]
  push_cast
  field_simp

/-- The sum of decimals has the sum of their values. -/
theorem value_add (left right : FixedPoint) :
    (left.add right).value = left.value + right.value := by
  have first := value_rescale (Nat.le_max_left left.scale right.scale)
  have second := value_rescale (Nat.le_max_right left.scale right.scale)
  rw [← first, ← second, ← add_div, ← Int.cast_add]
  rfl

theorem value_neg (decimal : FixedPoint) : decimal.neg.value = -decimal.value := by
  simp only [value, neg, Int.cast_neg, neg_div]

/-- The product of decimals has the product of their values. -/
theorem value_mul (left right : FixedPoint) :
    (left.mul right).value = left.value * right.value := by
  simp only [value, mul, Int.cast_mul, pow_add, div_mul_div_comm]

end FixedPoint

/-- Decimals of unbounded width in place of the real ones. -/
def Decimals.reference : Decimals where
  Decimal := FixedPoint
  value := FixedPoint.value
  ofInt number := ⟨number, 0⟩
  fromStrExact := FixedPoint.parse
  deserialize := FixedPoint.parse
  display := FixedPoint.display
  checkedAdd left right := some (left.add right)
  checkedSub left right := some (left.add right.neg)
  checkedMul left right := some (left.mul right)
  neg := FixedPoint.neg
  value_ofInt number := by simp only [FixedPoint.value, pow_zero, div_one]
  value_checkedAdd left right sum same := by
    cases same
    exact FixedPoint.value_add left right
  value_checkedSub left right difference same := by
    cases same
    rw [FixedPoint.value_add, FixedPoint.value_neg, sub_eq_add_neg]
  value_checkedMul left right product same := by
    cases same
    exact FixedPoint.value_mul left right
  value_neg := FixedPoint.value_neg

/-- The budgets of a supervised pilot. -/
inductive PilotMetric where
  | orderNotional
  | executedNotional
  | committedNotional
  | realizedLoss
  deriving DecidableEq, Repr

/-- Why a pilot no longer admits orders. -/
inductive PilotStop (Decimal : Type) where
  | awaitingReconciliation
  | exhausted (metric : PilotMetric) (observedUsd limitUsd : Decimal)
  | unavailable (detail : String)

/-- Errors of the pilot accounting. -/
inductive PilotError (Decimal : Type) where
  | ledger (error : LedgerError)
  | unavailable (detail : String)
  | exhausted (metric : PilotMetric) (observedUsd limitUsd : Decimal)

/-- `PilotStop::error`. -/
def PilotStop.error {Decimal : Type} : PilotStop Decimal → PilotError Decimal
  | .awaitingReconciliation =>
      .unavailable "account fills await durable order reconciliation"
  | .exhausted metric observedUsd limitUsd => .exhausted metric observedUsd limitUsd
  | .unavailable detail => .unavailable detail

/-- Errors of the submission journal. -/
inductive SubmissionError (Decimal : Type) where
  | pilot (error : PilotError Decimal)
  | ledger (error : LedgerError)
  | busy (cloid : String)
  | duplicateCloid
  | staleRevision
  | missingIntent
  | wrongNetwork
  | invalidRecord (detail : String)

end Oppen.Ledger
