import Oppen.Guardrail.SlippagePrice

/-! # Numbers on the wire

The text of a number is hashed into the signature, so a number has one text: it is read back as the
number, and no other text of it is accepted.
-/

namespace Oppen.Guardrail

open Oppen.Ledger Oppen.Signing

/-! ## Texts of decimals -/

/-- A number written in full: no exponent, a fraction that does not end in zero, and a sign only
where a digit is not zero. -/
structure PlainText (text : String) : Prop where
  plain : ∀ char ∈ text.toList, char.isDigit = true ∨ char = '-' ∨ char = '.'
  fraction : '.' ∈ text.toList → ∃ digit, text.toList.getLast? = some digit ∧
    digit.isDigit = true ∧ digit ≠ '0'
  sign : '-' ∈ text.toList → ∃ digit ∈ text.toList, digit.isDigit = true ∧ digit ≠ '0'

section Digits

variable {decimal : FixedPoint}

/-- The last digit that is written is that of the remainder by ten. -/
theorem getLast?_toDigits (number : ℕ) :
    (Nat.toDigits 10 number).getLast? = some (Nat.digitChar (number % 10)) := by
  rw [Nat.toDigits_eq_if (by decide)]
  split
  case isTrue small => rw [List.getLast?_singleton, Nat.mod_eq_of_lt small]
  case isFalse => rw [List.getLast?_concat]

/-- No digit but zero is written as zero. -/
theorem digitChar_ne_zero : ∀ digit < 10, digit ≠ 0 → Nat.digitChar digit ≠ '0' := by decide

/-- The digits before the point, and those after it. -/
theorem toList_display (decimal : FixedPoint) : ∃ whole fraction,
    decimal.digits = whole ++ fraction ∧ fraction.length = decimal.scale ∧
      decimal.display.toList = (if decimal.coefficient < 0 then ['-'] else []) ++ whole ++
        if fraction = [] then [] else '.' :: fraction := by
  refine ⟨_, _, (List.take_append_drop (decimal.digits.length - decimal.scale) _).symm, ?_,
    String.toList_ofList⟩
  have long : decimal.scale + 1 ≤ decimal.digits.length := by
    rw [FixedPoint.digits, List.length_leftpad]
    exact le_max_left _ _
  rw [List.length_drop]
  omega

/-- A digit is not zero where the coefficient is not. -/
theorem exists_digit (nonzero : decimal.coefficient ≠ 0) :
    ∃ digit ∈ decimal.digits, digit.isDigit = true ∧ digit ≠ '0' := by
  by_contra zeros
  have same : decimal.digits = List.replicate decimal.digits.length '0' := by
    refine List.eq_replicate_of_mem fun digit member => ?_
    by_contra other
    exact zeros ⟨digit, member, decimal.isDigit_digits digit member, other⟩
  have value := decimal.ofDigitChars_digits
  rw [same, Nat.ofDigitChars_replicate_zero] at value
  omega

/-- The last digit is that of the coefficient. -/
theorem getLast?_digits (decimal : FixedPoint) :
    decimal.digits.getLast? = some (Nat.digitChar (decimal.coefficient.natAbs % 10)) := by
  rw [FixedPoint.digits, List.leftpad, List.getLast?_append, getLast?_toDigits]
  rfl

/-- A decimal without trailing zeros is written in full. -/
theorem plainText_display (nonzero : decimal.coefficient ≠ 0)
    (stripped : decimal.scale ≠ 0 → ¬ (10 : ℤ) ∣ decimal.coefficient) :
    PlainText decimal.display := by
  have digits := decimal.isDigit_digits
  have last := getLast?_digits decimal
  obtain ⟨digit, inside, isDigit, positive⟩ := exists_digit nonzero
  obtain ⟨whole, fraction, split, width, shown⟩ := toList_display decimal
  rw [split] at digits last inside
  have member : digit ∈ decimal.display.toList := by
    rw [shown]
    rcases List.mem_append.mp inside with before | after
    · exact List.mem_append_left _ (List.mem_append_right _ before)
    · rw [if_neg (List.ne_nil_of_mem after)]
      exact List.mem_append_right _ (List.mem_cons_of_mem _ after)
  constructor
  case plain =>
    intro char found
    rw [shown] at found
    rcases List.mem_append.mp found with front | point
    · rcases List.mem_append.mp front with signed | before
      · split at signed
        · exact .inr (.inl (List.mem_singleton.mp signed))
        · exact absurd signed List.not_mem_nil
      · exact .inl (digits char (List.mem_append_left _ before))
    · split at point
      · exact absurd point List.not_mem_nil
      · rcases List.mem_cons.mp point with rfl | after
        · exact .inr (.inr rfl)
        · exact .inl (digits char (List.mem_append_right _ after))
  case fraction =>
    intro pointed
    have broken : fraction ≠ [] := by
      rintro rfl
      rw [shown, if_pos rfl, List.append_nil] at pointed
      rcases List.mem_append.mp pointed with signed | before
      · split at signed
        · exact absurd (List.mem_singleton.mp signed) (by decide)
        · exact List.not_mem_nil signed
      · have digit := digits '.' (List.mem_append_left _ before)
        exact absurd digit (by decide)
    have placed : decimal.scale ≠ 0 := by
      rw [← width]
      exact fun none => broken (List.length_eq_zero_iff.mp none)
    have unit : decimal.coefficient.natAbs % 10 ≠ 0 := by
      have kept := stripped placed
      omega
    have ends : fraction.getLast? = decimal.display.toList.getLast? := by
      rw [shown, if_neg broken, List.getLast?_append, List.getLast?_cons]
      rw [List.getLast?_eq_some_getLast broken]
      rfl
    rw [List.getLast?_append, ends] at last
    cases final : decimal.display.toList.getLast? with
    | none =>
        rw [List.getLast?_eq_none_iff.mp final] at member
        exact absurd member List.not_mem_nil
    | some char =>
        rw [final, Option.some_or, Option.some.injEq] at last
        rw [final] at ends
        refine ⟨char, rfl, ?_, ?_⟩
        · exact digits char (List.mem_append_right _ (List.mem_of_getLast? ends))
        · rw [last]
          exact digitChar_ne_zero _ (Nat.mod_lt _ (by decide)) unit
  case sign => exact fun _ => ⟨digit, member, isDigit, positive⟩

/-- Zero is written plainly. -/
theorem plainText_zero : PlainText (FixedPoint.display ⟨0, 0⟩) := by
  have text : (FixedPoint.display ⟨0, 0⟩).toList = ['0'] := by decide
  constructor <;> rw [text]
  · intro char member
    rw [List.mem_singleton.mp member]
    exact .inl rfl
  · intro point
    exact absurd (List.mem_singleton.mp point) (by decide)
  · intro sign
    exact absurd (List.mem_singleton.mp sign) (by decide)

end Digits

/-! ## What the wire relies on -/

/-- What the wire relies on in the texts of decimals: `normalize` strips trailing zeros,
`to_string` writes the digits in full, and a text with the digits of a decimal is parsed as it. -/
structure RiskDecimals.Texts (dec : RiskDecimals) (fromStr : String → Option dec.Decimal) :
    Prop where
  stripped : ∀ decimal, dec.scale (dec.normalize decimal) ≠ 0 →
    ¬ (10 : ℤ) ∣ dec.mantissa (dec.normalize decimal)
  display : ∀ decimal, dec.value decimal ≠ 0 →
    dec.display decimal = FixedPoint.display ⟨dec.mantissa decimal, dec.scale decimal⟩
  fromStr : ∀ text decimal,
    FixedPoint.parse text = some ⟨dec.mantissa decimal, dec.scale decimal⟩ →
      ∃ back, fromStr text = some back ∧ dec.value back = dec.value decimal

/-- Why a text or a number is not put on the wire. -/
inductive WireNumberError (Decimal : Type) where
  | wire (error : WireError Decimal)
  | notNormalized (text : String)
  | notRepresentable (number : Decimal) (decimals : UInt32)
  deriving DecidableEq

section Numbers

variable {dec : RiskDecimals} (fromStr : String → Option dec.Decimal)

/-- `WireFloat::parse`: a text that is already normalized. -/
def parseWire (text : String) : Except (WireNumberError dec.Decimal) WireFloat :=
  match fromStr text with
  | none => .error (.notNormalized text)
  | some number => do
      let wire ← mapError .wire (floatToWire dec number)
      refuseIf (wire ≠ text) (.notNormalized text)
      return ⟨wire⟩

/-! ## The one text of a number -/

variable {fromStr} (texts : dec.Texts fromStr)

include texts

/-- The digits of a number depend on its value. -/
theorem parts_of_value {first second : dec.Decimal} (same : dec.value first = dec.value second) :
    dec.mantissa (dec.normalize first) = dec.mantissa (dec.normalize second) ∧
      dec.scale (dec.normalize first) = dec.scale (dec.normalize second) := by
  have values : (⟨dec.mantissa (dec.normalize first), dec.scale (dec.normalize first)⟩ :
      FixedPoint).value =
        (⟨dec.mantissa (dec.normalize second), dec.scale (dec.normalize second)⟩ :
          FixedPoint).value := by
    rw [FixedPoint.value, FixedPoint.value, ← dec.value_parts, ← dec.value_parts,
      dec.value_normalize, dec.value_normalize, same]
  have equal := FixedPoint.eq_of_value values (texts.stripped first) (texts.stripped second)
  exact ⟨congrArg FixedPoint.coefficient equal, congrArg FixedPoint.scale equal⟩

/-- Nothing is left of zero but the digit. -/
theorem parts_of_zero {number : dec.Decimal} (zero : dec.value number = 0) :
    dec.mantissa (dec.normalize number) = 0 ∧ dec.scale (dec.normalize number) = 0 := by
  have parts := dec.value_parts (dec.normalize number)
  have none : dec.mantissa (dec.normalize number) = 0 := by
    rw [dec.value_normalize, zero, eq_comm, div_eq_zero_iff] at parts
    exact_mod_cast parts.resolve_right (by positivity)
  refine ⟨none, ?_⟩
  by_contra placed
  exact texts.stripped number placed (none ▸ Int.dvd_zero 10)

/-- The text of a number is that of its digits. -/
theorem floatToWire_ok_iff {number : dec.Decimal} {text : String} :
    floatToWire dec number = .ok text ↔ dec.scale (dec.normalize number) ≤ wireDecimals ∧
      text = FixedPoint.display
        ⟨dec.mantissa (dec.normalize number), dec.scale (dec.normalize number)⟩ := by
  have written : (if dec.value (dec.normalize number) = 0 then "0"
      else dec.display (dec.normalize number)) = FixedPoint.display
        ⟨dec.mantissa (dec.normalize number), dec.scale (dec.normalize number)⟩ := by
    rw [dec.value_normalize]
    split
    case isTrue zero =>
      obtain ⟨mantissa, scale⟩ := parts_of_zero texts zero
      rw [mantissa, scale]
      decide
    case isFalse nonzero => exact texts.display _ (dec.value_normalize number ▸ nonzero)
  rw [← written]
  simp only [floatToWire, refuseIf]
  split
  case isTrue long =>
    constructor
    · intro run
      cases run
    · exact fun fits => absurd long (not_lt.mpr fits.1)
  case isFalse short =>
    constructor
    · intro run
      refine ⟨not_lt.mp short, ?_⟩
      split
      case isTrue zero => exact (Except.ok.inj ((if_pos zero).symm.trans run)).symm
      case isFalse nonzero => exact (Except.ok.inj ((if_neg nonzero).symm.trans run)).symm
    · rintro ⟨-, rfl⟩
      split <;> rfl

/-- It is written in full. -/
theorem plainText_of_wire {number : dec.Decimal} {text : String}
    (run : floatToWire dec number = .ok text) : PlainText text := by
  obtain ⟨-, rfl⟩ := (floatToWire_ok_iff texts).mp run
  by_cases zero : dec.value number = 0
  · obtain ⟨mantissa, scale⟩ := parts_of_zero texts zero
    rw [mantissa, scale]
    exact plainText_zero
  · refine plainText_display ?_ (texts.stripped number)
    intro none
    refine zero ?_
    rw [← dec.value_normalize, dec.value_parts]
    change dec.mantissa (dec.normalize number) = 0 at none
    rw [none, Int.cast_zero, zero_div]

/-- It is parsed as the number. -/
theorem fromStr_of_wire {number : dec.Decimal} {text : String}
    (run : floatToWire dec number = .ok text) :
    ∃ back, fromStr text = some back ∧ dec.value back = dec.value number := by
  obtain ⟨-, rfl⟩ := (floatToWire_ok_iff texts).mp run
  obtain ⟨back, parsed, same⟩ := texts.fromStr _ (dec.normalize number) (FixedPoint.parse_display _)
  exact ⟨back, parsed, same.trans (dec.value_normalize number)⟩

/-- Numbers of one value have one text. -/
theorem floatToWire_of_value {first second : dec.Decimal} {text : String}
    (same : dec.value first = dec.value second) (run : floatToWire dec first = .ok text) :
    floatToWire dec second = .ok text := by
  obtain ⟨mantissa, scale⟩ := parts_of_value texts same
  rw [floatToWire_ok_iff texts, mantissa, scale] at run
  exact (floatToWire_ok_iff texts).mpr run

/-- Two numbers are sent as one text exactly if they have one value. -/
theorem floatToWire_eq_iff {first second : dec.Decimal} {text text' : String}
    (run : floatToWire dec first = .ok text) (run' : floatToWire dec second = .ok text') :
    text = text' ↔ dec.value first = dec.value second := by
  constructor
  · rintro rfl
    obtain ⟨back, parsed, value⟩ := fromStr_of_wire texts run
    obtain ⟨back', parsed', value'⟩ := fromStr_of_wire texts run'
    obtain rfl := Option.some.inj (parsed.symm.trans parsed')
    exact value.symm.trans value'
  · intro same
    exact Except.ok.inj ((floatToWire_of_value texts same run).symm.trans run')

/-- A text is accepted, as it stands, exactly when it is the text of a number. -/
theorem parseWire_ok_iff {text : String} {wire : WireFloat} :
    parseWire fromStr text = .ok wire ↔
      wire = ⟨text⟩ ∧ ∃ number, floatToWire dec number = .ok text := by
  constructor
  · intro run
    unfold parseWire at run
    split at run
    · cases run
    · obtain ⟨normal, written, run⟩ := bind_eq_ok run
      obtain ⟨_, same, run⟩ := bind_eq_ok run
      cases run
      obtain rfl := not_not.mp (refuseIf_ok same)
      exact ⟨rfl, _, mapError_eq_ok written⟩
  · rintro ⟨rfl, number, run⟩
    obtain ⟨back, parsed, same⟩ := fromStr_of_wire texts run
    have again := floatToWire_of_value texts same.symm run
    simp only [parseWire, parsed, again, mapError, bind, Except.bind, refuseIf, ne_eq,
      not_true_eq_false, if_false]
    rfl

end Numbers

/-! ## Scaled numbers -/

/-- What a build of the program does where an integer overflows. -/
inductive Overflow where
  | panics
  | wraps
  deriving DecidableEq

/-- `10i64.pow(decimals)`, with `none` for a panic. -/
def powTen (overflow : Overflow) (decimals : UInt32) : Option ℤ :=
  if (10 : ℤ) ^ decimals.toNat < 2 ^ 63 then some (10 ^ decimals.toNat)
  else
    match overflow with
    | .panics => none
    | .wraps => some (Int.bmod (10 ^ decimals.toNat) (2 ^ 64))

section Scaled

variable {dec : RiskDecimals}

/-- `decimal_to_int`, with `none` for a panic. -/
def decimalToInt (overflow : Overflow) (number : dec.Decimal) (decimals : UInt32) :
    Option (Except (WireNumberError dec.Decimal) ℤ) := do
  let normal := dec.normalize number
  if decimals.toNat < dec.scale normal then return .error (.notRepresentable number decimals)
  else
    let power ← powTen overflow decimals
    match dec.checkedMul normal (dec.ofInt power) with
    | none => return .error (.notRepresentable number decimals)
    | some scaled =>
        let mantissa := dec.mantissa (dec.normalize scaled)
        if -2 ^ 63 ≤ mantissa ∧ mantissa < 2 ^ 63 then return .ok mantissa
        else return .error (.notRepresentable number decimals)

/-- The call returns the scaled number or an error. -/
def ScalesExactly (overflow : Overflow) (number : dec.Decimal) (decimals : UInt32) : Prop :=
  ∃ result, decimalToInt overflow number decimals = some result ∧
    ∀ scaled, result = .ok scaled → (scaled : ℚ) = dec.value number * 10 ^ decimals.toNat

/-- A power of ten up to the 18th is answered in every build. -/
theorem powTen_of_le (overflow : Overflow) {decimals : UInt32} (small : decimals.toNat ≤ 18) :
    powTen overflow decimals = some (10 ^ decimals.toNat) := by
  refine if_pos ?_
  calc (10 : ℤ) ^ decimals.toNat ≤ 10 ^ 18 := pow_le_pow_right₀ (by norm_num) small
    _ < 2 ^ 63 := by norm_num

/-- A larger power panics in a build that checks overflow. -/
theorem powTen_panics {decimals : UInt32} (large : 18 < decimals.toNat) :
    powTen .panics decimals = none := by
  refine if_neg (not_lt.mpr ?_)
  calc (2 : ℤ) ^ 63 ≤ 10 ^ 19 := by norm_num
    _ ≤ 10 ^ decimals.toNat := pow_le_pow_right₀ (by norm_num) large

/-- A whole number has no digits after the point. -/
theorem mantissa_of_whole {fromStr : String → Option dec.Decimal} (texts : dec.Texts fromStr)
    {number : dec.Decimal} {whole : ℤ} (same : dec.value number = whole) :
    dec.mantissa (dec.normalize number) = whole := by
  have parts := dec.value_parts (dec.normalize number)
  rw [dec.value_normalize, same, eq_div_iff (by positivity)] at parts
  have product : whole * 10 ^ dec.scale (dec.normalize number) =
      dec.mantissa (dec.normalize number) := by exact_mod_cast parts
  by_cases placed : dec.scale (dec.normalize number) = 0
  · rw [← product, placed, pow_zero, mul_one]
  · obtain ⟨scale, more⟩ := Nat.exists_eq_succ_of_ne_zero placed
    refine absurd ⟨whole * 10 ^ scale, ?_⟩ (texts.stripped number placed)
    rw [← product, more, pow_succ]
    ring

/-- A number is scaled exactly, in every build, when the power of ten is an `i64`, or when the
number has more decimals than that. -/
theorem scalesExactly_iff {fromStr : String → Option dec.Decimal} (texts : dec.Texts fromStr)
    (number : dec.Decimal) (decimals : UInt32) :
    (∀ overflow, ScalesExactly overflow number decimals) ↔
      decimals.toNat ≤ 18 ∨ decimals.toNat < dec.scale (dec.normalize number) := by
  constructor
  · intro exact
    by_contra neither
    rw [not_or] at neither
    obtain ⟨result, run, _⟩ := exact .panics
    simp only [decimalToInt, if_neg neither.2, powTen_panics (not_le.mp neither.1)] at run
    cases run
  · intro either overflow
    by_cases long : decimals.toNat < dec.scale (dec.normalize number)
    · exact ⟨_, if_pos long, nofun⟩
    have power := powTen_of_le overflow (either.resolve_right long)
    -- the product is a whole number
    obtain ⟨rest, whole⟩ : ∃ rest, decimals.toNat = dec.scale (dec.normalize number) + rest :=
      Nat.exists_eq_add_of_le (not_lt.mp long)
    have value : dec.value number * 10 ^ decimals.toNat =
        (dec.mantissa (dec.normalize number) * 10 ^ rest : ℤ) := by
      rw [← dec.value_normalize, dec.value_parts, whole, pow_add]
      push_cast
      field_simp
    simp only [ScalesExactly, decimalToInt, if_neg long, power, Option.bind_eq_bind,
      Option.bind_some]
    cases multiplied : dec.checkedMul (dec.normalize number) (dec.ofInt (10 ^ decimals.toNat)) with
    | none => exact ⟨_, rfl, nofun⟩
    | some scaled =>
        have product := dec.value_checkedMul _ _ _ multiplied
        rw [dec.value_normalize, dec.value_ofInt] at product
        push_cast at product
        dsimp only
        split
        · refine ⟨_, rfl, fun result same => ?_⟩
          rw [← Except.ok.inj same, mantissa_of_whole texts (product.trans value), value]
        · exact ⟨_, rfl, nofun⟩

end Scaled

/-- **A number has one text on the wire.** The text is written in full and parsed as the number, two
numbers have one text exactly when they are equal, and a text is accepted exactly when it is that of
a number; a number is scaled to an integer exactly, in every build, when the power of ten is an
`i64` or the number has more decimals. -/
theorem wireFloat_canonical {dec : RiskDecimals} {fromStr : String → Option dec.Decimal}
    (texts : dec.Texts fromStr) :
    (∀ number text, floatToWire dec number = .ok text → PlainText text ∧
      ∃ back, fromStr text = some back ∧ dec.value back = dec.value number) ∧
    (∀ first second text text', floatToWire dec first = .ok text →
      floatToWire dec second = .ok text' →
        (text = text' ↔ dec.value first = dec.value second)) ∧
    (∀ text wire, parseWire fromStr text = .ok wire ↔
      wire = ⟨text⟩ ∧ ∃ number, floatToWire dec number = .ok text) ∧
    ∀ number decimals, (∀ overflow, ScalesExactly overflow number decimals) ↔
      decimals.toNat ≤ 18 ∨ decimals.toNat < dec.scale (dec.normalize number) :=
  ⟨fun _ _ run => ⟨plainText_of_wire texts run, fromStr_of_wire texts run⟩,
    fun _ _ _ _ run run' => floatToWire_eq_iff texts run run',
    fun _ _ => parseWire_ok_iff texts, scalesExactly_iff texts⟩

/-- The decimals of the reference are read back from their texts. -/
theorem RiskDecimals.reference_texts : RiskDecimals.reference.Texts FixedPoint.parse where
  stripped decimal := stripZeros_stripped decimal.coefficient decimal.scale
  display _ _ := rfl
  fromStr _ decimal parsed := ⟨decimal, parsed, rfl⟩

/-- The text of one and a half. -/
theorem wireFloat_halves : PlainText "1.5" ∧
    ∃ back, FixedPoint.parse "1.5" = some back ∧
      FixedPoint.value back = FixedPoint.value ⟨150, 2⟩ := by
  have written : (floatToWire .reference ⟨150, 2⟩).toOption = some "1.5" := by decide +kernel
  exact (wireFloat_canonical RiskDecimals.reference_texts).1 ⟨150, 2⟩ "1.5" (eq_ok_of_some written)

/-- One is not scaled to nineteen places, in either build. -/
theorem nineteen_places :
    ¬ @ScalesExactly .reference .panics ⟨1, 0⟩ 19 ∧
      ¬ @ScalesExactly .reference .wraps ⟨1, 0⟩ 19 := by
  constructor
  · rintro ⟨result, run, _⟩
    have panics : (@decimalToInt .reference .panics ⟨1, 0⟩ 19).isNone = true := by decide +kernel
    rw [run] at panics
    cases panics
  · rintro ⟨result, run, exact⟩
    have wraps : (@decimalToInt .reference .wraps ⟨1, 0⟩ 19).bind Except.toOption =
        some (-8446744073709551616) := by decide +kernel
    rw [run] at wraps
    have scaled := exact _ (eq_ok_of_some wraps)
    change ((-8446744073709551616 : ℤ) : ℚ) = FixedPoint.value ⟨1, 0⟩ * 10 ^ 19 at scaled
    norm_num [FixedPoint.value] at scaled

end Oppen.Guardrail
