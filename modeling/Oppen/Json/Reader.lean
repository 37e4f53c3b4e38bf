import Mathlib.Data.List.Basic
import Oppen.Json.Value

/-! # Compact JSON text and a reader for it

The compact text of a value, without whitespace and with members in the order
the object holds them, and a reader with a recursion limit. Reading the compact
text of a value without floats gives the value back.
-/

namespace Oppen.Json

/-! ## Compact text -/

/-- One character of a string literal, escaped as `serde_json` escapes it. -/
def escapeChar (character : Char) : List Char :=
  if character = '"' then ['\\', '"']
  else if character = '\\' then ['\\', '\\']
  else if character = '\x08' then ['\\', 'b']
  else if character = '\t' then ['\\', 't']
  else if character = '\n' then ['\\', 'n']
  else if character = '\x0c' then ['\\', 'f']
  else if character = '\r' then ['\\', 'r']
  else if character.toNat < 0x20 then
    ['\\', 'u', '0', '0', Nat.digitChar (character.toNat / 16),
      Nat.digitChar (character.toNat % 16)]
  else [character]

def quoted (text : String) : List Char :=
  '"' :: (text.toList.flatMap escapeChar ++ ['"'])

/-- Integers a `serde_json` number can hold without becoming a float. -/
def InRange : Int → Prop
  | .ofNat value => value < 2 ^ 64
  | .negSucc value => value < 2 ^ 63

instance (value : Int) : Decidable (InRange value) :=
  match value with
  | .ofNat value => inferInstanceAs (Decidable (value < 2 ^ 64))
  | .negSucc value => inferInstanceAs (Decidable (value < 2 ^ 63))

mutual

def Value.chars : Value → List Char
  | .null => ['n', 'u', 'l', 'l']
  | .bool true => ['t', 'r', 'u', 'e']
  | .bool false => ['f', 'a', 'l', 's', 'e']
  | .number (.int value) => (toString value).toList
  | .number (.float _) => []
  | .string text => quoted text
  | .array items => '[' :: (items.chars ++ [']'])
  | .object fields => '{' :: (fields.chars ++ ['}'])

def Values.chars : Values → List Char
  | .nil => []
  | .cons head .nil => head.chars
  | .cons head (.cons next rest) => head.chars ++ ',' :: (Values.cons next rest).chars

def Fields.chars : Fields → List Char
  | .nil => []
  | .cons key value .nil => quoted key ++ ':' :: value.chars
  | .cons key value (.cons key' value' rest) =>
      quoted key ++ ':' :: (value.chars ++ ',' :: (Fields.cons key' value' rest).chars)

end

mutual

/-- No floats, and integers a `serde_json` number can hold. -/
def Value.Integral : Value → Prop
  | .number (.int value) => InRange value
  | .number (.float _) => False
  | .array items => items.Integral
  | .object fields => fields.Integral
  | _ => True

def Values.Integral : Values → Prop
  | .nil => True
  | .cons head rest => head.Integral ∧ rest.Integral

def Fields.Integral : Fields → Prop
  | .nil => True
  | .cons _ value rest => value.Integral ∧ rest.Integral

end

mutual

/-- How many arrays and objects are open around the innermost one. -/
def Value.nesting : Value → Nat
  | .array items => items.nesting + 1
  | .object fields => fields.nesting + 1
  | _ => 0

def Values.nesting : Values → Nat
  | .nil => 0
  | .cons head rest => max head.nesting rest.nesting

def Fields.nesting : Fields → Nat
  | .nil => 0
  | .cons _ value rest => max value.nesting rest.nesting

end

mutual

/-- Nodes of the syntax tree; the fuel the reader needs. -/
def Value.size : Value → Nat
  | .array items => items.size + 1
  | .object fields => fields.size + 1
  | _ => 1

def Values.size : Values → Nat
  | .nil => 0
  | .cons head rest => head.size + rest.size + 1

def Fields.size : Fields → Nat
  | .nil => 0
  | .cons _ value rest => value.size + rest.size + 1

end

/-! ## Reader -/

def hexValue (digit : Char) : Option Nat :=
  if '0' ≤ digit ∧ digit ≤ '9' then some (digit.toNat - '0'.toNat)
  else if 'a' ≤ digit ∧ digit ≤ 'f' then some (digit.toNat - 'a'.toNat + 10)
  else if 'A' ≤ digit ∧ digit ≤ 'F' then some (digit.toNat - 'A'.toNat + 10)
  else none

/-- The character after a backslash, when it is one of the short escapes. -/
def unescape (mark : Char) : Option Char :=
  if mark = '"' then some '"'
  else if mark = '\\' then some '\\'
  else if mark = '/' then some '/'
  else if mark = 'b' then some '\x08'
  else if mark = 't' then some '\t'
  else if mark = 'n' then some '\n'
  else if mark = 'f' then some '\x0c'
  else if mark = 'r' then some '\r'
  else none

/-- Four hexadecimal digits naming a scalar value. -/
def readUnicode : List Char → Option (Char × List Char)
  | a :: b :: c :: d :: rest => do
      let a ← hexValue a
      let b ← hexValue b
      let c ← hexValue c
      let d ← hexValue d
      let code := ((a * 16 + b) * 16 + c) * 16 + d
      if code.isValidChar then some (Char.ofNat code, rest) else none
  | _ => none

/-- One character of a string literal. -/
def readChar : List Char → Option (Char × List Char)
  | [] => none
  | character :: rest =>
      if character = '\\' then
        match rest with
        | [] => none
        | mark :: rest => if mark = 'u' then readUnicode rest
          else (unescape mark).map fun plain => (plain, rest)
      else if character.toNat < 0x20 then none
      else some (character, rest)

/-- The body of a string literal and its closing quote. -/
def readString : (fuel : Nat) → List Char → Option (List Char × List Char)
  | 0, _ => none
  | fuel + 1, chars =>
      if chars.head? = some '"' then some ([], chars.tail)
      else do
        let (character, rest) ← readChar chars
        let (text, rest) ← readString fuel rest
        some (character :: text, rest)

def readQuoted : List Char → Option (String × List Char)
  | '"' :: rest => (readString rest.length rest).map fun (text, rest) => (String.ofList text, rest)
  | _ => none

def readNatural (chars : List Char) : Option (Nat × List Char) :=
  if (chars.takeWhile Char.isDigit).isEmpty then none
  else some (Nat.ofDigitChars 10 (chars.takeWhile Char.isDigit) 0, chars.dropWhile Char.isDigit)

def readInteger (chars : List Char) : Option (Int × List Char) :=
  if chars.head? = some '-' then
    (readNatural chars.tail).map fun (magnitude, rest) => (-(magnitude : Int), rest)
  else (readNatural chars).map fun (magnitude, rest) => ((magnitude : Int), rest)

def readNumber (chars : List Char) : Option (Value × List Char) := do
  let (value, rest) ← readInteger chars
  if InRange value then some (Value.ofInt value, rest) else none

def readLiteral (word : List Char) (value : Value) (rest : List Char) :
    Option (Value × List Char) :=
  if word.isPrefixOf rest then some (value, rest.drop word.length) else none

mutual

/-- Read one value; `remaining` is the recursion limit left, as `serde_json` counts it. -/
def readValue : (fuel remaining : Nat) → List Char → Option (Value × List Char)
  | 0, _, _ => none
  | _ + 1, _, [] => none
  | fuel + 1, remaining, head :: rest =>
      if head = 'n' then readLiteral ['u', 'l', 'l'] .null rest
      else if head = 't' then readLiteral ['r', 'u', 'e'] (.bool true) rest
      else if head = 'f' then readLiteral ['a', 'l', 's', 'e'] (.bool false) rest
      else if head = '"' then
        (readQuoted (head :: rest)).map fun (text, rest) => (.string text, rest)
      else if head = '[' then
        if remaining ≤ 1 then none
        else if rest.head? = some ']' then some (.array .nil, rest.tail)
        else (readItems fuel (remaining - 1) rest).map fun (items, rest) => (.array items, rest)
      else if head = '{' then
        if remaining ≤ 1 then none
        else if rest.head? = some '}' then some (.object .nil, rest.tail)
        else (readFields fuel (remaining - 1) rest).map fun (fields, rest) => (.object fields, rest)
      else readNumber (head :: rest)

/-- Read the items of a nonempty array and its closing bracket. -/
def readItems : (fuel remaining : Nat) → List Char → Option (Values × List Char)
  | 0, _, _ => none
  | fuel + 1, remaining, chars => do
      let (value, rest) ← readValue fuel remaining chars
      if rest.head? = some ']' then some (.cons value .nil, rest.tail)
      else if rest.head? = some ',' then
        (readItems fuel remaining rest.tail).map fun (items, rest) => (.cons value items, rest)
      else none

/-- Read the members of a nonempty object and its closing brace. -/
def readFields : (fuel remaining : Nat) → List Char → Option (Fields × List Char)
  | 0, _, _ => none
  | fuel + 1, remaining, chars => do
      let (key, rest) ← readQuoted chars
      if rest.head? = some ':' then
        let (value, rest) ← readValue fuel remaining rest.tail
        if rest.head? = some '}' then some (.cons key value .nil, rest.tail)
        else if rest.head? = some ',' then
          (readFields fuel remaining rest.tail).map fun (fields, rest) =>
            (.cons key value fields, rest)
        else none
      else none

end

/-- The recursion limit `serde_json` starts from. -/
def recursionLimit : Nat := 128

/-- Read a whole text. -/
def read (chars : List Char) : Option Value :=
  match readValue chars.length recursionLimit chars with
  | some (value, []) => some value
  | _ => none

/-! ## The reader inverts the compact text -/

/-- A hexadecimal digit is read back from its character. -/
theorem hexValue_digitChar : ∀ digit < 16, hexValue (Nat.digitChar digit) = some digit := by
  decide

/-- A character is read back from its escape, whatever follows. -/
theorem readChar_escapeChar (character : Char) (rest : List Char) :
    readChar (escapeChar character ++ rest) = some (character, rest) := by
  unfold escapeChar
  split
  · subst_vars; rfl
  split
  · subst_vars; rfl
  split
  · subst_vars; rfl
  split
  · subst_vars; rfl
  split
  · subst_vars; rfl
  split
  · subst_vars; rfl
  split
  · subst_vars; rfl
  split
  · rename_i control
    have high := hexValue_digitChar (character.toNat / 16) (by omega)
    have low := hexValue_digitChar (character.toNat % 16) (by omega)
    have zero : hexValue '0' = some 0 := by decide
    have code : ((0 * 16 + 0) * 16 + character.toNat / 16) * 16 + character.toNat % 16 =
        character.toNat := by omega
    have valid : character.toNat.isValidChar := character.valid
    simp only [List.cons_append, List.nil_append, readChar, if_true, readUnicode, zero, high, low,
      Option.bind_eq_bind, Option.bind_some, code, valid, Char.ofNat_toNat]
  · rename_i notSlash _ _ _ _ _ printable
    simp only [List.cons_append, List.nil_append, readChar, notSlash, if_false, printable]

/-- No escape begins with a quote, so a text ends only where it was closed. -/
theorem head?_escapeChar (character : Char) (rest : List Char) :
    (escapeChar character ++ rest).head? ≠ some '"' := by
  unfold escapeChar
  repeat' split
  all_goals
    simp only [List.cons_append, List.head?_cons, ne_eq, Option.some.injEq]
    first | assumption | decide

/-- A text is read back from its escaped characters up to the closing quote. The induction is on the
text, and the fuel outlasts it. -/
theorem readString_escaped (text rest : List Char) :
    ∀ fuel, text.length < fuel →
      readString fuel (text.flatMap escapeChar ++ '"' :: rest) = some (text, rest) := by
  induction text with
  | nil =>
      intro fuel enough
      obtain ⟨fuel, rfl⟩ := Nat.exists_eq_add_one_of_ne_zero (Nat.ne_of_gt enough)
      rfl
  | cons character text ih =>
      intro fuel enough
      obtain ⟨fuel, rfl⟩ : ∃ less, fuel = less + 1 := ⟨fuel - 1, by omega⟩
      rw [List.length_cons] at enough
      simp only [List.flatMap_cons, List.append_assoc, readString, head?_escapeChar, if_false,
        readChar_escapeChar, Option.bind_eq_bind, Option.bind_some, ih fuel (by omega)]

theorem length_escapeChar_pos (character : Char) : 0 < (escapeChar character).length := by
  unfold escapeChar
  repeat' split
  all_goals exact Nat.zero_lt_succ _

/-- Escaping a text does not shorten it. -/
theorem length_le_escaped (text : List Char) :
    text.length ≤ (text.flatMap escapeChar).length := by
  induction text with
  | nil => exact Nat.le_refl _
  | cons character text ih =>
      have positive := length_escapeChar_pos character
      rw [List.flatMap_cons, List.length_append, List.length_cons]
      omega

/-- A quoted text is read back, whatever follows. -/
theorem readQuoted_quoted (text : String) (rest : List Char) :
    readQuoted (quoted text ++ rest) = some (text, rest) := by
  have bound := length_le_escaped text.toList
  have read := readString_escaped text.toList rest
    (text.toList.flatMap escapeChar ++ '"' :: rest).length
    (by rw [List.length_append, List.length_cons]; omega)
  simp only [quoted, List.cons_append, List.append_assoc, List.nil_append, readQuoted, read,
    Option.map_some, String.ofList_toList]

/-- What follows a value never continues a number. -/
def EndsNumber (rest : List Char) : Prop := ∀ next ∈ rest.head?, next.isDigit = false

/-- A number is read back from its digits where something else than a digit follows. -/
theorem readNatural_toDigits (number : Nat) {rest : List Char} (ends : EndsNumber rest) :
    readNatural (Nat.toDigits 10 number ++ rest) = some (number, rest) := by
  have digits : ∀ digit ∈ Nat.toDigits 10 number, digit.isDigit = true := fun digit member =>
    Nat.isDigit_of_mem_toDigits (by omega) (by omega) member
  have stop : rest.takeWhile Char.isDigit = [] ∧ rest.dropWhile Char.isDigit = rest := by
    cases rest with
    | nil => exact ⟨rfl, rfl⟩
    | cons next rest =>
        have plain : next.isDigit = false := ends next rfl
        simp only [List.takeWhile_cons, List.dropWhile_cons, plain, Bool.false_eq_true, if_false,
          and_self]
  have taken :
      (Nat.toDigits 10 number ++ rest).takeWhile Char.isDigit = Nat.toDigits 10 number := by
    rw [List.takeWhile_append_of_pos digits, stop.1, List.append_nil]
  have dropped : (Nat.toDigits 10 number ++ rest).dropWhile Char.isDigit = rest := by
    rw [List.dropWhile_append_of_pos digits, stop.2]
  have nonempty : (Nat.toDigits 10 number).isEmpty = false :=
    List.isEmpty_eq_false_iff.mpr Nat.toDigits_ne_nil
  simp only [readNatural, taken, dropped, nonempty, Bool.false_eq_true, if_false,
    Nat.ofDigitChars_toDigits (by omega : 1 < 10) (by omega)]

/-- The text of an integer starts with a digit or a minus sign. -/
theorem toString_int (value : Int) :
    (toString value).toList =
      (if value < 0 then ['-'] else []) ++ Nat.toDigits 10 value.natAbs := by
  cases value with
  | ofNat magnitude =>
      have nonneg : ¬ Int.ofNat magnitude < 0 := Int.not_lt.mpr (Int.natCast_nonneg magnitude)
      simp only [nonneg, if_false, List.nil_append]
      exact Nat.toList_repr
  | negSucc magnitude =>
      have negative : Int.negSucc magnitude < 0 := by omega
      simp only [negative, if_true]
      change ("-" ++ Nat.repr (magnitude + 1)).toList = _
      rw [String.toList_append, Nat.toList_repr]
      rfl

/-- The digits of a number begin with a digit. -/
theorem head_toDigits (number : Nat) (rest : List Char) :
    ∃ digit more, Nat.toDigits 10 number ++ rest = digit :: more ∧ digit.isDigit = true := by
  cases found : Nat.toDigits 10 number with
  | nil => exact absurd found Nat.toDigits_ne_nil
  | cons digit more =>
      refine ⟨digit, more ++ rest, rfl, ?_⟩
      exact Nat.isDigit_of_mem_toDigits (n := number) (by omega : 0 < 10) (by omega)
        (by rw [found]; exact List.mem_cons_self)

/-- An integer is read back from its text, the sign included. -/
theorem readInteger_toString (value : Int) {rest : List Char} (ends : EndsNumber rest) :
    readInteger ((toString value).toList ++ rest) = some (value, rest) := by
  rw [toString_int]
  by_cases negative : value < 0
  · have sign : -(value.natAbs : Int) = value := by omega
    simp only [negative, if_true, List.cons_append, List.nil_append, readInteger, List.head?_cons,
      List.tail_cons, readNatural_toDigits value.natAbs ends, Option.map_some, sign]
  · have sign : (value.natAbs : Int) = value := by omega
    obtain ⟨digit, more, same, isDigit⟩ := head_toDigits value.natAbs rest
    have plain : (Nat.toDigits 10 value.natAbs ++ rest).head? ≠ some '-' := by
      rw [same]
      rintro ⟨rfl⟩
      exact absurd isDigit (by decide)
    simp only [negative, if_false, List.nil_append, readInteger, plain,
      readNatural_toDigits value.natAbs ends, Option.map_some, sign]

/-- The text of an integer starts with none of the characters that open another value. -/
theorem head_toString (value : Int) (rest : List Char) :
    ∃ head more, (toString value).toList ++ rest = head :: more ∧
      (head = '-' ∨ head.isDigit = true) := by
  rw [toString_int]
  by_cases negative : value < 0
  · refine ⟨'-', Nat.toDigits 10 value.natAbs ++ rest, ?_, .inl rfl⟩
    simp only [negative, if_true, List.cons_append, List.nil_append]
  · obtain ⟨digit, more, same, isDigit⟩ := head_toDigits value.natAbs rest
    refine ⟨digit, more, ?_, .inr isDigit⟩
    simp only [negative, if_false, List.nil_append, same]

/-- A number in range is read back as a value. -/
theorem readValue_number (fuel remaining : Nat) {value : Int} (inRange : InRange value)
    {rest : List Char} (ends : EndsNumber rest) :
    readValue (fuel + 1) remaining ((toString value).toList ++ rest) =
      some (.number (.int value), rest) := by
  obtain ⟨head, more, same, shape⟩ := head_toString value rest
  have plain (other : Char) (special : other ≠ '-') (notDigit : other.isDigit = false) :
      head ≠ other := by
    rintro rfl
    rcases shape with minus | digit
    · exact special minus
    · exact absurd digit (by rw [notDigit]; exact Bool.false_ne_true)
  rw [same]
  simp only [readValue, plain 'n' (by decide) (by decide), plain 't' (by decide) (by decide),
    plain 'f' (by decide) (by decide), plain '"' (by decide) (by decide),
    plain '[' (by decide) (by decide), plain '{' (by decide) (by decide), if_false]
  rw [← same]
  simp only [readNumber, readInteger_toString value ends, Option.bind_eq_bind, Option.bind_some,
    inRange, if_true, Value.ofInt]

theorem endsNumber_cons {next : Char} (plain : next.isDigit = false) (rest : List Char) :
    EndsNumber (next :: rest) := by
  rintro other ⟨⟩
  exact plain

/-- A quoted text is read back as a value. -/
theorem readValue_quoted (fuel remaining : Nat) (text : String) (rest : List Char) :
    readValue (fuel + 1) remaining (quoted text ++ rest) = some (.string text, rest) := by
  have read := readQuoted_quoted text rest
  rw [quoted, List.cons_append] at read ⊢
  simp only [readValue, Char.reduceEq, if_false, if_true, read, Option.map_some]

/-- Values, items and members other than the empty text do not start with a closing mark. -/
theorem head?_chars_ne {value : Value} (integral : value.Integral) (rest : List Char) :
    (value.chars ++ rest).head? ≠ some ']' := by
  cases value with
  | null => simp [Value.chars]
  | bool value => cases value <;> simp [Value.chars]
  | number number =>
      cases number with
      | float bits => exact integral.elim
      | int value =>
          obtain ⟨head, more, same, shape⟩ := head_toString value rest
          rw [Value.chars, same]
          rintro ⟨rfl⟩
          rcases shape with minus | digit
          · exact absurd minus (by decide)
          · exact absurd digit (by decide)
  | string text => simp [Value.chars, quoted]
  | array items => simp [Value.chars]
  | object fields => simp [Value.chars]

/-- A list that is not empty does not begin with a closing bracket. -/
theorem Values.head?_chars_ne {head : Value} {tail : Values}
    (integral : (Values.cons head tail).Integral) (rest : List Char) :
    ((Values.cons head tail).chars ++ rest).head? ≠ some ']' := by
  cases tail with
  | nil => exact Json.head?_chars_ne integral.1 rest
  | cons next tail =>
      rw [Values.chars, List.append_assoc]
      exact Json.head?_chars_ne integral.1 _

/-- An object that is not empty does not begin with a closing brace. -/
theorem Fields.head?_chars_ne (key : String) (value : Value) (tail : Fields) (rest : List Char) :
    ((Fields.cons key value tail).chars ++ rest).head? ≠ some '}' := by
  cases tail <;> simp [Fields.chars, quoted]

mutual

/-- **Round trip.** Reading the text of a value gives the value and leaves what follows it. -/
theorem readValue_chars : ∀ (value : Value) (fuel remaining : Nat) (rest : List Char),
    value.Integral → value.size ≤ fuel → value.nesting < remaining → EndsNumber rest →
    readValue fuel remaining (value.chars ++ rest) = some (value, rest)
  | value, 0, _, _, _, enough, _, _ => by
      cases value <;> simp only [Value.size] at enough <;> omega
  | .null, fuel + 1, _, rest, _, _, _, _ => by
      simp [Value.chars, readValue, readLiteral]
  | .bool true, fuel + 1, _, rest, _, _, _, _ => by
      simp [Value.chars, readValue, readLiteral]
  | .bool false, fuel + 1, _, rest, _, _, _, _ => by
      simp [Value.chars, readValue, readLiteral]
  | .number (.int _), fuel + 1, remaining, _, integral, _, _, ends =>
      readValue_number fuel remaining integral ends
  | .number (.float _), _ + 1, _, _, integral, _, _, _ => integral.elim
  | .string text, fuel + 1, remaining, rest, _, _, _, _ =>
      readValue_quoted fuel remaining text rest
  | .array .nil, fuel + 1, remaining, rest, _, _, deep, _ => by
      have limit : ¬ remaining ≤ 1 := by simp only [Value.nesting] at deep; omega
      simp [Value.chars, Values.chars, readValue, limit]
  | .array (.cons head tail), fuel + 1, remaining, rest, integral, enough, deep, _ => by
      simp only [Value.nesting] at deep
      simp only [Value.size] at enough
      have limit : ¬ remaining ≤ 1 := by omega
      have opening := Values.head?_chars_ne (integral : (Values.cons head tail).Integral)
        (']' :: rest)
      have items := readItems_chars head tail fuel (remaining - 1) rest integral (by omega)
        (by omega)
      simp only [Value.chars, List.cons_append, List.append_assoc, List.nil_append, readValue,
        Char.reduceEq, if_false, if_true, limit, opening, items, Option.map_some]
  | .object .nil, fuel + 1, remaining, rest, _, _, deep, _ => by
      have limit : ¬ remaining ≤ 1 := by simp only [Value.nesting] at deep; omega
      simp [Value.chars, Fields.chars, readValue, limit]
  | .object (.cons key value tail), fuel + 1, remaining, rest, integral, enough, deep, _ => by
      simp only [Value.nesting] at deep
      simp only [Value.size] at enough
      have limit : ¬ remaining ≤ 1 := by omega
      have opening := Fields.head?_chars_ne key value tail ('}' :: rest)
      have fields := readFields_chars key value tail fuel (remaining - 1) rest integral (by omega)
        (by omega)
      simp only [Value.chars, List.cons_append, List.append_assoc, List.nil_append, readValue,
        Char.reduceEq, if_false, if_true, limit, opening, fields, Option.map_some]

/-- The items of a list are read back from their characters, as long as they nest no deeper than
what remains. -/
theorem readItems_chars : ∀ (head : Value) (tail : Values) (fuel remaining : Nat)
    (rest : List Char), (Values.cons head tail).Integral → (Values.cons head tail).size ≤ fuel →
    (Values.cons head tail).nesting < remaining →
    readItems fuel remaining ((Values.cons head tail).chars ++ ']' :: rest) =
      some (.cons head tail, rest)
  | _, _, 0, _, _, _, enough, _ => by simp only [Values.size] at enough; omega
  | head, .nil, fuel + 1, remaining, rest, integral, enough, deep => by
      simp only [Values.size] at enough
      simp only [Values.nesting] at deep
      have first := readValue_chars head fuel remaining (']' :: rest) integral.1 (by omega)
        (by omega) (endsNumber_cons (by decide) rest)
      simp only [Values.chars, readItems, first, Option.bind_eq_bind, Option.bind_some,
        List.head?_cons, if_true, List.tail_cons]
  | head, .cons next tail, fuel + 1, remaining, rest, integral, enough, deep => by
      rw [Values.size] at enough
      rw [Values.nesting] at deep
      have first := readValue_chars head fuel remaining
        (',' :: ((Values.cons next tail).chars ++ ']' :: rest)) integral.1 (by omega) (by omega)
        (endsNumber_cons (by decide) _)
      have others := readItems_chars next tail fuel remaining rest integral.2 (by omega) (by omega)
      simp only [Values.chars, List.append_assoc, List.cons_append, readItems, first,
        Option.bind_eq_bind, Option.bind_some, List.head?_cons, Option.some.injEq, Char.reduceEq,
        if_false, if_true, List.tail_cons, others, Option.map_some]

/-- The fields of an object are read back from their characters, in the same way. -/
theorem readFields_chars : ∀ (key : String) (value : Value) (tail : Fields)
    (fuel remaining : Nat) (rest : List Char), (Fields.cons key value tail).Integral →
    (Fields.cons key value tail).size ≤ fuel → (Fields.cons key value tail).nesting < remaining →
    readFields fuel remaining ((Fields.cons key value tail).chars ++ '}' :: rest) =
      some (.cons key value tail, rest)
  | _, _, _, 0, _, _, _, enough, _ => by simp only [Fields.size] at enough; omega
  | key, value, .nil, fuel + 1, remaining, rest, integral, enough, deep => by
      simp only [Fields.size] at enough
      simp only [Fields.nesting] at deep
      have first := readValue_chars value fuel remaining ('}' :: rest) integral.1 (by omega)
        (by omega) (endsNumber_cons (by decide) rest)
      simp only [Fields.chars, List.append_assoc, List.cons_append, readFields, readQuoted_quoted,
        first, Option.bind_eq_bind, Option.bind_some, List.head?_cons, if_true, List.tail_cons]
  | key, value, .cons key' value' tail, fuel + 1, remaining, rest, integral, enough, deep => by
      rw [Fields.size] at enough
      rw [Fields.nesting] at deep
      have first := readValue_chars value fuel remaining
        (',' :: ((Fields.cons key' value' tail).chars ++ '}' :: rest)) integral.1 (by omega)
        (by omega) (endsNumber_cons (by decide) _)
      have others := readFields_chars key' value' tail fuel remaining rest integral.2 (by omega)
        (by omega)
      simp only [Fields.chars, List.append_assoc, List.cons_append, readFields, readQuoted_quoted,
        first, Option.bind_eq_bind, Option.bind_some, List.head?_cons, Option.some.injEq,
        Char.reduceEq, if_false, if_true, List.tail_cons, others, Option.map_some]

end

mutual

/-- The text is at least as long as the syntax tree has nodes. -/
theorem size_le_length : ∀ value : Value, value.Integral → value.size ≤ value.chars.length
  | .null, _ => by decide
  | .bool true, _ => by decide
  | .bool false, _ => by decide
  | .number (.int value), _ => by
      have positive := Nat.length_toDigits_pos (b := 10) (n := value.natAbs)
      simp only [Value.size, Value.chars, toString_int, List.length_append]
      omega
  | .number (.float _), integral => integral.elim
  | .string text, _ => by simp only [Value.size, Value.chars, quoted, List.length_cons]; omega
  | .array items, integral => by
      have inner := Values.size_le_length items integral
      simp only [Value.size, Value.chars, List.length_cons, List.length_append, List.length_nil]
      omega
  | .object fields, integral => by
      have inner := Fields.size_le_length fields integral
      simp only [Value.size, Value.chars, List.length_cons, List.length_append, List.length_nil]
      omega

/-- Items take at least a character each, so the length of the text is fuel enough. -/
theorem Values.size_le_length : ∀ items : Values, items.Integral →
    items.size ≤ items.chars.length + 1
  | .nil, _ => by decide
  | .cons head .nil, integral => by
      have first := size_le_length head integral.1
      simp only [Values.size, Values.chars]
      omega
  | .cons head (.cons next rest), integral => by
      have first := size_le_length head integral.1
      have others := Values.size_le_length (.cons next rest) integral.2
      rw [Values.size, Values.chars, List.length_append, List.length_cons]
      omega

/-- Fields take at least a character each, in the same way. -/
theorem Fields.size_le_length : ∀ fields : Fields, fields.Integral →
    fields.size ≤ fields.chars.length + 1
  | .nil, _ => by decide
  | .cons key value .nil, integral => by
      have first := size_le_length value integral.1
      simp only [Fields.size, Fields.chars, List.length_append, List.length_cons]
      omega
  | .cons key value (.cons key' value' rest), integral => by
      have first := size_le_length value integral.1
      have others := Fields.size_le_length (.cons key' value' rest) integral.2
      rw [Fields.size, Fields.chars]
      simp only [List.length_append, List.length_cons]
      omega

end

/-- Reading the whole text of a value within the recursion limit gives the value. -/
theorem read_chars {value : Value} (integral : value.Integral)
    (shallow : value.nesting < recursionLimit) : read value.chars = some value := by
  have ends : EndsNumber [] := by rintro other ⟨⟩
  have parsed := readValue_chars value value.chars.length recursionLimit [] integral
    (size_le_length value integral) shallow ends
  rw [List.append_nil] at parsed
  simp only [read, parsed]

end Oppen.Json
