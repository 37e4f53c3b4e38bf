import Oppen.Json.Reader

/-! # Texts that nest too deep

The reader opens one container less than its recursion limit, and refuses the text of every value
that nests deeper.
-/

namespace Oppen.Json

mutual

/-- A value that nests as deep as the limit that is left is not read. -/
theorem readValue_deep : ∀ (value : Value) (fuel remaining : Nat) (rest : List Char),
    value.Integral → value.size ≤ fuel → 0 < remaining → remaining ≤ value.nesting →
    readValue fuel remaining (value.chars ++ rest) = none
  | value, 0, _, _, _, enough, _, _ => by
      cases value <;> simp only [Value.size] at enough <;> omega
  | .null, _ + 1, _, _, _, _, positive, deep
  | .bool _, _ + 1, _, _, _, _, positive, deep
  | .number _, _ + 1, _, _, _, _, positive, deep
  | .string _, _ + 1, _, _, _, _, positive, deep => by
      simp only [Value.nesting] at deep
      omega
  | .array .nil, fuel + 1, remaining, rest, _, _, _, deep => by
      have limit : remaining ≤ 1 := deep
      simp [Value.chars, Values.chars, readValue, limit]
  | .array (.cons head tail), fuel + 1, remaining, rest, integral, enough, positive, deep => by
      simp only [Value.nesting] at deep
      simp only [Value.size] at enough
      have opening := Values.head?_chars_ne (integral : (Values.cons head tail).Integral)
        (']' :: rest)
      simp only [Value.chars, List.cons_append, List.append_assoc, List.nil_append, readValue,
        Char.reduceEq, if_false, if_true, opening]
      split
      · rfl
      · rw [readItems_deep head tail fuel (remaining - 1) rest integral (by omega) (by omega)
          (by omega)]
        rfl
  | .object .nil, fuel + 1, remaining, rest, _, _, _, deep => by
      have limit : remaining ≤ 1 := deep
      simp [Value.chars, Fields.chars, readValue, limit]
  | .object (.cons key value tail), fuel + 1, remaining, rest, integral,
      enough, positive, deep => by
      simp only [Value.nesting] at deep
      simp only [Value.size] at enough
      have opening := Fields.head?_chars_ne key value tail ('}' :: rest)
      simp only [Value.chars, List.cons_append, List.append_assoc, List.nil_append, readValue,
        Char.reduceEq, if_false, if_true, opening]
      split
      · rfl
      · rw [readFields_deep key value tail fuel (remaining - 1) rest integral (by omega) (by omega)
          (by omega)]
        rfl

/-- Items that nest deeper than what remains are refused. The fuel is ample, so the depth is what
refuses. -/
theorem readItems_deep : ∀ (head : Value) (tail : Values) (fuel remaining : Nat)
    (rest : List Char), (Values.cons head tail).Integral → (Values.cons head tail).size ≤ fuel →
    0 < remaining → remaining ≤ (Values.cons head tail).nesting →
    readItems fuel remaining ((Values.cons head tail).chars ++ ']' :: rest) = none
  | _, _, 0, _, _, _, enough, _, _ => by simp only [Values.size] at enough; omega
  | head, .nil, fuel + 1, remaining, rest, integral, enough, positive, deep => by
      simp only [Values.size] at enough
      simp only [Values.nesting] at deep
      have first := readValue_deep head fuel remaining (']' :: rest) integral.1 (by omega) positive
        (by omega)
      simp only [Values.chars, readItems, first, Option.bind_eq_bind, Option.bind_none]
  | head, .cons next tail, fuel + 1, remaining, rest, integral, enough, positive, deep => by
      rw [Values.size] at enough
      rw [Values.nesting] at deep
      simp only [Values.chars, List.append_assoc, List.cons_append, readItems]
      by_cases here : remaining ≤ head.nesting
      · rw [readValue_deep head fuel remaining _ integral.1 (by omega) positive here]
        rfl
      · have first := readValue_chars head fuel remaining
          (',' :: ((Values.cons next tail).chars ++ ']' :: rest)) integral.1 (by omega) (by omega)
          (endsNumber_cons (by decide) _)
        have others := readItems_deep next tail fuel remaining rest integral.2 (by omega) positive
          (by omega)
        simp only [first, Option.bind_eq_bind, Option.bind_some, List.head?_cons,
          Option.some.injEq, Char.reduceEq, if_false, if_true, List.tail_cons, others,
          Option.map_none]

/-- Fields that nest deeper than what remains are refused, in the same way. -/
theorem readFields_deep : ∀ (key : String) (value : Value) (tail : Fields)
    (fuel remaining : Nat) (rest : List Char), (Fields.cons key value tail).Integral →
    (Fields.cons key value tail).size ≤ fuel → 0 < remaining →
    remaining ≤ (Fields.cons key value tail).nesting →
    readFields fuel remaining ((Fields.cons key value tail).chars ++ '}' :: rest) = none
  | _, _, _, 0, _, _, _, enough, _, _ => by simp only [Fields.size] at enough; omega
  | key, value, .nil, fuel + 1, remaining, rest, integral, enough, positive, deep => by
      simp only [Fields.size] at enough
      simp only [Fields.nesting] at deep
      have first := readValue_deep value fuel remaining ('}' :: rest) integral.1 (by omega) positive
        (by omega)
      simp only [Fields.chars, List.append_assoc, List.cons_append, readFields, readQuoted_quoted,
        first, Option.bind_eq_bind, Option.bind_some, List.head?_cons, if_true, List.tail_cons,
        Option.bind_none]
  | key, value, .cons key' value' tail, fuel + 1, remaining, rest, integral, enough, positive,
      deep => by
      rw [Fields.size] at enough
      rw [Fields.nesting] at deep
      simp only [Fields.chars, List.append_assoc, List.cons_append, readFields, readQuoted_quoted,
        Option.bind_eq_bind, Option.bind_some, List.head?_cons, if_true, List.tail_cons]
      by_cases here : remaining ≤ value.nesting
      · rw [readValue_deep value fuel remaining _ integral.1 (by omega) positive here]
        rfl
      · have first := readValue_chars value fuel remaining
          (',' :: ((Fields.cons key' value' tail).chars ++ '}' :: rest)) integral.1 (by omega)
          (by omega) (endsNumber_cons (by decide) _)
        have others := readFields_deep key' value' tail fuel remaining rest integral.2 (by omega)
          positive (by omega)
        simp only [first, Option.bind_some, List.head?_cons, Option.some.injEq, Char.reduceEq,
          if_false, if_true, List.tail_cons, others, Option.map_none]

end

/-- The whole text of a value that nests as deep as the recursion limit is refused. -/
theorem read_deep {value : Value} (integral : value.Integral)
    (deep : recursionLimit ≤ value.nesting) : read value.chars = none := by
  have refused := readValue_deep value value.chars.length recursionLimit [] integral
    (size_le_length value integral) (by decide) deep
  rw [List.append_nil] at refused
  rw [read, refused]

end Oppen.Json
