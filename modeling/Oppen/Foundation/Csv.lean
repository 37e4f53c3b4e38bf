import Mathlib.Data.List.Basic

/-! # Comma-separated rows

A row is its fields with commas between them and a line feed at the end. A field is quoted
when it has a comma, a quote or an end of line, and its quotes are doubled. The reader is an
automaton on the characters; it takes back any rows that were written, so the rows are
determined by the text.
-/

namespace Foundation.Csv

/-- A character that a field has to be quoted for. -/
def special (character : Char) : Bool :=
  character = ',' || character = '"' || character = '\n' || character = '\r'

def double (character : Char) : List Char :=
  if character = '"' then ['"', '"'] else [character]

/-- A field as it is written. -/
def quote (text : List Char) : List Char :=
  if text.any special then '"' :: (text.flatMap double ++ ['"']) else text

def writeRow : List (List Char) → List Char
  | [] => ['\n']
  | [last] => quote last ++ ['\n']
  | field :: next :: rest => quote field ++ ',' :: writeRow (next :: rest)

def writeRows (rows : List (List (List Char))) : List Char := rows.flatMap writeRow

/-! ## The reader -/

/-- Where the reader is in a field. -/
inductive Mode where
  | start
  | plain
  | quoted
  /-- After a quote in a quoted field: its end, or the first of two. -/
  | closing
  deriving DecidableEq, Repr

/-- The rows read, the fields read of the next one, and the text read of the next field. -/
structure Reading where
  rows : List (List (List Char))
  fields : List (List Char)
  text : List Char
  mode : Mode
  deriving DecidableEq

namespace Reading

def take (reading : Reading) (character : Char) (mode : Mode) : Option Reading :=
  some { reading with text := reading.text ++ [character], mode }

/-- The end of a field, where a comma or the end of the row has to follow. -/
def finish (reading : Reading) (character : Char) : Option Reading :=
  if character = ',' then some ⟨reading.rows, reading.fields ++ [reading.text], [], .start⟩
  else if character = '\n' then
    some ⟨reading.rows ++ [reading.fields ++ [reading.text]], [], [], .start⟩
  else none

def step (reading : Reading) (character : Char) : Option Reading :=
  match reading.mode with
  | .start =>
      if character = '"' then some { reading with mode := .quoted }
      else if special character then reading.finish character
      else reading.take character .plain
  | .plain =>
      if special character then reading.finish character else reading.take character .plain
  | .quoted =>
      if character = '"' then some { reading with mode := .closing }
      else reading.take character .quoted
  | .closing =>
      if character = '"' then reading.take character .quoted else reading.finish character

end Reading

/-- The rows of a text, each ended by a line feed. -/
def readRows (chars : List Char) : Option (List (List (List Char))) :=
  match chars.foldlM Reading.step ⟨[], [], [], .start⟩ with
  | some ⟨rows, [], [], .start⟩ => some rows
  | _ => none

/-! ## Reading what was written -/

section Written

variable {rows : List (List (List Char))} {fields : List (List Char)} {text : List Char}

/-- A field without special characters is read as it is. -/
theorem run_plain (plain : text.any special = false) (before : List Char) :
    text.foldlM Reading.step ⟨rows, fields, before, .plain⟩ =
      some ⟨rows, fields, before ++ text, .plain⟩ := by
  induction text generalizing before with
  | nil => rw [List.append_nil]; rfl
  | cons first rest ih =>
      rw [List.any_cons, Bool.or_eq_false_iff] at plain
      have taken : Reading.step ⟨rows, fields, before, .plain⟩ first =
          some ⟨rows, fields, before ++ [first], .plain⟩ := by
        simp [Reading.step, Reading.take, plain.1]
      rw [List.foldlM_cons, taken]
      exact (ih plain.2 _).trans (by rw [List.append_assoc]; rfl)

/-- A doubled text is read between its quotes. -/
theorem run_doubled (before : List Char) :
    (text.flatMap double).foldlM Reading.step ⟨rows, fields, before, .quoted⟩ =
      some ⟨rows, fields, before ++ text, .quoted⟩ := by
  induction text generalizing before with
  | nil => rw [List.append_nil]; rfl
  | cons first rest ih =>
      have taken : (double first).foldlM Reading.step ⟨rows, fields, before, .quoted⟩ =
          some ⟨rows, fields, before ++ [first], .quoted⟩ := by
        unfold double
        split
        · rename_i quote
          rw [quote]
          rfl
        · rename_i other
          simp [Reading.step, Reading.take, other]
      rw [List.flatMap_cons, List.foldlM_append, taken]
      exact (ih _).trans (by rw [List.append_assoc]; rfl)

/-- Reading a written field leaves its text, with its end still to come. -/
theorem run_quote (text : List Char) :
    ∃ mode, mode ≠ .quoted ∧ (quote text).foldlM Reading.step ⟨rows, fields, [], .start⟩ =
      some ⟨rows, fields, text, mode⟩ := by
  unfold quote
  split
  · refine ⟨.closing, nofun, ?_⟩
    have opened : Reading.step ⟨rows, fields, [], .start⟩ '"' =
        some ⟨rows, fields, [], .quoted⟩ := rfl
    rw [List.foldlM_cons, opened, Option.bind_eq_bind, Option.bind_some, List.foldlM_append,
      run_doubled]
    rfl
  · rename_i unquoted
    cases text with
    | nil => exact ⟨.start, nofun, rfl⟩
    | cons first rest =>
        have plain := Bool.eq_false_iff.mpr unquoted
        rw [List.any_cons, Bool.or_eq_false_iff] at plain
        have other : first ≠ '"' := by
          intro quote
          rw [quote] at plain
          exact absurd plain.1 (by decide)
        have taken : Reading.step ⟨rows, fields, [], .start⟩ first =
            some ⟨rows, fields, [first], .plain⟩ := by
          simp [Reading.step, Reading.take, plain.1, other]
        refine ⟨.plain, nofun, ?_⟩
        rw [List.foldlM_cons, taken]
        exact run_plain plain.2 [first]

/-- What ends a field ends it. -/
theorem step_end {mode : Mode} (outside : mode ≠ .quoted) :
    Reading.step ⟨rows, fields, text, mode⟩ ',' = some ⟨rows, fields ++ [text], [], .start⟩ ∧
      Reading.step ⟨rows, fields, text, mode⟩ '\n' =
        some ⟨rows ++ [fields ++ [text]], [], [], .start⟩ := by
  cases mode with
  | quoted => exact absurd rfl outside
  | _ => exact ⟨rfl, rfl⟩

/-- Reading a written row adds it to the rows read. -/
theorem run_writeRow : ∀ (first : List Char) (rest fields : List (List Char)),
    (writeRow (first :: rest)).foldlM Reading.step ⟨rows, fields, [], .start⟩ =
      some ⟨rows ++ [fields ++ first :: rest], [], [], .start⟩
  | first, [], fields => by
      obtain ⟨mode, outside, read⟩ := @run_quote rows fields first
      rw [writeRow, List.foldlM_append, read]
      exact congrArg (· >>= pure) (step_end outside).2
  | first, next :: rest, fields => by
      obtain ⟨mode, outside, read⟩ := @run_quote rows fields first
      rw [writeRow, List.foldlM_append, read, Option.bind_eq_bind, Option.bind_some,
        List.foldlM_cons, (step_end outside).1, Option.bind_eq_bind, Option.bind_some,
        run_writeRow next rest, List.append_assoc]
      rfl

/-- Reading rows as they are written yields those rows and ends at the start of a line. The
induction is on the rows, and a row without a cell would be read back as one empty cell. -/
theorem run_writeRows {written : List (List (List Char))} (filled : ∀ row ∈ written, row ≠ []) :
    (writeRows written).foldlM Reading.step ⟨rows, [], [], .start⟩ =
      some ⟨rows ++ written, [], [], .start⟩ := by
  induction written generalizing rows with
  | nil => rw [List.append_nil]; rfl
  | cons row rest ih =>
      cases row with
      | nil => exact absurd rfl (filled [] List.mem_cons_self)
      | cons first others =>
          have later := @ih (rows ++ [first :: others])
            fun row member => filled row (List.mem_cons_of_mem _ member)
          rw [writeRows, List.flatMap_cons, List.foldlM_append, run_writeRow]
          exact later.trans (by rw [List.append_assoc]; rfl)

/-- **What was written is read back.** -/
theorem readRows_writeRows {written : List (List (List Char))}
    (filled : ∀ row ∈ written, row ≠ []) : readRows (writeRows written) = some written := by
  rw [readRows, run_writeRows filled]
  rfl

end Written

end Foundation.Csv
