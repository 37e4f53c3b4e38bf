import Oppen.Foundation.Csv
import Oppen.Ledger.ReadBack

/-! # The audit export

The whole event table as comma-separated rows. A reader of such rows takes back every field of
every row; what the fields do not tell apart is an optional text that is absent from one that is
there and empty.
-/

namespace Oppen.Ledger

open Foundation Oppen.Json

/-! ## The export -/

/-- `CSV_HEADER`. -/
def csvHeader : String :=
  "seq,ts_ms,kind,agent_id,payload_hash,prev_hash,hash,snapshot_id,snapshot_hash," ++
    "redacted_at,redaction_reason,payload"

/-- `field`. -/
def field (value : String) : String := String.ofList (Csv.quote value.toList)

/-- `opt`. -/
def opt (value : Option String) : String := (value.map field).getD ""

/-- The line of an event. -/
def csvLine (lib : Libraries) (event : Event) : String :=
  let payload := match event.payload with
    | some value => lib.valueText value
    | none => ""
  ",".intercalate [toString event.seq, toString event.tsMs.toInt, field event.kind.asStr,
    opt event.agentId, field event.payloadHash, field event.prevHash, field event.hash,
    opt event.snapshotId, opt event.snapshotHash,
    (event.redactedAt.map fun ts => toString ts.toInt).getD "", opt event.redactionReason,
    field payload] ++ "\n"

/-- `for_each`: every event in the order of the chain, and how many. -/
def forEach {σ : Type} (lib : Libraries) (db : Db) (sink : σ → Event → Result σ) (start : σ) :
    Result (σ × Nat) :=
  db.events.foldlM (fun (out, written) row => do
    let event ← eventFromRow lib row
    let out ← sink out event
    return (out, written + 1)) (start, 0)

/-- `to_csv`. -/
def toCsv (lib : Libraries) (db : Db) : Result (String × Nat) :=
  forEach lib db (fun out event => .ok (out ++ csvLine lib event)) (csvHeader ++ "\n")

/-- The rows of a file, each ended by a line feed. -/
def readCsv (text : String) : Option (List (List String)) :=
  (Csv.readRows text.toList).map fun rows => rows.map fun row => row.map String.ofList

/-! ## What a table exports -/

/-- The payload column is a text the ledger wrote, or redacted. -/
def Row.Recorded (row : Row) : Prop :=
  row.payload = .null ∨ ∃ payload text, canonicalJson payload = .ok text ∧ row.payload = .text text

/-- A payload that was read prints as the text it was stored as. -/
def Libraries.PrintsCanonical (lib : Libraries) : Prop :=
  ∀ value text, canonicalJson value = .ok text → lib.valueText (sortedValue value) = text

def SqlValue.asText : SqlValue → String
  | .text value => value
  | _ => ""

/-- The columns of a row that are exported, as the texts of their fields. -/
def Row.columns (row : Row) : List String :=
  [toString row.seq, toString row.tsMs.toInt, row.kind, row.agentId.getD "", row.payloadHash,
    row.prevHash, row.hash, row.snapshotId.getD "", row.snapshotHash.getD "",
    (row.redactedAt.map fun ts => toString ts.toInt).getD "", row.redactionReason.getD "",
    row.payload.asText]

/-- The exported columns of a row. -/
def Row.exported (row : Row) : Row := { row with idemKey := none }

/-- A text that is there and empty, as one that is absent. -/
def blank (text : Option String) : Option String := text.filter (· ≠ "")

/-- The exported columns, with no telling of an empty text from an absent one. -/
def Row.blanked (row : Row) : Row :=
  { row.exported with
    agentId := blank row.agentId, snapshotId := blank row.snapshotId
    snapshotHash := blank row.snapshotHash, redactionReason := blank row.redactionReason }

/-- The tables differ, but nowhere except that an optional text absent from one is there and
empty in the other. -/
def Confused (first second : Db) : Prop :=
  first.events.map Row.blanked = second.events.map Row.blanked ∧
    first.events.map Row.exported ≠ second.events.map Row.exported

instance (first second : Db) : Decidable (Confused first second) :=
  inferInstanceAs (Decidable (_ ∧ _))

/-! ## The line of a row -/

section Lines

variable {lib : Libraries} {row other : Row} {event : Event}

/-- A field is written as the table's format quotes it. -/
theorem toList_field (value : String) : (field value).toList = Csv.quote value.toList := by
  rw [field, String.toList_ofList]

/-- A field that may be missing is written as the empty text then. -/
theorem toList_opt (value : Option String) :
    (opt value).toList = Csv.quote (value.getD "").toList := by
  cases value with
  | none => rfl
  | some text => exact toList_field text

/-- A number is never quoted. -/
theorem quote_toString (value : Int) :
    Csv.quote (toString value).toList = (toString value).toList := by
  have plain (character : Char) (member : character ∈ (toString value).toList) :
      character = '-' ∨ character.isDigit = true := by
    rw [toString_int] at member
    rcases List.mem_append.mp member with sign | digit
    · split at sign
      · exact .inl (List.mem_singleton.mp sign)
      · exact absurd sign List.not_mem_nil
    · exact .inr (Nat.isDigit_of_mem_toDigits (by omega) (by omega) digit)
  refine if_neg fun quoted => ?_
  obtain ⟨character, member, special⟩ := List.any_eq_true.mp quoted
  simp only [Csv.special, Bool.or_eq_true, decide_eq_true_eq] at special
  rcases plain character member with rfl | digit
  · revert special
    decide
  · rcases special with ((rfl | rfl) | rfl) | rfl <;> revert digit <;> decide

/-- The fields of an event, as texts. -/
def Event.columns (lib : Libraries) (event : Event) : List String :=
  [toString event.seq, toString event.tsMs.toInt, event.kind.asStr, event.agentId.getD "",
    event.payloadHash, event.prevHash, event.hash, event.snapshotId.getD "",
    event.snapshotHash.getD "", (event.redactedAt.map fun ts => toString ts.toInt).getD "",
    event.redactionReason.getD "", (event.payload.map lib.valueText).getD ""]

/-- Fields with commas between them are a row. -/
theorem toList_line : ∀ {fields texts : List String},
    List.Forall₂ (fun field text => field.toList = Csv.quote text.toList) fields texts →
      fields ≠ [] →
      (",".intercalate fields ++ "\n").toList = Csv.writeRow (texts.map String.toList)
  | _, _, .nil, filled => absurd rfl filled
  | _, _, .cons same .nil, _ => by
      rw [String.intercalate_singleton, String.toList_append, same]
      rfl
  | _, _, .cons same (.cons next rest), _ => by
      have later := toList_line (.cons next rest) (List.cons_ne_nil _ _)
      rw [String.toList_append] at later
      rw [String.intercalate_cons_cons, String.toList_append, String.toList_append,
        String.toList_append, same, List.append_assoc, List.append_assoc, later]
      rfl

/-- A line is the row of the event's columns, quoted where they need it. -/
theorem toList_csvLine (lib : Libraries) (event : Event) :
    (csvLine lib event).toList = Csv.writeRow ((event.columns lib).map String.toList) := by
  have redacted : ((event.redactedAt.map fun ts => toString ts.toInt).getD "").toList =
      Csv.quote ((event.redactedAt.map fun ts => toString ts.toInt).getD "").toList := by
    cases event.redactedAt with
    | none => rfl
    | some ts => exact (quote_toString ts.toInt).symm
  have payload : (field (match event.payload with
      | some value => lib.valueText value
      | none => "")).toList = Csv.quote ((event.payload.map lib.valueText).getD "").toList := by
    rw [toList_field]
    cases event.payload <;> rfl
  exact toList_line
    (.cons (quote_toString event.seq).symm <| .cons (quote_toString event.tsMs.toInt).symm <|
      .cons (toList_field _) <| .cons (toList_opt _) <| .cons (toList_field _) <|
      .cons (toList_field _) <| .cons (toList_field _) <| .cons (toList_opt _) <|
      .cons (toList_opt _) <| .cons redacted <| .cons (toList_opt _) <| .cons payload .nil)
    (List.cons_ne_nil _ _)

/-- What a table exports: its events, line by line. -/
theorem toCsv_ok {db : Db} {csv : String} {written : Nat}
    (run : toCsv lib db = .ok (csv, written)) :
    ∃ events, List.Forall₂ (fun row event => eventFromRow lib row = .ok event) db.events events ∧
      csv.toList = csvHeader.toList ++ '\n' :: Csv.writeRows
        (events.map fun event => (event.columns lib).map String.toList) ∧
      written = events.length := by
  refine foldlM_history (fun rows state => ∃ events,
    List.Forall₂ (fun row event => eventFromRow lib row = .ok event) rows events ∧
      state.1.toList = csvHeader.toList ++ '\n' :: Csv.writeRows
        (events.map fun event => (event.columns lib).map String.toList) ∧
      state.2 = events.length) ⟨[], .nil, ?_, rfl⟩ ?_ run
  · rw [String.toList_append]
    rfl
  · rintro rows ⟨out, count⟩ row after ⟨events, reads, same, counted⟩ step
    obtain ⟨event, read, step⟩ := bind_eq_ok step
    cases step
    refine ⟨events ++ [event], List.rel_append reads (.cons read .nil), ?_, ?_⟩
    · change (out ++ csvLine lib event).toList = _
      rw [String.toList_append, same, toList_csvLine]
      simp only [Csv.writeRows, List.map_append, List.flatMap_append, List.map_cons, List.map_nil,
        List.flatMap_cons, List.flatMap_nil, List.append_nil, List.append_assoc, List.cons_append]
    · rw [List.length_append, ← counted]
      rfl

/-- The fields of an event are the columns of the row it was read from. -/
theorem columns_of_read (refuses : lib.RefusesDeep) (prints : lib.PrintsCanonical)
    (recorded : row.Recorded) (read : eventFromRow lib row = .ok event) :
    event.columns lib = row.columns := by
  obtain ⟨_, within, read⟩ := bind_eq_ok read
  obtain ⟨payload, parsed, read⟩ := bind_eq_ok read
  obtain ⟨kind, known, read⟩ := bind_eq_ok read
  cases read
  have position : toString row.seq.toNat = toString row.seq := by
    have nonneg := refuseIf_ok within
    conv_rhs => rw [← Int.toNat_of_nonneg (not_lt.mp nonneg)]
    rfl
  have text : (payload.map lib.valueText).getD "" = row.payload.asText := by
    rcases recorded with gone | ⟨value, text, written, stored⟩
    · rw [gone] at parsed ⊢
      cases parsed
      rfl
    · rw [stored] at parsed ⊢
      by_cases shallow : (sortedValue value).nesting < recursionLimit
      · rw [readPayload, lib.fromSlice_canonical _ _ written shallow] at parsed
        cases parsed
        exact prints value text written
      · obtain ⟨same, integral, _⟩ := canonicalJson_ok written
        rw [readPayload, same, refuses _ integral (not_lt.mp shallow)] at parsed
        cases parsed
  simp only [Event.columns, Row.columns, position, text, EventKind.asStr_of_fromStr known]

/-! ## What the columns tell -/

/-- Each integer has a text of its own. -/
theorem toString_int_injective {first second : Int} (same : toString first = toString second) :
    first = second := by
  have ends : EndsNumber [] := by rintro other ⟨⟩
  have read := readInteger_toString first ends
  rw [same, readInteger_toString second ends] at read
  exact (congrArg Prod.fst (Option.some.inj read)).symm

/-- No integer is written as the empty text. -/
theorem toString_int_ne_empty (value : Int) : toString value ≠ "" := by
  intro empty
  obtain ⟨head, more, same, _⟩ := head_toString value []
  rw [empty] at same
  cases same

/-- An optional text is told from another, but the empty one from none. -/
theorem getD_eq_iff {first second : Option String} :
    first.getD "" = second.getD "" ↔ blank first = blank second := by
  have cases (text : Option String) :
      blank text = if text.getD "" = "" then none else some (text.getD "") := by
    cases text with
    | none => rfl
    | some text => by_cases empty : text = "" <;> simp [blank, Option.filter, empty]
  constructor
  · intro same
    rw [cases, cases, same]
  · intro same
    rw [cases, cases] at same
    split_ifs at same with here there
    · rw [here, there]
    · exact Option.some.inj same

/-- Two stamps that may be missing are written alike exactly if they are the same, since no stamp is
written as the empty text. -/
theorem redacted_eq_iff {first second : Option Int64} :
    (first.map fun ts => toString ts.toInt).getD "" =
      (second.map fun ts => toString ts.toInt).getD "" ↔ first = second := by
  refine ⟨fun same => ?_, fun same => by rw [same]⟩
  cases first <;> cases second
  · rfl
  · exact absurd same.symm (toString_int_ne_empty _)
  · exact absurd same (toString_int_ne_empty _)
  · exact congrArg some (Int64.toInt_inj.mp (toString_int_injective same))

/-- No value is written as the empty text. -/
theorem chars_ne_nil (value : Value) (integral : value.Integral) : value.chars ≠ [] := by
  intro empty
  have sized := size_le_length value integral
  rw [empty, List.length_nil] at sized
  cases value <;> simp [Value.size] at sized

/-- The payloads of recorded rows are told by their texts. -/
theorem payload_eq_of_asText (recorded : row.Recorded) (recorded' : other.Recorded)
    (same : row.payload.asText = other.payload.asText) : row.payload = other.payload := by
  have filled {value : Value} {text : String} (written : canonicalJson value = .ok text) :
      text ≠ "" := by
    obtain ⟨rfl, integral, _⟩ := canonicalJson_ok written
    intro empty
    refine chars_ne_nil _ integral ?_
    have chars := congrArg String.toList empty
    rwa [String.toList_ofList] at chars
  rcases recorded with gone | ⟨_, text, written, stored⟩ <;>
    rcases recorded' with gone' | ⟨_, text', written', stored'⟩
  · rw [gone, gone']
  · rw [gone, stored'] at same
    exact absurd same.symm (filled written')
  · rw [stored, gone'] at same
    exact absurd same (filled written)
  · rw [stored, stored'] at same ⊢
    exact congrArg SqlValue.text same

/-- **What the columns tell of a row**: all of it, but an empty text from an absent one. -/
theorem columns_eq_iff (recorded : row.Recorded) (recorded' : other.Recorded) :
    row.columns = other.columns ↔ row.blanked = other.blanked := by
  constructor
  · intro same
    simp only [Row.columns, List.cons.injEq, and_true] at same
    obtain ⟨seq, ts, kind, agent, payloadHash, prevHash, hash, snapshot, snapshotHash, redacted,
      reason, payload⟩ := same
    simp only [Row.blanked, Row.exported, toString_int_injective seq,
      Int64.toInt_inj.mp (toString_int_injective ts), kind, getD_eq_iff.mp agent, payloadHash,
      prevHash, hash, getD_eq_iff.mp snapshot, getD_eq_iff.mp snapshotHash,
      redacted_eq_iff.mp redacted, getD_eq_iff.mp reason,
      payload_eq_of_asText recorded recorded' payload]
  · intro same
    simp only [Row.blanked, Row.exported, Row.mk.injEq, ← getD_eq_iff] at same
    obtain ⟨seq, ts, kind, agent, payload, payloadHash, prevHash, hash, redacted, reason,
      snapshot, snapshotHash, _⟩ := same
    simp only [Row.columns, seq, ts, kind, agent, payload, payloadHash, prevHash, hash, redacted,
      reason, snapshot, snapshotHash]

/-- Two recorded tables have the same columns exactly if they are the same once a missing text and
an empty one are not told apart. The induction is on both tables. -/
theorem map_columns_eq_iff : ∀ {rows others : List Row}, (∀ row ∈ rows, row.Recorded) →
    (∀ other ∈ others, other.Recorded) →
      (rows.map Row.columns = others.map Row.columns ↔
        rows.map Row.blanked = others.map Row.blanked)
  | [], [], _, _ => iff_of_true rfl rfl
  | [], _ :: _, _, _ => ⟨nofun, nofun⟩
  | _ :: _, [], _, _ => ⟨nofun, nofun⟩
  | row :: rows, other :: others, recorded, recorded' => by
      obtain ⟨first, rest⟩ := List.forall_mem_cons.mp recorded
      obtain ⟨first', rest'⟩ := List.forall_mem_cons.mp recorded'
      simp only [List.map_cons, List.cons.injEq, columns_eq_iff first first',
        map_columns_eq_iff rest rest']

end Lines

/-! ## The whole file -/

/-- The names of the columns. -/
def csvHeadings : List String :=
  ["seq", "ts_ms", "kind", "agent_id", "payload_hash", "prev_hash", "hash", "snapshot_id",
    "snapshot_hash", "redacted_at", "redaction_reason", "payload"]

/-- The header is the row of its headings. -/
theorem csvHeader_row :
    csvHeader.toList ++ ['\n'] = Csv.writeRow (csvHeadings.map String.toList) := by
  decide +kernel

section Files

variable {lib : Libraries} {db first second : Db} {csv csv' : String} {written written' : Nat}

/-- The columns of an exported table, behind their names, are the rows of the file. -/
theorem toCsv_rows (refuses : lib.RefusesDeep) (prints : lib.PrintsCanonical)
    (recorded : ∀ row ∈ db.events, row.Recorded) (run : toCsv lib db = .ok (csv, written)) :
    csv.toList = Csv.writeRows
        ((csvHeadings :: db.events.map Row.columns).map fun row => row.map String.toList) ∧
      written = db.events.length := by
  obtain ⟨events, reads, same, counted⟩ := toCsv_ok run
  have columns : (events.map fun event => event.columns lib) = db.events.map Row.columns := by
    have both := (List.forall₂_and_left _ _).mpr ⟨recorded, reads⟩
    rw [← List.forall₂_eq_eq_eq, List.forall₂_map_left_iff, List.forall₂_map_right_iff]
    exact List.Forall₂.flip (both.imp fun row event held =>
      columns_of_read refuses prints held.1 held.2)
  refine ⟨?_, counted.trans reads.length_eq.symm⟩
  rw [same, List.map_cons, ← columns, List.map_map, Csv.writeRows, Csv.writeRows, List.flatMap_cons,
    ← csvHeader_row, List.append_assoc]
  rfl

/-- An exported table is read back, column by column. -/
theorem readCsv_toCsv (refuses : lib.RefusesDeep) (prints : lib.PrintsCanonical)
    (recorded : ∀ row ∈ db.events, row.Recorded) (run : toCsv lib db = .ok (csv, written)) :
    readCsv csv = some (csvHeadings :: db.events.map Row.columns) := by
  have filled : ∀ row ∈ (csvHeadings :: db.events.map Row.columns).map
      (fun row => row.map String.toList), row ≠ [] := by
    intro row member
    obtain ⟨texts, inside, rfl⟩ := List.mem_map.mp member
    rcases List.mem_cons.mp inside with rfl | inside
    · exact List.cons_ne_nil _ _
    · obtain ⟨row, _, rfl⟩ := List.mem_map.mp inside
      exact List.cons_ne_nil _ _
  have texts (row : List String) : (row.map String.toList).map String.ofList = row := by
    rw [List.map_map]
    exact (List.map_congr_left fun _ _ => String.ofList_toList).trans (List.map_id row)
  rw [readCsv, (toCsv_rows refuses prints recorded run).1, Csv.readRows_writeRows filled,
    Option.map_some, List.map_map, (funext texts : (List.map String.ofList) ∘ _ = id), List.map_id]

/-- Two exports are one file exactly when the tables are one but for empty texts. -/
theorem toCsv_eq_iff (refuses : lib.RefusesDeep) (prints : lib.PrintsCanonical)
    (recorded : ∀ row ∈ first.events, row.Recorded)
    (recorded' : ∀ row ∈ second.events, row.Recorded)
    (run : toCsv lib first = .ok (csv, written)) (run' : toCsv lib second = .ok (csv', written')) :
    csv = csv' ↔ first.events.map Row.blanked = second.events.map Row.blanked := by
  have columns : csv = csv' ↔ first.events.map Row.columns = second.events.map Row.columns := by
    constructor
    · intro same
      have read := readCsv_toCsv refuses prints recorded run
      rw [same, readCsv_toCsv refuses prints recorded' run'] at read
      exact (List.cons.inj (Option.some.inj read)).2.symm
    · intro same
      refine String.toList_injective ?_
      rw [(toCsv_rows refuses prints recorded run).1, same,
        (toCsv_rows refuses prints recorded' run').1]
  rw [columns, map_columns_eq_iff recorded recorded']

/-- **What an export keeps.** A reader takes back the fields of every row in the order of the chain,
and the file tells a table from another unless they are confused. Two tables are confused if they
differ in nothing but an optional text that is absent from one and empty in the other. -/
theorem toCsv_lossless_iff (refuses : lib.RefusesDeep) (prints : lib.PrintsCanonical)
    (recorded : ∀ row ∈ first.events, row.Recorded)
    (recorded' : ∀ row ∈ second.events, row.Recorded)
    (run : toCsv lib first = .ok (csv, written)) (run' : toCsv lib second = .ok (csv', written')) :
    readCsv csv = some (csvHeadings :: first.events.map Row.columns) ∧
      written = first.events.length ∧
      ((csv = csv' → first.events.map Row.exported = second.events.map Row.exported) ↔
        ¬ Confused first second) := by
  refine ⟨readCsv_toCsv refuses prints recorded run, (toCsv_rows refuses prints recorded run).2, ?_⟩
  rw [toCsv_eq_iff refuses prints recorded recorded' run run', Confused, not_and, not_not]

end Files

namespace CsvExport

/-- The libraries of the reference print a payload in its canonical form. -/
theorem reference_printsCanonical (keccak256 : List UInt8 → List UInt8) :
    (Libraries.reference keccak256).PrintsCanonical := by
  intro value text written
  obtain ⟨rfl, -, -⟩ := canonicalJson_ok written
  exact congrArg (fun sorted => String.ofList sorted.chars) (alike_sortedValue value).sorted

def lib : Libraries := .reference checksum

/-- An alert of an agent. -/
def alertOf (agentId : Option String) : Db :=
  { Db.migrated with events := [⟨1, 5, "alert", agentId, .text "[1]", "p", "g", "h", none, none,
      some "s,1", some "\"", some "key"⟩] }

/-- The rows of the sample are recorded as the ledger records them. -/
theorem alertOf_recorded (agentId : Option String) :
    ∀ row ∈ (alertOf agentId).events, row.Recorded := by
  intro row member
  rw [List.mem_singleton.mp member]
  exact .inr ⟨.array (.cons (.ofInt 1) .nil), "[1]", eq_ok_of_some (by decide +kernel), rfl⟩

/-- What the table of that alert exports. -/
def exportOf (agentId : Option String) : String :=
  ((toCsv lib (alertOf agentId)).toOption.map Prod.fst).getD ""

/-- A name that has to be quoted. -/
def quotedName : String := "a,\"b\"\r\n"

/-- An agent whose name has a quote, a comma and the ends of two lines is read back, and told from
no agent. -/
theorem quoted_agent_exported :
    readCsv (exportOf (some quotedName)) = some [csvHeadings,
      ["1", "5", "alert", quotedName, "p", "g", "h", "s,1", "\"", "", "", "[1]"]] ∧
    exportOf (some quotedName) ≠ exportOf none := by
  have named : toCsv lib (alertOf (some quotedName)) = .ok (exportOf (some quotedName), 1) :=
    eq_ok_of_some (by decide +kernel)
  have unnamed : toCsv lib (alertOf none) = .ok (exportOf none, 1) :=
    eq_ok_of_some (by decide +kernel)
  obtain ⟨read, counted, told⟩ := toCsv_lossless_iff (DeepPayload.reference_refusesDeep checksum)
    (reference_printsCanonical checksum) (alertOf_recorded _) (alertOf_recorded _) named unnamed
  refine ⟨read, fun same => ?_⟩
  have apart : ¬ Confused (alertOf (some quotedName)) (alertOf none) := by decide
  exact absurd (told.mpr apart same) (by decide)

/-- An agent whose name is empty is exported as no agent is. -/
theorem empty_agent_exported_as_none :
    (∀ agentId, ∀ row ∈ (alertOf agentId).events, row.Recorded) ∧
      toCsv lib (alertOf none) = .ok (exportOf none, 1) ∧
      toCsv lib (alertOf (some "")) = .ok (exportOf none, 1) ∧
      (alertOf none).events.map Row.exported ≠ (alertOf (some "")).events.map Row.exported :=
  ⟨alertOf_recorded, eq_ok_of_some (by decide +kernel), eq_ok_of_some (by decide +kernel),
    by decide⟩

end CsvExport

end Oppen.Ledger
