import Oppen.Foundation.HashChain
import Oppen.Ledger.Store

/-! # Chain verification

The walk from genesis that reports the first broken link, and what a table it
accepts looks like: contiguous positions, linked and recomputed hashes, payloads
that are present and committed to or absent and explained by a later redaction,
a head at the last row and an anchor at most one row behind it.
-/

namespace Oppen.Ledger

open Foundation Oppen.Json

/-- How far the chain may legitimately run ahead of the anchor. -/
def anchorLagTolerance : Nat := 1

/-- Why the walk stopped. -/
inductive BreakReason where
  | chainAheadOfAnchor (anchorSeq headSeq ahead : Nat)
  | anchorMissing
  | seqGap (expected : Nat)
  | prevHashMismatch (expected found : String)
  | rowHashMismatch (expected found : String)
  | payloadHashMismatch (expected found : String)
  | payloadUnreadable
  | unrecordedTombstone
  | headMismatch (expectedSeq : Nat) (expectedHash : String) (foundSeq : Nat) (foundHash : String)
  | headBehindAnchor (anchorSeq : Nat) (anchorHash : String) (foundSeq : Nat) (foundHash : String)
  deriving DecidableEq, Repr

/-- The first broken link, with the seq it was found at. -/
structure ChainBreak where
  seq : Nat
  reason : BreakReason
  deriving DecidableEq, Repr

/-- Result of walking the whole chain. -/
structure ChainReport where
  rowsChecked : Nat
  headSeq : Nat
  headHash : String
  firstBreak : Option ChainBreak
  deriving DecidableEq, Repr

/-- Whether the chain verified end to end. -/
def ChainReport.isIntact (report : ChainReport) : Bool := report.firstBreak.isNone

/-- The seq a `payload_redacted` row says it covers, if it says anything. -/
def redactedSeq (lib : Libraries) (payload : List UInt8) : Option Nat := do
  let value ← lib.fromSlice payload
  let covered ← value.get "redacted_seq"
  covered.asU64

/-- What the walk carries from row to row. The unexplained nulls are kept in
ascending order, since rows are visited so. -/
structure WalkState where
  expectedSeq : Nat
  expectedPrev : String
  rowsChecked : Nat
  last : Option (Nat × String)
  unexplainedNulls : List Nat
  hashAtAnchor : Option String
  deriving DecidableEq, Repr

def WalkState.start (genesis : String) : WalkState where
  expectedSeq := 1
  expectedPrev := genesis
  rowsChecked := 0
  last := none
  unexplainedNulls := []
  hashAtAnchor := none

section Walk

variable (lib : Libraries) (anchor : Option Anchor)

/-- The nulls still unexplained after a row: its own when its payload is gone, less
the one a hash-verified redaction names. -/
def nullsAfter (nulls : List Nat) (seq : Nat) (kind : String) :
    Option (List UInt8) → List Nat
  | none => nulls ++ [seq]
  | some bytes =>
      if kind = EventKind.payloadRedacted.asStr then
        match redactedSeq lib bytes with
        | some covered => nulls.filter (· ≠ covered)
        | none => nulls
      else nulls

/-- The state after a row that passed every check. -/
def WalkState.pass (state : WalkState) (row : Row) (seq : Nat) (payload : Option (List UInt8)) :
    WalkState where
  expectedSeq := seq + 1
  expectedPrev := row.hash
  rowsChecked := state.rowsChecked + 1
  last := some (seq, row.hash)
  unexplainedNulls := nullsAfter lib state.unexplainedNulls seq row.kind payload
  hashAtAnchor := if anchor.any (fun anchor => anchor.seq = seq) then some row.hash
    else state.hashAtAnchor

/-- One turn of the loop: the break at this row, or the state after it. -/
def walkRow (state : WalkState) (row : Row) : Result (Except ChainBreak WalkState) :=
  if row.seq < 0 then .error .seqOutOfRange
  else
    let seq := row.seq.toNat
    let recomputed := rowHash lib (row.hashInput seq)
    if seq ≠ state.expectedSeq then .ok (.error ⟨seq, .seqGap state.expectedSeq⟩)
    else if row.prevHash ≠ state.expectedPrev then
      .ok (.error ⟨seq, .prevHashMismatch state.expectedPrev row.prevHash⟩)
    else if recomputed ≠ row.hash then .ok (.error ⟨seq, .rowHashMismatch recomputed row.hash⟩)
    else
      match row.payload.asBytesOrNull with
      | none => .ok (.error ⟨seq, .payloadUnreadable⟩)
      | some none => .ok (.ok (state.pass lib anchor row seq none))
      | some (some bytes) =>
          let actual := payloadHash lib bytes
          if actual ≠ row.payloadHash then
            .ok (.error ⟨seq, .payloadHashMismatch row.payloadHash actual⟩)
          else .ok (.ok (state.pass lib anchor row seq (some bytes)))

/-- The loop: the state it ends in, or how many rows verified and the first break. -/
def walkRows (state : WalkState) : List Row → Result (Except (Nat × ChainBreak) WalkState)
  | [] => .ok (.ok state)
  | row :: rest =>
      match walkRow lib anchor state row with
      | .error error => .error error
      | .ok (.error broken) => .ok (.error (state.rowsChecked, broken))
      | .ok (.ok next) => walkRows next rest

/-- What the anchor says about a chain that verified row by row. -/
def anchorBreak (genesis : String) (state : WalkState) (anchor : Anchor) : Option BreakReason :=
  let (lastSeq, lastHash) := state.last.getD (0, genesis)
  let atAnchor := if anchor.seq = 0 then genesis else state.hashAtAnchor.getD ""
  if anchor.seq > lastSeq then
    some (.headBehindAnchor anchor.seq anchor.hash lastSeq lastHash)
  else if atAnchor ≠ anchor.hash then
    some (.headBehindAnchor anchor.seq anchor.hash anchor.seq atAnchor)
  else if lastSeq - anchor.seq > anchorLagTolerance then
    some (.chainAheadOfAnchor anchor.seq lastSeq (lastSeq - anchor.seq - anchorLagTolerance))
  else none

/-- What is checked once every row has verified. -/
def finishWalk (genesis : String) (headSeq : Nat) (headHash : String) (state : WalkState) :
    ChainReport :=
  let report (rowsChecked : Nat) (firstBreak : Option ChainBreak) : ChainReport :=
    ⟨rowsChecked, headSeq, headHash, firstBreak⟩
  let (lastSeq, lastHash) := state.last.getD (0, genesis)
  match state.unexplainedNulls with
  | seq :: _ => report (seq - 1) (some ⟨seq, .unrecordedTombstone⟩)
  | [] =>
      match anchor, anchor.bind (anchorBreak genesis state) with
      | some anchor, some reason => report state.rowsChecked (some ⟨anchor.seq, reason⟩)
      | _, _ =>
          if lastSeq ≠ headSeq ∨ lastHash ≠ headHash then
            report state.rowsChecked
              (some ⟨lastSeq, .headMismatch lastSeq lastHash headSeq headHash⟩)
          else report state.rowsChecked none

/-- `walk`: walk the chain from genesis and report the first broken link. -/
def walk (db : Db) (genesis : String) : Result ChainReport := do
  let (headSeq, headHash) ← head db
  match ← walkRows lib anchor (.start genesis) db.events with
  | .error (rowsChecked, broken) => return ⟨rowsChecked, headSeq, headHash, some broken⟩
  | .ok state => return finishWalk anchor genesis headSeq headHash state

end Walk

/-! ## What an accepted row and an accepted table look like -/

/-- The payload bytes beside the chain, when there are any. -/
def Row.bytes (row : Row) : Option (List UInt8) := row.payload.asBytesOrNull.join

/-- The payload is readable and, when present, what the row commits to. -/
def Row.Committed (lib : Libraries) (row : Row) : Prop :=
  row.payload.asBytesOrNull.isSome = true ∧
    ∀ bytes ∈ row.bytes, Ledger.payloadHash lib bytes = row.payloadHash

/-- A chained redaction that names the position. -/
def Row.Covers (lib : Libraries) (row : Row) (seq : Nat) : Prop :=
  row.kind = EventKind.payloadRedacted.asStr ∧
    ∃ bytes, row.bytes = some bytes ∧ redactedSeq lib bytes = some seq

/-- Every check the walk makes at a row, position and link included. -/
structure SoundRows (lib : Libraries) (genesis : String) (rows : List Row) : Prop where
  positions : ∀ (index : Nat) (row : Row), rows[index]? = some row → row.seq = (index : Int) + 1
  linked : Linked Row.prevHash Row.hash genesis rows
  hashed : ∀ row ∈ rows, rowHash lib (row.hashInput row.seq.toNat) = row.hash
  committed : ∀ row ∈ rows, row.Committed lib

/-- Every missing payload is named by a redaction further along the chain. -/
def Explained (lib : Libraries) (rows : List Row) : Prop :=
  ∀ before row after, rows = before ++ row :: after → row.bytes = none →
    ∃ later ∈ after, later.Covers lib row.seq.toNat

/-- The anchor names a row of the chain that is its last or its last but one. -/
structure Witnesses (genesis : String) (rows : List Row) (anchor : Anchor) : Prop where
  reached : anchor.seq ≤ rows.length
  recent : rows.length ≤ anchor.seq + anchorLagTolerance
  hash : anchor.hash = tipDigest Row.hash genesis (rows.take anchor.seq)

/-- What it takes for the walk to report an intact chain. -/
structure Intact (lib : Libraries) (anchor : Option Anchor) (genesis : String) (db : Db) :
    Prop where
  rows : SoundRows lib genesis db.events
  explained : Explained lib db.events
  witnessed : ∀ remembered ∈ anchor, Witnesses genesis db.events remembered
  head : db.chainHead = some ((db.events.length : Int), tipDigest Row.hash genesis db.events)

/-- An empty table is sound. -/
theorem SoundRows.nil (lib : Libraries) (genesis : String) : SoundRows lib genesis [] where
  positions index row found := by rw [List.getElem?_nil] at found; cases found
  linked := trivial
  hashed _ member := by cases member
  committed _ member := by cases member

/-- A longer table is numbered right if the shorter one is and the last row has the next number. -/
theorem positions_concat {rows : List Row} {row : Row} :
    (∀ (index : Nat) (held : Row), (rows ++ [row])[index]? = some held →
      held.seq = (index : Int) + 1) ↔
      (∀ (index : Nat) (held : Row), rows[index]? = some held → held.seq = (index : Int) + 1) ∧
        row.seq = rows.length + 1 := by
  constructor
  · intro positions
    refine ⟨fun index held found => positions index held ?_, positions rows.length row ?_⟩
    · obtain ⟨bound, _⟩ := List.getElem?_eq_some_iff.mp found
      rw [List.getElem?_append_left bound, found]
    · rw [List.getElem?_append_right (Nat.le_refl _), Nat.sub_self]
      rfl
  · rintro ⟨earlier, last⟩ index held found
    by_cases bound : index < rows.length
    · rw [List.getElem?_append_left bound] at found
      exact earlier index held found
    · rw [List.getElem?_append_right (by omega)] at found
      obtain ⟨inside, same⟩ := List.getElem?_eq_some_iff.mp found
      rw [List.length_singleton] at inside
      have here : index = rows.length := by omega
      subst here
      simp only [Nat.sub_self, List.getElem_cons_zero] at same
      rw [← same, last]

/-- In a table with contiguous positions the primary key is the index. -/
theorem find?_position {rows : List Row}
    (positions : ∀ (index : Nat) (held : Row), rows[index]? = some held →
      held.seq = (index : Int) + 1) (index : Nat) :
    rows.find? (fun row => row.seq = (index : Int) + 1) = rows[index]? := by
  induction rows using List.reverseRecOn with
  | nil => rfl
  | append_singleton rows row ih =>
      obtain ⟨earlier, last⟩ := positions_concat.mp positions
      rw [List.find?_append, ih earlier]
      by_cases bound : index < rows.length
      · rw [List.getElem?_append_left bound, List.getElem?_eq_getElem bound, Option.some_or]
      · rw [List.getElem?_eq_none (by omega), Option.none_or,
          List.getElem?_append_right (by omega)]
        by_cases here : index = rows.length
        · subst here
          simp [last]
        · have beyond : ¬ row.seq = (index : Int) + 1 := by omega
          rw [List.getElem?_eq_none (by rw [List.length_singleton]; omega)]
          simp [beyond]

/-- A sound table is read at a position by counting. -/
theorem SoundRows.rowAt {lib : Libraries} {genesis : String} {db : Db}
    (sound : SoundRows lib genesis db.events) (index : Nat) :
    db.rowAt ((index : Int) + 1) = db.events[index]? :=
  find?_position sound.positions index

/-- The position of a row of a sound table is its index plus one. -/
theorem SoundRows.index {lib : Libraries} {genesis : String} {rows : List Row}
    (sound : SoundRows lib genesis rows) {row : Row} (member : row ∈ rows) :
    ∃ index : Nat, rows[index]? = some row ∧ row.seq = (index : Int) + 1 := by
  obtain ⟨index, found⟩ := List.mem_iff_getElem?.mp member
  exact ⟨index, found, sound.positions index row found⟩

/-- A table is extended by a row exactly when the row passes every check at its tip. -/
theorem soundRows_concat {lib : Libraries} {genesis : String} {rows : List Row} {row : Row} :
    SoundRows lib genesis (rows ++ [row]) ↔ SoundRows lib genesis rows ∧
      row.seq = rows.length + 1 ∧ row.prevHash = tipDigest Row.hash genesis rows ∧
      rowHash lib (row.hashInput (rows.length + 1)) = row.hash ∧ row.Committed lib := by
  constructor
  · intro sound
    obtain ⟨positions, last⟩ := positions_concat.mp sound.positions
    obtain ⟨linked, names⟩ := (linked_concat rows row).mp sound.linked
    have here : row.seq.toNat = rows.length + 1 := by omega
    have final : row ∈ rows ++ [row] := List.mem_append_right _ (List.mem_singleton_self row)
    refine ⟨⟨positions, linked, ?_, ?_⟩, last, names, ?_, sound.committed row final⟩
    · exact fun held member => sound.hashed held (List.mem_append_left _ member)
    · exact fun held member => sound.committed held (List.mem_append_left _ member)
    · rw [← here]
      exact sound.hashed row final
  · rintro ⟨sound, last, names, hashed, committed⟩
    have here : row.seq.toNat = rows.length + 1 := by omega
    refine ⟨positions_concat.mpr ⟨sound.positions, last⟩,
      (linked_concat rows row).mpr ⟨sound.linked, names⟩, ?_, ?_⟩
    · intro held member
      rcases List.mem_append.mp member with earlier | final
      · exact sound.hashed held earlier
      · rw [List.mem_singleton.mp final, here, hashed]
    · intro held member
      rcases List.mem_append.mp member with earlier | final
      · exact sound.committed held earlier
      · rw [List.mem_singleton.mp final]
        exact committed

/-! ## The loop accepts exactly the sound tables -/

section Loop

variable {lib : Libraries} {anchor : Option Anchor} {genesis : String}

/-- One turn of the loop passes a row exactly when every check of it does. -/
theorem walkRow_pass_iff {state next : WalkState} {row : Row} :
    walkRow lib anchor state row = .ok (.ok next) ↔
      row.seq = state.expectedSeq ∧ row.prevHash = state.expectedPrev ∧
      rowHash lib (row.hashInput state.expectedSeq) = row.hash ∧ row.Committed lib ∧
      next = state.pass lib anchor row state.expectedSeq row.bytes := by
  unfold walkRow Row.Committed Row.bytes
  constructor
  · intro passed
    split at passed
    · cases passed
    · rename_i nonneg
      simp only at passed
      split at passed
      · cases passed
      · rename_i here
        split at passed
        · cases passed
        · rename_i linked
          split at passed
          · cases passed
          · rename_i hashed
            rw [not_not] at here linked hashed
            have position : row.seq = state.expectedSeq := by omega
            rw [here] at hashed passed
            refine ⟨position, linked, hashed, ?_⟩
            split at passed
            · cases passed
            · rename_i gone
              cases passed
              rw [gone]
              exact ⟨⟨rfl, fun _ absent => by cases absent⟩, rfl⟩
            · rename_i bytes present
              split at passed
              · cases passed
              · rename_i same
                cases passed
                rw [present]
                refine ⟨⟨rfl, ?_⟩, rfl⟩
                rintro _ ⟨⟩
                exact not_not.mp same
  · rintro ⟨position, linked, hashed, ⟨readable, committed⟩, rfl⟩
    have nonneg : ¬ row.seq < 0 := by omega
    have here : row.seq.toNat = state.expectedSeq := by omega
    simp only [nonneg, if_false, here, linked, hashed, ne_eq, not_true_eq_false]
    cases payload : row.payload.asBytesOrNull with
    | none => rw [payload] at readable; cases readable
    | some content =>
        cases content with
        | none => rfl
        | some bytes =>
            have same : payloadHash lib bytes = row.payloadHash :=
              committed bytes (by rw [payload]; rfl)
            simp only [same, not_true_eq_false, if_false]
            rfl

/-- A longer walk is a walk over the earlier rows and one turn at the last. -/
theorem walkRows_concat_iff {rows : List Row} {row : Row} {state last : WalkState} :
    walkRows lib anchor state (rows ++ [row]) = .ok (.ok last) ↔
      ∃ middle, walkRows lib anchor state rows = .ok (.ok middle) ∧
        walkRow lib anchor middle row = .ok (.ok last) := by
  induction rows generalizing state with
  | nil =>
      simp only [List.nil_append, walkRows, Except.ok.injEq, exists_eq_left']
      cases walkRow lib anchor state row with
      | error error => simp
      | ok result => cases result <;> simp
  | cons head rest ih =>
      simp only [List.cons_append, walkRows]
      cases walkRow lib anchor state head with
      | error error => simp
      | ok result =>
          cases result with
          | error broken => simp
          | ok next => exact ih

/-- The positions whose payload is gone and not yet explained. -/
def unexplained (lib : Libraries) (rows : List Row) : List Nat :=
  rows.foldl (fun nulls row => nullsAfter lib nulls row.seq.toNat row.kind row.bytes) []

/-- The state of the walk after the rows of a sound table. -/
def WalkState.after (lib : Libraries) (anchor : Option Anchor) (genesis : String)
    (rows : List Row) : WalkState where
  expectedSeq := rows.length + 1
  expectedPrev := tipDigest Row.hash genesis rows
  rowsChecked := rows.length
  last := rows.getLast?.map fun row => (rows.length, row.hash)
  unexplainedNulls := unexplained lib rows
  hashAtAnchor := anchor.bind fun anchor =>
    if anchor.seq = 0 then none else rows[anchor.seq - 1]?.map Row.hash

/-- The hash at the anchor is that of the row the anchor names, once the walk has passed it. -/
theorem hashAtAnchor_concat (rows : List Row) (row : Row) :
    (WalkState.after lib anchor genesis (rows ++ [row])).hashAtAnchor =
      if anchor.any (fun anchor => anchor.seq = rows.length + 1) then some row.hash
      else (WalkState.after lib anchor genesis rows).hashAtAnchor := by
  cases anchor with
  | none => rfl
  | some anchor =>
      simp only [WalkState.after, Option.bind_some, Option.any_some, decide_eq_true_eq]
      by_cases zero : anchor.seq = 0
      · simp [zero]
      · by_cases here : anchor.seq = rows.length + 1
        · simp [here]
        · simp only [zero, here, if_false]
          by_cases bound : anchor.seq - 1 < rows.length
          · rw [List.getElem?_append_left bound]
          · rw [List.getElem?_eq_none (l := rows) (by omega),
              List.getElem?_eq_none (by rw [List.length_append, List.length_singleton]; omega)]

/-- Passing the last row takes the state after the rows before it to the state after all. -/
theorem pass_after (rows : List Row) {row : Row} (last : row.seq = rows.length + 1) :
    (WalkState.after lib anchor genesis rows).pass lib anchor row (rows.length + 1) row.bytes =
      WalkState.after lib anchor genesis (rows ++ [row]) := by
  have here : row.seq.toNat = rows.length + 1 := by omega
  have remembered := @hashAtAnchor_concat lib anchor genesis rows row
  have nulls : nullsAfter lib (unexplained lib rows) (rows.length + 1) row.kind row.bytes =
      unexplained lib (rows ++ [row]) := by
    rw [unexplained, unexplained, List.foldl_append, List.foldl_cons, List.foldl_nil, here]
  rw [WalkState.pass, ← remembered]
  simp only [WalkState.after, nulls, tipDigest_concat, List.length_append, List.length_singleton,
    List.getLast?_append, List.getLast?_singleton, Option.some_or, Option.map_some]

/-- **The loop.** The walk gets past every row exactly on a sound table. -/
theorem walkRows_pass_iff {rows : List Row} {state : WalkState} :
    walkRows lib anchor (.start genesis) rows = .ok (.ok state) ↔
      SoundRows lib genesis rows ∧ state = WalkState.after lib anchor genesis rows := by
  induction rows using List.reverseRecOn generalizing state with
  | nil =>
      have empty : WalkState.after lib anchor genesis [] = .start genesis := by
        cases anchor with
        | none => rfl
        | some anchor => simp [WalkState.after, WalkState.start, unexplained]
      simp only [walkRows, Except.ok.injEq, empty, SoundRows.nil, true_and, eq_comm]
  | append_singleton rows row ih =>
      rw [walkRows_concat_iff, soundRows_concat]
      constructor
      · rintro ⟨middle, earlier, turn⟩
        obtain ⟨sound, rfl⟩ := ih.mp earlier
        obtain ⟨last, linked, hashed, committed, rfl⟩ := walkRow_pass_iff.mp turn
        have position : row.seq = rows.length + 1 := last
        exact ⟨⟨sound, position, linked, hashed, committed⟩, pass_after rows position⟩
      · rintro ⟨⟨sound, position, linked, hashed, committed⟩, rfl⟩
        refine ⟨_, ih.mpr ⟨sound, rfl⟩, walkRow_pass_iff.mpr
          ⟨position, linked, hashed, committed, (pass_after rows position).symm⟩⟩

end Loop

/-! ## Redaction cover -/

/-- The payloads that are gone after a row are those before it which it does not explain, and its
own. -/
theorem nullsAfter_iff {lib : Libraries} {nulls : List Nat} {row : Row} {seq : Nat} :
    seq ∈ nullsAfter lib nulls row.seq.toNat row.kind row.bytes ↔
      seq ∈ nulls ∧ ¬ row.Covers lib seq ∨ row.bytes = none ∧ seq = row.seq.toNat := by
  unfold Row.Covers
  cases row.bytes with
  | none => simp [nullsAfter]
  | some bytes =>
      simp only [nullsAfter, reduceCtorEq, false_and, or_false]
      by_cases redaction : row.kind = EventKind.payloadRedacted.asStr
      · cases covered : redactedSeq lib bytes with
        | none => simp [redaction, covered]
        | some held =>
            have flip : (¬ seq = held) ↔ ¬ held = seq := not_congr eq_comm
            simp [redaction, covered, flip]
      · simp [redaction]

/-- The nulls left after a table are those no later redaction names. -/
theorem mem_unexplained_iff {lib : Libraries} {rows : List Row} {seq : Nat} :
    seq ∈ unexplained lib rows ↔ ∃ before row after, rows = before ++ row :: after ∧
      row.bytes = none ∧ row.seq.toNat = seq ∧ ∀ later ∈ after, ¬ later.Covers lib seq := by
  induction rows using List.reverseRecOn with
  | nil => simp [unexplained]
  | append_singleton rows last ih =>
      rw [unexplained, List.foldl_append, List.foldl_cons, List.foldl_nil, ← unexplained,
        nullsAfter_iff, ih]
      constructor
      · rintro (⟨⟨before, row, after, rfl, gone, here, uncovered⟩, free⟩ | ⟨gone, here⟩)
        · refine ⟨before, row, after ++ [last], by rw [List.append_assoc, List.cons_append], gone,
            here, fun later member => ?_⟩
          rcases List.mem_append.mp member with earlier | final
          · exact uncovered later earlier
          · rw [List.mem_singleton.mp final]
            exact free
        · exact ⟨rows, last, [], rfl, gone, here.symm, by simp⟩
      · rintro ⟨before, row, after, split, gone, here, uncovered⟩
        cases after using List.reverseRecOn with
        | nil =>
            obtain ⟨_, same⟩ := List.append_inj' split rfl
            obtain rfl := (List.cons.inj same).1
            exact .inr ⟨gone, here.symm⟩
        | append_singleton after final =>
            rw [← List.cons_append, ← List.append_assoc] at split
            obtain ⟨earlier, same⟩ := List.append_inj' split rfl
            obtain rfl := (List.cons.inj same).1
            refine .inl ⟨⟨before, row, after, earlier, gone, here, fun later member => ?_⟩, ?_⟩
            · exact uncovered later (List.mem_append_left _ member)
            · exact uncovered last (List.mem_append_right _ (List.mem_singleton_self last))

/-- No payload is unexplained exactly if the table explains each that is gone. -/
theorem unexplained_eq_nil_iff {lib : Libraries} {rows : List Row} :
    unexplained lib rows = [] ↔ Explained lib rows := by
  rw [List.eq_nil_iff_forall_not_mem]
  constructor
  · intro none before row after split gone
    by_contra uncovered
    push Not at uncovered
    exact none row.seq.toNat
      (mem_unexplained_iff.mpr ⟨before, row, after, split, gone, rfl, uncovered⟩)
  · intro explained seq member
    obtain ⟨before, row, after, split, gone, rfl, uncovered⟩ := mem_unexplained_iff.mp member
    obtain ⟨later, found, covers⟩ := explained before row after split gone
    exact uncovered later found covers

/-! ## The report -/

section Report

variable {lib : Libraries} {anchor : Option Anchor} {genesis : String}

/-- The last row of a walk has the number of rows and the hash of the table's tip. -/
theorem last_after (rows : List Row) :
    (WalkState.after lib anchor genesis rows).last.getD (0, genesis) =
      (rows.length, tipDigest Row.hash genesis rows) := by
  cases rows using List.reverseRecOn with
  | nil => rfl
  | append_singleton rows row =>
      simp only [WalkState.after, tipDigest_concat, List.getLast?_append,
        List.getLast?_singleton, Option.some_or, Option.map_some, Option.getD_some]

/-- The hash the walk captures at the anchored position. -/
theorem hash_at_anchor (rows : List Row) (remembered : Anchor)
    (reached : remembered.seq ≤ rows.length) :
    (if remembered.seq = 0 then genesis
      else (WalkState.after lib (some remembered) genesis rows).hashAtAnchor.getD "") =
      tipDigest Row.hash genesis (rows.take remembered.seq) := by
  by_cases zero : remembered.seq = 0
  · simp [zero]
  · obtain ⟨index, position⟩ : ∃ index, remembered.seq = index + 1 :=
      ⟨remembered.seq - 1, by omega⟩
    have bound : index < rows.length := by omega
    rw [position, List.take_succ_eq_append_getElem bound, tipDigest_concat]
    simp [WalkState.after, position, bound]

/-- The anchor objects to nothing exactly when it witnesses the chain. -/
theorem anchorBreak_eq_none_iff (rows : List Row) (remembered : Anchor) :
    anchorBreak genesis (WalkState.after lib (some remembered) genesis rows) remembered = none ↔
      Witnesses genesis rows remembered := by
  simp only [anchorBreak, last_after]
  by_cases reached : remembered.seq > rows.length
  · simp only [reached, if_true, reduceCtorEq, false_iff]
    exact fun witnesses => absurd witnesses.reached (by omega)
  · have within : remembered.seq ≤ rows.length := by omega
    rw [hash_at_anchor rows remembered within]
    simp only [reached, if_false]
    by_cases same : tipDigest Row.hash genesis (rows.take remembered.seq) = remembered.hash
    · by_cases recent : rows.length - remembered.seq > anchorLagTolerance
      · simp only [same, ne_eq, not_true_eq_false, if_false, recent, if_true, reduceCtorEq,
          false_iff]
        exact fun witnesses => absurd witnesses.recent (by omega)
      · simp only [same, ne_eq, not_true_eq_false, if_false, recent, true_iff]
        exact ⟨within, by omega, same.symm⟩
    · simp only [same, ne_eq, not_false_eq_true, if_true, reduceCtorEq, false_iff]
      exact fun witnesses => same witnesses.hash.symm

/-- A walk ends intact exactly if what is gone is explained, and the anchor and the head agree with
the rows. -/
theorem finishWalk_isIntact_iff (headSeq : Nat) (headHash : String) (rows : List Row) :
    (finishWalk anchor genesis headSeq headHash
      (WalkState.after lib anchor genesis rows)).isIntact = true ↔
      Explained lib rows ∧ (∀ remembered ∈ anchor, Witnesses genesis rows remembered) ∧
        rows.length = headSeq ∧ tipDigest Row.hash genesis rows = headHash := by
  rw [← unexplained_eq_nil_iff]
  have nulls : (WalkState.after lib anchor genesis rows).unexplainedNulls = unexplained lib rows :=
    rfl
  simp only [finishWalk, last_after, nulls]
  cases unexplained lib rows with
  | cons seq others => simp [ChainReport.isIntact]
  | nil =>
      cases anchor with
      | none => by_cases seqs : rows.length = headSeq <;>
          by_cases hashes : tipDigest Row.hash genesis rows = headHash <;>
          simp [ChainReport.isIntact, seqs, hashes]
      | some remembered =>
          have objection := @anchorBreak_eq_none_iff lib genesis rows remembered
          cases found : anchorBreak genesis (WalkState.after lib (some remembered) genesis rows)
            remembered with
          | some reason =>
              rw [found] at objection
              simp [ChainReport.isIntact, found, ← objection]
          | none =>
              rw [found] at objection
              have witnesses := objection.mp rfl
              by_cases seqs : rows.length = headSeq <;>
                by_cases hashes : tipDigest Row.hash genesis rows = headHash <;>
                simp [ChainReport.isIntact, found, seqs, hashes, witnesses]

/-- The head of an intact table reads as the position and hash of its last row. -/
theorem head_eq_ok_iff {db : Db} {seq : Nat} {hash : String} :
    head db = .ok (seq, hash) ↔ db.chainHead = some ((seq : Int), hash) := by
  unfold head
  cases db.chainHead with
  | none => simp only [reduceCtorEq]
  | some held =>
      obtain ⟨raw, stored⟩ := held
      by_cases negative : raw < 0
      · simp only [negative, if_true, reduceCtorEq, Option.some.injEq, Prod.mk.injEq, false_iff]
        rintro ⟨rfl, _⟩
        omega
      · simp only [negative, if_false, Except.ok.injEq, Option.some.injEq, Prod.mk.injEq]
        exact and_congr_left fun _ => by omega

/-- **Acceptance.** The walk reports an intact chain exactly on the intact tables. -/
theorem walk_isIntact_iff {db : Db} :
    (∃ report, walk lib anchor db genesis = .ok report ∧ report.isIntact = true) ↔
      Intact lib anchor genesis db := by
  unfold walk
  cases found : head db with
  | error error =>
      simp only [bind, Except.bind, reduceCtorEq, false_and, exists_false, false_iff]
      intro intact
      rw [head_eq_ok_iff.mpr intact.head] at found
      cases found
  | ok held =>
      obtain ⟨headSeq, headHash⟩ := held
      have stored := head_eq_ok_iff.mp found
      simp only [bind, Except.bind]
      cases loop : walkRows lib anchor (.start genesis) db.events with
      | error error =>
          simp only [reduceCtorEq, false_and, exists_false, false_iff]
          intro intact
          rw [walkRows_pass_iff.mpr ⟨intact.rows, rfl⟩] at loop
          cases loop
      | ok result =>
          cases result with
          | error broken =>
              simp only [pure, Except.pure, Except.ok.injEq, exists_eq_left',
                ChainReport.isIntact, Option.isNone_some, Bool.false_eq_true, false_iff]
              intro intact
              rw [walkRows_pass_iff.mpr ⟨intact.rows, rfl⟩] at loop
              cases loop
          | ok state =>
              obtain ⟨sound, rfl⟩ := walkRows_pass_iff.mp loop
              simp only [pure, Except.pure, Except.ok.injEq, exists_eq_left',
                finishWalk_isIntact_iff]
              constructor
              · rintro ⟨explained, witnessed, rfl, rfl⟩
                exact ⟨sound, explained, witnessed, stored⟩
              · intro intact
                have same := stored.symm.trans intact.head
                simp only [Option.some.injEq, Prod.mk.injEq, Int.natCast_inj] at same
                exact ⟨intact.explained, intact.witnessed, same.1.symm, same.2.symm⟩

end Report

end Oppen.Ledger
