import Oppen.Foundation.Fold
import Oppen.Ledger.System

/-! # Lifecycle rows and their replay

What the journal writes it reads back: a row of the chain reads as its event, the
intent a reservation names is the one the replay checks, and the replay of a table
does not change while rows are added and other payloads are nulled.
-/

namespace Oppen.Ledger

open Foundation Oppen.Json Oppen.Guardrail

section Reading

variable {lib : Libraries}

/-- The event a row of the chain reads as. -/
def chainedEvent (lib : Libraries) (event : NewEvent) (seq : Nat) (prevHash canonical : String) :
    Event where
  seq := seq
  tsMs := event.tsMs
  kind := event.kind
  agentId := event.agentId
  payload := some (sortedValue event.payload)
  payloadHash := payloadHash lib (utf8 canonical)
  prevHash := prevHash
  hash := (chainedRow lib event seq prevHash canonical none).hash
  redactedAt := none
  redactionReason := none
  snapshotId := event.snapshot.map SnapshotRef.id
  snapshotHash := event.snapshot.map SnapshotRef.hash

/-- An event is read back from the row that was chained for it, where its payload is shallow enough
for the reader. -/
theorem eventFromRow_chainedRow {event : NewEvent} {canonical : String}
    (written : canonicalJson event.payload = .ok canonical)
    (shallow : (sortedValue event.payload).nesting < recursionLimit) (seq : Nat)
    (prevHash : String) (idemKey : Option String) :
    eventFromRow lib (chainedRow lib event seq prevHash canonical idemKey) =
      .ok (chainedEvent lib event seq prevHash canonical) := by
  have parsed := lib.fromSlice_canonical _ _ written shallow
  have within : ¬ ((seq : Nat) : Int) < 0 := not_lt.mpr (Int.natCast_nonneg seq)
  simp only [eventFromRow, chainedRow, readPayload, parsed, refuseIf, within, if_false,
    EventKind.fromStr_asStr, Int.toNat_natCast]
  rfl

/-- The payload of a start is flat. -/
theorem nesting_started (start : Started) : (sortedValue start.toValue).nesting = 1 := rfl

/-- The payload of a resolution nests two deep. -/
theorem nesting_resolved (resolved : Resolved) : (sortedValue resolved.toValue).nesting = 2 := by
  obtain ⟨version, account, startSeq, startHash, outcome⟩ := resolved
  cases outcome <;> rfl

/-- A value that sorts to a text is that text. -/
theorem eq_string_of_sorted {value : Value} {text : String}
    (same : sortedValue value = .string text) : value = .string text := by
  cases value with
  | string _ => exact same
  | _ => cases same

/-- A value that sorts to nothing is nothing. -/
theorem eq_null_of_sorted {value : Value} (same : sortedValue value = .null) : value = .null := by
  cases value with
  | null => rfl
  | _ => cases same

/-- Dropping one field leaves the others to be found. -/
theorem lookup_without {dropped key : String} (other : dropped ≠ key) (fields : Fields) :
    (Fields.without dropped fields).lookup key = fields.lookup key := by
  fun_induction Fields.without dropped fields with
  | case1 => rfl
  | case2 value rest ih =>
      rw [ih, Fields.lookup, if_neg other, Option.or_none]
  | case3 name value rest named ih => rw [Fields.lookup, Fields.lookup, ih]

/-- The reason hides no other member. -/
theorem get_withoutReason (payload : Value) {key : String} (other : "reason" ≠ key) :
    (withoutReason payload).get key = payload.get key := by
  cases payload with
  | object fields => exact lookup_without other fields
  | _ => rfl

/-- A payload with the terms of a clearance has its members, up to the order of theirs. -/
theorem get_of_sameValue {payload : Value} {clearance : Clearance}
    (same : sameValue (withoutReason payload) clearance.toValue = true) {key : String}
    (reason : "reason" ≠ key) (digest : key ≠ "approval_review_digest") :
    (payload.get key).map sortedValue =
      ((Fields.ofList clearance.fields).lookup key).map sortedValue := by
  have equal : sortedValue (withoutReason payload) = sortedValue clearance.toValue :=
    of_decide_eq_true same
  have member := congrArg (fun value => value.get key) equal
  simp only [get_sortedValue, get_withoutReason payload reason,
    clearance.get_toValue digest] at member
  exact member

end Reading

section Intents

variable {lib : Libraries} {dec : Decimals} {handle : Handle} {db : Db}

/-- What the search found: a readable intent row of the agent with the cleared terms. -/
theorem findIntent_ok {wanted : Value} {rows : List Row} {found : Nat × String}
    (run : findIntent lib dec wanted rows = .ok (some found)) :
    ∃ row ∈ rows, ∃ event payload, eventFromRow lib row = .ok event ∧
      event.payload = some payload ∧ sameValue (withoutReason payload) wanted = true ∧
      found = (event.seq, event.hash) := by
  induction rows with
  | nil => cases run
  | cons row rest ih =>
      obtain ⟨event, read, run⟩ := bind_eq_ok run
      by_cases matched :
          event.payload.any (fun payload => sameValue (withoutReason payload) wanted) = true
      · rw [if_pos matched] at run
        cases run
        cases present : event.payload with
        | none =>
            rw [present] at matched
            cases matched
        | some payload =>
            rw [present] at matched
            exact ⟨row, List.mem_cons_self, event, payload, mapError_eq_ok read, present, matched,
              rfl⟩
      · rw [if_neg matched] at run
        obtain ⟨held, member, rest⟩ := ih run
        exact ⟨held, List.mem_cons_of_mem _ member, rest⟩

/-- A payload with the terms of a cleared order says what the start that names it needs. -/
theorem intentLinked_of_same {clearance : Clearance} {account : Address} {cloid : Cloid}
    (network : clearance.network = handle.network)
    (vault : ∀ vault ∈ clearance.vaultAddress, vault = account)
    (named : clearance.kind.cloid? = some cloid) {event : Event} {payload : Value}
    (same : sameValue (withoutReason payload) clearance.toValue = true)
    (kind : event.kind = .orderIntent) (agentId : event.agentId = some clearance.agent) :
    IntentLinked handle ⟨1, account, cloid, event.seq, event.hash⟩ clearance.agent event
      payload := by
  have agent : (payload.get "agent").map sortedValue = some (.string clearance.agent) :=
    get_of_sameValue same (by decide) (by decide)
  have network' : (payload.get "network").map sortedValue =
      some (sortedValue clearance.network.toValue) := get_of_sameValue same (by decide) (by decide)
  have vaultAddress : (payload.get "vault_address").map sortedValue =
      some (sortedValue (optionValue Address.toValue clearance.vaultAddress)) :=
    get_of_sameValue same (by decide) (by decide)
  have cleared : (payload.get "kind").map sortedValue = some (sortedValue clearance.kind.toValue) :=
    get_of_sameValue same (by decide) (by decide)
  obtain ⟨inner, present, members⟩ := Option.map_eq_some_iff.mp cleared
  have member (key : String) : (inner.get key).map sortedValue =
      (clearance.kind.toValue.get key).map sortedValue := by
    rw [← get_sortedValue, ← get_sortedValue, members]
  obtain ⟨symbol, isBuy, px, sz, notional, reduceOnly, slippage, reference, slipped, snapshotId,
    snapshotHash, order⟩ : ∃ symbol isBuy px sz notional reduceOnly slippage reference slipped
      snapshotId snapshotHash, clearance.kind = .order symbol isBuy px sz notional reduceOnly
        slippage reference slipped (some cloid) snapshotId snapshotHash := by
    cases shape : clearance.kind with
    | order =>
        rw [shape] at named
        cases named
        exact ⟨_, _, _, _, _, _, _, _, _, _, _, rfl⟩
    | _ =>
        rw [shape] at named
        cases named
  rw [order] at member
  obtain ⟨held, here, text⟩ := Option.map_eq_some_iff.mp (member "cleared")
  obtain ⟨held', here', text'⟩ := Option.map_eq_some_iff.mp (member "cloid")
  refine ⟨kind, rfl, agentId, ?_, ?_, ?_, ?_, ?_⟩
  · obtain ⟨value, found, text⟩ := Option.map_eq_some_iff.mp agent
    rw [found, eq_string_of_sorted text]
    rfl
  · obtain ⟨value, found, text⟩ := Option.map_eq_some_iff.mp network'
    rw [found, eq_string_of_sorted text, network]
    rfl
  · rw [index, index, present, Option.getD_some, here, eq_string_of_sorted text]
    rfl
  · rw [index, index, present, Option.getD_some, here', eq_string_of_sorted text']
    rfl
  · obtain ⟨value, found, text⟩ := Option.map_eq_some_iff.mp vaultAddress
    rw [index, found, Option.getD_some]
    cases owner : clearance.vaultAddress with
    | none =>
        rw [owner] at text
        exact .inl (eq_null_of_sorted text)
    | some held =>
        rw [owner] at text
        obtain rfl := vault held owner
        exact .inr (eq_string_of_sorted text)

/-- The intent a reservation names is there, before it, and is the one the replay checks. -/
theorem validateIntent_of_found (sound : SoundRows lib (handle.genesis lib) db.events)
    (small : db.events.length + 1 < 2 ^ 63)
    {clearance : Clearance} {account : Address} {cloid : Cloid}
    (network : clearance.network = handle.network)
    (vault : ∀ vault ∈ clearance.vaultAddress, vault = account)
    (named : clearance.kind.cloid? = some cloid) {intentSeq : Nat} {intentHash : String}
    (found : findIntent lib dec clearance.toValue (intentRows db clearance.agent) =
      .ok (some (intentSeq, intentHash))) :
    0 < intentSeq ∧ intentSeq ≤ db.events.length ∧
      ∃ intent, validateIntent (D := dec.Decimal) lib handle db
          ⟨1, account, cloid, intentSeq, intentHash⟩ clearance.agent = .ok intent ∧
        sameValue (withoutReason intent) clearance.toValue = true := by
  obtain ⟨row, member, event, payload, read, present, same, rfl, rfl⟩ := findIntent_ok found
  rw [intentRows, List.mem_reverse, List.mem_filter, Bool.and_eq_true, decide_eq_true_eq,
    decide_eq_true_eq] at member
  obtain ⟨inside, kind, agentId⟩ := member
  obtain ⟨index, here, position⟩ := sound.index inside
  obtain ⟨bound, _⟩ := List.getElem?_eq_some_iff.mp here
  obtain ⟨_, seq, kind', agentId', _, _⟩ := eventFromRow_ok read
  have placed : event.seq = index + 1 := by omega
  have intentKind : event.kind = .orderIntent :=
    EventKind.asStr_injective (kind'.trans kind)
  have linked : IntentLinked handle ⟨1, account, cloid, event.seq, event.hash⟩ clearance.agent event
      payload :=
    intentLinked_of_same network vault named same intentKind (agentId'.trans agentId)
  refine ⟨by omega, by omega, payload, ?_, same⟩
  have standsAt : db.rowAt ((event.seq : Nat) : Int) = some row := by
    rw [placed, Nat.cast_succ, sound.rowAt, here]
  have range : ¬ 2 ^ 63 ≤ event.seq := by omega
  simp only [validateIntent, refuseIf, range, if_false, standsAt, read, mapError, bind, Except.bind,
    pure, Except.pure, present, linked, not_true_eq_false]

end Intents

/-! ## Replaying a growing table -/

/-- The rows a replay reads: the lifecycle rows and the intents they name. -/
def Row.isJournal (row : Row) : Bool :=
  row.isLifecycle || row.kind = EventKind.orderIntent.asStr

/-- The call redacts no row a replay reads. -/
def Call.spares {dec : Decimals} (db : Db) : Call dec → Bool
  | .redact seq _ _ => (db.rowAt seq).all fun row => row.isJournal = false
  | _ => true

/-- A step that redacts no row a replay reads. -/
def SparingStep (lib : Libraries) (dec : Decimals) (handle : Handle) (before : Store)
    (request : Request dec) (after : Store) : Prop :=
  request.call.spares before.db = true ∧ Step lib dec handle before request after

section Growing

variable {lib : Libraries} {dec : Decimals} {handle : Handle} {db changed : Db}

/-- Every intent of the first table is at its place in the second. -/
def KeepsIntents (before after : Db) : Prop :=
  ∀ (seq : Int) (row : Row), before.rowAt seq = some row →
    row.kind = EventKind.orderIntent.asStr → after.rowAt seq = some row

/-- An intent that is valid is in the ledger, as the order that starts names it. -/
theorem validateIntent_ok {start : Started} {agent : String} {intent : Value}
    (run : validateIntent (D := dec.Decimal) lib handle db start agent = .ok intent) :
    start.intentSeq < 2 ^ 63 ∧ ∃ row event, db.rowAt start.intentSeq = some row ∧
      eventFromRow lib row = .ok event ∧ event.payload = some intent ∧
      IntentLinked handle start agent event intent := by
  obtain ⟨_, within, run⟩ := bind_eq_ok run
  split at run
  · cases run
  · rename_i row found
    obtain ⟨event, read, run⟩ := bind_eq_ok run
    split at run
    · cases run
    · rename_i payload present
      obtain ⟨_, linked, run⟩ := bind_eq_ok run
      cases run
      exact ⟨Nat.not_le.mp (refuseIf_ok within), row, event, found, mapError_eq_ok read, present,
        not_not.mp (refuseIf_ok linked)⟩

/-- An intent stays valid in a ledger that keeps its intents. -/
theorem validateIntent_kept (keeps : KeepsIntents db changed) {start : Started} {agent : String}
    {intent : Value}
    (run : validateIntent (D := dec.Decimal) lib handle db start agent = .ok intent) :
    validateIntent (D := dec.Decimal) lib handle changed start agent = .ok intent := by
  obtain ⟨within, row, event, found, read, present, linked⟩ := validateIntent_ok run
  have kind : row.kind = EventKind.orderIntent.asStr := by
    rw [← (eventFromRow_ok read).2.2.1, linked.kind]
  have range : ¬ 2 ^ 63 ≤ start.intentSeq := Nat.not_le.mpr within
  simp only [validateIntent, refuseIf, range, if_false,
    keeps _ row found kind, read, mapError, bind,
    Except.bind, pure, Except.pure, present, linked, not_true_eq_false]

/-- A row read before the table grew is read the same after. -/
theorem replayRow_kept (keeps : KeepsIntents db changed) {before after : Replay} {row : Row}
    (run : replayRow (D := dec.Decimal) lib handle db before row = .ok after) :
    replayRow (D := dec.Decimal) lib handle changed before row = .ok after := by
  unfold replayRow at run ⊢
  obtain ⟨event, read, run⟩ := bind_eq_ok run
  rw [read]
  dsimp only [bind, Except.bind]
  cases named : event.agentId with
  | none =>
      rw [named] at run
      exact run
  | some agent =>
      rw [named] at run
      cases present : event.payload with
      | none =>
          rw [present] at run
          exact run
      | some payload =>
          rw [present] at run
          cases kind : event.kind with
          | submissionStarted =>
              rw [kind] at run
              change replayStarted lib handle db before event row.idemKey agent payload = _ at run
              change replayStarted lib handle changed before event row.idemKey agent payload = _
              unfold replayStarted at run ⊢
              cases parsed : Started.ofValue payload with
              | none =>
                  rw [parsed] at run
                  exact run
              | some start =>
                  rw [parsed] at run
                  obtain ⟨_, version, run⟩ := bind_eq_ok run
                  obtain ⟨_, keyed, run⟩ := bind_eq_ok run
                  obtain ⟨intent, valid, run⟩ := bind_eq_ok run
                  rw [← run]
                  simp only [version, keyed, validateIntent_kept keeps valid, bind, Except.bind]
          | _ =>
              rw [kind] at run
              exact run

/-- The replay of the rows a larger table shares with a smaller one. -/
theorem replay_kept (keeps : KeepsIntents db changed) {rows : List Row} {read : Replay}
    (run : rows.foldlM (replayRow (D := dec.Decimal) lib handle db) .empty = .ok read) :
    rows.foldlM (replayRow (D := dec.Decimal) lib handle changed) .empty = .ok read :=
  foldlM_mono (fun _ _ _ => replayRow_kept keeps) run

/-- A redaction's event names the row it redacts. -/
theorem redactionEvent_seq {seq seq' : Nat} {reason reason' : String} {tsMs tsMs' : Int64}
    (same : redactionEvent seq reason tsMs = redactionEvent seq' reason' tsMs') : seq = seq' := by
  have member := congrArg (fun event : NewEvent => event.payload.get "redacted_seq") same
  exact Int.ofNat.inj (Number.int.inj (Value.number.inj (Option.some.inj member)))

/-- The position of a row singles it out. -/
theorem SoundRows.eq_of_seq {genesis : String} {rows : List Row}
    (sound : SoundRows lib genesis rows)
    {first second : Row} (member : first ∈ rows) (member' : second ∈ rows)
    (same : first.seq = second.seq) : first = second := by
  obtain ⟨index, found, position⟩ := sound.index member
  obtain ⟨index', found', position'⟩ := sound.index member'
  obtain rfl : index = index' := by omega
  exact Option.some.inj (found.symm.trans found')

/-- What a replay reads of a table that grew by a change that redacts none of it: every
intent where it was, and the lifecycle rows followed by the new row if it is one. -/
theorem Change.keepsJournal {event : NewEvent} {idemKey : Option String} {appended : Appended}
    (change : Change lib (handle.genesis lib) db event idemKey appended changed)
    (consistent : Consistent lib (handle.genesis lib) db)
    (spared : ∀ seq reason tsMs row, event = redactionEvent seq reason tsMs →
      db.rowAt (seq : Nat) = some row → row.isJournal = false) :
    KeepsIntents db changed ∧ ∃ row : Row, row.kind = event.kind.asStr ∧
      changed.events.filter Row.isLifecycle =
        db.events.filter Row.isLifecycle ++ [row].filter Row.isLifecycle := by
  obtain ⟨base, canonical, prepared, _, same⟩ := change.events
  suffices kept : KeepsIntents db base ∧
      base.events.filter Row.isLifecycle = db.events.filter Row.isLifecycle by
    refine ⟨fun seq row found kind => ?_,
      nextRow lib (handle.genesis lib) base event canonical idemKey, rfl, ?_⟩
    · have here := kept.1 seq row found kind
      rw [Db.rowAt, same, List.find?_append]
      exact Option.or_eq_some_iff.mpr (.inl here)
    · rw [same, List.filter_append, kept.2]
  cases prepared with
  | plain => exact ⟨fun _ _ found _ => found, rfl⟩
  | @tombstone seq reason tsMs nulled within found present redactable explains =>
      have hidden := spared seq reason tsMs nulled explains found
      obtain ⟨inside, position⟩ := mem_of_rowAt found
      have untouched (row : Row) (member : row ∈ db.events) (journal : row.isJournal = true) :
          tombstoned seq tsMs reason row = row := by
        refine if_neg fun here => ?_
        rw [consistent.rows.eq_of_seq member inside (here.trans position.symm), hidden] at journal
        cases journal
      have lifecycle (row : Row) :
        (tombstoned seq tsMs reason row).isLifecycle = row.isLifecycle := by
        simp only [Row.isLifecycle, tombstoned_kind]
      constructor
      · intro place row found kind
        obtain ⟨member, _⟩ := mem_of_rowAt found
        have journal : row.isJournal = true := by
          simp only [Row.isJournal, kind, decide_true, Bool.or_true]
        rw [Db.rowAt, events_tombstone, List.find?_map]
        have positions : (fun row : Row => decide (row.seq = place)) ∘ tombstoned seq tsMs reason =
            fun row => decide (row.seq = place) := by
          funext row
          rw [Function.comp_apply, tombstoned_seq]
        change db.events.find? (fun row => row.seq = place) = some row at found
        rw [positions, found, Option.map_some, untouched row member journal]
      · have same : Row.isLifecycle ∘ tombstoned seq tsMs reason = Row.isLifecycle :=
          funext lifecycle
        rw [events_tombstone, List.filter_map, same]
        refine (List.map_congr_left fun row member => ?_).trans (List.map_id _)
        obtain ⟨inside, cycle⟩ := List.mem_filter.mp member
        exact untouched row inside (by rw [Row.isJournal, cycle, Bool.true_or])

end Growing

end Oppen.Ledger
