import Oppen.Foundation.PrefixRange
import Oppen.Ledger.System

/-! # Fill keys

A fill is identified by a textual key that a unique index, a range scan and the chain
writer share. The key determines the account and the trade id; the range of an
account holds its fills and those of the accounts that extend its name by a colon.
-/

namespace Oppen.Ledger

open Foundation Oppen.Json

/-! ## Keys as bytes -/

/-- Each text has codes of its own. -/
theorem codes_injective : Function.Injective codes :=
  (List.map_injective_iff.mpr fun _ _ => UInt8.toNat_inj.mp).comp utf8_injective

/-- The codes of joined texts are their joined codes. -/
theorem codes_append (first second : String) :
    codes (first ++ second) = codes first ++ codes second := by
  simp only [codes, utf8, String.toByteArray_append, ByteArray.data_append, Array.toList_append,
    List.map_append]

/-- `fill_key_range`: the bounds of an account's keys, the upper one excluded. -/
def fillKeyRange (account : String) : String × String :=
  ("fill:" ++ account ++ ":", "fill:" ++ account ++ ";")

/-- A key within a half-open range of the index. -/
def InRange (range : String × String) (key : String) : Prop :=
  ¬ codes key < codes range.1 ∧ codes key < codes range.2

instance (range : String × String) (key : String) : Decidable (InRange range key) :=
  inferInstanceAs (Decidable (_ ∧ _))

/-- `newest_fill_ts_ms`: the newest timestamp in the range of an account before a position. -/
def newestFillTsMs (db : Db) (account : String) (beforeSeq : Nat) : Result (Option Nat) := do
  refuseIf (2 ^ 63 ≤ beforeSeq) .seqOutOfRange
  let scanned := db.events.filter fun row =>
    row.idemKey.any (fun key => InRange (fillKeyRange account) key) && row.seq < (beforeSeq : Int)
  let newest := (scanned.map fun row => row.tsMs.toInt).max?
  return newest.bind fun tsMs => if tsMs < 0 then none else some tsMs.toNat

/-- The name of an account begins with that of another and a colon. -/
def ExtendsByColon (account longer : String) : Prop := codes (account ++ ":") <+: codes longer

instance (account longer : String) : Decidable (ExtendsByColon account longer) :=
  inferInstanceAs (Decidable (_ <+: _))

theorem codes_colon : codes ":" = [58] := by decide

/-- A marked stem that begins a marked text is that text's stem or lies within it. -/
theorem stem_prefix_iff {mark : Nat} {stem text rest : List Nat} (unmarked : mark ∉ rest) :
    stem ++ [mark] <+: text ++ mark :: rest ↔ stem = text ∨ stem ++ [mark] <+: text := by
  constructor
  · intro begins
    have whole : text ++ [mark] <+: text ++ mark :: rest := by
      rw [← List.singleton_append (l := rest), ← List.append_assoc]
      exact List.prefix_append _ _
    rcases List.prefix_or_prefix_of_prefix begins whole with within | within
    · rcases List.prefix_concat_iff.mp within with same | inside
      · exact .inl (List.append_inj_left' same rfl)
      · exact .inr inside
    · rcases List.prefix_concat_iff.mp within with same | inside
      · exact .inl (List.append_inj_left' same rfl).symm
      · obtain ⟨middle, rfl⟩ := inside
        rw [List.append_assoc, List.append_assoc, List.singleton_append,
          List.prefix_append_right_inj, List.cons_prefix_cons] at begins
        exact absurd (begins.2.subset (List.mem_append_right _ (List.mem_singleton_self mark)))
          unmarked
  · rintro (rfl | inside)
    · rw [← List.singleton_append (l := rest), ← List.append_assoc]
      exact List.prefix_append _ _
    · exact inside.trans (List.prefix_append _ _)

/-- No number is written with a colon. -/
theorem codes_digits (number : Nat) : 58 ∉ codes (toString number) := by
  have plain : ∀ code < 58, 58 ∉ (String.utf8EncodeChar (Char.ofNat code)).map UInt8.toNat := by
    decide
  have chars : codes (toString number) = (Nat.toDigits 10 number).flatMap fun digit =>
      (String.utf8EncodeChar digit).map UInt8.toNat := by
    change (utf8 (String.ofList (Nat.toDigits 10 number))).map UInt8.toNat = _
    rw [utf8_ofList, List.map_flatMap]
  rw [chars, List.mem_flatMap]
  rintro ⟨digit, member, inside⟩
  have range := Char.isDigit_iff_toNat.mp
    (Nat.isDigit_of_mem_toDigits (by omega) (by omega) member)
  have nine : '9'.toNat = 57 := rfl
  refine plain digit.toNat (by omega) ?_
  rwa [Char.ofNat_toNat]

/-- The codes of a fill's key are those of its account and its trade with a colon between. -/
theorem codes_fillIdemKey (account : String) (tid : UInt64) :
    codes (fillIdemKey account tid) =
      codes "fill:" ++ (codes account ++ 58 :: codes (toString tid.toNat)) := by
  simp only [fillIdemKey, codes_append, codes_colon, List.append_assoc, List.singleton_append]

/-- Each number has a text of its own. -/
theorem toString_nat_injective : Function.Injective (toString : Nat → String) := by
  intro first second same
  have digits : Nat.toDigits 10 first = Nat.toDigits 10 second := by
    have chars := congrArg String.toList same
    simpa only [Nat.toString_eq_repr, Nat.repr, String.toList_ofList] using chars
  have values := congrArg (Nat.ofDigitChars 10 · 0) digits
  simpa only [Nat.ofDigitChars_toDigits (by omega : 1 < 10) (by omega)] using values

/-- A fill key determines the account and the trade id. -/
theorem fillIdemKey_injective {account account' : String} {tid tid' : UInt64}
    (same : fillIdemKey account tid = fillIdemKey account' tid') :
    account = account' ∧ tid = tid' := by
  have bytes := congrArg codes same
  rw [codes_fillIdemKey, codes_fillIdemKey, List.append_cancel_left_eq] at bytes
  have begins : codes account ++ [58] <+: codes account' ++ 58 :: codes (toString tid'.toNat) := by
    rw [← bytes]
    exact (stem_prefix_iff (codes_digits _)).mpr (.inl rfl)
  have begins' : codes account' ++ [58] <+: codes account ++ 58 :: codes (toString tid.toNat) := by
    rw [bytes]
    exact (stem_prefix_iff (codes_digits _)).mpr (.inl rfl)
  have accounts : codes account = codes account' := by
    rcases (stem_prefix_iff (codes_digits _)).mp begins with same | inside
    · exact same
    · rcases (stem_prefix_iff (codes_digits _)).mp begins' with same | inside'
      · exact same.symm
      · have short := inside.length_le
        have short' := inside'.length_le
        rw [List.length_append, List.length_singleton] at short short'
        omega
  rw [accounts, List.append_cancel_left_eq, List.cons.injEq] at bytes
  exact ⟨codes_injective accounts,
    UInt64.toNat_inj.mp (toString_nat_injective (codes_injective bytes.2))⟩

/-- **The range of an account**: its own fills, and those of every account whose name
extends it by a colon. -/
theorem inRange_fillIdemKey_iff {account owner : String} {tid : UInt64} :
    InRange (fillKeyRange account) (fillIdemKey owner tid) ↔
      owner = account ∨ ExtendsByColon account owner := by
  have adjacent : (58 : Nat) ⋖ 59 := ⟨by decide, fun _ above below => by omega⟩
  have semicolon : codes ";" = [59] := by decide
  have between := prefix_iff_between adjacent (codes "fill:" ++ codes account)
    (codes (fillIdemKey owner tid))
  rw [codes_fillIdemKey, List.append_assoc, List.append_assoc, List.prefix_append_right_inj,
    stem_prefix_iff (codes_digits _)] at between
  simp only [InRange, fillKeyRange, codes_append, codes_colon, semicolon, codes_fillIdemKey,
    ExtendsByColon, List.append_assoc]
  refine between.trans (or_congr_left ?_)
  exact ⟨fun same => (codes_injective same).symm, fun same => same ▸ rfl⟩

/-- A key in the range of an account begins as a fill's does. -/
theorem isFillKey_of_inRange {account key : String} (inside : InRange (fillKeyRange account) key) :
    isFillKey key = true := by
  have adjacent : (58 : Nat) ⋖ 59 := ⟨by decide, fun _ above below => by omega⟩
  have semicolon : codes ";" = [59] := by decide
  simp only [InRange, fillKeyRange, codes_append, codes_colon, semicolon] at inside
  have begins := (prefix_iff_between adjacent _ _).mp inside
  rw [isFillKey, List.isPrefixOf_iff_prefix]
  exact ((List.prefix_append _ _).trans (List.prefix_append _ _)).trans begins

/-- The key of a fill is one by its prefix. -/
theorem isFillKey_fillIdemKey (account : String) (tid : UInt64) :
    isFillKey (fillIdemKey account tid) = true := by
  rw [isFillKey, List.isPrefixOf_iff_prefix, codes_fillIdemKey]
  exact List.prefix_append _ _

/-! ## Which rows carry fill keys -/

/-- The fill event of an account and a trade id. -/
def IsFillOf (account : String) (tid : UInt64) (row : Row) : Prop :=
  row.kind = EventKind.fill.asStr ∧ row.idemKey = some (fillIdemKey account tid)

/-- A fill row was recorded by one of the requests, and only fill rows carry a fill's key. -/
structure Sourced (dec : Decimals) (requests : List (Request dec)) (row : Row) : Prop where
  fill : row.kind = EventKind.fill.asStr → ∃ request ∈ requests, ∃ fill : NewFill,
    request.call = .recordFill fill ∧ IsFillOf fill.account fill.tid row
  keyed : ∀ key ∈ row.idemKey, isFillKey key = true → row.kind = EventKind.fill.asStr

section Runs

variable {lib : Libraries} {dec : Decimals} {handle : Handle} {store : Store}

/-- A row stays sourced after a redaction. -/
theorem Sourced.kept {requests : List (Request dec)} {row held : Row}
    (sourced : Sourced dec requests row) (kept : Kept row held) : Sourced dec requests held where
  fill kind := by
    obtain ⟨request, member, fill, call, _, keyed⟩ := sourced.fill (kept.kind ▸ kind)
    exact ⟨request, member, fill, call, kind, kept.idemKey.trans keyed⟩
  keyed key member form := kept.kind.trans (sourced.keyed key (kept.idemKey ▸ member) form)

/-- A row stays sourced after more requests. -/
theorem Sourced.later {requests : List (Request dec)} {row : Row}
    (sourced : Sourced dec requests row) (request : Request dec) :
    Sourced dec (requests ++ [request]) row where
  fill kind := by
    obtain ⟨source, member, facts⟩ := sourced.fill kind
    exact ⟨source, List.mem_append_left _ member, facts⟩
  keyed := sourced.keyed

/-- What a request writes is a fill under its key, or neither a fill nor a fill's key. -/
theorem Writes.sourced {call : Call dec} {event : NewEvent} {idemKey : Option String}
    (written : Writes dec call event idemKey) :
    (∃ fill, call = .recordFill fill ∧ event.kind = .fill ∧
      idemKey = some (fillIdemKey fill.account fill.tid)) ∨
    (event.kind ≠ .fill ∧ ∀ key ∈ idemKey, isFillKey key = false) := by
  have generic {tsMs : Int64} {event : NewEvent} {idemKey : Option String}
      (generic : Generic tsMs event idemKey) :
      event.kind ≠ .fill ∧ ∀ key ∈ idemKey, isFillKey key = false := by
    refine ⟨fun kind => ?_, by rw [generic.keyless]; exact nofun⟩
    rcases generic.kind with door | intent
    · rw [kind] at door
      cases door
    · rw [kind] at intent
      cases intent
  have other {stem rest : String} (different : (codes "fill:").isPrefixOf (codes stem) = false)
      (long : (codes "fill:").length ≤ (codes stem).length) : isFillKey (stem ++ rest) = false := by
    rw [← Bool.not_eq_true, List.isPrefixOf_iff_prefix] at different
    rw [isFillKey, ← Bool.not_eq_true, List.isPrefixOf_iff_prefix, codes_append]
    exact fun begins => different
      (List.prefix_of_prefix_length_le begins (List.prefix_append _ _) long)
  cases written with
  | append written | recordIntent written | recordOutcome written | openGap written
  | closeGap written => exact .inr (generic written)
  | fill => exact .inl ⟨_, rfl, rfl, rfl⟩
  | halt =>
      refine .inr ⟨nofun, ?_⟩
      rintro _ ⟨⟩
      exact other (by decide) (by decide)
  | redact => exact .inr ⟨nofun, nofun⟩
  | started =>
      refine .inr ⟨nofun, ?_⟩
      rintro _ ⟨⟩
      simp only [startKey, String.append_assoc]
      exact other (by decide) (by decide)
  | resolved =>
      refine .inr ⟨nofun, ?_⟩
      rintro _ ⟨⟩
      exact other (by decide) (by decide)
  | journal kind keyed =>
      refine .inr ⟨fun fill => ?_, by rintro _ ⟨⟩; exact keyed⟩
      rw [fill] at kind
      cases kind

/-- A change written by a request leaves every row sourced. -/
theorem Change.sourced {db changed : Db} {requests : List (Request dec)} {request : Request dec}
    {event : NewEvent} {idemKey : Option String} {appended : Appended} {genesis : String}
    (change : Change lib genesis db event idemKey appended changed)
    (written : Writes dec request.call event idemKey)
    (sourced : ∀ row ∈ db.events, Sourced dec requests row) :
    ∀ row ∈ changed.events, Sourced dec (requests ++ [request]) row := by
  intro row member
  rcases change.row_cases member with ⟨held, inside, kept⟩ | ⟨kind, keyed⟩
  · exact ((sourced held inside).kept kept).later request
  · rcases written.sourced with ⟨fill, call, fillKind, key⟩ | ⟨notFill, notKey⟩
    · rw [fillKind] at kind
      refine ⟨fun _ => ?_, fun _ _ _ => kind⟩
      exact ⟨request, List.mem_append_right _ (List.mem_singleton_self _), fill, call, kind,
        keyed.trans key⟩
    · refine ⟨fun fillKind => ?_, fun key member form => ?_⟩
      · exact absurd (EventKind.asStr_injective (kind.symm.trans fillKind)) notFill
      · rw [keyed] at member
        rw [notKey key member] at form
        cases form

/-- Every row of a reachable store is sourced. -/
theorem run_sourced {requests : List (Request dec)}
    (run : Run (Step lib dec handle) (opened lib handle) requests store) :
    ∀ row ∈ store.db.events, Sourced dec requests row := by
  refine run.history (fun requests store => ∀ row ∈ store.db.events, Sourced dec requests row)
    (fun _ member => absurd member List.not_mem_nil) ?_
  intro seen before request after prior sourced step
  obtain ⟨behind, tracks⟩ := run_tracks prior
  obtain ⟨reply, moved⟩ := tracks.moved step
  cases moved with
  | unchanged => exact fun row member => (sourced row member).later request
  | published written change => exact change.sourced written sourced
  | unpublished written change => exact change.sourced written sourced

/-- Rows of a tracked store with one key are one row. -/
theorem Tracks.eq_of_idemKey {behind : Nat} (tracks : Tracks lib handle behind store) {key : String}
    {first second : Row} (member : first ∈ store.db.events) (member' : second ∈ store.db.events)
    (keyed : first.idemKey = some key) (keyed' : second.idemKey = some key) : first = second := by
  have distinct := tracks.keys
  revert member member'
  generalize store.db.events = rows at distinct
  induction rows with
  | nil => exact nofun
  | cons row rest ih =>
      have later {held : Row} (inside : held ∈ rest) (same : held.idemKey = some key)
          (here : row.idemKey = some key) : False := by
        rw [List.filterMap_cons_some here, List.nodup_cons] at distinct
        exact distinct.1 (List.mem_filterMap.mpr ⟨held, inside, same⟩)
      have rest_distinct : (rest.filterMap Row.idemKey).Nodup :=
        distinct.sublist ((List.sublist_cons_self row rest).filterMap _)
      intro member member'
      rcases List.mem_cons.mp member with rfl | inside
      · rcases List.mem_cons.mp member' with rfl | inside'
        · rfl
        · exact (later inside' keyed' keyed).elim
      · rcases List.mem_cons.mp member' with rfl | inside'
        · exact (later inside keyed keyed').elim
        · exact ih rest_distinct inside inside'

/-- Recording a fill that is there leaves the file alone, or adds the halt it causes. -/
theorem recordFill_repeated {behind : Nat} (tracks : Tracks lib handle behind store)
    (publish : Bool) {fill : NewFill} {row : Row} (member : row ∈ store.db.events)
    (recorded : IsFillOf fill.account fill.tid row) :
    (recordFill lib dec handle publish fill store).2 = store ∨
      ∃ halt, (recordFill lib dec handle publish fill store).2.db.events =
        store.db.events ++ [halt] ∧ halt.kind = EventKind.pilotHalted.asStr := by
  have moves : Moves lib handle publish id (fun event _ => event.kind = .pilotHalted) store
      (recordFill lib dec handle publish fill store).1
      (recordFill lib dec handle publish fill store).2 := by
    refine moves_transact id fun done run => ?_
    cases insertFill_ok tracks.consistent run with
    | duplicate => exact .inl ⟨rfl, rfl⟩
    | recorded _ fresh => exact absurd recorded.2 (fresh row member)
    | latched _ _ grows fresh => exact .inr ⟨_, _, _, rfl, rfl, grows.change nofun fresh⟩
  have halted {event : NewEvent} {idemKey : Option String} {appended : Appended} {changed : Db}
      (kind : event.kind = .pilotHalted)
      (change : Change lib (handle.genesis lib) store.db event idemKey appended changed) :
      ∃ halt, changed.events = store.db.events ++ [halt] ∧
        halt.kind = EventKind.pilotHalted.asStr := by
    obtain ⟨base, canonical, prepared, _, same⟩ := change.events
    cases prepared with
    | plain => exact ⟨_, same, congrArg EventKind.asStr kind⟩
    | tombstone _ _ _ _ explains =>
        rw [explains] at kind
        cases kind
  generalize (recordFill lib dec handle publish fill store).1 = result at moves
  generalize (recordFill lib dec handle publish fill store).2 = after at moves
  cases moves with
  | refused | idle => exact .inl rfl
  | published _ kind change => exact .inr (halted kind change)
  | unpublished kind change => exact .inr (halted kind change)

end Runs

/-- **A fill is recorded at most once.** In every state a ledger reaches, an account and a
trade id have at most one fill event, and every fill event is that of a recorded fill;
recording it again leaves the file as it is unless the call latches a pilot halt; the event
first recorded is the one kept; and the key range of an account selects its fill events and
those of the accounts whose names extend its name by a colon. -/
theorem fill_recorded_once (lib : Libraries) (dec : Decimals) (handle : Handle)
    {requests : List (Request dec)} {store : Store}
    (run : Run (Step lib dec handle) (opened lib handle) requests store) :
    (∀ account tid, ∀ first ∈ store.db.events, ∀ second ∈ store.db.events,
      IsFillOf account tid first → IsFillOf account tid second → first = second) ∧
    (∀ row ∈ store.db.events, row.kind = EventKind.fill.asStr → ∃ request ∈ requests, ∃ fill,
      request.call = .recordFill fill ∧ IsFillOf fill.account fill.tid row) ∧
    (∀ row account tid account' tid', IsFillOf account tid row → IsFillOf account' tid' row →
      account = account' ∧ tid = tid') ∧
    (∀ fill publish, ∀ row ∈ store.db.events, IsFillOf fill.account fill.tid row →
      (recordFill lib dec handle publish fill store).2 = store ∨
        ∃ halt, (recordFill lib dec handle publish fill store).2.db.events =
          store.db.events ++ [halt] ∧ halt.kind = EventKind.pilotHalted.asStr) ∧
    (∀ requests' later, Run (Step lib dec handle) store requests' later → ∀ account tid,
      ∀ row ∈ store.db.events, IsFillOf account tid row → ∃ held ∈ later.db.events,
        Kept row held ∧ ∀ other ∈ later.db.events, IsFillOf account tid other → other = held) ∧
    (∀ account, ∀ row ∈ store.db.events, ∀ key ∈ row.idemKey,
      InRange (fillKeyRange account) key ↔
        ∃ owner tid, IsFillOf owner tid row ∧
          (owner = account ∨ ExtendsByColon account owner)) := by
  obtain ⟨behind, tracks⟩ := run_tracks run
  have sourced := run_sourced run
  refine ⟨fun account tid first member second member' fill fill' =>
    tracks.eq_of_idemKey member member' fill.2 fill'.2, fun row member => (sourced row member).fill,
    ?_, fun fill publish row member recorded => recordFill_repeated tracks publish member recorded,
    ?_, ?_⟩
  · intro row account tid account' tid' fill fill'
    exact fillIdemKey_injective (Option.some.inj (fill.2.symm.trans fill'.2))
  · intro requests' later onward account tid row member recorded
    obtain ⟨⟨behind', tracks'⟩, evolves⟩ := tracks.run onward
    obtain ⟨held, inside, kept⟩ := evolves.row member
    refine ⟨held, inside, kept, fun other member' fill => ?_⟩
    exact tracks'.eq_of_idemKey member' inside fill.2 (kept.idemKey.trans recorded.2)
  · intro account row member key keyed
    constructor
    · intro inside
      have kind := (sourced row member).keyed key keyed (isFillKey_of_inRange inside)
      obtain ⟨_, _, fill, _, recorded⟩ := (sourced row member).fill kind
      have same : key = fillIdemKey fill.account fill.tid :=
        Option.some.inj (keyed.symm.trans recorded.2)
      rw [same, inRange_fillIdemKey_iff] at inside
      exact ⟨_, _, recorded, inside⟩
    · rintro ⟨owner, tid, recorded, owned⟩
      have same : key = fillIdemKey owner tid :=
        Option.some.inj (keyed.symm.trans recorded.2)
      rw [same]
      exact inRange_fillIdemKey_iff.mpr owned

namespace FillRange

/-- The compact reader, the checksum and exact decimals in place of the real libraries. -/
def lib : Libraries := .reference checksum

def handle : Handle := ⟨.testnet, false⟩

def fill : NewFill where
  account := "a:1"
  tid := 5
  tsMs := 7
  agentId := none
  payload := .ofFields [("account", .string "a:1"), ("tid", .ofInt 5)]

def request : Request Decimals.reference := ⟨.recordFill fill, true⟩

/-- The fill is recorded, then met again. -/
def recorded : Store :=
  (perform lib Decimals.reference handle request
    (perform lib Decimals.reference handle request (Ledger.opened lib handle)).2).2

/-- The sample records one fill twice. -/
theorem recorded_run :
    Run (Step lib Decimals.reference handle) (Ledger.opened lib handle)
      [request, request] recorded :=
  .snoc (.single rfl) rfl

/-- The sample's ledger holds one row, and no fill twice. -/
theorem recorded_once : recorded.db.events.length = 1 ∧
    ∀ account tid, ∀ first ∈ recorded.db.events, ∀ second ∈ recorded.db.events,
      IsFillOf account tid first → IsFillOf account tid second → first = second :=
  ⟨by decide +kernel, (fill_recorded_once lib Decimals.reference handle recorded_run).1⟩

/-- The range of the account `a` selects a fill of the account `a:1`. -/
theorem range_selects_another_account :
    ¬ ∀ (requests : List (Request Decimals.reference)) (store : Store),
      Run (Step lib Decimals.reference handle) (Ledger.opened lib handle) requests store →
      ∀ account, ∀ row ∈ store.db.events, ∀ key ∈ row.idemKey,
        InRange (fillKeyRange account) key → ∃ tid, IsFillOf account tid row := by
  intro precise
  have selected : ∃ row ∈ recorded.db.events, row.idemKey = some (fillIdemKey "a:1" 5) := by
    decide +kernel
  obtain ⟨row, member, keyed⟩ := selected
  have inside : InRange (fillKeyRange "a") (fillIdemKey "a:1" 5) := by decide +kernel
  obtain ⟨tid, _, named⟩ := precise _ _ recorded_run "a" row member _ keyed inside
  have same := fillIdemKey_injective (Option.some.inj (keyed.symm.trans named))
  exact absurd same.1 (by decide)

end FillRange

end Oppen.Ledger
