import Oppen.Json.Alike
import Oppen.Ledger.GapCalls

/-! # Decision-time snapshots

The body of a snapshot lies in a table that is pruned, the reference to it in the chain. An id is
bound by the table alone: once its body is pruned nothing stops another body from taking it. Where
none does, the chain's references stay good for the body that was captured.
-/

namespace Oppen.Ledger

open Foundation Oppen.Json

/-- One row of `book_snapshots`. -/
structure SnapshotRow where
  snapshotId : String
  snapshotHash : String
  tsMs : Int64
  coin : String
  body : String
  deriving DecidableEq, Repr

section Operations

variable (lib : Libraries)

/-- `put_snapshot`: an id that is there is left, and its hash compared. -/
def putSnapshot (snapshotId : String) (tsMs : Int64) (coin : String) (body : Value)
    (snapshots : List SnapshotRow) : Result String × List SnapshotRow :=
  match canonicalJson body with
  | .error error => (.error error, snapshots)
  | .ok canonical =>
      let snapshotHash := payloadHash lib (utf8 canonical)
      let held := snapshots.any fun row => row.snapshotId = snapshotId
      let snapshots :=
        if held then snapshots
        else snapshots ++ [⟨snapshotId, snapshotHash, tsMs, coin, canonical⟩]
      match snapshots.find? fun row => row.snapshotId = snapshotId with
      | none => (.error .sqlite, snapshots)
      | some stored =>
          if stored.snapshotHash ≠ snapshotHash then
            (.error (.snapshotBodyConflict snapshotId stored.snapshotHash snapshotHash), snapshots)
          else (.ok snapshotHash, snapshots)

/-- `snapshot_body`: the body, rehashed against the hash of the chained row. -/
def snapshotBody (snapshotId expectedHash : String) (snapshots : List SnapshotRow) :
    Result (Option Value) := do
  match snapshots.find? fun row => row.snapshotId = snapshotId with
  | none => return none
  | some stored =>
      let found := payloadHash lib (utf8 stored.body)
      refuseIf (found ≠ expectedHash) (.snapshotBodyConflict snapshotId expectedHash found)
      match lib.fromSlice (utf8 stored.body) with
      | none => .error .json
      | some body => return some body

/-- `prune_snapshots_before`: how many bodies went, and those that stay. -/
def pruneSnapshotsBefore (tsMs : Int64) (snapshots : List SnapshotRow) : Nat × List SnapshotRow :=
  (snapshots.countP fun row => row.tsMs < tsMs, snapshots.filter fun row => ¬ row.tsMs < tsMs)

end Operations

/-! ## The file and its snapshots -/

/-- A capture that went through, with the hash it returned. -/
structure Capture where
  snapshotId : String
  body : Value
  hash : String
  deriving DecidableEq

/-- The file, its snapshot table and, as no table has it, what was captured so far. -/
structure Archive where
  store : Store
  snapshots : List SnapshotRow
  captures : List Capture

/-- What happens to the file: a ledger call or mark, or a call on the snapshots. -/
inductive ArchiveAct (dec : Decimals) where
  | ledger (act : LedgerAct dec)
  | put (snapshotId : String) (tsMs : Int64) (coin : String) (body : Value)
  | read (snapshotId expectedHash : String)
  | prune (tsMs : Int64)

/-- The archive after a capture was tried. -/
def Archive.put (lib : Libraries) (snapshotId : String) (tsMs : Int64) (coin : String)
    (body : Value) (archive : Archive) : Archive :=
  match putSnapshot lib snapshotId tsMs coin body archive.snapshots with
  | (.error _, snapshots) => { archive with snapshots }
  | (.ok hash, snapshots) =>
      { archive with snapshots, captures := archive.captures ++ [⟨snapshotId, body, hash⟩] }

/-- One step. -/
def ArchiveStep (lib : Libraries) (dec : Decimals) (handle : Handle) (before : Archive)
    (act : ArchiveAct dec) (after : Archive) : Prop :=
  match act with
  | .ledger act =>
      LedgerStep lib dec handle before.store act after.store ∧
        after = { before with store := after.store }
  | .put snapshotId tsMs coin body => after = before.put lib snapshotId tsMs coin body
  | .read .. => after = before
  | .prune tsMs =>
      after = { before with snapshots := (pruneSnapshotsBefore tsMs before.snapshots).2 }

/-- A new file, opened. -/
def Archive.opened (lib : Libraries) (handle : Handle) : Archive :=
  ⟨Ledger.opened lib handle, [], []⟩

/-- What was captured first under an id. -/
def firstCapture (snapshotId : String) (captures : List Capture) : Option Capture :=
  captures.find? fun capture => capture.snapshotId = snapshotId

/-- What an archive promises of its ids: captures of one id have one hash; a capture that is
refused changes nothing, and one that goes through leaves a body; a body goes only when it is
pruned; and a reference in the chain to a capture is answered with the first body captured under
its id, or with none where no body is left. -/
structure SnapshotsBound (lib : Libraries) (dec : Decimals) (handle : Handle) (archive : Archive) :
    Prop where
  hashes : ∀ capture ∈ archive.captures, ∀ other ∈ archive.captures,
    capture.snapshotId = other.snapshotId → capture.hash = other.hash
  refused : ∀ snapshotId tsMs coin body error snapshots,
    putSnapshot lib snapshotId tsMs coin body archive.snapshots = (.error error, snapshots) →
      snapshots = archive.snapshots
  stored : ∀ snapshotId tsMs coin body hash snapshots,
    putSnapshot lib snapshotId tsMs coin body archive.snapshots = (.ok hash, snapshots) →
      ∃ row ∈ snapshots, row.snapshotId = snapshotId
  kept : ∀ (act : ArchiveAct dec) after, ArchiveStep lib dec handle archive act after →
    ∀ row ∈ archive.snapshots, row ∈ after.snapshots ∨
      ∃ tsMs, act = .prune tsMs ∧ row.tsMs < tsMs
  answers : ∀ row ∈ archive.store.db.events, ∀ capture ∈ archive.captures,
    row.snapshotId = some capture.snapshotId → row.snapshotHash = some capture.hash →
      ((∀ held ∈ archive.snapshots, held.snapshotId ≠ capture.snapshotId) ∧
        snapshotBody lib capture.snapshotId capture.hash archive.snapshots = .ok none) ∨
      ∃ first body, firstCapture capture.snapshotId archive.captures = some first ∧
        body.Alike first.body ∧
        snapshotBody lib capture.snapshotId capture.hash archive.snapshots = .ok (some body)

/-- A capture of an id no body is left of: what it offers either has no canonical text, or nests
less than the reader's limit and is what was captured under the id before. -/
def ArchiveAct.Faithful {dec : Decimals} (archive : Archive) : ArchiveAct dec → Prop
  | .put snapshotId _ _ body =>
      (∀ row ∈ archive.snapshots, row.snapshotId ≠ snapshotId) →
        ∀ canonical, canonicalJson body = .ok canonical →
          (sortedValue body).nesting < recursionLimit ∧
            ∀ capture ∈ archive.captures, capture.snapshotId = snapshotId →
              canonicalJson capture.body = .ok canonical
  | _ => True

section Calls

variable {lib : Libraries} {dec : Decimals} {handle : Handle} {archive after : Archive}
  {snapshots : List SnapshotRow}

/-- What a capture does: it is refused, finds its body there, or adds it. -/
theorem putSnapshot_cases (lib : Libraries) (snapshotId : String) (tsMs : Int64) (coin : String)
    (body : Value) (snapshots : List SnapshotRow) :
    (∃ error, putSnapshot lib snapshotId tsMs coin body snapshots = (.error error, snapshots)) ∨
    ∃ canonical, canonicalJson body = .ok canonical ∧
      ((∃ stored ∈ snapshots, stored.snapshotId = snapshotId ∧
          stored.snapshotHash = payloadHash lib (utf8 canonical) ∧
          putSnapshot lib snapshotId tsMs coin body snapshots =
            (.ok (payloadHash lib (utf8 canonical)), snapshots)) ∨
        ((∀ stored ∈ snapshots, stored.snapshotId ≠ snapshotId) ∧
          putSnapshot lib snapshotId tsMs coin body snapshots =
            (.ok (payloadHash lib (utf8 canonical)), snapshots ++
              [⟨snapshotId, payloadHash lib (utf8 canonical), tsMs, coin, canonical⟩]))) := by
  unfold putSnapshot
  cases written : canonicalJson body with
  | error error => exact .inl ⟨error, rfl⟩
  | ok canonical =>
      dsimp only
      cases found : snapshots.find? fun row => row.snapshotId = snapshotId with
      | some stored =>
          have member := List.mem_of_find?_eq_some found
          have named := List.find?_some found
          have held : (snapshots.any fun row => row.snapshotId = snapshotId) = true :=
            List.any_eq_true.mpr ⟨stored, member, named⟩
          rw [held, if_pos rfl, found]
          dsimp only
          by_cases same : stored.snapshotHash = payloadHash lib (utf8 canonical)
          · rw [if_neg (not_not.mpr same)]
            exact .inr ⟨canonical, rfl, .inl ⟨stored, member, of_decide_eq_true named, same, rfl⟩⟩
          · rw [if_pos same]
            exact .inl ⟨_, rfl⟩
      | none =>
          have absent := List.find?_eq_none.mp found
          have held : (snapshots.any fun row => row.snapshotId = snapshotId) = false :=
            List.any_eq_false.mpr absent
          rw [held, if_neg Bool.false_ne_true, List.find?_append, found]
          refine .inr ⟨canonical, rfl, .inr ⟨fun stored member same => ?_, ?_⟩⟩
          · exact absent stored member (decide_eq_true same)
          · simp

/-- A capture that is refused changes nothing. -/
theorem putSnapshot_refused {snapshotId coin : String} {tsMs : Int64} {body : Value}
    {error : LedgerError} {left : List SnapshotRow}
    (run : putSnapshot lib snapshotId tsMs coin body snapshots = (.error error, left)) :
    left = snapshots := by
  rcases putSnapshot_cases lib snapshotId tsMs coin body snapshots with
    ⟨_, made⟩ | ⟨_, _, ⟨_, _, _, _, made⟩ | ⟨_, made⟩⟩ <;> rw [made] at run <;> cases run
  rfl

/-- A capture that goes through leaves a body under its id, and every body there was. -/
theorem putSnapshot_stored {snapshotId coin : String} {tsMs : Int64} {body : Value} {hash : String}
    {left : List SnapshotRow}
    (run : putSnapshot lib snapshotId tsMs coin body snapshots = (.ok hash, left)) :
    (∃ row ∈ left, row.snapshotId = snapshotId) ∧ snapshots ⊆ left := by
  rcases putSnapshot_cases lib snapshotId tsMs coin body snapshots with
    ⟨_, made⟩ | ⟨_, _, ⟨stored, member, named, _, made⟩ | ⟨_, made⟩⟩
  · rw [made] at run
    cases run
  · rw [made] at run
    cases run
    exact ⟨⟨stored, member, named⟩, List.Subset.refl _⟩
  · rw [made] at run
    cases run
    exact ⟨⟨_, List.mem_append_right _ List.mem_cons_self, rfl⟩, List.subset_append_left _ _⟩

/-- A call of the ledger is a step of the archive, which touches no snapshot. -/
theorem ArchiveStep.ledger {act : LedgerAct dec} {store : Store}
    (step : LedgerStep lib dec handle archive.store act store) :
    ArchiveStep lib dec handle archive (.ledger act) { archive with store } :=
  ⟨step, rfl⟩

/-- A body goes only when it is pruned. -/
theorem ArchiveStep.keeps {act : ArchiveAct dec}
    (step : ArchiveStep lib dec handle archive act after) {row : SnapshotRow}
    (member : row ∈ archive.snapshots) :
    row ∈ after.snapshots ∨ ∃ tsMs, act = .prune tsMs ∧ row.tsMs < tsMs := by
  cases act with
  | ledger act =>
      obtain ⟨_, same⟩ := step
      rw [same]
      exact .inl member
  | put snapshotId tsMs coin body =>
      have same : after = archive.put lib snapshotId tsMs coin body := step
      subst same
      refine .inl ?_
      unfold Archive.put
      split
      · rename_i run
        rw [putSnapshot_refused run]
        exact member
      · rename_i run
        exact (putSnapshot_stored run).2 member
  | read snapshotId expectedHash =>
      have same : after = archive := step
      rw [same]
      exact .inl member
  | prune tsMs =>
      have same : after = { archive with
        snapshots := (pruneSnapshotsBefore tsMs archive.snapshots).2 } := step
      subst same
      by_cases early : row.tsMs < tsMs
      · exact .inr ⟨tsMs, rfl, early⟩
      · exact .inl (List.mem_filter.mpr ⟨member, decide_eq_true early⟩)

/-! ## What faithful captures keep -/

/-- The hash of a capture is that of its body. -/
structure Capture.Hashed (lib : Libraries) (capture : Capture) (canonical : String) : Prop where
  written : canonicalJson capture.body = .ok canonical
  hash : capture.hash = payloadHash lib (utf8 canonical)

/-- A row holds the body that was captured first under its id, and it can be read. -/
structure SnapshotRow.Holds (lib : Libraries) (captures : List Capture) (row : SnapshotRow) :
    Prop where
  intro ::
  first : ∃ first, firstCapture row.snapshotId captures = some first ∧ first.Hashed lib row.body ∧
    (sortedValue first.body).nesting < recursionLimit
  hash : row.snapshotHash = payloadHash lib (utf8 row.body)

/-- **The invariant**: captures are hashed and agree under one id, and rows hold first captures. -/
structure Archive.Bound (lib : Libraries) (archive : Archive) : Prop where
  hashed : ∀ capture ∈ archive.captures, ∃ canonical, capture.Hashed lib canonical
  agree : ∀ capture ∈ archive.captures, ∀ other ∈ archive.captures,
    capture.snapshotId = other.snapshotId → capture.hash = other.hash
  holds : ∀ row ∈ archive.snapshots, row.Holds lib archive.captures

/-- The first capture of an id stays the first after later ones. -/
theorem firstCapture_concat {captures : List Capture} {snapshotId : String} {first last : Capture}
    (found : firstCapture snapshotId captures = some first) :
    firstCapture snapshotId (captures ++ [last]) = some first := by
  unfold firstCapture at found ⊢
  rw [List.find?_append, found]
  rfl

/-- A capture of a new id is its first. -/
theorem firstCapture_new {captures : List Capture} {snapshotId : String}
    (found : firstCapture snapshotId captures = none) (body : Value) (hash : String) :
    firstCapture snapshotId (captures ++ [⟨snapshotId, body, hash⟩]) =
      some ⟨snapshotId, body, hash⟩ := by
  unfold firstCapture at found ⊢
  simp [List.find?_append, found]

/-- The first capture that is found is one of them, of that id. -/
theorem firstCapture_mem {captures : List Capture} {snapshotId : String} {first : Capture}
    (found : firstCapture snapshotId captures = some first) :
    first ∈ captures ∧ first.snapshotId = snapshotId := by
  have named := List.find?_some found
  simp only [decide_eq_true_eq] at named
  exact ⟨List.mem_of_find?_eq_some found, named⟩

/-- A row holds what it held after later captures. -/
theorem SnapshotRow.Holds.concat {captures : List Capture} {row : SnapshotRow} {last : Capture}
    (holds : row.Holds lib captures) : row.Holds lib (captures ++ [last]) := by
  obtain ⟨⟨first, found, hashed, shallow⟩, hash⟩ := holds
  exact ⟨⟨first, firstCapture_concat found, hashed, shallow⟩, hash⟩

/-- One more capture that is hashed and agrees with those of its id. -/
theorem Archive.Bound.capture {captures : List Capture} (bound : archive.Bound lib)
    (rows : ∀ row ∈ snapshots, row.Holds lib captures) {last : Capture} {canonical : String}
    (grown : captures = archive.captures ++ [last]) (hashed : last.Hashed lib canonical)
    (agree : ∀ capture ∈ archive.captures, capture.snapshotId = last.snapshotId →
      capture.hash = last.hash) : (Archive.mk archive.store snapshots captures).Bound lib where
  hashed capture member := by
    change capture ∈ captures at member
    rw [grown] at member
    rcases List.mem_append.mp member with older | new
    · exact bound.hashed capture older
    · rw [List.mem_singleton.mp new]
      exact ⟨canonical, hashed⟩
  agree capture member other member' same := by
    change capture ∈ captures at member
    change other ∈ captures at member'
    rw [grown] at member member'
    rcases List.mem_append.mp member with older | new
    · rcases List.mem_append.mp member' with older' | new'
      · exact bound.agree capture older other older' same
      · obtain rfl := List.mem_singleton.mp new'
        exact agree capture older same
    · obtain rfl := List.mem_singleton.mp new
      rcases List.mem_append.mp member' with older' | new'
      · exact (agree other older' same.symm).symm
      · rw [List.mem_singleton.mp new']
  holds := rows

/-- **A faithful capture keeps the invariant.** -/
theorem Archive.Bound.put (bound : archive.Bound lib) {snapshotId coin : String} {tsMs : Int64}
    {body : Value}
    (faithful : ArchiveAct.Faithful archive (.put snapshotId tsMs coin body : ArchiveAct dec)) :
    (archive.put lib snapshotId tsMs coin body).Bound lib := by
  unfold Archive.put
  rcases putSnapshot_cases lib snapshotId tsMs coin body archive.snapshots with
    ⟨_, made⟩ | ⟨canonical, written, ⟨stored, member, named, hash, made⟩ | ⟨absent, made⟩⟩
  · rw [made]
    exact bound
  · rw [made]
    refine bound.capture (fun row inside => (bound.holds row inside).concat) rfl ⟨written, rfl⟩ ?_
    intro capture inside same
    obtain ⟨⟨first, found, hashed, -⟩, rowHash⟩ := bound.holds stored member
    obtain ⟨here, name⟩ := firstCapture_mem found
    calc capture.hash = first.hash :=
          bound.agree capture inside first here (same.trans (named.symm.trans name.symm))
      _ = stored.snapshotHash := hashed.hash.trans rowHash.symm
      _ = payloadHash lib (utf8 canonical) := hash
  · rw [made]
    obtain ⟨shallow, before⟩ := faithful absent canonical written
    refine bound.capture (fun row inside => ?_) rfl ⟨written, rfl⟩ ?_
    · rcases List.mem_append.mp inside with older | new
      · exact (bound.holds row older).concat
      · obtain rfl := List.mem_singleton.mp new
        refine ⟨?_, rfl⟩
        cases found : firstCapture snapshotId archive.captures with
        | some first =>
            obtain ⟨here, name⟩ := firstCapture_mem found
            have written' := before first here name
            obtain ⟨canonical', hashed⟩ := bound.hashed first here
            have same : canonical' = canonical :=
              Except.ok.inj (hashed.written.symm.trans written')
            refine ⟨first, firstCapture_concat found, same ▸ hashed, ?_⟩
            rw [canonicalJson_injective written' written]
            exact shallow
        | none =>
            exact ⟨_, firstCapture_new found body _, ⟨written, rfl⟩, shallow⟩
    · intro capture inside same
      obtain ⟨canonical', hashed⟩ := bound.hashed capture inside
      have same' : canonical' = canonical :=
        Except.ok.inj (hashed.written.symm.trans (before capture inside same))
      rw [hashed.hash, same']

/-- Every faithful step keeps the ids bound to the bodies they were captured with. -/
theorem Archive.Bound.step (bound : archive.Bound lib) {act : ArchiveAct dec}
    (faithful : act.Faithful archive) (step : ArchiveStep lib dec handle archive act after) :
    after.Bound lib := by
  cases act with
  | ledger act =>
      obtain ⟨_, same⟩ := step
      rw [same]
      exact ⟨bound.hashed, bound.agree, bound.holds⟩
  | put snapshotId tsMs coin body =>
      have same : after = archive.put lib snapshotId tsMs coin body := step
      rw [same]
      exact bound.put faithful
  | read snapshotId expectedHash =>
      have same : after = archive := step
      rw [same]
      exact bound
  | prune tsMs =>
      have same : after = { archive with
        snapshots := (pruneSnapshotsBefore tsMs archive.snapshots).2 } := step
      rw [same]
      exact ⟨bound.hashed, bound.agree, fun row inside =>
        bound.holds row (List.mem_filter.mp inside).1⟩

/-- What a reference to a capture is answered with. -/
theorem Archive.Bound.answer (bound : archive.Bound lib) {capture : Capture}
    (member : capture ∈ archive.captures) :
    ((∀ held ∈ archive.snapshots, held.snapshotId ≠ capture.snapshotId) ∧
      snapshotBody lib capture.snapshotId capture.hash archive.snapshots = .ok none) ∨
    ∃ first body, firstCapture capture.snapshotId archive.captures = some first ∧
      body.Alike first.body ∧
      snapshotBody lib capture.snapshotId capture.hash archive.snapshots = .ok (some body) := by
  unfold snapshotBody
  cases found : archive.snapshots.find? fun row => row.snapshotId = capture.snapshotId with
  | none =>
      refine .inl ⟨fun held inside same => ?_, rfl⟩
      exact List.find?_eq_none.mp found held inside (decide_eq_true same)
  | some stored =>
      obtain ⟨⟨first, here, hashed, shallow⟩, rowHash⟩ :=
        bound.holds stored (List.mem_of_find?_eq_some found)
      have named := List.find?_some found
      simp only [decide_eq_true_eq] at named
      rw [named] at here
      obtain ⟨inside, name⟩ := firstCapture_mem here
      have same : payloadHash lib (utf8 stored.body) = capture.hash := by
        rw [← hashed.hash]
        exact bound.agree first inside capture member name
      have read := lib.fromSlice_canonical _ _ hashed.written shallow
      refine .inr ⟨first, sortedValue first.body, here, alike_sortedValue first.body, ?_⟩
      simp only [same, refuseIf, ne_eq, not_true_eq_false, if_false, read]
      rfl

/-- An archive whose ids are bound keeps what the snapshots' contract promises. -/
theorem Archive.Bound.promises (bound : archive.Bound lib) :
    SnapshotsBound lib dec handle archive where
  hashes := bound.agree
  refused _ _ _ _ _ _ run := putSnapshot_refused run
  stored _ _ _ _ _ _ run := (putSnapshot_stored run).1
  kept _ _ step _ member := step.keeps member
  answers _ _ _ member _ _ := bound.answer member

/-- A step whose capture, if it is one, is faithful: under an id whose body is gone it offers what
was captured before, and nothing the reader could not take back. -/
def FaithfulStep (lib : Libraries) (dec : Decimals) (handle : Handle) (before : Archive)
    (act : ArchiveAct dec) (after : Archive) : Prop :=
  act.Faithful before ∧ ArchiveStep lib dec handle before act after

/-- **An id is bound to its first body.** In every run whose captures of an id no body is left of
are faithful, captures of one id have one hash, a refused one changes nothing, and a reference in
the chain to a capture is answered with the body, or with none once it was pruned. The id alone does
not bind: a body that was pruned is remembered by the rows that refer to it, and by nothing that a
later capture is checked against. -/
theorem snapshots_bound {acts : List (ArchiveAct dec)}
    (run : Run (FaithfulStep lib dec handle) (.opened lib handle) acts archive) :
    SnapshotsBound lib dec handle archive := by
  suffices bound : archive.Bound lib from bound.promises
  refine run.invariant (fun archive => archive.Bound lib) ?_ ⟨nofun, nofun, nofun⟩
  rintro before act after bound ⟨faithful, step⟩
  exact bound.step faithful step

end Calls

namespace TwoBooks

/-- The compact reader and a checksum in place of the real libraries. -/
def lib : Libraries := .reference checksum

def handle : Handle := ⟨.testnet, false⟩

def book (px : String) : Value := .ofFields [("px", .string px)]

def hash : String := payloadHash lib (utf8 "\x7b\"px\":\"100\"\x7d")

/-- An intent that refers to the first book. -/
def intend : Request Decimals.reference :=
  ⟨.recordIntent ⟨"maker", 1, book "100", some ⟨"book", hash⟩⟩, true⟩

/-- A book is captured, -/
def captured : Archive := (Archive.opened lib handle).put lib "book" 1 "BTC" (book "100")

/-- an intent refers to it, -/
def referred : Archive :=
  { captured with store := (perform lib Decimals.reference handle intend captured.store).2 }

/-- it is pruned, -/
def pruned : Archive :=
  { referred with snapshots := (pruneSnapshotsBefore 2 referred.snapshots).2 }

/-- and a book is captured under its id. -/
def recaptured (px : String) : Archive := pruned.put lib "book" 3 "BTC" (book px)

/-- The intent of the sample refers to its snapshot. -/
theorem refers : ArchiveStep lib Decimals.reference handle captured (.ledger (.call intend))
    referred :=
  .ledger rfl

/-- The sample has captured one book before it prunes. -/
theorem pruned_captures : pruned.captures = [⟨"book", book "100", hash⟩] := by decide +kernel

/-- The same book is bound to the id it had. -/
theorem same_book_bound :
    SnapshotsBound lib Decimals.reference handle (recaptured "100") ∧
      (snapshotBody lib "book" hash (recaptured "100").snapshots).toOption =
        some (some (book "100")) := by
  have first : FaithfulStep lib Decimals.reference handle (.opened lib handle)
      (.put "book" 1 "BTC" (book "100")) captured :=
    ⟨fun _ _ _ => ⟨by decide, nofun⟩, rfl⟩
  have second : FaithfulStep lib Decimals.reference handle captured (.ledger (.call intend))
      referred := ⟨trivial, refers⟩
  have third : FaithfulStep lib Decimals.reference handle referred (.prune 2) pruned :=
    ⟨trivial, rfl⟩
  have last : FaithfulStep lib Decimals.reference handle pruned (.put "book" 3 "BTC" (book "100"))
      (recaptured "100") := by
    refine ⟨fun _ canonical written => ⟨by decide, fun capture member _ => ?_⟩, rfl⟩
    rw [pruned_captures] at member
    rw [List.mem_singleton.mp member]
    exact written
  exact ⟨snapshots_bound (.snoc (.snoc (.snoc (.single first) second) third) last),
    by decide +kernel⟩

/-- Another book takes the id of a pruned one, and the reference to the first is a conflict. -/
theorem other_book_taken :
    (¬ ∀ (acts : List (ArchiveAct Decimals.reference)) archive,
      Run (ArchiveStep lib Decimals.reference handle) (.opened lib handle) acts archive →
        SnapshotsBound lib Decimals.reference handle archive) ∧
      (recaptured "101").store.db.events.map (fun row => (row.snapshotId, row.snapshotHash)) =
        [(some "book", some hash)] ∧
      (snapshotBody lib "book" hash (recaptured "101").snapshots).toOption = none := by
  refine ⟨fun all => ?_, by decide +kernel, by decide +kernel⟩
  have first : ArchiveStep lib Decimals.reference handle (.opened lib handle)
      (.put "book" 1 "BTC" (book "100")) captured := rfl
  have third : ArchiveStep lib Decimals.reference handle referred (.prune 2) pruned := rfl
  have last : ArchiveStep lib Decimals.reference handle pruned (.put "book" 3 "BTC" (book "101"))
      (recaptured "101") := rfl
  have bound := all _ _ (.snoc (.snoc (.snoc (.single first) refers) third) last)
  have differ : ¬ ∀ capture ∈ (recaptured "101").captures,
      ∀ other ∈ (recaptured "101").captures, capture.snapshotId = other.snapshotId →
        capture.hash = other.hash := by
    decide +kernel
  exact differ bound.hashes

/-- A book nested to the reader's limit is captured and cannot be read. -/
example :
    let deep : Value := (fun value => .array (.cons value .nil))^[recursionLimit] (.ofInt 1)
    let taken := (Archive.opened lib handle).put lib "deep" 1 "BTC" deep
    taken.captures.map (·.snapshotId) = ["deep"] ∧
      ∀ capture ∈ taken.captures,
        (snapshotBody lib "deep" capture.hash taken.snapshots).toOption = none := by
  decide +kernel

end TwoBooks

end Oppen.Ledger
