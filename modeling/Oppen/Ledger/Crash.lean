import Oppen.Foundation.Run
import Oppen.Ledger.Transaction

/-! # Crashes between commit and publication

A process opens the ledger, appends and may die at any point. A death between the
commit of a row and the publication of its head leaves a row the anchor has not
witnessed, and reopening adopts nothing into an anchor that already holds a head.
The walk tolerates one such row, so a reopened ledger verifies exactly when at most
one append died in that window since a head was last published.
-/

namespace Oppen.Ledger

open Foundation Oppen.Json

/-- The file and its anchor, and whether a process has the ledger open. -/
structure Machine where
  store : Store
  running : Bool
  deriving DecidableEq, Repr

/-- A new file with nothing anchored and no process. -/
def Machine.new : Machine := ⟨⟨Db.migrated, none⟩, false⟩

/-- What the process does next. -/
inductive CrashAct where
  /-- `open_anchored` runs to its end. -/
  | opened
  /-- The process dies in `open_anchored` before the head is adopted. -/
  | openCut
  /-- An append returns its row: committed and published. -/
  | appended (event : NewEvent)
  /-- An append returns an error. -/
  | refused (event : NewEvent)
  /-- The process dies between the commit of the row and the publication of its head. -/
  | windowed (event : NewEvent)
  /-- The process dies elsewhere. -/
  | died
  deriving DecidableEq

section Machine

variable (lib : Libraries) (network : Network)

/-- The ledger as `Ledger::open` opens it. -/
def anchoredHandle : Handle := ⟨network, true⟩

@[simp] theorem anchored_anchoredHandle : (anchoredHandle network).anchored = true := rfl

/-- One step of the process: it opens the file, appends to it, or dies in between, in the window
after a commit included. -/
inductive CrashStep : Machine → CrashAct → Machine → Prop
  | opened {store reopened : Store}
      (run : openAnchored lib (anchoredHandle network) true store = (.ok (), reopened)) :
      CrashStep ⟨store, false⟩ .opened ⟨reopened, true⟩
  | openCut {store reopened : Store}
      (run : openAnchored lib (anchoredHandle network) false store = (.error .io, reopened)) :
      CrashStep ⟨store, false⟩ .openCut ⟨reopened, false⟩
  | appended {store grown : Store} {event : NewEvent} {row : Appended}
      (run : append lib (anchoredHandle network) true event store = (.ok row, grown)) :
      CrashStep ⟨store, true⟩ (.appended event) ⟨grown, true⟩
  | refused {store kept : Store} {event : NewEvent} {error : LedgerError}
      (run : append lib (anchoredHandle network) true event store = (.error error, kept)) :
      CrashStep ⟨store, true⟩ (.refused event) ⟨kept, true⟩
  | windowed {store : Store} {event : NewEvent} {row : Appended} {db : Db}
      (door : refuseOneDoorKind event.kind = .ok ())
      (commit : appendInTx lib store.db event = .ok (row, db)) :
      CrashStep ⟨store, true⟩ (.windowed event) ⟨{ store with db }, false⟩
  | died {store : Store} {running : Bool} : CrashStep ⟨store, running⟩ .died ⟨store, false⟩

/-- Appends that died in their window since a head was last published. -/
def crashWindows (acts : List CrashAct) : Nat :=
  acts.foldl (fun windows act => match act with
    | .appended _ => 0
    | .windowed _ => windows + 1
    | _ => windows) 0

/-- The chain verifies row by row and runs that many rows ahead of the anchor; before the
first head is adopted it is empty. -/
inductive Lag (windows : Nat) : Machine → Prop
  | new (none : windows = 0) : Lag windows Machine.new
  | bound {db : Db} (none : windows = 0) (network_eq : db.network = some (networkKey network))
      (consistent : Consistent lib ((anchoredHandle network).genesis lib) db)
      (empty : db.events = []) : Lag windows ⟨⟨db, .none⟩, false⟩
  | anchored {db : Db} {anchor : Anchor} {running : Bool}
      (network_eq : db.network = some (networkKey network))
      (consistent : Consistent lib ((anchoredHandle network).genesis lib) db)
      (behind : anchor.seq + windows = db.events.length)
      (hash : anchor.hash =
        tipDigest Row.hash ((anchoredHandle network).genesis lib) (db.events.take anchor.seq)) :
      Lag windows ⟨⟨db, some anchor⟩, running⟩

end Machine

section Lag

variable {lib : Libraries} {network : Network} {windows : Nat}

/-- Adopting the head of a consistent table leaves the anchor at it. -/
theorem Lag.adopted {db : Db} (network_eq : db.network = some (networkKey network))
    (consistent : Consistent lib ((anchoredHandle network).genesis lib) db) (running : Bool) :
    Lag lib network 0 ⟨⟨db, some ⟨db.events.length,
      tipDigest Row.hash ((anchoredHandle network).genesis lib) db.events⟩⟩, running⟩ :=
  .anchored network_eq consistent rfl (by rw [List.take_length])

/-- Opening a bound file whose anchor holds nothing adopts its head, if the anchor is reached. -/
theorem openAnchored_adopts {db : Db} (network_eq : db.network = some (networkKey network))
    (consistent : Consistent lib ((anchoredHandle network).genesis lib) db) (publish : Bool) :
    openAnchored lib (anchoredHandle network) publish ⟨db, none⟩ =
      if publish then (.ok (), ⟨db, some ⟨db.events.length,
        tipDigest Row.hash ((anchoredHandle network).genesis lib) db.events⟩⟩)
      else (.error .io, ⟨db, none⟩) := by
  have found := consistent.headed.head_eq
  have bound : bindNetwork lib (anchoredHandle network) db = .ok db :=
    bindNetwork_of_bound network_eq
  simp only [openAnchored, bound, anchored_anchoredHandle, and_self, if_true, found]
  rfl

/-- Opening a bound file leaves an anchor that holds a head alone. -/
theorem openAnchored_keeps {db : Db} (network_eq : db.network = some (networkKey network))
    (anchor : Anchor) (publish : Bool) :
    openAnchored lib (anchoredHandle network) publish ⟨db, some anchor⟩ =
      (.ok (), ⟨db, some anchor⟩) := by
  have bound : bindNetwork lib (anchoredHandle network) db = .ok db :=
    bindNetwork_of_bound network_eq
  simp only [openAnchored, bound, reduceCtorEq, and_false, if_false]

/-- The tables a new file is bound to. -/
def createdDb (lib : Libraries) (network : Network) : Db :=
  { Db.migrated with
    network := some (networkKey network)
    chainHead := some (0, (anchoredHandle network).genesis lib) }

/-- A ledger that was just created is consistent. -/
theorem createdDb_consistent :
    Consistent lib ((anchoredHandle network).genesis lib) (createdDb lib network) :=
  Consistent.created

/-- Opening an empty file creates the ledger and then opens it. -/
theorem openAnchored_new (publish : Bool) :
    openAnchored lib (anchoredHandle network) publish ⟨Db.migrated, none⟩ =
      openAnchored lib (anchoredHandle network) publish ⟨createdDb lib network, none⟩ := by
  have bound : bindNetwork lib (anchoredHandle network) (createdDb lib network) =
      .ok (createdDb lib network) := bindNetwork_of_bound rfl
  simp only [openAnchored, bound]
  rfl

/-- A reopening that succeeds keeps the lag of the anchor: it checks the rows and publishes none. -/
theorem Lag.opened {store reopened : Store} (lag : Lag lib network windows ⟨store, false⟩)
    (run : openAnchored lib (anchoredHandle network) true store = (.ok (), reopened)) :
    Lag lib network windows ⟨reopened, true⟩ := by
  have adopt {db : Db} (none : windows = 0)
      (network_eq : db.network = some (networkKey network))
      (consistent : Consistent lib ((anchoredHandle network).genesis lib) db)
      (run : openAnchored lib (anchoredHandle network) true ⟨db, .none⟩ = (.ok (), reopened)) :
      Lag lib network windows ⟨reopened, true⟩ := by
    rw [openAnchored_adopts network_eq consistent] at run
    cases run
    rw [none]
    exact .adopted network_eq consistent true
  cases lag with
  | new none =>
      rw [openAnchored_new] at run
      exact adopt none rfl createdDb_consistent run
  | bound none network_eq consistent empty => exact adopt none network_eq consistent run
  | anchored network_eq consistent behind hash =>
      rw [openAnchored_keeps network_eq] at run
      cases run
      exact .anchored network_eq consistent behind hash

/-- A reopening that dies keeps the lag of the anchor. -/
theorem Lag.openCut {store reopened : Store} (lag : Lag lib network windows ⟨store, false⟩)
    (run : openAnchored lib (anchoredHandle network) false store = (.error .io, reopened)) :
    Lag lib network windows ⟨reopened, false⟩ := by
  cases lag with
  | new none =>
      rw [openAnchored_new, openAnchored_adopts rfl createdDb_consistent] at run
      cases run
      exact .bound none rfl createdDb_consistent rfl
  | bound none network_eq consistent empty =>
      rw [openAnchored_adopts network_eq consistent] at run
      cases run
      exact .bound none network_eq consistent empty
  | anchored network_eq consistent behind hash =>
      rw [openAnchored_keeps network_eq] at run
      cases run

/-- A process that died leaves the lag as it was. -/
theorem Lag.died {store : Store} {running : Bool}
    (lag : Lag lib network windows ⟨store, running⟩) : Lag lib network windows ⟨store, false⟩ := by
  cases lag with
  | new none => exact .new none
  | bound none network_eq consistent empty => exact .bound none network_eq consistent empty
  | anchored network_eq consistent behind hash =>
      exact .anchored network_eq consistent behind hash

/-- The tables a row is appended to are bound, consistent and anchored. -/
theorem Lag.running {store : Store} (lag : Lag lib network windows ⟨store, true⟩) :
    ∃ anchor, store.anchor = some anchor ∧ store.db.network = some (networkKey network) ∧
      Consistent lib ((anchoredHandle network).genesis lib) store.db ∧
      anchor.seq + windows = store.db.events.length ∧ anchor.hash = tipDigest Row.hash
        ((anchoredHandle network).genesis lib) (store.db.events.take anchor.seq) := by
  cases lag with
  | anchored network_eq consistent behind hash =>
      exact ⟨_, rfl, network_eq, consistent, behind, hash⟩

/-- A row committed and not published adds one to the lag. -/
theorem Lag.windowed {store : Store} (lag : Lag lib network windows ⟨store, true⟩)
    {event : NewEvent} {row : Appended} {db : Db}
    (commit : appendInTx lib store.db event = .ok (row, db)) :
    Lag lib network (windows + 1) ⟨{ store with db }, false⟩ := by
  obtain ⟨anchor, anchored, network_eq, consistent, behind, hash⟩ := lag.running
  have grows := appendInTx_ok consistent.headed commit
  obtain ⟨canonical, _, _, _, same⟩ := grows.row
  rw [anchored]
  refine .anchored (grows.network.trans network_eq) (grows.consistent consistent) ?_ ?_
  · rw [grows.head.2.2]
    omega
  · rw [same, Db.extend, List.take_append_of_le_length (by omega)]
    exact hash

/-- A row committed and published clears the lag. -/
theorem Lag.appended {store grown : Store} (lag : Lag lib network windows ⟨store, true⟩)
    {event : NewEvent} {row : Appended}
    (run : append lib (anchoredHandle network) true event store = (.ok row, grown)) :
    Lag lib network 0 ⟨grown, true⟩ := by
  obtain ⟨anchor, anchored, network_eq, consistent, _, _⟩ := lag.running
  unfold append at run
  cases door : refuseOneDoorKind event.kind with
  | error error => rw [door] at run; cases run
  | ok done =>
      rw [door] at run
      change appendCommitted lib (anchoredHandle network) true event store = _ at run
      unfold appendCommitted at run
      cases commit : appendInTx lib store.db event with
      | error error => rw [commit] at run; cases run
      | ok result =>
          obtain ⟨appended, db⟩ := result
          rw [commit] at run
          cases run
          have grows := appendInTx_ok consistent.headed commit
          have next := grows.consistent consistent
          obtain ⟨named, _, _⟩ := grows.head
          have head := Intact.head next
          rw [named] at head
          simp only [Option.some.injEq, Prod.mk.injEq, Int.natCast_inj] at head
          have adopted := Lag.adopted (grows.network.trans network_eq) next true
          rw [← head.1, ← head.2] at adopted
          exact adopted

/-- An append that was refused leaves the lag as it was. -/
theorem Lag.refused {store kept : Store} (lag : Lag lib network windows ⟨store, true⟩)
    {event : NewEvent} {error : LedgerError}
    (run : append lib (anchoredHandle network) true event store = (.error error, kept)) :
    Lag lib network windows ⟨kept, true⟩ := by
  have unchanged : kept = store := by
    unfold append at run
    cases door : refuseOneDoorKind event.kind with
    | error error => rw [door] at run; cases run; rfl
    | ok done =>
        rw [door] at run
        change appendCommitted lib (anchoredHandle network) true event store = _ at run
        unfold appendCommitted at run
        cases commit : appendInTx lib store.db event with
        | error error => rw [commit] at run; cases run; rfl
        | ok result => rw [commit] at run; cases run
  rw [unchanged]
  exact lag

/-- What one step does to the lag. -/
theorem Lag.step {acts : List CrashAct} {before after : Machine} {act : CrashAct}
    (lag : Lag lib network (crashWindows acts) before)
    (moved : CrashStep lib network before act after) :
    Lag lib network (crashWindows (acts ++ [act])) after := by
  rw [crashWindows, List.foldl_append, List.foldl_cons, List.foldl_nil, ← crashWindows]
  cases moved with
  | opened run => exact lag.opened run
  | openCut run => exact lag.openCut run
  | appended run => exact lag.appended run
  | refused run => exact lag.refused run
  | windowed door commit => exact lag.windowed commit
  | died => exact lag.died

/-- The lag of a machine after a run from a new file. -/
theorem Lag.run {acts : List CrashAct} {last : Machine}
    (run : Run (CrashStep lib network) Machine.new acts last) :
    Lag lib network (crashWindows acts) last :=
  run.history (fun acts machine => Lag lib network (crashWindows acts) machine) (.new rfl)
    fun _ _ _ _ _ lag moved => lag.step moved

/-- A running ledger verifies exactly when its lag is within the tolerance. -/
theorem Lag.verify_iff {store : Store} (lag : Lag lib network windows ⟨store, true⟩) :
    (∃ report, verify lib (anchoredHandle network) store = .ok report ∧
      report.isIntact = true) ↔ windows ≤ anchorLagTolerance := by
  obtain ⟨anchor, anchored, _, consistent, behind, hash⟩ := lag.running
  have unfolded : verify lib (anchoredHandle network) store =
      walk lib (some anchor) store.db ((anchoredHandle network).genesis lib) := by
    simp only [verify, anchored, anchored_anchoredHandle, if_true]
  rw [unfolded, walk_isIntact_iff]
  constructor
  · intro intact
    have recent := (intact.witnessed anchor rfl).recent
    omega
  · intro tolerated
    refine ⟨consistent.rows, consistent.explained, ?_, Intact.head consistent⟩
    rintro remembered ⟨⟩
    exact ⟨by omega, by omega, hash⟩

end Lag

/-- **Crash tolerance.** After any sequence of opens, appends and deaths on a new file, the reopened
ledger verifies exactly when at most one append has died between its commit and the publication of
its head since a head was last published. A reopening does not publish the head it finds, so a
second death in the window leaves the chain two rows ahead. -/
theorem reopened_verifies_iff (lib : Libraries) (network : Network) {acts : List CrashAct}
    {store : Store} (run : Run (CrashStep lib network) Machine.new acts ⟨store, true⟩) :
    (∃ report, verify lib (anchoredHandle network) store = .ok report ∧
      report.isIntact = true) ↔ crashWindows acts ≤ 1 :=
  (Lag.run run).verify_iff

namespace Crash

/-- The compact reader and the checksum in place of `serde_json` and `Keccak256`. -/
def lib : Libraries := .reference checksum

def alert (text : String) : NewEvent where
  kind := .alert
  tsMs := 5
  agentId := none
  payload := .ofFields [("text", .string text)]
  snapshot := none

def genesis : String := (anchoredHandle .testnet).genesis lib

/-- The store a new testnet file is opened to. -/
def opened : Store := ⟨createdDb lib .testnet, some ⟨0, genesis⟩⟩

def firstRow : Row := nextRow lib genesis opened.db (alert "one") "\x7b\"text\":\"one\"\x7d" none

def once : Db := opened.db.extend firstRow

def secondRow : Row := nextRow lib genesis once (alert "two") "\x7b\"text\":\"two\"\x7d" none

def twice : Db := once.extend secondRow

/-- One append died in its window and the ledger was reopened. -/
theorem once_run : Run (CrashStep lib .testnet) Machine.new
    [.opened, .windowed (alert "one"), .opened] ⟨⟨once, opened.anchor⟩, true⟩ := by
  have commit : appendInTx lib opened.db (alert "one") = .ok (firstRow.appended, once) := by
    decide +kernel
  exact .snoc (.snoc (.single (.opened rfl)) (.windowed rfl commit)) (.opened rfl)

/-- A second append died in its window before any head was published. -/
theorem twice_run : Run (CrashStep lib .testnet) Machine.new
    [.opened, .windowed (alert "one"), .opened, .windowed (alert "two"), .opened]
    ⟨⟨twice, opened.anchor⟩, true⟩ := by
  have commit : appendInTx lib once (alert "two") = .ok (secondRow.appended, twice) := by
    decide +kernel
  exact .snoc (.snoc once_run (.windowed rfl commit)) (.opened rfl)

/-- One window is tolerated. -/
theorem once_verifies : ∃ report,
    verify lib (anchoredHandle .testnet) ⟨once, opened.anchor⟩ = .ok report ∧
      report.isIntact = true :=
  (reopened_verifies_iff lib .testnet once_run).mpr (by decide)

/-- Two consecutive windows leave the chain further ahead of the anchor than the walk
tolerates, with no tampering. -/
theorem twice_breaks :
    ¬ ∀ (acts : List CrashAct) (store : Store),
      Run (CrashStep lib .testnet) Machine.new acts ⟨store, true⟩ →
        ∃ report, verify lib (anchoredHandle .testnet) store = .ok report ∧
          report.isIntact = true := by
  intro tolerant
  obtain ⟨report, verified, intact⟩ := tolerant _ _ twice_run
  have broken : verify lib (anchoredHandle .testnet) ⟨twice, opened.anchor⟩ =
      .ok ⟨2, 2, secondRow.hash, some ⟨0, .chainAheadOfAnchor 0 2 1⟩⟩ := by
    decide +kernel
  rw [broken] at verified
  cases verified
  cases intact

end Crash

end Oppen.Ledger
