import Oppen.Ledger.System

/-! # Transactions that may find their work done

The signed journals answer a retry by publishing the head they find. Their transactions
write one row, or nothing and publish that head, or nothing at all.
-/

namespace Oppen.Ledger

open Foundation Oppen.Json

/-- The head of a table, as it is published. -/
def headAt (lib : Libraries) (handle : Handle) (db : Db) : Appended :=
  ⟨db.events.length, tipDigest Row.hash (handle.genesis lib) db.events⟩

/-- What a transaction leaves to commit: the table as it was, with its head to publish or
without, or one more row. -/
inductive Settles (lib : Libraries) (handle : Handle) (db : Db)
    (allowed : NewEvent → Option String → Prop) : Option Appended → Db → Prop
  | idle : Settles lib handle db allowed none db
  | found : Settles lib handle db allowed (some (headAt lib handle db)) db
  | written {event : NewEvent} {idemKey : Option String} {appended : Appended} {changed : Db}
      (permitted : allowed event idemKey)
      (change : Change lib (handle.genesis lib) db event idemKey appended changed) :
      Settles lib handle db allowed (some appended) changed

section Settling

variable {lib : Libraries} {handle : Handle} {store : Store} {α ε : Type}
  {body : Except ε (Committed α)}

/-- Publishing the head of a tracked table leaves the anchor at it. -/
theorem Tracks.headed {behind : Nat} (tracks : Tracks lib handle behind store) :
    Tracks lib handle 0 ⟨store.db, some ⟨(headAt lib handle store.db).seq,
      (headAt lib handle store.db).hash⟩⟩ where
  network := tracks.network
  consistent := tracks.consistent
  keys := tracks.keys
  anchored _ := by
    refine ⟨_, rfl, rfl, ?_⟩
    change tipDigest Row.hash _ store.db.events = tipDigest Row.hash _ (store.db.events.take _)
    rw [headAt, List.take_length]

/-- **What such a transaction does to the lag.** -/
theorem Tracks.settled {behind : Nat} (tracks : Tracks lib handle behind store) (publish : Bool)
    (lift : LedgerError → ε) {allowed : NewEvent → Option String → Prop}
    (spec : ∀ done, body = .ok done → Settles lib handle store.db allowed done.noted done.db) :
    ∃ behind', Tracks lib handle behind' (transact handle publish lift store body).2 ∧
      behind' ≤ behind + 1 ∧ (publish = true → behind' ≤ behind) := by
  cases body with
  | error error => exact ⟨behind, tracks, by omega, fun _ => le_rfl⟩
  | ok done =>
      obtain ⟨value, db, noted⟩ := done
      have settles : Settles lib handle store.db allowed noted db := spec _ rfl
      cases settles with
      | idle => exact ⟨behind, tracks, by omega, fun _ => le_rfl⟩
      | found =>
          cases anchored : handle.anchored with
          | false =>
              refine ⟨behind, ?_, by omega, fun _ => le_rfl⟩
              simpa only [transact, noteHead, anchored, Bool.false_eq_true, if_false] using tracks
          | true =>
              cases publish with
              | false =>
                  refine ⟨behind, ?_, by omega, fun _ => le_rfl⟩
                  simpa only [transact, noteHead, anchored, Bool.false_eq_true, if_false,
                    if_true] using tracks
              | true =>
                  refine ⟨0, ?_, by omega, fun _ => by omega⟩
                  simpa only [transact, noteHead, anchored, if_true] using tracks.headed
      | @written event idemKey appended changed permitted change =>
          cases anchored : handle.anchored with
          | false =>
              have published := tracks.published change
              rw [anchored] at published
              refine ⟨0, ?_, by omega, fun _ => by omega⟩
              simpa only [transact, noteHead, anchored, Bool.false_eq_true,
                if_false] using published
          | true =>
              cases publish with
              | false =>
                  refine ⟨behind + 1, ?_, le_rfl, fun published => by cases published⟩
                  simpa only [transact, noteHead, anchored, Bool.false_eq_true, if_false,
                    if_true] using tracks.changed change
              | true =>
                  have published := tracks.published change
                  rw [anchored] at published
                  refine ⟨0, ?_, by omega, fun _ => by omega⟩
                  simpa only [transact, noteHead, anchored, if_true] using published

end Settling

end Oppen.Ledger
