import Oppen.Ledger.FillRows
import Oppen.Ledger.GapCalls

/-! # The newest fill before a position

Where a gap was opened the chain names the newest fill of an account. Nothing that happens
to the ledger later changes that answer.
-/

namespace Oppen.Ledger

open Foundation

/-! ## Addresses as accounts -/

/-- The display of an address has 42 characters. -/
theorem length_codes_display (address : Address) : (codes address.display).length = 42 := by
  rw [Address.display, codes_append, List.length_append]
  have digits : (codes (hexEncode address.bytes)).length = 40 := by
    rw [codes, List.length_map, length_utf8_hexEncode, address.length]
  rw [digits]
  rfl

/-- No address extends another. -/
theorem not_extendsByColon_display (address other : Address) :
    ¬ ExtendsByColon address.display other.display := by
  intro extension
  have short := extension.length_le
  rw [codes_append, List.length_append, length_codes_display, length_codes_display,
    codes_colon] at short
  exact absurd short (by decide)

/-! ## The answer -/

/-- The rows `newestFillTsMs` looks at. -/
def scannedBefore (account : String) (beforeSeq : Nat) (row : Row) : Bool :=
  row.idemKey.any (fun key => InRange (fillKeyRange account) key) && row.seq < (beforeSeq : Int)

def scannedStamps (db : Db) (account : String) (beforeSeq : Nat) : List Int :=
  (db.events.filter (scannedBefore account beforeSeq)).map fun row => row.tsMs.toInt

/-- The newest fill of an account is the largest stamp among the rows that are scanned. -/
theorem newestFillTsMs_stamps (db : Db) (account : String) (beforeSeq : Nat) :
    newestFillTsMs db account beforeSeq = (do
      refuseIf (2 ^ 63 ≤ beforeSeq) .seqOutOfRange
      return (scannedStamps db account beforeSeq).max?.bind fun tsMs =>
        if tsMs < 0 then none else some tsMs.toNat) := rfl

/-- What an answer is: nothing was scanned, or it is the newest stamp unless that is negative. -/
theorem newestFillTsMs_ok {db : Db} {account : String} {beforeSeq : Nat} {anchor : Option Nat}
    (found : newestFillTsMs db account beforeSeq = .ok anchor) :
    (scannedStamps db account beforeSeq = [] ∧ anchor = none) ∨
      ∃ row ∈ db.events, scannedBefore account beforeSeq row = true ∧
        anchor = if row.tsMs.toInt < 0 then none else some row.tsMs.toInt.toNat := by
  rw [newestFillTsMs_stamps] at found
  obtain ⟨_, _, found⟩ := bind_eq_ok found
  have answer := (Except.ok.inj found).symm
  cases greatest : (scannedStamps db account beforeSeq).max? with
  | none =>
      rw [greatest] at answer
      exact .inl ⟨List.max?_eq_none_iff.mp greatest, answer⟩
  | some tsMs =>
      rw [greatest] at answer
      obtain ⟨row, member, rfl⟩ := List.mem_map.mp (List.max?_mem greatest)
      obtain ⟨inside, scanned⟩ := List.mem_filter.mp member
      exact .inr ⟨row, inside, scanned, answer⟩

/-- The answer is the timestamp of a row in the range. -/
theorem newestFillTsMs_attained {db : Db} {account : String} {beforeSeq newest : Nat}
    (found : newestFillTsMs db account beforeSeq = .ok (some newest)) :
    ∃ row ∈ db.events, scannedBefore account beforeSeq row = true ∧
      row.tsMs.toInt = (newest : Int) := by
  rcases newestFillTsMs_ok found with ⟨_, none⟩ | ⟨row, member, scanned, answer⟩
  · cases none
  · refine ⟨row, member, scanned, ?_⟩
    by_cases negative : row.tsMs.toInt < 0
    · rw [if_pos negative] at answer
      cases answer
    · rw [if_neg negative] at answer
      rw [Option.some.inj answer, Int.toNat_of_nonneg (Int.not_lt.mp negative)]

/-- Where a row is in the range and none of them is before the epoch, there is an answer. -/
theorem newestFillTsMs_some {db : Db} {account : String} {beforeSeq : Nat} {anchor : Option Nat}
    (found : newestFillTsMs db account beforeSeq = .ok anchor) {row : Row}
    (member : row ∈ db.events) (scanned : scannedBefore account beforeSeq row = true)
    (stamped : ∀ row ∈ db.events, scannedBefore account beforeSeq row = true →
      0 ≤ row.tsMs.toInt) : ∃ newest, anchor = some newest := by
  rcases newestFillTsMs_ok found with ⟨empty, _⟩ | ⟨held, inside, here, answer⟩
  · have listed : row.tsMs.toInt ∈ scannedStamps db account beforeSeq :=
      List.mem_map.mpr ⟨row, List.mem_filter.mpr ⟨member, scanned⟩, rfl⟩
    rw [empty] at listed
    cases listed
  · rw [if_neg (Int.not_lt.mpr (stamped held inside here))] at answer
    exact ⟨_, answer⟩

/-- The stamps that are scanned are the same after rows were redacted. -/
theorem scannedStamps_kept {rows kept : List Row} (keeps : List.Forall₂ Kept rows kept)
    (account : String) (beforeSeq : Nat) :
    (kept.filter (scannedBefore account beforeSeq)).map (fun row => row.tsMs.toInt) =
      (rows.filter (scannedBefore account beforeSeq)).map fun row => row.tsMs.toInt := by
  induction keeps with
  | nil => rfl
  | @cons row held _ _ keep _ ih =>
      have scanned :
          scannedBefore account beforeSeq held = scannedBefore account beforeSeq row := by
        rw [scannedBefore, scannedBefore, keep.idemKey, keep.seq]
      rw [List.filter_cons, List.filter_cons, scanned]
      split
      · rw [List.map_cons, List.map_cons, keep.tsMs, ih]
      · exact ih

/-- **The answer is settled**: at a position of the chain it stays what it was. -/
theorem newestFillTsMs_evolves {lib : Libraries} {genesis : String} {before after : Db}
    (sound : SoundRows lib genesis after.events) (evolves : Evolves before after)
    (account : String) {beforeSeq : Nat} (within : beforeSeq ≤ before.events.length + 1) :
    newestFillTsMs after account beforeSeq = newestFillTsMs before account beforeSeq := by
  obtain ⟨kept, added, same, keeps⟩ := evolves
  have newer : added.filter (scannedBefore account beforeSeq) = [] := by
    refine List.filter_eq_nil_iff.mpr fun row member => ?_
    obtain ⟨index, here⟩ := List.mem_iff_getElem?.mp member
    have position := sound.positions (kept.length + index) row (by
      rw [same, List.getElem?_append_right (Nat.le_add_right _ _), Nat.add_sub_cancel_left, here])
    have length := keeps.length_eq
    have late : ¬ row.seq < (beforeSeq : Int) := by omega
    rw [scannedBefore, decide_eq_false late, Bool.and_false]
    exact nofun
  have stamps : scannedStamps after account beforeSeq = scannedStamps before account beforeSeq := by
    rw [scannedStamps, same, List.filter_append, newer, List.append_nil]
    exact scannedStamps_kept keeps account beforeSeq
  rw [newestFillTsMs_stamps, newestFillTsMs_stamps, stamps]

/-- A ledger never gets shorter. -/
theorem Evolves.length_le {before after : Db} (evolves : Evolves before after) :
    before.events.length ≤ after.events.length := by
  obtain ⟨kept, added, same, keeps⟩ := evolves
  rw [same, List.length_append, keeps.length_eq]
  exact Nat.le_add_right _ _

/-- The row of a fill stays one after a redaction. -/
theorem IsFillOf.kept {account : String} {tid : UInt64} {row held : Row}
    (isFill : IsFillOf account tid row) (kept : Kept row held) : IsFillOf account tid held :=
  ⟨kept.kind.trans isFill.1, kept.idemKey.trans isFill.2⟩

/-- The row of a fill was one before a redaction. -/
theorem IsFillOf.of_kept {account : String} {tid : UInt64} {row held : Row}
    (isFill : IsFillOf account tid held) (kept : Kept row held) : IsFillOf account tid row :=
  ⟨kept.kind.symm.trans isFill.1, kept.idemKey.symm.trans isFill.2⟩

/-! ## Where fill rows come from -/

section Runs

variable {lib : Libraries} {dec : Decimals} {handle : Handle} {store after : Store}

/-- A fill row was there before, or the step recorded it. -/
theorem Upheld.fill_row (upheld : Upheld lib handle store) {act : LedgerAct dec}
    (step : LedgerStep lib dec handle store act after) {row : Row} (member : row ∈ after.db.events)
    (kind : row.kind = EventKind.fill.asStr) :
    (∃ older ∈ store.db.events, Kept older row) ∨
      ∃ fill publish, act = .call ⟨.recordFill fill, publish⟩ ∧
        IsFillOf fill.account fill.tid row ∧ row.tsMs = fill.tsMs := by
  cases act with
  | mark gapId tsMs =>
      have step : (markGapReconciled gapId tsMs store).2 = after := step
      rw [← step, events_markGapReconciled] at member
      exact .inl ⟨row, member, .refl row⟩
  | call request =>
      obtain ⟨behind, tracks⟩ := upheld.tracks
      have written {event : NewEvent} {idemKey : Option String} {appended : Appended} {changed : Db}
          (writes : Writes dec request.call event idemKey)
          (change : Change lib (handle.genesis lib) store.db event idemKey appended changed)
          (inside : row ∈ changed.events) :
          (∃ older ∈ store.db.events, Kept older row) ∨
            ∃ fill publish, LedgerAct.call request = .call ⟨.recordFill fill, publish⟩ ∧
              IsFillOf fill.account fill.tid row ∧ row.tsMs = fill.tsMs := by
        rcases change.row_cases inside with older | ⟨same, keyed⟩
        · exact .inl older
        · rcases writes.sourced with ⟨fill, call, fillKind, key⟩ | ⟨notFill, _⟩
          · obtain ⟨added, grown, holds⟩ := change.added (by rw [fillKind]; exact nofun)
            rw [grown] at inside
            rcases List.mem_append.mp inside with older | last
            · exact .inl ⟨row, older, .refl row⟩
            · obtain rfl := List.mem_singleton.mp last
              obtain ⟨call', publish⟩ := request
              obtain rfl : call' = .recordFill fill := call
              refine .inr ⟨fill, publish, rfl, ⟨kind, keyed.trans key⟩, ?_⟩
              rw [holds.tsMs]
              cases writes with
              | fill => rfl
              | halt => cases fillKind
          · exact absurd (EventKind.asStr_injective (same.symm.trans kind)) notFill
      obtain ⟨_, moved⟩ := tracks.moved step
      cases moved with
      | unchanged => exact .inl ⟨row, member, .refl row⟩
      | published writes change => exact written writes change member
      | unpublished writes change => exact written writes change member

end Runs

end Oppen.Ledger
