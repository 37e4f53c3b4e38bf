import Oppen.Chart.LiveChart
import Oppen.Candles.AggregatorRuns
import Oppen.Ledger.FillKeys

/-! # The tape

Whatever the order in which trades are delivered, however they are batched and repeated, each
bucket that is kept folds its distinct trades, and the marker is the latest trade. The identities
are those of the trades at or above the floor, so a repeated trade is known, or below the floor.
-/

namespace Oppen.Chart

open Foundation Oppen.Candles Oppen.Ledger Oppen.Reconcile

/-! ## The bar of some trades -/

namespace TapeBar

section Prints

variable {Decimal : Type} [LinearOrder Decimal] (trade : WsTrade Decimal) (entry : TapeBar Decimal)

/-- The entry with its open as a trade leaves it. -/
theorem printFirst_eq : entry.printFirst trade =
    { entry with
      first := if trade.key < entry.first then trade.key else entry.first
      bar := { entry.bar with
        openPx := if trade.key < entry.first then trade.px else entry.bar.openPx }
      firstAmbiguous :=
        if trade.time = (ofLex entry.first).1 ∧ trade.px ≠ entry.bar.openPx then true
        else if trade.time < (ofLex entry.first).1 then false else entry.firstAmbiguous } := by
  by_cases before : trade.time < (ofLex entry.first).1
  · simp only [printFirst, if_pos before, before.ne, false_and, if_false]
    split_ifs
    · rfl
    · rfl
  · by_cases doubtful : trade.time = (ofLex entry.first).1 ∧ trade.px ≠ entry.bar.openPx
    · simp only [printFirst, if_neg before, bne_iff_ne, if_pos doubtful]
      split_ifs
      · rfl
      · rfl
    · simp only [printFirst, if_neg before, bne_iff_ne, if_neg doubtful]
      split_ifs
      · rfl
      · rfl

/-- The entry with its close as a trade leaves it. -/
theorem printLast_eq : entry.printLast trade =
    { entry with
      last := if entry.last < trade.key then trade.key else entry.last
      bar := { entry.bar with
        close := if entry.last < trade.key then trade.px else entry.bar.close }
      lastAmbiguous :=
        if trade.time = (ofLex entry.last).1 ∧ trade.px ≠ entry.bar.close then true
        else if (ofLex entry.last).1 < trade.time then false else entry.lastAmbiguous } := by
  by_cases after : (ofLex entry.last).1 < trade.time
  · simp only [printLast, if_pos after, after.ne', false_and, if_false]
    split_ifs
    · rfl
    · rfl
  · by_cases doubtful : trade.time = (ofLex entry.last).1 ∧ trade.px ≠ entry.bar.close
    · simp only [printLast, if_neg after, bne_iff_ne, if_pos doubtful]
      split_ifs
      · rfl
      · rfl
    · simp only [printLast, if_neg after, bne_iff_ne, if_neg doubtful]
      split_ifs
      · rfl
      · rfl

/-- The bar with one more trade. -/
theorem print_eq (volume : Decimal) (receivedAtMs : ℕ) : entry.print trade volume receivedAtMs =
    { bar := { entry.bar with
        openPx := if trade.key < entry.first then trade.px else entry.bar.openPx
        high := max entry.bar.high trade.px
        low := min entry.bar.low trade.px
        close := if entry.last < trade.key then trade.px else entry.bar.close
        volume
        trades := entry.bar.trades + 1 }
      first := if trade.key < entry.first then trade.key else entry.first
      last := if entry.last < trade.key then trade.key else entry.last
      firstAmbiguous :=
        if trade.time = (ofLex entry.first).1 ∧ trade.px ≠ entry.bar.openPx then true
        else if trade.time < (ofLex entry.first).1 then false else entry.firstAmbiguous
      lastAmbiguous :=
        if trade.time = (ofLex entry.last).1 ∧ trade.px ≠ entry.bar.close then true
        else if (ofLex entry.last).1 < trade.time then false else entry.lastAmbiguous
      received := max entry.received receivedAtMs } := by
  rw [print, printFirst_eq, printLast_eq]

end Prints

end TapeBar

section Ambiguity

variable {Decimal : Type} {trade : WsTrade Decimal} {trades others : List (WsTrade Decimal)}
  {ms : ℕ}

@[simp] theorem WsTrade.fst_key (trade : WsTrade Decimal) : (ofLex trade.key).1 = trade.time := rfl

/-- Trades are ordered by time and, within one millisecond, by trade id. -/
theorem WsTrade.key_lt_iff {left right : WsTrade Decimal} : left.key < right.key ↔
    left.time < right.time ∨ left.time = right.time ∧ left.tid < right.tid :=
  Prod.Lex.toLex_lt_toLex

/-- A trade that is not later by its key is not later by its time. -/
theorem WsTrade.time_le_of_key_le {left right : WsTrade Decimal} (before : left.key ≤ right.key) :
    left.time ≤ right.time := by
  rcases Prod.Lex.toLex_le_toLex.mp before with less | ⟨same, _⟩
  · exact less.le
  · exact same.le

/-- Two prices share a millisecond. -/
def Ambiguous (trades : List (WsTrade Decimal)) (ms : ℕ) : Prop :=
  ∃ left ∈ trades, ∃ right ∈ trades, left.time = ms ∧ right.time = ms ∧ left.px ≠ right.px

/-- A trade of another millisecond leaves a millisecond as ambiguous as it was. -/
theorem ambiguous_cons_of_ne (apart : trade.time ≠ ms) :
    Ambiguous (trade :: trades) ms ↔ Ambiguous trades ms := by
  constructor
  · rintro ⟨left, here, right, there, atMs, atMs', differ⟩
    rcases List.mem_cons.mp here with rfl | here
    · exact absurd atMs apart
    rcases List.mem_cons.mp there with rfl | there
    · exact absurd atMs' apart
    exact ⟨left, here, right, there, atMs, atMs', differ⟩
  · rintro ⟨left, here, right, there, rest⟩
    exact ⟨left, List.mem_cons_of_mem _ here, right, List.mem_cons_of_mem _ there, rest⟩

/-- One price of the millisecond is enough to compare another with. -/
theorem ambiguous_cons_of_mem {held : WsTrade Decimal} (member : held ∈ trades)
    (same : held.time = trade.time) : Ambiguous (trade :: trades) trade.time ↔
      trade.px ≠ held.px ∨ Ambiguous trades trade.time := by
  have here : held ∈ trade :: trades := List.mem_cons_of_mem _ member
  constructor
  · rintro ⟨left, first, right, second, atMs, atMs', differ⟩
    by_cases settled : trade.px = held.px
    · refine .inr ?_
      rcases List.mem_cons.mp first with rfl | older
      · rcases List.mem_cons.mp second with rfl | older
        · exact absurd rfl differ
        · exact ⟨held, member, right, older, same, atMs', settled ▸ differ⟩
      · rcases List.mem_cons.mp second with rfl | older'
        · exact ⟨left, older, held, member, atMs, same, settled ▸ differ⟩
        · exact ⟨left, older, right, older', atMs, atMs', differ⟩
    · exact .inl settled
  · rintro (differ | ⟨left, first, right, second, rest⟩)
    · exact ⟨trade, List.mem_cons_self, held, here, rfl, same, differ⟩
    · exact ⟨left, List.mem_cons_of_mem _ first, right, List.mem_cons_of_mem _ second, rest⟩

/-- A trade that is alone in its millisecond leaves nothing ambiguous there. -/
theorem not_ambiguous_cons (alone : ∀ other ∈ trades, other.time ≠ trade.time) :
    ¬ Ambiguous (trade :: trades) trade.time := by
  rintro ⟨left, first, right, second, atMs, atMs', differ⟩
  rcases List.mem_cons.mp first with rfl | first
  · rcases List.mem_cons.mp second with rfl | second
    · exact differ rfl
    · exact alone right second atMs'
  · exact alone left first atMs

/-- Whether a millisecond is ambiguous depends on which trades there are and not on their order. -/
theorem ambiguous_congr (same : ∀ trade, trade ∈ trades ↔ trade ∈ others) :
    Ambiguous trades ms ↔ Ambiguous others ms := by
  simp only [Ambiguous, same]

end Ambiguity

section Fold

variable {Decimal : Type} [LinearOrder Decimal] [AddCommMonoid Decimal] {trade : WsTrade Decimal}
  {trades others : List (WsTrade Decimal)} {entry : TapeBar Decimal}

/-- The bar of some trades, in no order: the prices of the first and the last, whether another
price shares the millisecond of either, the extreme prices, the summed size and the count. -/
structure TapeBar.FoldOf (trades : List (WsTrade Decimal))
    (entry : TapeBar Decimal) : Prop where
  opens : ∃ trade ∈ trades, trade.key = entry.first ∧ trade.px = entry.bar.openPx
  first_le : ∀ trade ∈ trades, entry.first ≤ trade.key
  closes : ∃ trade ∈ trades, trade.key = entry.last ∧ trade.px = entry.bar.close
  le_last : ∀ trade ∈ trades, trade.key ≤ entry.last
  high_mem : ∃ trade ∈ trades, trade.px = entry.bar.high
  le_high : ∀ trade ∈ trades, trade.px ≤ entry.bar.high
  low_mem : ∃ trade ∈ trades, trade.px = entry.bar.low
  low_le : ∀ trade ∈ trades, entry.bar.low ≤ trade.px
  volume : entry.bar.volume = (trades.map WsTrade.sz).sum
  counted : entry.bar.trades.toNat = trades.length
  firstAmbiguous : entry.firstAmbiguous = true ↔ Ambiguous trades (ofLex entry.first).1
  lastAmbiguous : entry.lastAmbiguous = true ↔ Ambiguous trades (ofLex entry.last).1

/-- The fold does not depend on the order of the trades. -/
theorem TapeBar.FoldOf.perm (fold : entry.FoldOf trades) (perm : trades.Perm others) :
    entry.FoldOf others where
  opens := by
    obtain ⟨trade, member, held⟩ := fold.opens
    exact ⟨trade, perm.mem_iff.mp member, held⟩
  first_le trade member := fold.first_le trade (perm.mem_iff.mpr member)
  closes := by
    obtain ⟨trade, member, held⟩ := fold.closes
    exact ⟨trade, perm.mem_iff.mp member, held⟩
  le_last trade member := fold.le_last trade (perm.mem_iff.mpr member)
  high_mem := by
    obtain ⟨trade, member, held⟩ := fold.high_mem
    exact ⟨trade, perm.mem_iff.mp member, held⟩
  le_high trade member := fold.le_high trade (perm.mem_iff.mpr member)
  low_mem := by
    obtain ⟨trade, member, held⟩ := fold.low_mem
    exact ⟨trade, perm.mem_iff.mp member, held⟩
  low_le trade member := fold.low_le trade (perm.mem_iff.mpr member)
  volume := by rw [fold.volume, (perm.map WsTrade.sz).sum_eq]
  counted := by rw [fold.counted, perm.length_eq]
  firstAmbiguous := fold.firstAmbiguous.trans (ambiguous_congr fun _ => perm.mem_iff)
  lastAmbiguous := fold.lastAmbiguous.trans (ambiguous_congr fun _ => perm.mem_iff)

/-- The bar that a first trade opens folds that trade. -/
theorem TapeBar.foldOf_opened (bucket : I64) (width : ℤ) (trade : WsTrade Decimal)
    (receivedAtMs : ℕ) :
    ((TapeBar.opened bucket width trade receivedAtMs).print trade (0 + trade.sz)
      receivedAtMs).FoldOf [trade] := by
  have self : ∃ held ∈ [trade], held.px = trade.px := ⟨trade, List.mem_singleton_self _, rfl⟩
  have sole : ¬ Ambiguous [trade] trade.time :=
    not_ambiguous_cons fun _ none => absurd none List.not_mem_nil
  rw [print_eq]
  simp only [opened, WsTrade.fst_key, lt_irrefl, if_false, max_self, min_self, ne_eq,
    not_true_eq_false, and_false,
    ite_self]
  refine ⟨⟨trade, List.mem_singleton_self _, rfl, rfl⟩, fun other member => ?_,
    ⟨trade, List.mem_singleton_self _, rfl, rfl⟩, fun other member => ?_, self,
    fun other member => ?_, self, fun other member => ?_, ?_, rfl, ?_, ?_⟩
  · rw [List.mem_singleton.mp member]
  · rw [List.mem_singleton.mp member]
  · rw [List.mem_singleton.mp member]
  · rw [List.mem_singleton.mp member]
  · rw [zero_add, List.map_singleton, List.sum_singleton]
  · exact iff_of_false Bool.false_ne_true sole
  · exact iff_of_false Bool.false_ne_true sole

/-- Whether the open is ambiguous, after a trade before, in or after its millisecond. -/
theorem TapeBar.FoldOf.firstAmbiguous_cons (fold : entry.FoldOf trades)
    (trade : WsTrade Decimal) :
    (if trade.time = (ofLex entry.first).1 ∧ trade.px ≠ entry.bar.openPx then true
      else if trade.time < (ofLex entry.first).1 then false else entry.firstAmbiguous) = true ↔
    Ambiguous (trade :: trades)
      (ofLex (if trade.key < entry.first then trade.key else entry.first)).1 := by
  obtain ⟨opener, here, first, openPx⟩ := fold.opens
  have ms : (ofLex entry.first).1 = opener.time := first ▸ rfl
  have ambiguous := fold.firstAmbiguous
  rw [ms] at ambiguous
  rcases lt_trichotomy trade.time opener.time with before | same | after
  · have settled : ¬ (trade.time = (ofLex entry.first).1 ∧ trade.px ≠ entry.bar.openPx) :=
      fun both => before.ne (both.1.trans ms)
    have earlier : trade.key < entry.first := first ▸ WsTrade.key_lt_iff.mpr (.inl before)
    rw [if_neg settled, if_pos (ms ▸ before), if_pos earlier]
    refine iff_of_false Bool.false_ne_true (not_ambiguous_cons fun other member equal => ?_)
    have later := WsTrade.time_le_of_key_le (first.symm ▸ fold.first_le other member)
    exact absurd (before.trans_le (later.trans equal.le)) (lt_irrefl _)
  · have kept : (ofLex (if trade.key < entry.first then trade.key else entry.first)).1 =
        trade.time := by
      split_ifs
      · rfl
      · exact ms.trans same.symm
    have level : ¬ trade.time < (ofLex entry.first).1 := not_lt.mpr (ms.trans same.symm).le
    rw [kept, ambiguous_cons_of_mem here same.symm, if_neg level, same, ← ambiguous, openPx]
    by_cases settled : trade.px = entry.bar.openPx
    · rw [if_neg fun both => both.2 settled]
      exact (or_iff_right (not_not_intro settled)).symm
    · rw [if_pos ⟨ms.symm, settled⟩]
      exact iff_of_true rfl (.inl settled)
  · have settled : ¬ (trade.time = (ofLex entry.first).1 ∧ trade.px ≠ entry.bar.openPx) :=
      fun both => after.ne' (both.1.trans ms)
    have behind : ¬ trade.key < entry.first := fun less =>
      absurd (WsTrade.time_le_of_key_le (first.symm ▸ less.le)) (not_le.mpr after)
    have later : ¬ trade.time < (ofLex entry.first).1 := not_lt.mpr (ms.le.trans after.le)
    rw [if_neg settled, if_neg later, if_neg behind, ambiguous, ms]
    exact (ambiguous_cons_of_ne after.ne').symm

/-- Whether the close is ambiguous, after a trade before, in or after its millisecond. -/
theorem TapeBar.FoldOf.lastAmbiguous_cons (fold : entry.FoldOf trades)
    (trade : WsTrade Decimal) :
    (if trade.time = (ofLex entry.last).1 ∧ trade.px ≠ entry.bar.close then true
      else if (ofLex entry.last).1 < trade.time then false else entry.lastAmbiguous) = true ↔
    Ambiguous (trade :: trades)
      (ofLex (if entry.last < trade.key then trade.key else entry.last)).1 := by
  obtain ⟨closer, there, last, closePx⟩ := fold.closes
  have ms : (ofLex entry.last).1 = closer.time := last ▸ rfl
  have ambiguous := fold.lastAmbiguous
  rw [ms] at ambiguous
  rcases lt_trichotomy trade.time closer.time with before | same | after
  · have settled : ¬ (trade.time = (ofLex entry.last).1 ∧ trade.px ≠ entry.bar.close) :=
      fun both => before.ne (both.1.trans ms)
    have behind : ¬ entry.last < trade.key := fun less =>
      absurd (WsTrade.time_le_of_key_le (last.symm ▸ less.le)) (not_le.mpr before)
    have earlier : ¬ (ofLex entry.last).1 < trade.time := not_lt.mpr (before.le.trans ms.ge)
    rw [if_neg settled, if_neg earlier, if_neg behind, ambiguous, ms]
    exact (ambiguous_cons_of_ne before.ne).symm
  · have kept : (ofLex (if entry.last < trade.key then trade.key else entry.last)).1 =
        trade.time := by
      split_ifs
      · rfl
      · exact ms.trans same.symm
    have level : ¬ (ofLex entry.last).1 < trade.time := not_lt.mpr (ms.trans same.symm).ge
    rw [kept, ambiguous_cons_of_mem there same.symm, if_neg level, same, ← ambiguous, closePx]
    by_cases settled : trade.px = entry.bar.close
    · rw [if_neg fun both => both.2 settled]
      exact (or_iff_right (not_not_intro settled)).symm
    · rw [if_pos ⟨ms.symm, settled⟩]
      exact iff_of_true rfl (.inl settled)
  · have settled : ¬ (trade.time = (ofLex entry.last).1 ∧ trade.px ≠ entry.bar.close) :=
      fun both => after.ne' (both.1.trans ms)
    have later : entry.last < trade.key := last ▸ WsTrade.key_lt_iff.mpr (.inl after)
    rw [if_neg settled, if_pos (ms ▸ after), if_pos later]
    refine iff_of_false Bool.false_ne_true (not_ambiguous_cons fun other member equal => ?_)
    have earlier := WsTrade.time_le_of_key_le (last.symm ▸ fold.le_last other member)
    exact absurd (after.trans_le (equal.ge.trans earlier)) (lt_irrefl _)

/-- **A further trade joins the fold.** -/
theorem TapeBar.FoldOf.print (fold : entry.FoldOf trades) (few : trades.length + 1 < 2 ^ 32)
    (receivedAtMs : ℕ) :
    (entry.print trade (entry.bar.volume + trade.sz) receivedAtMs).FoldOf (trade :: trades) := by
  obtain ⟨opener, here, first, openPx⟩ := fold.opens
  obtain ⟨closer, there, last, closePx⟩ := fold.closes
  rw [print_eq]
  refine ⟨?_, ?_, ?_, ?_, ?_, ?_, ?_, ?_, ?_, ?_, ?_, ?_⟩
  · dsimp only
    split_ifs
    · exact ⟨trade, List.mem_cons_self, rfl, rfl⟩
    · exact ⟨opener, List.mem_cons_of_mem _ here, first, openPx⟩
  · intro other member
    dsimp only
    rcases List.mem_cons.mp member with rfl | older
    · split_ifs with before
      · exact le_rfl
      · exact not_lt.mp before
    · split_ifs with before
      · exact before.le.trans (fold.first_le other older)
      · exact fold.first_le other older
  · dsimp only
    split_ifs
    · exact ⟨trade, List.mem_cons_self, rfl, rfl⟩
    · exact ⟨closer, List.mem_cons_of_mem _ there, last, closePx⟩
  · intro other member
    dsimp only
    rcases List.mem_cons.mp member with rfl | older
    · split_ifs with after
      · exact le_rfl
      · exact not_lt.mp after
    · split_ifs with after
      · exact (fold.le_last other older).trans after.le
      · exact fold.le_last other older
  · dsimp only
    rcases max_choice entry.bar.high trade.px with old | new
    · obtain ⟨held, member, same⟩ := fold.high_mem
      exact ⟨held, List.mem_cons_of_mem _ member, same.trans old.symm⟩
    · exact ⟨trade, List.mem_cons_self, new.symm⟩
  · intro other member
    rcases List.mem_cons.mp member with rfl | older
    · exact le_max_right _ _
    · exact (fold.le_high other older).trans (le_max_left _ _)
  · dsimp only
    rcases min_choice entry.bar.low trade.px with old | new
    · obtain ⟨held, member, same⟩ := fold.low_mem
      exact ⟨held, List.mem_cons_of_mem _ member, same.trans old.symm⟩
    · exact ⟨trade, List.mem_cons_self, new.symm⟩
  · intro other member
    rcases List.mem_cons.mp member with rfl | older
    · exact min_le_right _ _
    · exact (min_le_left _ _).trans (fold.low_le other older)
  · dsimp only
    rw [fold.volume, List.map_cons, List.sum_cons, add_comm]
  · dsimp only
    have one : (1 : UInt32).toNat = 1 := rfl
    rw [UInt32.toNat_add, fold.counted, one, List.length_cons, Nat.mod_eq_of_lt few]
  · exact fold.firstAmbiguous_cons trade
  · exact fold.lastAmbiguous_cons trade

/-- Whether an entry of the tape is what some trades make. -/
def Folds (trades : List (WsTrade Decimal)) : Option (TapeBar Decimal) → Prop
  | none => trades = []
  | some entry => entry.FoldOf trades

/-- What a bar folds does not depend on the order of the trades. -/
theorem Folds.perm {held : Option (TapeBar Decimal)} (folds : Folds trades held)
    (perm : trades.Perm others) : Folds others held := by
  cases held with
  | none => exact List.Perm.nil_eq (folds ▸ perm) |>.symm
  | some entry => exact TapeBar.FoldOf.perm folds perm

end Fold

/-! ## The marker of some trades -/

section Marker

variable {Decimal : Type} {lib : Numbers Decimal} {trade : WsTrade Decimal}
  {trades others : List (WsTrade Decimal)} {marker : Option ((ℕ ×ₗ ℕ) × TradeMarker)}

/-- The marker of some trades, in no order: the latest, and whether another price shares its
millisecond. -/
inductive MarkerOf (lib : Numbers Decimal) (trades : List (WsTrade Decimal)) :
    Option ((ℕ ×ₗ ℕ) × TradeMarker) → Prop
  | none (empty : trades = []) : MarkerOf lib trades none
  | some {latest : WsTrade Decimal} {ambiguous : Bool} (member : latest ∈ trades)
      (last : ∀ trade ∈ trades, trade.key ≤ latest.key)
      (shared : ambiguous = true ↔ Ambiguous trades latest.time) :
      MarkerOf lib trades (some (latest.key, ⟨latest.time, lib.normalized latest.px, ambiguous⟩))

/-- Which marker is the latest depends on which trades there are alone. -/
theorem MarkerOf.congr (marked : MarkerOf lib trades marker)
    (same : ∀ trade, trade ∈ trades ↔ trade ∈ others) : MarkerOf lib others marker := by
  cases marked with
  | none empty =>
      subst empty
      exact .none (List.eq_nil_iff_forall_not_mem.mpr fun trade member =>
        absurd ((same trade).mpr member) List.not_mem_nil)
  | some member last shared =>
      exact .some ((same _).mp member) (fun trade inside => last trade ((same trade).mpr inside))
        (shared.trans (ambiguous_congr same))

/-- A trade before the millisecond of the latest does not change the marker. -/
theorem MarkerOf.skip (marked : MarkerOf lib trades marker) {later : WsTrade Decimal}
    (member : later ∈ trades) (before : trade.time < later.time) :
    MarkerOf lib (trade :: trades) marker := by
  cases marked with
  | none empty =>
      subst empty
      exact absurd member List.not_mem_nil
  | @some latest ambiguous inside last shared =>
      have earlier := before.trans_le (WsTrade.time_le_of_key_le (last later member))
      refine .some (List.mem_cons_of_mem _ inside) (fun other held => ?_)
        (shared.trans (ambiguous_cons_of_ne earlier.ne).symm)
      rcases List.mem_cons.mp held with rfl | older
      · exact (WsTrade.key_lt_iff.mpr (.inl earlier)).le
      · exact last other older

/-- **The marker follows the latest trade.** -/
theorem MarkerOf.markTrade (digits : Function.Injective lib.normalized)
    (marked : MarkerOf lib trades marker) (trade : WsTrade Decimal) :
    MarkerOf lib (trade :: trades) (markTrade lib trade marker) := by
  cases marked with
  | none empty =>
      subst empty
      refine .some List.mem_cons_self (fun other member => ?_) (iff_of_false Bool.false_ne_true ?_)
      · rw [List.mem_singleton.mp member]
      · exact not_ambiguous_cons fun _ none => absurd none List.not_mem_nil
  | @some latest ambiguous member last shared =>
      have most : ∀ other ∈ trade :: trades, other.key ≤ max latest.key trade.key := by
        intro other inside
        rcases List.mem_cons.mp inside with rfl | older
        · exact le_max_right _ _
        · exact (last other older).trans (le_max_left _ _)
      rw [Chart.markTrade]
      dsimp only
      by_cases same : trade.time = latest.time
      · have doubt : (ambiguous || lib.normalized latest.px != lib.normalized trade.px) = true ↔
            Ambiguous (trade :: trades) trade.time := by
          rw [ambiguous_cons_of_mem member same.symm, same, ← shared, Bool.or_eq_true, bne_iff_ne,
            digits.ne_iff, or_comm, ne_comm]
        rw [if_pos (show trade.time = (ofLex latest.key).1 from same)]
        split_ifs with after
        · rw [max_eq_right after.le] at most
          rw [← same]
          exact .some List.mem_cons_self most doubt
        · rw [max_eq_left (not_lt.mp after)] at most
          exact .some (List.mem_cons_of_mem _ member) most (same ▸ doubt)
      · rw [if_neg (show ¬ trade.time = (ofLex latest.key).1 from same)]
        split_ifs with before
        · rw [max_eq_left before.le] at most
          exact .some (List.mem_cons_of_mem _ member) most
            (shared.trans (ambiguous_cons_of_ne same).symm)
        · rw [max_eq_right (not_lt.mp before)] at most
          have later := WsTrade.time_le_of_key_le (not_lt.mp before)
          refine .some List.mem_cons_self most (iff_of_false Bool.false_ne_true ?_)
          refine not_ambiguous_cons fun other inside equal => same ?_
          exact le_antisymm (equal.ge.trans (WsTrade.time_le_of_key_le (last other inside))) later

end Marker

/-! ## Buckets and the floor -/

section Floor

variable {Decimal : Type} {interval : Interval} {trade : WsTrade Decimal} {floor : I64}

/-- The bucket a trade falls into. -/
def WsTrade.bucket (interval : Interval) (trade : WsTrade Decimal) : I64 :=
  interval.bucketStartMs (.saturate trade.time)

/-- A time within the years of a calendar passes the check. -/
theorem checkedTimeMs_of_le {raw : ℕ} (inside : raw ≤ 253402300799999) :
    checkedTimeMs raw = some (.saturate raw) := by
  rw [checkedTimeMs, dif_pos inside]
  refine congrArg some (Subtype.ext ?_)
  change (raw : ℤ) = (I64.saturate raw : ℤ)
  exact (I64.saturate_of_mem (by omega) (by omega)).symm

/-- A time that passes the check is not saturated. -/
theorem coe_saturate_time (inside : trade.time ≤ 253402300799999) :
    (I64.saturate (trade.time : ℤ) : ℤ) = trade.time :=
  I64.saturate_of_mem (by omega) (by omega)

/-- A trade is in a bucket at or above an aligned floor exactly when its time is. -/
theorem floor_le_bucket_iff (inside : trade.time ≤ 253402300799999)
    (aligned : interval.millis ∣ (floor : ℤ)) (positive : 0 ≤ (floor : ℤ)) :
    floor ≤ trade.bucket interval ↔ floor.1.toNat ≤ trade.time := by
  have time := coe_saturate_time inside
  have le_time : floor ≤ .saturate trade.time ↔ floor.1.toNat ≤ trade.time := by
    rw [← Subtype.coe_le_coe, time]
    omega
  rw [← le_time]
  constructor
  · intro below
    have zero : interval.millis ∣ ((minTimeMs : I64) : ℤ) := dvd_zero _
    have start : minTimeMs ≤ I64.saturate (trade.time : ℤ) := by
      rw [← Subtype.coe_le_coe, time]
      exact Int.natCast_nonneg _
    exact below.trans (interval.bucketStartMs_of_le zero start).2.2
  · exact fun after => (interval.bucketStartMs_of_le aligned after).2.1

/-- A bucket is aligned, not before the epoch and not after its trade. -/
theorem bucket_spec (interval : Interval) (inside : trade.time ≤ 253402300799999) :
    interval.millis ∣ (trade.bucket interval : ℤ) ∧ 0 ≤ (trade.bucket interval : ℤ) ∧
      (trade.bucket interval : ℤ) ≤ trade.time := by
  have time := coe_saturate_time inside
  have zero : interval.millis ∣ ((minTimeMs : I64) : ℤ) := dvd_zero _
  have start : minTimeMs ≤ I64.saturate (trade.time : ℤ) := by
    rw [← Subtype.coe_le_coe, time]
    exact Int.natCast_nonneg _
  obtain ⟨multiple, low, high⟩ := interval.bucketStartMs_of_le zero start
  rw [← Subtype.coe_le_coe, time] at high
  exact ⟨multiple, Subtype.coe_le_coe.mpr low, high⟩

/-- The trades of a bucket. -/
def bucketTrades (interval : Interval) (bucket : I64) (trades : List (WsTrade Decimal)) :
    List (WsTrade Decimal) :=
  trades.filter fun trade => trade.bucket interval = bucket

/-- A trade is the first of its own bucket. -/
theorem bucketTrades_cons_self (interval : Interval) (trade : WsTrade Decimal)
    (trades : List (WsTrade Decimal)) :
    bucketTrades interval (trade.bucket interval) (trade :: trades) =
      trade :: bucketTrades interval (trade.bucket interval) trades :=
  List.filter_cons_of_pos (decide_eq_true rfl)

/-- A trade is in no bucket but its own. -/
theorem bucketTrades_cons_of_ne {bucket : I64} (apart : trade.bucket interval ≠ bucket)
    (trades : List (WsTrade Decimal)) :
    bucketTrades interval bucket (trade :: trades) = bucketTrades interval bucket trades :=
  List.filter_cons_of_neg fun same => apart (of_decide_eq_true same)

/-- The floor after a bucket is entered. -/
def raisedFloor (interval : Interval) (floor bucket : I64) : I64 :=
  max floor (.saturate (bucket - (historyBars - 1) * interval.millis))

/-- Advancing the floor sets it to the raised one. -/
theorem advanceFloor_floor (bucket : I64) (chart : LiveChart Decimal) :
    (chart.advanceFloor bucket).floor = raisedFloor chart.interval chart.floor bucket := by
  unfold LiveChart.advanceFloor
  dsimp only
  split_ifs with same
  · exact same.symm
  · rfl

/-- Raising the floor touches nothing that does not depend on it. -/
theorem advanceFloor_read {α : Type} (read : LiveChart Decimal → α) (bucket : I64)
    (chart : LiveChart Decimal) (blind : ∀ floor venue tape identities,
      read { chart with floor, venue, tape, identities } = read chart) :
    read (chart.advanceFloor bucket) = read chart := by
  unfold LiveChart.advanceFloor
  dsimp only
  split_ifs
  · rfl
  · exact blind _ _ _ _

/-- The floor is raised by whole intervals, never back and never past the bucket that raises it. -/
theorem raisedFloor_spec {bucket : I64} (aligned : interval.millis ∣ (floor : ℤ))
    (positive : 0 ≤ (floor : ℤ)) (multiple : interval.millis ∣ (bucket : ℤ))
    (after : floor ≤ bucket) :
    interval.millis ∣ (raisedFloor interval floor bucket : ℤ) ∧
      floor ≤ raisedFloor interval floor bucket ∧ raisedFloor interval floor bucket ≤ bucket := by
  have width := interval.millis_pos
  have narrow := interval.millis_le
  have bars : ((historyBars : ℤ) - 1) = 599 := rfl
  have high := bucket.2.2
  have below : 0 ≤ (bucket : ℤ) := positive.trans (Subtype.coe_le_coe.mpr after)
  have back : (I64.saturate (bucket - (historyBars - 1) * interval.millis) : ℤ) =
      bucket - (historyBars - 1) * interval.millis := by
    rw [bars]
    exact I64.saturate_of_mem (by omega) (by omega)
  rw [raisedFloor]
  refine ⟨?_, le_max_left _ _, max_le after ?_⟩
  · rcases max_choice floor (.saturate (bucket - (historyBars - 1) * interval.millis)) with
      same | same
    · rw [same]
      exact aligned
    · rw [same, back]
      exact Int.dvd_sub multiple (dvd_mul_left _ _)
  · rw [← Subtype.coe_le_coe, back, bars]
    omega

end Floor

/-! ## What was observed -/

section Observed

variable {Decimal : Type} [LinearOrder Decimal] [AddCommMonoid Decimal] {lib : Numbers Decimal}
  {interval : Interval} {symbol : String} {seen : List (WsTrade Decimal)}
  {chart : LiveChart Decimal} {trade : WsTrade Decimal}

/-- A trade that the chart of a symbol accepts. -/
structure WsTrade.Valid (symbol : String) (trade : WsTrade Decimal) : Prop where
  coin : trade.coin = symbol
  px : 0 < trade.px
  sz : 0 < trade.sz
  hash : trade.hash.utf8ByteSize ≤ 128
  users : trade.users.length ≤ 2
  time : trade.time ≤ 253402300799999

/-- What a chart keeps at or above its floor of the distinct trades it has seen. -/
structure Kept (seen : List (WsTrade Decimal)) (chart : LiveChart Decimal) : Prop where
  aligned : chart.interval.millis ∣ (chart.floor : ℤ)
  positive : 0 ≤ (chart.floor : ℤ)
  identities : ∀ key trade, chart.identities.get key = some trade ↔
    trade ∈ seen ∧ trade.key = key ∧ chart.floor.1.toNat ≤ trade.time
  tape : ∀ bucket, chart.floor ≤ bucket →
    Folds (bucketTrades chart.interval bucket seen) (chart.tape.get bucket)

/-- Distinct trades that the chart of a symbol accepts, one record to an identity and fewer than
the chart can tell apart. -/
structure Supply (symbol : String) (supply : List (WsTrade Decimal)) : Prop where
  nodup : supply.Nodup
  valid : ∀ trade ∈ supply, trade.Valid symbol
  one : ∀ left ∈ supply, ∀ right ∈ supply, left.key = right.key → left = right
  few : supply.length < maxIdentities

/-- A chart that has seen some trades of a supply, and nothing that freezes its tape. -/
structure Observed (lib : Numbers Decimal) (symbol : String) (interval : Interval)
    (supply seen : List (WsTrade Decimal)) (chart : LiveChart Decimal) : Prop
    extends Kept seen chart where
  named : chart.symbol = symbol
  spaced : chart.interval = interval
  running : chart.frozen = false
  nodup : seen.Nodup
  drawn : seen ⊆ supply
  reached : chart.floor.1.toNat = 0 ∨ ∃ trade ∈ seen, chart.floor.1.toNat ≤ trade.time
  marked : MarkerOf lib seen chart.marker

/-- Raising the floor keeps what is at or above it. -/
theorem Kept.advanceFloor (kept : Kept seen chart) {bucket : I64}
    (multiple : chart.interval.millis ∣ (bucket : ℤ)) (after : chart.floor ≤ bucket) :
    Kept seen (chart.advanceFloor bucket) := by
  obtain ⟨aligned, raised, _⟩ :=
    raisedFloor_spec kept.aligned kept.positive multiple after
  have positive : 0 ≤ (raisedFloor chart.interval chart.floor bucket : ℤ) :=
    kept.positive.trans (Subtype.coe_le_coe.mpr raised)
  have above : chart.floor.1.toNat ≤ (raisedFloor chart.interval chart.floor bucket).1.toNat :=
    Int.toNat_le_toNat (Subtype.coe_le_coe.mpr raised)
  unfold LiveChart.advanceFloor
  dsimp only
  split_ifs with same
  · exact kept
  · refine ⟨aligned, positive, fun key trade => ?_, fun other higher => ?_⟩
    · rw [SortedMap.get_retain]
      split_ifs with keep
      · rw [kept.identities]
        have keep := of_decide_eq_true keep
        constructor
        · rintro ⟨member, rfl, _⟩
          exact ⟨member, rfl, keep⟩
        · rintro ⟨member, same, late⟩
          exact ⟨member, same, above.trans late⟩
      · refine iff_of_false nofun ?_
        rintro ⟨_, rfl, late⟩
        exact keep (decide_eq_true late)
    · rw [SortedMap.get_retain, if_pos (decide_eq_true higher)]
      exact kept.tape other (raised.trans higher)

/-- A chart with the same tape keeps the same. -/
theorem Kept.congr (kept : Kept seen chart) {next : LiveChart Decimal}
    (interval : next.interval = chart.interval) (floor : next.floor = chart.floor)
    (identities : next.identities = chart.identities) (tape : next.tape = chart.tape) :
    Kept seen next where
  aligned := by rw [interval, floor]; exact kept.aligned
  positive := by rw [floor]; exact kept.positive
  identities := by rw [floor, identities]; exact kept.identities
  tape := by rw [interval, floor, tape]; exact kept.tape

/-- The bar of a bucket with one more trade, the first or a further one. -/
theorem Folds.print {trades : List (WsTrade Decimal)} {held : Option (TapeBar Decimal)}
    (folds : Folds trades held) (few : trades.length + 1 < 2 ^ 32) (bucket : I64) (width : ℤ)
    (trade : WsTrade Decimal) (receivedAtMs : ℕ) :
    ((held.getD (.opened bucket width trade receivedAtMs)).print trade
      (held.elim 0 (·.bar.volume) + trade.sz) receivedAtMs).FoldOf (trade :: trades) := by
  cases held with
  | none =>
      have empty : trades = [] := folds
      rw [empty]
      exact TapeBar.foldOf_opened bucket width trade receivedAtMs
  | some entry => exact TapeBar.FoldOf.print folds few receivedAtMs

/-- A trade below the floor is none of what is kept. -/
theorem Kept.skip (kept : Kept seen chart) (valid : trade.Valid symbol)
    (below : trade.bucket chart.interval < chart.floor) : Kept (trade :: seen) chart where
  aligned := kept.aligned
  positive := kept.positive
  identities key held := by
    have early : ¬ chart.floor.1.toNat ≤ trade.time := fun late =>
      absurd ((floor_le_bucket_iff valid.time kept.aligned kept.positive).mpr late)
        (not_le.mpr below)
    rw [kept.identities, List.mem_cons]
    constructor
    · rintro ⟨member, rest⟩
      exact ⟨.inr member, rest⟩
    · rintro ⟨rfl | member, same, late⟩
      · exact absurd late early
      · exact ⟨member, same, late⟩
  tape bucket higher := by
    rw [bucketTrades_cons_of_ne (below.trans_le higher).ne]
    exact kept.tape bucket higher

/-- A new trade at or above the floor joins what is kept. -/
theorem Kept.takeTrade (kept : Kept seen chart) (valid : trade.Valid symbol)
    (inside : chart.floor ≤ trade.bucket chart.interval) (few : seen.length + 1 < 2 ^ 32)
    (one : ∀ held ∈ seen, held.key ≠ trade.key) (receivedAtMs : ℕ) :
    Kept (trade :: seen) (chart.takeTrade lib (trade.bucket chart.interval) trade
      ((chart.tape.get (trade.bucket chart.interval)).elim 0 (·.bar.volume) + trade.sz)
      receivedAtMs) where
  aligned := kept.aligned
  positive := kept.positive
  identities key held := by
    have late : chart.floor.1.toNat ≤ trade.time :=
      (floor_le_bucket_iff valid.time kept.aligned kept.positive).mp inside
    change (chart.identities.insert trade.key trade).get key = some held ↔
      held ∈ trade :: seen ∧ held.key = key ∧ chart.floor.1.toNat ≤ held.time
    rw [SortedMap.get_insert, List.mem_cons]
    split_ifs with same
    · rw [Option.some.injEq]
      constructor
      · rintro rfl
        exact ⟨.inl rfl, same, late⟩
      · rintro ⟨rfl | member, equal, _⟩
        · rfl
        · exact absurd (equal.trans same.symm) (one held member)
    · rw [kept.identities]
      constructor
      · rintro ⟨member, rest⟩
        exact ⟨.inr member, rest⟩
      · rintro ⟨rfl | member, equal, rest⟩
        · exact absurd equal same
        · exact ⟨member, equal, rest⟩
  tape bucket higher := by
    change Folds (bucketTrades chart.interval bucket (trade :: seen))
      ((chart.tape.insert (trade.bucket chart.interval) _).get bucket)
    rw [SortedMap.get_insert]
    split_ifs with same
    · subst same
      rw [bucketTrades_cons_self]
      refine (kept.tape _ inside).print (lt_of_le_of_lt ?_ few) _ _ trade receivedAtMs
      exact Nat.succ_le_succ (List.length_filter_le _ _)
    · rw [bucketTrades_cons_of_ne same]
      exact kept.tape bucket higher

/-- The chart knows no more identities than it has seen trades. -/
theorem Kept.identities_le (kept : Kept seen chart) : chart.identities.length ≤ seen.length := by
  rw [← List.length_map WsTrade.key]
  refine SortedMap.length_le fun entry member => ?_
  obtain ⟨held, same, _⟩ :=
    (kept.identities entry.1 entry.2).mp (SortedMap.get_eq_some_iff.mpr member)
  exact List.mem_map.mpr ⟨entry.2, held, same⟩

/-! ## The rows of a batch -/

variable {supply : List (WsTrade Decimal)} {receivedAtMs : ℕ}

/-- What becomes of a row that passes the checks of its fields. -/
theorem observeTrade_eq (exact : ∀ left right, lib.checkedAdd left right = some (left + right))
    (valid : trade.Valid chart.symbol) (inTime : trade.time ≤ receivedAtMs) :
    chart.observeTrade lib receivedAtMs trade =
      if trade.bucket chart.interval < chart.floor then .ok chart
      else
        match chart.identities.get trade.key with
        | some prior =>
            if prior != trade then
              .error (chart.freeze .invalidObservation "conflicting trade identity")
            else .ok (chart.receive receivedAtMs).changed
        | none =>
            let chart' := chart.advanceFloor (trade.bucket chart.interval)
            if maxIdentities ≤ chart'.identities.length then
              .error (chart'.freeze .capacityExceeded "trade identity capacity exceeded")
            else
              .ok (chart'.takeTrade lib (trade.bucket chart.interval) trade
                ((chart'.tape.get (trade.bucket chart.interval)).elim 0 (·.bar.volume) + trade.sz)
                receivedAtMs) := by
  have lawful : ¬ (trade.coin ≠ chart.symbol ∨ trade.px ≤ 0 ∨ trade.sz ≤ 0 ∨
      128 < trade.hash.utf8ByteSize ∨ 2 < trade.users.length) := by
    rintro (other | zero | zero | long | many)
    · exact other valid.coin
    · exact absurd valid.px (not_lt.mpr zero)
    · exact absurd valid.sz (not_lt.mpr zero)
    · exact absurd valid.hash (not_le.mpr long)
    · exact absurd valid.users (not_le.mpr many)
  have timely : ¬ saturatingAdd64 receivedAtMs maxClockSkewMs < trade.time := by
    have bound := valid.time
    rw [saturatingAdd64, maxClockSkewMs]
    omega
  unfold LiveChart.observeTrade
  rw [checkedTimeMs_of_le valid.time]
  dsimp only
  rw [if_neg lawful, if_neg timely]
  simp only [exact]
  rfl

/-- A row below the floor. -/
theorem Observed.skip (observed : Observed lib symbol interval supply seen chart)
    (valid : trade.Valid symbol) (member : trade ∈ supply)
    (below : trade.bucket chart.interval < chart.floor) :
    Observed lib symbol interval supply (seen.insert trade) chart := by
  by_cases known : trade ∈ seen
  · rw [List.insert_of_mem known]
    exact observed
  rw [List.insert_of_not_mem known]
  have high : ¬ chart.floor.1.toNat = 0 := by
    have start := (bucket_spec chart.interval valid.time).2.1
    have less : (trade.bucket chart.interval : ℤ) < chart.floor := Subtype.coe_lt_coe.mpr below
    omega
  obtain ⟨later, held, reached⟩ := observed.reached.resolve_left high
  have early : trade.time < later.time := by
    refine lt_of_lt_of_le (not_le.mp fun late => ?_) reached
    exact absurd ((floor_le_bucket_iff valid.time observed.aligned observed.positive).mpr late)
      (not_le.mpr below)
  exact
    { toKept := observed.toKept.skip valid below
      named := observed.named
      spaced := observed.spaced
      running := observed.running
      nodup := List.nodup_cons.mpr ⟨known, observed.nodup⟩
      drawn := List.cons_subset.mpr ⟨member, observed.drawn⟩
      reached := .inr ⟨later, List.mem_cons_of_mem _ held, reached⟩
      marked := observed.marked.skip held early }

/-- A row that the chart knows. -/
theorem Observed.repeated (observed : Observed lib symbol interval supply seen chart)
    (known : trade ∈ seen) (receivedAtMs : ℕ) :
    Observed lib symbol interval supply (seen.insert trade)
      (chart.receive receivedAtMs).changed := by
  rw [List.insert_of_mem known]
  exact { observed with toKept := observed.toKept.congr rfl rfl rfl rfl }

/-- A row that is new, once the floor is raised for its bucket. -/
theorem Observed.take (digits : Function.Injective lib.normalized) (stock : Supply symbol supply)
    (observed : Observed lib symbol interval supply seen chart) (member : trade ∈ supply)
    (unknown : trade ∉ seen) (inTime : trade.time ≤ receivedAtMs)
    (inside : chart.floor ≤ trade.bucket chart.interval) :
    Observed lib symbol interval supply (seen.insert trade)
      ((chart.advanceFloor (trade.bucket chart.interval)).takeTrade lib
        (trade.bucket chart.interval) trade
        (((chart.advanceFloor (trade.bucket chart.interval)).tape.get
          (trade.bucket chart.interval)).elim 0 (·.bar.volume) + trade.sz) receivedAtMs) := by
  have valid := stock.valid trade member
  have nodup := List.nodup_cons.mpr ⟨unknown, observed.nodup⟩
  have drawn := List.cons_subset.mpr ⟨member, observed.drawn⟩
  obtain ⟨multiple, _, before⟩ := bucket_spec chart.interval valid.time
  have reached := (raisedFloor_spec observed.aligned observed.positive multiple inside).2.2
  have kept := observed.toKept.advanceFloor multiple inside
  have spaced := advanceFloor_read LiveChart.interval (trade.bucket chart.interval) chart
    fun _ _ _ _ => rfl
  have running := advanceFloor_read LiveChart.frozen (trade.bucket chart.interval) chart
    fun _ _ _ _ => rfl
  have marker := advanceFloor_read LiveChart.marker (trade.bucket chart.interval) chart
    fun _ _ _ _ => rfl
  have named := advanceFloor_read LiveChart.symbol (trade.bucket chart.interval) chart
    fun _ _ _ _ => rfl
  rw [← advanceFloor_floor] at reached
  generalize chart.advanceFloor (trade.bucket chart.interval) = next at *
  rw [← spaced] at reached ⊢
  rw [List.insert_of_not_mem unknown]
  have late : next.floor.1.toNat ≤ trade.time :=
    (floor_le_bucket_iff valid.time kept.aligned kept.positive).mp reached
  have bound := ((nodup.subperm drawn).length_le).trans_lt stock.few
  have one : ∀ held ∈ seen, held.key ≠ trade.key := fun held inside same =>
    unknown (stock.one held (observed.drawn inside) trade member same ▸ inside)
  have timely : ¬ receivedAtMs < trade.time := not_lt.mpr inTime
  exact
    { toKept := kept.takeTrade valid reached (bound.trans (by decide)) one receivedAtMs
      named := named.trans observed.named
      spaced := spaced.trans observed.spaced
      running := by
        have isOpen := running.trans observed.running
        rw [LiveChart.frozen, Bool.or_eq_false_iff, Bool.or_eq_false_iff] at isOpen
        change (next.transportError.isSome || false || false) = false
        rw [isOpen.1.1]
        rfl
      nodup
      drawn
      reached := .inr ⟨trade, List.mem_cons_self, late⟩
      marked := by
        change MarkerOf lib (trade :: seen)
          (if decide (receivedAtMs < trade.time) = true then _ else markTrade lib trade next.marker)
        rw [if_neg (by simpa using inTime), marker]
        exact observed.marked.markTrade digits trade }

/-- **A row of the supply joins what was seen.** -/
theorem Observed.row (exact : ∀ left right, lib.checkedAdd left right = some (left + right))
    (digits : Function.Injective lib.normalized) (stock : Supply symbol supply)
    (observed : Observed lib symbol interval supply seen chart) (member : trade ∈ supply)
    (inTime : trade.time ≤ receivedAtMs) :
    ∃ next, chart.observeTrade lib receivedAtMs trade = .ok next ∧
      Observed lib symbol interval supply (seen.insert trade) next := by
  have valid := stock.valid trade member
  rw [observeTrade_eq exact (observed.named ▸ valid) inTime]
  by_cases below : trade.bucket chart.interval < chart.floor
  · rw [if_pos below]
    exact ⟨chart, rfl, observed.skip valid member below⟩
  rw [if_neg below]
  have late : chart.floor.1.toNat ≤ trade.time :=
    (floor_le_bucket_iff valid.time observed.aligned observed.positive).mp (not_lt.mp below)
  cases found : chart.identities.get trade.key with
  | some prior =>
      obtain ⟨known, same, _⟩ := (observed.identities _ _).mp found
      have equal : prior = trade := stock.one prior (observed.drawn known) trade member same
      subst equal
      dsimp only
      rw [if_neg (by simp)]
      exact ⟨_, rfl, observed.repeated known receivedAtMs⟩
  | none =>
      have unknown : trade ∉ seen := by
        intro known
        rw [(observed.identities trade.key trade).mpr ⟨known, rfl, late⟩] at found
        cases found
      have kept := observed.toKept.advanceFloor (bucket_spec chart.interval valid.time).1
        (not_lt.mp below)
      have bound := kept.identities_le.trans_lt
        (((observed.nodup.subperm observed.drawn).length_le).trans_lt stock.few)
      dsimp only
      rw [if_neg (not_le.mpr bound)]
      exact ⟨_, rfl, observed.take digits stock member unknown inTime (not_lt.mp below)⟩

/-- Rows of the supply are all seen. -/
theorem Observed.rows (exact : ∀ left right, lib.checkedAdd left right = some (left + right))
    (digits : Function.Injective lib.normalized) (stock : Supply symbol supply)
    {rows : List (WsTrade Decimal)}
    (drawn : ∀ trade ∈ rows, trade ∈ supply ∧ trade.time ≤ receivedAtMs)
    (observed : Observed lib symbol interval supply seen chart) :
    ∃ next, rows.foldlM (LiveChart.observeTrade lib receivedAtMs) chart = .ok next ∧
      ∃ seen', Observed lib symbol interval supply seen' next ∧
        ∀ trade, trade ∈ seen' ↔ trade ∈ seen ∨ trade ∈ rows := by
  induction rows generalizing chart seen with
  | nil => exact ⟨chart, rfl, seen, observed, fun trade => by simp⟩
  | cons row rows ih =>
      obtain ⟨member, inTime⟩ := drawn row List.mem_cons_self
      obtain ⟨middle, accepted, joined⟩ := observed.row exact digits stock member inTime
      obtain ⟨next, rest, seen', final, known⟩ :=
        ih (fun trade inside => drawn trade (List.mem_cons_of_mem _ inside)) joined
      refine ⟨next, ?_, seen', final, fun trade => ?_⟩
      · rw [List.foldlM_cons, accepted]
        exact rest
      · rw [known, List.mem_insert_iff, List.mem_cons, or_assoc, or_left_comm]

/-- A batch that the chart can tell apart. -/
theorem Observed.batch (exact : ∀ left right, lib.checkedAdd left right = some (left + right))
    (digits : Function.Injective lib.normalized) (stock : Supply symbol supply)
    {batch : List (WsTrade Decimal)} (fits : batch.length ≤ maxIdentities)
    (drawn : ∀ trade ∈ batch, trade ∈ supply ∧ trade.time ≤ receivedAtMs)
    (observed : Observed lib symbol interval supply seen chart) :
    ∃ seen', Observed lib symbol interval supply seen'
        (chart.observeTrades lib batch receivedAtMs) ∧
      ∀ trade, trade ∈ seen' ↔ trade ∈ seen ∨ trade ∈ batch := by
  have sorted : ∀ trade, trade ∈ sortBy WsTrade.key batch ↔ trade ∈ batch := fun _ =>
    (sortBy_perm WsTrade.key batch).mem_iff
  obtain ⟨next, accepted, seen', final, known⟩ := observed.rows exact digits stock
    fun trade inside => drawn trade ((sorted trade).mp inside)
  refine ⟨seen', ?_, fun trade => by rw [known, sorted]⟩
  rw [LiveChart.observeTrades, observed.running, if_neg Bool.false_ne_true,
    if_neg (not_lt.mpr fits), accepted]
  exact final

/-- A chart that is opened has seen nothing. -/
theorem observed_new {owner : ℕ} {precision : Option ℕ}
    (opened : LiveChart.new owner symbol interval precision = .ok chart) :
    Observed lib symbol interval supply [] chart := by
  rw [LiveChart.new] at opened
  split_ifs at opened
  injection opened with opened
  subst opened
  exact
    { aligned := dvd_zero _
      positive := le_rfl
      identities := fun key trade => iff_of_false nofun fun held => absurd held.1 List.not_mem_nil
      tape := fun bucket _ => rfl
      named := rfl
      spaced := rfl
      running := rfl
      nodup := List.nodup_nil
      drawn := List.nil_subset _
      reached := .inl rfl
      marked := .none rfl }

/-- The chart after some batches, each with its receipt. -/
def deliver (lib : Numbers Decimal) (deliveries : List (List (WsTrade Decimal) × ℕ))
    (chart : LiveChart Decimal) : LiveChart Decimal :=
  deliveries.foldl (fun chart delivery => chart.observeTrades lib delivery.1 delivery.2) chart

/-- The tape and the marker say of some trades what the trades say. -/
structure Tells (lib : Numbers Decimal) (supply : List (WsTrade Decimal))
    (chart : LiveChart Decimal) : Prop where
  tape : ∀ bucket, chart.floor ≤ bucket →
    Folds (bucketTrades chart.interval bucket supply) (chart.tape.get bucket)
  marker : MarkerOf lib supply chart.marker

/-- Trades none of which is stamped later than its receipt, each of them delivered. -/
structure Delivered (supply : List (WsTrade Decimal))
    (deliveries : List (List (WsTrade Decimal) × ℕ)) : Prop where
  drawn : ∀ delivery ∈ deliveries, ∀ trade ∈ delivery.1, trade ∈ supply ∧ trade.time ≤ delivery.2
  covered : ∀ trade ∈ supply, ∃ delivery ∈ deliveries, trade ∈ delivery.1

/-- **The tape does not depend on the delivery.** However the trades are batched, ordered and
repeated, each bucket at or above the floor that is reached folds its trades, and the marker is the
latest of all, provided that no batch is larger than the chart accepts. -/
theorem tape_of_deliveries (exact : ∀ left right, lib.checkedAdd left right = some (left + right))
    (digits : Function.Injective lib.normalized) (stock : Supply symbol supply)
    {deliveries : List (List (WsTrade Decimal) × ℕ)} (delivered : Delivered supply deliveries)
    (fits : ∀ delivery ∈ deliveries, delivery.1.length ≤ maxIdentities)
    {owner : ℕ} {precision : Option ℕ}
    (opened : LiveChart.new owner symbol interval precision = .ok chart) :
    Tells lib supply (deliver lib deliveries chart) := by
  have run : ∀ (rest : List (List (WsTrade Decimal) × ℕ)) {chart : LiveChart Decimal}
      {seen : List (WsTrade Decimal)}, rest ⊆ deliveries →
      Observed lib symbol interval supply seen chart →
      ∃ seen', Observed lib symbol interval supply seen' (deliver lib rest chart) ∧
        ∀ trade, trade ∈ seen' ↔ trade ∈ seen ∨ ∃ delivery ∈ rest, trade ∈ delivery.1 := by
    intro rest
    induction rest with
    | nil => exact fun {_ seen} _ observed => ⟨seen, observed, fun trade => by simp⟩
    | cons delivery rest ih =>
        intro chart seen inside observed
        obtain ⟨here, inside⟩ := List.cons_subset.mp inside
        obtain ⟨middle, joined, known⟩ :=
          observed.batch exact digits stock (fits delivery here) (delivered.drawn delivery here)
        obtain ⟨seen', final, later⟩ := ih inside joined
        refine ⟨seen', final, fun trade => ?_⟩
        rw [later, known, List.exists_mem_cons_iff, or_assoc]
  obtain ⟨seen, observed, known⟩ := run deliveries (List.Subset.refl _) (observed_new opened)
  have same : ∀ trade, trade ∈ seen ↔ trade ∈ supply := by
    refine fun trade => ⟨fun member => observed.drawn member, fun member => ?_⟩
    exact (known trade).mpr (.inr (delivered.covered trade member))
  have perm : seen.Perm supply := (List.perm_ext_iff_of_nodup observed.nodup stock.nodup).mpr same
  refine ⟨fun bucket higher => ?_, observed.marked.congr same⟩
  exact (observed.tape bucket higher).perm (perm.filter _)

end Observed

namespace Crowded

/-! ## A batch that freezes the tape

Of the records of a batch the chart counts the repeated ones too, and of a record with a known
identity it compares every field.
-/

def lib : Numbers ℕ := ⟨fun left right => some (left + right), toString, toString⟩

def print : WsTrade ℕ := ⟨"BTC", .buy, 7, 2, 61000, "0xaa", 1, []⟩

/-- The print under another hash. -/
def relabelled : WsTrade ℕ := { print with hash := "0xbb" }

def earlier : WsTrade ℕ := ⟨"BTC", .sell, 6, 1, 60500, "0xcc", 4, []⟩

def chart : LiveChart ℕ where
  symbol := "BTC"
  interval := oneMinute
  precision := none
  owner := 0
  request := 0
  revision := 0
  classificationMs := none
  clockRollback := false
  floor := minTimeMs
  venue := .empty
  tape := .empty
  identities := .empty
  marker := none
  status := .observing
  historyError := none
  observationError := none
  transportError := none
  received := none

theorem chart_opened : LiveChart.new 0 "BTC" oneMinute none = .ok chart := rfl

theorem print_valid : print.Valid "BTC" :=
  ⟨rfl, by decide, by decide, by decide, by decide, by decide⟩

theorem relabelled_valid : relabelled.Valid "BTC" :=
  ⟨rfl, by decide, by decide, by decide, by decide, by decide⟩

theorem earlier_valid : earlier.Valid "BTC" :=
  ⟨rfl, by decide, by decide, by decide, by decide, by decide⟩

/-- The print that arrives late is in its bucket, as the print that arrived in time. -/
theorem late_print_told : Tells lib [print, earlier]
    (deliver lib [([print, print], 61000), ([earlier], 62000), ([print], 70000)] chart) := by
  refine tape_of_deliveries (fun _ _ => rfl) toString_nat_injective ⟨?_, ?_, ?_, by decide⟩ ⟨?_, ?_⟩
    (by decide) chart_opened
  · decide
  · rintro trade member
    rcases List.mem_pair.mp member with rfl | rfl
    · exact print_valid
    · exact earlier_valid
  · decide
  · decide
  · decide

/-- A batch of more copies of the print than the chart accepts. -/
theorem copies_frozen {copies : ℕ} (many : maxIdentities < copies) :
    Supply "BTC" [print] ∧ Delivered [print] [(List.replicate copies print, 61000)] ∧
      ¬ Tells lib [print] (deliver lib [(List.replicate copies print, 61000)] chart) := by
  refine ⟨⟨List.nodup_singleton _, fun trade member => ?_, by decide, by decide⟩, ⟨?_, ?_⟩,
    fun told => ?_⟩
  · exact List.mem_singleton.mp member ▸ print_valid
  · intro delivery here trade member
    rw [List.mem_singleton.mp here] at member ⊢
    rw [List.eq_of_mem_replicate member]
    exact ⟨List.mem_singleton_self _, le_rfl⟩
  · intro trade member
    refine ⟨_, List.mem_singleton_self _, List.mem_replicate.mpr ⟨?_, List.mem_singleton.mp member⟩⟩
    exact (Nat.zero_le _).trans_lt many |>.ne'
  · have crowded : maxIdentities < (List.replicate copies print).length := by
      rw [List.length_replicate]
      exact many
    have frozen : deliver lib [(List.replicate copies print, 61000)] chart =
        chart.freeze .capacityExceeded "trade batch exceeds identity capacity" := by
      change chart.observeTrades lib (List.replicate copies print) 61000 = _
      have running : ¬ chart.frozen = true := Bool.false_ne_true
      rw [LiveChart.observeTrades, if_neg running, if_pos crowded]
    rw [frozen] at told
    have marked : MarkerOf lib [print] none := told.marker
    cases marked with
    | none empty => cases empty

/-- The print under two hashes. -/
theorem relabelled_frozen :
    ¬ Tells lib [print, relabelled] (deliver lib [([print, relabelled], 61000)] chart) := by
  intro told
  have doubtful : (deliver lib [([print, relabelled], 61000)] chart).marker.any
      (·.2.priceAmbiguous) = true := by decide +kernel
  have one : ¬ Ambiguous [print, relabelled] 61000 := by
    rintro ⟨left, first, right, second, _, _, differ⟩
    rcases List.mem_pair.mp first with rfl | rfl
    · rcases List.mem_pair.mp second with rfl | rfl
      · exact differ rfl
      · exact differ rfl
    · rcases List.mem_pair.mp second with rfl | rfl
      · exact differ rfl
      · exact differ rfl
  have marked := told.marker
  generalize (deliver lib [([print, relabelled], 61000)] chart).marker = marker at doubtful marked
  cases marked with
  | none => cases doubtful
  | @some latest ambiguous member last shared =>
      have time : latest.time = 61000 := by
        rcases List.mem_pair.mp member with rfl | rfl
        · rfl
        · rfl
      exact one (time ▸ shared.mp doubtful)

/-- More copies of one print in a batch than identities are kept, or one print under two hashes. -/
theorem crowded_batch_freezes :
    (∃ supply deliveries, Supply "BTC" supply ∧ Delivered supply deliveries ∧
      ¬ Tells lib supply (deliver lib deliveries chart)) ∧
    ∃ supply deliveries, supply.Nodup ∧ supply.length < maxIdentities ∧
      (∀ trade ∈ supply, trade.Valid "BTC") ∧
      (∀ left ∈ supply, ∀ right ∈ supply, left.key = right.key →
        left.px = right.px ∧ left.sz = right.sz) ∧
      (∀ delivery ∈ deliveries, delivery.1.length ≤ maxIdentities) ∧
      Delivered supply deliveries ∧ ¬ Tells lib supply (deliver lib deliveries chart) := by
  have many : maxIdentities < 65537 := by decide
  refine ⟨⟨[print], _, copies_frozen many⟩, [print, relabelled], [([print, relabelled], 61000)],
    by decide, by decide, fun trade member => ?_, by decide, by decide, ⟨by decide, by decide⟩,
    relabelled_frozen⟩
  rcases List.mem_pair.mp member with rfl | rfl
  · exact print_valid
  · exact relabelled_valid

end Crowded

end Oppen.Chart
