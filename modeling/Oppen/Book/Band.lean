import Oppen.Book.Walk

/-! # Depth within a band

The notional that is found for a band is a whole order on the side: it fills within the band of
the touch, and every larger one does not. What decides is how much what is taken costs beyond the
limit, which only grows past the level where it turns positive.
-/

namespace Oppen.Book

variable {Decimal : Type} [Field Decimal] [LinearOrder Decimal]

/-- How far what is taken costs more than the limit. -/
def excess (isBuy : Bool) (limit : Decimal) (taken : Decimal × Decimal) : Decimal :=
  if isBuy then taken.2 - limit * taken.1 else limit * taken.1 - taken.2

/-- How far a price is beyond the limit. -/
def beyond (isBuy : Bool) (limit px : Decimal) : Decimal :=
  if isBuy then px - limit else limit - px

/-- Levels of which none is within the limit. -/
def AllBeyond (isBuy : Bool) (limit : Decimal) (levels : List (Level Decimal)) : Prop :=
  ∀ level ∈ levels, 0 ≤ beyond isBuy limit level.px

variable [IsStrictOrderedRing Decimal] {isBuy : Bool} {limit want filled notional : Decimal}
  {level : Level Decimal} {levels rest : List (Level Decimal)}

/-! ## The excess -/

omit [LinearOrder Decimal] [IsStrictOrderedRing Decimal] in
/-- The excess over the limit adds up over parts of what is taken. -/
theorem excess_add (taken more : Decimal × Decimal) :
    excess isBuy limit (taken.1 + more.1, taken.2 + more.2) =
      excess isBuy limit taken + excess isBuy limit more := by
  rw [excess, excess, excess]
  split <;> ring

omit [LinearOrder Decimal] [IsStrictOrderedRing Decimal] in
/-- Of a size taken at one price the excess is the size times how far the price is beyond the
limit. -/
theorem excess_mul (size px : Decimal) :
    excess isBuy limit (size, size * px) = size * beyond isBuy limit px := by
  rw [excess, beyond]
  split <;> ring

omit [LinearOrder Decimal] [IsStrictOrderedRing Decimal] in
theorem excess_zero : excess isBuy limit (0, 0) = 0 := by
  rw [excess]
  split <;> simp

/-- An average keeps to the limit when nothing is in excess of it. -/
theorem keepsTo_iff (some : 0 < filled) :
    keepsTo isBuy limit (notional / filled) ↔ excess isBuy limit (filled, notional) ≤ 0 := by
  cases isBuy with
  | true => exact (div_le_iff₀ some).trans sub_nonpos.symm
  | false => exact (le_div_iff₀ some).trans sub_nonpos.symm

omit [IsStrictOrderedRing Decimal] in
/-- The excess of an order that takes the first level as a whole. -/
theorem excess_take_cons {level : Level Decimal} (here : 0 < level.sz) (past : level.sz ≤ want) :
    excess isBuy limit (take (level :: levels) want) =
      level.sz * beyond isBuy limit level.px + excess isBuy limit
        (take levels (want - level.sz)) := by
  rw [take_cons_of_ge here past, ← Prod.mk.eta (p := take levels (want - level.sz)),
    excess_add (level.sz, level.sz * level.px), excess_mul]

/-- Taking only levels beyond the limit cannot make up for any of the excess. -/
theorem excess_take_nonneg (positive : Positive levels) (past : AllBeyond isBuy limit levels)
    (some : 0 ≤ want) : 0 ≤ excess isBuy limit (take levels want) := by
  induction levels generalizing want with
  | nil => exact excess_zero.ge
  | cons level rest ih =>
      have here := positive.head.1
      have cost := past level List.mem_cons_self
      rcases some.eq_or_lt with rfl | some
      · rw [take_of_nonpos _ le_rfl, excess_zero]
      rcases le_total want level.sz with part | past'
      · rw [take_cons_of_le some part, excess_mul]
        exact mul_nonneg some.le cost
      · rw [excess_take_cons here past']
        have later := ih positive.tail
          (fun next member => past next (List.mem_cons_of_mem _ member))
          (sub_nonneg.mpr past')
        exact add_nonneg (mul_nonneg here.le cost) later

omit [IsStrictOrderedRing Decimal] in
/-- After a level beyond the limit all levels are. -/
theorem Sorted.allBeyond [IsStrictOrderedRing Decimal] (sorted : Sorted isBuy (level :: rest))
    (past : 0 ≤ beyond isBuy limit level.px) : AllBeyond isBuy limit rest := by
  intro next member
  have worse := (List.pairwise_cons.mp sorted).1 next member
  rw [beyond] at past ⊢
  cases isBuy with
  | true => exact past.trans (sub_le_sub_right worse limit)
  | false => exact past.trans (sub_le_sub_left worse limit)

/-! ## The loop -/

/-- Part of a side is what the loop finds: with what was taken before it is not in excess of the
limit, and any more is. -/
structure Finds (isBuy : Bool) (limit : Decimal) (levels : List (Level Decimal))
    (filled notional found size : Decimal) : Prop where
  nonneg : 0 ≤ size
  within : size ≤ sizeOf levels
  found : found = notional + (take levels size).2
  keeps : excess isBuy limit (filled, notional) + excess isBuy limit (take levels size) ≤ 0
  largest : ∀ want, size < want → want ≤ sizeOf levels →
    0 < excess isBuy limit (filled, notional) + excess isBuy limit (take levels want)

/-- The part of a level that fits. -/
theorem finds_part (positive : Positive (level :: rest)) (sorted : Sorted isBuy (level :: rest))
    (keeps : excess isBuy limit (filled, notional) ≤ 0)
    (past : 0 < excess isBuy limit (filled, notional) + level.sz * beyond isBuy limit level.px) :
    Finds isBuy limit (level :: rest) filled notional
      (if 0 < (limit * filled - notional) / (level.px - limit) then
        notional + min ((limit * filled - notional) / (level.px - limit)) level.sz * level.px
      else notional)
      ((limit * filled - notional) / (level.px - limit)) := by
  have here := positive.head.1
  have whole := sizeOf_nonneg positive.tail
  have size : sizeOf (level :: rest) = level.sz + sizeOf rest := List.sum_cons
  have cost : 0 < beyond isBuy limit level.px := by
    by_contra within
    have less := mul_nonpos_of_nonneg_of_nonpos here.le (not_lt.mp within)
    linarith
  -- the solution in terms of the excess and of the cost of the level
  have solved : (limit * filled - notional) / (level.px - limit) =
      -excess isBuy limit (filled, notional) / beyond isBuy limit level.px := by
    cases isBuy with
    | true =>
        change _ = -(notional - limit * filled) / (level.px - limit)
        rw [neg_sub]
    | false =>
        change _ = -(limit * filled - notional) / (limit - level.px)
        rw [← neg_sub level.px limit, neg_div_neg_eq]
  have fits : excess isBuy limit (filled, notional) +
      -excess isBuy limit (filled, notional) / beyond isBuy limit level.px *
        beyond isBuy limit level.px = 0 := by
    rw [div_mul_cancel₀ _ cost.ne']
    ring
  have nonneg : 0 ≤ -excess isBuy limit (filled, notional) / beyond isBuy limit level.px :=
    div_nonneg (neg_nonneg.mpr keeps) cost.le
  have short : -excess isBuy limit (filled, notional) / beyond isBuy limit level.px < level.sz := by
    rw [div_lt_iff₀ cost]
    linarith
  rw [solved]
  generalize -excess isBuy limit (filled, notional) / beyond isBuy limit level.px = part at *
  constructor
  case nonneg => exact nonneg
  case within => linarith
  case found =>
    split
    case isTrue some => rw [take_cons_of_le some short.le, min_eq_left short.le]
    case isFalse none => rw [take_of_nonpos _ (not_lt.mp none), add_zero]
  case keeps =>
    rcases nonneg.eq_or_lt with rfl | some
    · rw [take_of_nonpos _ le_rfl, excess_zero, add_zero]
      exact keeps
    · rw [take_cons_of_le some short.le, excess_mul, fits]
  case largest =>
    intro want more _
    rcases le_total want level.sz with inside | past
    · rw [take_cons_of_le (nonneg.trans_lt more) inside, excess_mul]
      have dearer := mul_lt_mul_of_pos_right more cost
      linarith
    · rw [excess_take_cons here past]
      have later := excess_take_nonneg positive.tail (sorted.allBeyond cost.le)
        (sub_nonneg.mpr past)
      linarith

/-- The loop finds the largest part of the side that, with what was taken before, is within the
limit. -/
theorem notionalFrom_finds (positive : Positive levels) (sorted : Sorted isBuy levels)
    (some : 0 ≤ filled) (keeps : excess isBuy limit (filled, notional) ≤ 0) :
    ∃ size, Finds isBuy limit levels filled notional
      (notionalFrom isBuy limit levels filled notional) size := by
  induction levels generalizing filled notional with
  | nil =>
      have none : excess isBuy limit (take [] 0) = 0 := excess_zero
      refine ⟨0, le_rfl, le_rfl, (add_zero notional).symm, ?_, fun want more within =>
        absurd within (not_le.mpr more)⟩
      rw [none, add_zero]
      exact keeps
  | cons level rest ih =>
      have here := positive.head.1
      have whole := sizeOf_nonneg positive.tail
      have size : sizeOf (level :: rest) = level.sz + sizeOf rest := List.sum_cons
      have next : excess isBuy limit (filled + level.sz, notional + level.sz * level.px) =
          excess isBuy limit (filled, notional) + level.sz * beyond isBuy limit level.px :=
        (excess_add (filled, notional) (level.sz, level.sz * level.px)).trans (by rw [excess_mul])
      have sum : 0 < filled + level.sz := by linarith
      rw [notionalFrom]
      dsimp only at next ⊢
      rw [if_neg (not_le.mpr sum)]
      split
      case isTrue kept =>
        -- the level as a whole, and part of the rest
        have keeps' := (keepsTo_iff sum).mp kept
        obtain ⟨part, finds⟩ := ih positive.tail (List.pairwise_cons.mp sorted).2 sum.le keeps'
        have keptPart := finds.keeps
        rw [next] at keptPart
        have nonneg := finds.nonneg
        refine ⟨level.sz + part, by linarith, ?_, ?_, ?_, fun want larger within => ?_⟩
        · rw [size]
          exact add_le_add_right finds.within _
        · rw [finds.found, take_cons_of_ge here (by linarith), add_sub_cancel_left, add_assoc]
        · rw [excess_take_cons here (by linarith), add_sub_cancel_left]
          linarith
        · have largest := finds.largest (want - level.sz) (by linarith) (by linarith)
          rw [next] at largest
          rw [excess_take_cons here (by linarith)]
          linarith
      case isFalse past =>
        rw [keepsTo_iff sum, not_le, next] at past
        have found := finds_part positive sorted keeps past
        have solved : level.px - limit ≠ 0 := by
          intro level'
          have none : beyond isBuy limit level.px = 0 := by
            rw [beyond, ← neg_sub level.px limit, level']
            split <;> simp
          rw [none, mul_zero, add_zero] at past
          exact absurd keeps (not_le.mpr past)
        rw [if_neg solved]
        exact ⟨_, found⟩

/-! ## The band -/

/-- No fill is better than the touch. -/
theorem Sorted.beyond_top (sorted : Sorted isBuy (level :: rest)) :
    AllBeyond isBuy level.px (level :: rest) := by
  have level' : 0 ≤ beyond isBuy level.px level.px := by
    rw [beyond]
    split <;> simp
  intro next member
  rcases List.mem_cons.mp member with rfl | later
  · exact level'
  · exact sorted.allBeyond level' next later

/-- The average price is in the band exactly if what is taken has no excess over the limit of the
band. -/
theorem inBand_iff (positive : Positive (level :: rest)) (sorted : Sorted isBuy (level :: rest))
    (bps : ℕ) (some : 0 < want) (filled : 0 < (take (level :: rest) want).1) :
    InBand level.px bps ((take (level :: rest) want).2 / (take (level :: rest) want).1) ↔
      excess isBuy (bandLimit isBuy level.px bps) (take (level :: rest) want) ≤ 0 := by
  have dearer := excess_take_nonneg positive sorted.beyond_top some.le
  generalize take (level :: rest) want = taken at *
  obtain ⟨size, cost⟩ := taken
  rw [← keepsTo_iff filled, InBand, abs_le, bandLimit]
  cases isBuy with
  | true =>
      have above : level.px ≤ cost / size := (le_div_iff₀ filled).mpr (sub_nonneg.mp dearer)
      have band : 0 ≤ level.px * bps / 10000 :=
        div_nonneg (mul_nonneg positive.head.2.le (Nat.cast_nonneg bps)) (by norm_num)
      change _ ↔ cost / size ≤ level.px + level.px * bps / 10000
      constructor
      · rintro ⟨-, high⟩
        linarith
      · intro high
        exact ⟨by linarith, by linarith⟩
  | false =>
      have below : cost / size ≤ level.px := (div_le_iff₀ filled).mpr (sub_nonneg.mp dearer)
      have band : 0 ≤ level.px * bps / 10000 :=
        div_nonneg (mul_nonneg positive.head.2.le (Nat.cast_nonneg bps)) (by norm_num)
      change _ ↔ level.px - level.px * bps / 10000 ≤ cost / size
      constructor
      · rintro ⟨low, -⟩
        linarith
      · intro low
        exact ⟨by linarith, by linarith⟩

/-- What is within a band is within every wider one. -/
theorem InBand.mono {top avg : Decimal} {bps wider : ℕ} (inBand : InBand top bps avg)
    (positive : 0 < top) (wide : bps ≤ wider) : InBand top wider avg := by
  have cast : (bps : Decimal) ≤ wider := Nat.cast_le.mpr wide
  have bands : top * bps / 10000 ≤ top * wider / 10000 :=
    div_le_div_of_nonneg_right (mul_le_mul_of_nonneg_left cast positive.le) (by norm_num)
  exact inBand.trans bands

/-- A notional on a side: an order takes it and fills within the band of the touch, and an order
that takes more does not. -/
structure LargestWithin (levels : List (Level Decimal)) (bps : ℕ) (notional : Decimal) : Prop where
  attained : ∃ want, 0 ≤ want ∧ want ≤ sizeOf levels ∧ (take levels want).2 = notional
  within : ∀ want, (take levels want).2 = notional → 0 < (take levels want).1 →
    ∀ top ∈ levels.head?, InBand top.px bps ((take levels want).2 / (take levels want).1)
  largest : ∀ want, notional < (take levels want).2 →
    ∀ top ∈ levels.head?, ¬ InBand top.px bps ((take levels want).2 / (take levels want).1)

/-- The notional within a band is no more than the side holds. -/
theorem LargestWithin.le_depthOf (positive : Positive levels) {bps : ℕ}
    (largest : LargestWithin levels bps notional) : notional ≤ depthOf levels := by
  obtain ⟨want, nonneg, within, rfl⟩ := largest.attained
  have less := take_snd_le positive nonneg within
  rwa [take_sizeOf positive] at less

/-- The notional within a wider band is no less. -/
theorem LargestWithin.mono (positive : Positive levels) {bps wider : ℕ} {notional' : Decimal}
    (largest : LargestWithin levels bps notional)
    (largest' : LargestWithin levels wider notional') (wide : bps ≤ wider) :
    notional ≤ notional' := by
  by_contra less
  rw [not_le] at less
  obtain ⟨want, nonneg, within, rfl⟩ := largest.attained
  cases levels with
  | nil =>
      obtain ⟨want', -, -, rfl⟩ := largest'.attained
      exact absurd less (lt_irrefl 0)
  | cons top rest =>
      have filled : 0 < (take (top :: rest) want).1 := by
        rw [take_fst positive nonneg]
        refine lt_min (nonneg.lt_of_ne ?_) (sizeOf_pos positive)
        rintro rfl
        obtain ⟨want', nonneg', -, rfl⟩ := largest'.attained
        rw [take_of_nonpos _ le_rfl] at less
        have least := take_snd_le positive le_rfl nonneg'
        rw [take_of_nonpos _ le_rfl] at least
        exact absurd less (not_lt.mpr least)
      have inBand := largest.within want rfl filled top rfl
      exact largest'.largest want less top rfl (inBand.mono positive.head.2 wide)

/-- What the loop finds for a side is the largest notional within the band. -/
theorem largestWithin (positive : Positive levels) (sorted : Sorted isBuy levels) (bps : ℕ) :
    LargestWithin levels bps (maxNotionalWithin levels isBuy bps) := by
  cases levels with
  | nil => exact ⟨⟨0, le_rfl, le_rfl, rfl⟩, nofun, nofun⟩
  | cons top rest =>
      have none : excess isBuy (bandLimit isBuy top.px bps) (0, 0) ≤ 0 := excess_zero.le
      obtain ⟨size, finds⟩ := notionalFrom_finds positive sorted le_rfl none
      have keeps := finds.keeps
      have found := finds.found
      rw [excess_zero, zero_add] at keeps
      rw [zero_add] at found
      rw [maxNotionalWithin, if_neg (not_le.mpr positive.head.2), found]
      -- an order beyond the side is the side
      have capped : ∀ want, 0 < want → ∃ part, 0 < part ∧ part ≤ sizeOf (top :: rest) ∧
          take (top :: rest) want = take (top :: rest) part := by
        intro want some
        exact ⟨min want (sizeOf (top :: rest)), lt_min some (sizeOf_pos positive),
          min_le_right _ _, (take_min positive some.le).symm⟩
      have more : ∀ want, size < want → want ≤ sizeOf (top :: rest) →
          0 < excess isBuy (bandLimit isBuy top.px bps) (take (top :: rest) want) := by
        intro want larger within
        have largest := finds.largest want larger within
        rwa [excess_zero, zero_add] at largest
      constructor
      case attained => exact ⟨size, finds.nonneg, finds.within, rfl⟩
      case within =>
        rintro want same filled _ ⟨⟩
        have some : 0 < want := by
          by_contra none
          rw [take_of_nonpos _ (not_lt.mp none)] at filled
          exact lt_irrefl _ filled
        obtain ⟨part, positive', within, eq⟩ := capped want some
        rw [eq] at same filled ⊢
        refine (inBand_iff positive sorted bps positive' filled).mpr ?_
        rcases lt_trichotomy part size with less | rfl | larger
        · have strict := take_snd_lt positive positive'.le less (less.trans_le finds.within)
          exact absurd same strict.ne
        · exact keeps
        · have strict := take_snd_lt positive finds.nonneg larger (larger.trans_le within)
          exact absurd same strict.ne'
      case largest =>
        rintro want larger _ ⟨⟩ inBand
        have some : 0 < want := by
          by_contra none
          rw [take_of_nonpos _ (not_lt.mp none)] at larger
          have least := take_snd_le positive le_rfl finds.nonneg
          rw [take_of_nonpos _ le_rfl] at least
          exact absurd larger (not_lt.mpr least)
        obtain ⟨part, positive', within, eq⟩ := capped want some
        rw [eq] at larger inBand
        have beyondSize : size < part := by
          by_contra less
          exact absurd larger (not_lt.mpr (take_snd_le positive positive'.le (not_lt.mp less)))
        have filled : 0 < (take (top :: rest) part).1 := by
          rw [take_fst positive positive'.le, min_eq_left within]
          exact positive'
        exact absurd ((inBand_iff positive sorted bps positive' filled).mp inBand)
          (not_le.mpr (more part beyondSize within))

/-- **The notional within a band of the touch is sound and maximal, it grows with the band, and it
is no more than the side holds.** No larger size averages within the band, so an operator who reads
the number can neither overshoot the band with it nor leave liquidity in it unused. -/
theorem maxNotionalWithin_spec (positive : Positive levels) (sorted : Sorted isBuy levels)
    (bps : ℕ) : LargestWithin levels bps (maxNotionalWithin levels isBuy bps) ∧
      (∀ wider, bps ≤ wider →
        maxNotionalWithin levels isBuy bps ≤ maxNotionalWithin levels isBuy wider) ∧
      maxNotionalWithin levels isBuy bps ≤ depthOf levels :=
  have largest := largestWithin positive sorted bps
  ⟨largest, fun wider wide => largest.mono positive (largestWithin positive sorted wider) wide,
    largest.le_depthOf positive⟩

/-- Three asks, of which a band of ten basis points holds the first one and part of the second. -/
def asks : List (Level ℚ) := [⟨100, 2⟩, ⟨101, 1⟩, ⟨102, 5⟩]

/-- On the side of three asks the notional of ten basis points is the largest, grows with the band
and is within the depth. -/
theorem maxNotionalWithin_asks : LargestWithin asks 10 (maxNotionalWithin asks true 10) ∧
    (∀ wider, 10 ≤ wider →
      maxNotionalWithin asks true 10 ≤ maxNotionalWithin asks true wider) ∧
    maxNotionalWithin asks true 10 ≤ depthOf asks :=
  maxNotionalWithin_spec (by decide +kernel) (by decide +kernel) 10

/-- **The band is one around the touch, and not around a mid:** with a touch of 101 and a mid of
100, what is found for fifty basis points fills a whole percent from the mid. -/
theorem band_not_of_mid : ¬ ∀ (levels : List (Level ℚ)) (isBuy : Bool) (mid : ℚ) (bps : ℕ),
    Positive levels → Sorted isBuy levels → 0 < mid → ∀ want : ℚ,
      (take levels want).2 = maxNotionalWithin levels isBuy bps → 0 < (take levels want).1 →
        InBand mid bps ((take levels want).2 / (take levels want).1) := by
  intro around
  have fill := around [⟨101, 1⟩] true 100 50 (by decide +kernel) (by decide +kernel)
    (by decide +kernel) 1 (by decide +kernel) (by decide +kernel)
  exact absurd fill (by decide +kernel)

end Oppen.Book
