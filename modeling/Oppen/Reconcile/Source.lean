import Mathlib.Data.List.Sort
import Mathlib.Data.Prod.Lex
import Oppen.Ledger.Decimal
import Oppen.Ledger.Identity

/-! # The venue as the reconciler reads it

Fills and orders as the venue reports them, and the queries the reconciler makes.
-/

namespace Oppen.Reconcile

open Oppen.Ledger

/-- `rust_decimal` with its division. -/
structure Quotients extends Decimals where
  /-- `Decimal::checked_div`. -/
  checkedDiv : Decimal → Decimal → Option Decimal

/-- Exact decimals, divided to twenty-eight digits, in place of the real ones. -/
def Quotients.reference : Quotients :=
  { Decimals.reference with
    checkedDiv := fun left right =>
      if right.coefficient = 0 then none
      else some ⟨left.coefficient * 10 ^ (28 + right.scale) /
        (right.coefficient * 10 ^ left.scale), 28⟩ }

inductive Side where
  | buy
  | sell
  deriving DecidableEq, Repr

def Side.isBuy : Side → Bool
  | .buy => true
  | .sell => false

/-- The side as fill payloads name it. -/
def sideText (side : Side) : String := if side.isBuy then "buy" else "sell"

/-- One entry of `userFills` or `userFillsByTime`; `time` is a `u64`. -/
structure Fill (dec : Quotients) where
  coin : String
  px : dec.Decimal
  sz : dec.Decimal
  side : Side
  time : Nat
  startPosition : dec.Decimal
  dir : String
  closedPnl : dec.Decimal
  hash : String
  oid : UInt64
  crossed : Bool
  fee : dec.Decimal
  feeToken : String
  builderFee : Option dec.Decimal
  tid : UInt64
  cloid : Option Cloid

/-- The key fills are sorted by. -/
def Fill.order {dec : Quotients} (fill : Fill dec) : Nat ×ₗ Nat := toLex (fill.time, fill.tid.toNat)

/-- `sort_by_key` on time and trade id, which is stable. -/
def sortFills {dec : Quotients} (fills : List (Fill dec)) : List (Fill dec) :=
  fills.insertionSort fun first second => first.order ≤ second.order

/-- Sorted fills ascend in their times. -/
theorem sortFills_sorted {dec : Quotients} (fills : List (Fill dec)) :
    (sortFills fills).Pairwise fun first second => first.time ≤ second.time := by
  have total : Std.Total fun first second : Fill dec => first.order ≤ second.order :=
    ⟨fun first second => le_total first.order second.order⟩
  have transitive : IsTrans (Fill dec) fun first second => first.order ≤ second.order :=
    ⟨fun _ _ _ => le_trans⟩
  refine (List.pairwise_insertionSort _ fills).imp fun {first second} before => ?_
  rcases Prod.Lex.toLex_le_toLex.mp before with earlier | ⟨same, _⟩
  · exact le_of_lt earlier
  · exact le_of_eq same

/-- Sorting keeps the fills. -/
theorem mem_sortFills {dec : Quotients} {fills : List (Fill dec)} {fill : Fill dec} :
    fill ∈ sortFills fills ↔ fill ∈ fills :=
  List.mem_insertionSort _

/-- What the reconciler reads of a resting order. -/
structure OpenOrder where
  cloid : Option Cloid
  deriving DecidableEq

/-- What the reconciler reads of an order's state. -/
inductive OrderStatusResponse where
  | order (oid : UInt64) (status : String) (statusTimestamp : UInt64)
  | unknownOid
  deriving DecidableEq

/-- What can go wrong reconciling. -/
inductive ReconcileError (VenueError : Type) where
  | feedScopeMismatch
  | feedIngressUnavailable
  | ledger (error : LedgerError)
  | venue (error : VenueError)
  | pageStalled (atMs rows : Nat)
  | tooManyPages (startMs maxPages : Nat)
  | unusableWindow (gapId : Int) (startMs endMs : Int64)
  | networkMismatch (ledger venue : Network)
  | timestampOutOfRange (time : Nat)
  | unreadableScope (scope : String)

/-- The venue reads the reconciler needs. What the venue answers may change from query to
query, so each is a step of the source. -/
structure ReconcileSource (dec : Quotients) (VenueError : Type) where
  State : Type
  network : Network
  userFillsByTime : Address → (startMs : Nat) → (endMs : Option Nat) → State →
    Except VenueError (List (Fill dec)) × State
  frontendOpenOrders : Address → State → Except VenueError (List OpenOrder) × State
  /-- One order's state by client id. -/
  orderStatus : Address → Cloid → State → Except VenueError OrderStatusResponse × State

/-- The page budget of one window and the rows of a full page. -/
structure ReconcileConfig where
  maxPages : Nat
  pageLimit : Nat
  deriving DecidableEq, Repr

/-- `USER_FILLS_PAGE_LIMIT` and `DEFAULT_MAX_PAGES`. -/
def ReconcileConfig.default : ReconcileConfig := ⟨512, 2000⟩

end Oppen.Reconcile
