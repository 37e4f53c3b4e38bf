import Oppen.Reconcile.Backfill

/-! # A truthful venue

A venue whose stamps are true: what appears later is stamped no earlier than what is there.
It may refuse any request, and others ask it too. A page it answers moves a walk on as a page
of a venue that answers every request.
-/

namespace Oppen.Reconcile

open Oppen.Ledger

variable {dec : Quotients} {VenueError : Type}

/-- Fills were added, none of them stamped before one that was there. -/
structure Later (before after : List (Fill dec)) : Prop where
  keeps : before ⊆ after
  added : ∀ fill ∈ after, fill ∈ before ∨ ∀ older ∈ before, older.time ≤ fill.time

theorem Later.refl (fills : List (Fill dec)) : Later fills fills :=
  ⟨fun _ => id, fun _ => .inl⟩

/-- The venue was asked something. Each question may find it grown. -/
inductive Asks (source : ReconcileSource dec VenueError) (state : source.State) :
    source.State → Prop
  | fills (user : Address) (startMs : Nat) (endMs : Option Nat) :
      Asks source state (source.userFillsByTime user startMs endMs state).2
  | orders (user : Address) : Asks source state (source.frontendOpenOrders user state).2
  | status (user : Address) (cloid : Cloid) :
      Asks source state (source.orderStatus user cloid state).2

/-- A venue's fills of one account, oldest first up to a limit when it answers. -/
structure TruthfulVenue (source : ReconcileSource dec VenueError) (account : Address)
    (limit : Nat) where
  fills : source.State → List (Fill dec)
  sorted : ∀ state, (fills state).Pairwise fun first second => first.time ≤ second.time
  answers : ∀ startMs state page after,
    source.userFillsByTime account startMs none state = (.ok page, after) →
      page = oldestFrom limit startMs (fills after)
  grows : ∀ before after, Asks source before after → Later (fills before) (fills after)

namespace TruthfulVenue

variable {source : ReconcileSource dec VenueError} {account : Address} {limit : Nat}
  (venue : TruthfulVenue source account limit)

/-- The stamp is one of the venue's, or older than one, or none at all. -/
def Reached (state : source.State) (stamp : Nat) : Prop :=
  stamp = 0 ∨ ∃ fill ∈ venue.fills state, stamp ≤ fill.time

/-- What was reached is reached after one more page, while the venue grows. -/
theorem Reached.page {before after : source.State} {newest startMs : Nat}
    (reached : venue.Reached before newest)
    (later : Later (venue.fills before) (venue.fills after)) :
    venue.Reached after (newestOf newest (oldestFrom limit startMs (venue.fills after))) := by
  rcases newestOf_attained newest (oldestFrom limit startMs (venue.fills after)) with
    same | ⟨fill, member, same⟩
  · rw [same]
    exact reached.imp_right fun ⟨fill, member, bound⟩ => ⟨fill, later.keeps member, bound⟩
  · exact .inr ⟨fill, List.mem_of_mem_filter (List.mem_of_mem_take member), same.le⟩

/-- The venue with every request answered; its state carries the newest stamp it served. -/
def answering : ReconcileSource dec VenueError where
  State := { held : source.State × Nat // venue.Reached held.1 held.2 }
  network := source.network
  userFillsByTime user startMs endMs held :=
    let after := (source.userFillsByTime user startMs endMs held.1.1).2
    let page := oldestFrom limit startMs (venue.fills after)
    (.ok page, ⟨(after, newestOf held.1.2 page),
      Reached.page venue held.2 (venue.grows _ _ (.fills user startMs endMs))⟩)
  frontendOpenOrders _ held := (.ok [], held)
  orderStatus _ _ held := (.ok .unknownOid, held)

def oldestFirst : OldestFirst venue.answering account limit where
  fills held := venue.fills held.1.1
  newestServed held := held.1.2
  sorted held := venue.sorted held.1.1
  answers _ _ := rfl
  serves _ _ := rfl
  keeps startMs held := (venue.grows _ _ (.fills account startMs none)).keeps
  grows startMs held fill member := by
    rcases (venue.grows held.1.1 _ (.fills account startMs none)).added fill member with
      older | above
    · exact .inl older
    · right
      rcases held.2 with none | ⟨served, inside, bound⟩
      · exact none.trans_le (Nat.zero_le _)
      · exact bound.trans (above served inside)

/-- A walk of the account's fills stands here: what is behind its cursor is kept. -/
def Paged (startMs : Nat) (taken : Taken dec) (state : source.State) : Prop :=
  ∃ held : venue.answering.State, held.1.1 = state ∧
    Walked venue.oldestFirst startMs taken.newest taken held

variable {venue} {startMs : Nat} {taken : Taken dec} {state after : source.State}

/-- A walk that begins has paged nothing. -/
theorem Paged.start (startMs : Nat) (state : source.State) :
    venue.Paged startMs ⟨startMs, [], []⟩ state := by
  refine ⟨⟨(state, 0), .inl rfl⟩, rfl, le_rfl, .inl rfl, rfl, ⟨fun _ => Iff.rfl, List.nodup_nil⟩,
    fun _ _ within behind => absurd within (Nat.not_le.mpr behind), ?_⟩
  exact fun _ member => absurd member List.not_mem_nil

/-- What the venue adds meanwhile lies ahead of the cursor. -/
theorem Paged.later (paged : venue.Paged startMs taken state)
    (later : Later (venue.fills state) (venue.fills after)) : venue.Paged startMs taken after := by
  obtain ⟨held, rfl, walked⟩ := paged
  have reached : venue.Reached after held.1.2 := held.2.imp_right
    fun ⟨fill, member, bound⟩ => ⟨fill, later.keeps member, bound⟩
  refine ⟨⟨(after, held.1.2), reached⟩, rfl, walked.forward, walked.served, rfl, walked.sound,
    fun fill member within behind => ?_, fun fill member => ?_⟩
  · rcases later.added fill member with older | above
    · exact walked.behind fill older within behind
    · rcases walked.served with same | served
      · exact absurd within (by omega)
      · rcases held.2 with none | ⟨newest, inside, bound⟩
        · have zero : venue.oldestFirst.newestServed held = 0 := none
          omega
        · have past := above newest inside
          have stamp : taken.newest ≤ held.1.2 := served
          omega
  · obtain ⟨inside, within⟩ := walked.genuine fill member
    exact ⟨later.keeps inside, within⟩

section Page

variable {page : List (Fill dec)} (paged : venue.Paged startMs taken state)
  (answer : source.userFillsByTime account taken.newest none state = (.ok page, after))

include paged answer

/-- The page is one of the answering venue. -/
theorem Paged.asked : ∃ held held' : venue.answering.State, held.1.1 = state ∧ held'.1.1 = after ∧
    (venue.answering.userFillsByTime account taken.newest none held).2 = held' ∧
    oldestFrom limit taken.newest (venue.oldestFirst.fills held') = page ∧
    Walked venue.oldestFirst startMs taken.newest taken held := by
  obtain ⟨held, rfl, walked⟩ := paged
  have reached : (source.userFillsByTime account taken.newest none held.1.1).2 = after := by
    rw [answer]
  refine ⟨held, _, rfl, reached, rfl, ?_, walked⟩
  rw [venue.answers taken.newest held.1.1 page after answer, ← reached]
  rfl

/-- A short page ends a walk that has every fill from its start. -/
theorem Paged.short (short : page.length < limit) :
    Complete (venue.fills after) startMs (page.foldl Taken.take taken).out := by
  obtain ⟨held, held', _, rfl, next, answered, walked⟩ := paged.asked answer
  exact walked.short next answered short

/-- A full page past the cursor moves it on. -/
theorem Paged.full (past : taken.newest < (page.foldl Taken.take taken).newest) :
    venue.Paged startMs (page.foldl Taken.take taken) after := by
  obtain ⟨held, held', _, rfl, next, answered, walked⟩ := paged.asked answer
  exact ⟨held', rfl, walked.full next answered past⟩

end Page

end TruthfulVenue

/-- The fake venue is truthful: it never grows. -/
def FakeVenue.truthful (venue : FakeVenue dec) (VenueError : Type) (account : Address) :
    TruthfulVenue (venue.source VenueError) account venue.pageLimit where
  fills _ := sortFills (venue.fills account)
  sorted := (venue.oldestFirst VenueError account).sorted
  answers startMs state page after answer := by
    have answered := (venue.oldestFirst VenueError account).answers startMs state
    rw [answer] at answered
    exact Except.ok.inj answered
  grows _ _ _ := .refl _

end Oppen.Reconcile
