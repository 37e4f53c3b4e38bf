import Mathlib.Data.List.Nodup
import Oppen.Reconcile.Source

/-! # Walking the fills from an instant

The walk asks page after page from the newest timestamp it was served. Against a venue
that answers with its oldest fills and grows only past what it served, a walk that ends
has every fill from its start.
-/

namespace Oppen.Reconcile

open Oppen.Ledger

section Walk

variable {dec : Quotients} {VenueError : Type} (source : ReconcileSource dec VenueError)

/-- What the loop carries: the newest timestamp, the trade ids seen and the fills kept. -/
structure Taken (dec : Quotients) where
  newest : Nat
  seen : List UInt64
  out : List (Fill dec)

/-- One fill of a page. -/
def Taken.take (taken : Taken dec) (fill : Fill dec) : Taken dec :=
  let newest := max taken.newest fill.time
  if fill.tid ∈ taken.seen then { taken with newest }
  else ⟨newest, fill.tid :: taken.seen, taken.out ++ [fill]⟩

/-- The loop, with the pages it may still ask for. -/
def walkPages (user : Address) (startMs : Nat) (config : ReconcileConfig) :
    (budget cursor : Nat) → List UInt64 → List (Fill dec) → source.State →
      Except (ReconcileError VenueError) (List (Fill dec) × Nat) × source.State
  | 0, _, _, _, state => (.error (.tooManyPages startMs config.maxPages), state)
  | budget + 1, cursor, seen, out, state =>
      match source.userFillsByTime user cursor none state with
      | (.error error, state) => (.error (.venue error), state)
      | (.ok page, state) =>
          let taken := page.foldl Taken.take ⟨cursor, seen, out⟩
          -- a short page is everything the venue has
          if page.length < config.pageLimit then (.ok (taken.out, config.maxPages - budget), state)
          else if taken.newest ≤ cursor then (.error (.pageStalled cursor page.length), state)
          else walkPages user startMs config budget taken.newest taken.seen taken.out state

/-- `backfill_fills`: every distinct fill from an instant on, and the pages it took. -/
def backfillFills (user : Address) (startMs : Nat) (config : ReconcileConfig)
    (state : source.State) :
    Except (ReconcileError VenueError) (List (Fill dec) × Nat) × source.State :=
  walkPages source user startMs config config.maxPages startMs [] [] state

end Walk

/-! ## A venue that answers with its oldest fills -/

section Venue

variable {dec : Quotients} {VenueError : Type}

/-- The newest timestamp of a page, or the one before it. -/
def newestOf (newest : Nat) (page : List (Fill dec)) : Nat :=
  page.foldl (fun newest fill => max newest fill.time) newest

/-- The oldest fills stamped at or after an instant. -/
def oldestFrom (limit startMs : Nat) (fills : List (Fill dec)) : List (Fill dec) :=
  (fills.filter fun fill => startMs ≤ fill.time).take limit

/-- A venue's view of one account: its fills sorted by time, answered oldest first up to
a limit, and growing only by fills stamped no earlier than the newest one served. -/
structure OldestFirst (source : ReconcileSource dec VenueError) (user : Address)
    (limit : Nat) where
  fills : source.State → List (Fill dec)
  newestServed : source.State → Nat
  sorted : ∀ state, (fills state).Pairwise fun first second => first.time ≤ second.time
  answers : ∀ startMs state, (source.userFillsByTime user startMs none state).1 =
    .ok (oldestFrom limit startMs (fills (source.userFillsByTime user startMs none state).2))
  serves : ∀ startMs state, newestServed (source.userFillsByTime user startMs none state).2 =
    newestOf (newestServed state)
      (oldestFrom limit startMs (fills (source.userFillsByTime user startMs none state).2))
  keeps : ∀ startMs state,
    fills state ⊆ fills (source.userFillsByTime user startMs none state).2
  grows : ∀ startMs state, ∀ fill ∈ fills (source.userFillsByTime user startMs none state).2,
    fill ∈ fills state ∨ newestServed state ≤ fill.time

variable {source : ReconcileSource dec VenueError} {user : Address} {limit : Nat}

/-- The source after these requests. -/
def asked (source : ReconcileSource dec VenueError) (user : Address) (starts : List Nat)
    (state : source.State) : source.State :=
  starts.foldl (fun state startMs => (source.userFillsByTime user startMs none state).2) state

/-- The fills from an instant on, each trade once. A fill is left out only for another one
of the venue under its trade id. -/
structure Complete (fills : List (Fill dec)) (startMs : Nat) (out : List (Fill dec)) :
    Prop where
  listed : ∀ fill ∈ fills, startMs ≤ fill.time → ∃ held ∈ out, held.tid = fill.tid
  distinct : (out.map Fill.tid).Nodup
  genuine : ∀ fill ∈ out, fill ∈ fills ∧ startMs ≤ fill.time

/-- Where trade ids tell fills apart, the result is exactly the fills from the start. -/
theorem Complete.mem_iff {fills out : List (Fill dec)} {startMs : Nat}
    (complete : Complete fills startMs out)
    (identified : ∀ first ∈ fills, ∀ second ∈ fills, first.tid = second.tid → first = second)
    {fill : Fill dec} : fill ∈ out ↔ fill ∈ fills ∧ startMs ≤ fill.time := by
  constructor
  · exact complete.genuine fill
  · rintro ⟨member, within⟩
    obtain ⟨held, inside, same⟩ := complete.listed fill member within
    rw [← identified held (complete.genuine held inside).1 fill member same]
    exact inside

/-- How a walk can end, after these requests. A walk that fails leaves the requests it made, and no
fills. -/
inductive Outcome (venue : OldestFirst source user limit) (startMs maxPages : Nat)
    (requests : List Nat) (last : source.State) :
    Except (ReconcileError VenueError) (List (Fill dec) × Nat) → Prop
  | complete {out : List (Fill dec)} (complete : Complete (venue.fills last) startMs out) :
      Outcome venue startMs maxPages requests last (.ok (out, requests.length))
  | tooManyPages (spent : requests.length = maxPages) :
      Outcome venue startMs maxPages requests last (.error (.tooManyPages startMs maxPages))
  | pageStalled {cursor : Nat} (asked : requests.getLast? = some cursor)
      (full : (oldestFrom limit cursor (venue.fills last)).length = limit)
      (within : ∀ fill ∈ oldestFrom limit cursor (venue.fills last), fill.time = cursor) :
      Outcome venue startMs maxPages requests last (.error (.pageStalled cursor limit))

/-! ## One page -/

/-- The newest time of a page is at least that of each fill, and of what was newest before. -/
theorem newestOf_bounds (newest : Nat) (page : List (Fill dec)) :
    newest ≤ newestOf newest page ∧ ∀ fill ∈ page, fill.time ≤ newestOf newest page := by
  induction page generalizing newest with
  | nil => exact ⟨le_rfl, nofun⟩
  | cons fill rest ih =>
      obtain ⟨before, within⟩ := ih (max newest fill.time)
      refine ⟨(le_max_left _ _).trans before, fun held member => ?_⟩
      rcases List.mem_cons.mp member with rfl | later
      · exact (le_max_right _ _).trans before
      · exact within held later

/-- The newest time is that of a fill, or of what was newest before. -/
theorem newestOf_attained (newest : Nat) (page : List (Fill dec)) :
    newestOf newest page = newest ∨ ∃ fill ∈ page, newestOf newest page = fill.time := by
  induction page generalizing newest with
  | nil => exact .inl rfl
  | cons fill rest ih =>
      change newestOf (max newest fill.time) rest = newest ∨
        ∃ held ∈ fill :: rest, newestOf (max newest fill.time) rest = held.time
      rcases ih (max newest fill.time) with same | ⟨held, member, same⟩
      · rw [same]
        rcases max_choice newest fill.time with older | newer
        · exact .inl older
        · exact .inr ⟨fill, List.mem_cons_self, newer⟩
      · exact .inr ⟨held, List.mem_cons_of_mem _ member, same⟩

/-- The trade ids seen are those kept, once each. -/
structure Taken.Sound (taken : Taken dec) : Prop where
  seen : ∀ tid, tid ∈ taken.seen ↔ tid ∈ taken.out.map Fill.tid
  distinct : (taken.out.map Fill.tid).Nodup

/-- What taking fills leaves. -/
structure Takes (taken : Taken dec) (page : List (Fill dec)) (after : Taken dec) : Prop where
  sound : after.Sound
  newest : after.newest = newestOf taken.newest page
  keeps : taken.out ⊆ after.out
  takes : ∀ fill ∈ page, ∃ held ∈ after.out, held.tid = fill.tid
  only : ∀ held ∈ after.out, held ∈ taken.out ∨ held ∈ page

/-- Taking one fill keeps what was taken free of repetition, and adds the fill if it is new. -/
theorem Taken.Sound.take {taken : Taken dec} (sound : taken.Sound) (fill : Fill dec) :
    Takes taken [fill] (taken.take fill) := by
  unfold Taken.take
  by_cases seen : fill.tid ∈ taken.seen
  · rw [if_pos seen]
    obtain ⟨held, member, same⟩ := List.mem_map.mp ((sound.seen _).mp seen)
    refine ⟨⟨sound.seen, sound.distinct⟩, rfl, fun _ => id, ?_, fun _ => .inl⟩
    intro other here
    rw [List.mem_singleton.mp here]
    exact ⟨held, member, same⟩
  · rw [if_neg seen]
    have fresh : fill.tid ∉ taken.out.map Fill.tid := fun listed => seen ((sound.seen _).mpr listed)
    refine ⟨⟨fun tid => ?_, ?_⟩, rfl, List.subset_append_left _ _, ?_, fun _ => List.mem_append.mp⟩
    · simp only [List.mem_cons, sound.seen, List.map_append, List.map_cons, List.map_nil,
        List.mem_append, List.not_mem_nil, or_false]
      exact or_comm
    · rw [List.map_append]
      refine List.nodup_append.mpr ⟨sound.distinct, List.nodup_singleton fill.tid, ?_⟩
      intro tid listed other here same
      rw [List.mem_singleton.mp here] at same
      exact fresh (same ▸ listed)
    · intro other here
      exact ⟨fill, List.mem_append_right _ (List.mem_singleton_self _),
        congrArg Fill.tid (List.mem_singleton.mp here).symm⟩

/-- Taking a page takes each of its fills once. -/
theorem Taken.Sound.foldl {taken : Taken dec} (sound : taken.Sound) (page : List (Fill dec)) :
    Takes taken page (page.foldl Taken.take taken) := by
  induction page generalizing taken with
  | nil => exact ⟨sound, rfl, fun _ => id, nofun, fun _ => .inl⟩
  | cons fill rest ih =>
      have first := sound.take fill
      have later := ih first.sound
      refine ⟨later.sound, ?_, fun _ held => later.keeps (first.keeps held), fun other member => ?_,
        fun held member => ?_⟩
      · rw [List.foldl_cons, later.newest, first.newest]
        rfl
      · rcases List.mem_cons.mp member with rfl | after
        · obtain ⟨held, inside, same⟩ := first.takes other (List.mem_singleton_self _)
          exact ⟨held, later.keeps inside, same⟩
        · exact later.takes other after
      · rcases later.only held member with before | after
        · rcases first.only held before with older | here
          · exact .inl older
          · rw [List.mem_singleton.mp here]
            exact .inr List.mem_cons_self
        · exact .inr (List.mem_cons_of_mem _ after)

/-- A fill from the instant on that a page leaves out is no older than any it has. -/
theorem time_le_of_left_out {fills : List (Fill dec)} {startMs : Nat}
    (sorted : fills.Pairwise fun first second => first.time ≤ second.time) {left : Fill dec}
    (member : left ∈ fills) (within : startMs ≤ left.time)
    (out : left ∉ oldestFrom limit startMs fills) :
    ∀ served ∈ oldestFrom limit startMs fills, served.time ≤ left.time := by
  have candidate : left ∈ fills.filter fun fill => startMs ≤ fill.time :=
    List.mem_filter.mpr ⟨member, decide_eq_true within⟩
  have ordered := sorted.filter fun fill => startMs ≤ fill.time
  rw [← List.take_append_drop limit (fills.filter fun fill => startMs ≤ fill.time)]
    at candidate ordered
  rcases List.mem_append.mp candidate with inside | after
  · exact absurd inside out
  · exact fun served here => (List.pairwise_append.mp ordered).2.2 served here left after

/-! ## The walk -/

/-- What holds at the head of the loop: every fill behind the cursor is kept. -/
structure Walked (venue : OldestFirst source user limit) (startMs cursor : Nat)
    (taken : Taken dec) (state : source.State) : Prop where
  forward : startMs ≤ cursor
  served : cursor = startMs ∨ cursor ≤ venue.newestServed state
  newest : taken.newest = cursor
  sound : taken.Sound
  behind : ∀ fill ∈ venue.fills state, startMs ≤ fill.time → fill.time < cursor →
    ∃ held ∈ taken.out, held.tid = fill.tid
  genuine : ∀ held ∈ taken.out, held ∈ venue.fills state ∧ startMs ≤ held.time

variable {venue : OldestFirst source user limit} {startMs cursor : Nat} {taken : Taken dec}
  {state : source.State}

/-- Every fill that is in the page or behind the cursor is kept once the page is taken,
whatever the venue added meanwhile. -/
theorem Walked.page (walked : Walked venue startMs cursor taken state) {after : source.State}
    (next : (source.userFillsByTime user cursor none state).2 = after) {page : List (Fill dec)}
    (answered : oldestFrom limit cursor (venue.fills after) = page) :
    Takes taken page (page.foldl Taken.take taken) ∧
      (∀ fill ∈ venue.fills after, startMs ≤ fill.time → fill.time < cursor ∨ fill ∈ page →
        ∃ held ∈ (page.foldl Taken.take taken).out, held.tid = fill.tid) ∧
      ∀ held ∈ (page.foldl Taken.take taken).out, held ∈ venue.fills after ∧
        startMs ≤ held.time := by
  have takes := walked.sound.foldl page
  have keeps := venue.keeps cursor state
  have grows := venue.grows cursor state
  rw [next] at keeps grows
  refine ⟨takes, fun fill member within reached => ?_, fun held member => ?_⟩
  · rcases reached with behind | here
    · rcases grows fill member with older | late
      · obtain ⟨held, inside, same⟩ := walked.behind fill older within behind
        exact ⟨held, takes.keeps inside, same⟩
      · -- the venue adds nothing behind what it served
        rcases walked.served with same | served
        · omega
        · omega
    · exact takes.takes fill here
  · rcases takes.only held member with older | here
    · obtain ⟨inside, within⟩ := walked.genuine held older
      exact ⟨keeps inside, within⟩
    · rw [← answered] at here
      obtain ⟨inside, within⟩ := List.mem_filter.mp (List.mem_of_mem_take here)
      exact ⟨inside, walked.forward.trans (of_decide_eq_true within)⟩

/-- A page shorter than the limit ends a complete walk. -/
theorem Walked.short (walked : Walked venue startMs cursor taken state) {after : source.State}
    (next : (source.userFillsByTime user cursor none state).2 = after) {page : List (Fill dec)}
    (answered : oldestFrom limit cursor (venue.fills after) = page) (short : page.length < limit) :
    Complete (venue.fills after) startMs (page.foldl Taken.take taken).out := by
  obtain ⟨takes, kept, genuine⟩ := walked.page next answered
  refine ⟨fun fill member within => kept fill member within ?_, takes.sound.distinct, genuine⟩
  by_cases behind : fill.time < cursor
  · exact .inl behind
  · right
    have candidate : fill ∈ (venue.fills after).filter fun fill => cursor ≤ fill.time :=
      List.mem_filter.mpr ⟨member, decide_eq_true (Nat.not_lt.mp behind)⟩
    rw [← answered, oldestFrom, List.length_take] at short
    rw [← answered, oldestFrom, List.take_of_length_le (by omega)]
    exact candidate

/-- A full page that reaches past the cursor moves it to its newest fill. -/
theorem Walked.full (walked : Walked venue startMs cursor taken state) {after : source.State}
    (next : (source.userFillsByTime user cursor none state).2 = after) {page : List (Fill dec)}
    (answered : oldestFrom limit cursor (venue.fills after) = page)
    (past : cursor < (page.foldl Taken.take taken).newest) :
    Walked venue startMs (page.foldl Taken.take taken).newest (page.foldl Taken.take taken)
      after := by
  obtain ⟨takes, kept, genuine⟩ := walked.page next answered
  have newest := takes.newest
  rw [walked.newest] at newest
  obtain ⟨last, member, reached⟩ : ∃ last ∈ page,
      (page.foldl Taken.take taken).newest = last.time := by
    rcases newestOf_attained cursor page with same | found
    · omega
    · rwa [← newest] at found
  refine ⟨walked.forward.trans past.le, .inr ?_, rfl, takes.sound,
    fun fill inside within behind => ?_,
    genuine⟩
  · have served := venue.serves cursor state
    rw [next, answered] at served
    rw [served, reached]
    exact (newestOf_bounds _ page).2 last member
  · refine kept fill inside within ?_
    by_cases before : fill.time < cursor
    · exact .inl before
    · by_contra missing
      rw [not_or] at missing
      rw [← answered] at missing member
      have := time_le_of_left_out (venue.sorted after) inside (Nat.not_lt.mp before) missing.2 last
        member
      omega

/-- What a walk answers after its pages: every fill of the window, or that its budget is spent. -/
theorem walkPages_outcome {maxPages : Nat} {requests : List Nat} {initial : source.State}
    {budget : Nat} (spent : requests.length + budget = maxPages)
    (reached : state = asked source user requests initial)
    (walked : Walked venue startMs cursor taken state) :
    ∃ requests, requests.length ≤ maxPages ∧
      (walkPages source user startMs ⟨maxPages, limit⟩ budget cursor taken.seen taken.out state).2 =
        asked source user requests initial ∧
      Outcome venue startMs maxPages requests (asked source user requests initial)
        (walkPages source user startMs ⟨maxPages, limit⟩ budget cursor taken.seen taken.out
          state).1 := by
  induction budget generalizing requests state cursor taken with
  | zero => exact ⟨requests, by omega, reached, .tooManyPages (by omega)⟩
  | succ budget ih =>
      have requested : asked source user (requests ++ [cursor]) initial =
          (source.userFillsByTime user cursor none state).2 := by
        rw [asked, List.foldl_append, reached]
        rfl
      have length : (requests ++ [cursor]).length = requests.length + 1 := List.length_append
      have answer := venue.answers cursor state
      cases asking : source.userFillsByTime user cursor none state with
      | mk response after =>
          rw [asking] at answer requested
          change response = .ok (oldestFrom limit cursor (venue.fills after)) at answer
          subst answer
          have next : (source.userFillsByTime user cursor none state).2 = after := by rw [asking]
          have started : (⟨cursor, taken.seen, taken.out⟩ : Taken dec) = taken := by
            rw [← walked.newest]
          simp only [walkPages, asking, started]
          by_cases short : (oldestFrom limit cursor (venue.fills after)).length < limit
          · rw [if_pos short]
            refine ⟨requests ++ [cursor], by omega, requested.symm, ?_⟩
            have pages : maxPages - budget = (requests ++ [cursor]).length := by omega
            rw [pages, requested]
            exact .complete (walked.short next rfl short)
          · rw [if_neg short]
            have full : (oldestFrom limit cursor (venue.fills after)).length = limit := by
              rw [oldestFrom, List.length_take] at short ⊢
              omega
            by_cases stalled : ((oldestFrom limit cursor (venue.fills after)).foldl Taken.take
                taken).newest ≤ cursor
            · rw [if_pos stalled, full]
              refine ⟨requests ++ [cursor], by omega, requested.symm, ?_⟩
              rw [requested]
              refine .pageStalled List.getLast?_concat full fun fill member => ?_
              have newest := (walked.page next rfl).1.newest
              have bound := (newestOf_bounds taken.newest _).2 fill member
              have above := of_decide_eq_true (List.mem_filter.mp (List.mem_of_mem_take member)).2
              exact le_antisymm (bound.trans (newest.symm.trans_le stalled)) above
            · rw [if_neg stalled]
              exact ih (by omega) requested.symm (walked.full next rfl (Nat.not_le.mp stalled))

/-- **Backfill completeness.** The walk ends within its budget. When it succeeds it has
every fill from its start that the venue held at its last answer, each trade once and
nothing older; else it spent its budget, or a full page lies in the cursor's millisecond. -/
theorem backfillFills_complete {dec : Quotients} {VenueError : Type}
    (source : ReconcileSource dec VenueError) (user : Address) (config : ReconcileConfig)
    (venue : OldestFirst source user config.pageLimit) (startMs : Nat) (state : source.State) :
    ∃ requests : List Nat, requests.length ≤ config.maxPages ∧
      (backfillFills source user startMs config state).2 = asked source user requests state ∧
      Outcome venue startMs config.maxPages requests (asked source user requests state)
        (backfillFills source user startMs config state).1 := by
  have walked : Walked venue startMs startMs ⟨startMs, [], []⟩ state :=
    ⟨le_rfl, .inl rfl, rfl, ⟨fun _ => Iff.rfl, List.nodup_nil⟩, fun _ _ _ _ => by omega, nofun⟩
  have unspent : ([] : List Nat).length + config.maxPages = config.maxPages := Nat.zero_add _
  exact walkPages_outcome unspent rfl walked

end Venue

/-! ## The venue of the tests -/

section FakeVenue

variable {dec : Quotients}

/-- A venue whose fills do not change: it filters, sorts and cuts. -/
structure FakeVenue (dec : Quotients) where
  network : Network
  fills : Address → List (Fill dec)
  openOrders : List OpenOrder
  statuses : Cloid → Option OrderStatusResponse
  pageLimit : Nat

/-- The answers of the fake venue; its state is the log of fill requests. -/
def FakeVenue.source (venue : FakeVenue dec) (VenueError : Type) :
    ReconcileSource dec VenueError where
  State := List (Nat × Option Nat)
  network := venue.network
  userFillsByTime user startMs endMs log :=
    let rows := (venue.fills user).filter fun fill =>
      startMs ≤ fill.time && endMs.all (fill.time ≤ ·)
    (.ok ((sortFills rows).take venue.pageLimit), log ++ [(startMs, endMs)])
  frontendOpenOrders _ log := (.ok venue.openOrders, log)
  orderStatus _ cloid log := (.ok ((venue.statuses cloid).getD .unknownOid), log)

/-- Filtering an insertion into a sorted list inserts into what is filtered. -/
theorem filter_orderedInsert {Entry : Type} {before : Entry → Entry → Prop}
    [DecidableRel before] [Std.Total before] [IsTrans Entry before] (keep : Entry → Bool)
    (entry : Entry) {entries : List Entry} (sorted : entries.Pairwise before) :
    (entries.orderedInsert before entry).filter keep =
      if keep entry then (entries.filter keep).orderedInsert before entry
      else entries.filter keep := by
  induction entries with
  | nil => cases kept : keep entry <;> simp [kept]
  | cons first rest ih =>
      obtain ⟨least, sorted⟩ := List.pairwise_cons.mp sorted
      rw [List.orderedInsert_cons]
      by_cases here : before entry first
      · have all : ∀ other ∈ (first :: rest).filter keep, before entry other := by
          intro other member
          rcases List.mem_cons.mp (List.mem_filter.mp member).1 with rfl | later
          · exact here
          · exact trans_of before here (least other later)
        rw [if_pos here, List.filter_cons]
        cases keep entry with
        | false => rfl
        | true =>
            simp only [if_true]
            cases kept : (first :: rest).filter keep with
            | nil => rfl
            | cons head tail =>
                rw [kept] at all
                exact (List.orderedInsert_cons_of_le _ tail (all head List.mem_cons_self)).symm
      · rw [if_neg here, List.filter_cons, ih sorted]
        cases kept : keep first with
        | false => simp [kept]
        | true => cases keep entry <;> simp [kept, here]

/-- Sorting what is kept is keeping of what is sorted. -/
theorem filter_sortFills (keep : Fill dec → Bool) (fills : List (Fill dec)) :
    (sortFills fills).filter keep = sortFills (fills.filter keep) := by
  have total : Std.Total fun first second : Fill dec => first.order ≤ second.order :=
    ⟨fun first second => le_total first.order second.order⟩
  have transitive : IsTrans (Fill dec) fun first second => first.order ≤ second.order :=
    ⟨fun _ _ _ => le_trans⟩
  induction fills with
  | nil => rfl
  | cons fill rest ih =>
      rw [sortFills, List.insertionSort_cons,
        filter_orderedInsert keep fill (List.pairwise_insertionSort _ rest), List.filter_cons]
      change (if keep fill then List.orderedInsert _ fill ((sortFills rest).filter keep) else
        (sortFills rest).filter keep) = _
      rw [ih]
      cases keep fill <;> rfl

/-- The fake venue answers as a venue that never grows. -/
def FakeVenue.oldestFirst (venue : FakeVenue dec) (VenueError : Type) (user : Address) :
    OldestFirst (venue.source VenueError) user venue.pageLimit where
  fills _ := sortFills (venue.fills user)
  newestServed _ := newestOf 0 (venue.fills user)
  sorted _ := sortFills_sorted _
  answers startMs state := by
    simp only [source, Option.all_none, Bool.and_true, oldestFrom, filter_sortFills]
  serves startMs state := by
    refine le_antisymm (newestOf_bounds _ _).1 ?_
    rcases newestOf_attained (newestOf 0 (venue.fills user))
      (oldestFrom venue.pageLimit startMs (sortFills (venue.fills user))) with
        same | ⟨fill, member, same⟩
    · exact same.le
    · refine same.le.trans ((newestOf_bounds 0 (venue.fills user)).2 fill ?_)
      exact mem_sortFills.mp (List.mem_filter.mp (List.mem_of_mem_take member)).1
  keeps _ _ _ := id
  grows _ _ _ := .inl

end FakeVenue

/-! ## A venue that grows during the walk -/

namespace GrowingVenue

/-- The trades of one account, one each ten milliseconds. -/
def trade (count : Nat) : Fill Quotients.reference where
  coin := "BTC"
  px := ⟨10, 0⟩
  sz := ⟨1, 0⟩
  side := .buy
  time := 10 * count
  startPosition := ⟨0, 0⟩
  dir := "Open Long"
  closedPnl := ⟨0, 0⟩
  hash := "0x"
  oid := 1
  crossed := true
  fee := ⟨0, 0⟩
  feeToken := "USDC"
  builderFee := none
  tid := .ofNat count
  cloid := none

/-- After each request the account has one more trade. The requests are kept last first. -/
def trades (log : List Nat) : List (Fill Quotients.reference) :=
  (List.range (log.length + 2)).map trade

def config : ReconcileConfig := ⟨4, 3⟩

/-- The venue of that account: what it answers already has the new trade. -/
def source : ReconcileSource Quotients.reference Empty where
  State := List Nat
  network := .testnet
  userFillsByTime _ startMs _ log :=
    (.ok (oldestFrom config.pageLimit startMs (trades (startMs :: log))), startMs :: log)
  frontendOpenOrders _ log := (.ok [], log)
  orderStatus _ _ log := (.ok .unknownOid, log)

/-- The newest timestamp that these requests were served. -/
def served : List Nat → Nat
  | [] => 0
  | startMs :: log =>
      newestOf (served log) (oldestFrom config.pageLimit startMs (trades (startMs :: log)))

/-- No trade of the sample is later than the pages that were asked for. -/
theorem time_le_of_mem_trades {log : List Nat} {fill : Fill Quotients.reference}
    (member : fill ∈ trades log) : fill.time ≤ 10 * (log.length + 1) := by
  obtain ⟨count, within, rfl⟩ := List.mem_map.mp member
  have below := List.mem_range.mp within
  change 10 * count ≤ _
  omega

/-- What was served is not later than the pages that were asked for. -/
theorem served_le (log : List Nat) : served log ≤ 10 * (log.length + 1) := by
  induction log with
  | nil => exact Nat.zero_le _
  | cons startMs log ih =>
      rw [List.length_cons]
      rcases newestOf_attained (served log)
        (oldestFrom config.pageLimit startMs (trades (startMs :: log))) with
        same | ⟨fill, member, same⟩
      · rw [served, same]
        omega
      · rw [served, same]
        exact time_le_of_mem_trades (List.mem_filter.mp (List.mem_of_mem_take member)).1

/-- Each request lets the sample's venue grow by one trade. -/
theorem trades_cons (startMs : Nat) (log : List Nat) :
    trades (startMs :: log) = trades log ++ [trade (log.length + 2)] := by
  rw [trades, List.length_cons, List.range_succ, List.map_append]
  rfl

/-- A trade that was added is not earlier than what was served. -/
theorem trades_grow {startMs : Nat} {log : List Nat} {fill : Fill Quotients.reference}
    (member : fill ∈ trades (startMs :: log)) : fill ∈ trades log ∨ served log ≤ fill.time := by
  rw [trades_cons] at member
  rcases List.mem_append.mp member with held | new
  · exact .inl held
  · obtain rfl := List.mem_singleton.mp new
    have bound := served_le log
    right
    change served log ≤ 10 * (log.length + 2)
    omega

/-- It answers its oldest trades, and the new one is later than all it served. -/
def venue : OldestFirst source .zero config.pageLimit where
  fills := trades
  newestServed := served
  sorted log := by
    refine List.pairwise_map.mpr (List.pairwise_lt_range.imp fun {earlier later} before => ?_)
    change 10 * earlier ≤ 10 * later
    omega
  answers _ _ := rfl
  serves _ _ := rfl
  keeps startMs log := trades_cons startMs log ▸ List.subset_append_left _ _
  grows _ _ _ := trades_grow

/-- Two trades are added while the walk asks for two pages, and it has them all. -/
theorem added_trades_walked : ∃ requests : List Nat, requests.length ≤ config.maxPages ∧
    (backfillFills source .zero 0 config []).2 = asked source .zero requests [] ∧
    Outcome venue 0 config.maxPages requests (asked source .zero requests [])
      (backfillFills source .zero 0 config []).1 ∧
    trades [] = [trade 0, trade 1] ∧
    (backfillFills source .zero 0 config []).1 = .ok ([trade 0, trade 1, trade 2, trade 3], 2) := by
  obtain ⟨requests, within, last, outcome⟩ :=
    backfillFills_complete source .zero config venue 0 []
  exact ⟨requests, within, last, outcome, rfl, rfl⟩

end GrowingVenue

end Oppen.Reconcile
