import Oppen.Ledger.PolicyReplay
import Oppen.Ledger.Settlement

/-! # Policy versions are linear

Any process may initialise, replace or release, between any other calls on the file. The
policy rows of every file they leave are one lineage of versions, and the replay accepts
it.
-/

namespace Oppen.Ledger

open Foundation Oppen.Json Oppen.Guardrail

/-! ## Lineages -/

section Lineages

variable {Decimal : Type}

/-- One version after the other: the first pauses everything, and each later one names the
one before it. -/
inductive Lineage : List (PolicyEntry Decimal) → Prop
  | nil : Lineage []
  | begun {entry : PolicyEntry Decimal} (first : entry.previousPolicy = none)
      (paused : entry.version.state.kill.global.isSome = true) : Lineage [entry]
  | succeeded {versions : List (PolicyEntry Decimal)} {current entry : PolicyEntry Decimal}
      (lineage : Lineage (versions ++ [current])) (named : entry.previousPolicy = some current.link)
      (later : current.version.revision < entry.version.revision) :
      Lineage (versions ++ [current] ++ [entry])

/-- Revisions only grow. -/
theorem Lineage.ordered {versions : List (PolicyEntry Decimal)} (lineage : Lineage versions) :
    versions.Pairwise fun earlier later => earlier.version.revision < later.version.revision := by
  induction lineage with
  | nil => exact .nil
  | begun => exact List.pairwise_singleton _ _
  | @succeeded versions current entry _ _ later ih =>
      refine List.pairwise_append.mpr ⟨ih, List.pairwise_singleton _ _, ?_⟩
      intro older member last here
      obtain rfl := List.mem_singleton.mp here
      rcases List.mem_append.mp member with inside | final
      · have before := (List.pairwise_append.mp ih).2.2 older inside current
          (List.mem_singleton_self current)
        omega
      · obtain rfl := List.mem_singleton.mp final
        exact later

/-- No version lies between one and the one it names. -/
theorem Lineage.adjacent {versions : List (PolicyEntry Decimal)} (lineage : Lineage versions) :
    ∀ entry ∈ versions, ∀ link ∈ entry.previousPolicy, link.seq < entry.version.revision ∧
      ∀ version ∈ versions, version.version.revision ≤ link.seq ∨
        entry.version.revision ≤ version.version.revision := by
  induction lineage with
  | nil => exact fun _ member => absurd member List.not_mem_nil
  | begun first =>
      intro entry member link held
      obtain rfl := List.mem_singleton.mp member
      rw [first] at held
      cases held
  | @succeeded versions current last lineage named later ih =>
      have ordered := (Lineage.succeeded lineage named later).ordered
      intro entry member link held
      rcases List.mem_append.mp member with inside | final
      · obtain ⟨before, apart⟩ := ih entry inside link held
        refine ⟨before, fun version other => ?_⟩
        rcases List.mem_append.mp other with older | newest
        · exact apart version older
        · have newestLast := (List.pairwise_append.mp ordered).2.2 entry inside version newest
          omega
      · obtain rfl := List.mem_singleton.mp final
        rw [named] at held
        obtain rfl := Option.some.inj held
        refine ⟨later, fun version other => ?_⟩
        rcases List.mem_append.mp other with older | newest
        · left
          rcases List.mem_append.mp older with oldest | previous
          · exact ((List.pairwise_append.mp lineage.ordered).2.2 version oldest current
              (List.mem_singleton_self current)).le
          · rw [List.mem_singleton.mp previous]
            exact le_rfl
        · rw [List.mem_singleton.mp newest]
          exact .inr le_rfl

/-- A lineage has one version of each revision. -/
theorem Lineage.eq_of_revision {versions : List (PolicyEntry Decimal)} (lineage : Lineage versions)
    {first second : PolicyEntry Decimal} (member : first ∈ versions) (member' : second ∈ versions)
    (same : first.version.revision = second.version.revision) : first = second := by
  have distinct : (versions.map fun entry => entry.version.revision).Nodup :=
    List.pairwise_map.mpr (lineage.ordered.imp fun less => less.ne)
  exact List.inj_on_of_nodup_map distinct member member' same

/-- **A version has at most one successor.** -/
theorem Lineage.successor_unique {versions : List (PolicyEntry Decimal)}
    (lineage : Lineage versions)
    {first second : PolicyEntry Decimal} (member : first ∈ versions) (member' : second ∈ versions)
    {link link' : PolicyLink} (held : link ∈ first.previousPolicy)
    (held' : link' ∈ second.previousPolicy) (same : link.seq = link'.seq) : first = second := by
  obtain ⟨before, apart⟩ := lineage.adjacent first member link held
  obtain ⟨before', apart'⟩ := lineage.adjacent second member' link' held'
  refine lineage.eq_of_revision member member' ?_
  have one := apart second member'
  have two := apart' first member
  omega

/-- A version that was succeeded is not the last one. -/
theorem Lineage.succeeded_ne_last {versions : List (PolicyEntry Decimal)}
    (lineage : Lineage versions) {entry current : PolicyEntry Decimal} (member : entry ∈ versions)
    {link : PolicyLink} (held : link ∈ entry.previousPolicy) (last : current ∈ versions.getLast?) :
    link.seq < current.version.revision := by
  obtain ⟨before, _⟩ := lineage.adjacent entry member link held
  obtain ⟨older, rfl⟩ := List.getLast?_eq_some_iff.mp last
  rcases List.mem_append.mp member with inside | final
  · exact before.trans ((List.pairwise_append.mp lineage.ordered).2.2 entry inside current
      (List.mem_singleton_self current))
  · rw [← List.mem_singleton.mp final]
    exact before

end Lineages

/-! ## Calls -/

/-- The calls on a ledger, the policy journal's and all others. -/
inductive PolicyAct (dec : PolicyDecimals) where
  | initializePolicy (review : LegacyPolicyReview)
      (next : PersistedState dec.Decimal) (atMs : UInt64)
      (route : Option AuthorizedRoute) (publish : Bool)
  | replacePolicy (expectedRevision : Nat) (next : PersistedState dec.Decimal) (atMs : UInt64)
      (route : Option AuthorizedRoute) (publish : Bool)
  | releaseKill (request : ReleaseRequest dec.Decimal) (gate : Except KillReleaseError UInt64)
      (publish : Bool)
  | other (request : Request dec.toDecimals)

/-- Whether the publication of a head the call commits goes through. -/
def PolicyAct.publish {dec : PolicyDecimals} : PolicyAct dec → Bool
  | .initializePolicy _ _ _ _ publish => publish
  | .replacePolicy _ _ _ _ publish => publish
  | .releaseKill _ _ publish => publish
  | .other request => request.publish

/-- The call writes and redacts no policy row. -/
def Call.sparesPolicy {dec : Decimals} (db : Db) : Call dec → Bool
  | .redact seq _ _ => (db.rowAt seq).all fun row => row.isPolicy = false
  | .journal event _ => event.kind ≠ .policyInitialized && event.kind ≠ .policyReplaced
  | _ => true

section Calling

variable {dec : PolicyDecimals} (journal : PolicyJournal dec)

/-- The store a call leaves. -/
def PolicyAct.perform (store : Store) : PolicyAct dec → Store
  | .initializePolicy review next atMs route publish =>
      (Ledger.initializePolicy journal publish review next atMs route store).2
  | .replacePolicy expectedRevision next atMs route publish =>
      (Ledger.replacePolicy journal publish expectedRevision next atMs route store).2
  | .releaseKill request gate publish =>
      (Ledger.releaseKill journal publish request gate store).2
  | .other request => (Ledger.perform journal.lib dec.toDecimals journal.handle request store).2

/-- What the surroundings promise of a call. Each review drew an operation id of its own, its
numbers have the widths of their types, and no other call touches a policy row. -/
def PolicyAct.Allowed (reviews : String → Option (ReleaseRequest dec.Decimal)) (store : Store) :
    PolicyAct dec → Prop
  | .releaseKill request _ _ =>
      reviews request.display.operationId = some request ∧ (ReleaseRequest.codec dec).Fits request
  | .other request => request.call.sparesPolicy store.db = true
  | _ => True

/-- One call of any process. The processes share the file and nothing else. -/
def PolicyStep (reviews : String → Option (ReleaseRequest dec.Decimal)) (before : Store)
    (act : PolicyAct dec) (after : Store) : Prop :=
  act.Allowed reviews before ∧ act.perform journal before = after

/-! ## Governed tables -/

/-- The policy rows of the table are these versions: a lineage the replay accepts. -/
structure Governed (reviews : String → Option (ReleaseRequest dec.Decimal)) (db : Db)
    (versions : List (PolicyEntry dec.Decimal)) : Prop where
  lineage : Lineage versions
  rows : (db.events.filter Row.isPolicy).map Row.seq =
    versions.map fun entry => (entry.version.revision : Int)
  bounded : ∀ entry ∈ versions, entry.version.revision ≤ db.events.length
  read : ∃ releaseIds, policyRows journal (some journal.key) db =
      .ok ⟨versions.getLast?, releaseIds⟩ ∧
    ∀ id ∈ releaseIds, ∃ request, reviews id = some request ∧ request.head.seq < db.events.length

end Calling

section Stepping

variable {dec : PolicyDecimals} {journal : PolicyJournal dec}
  {reviews : String → Option (ReleaseRequest dec.Decimal)} {db grown : Db}
  {versions : List (PolicyEntry dec.Decimal)}

/-- The next version of a lineage. -/
theorem Lineage.snoc (lineage : Lineage versions) {entry : PolicyEntry dec.Decimal}
    (named : entry.previousPolicy = versions.getLast?.map PolicyEntry.link)
    (paused : versions = [] → entry.version.state.kill.global.isSome = true)
    (later : ∀ current ∈ versions.getLast?, current.version.revision < entry.version.revision) :
    Lineage (versions ++ [entry]) := by
  cases versions using List.reverseRecOn with
  | nil => exact .begun named (paused rfl)
  | append_singleton older current =>
      rw [List.getLast?_concat] at named later
      exact .succeeded lineage named (later current rfl)

/-- **A signed version that follows the versions of a table is the next of its lineage.** -/
theorem Governed.signed (governed : Governed journal reviews db versions)
    {operation : PolicyOperation dec.Decimal} {state : PersistedState dec.Decimal} {atMs : UInt64}
    {version : PolicyVersion dec.Decimal} {appended : Appended} {releaseIds before : List String}
    (signs : Signs journal db (versions.getLast?.map PolicyEntry.link) operation state atMs version
      appended grown)
    (read : policyRows journal (some journal.key) db = .ok ⟨versions.getLast?, before⟩)
    (fits : operation.Fits) (valid : validateState state atMs = .ok ())
    (follows : checkOperation journal.handle.network ⟨versions.getLast?, before⟩
      (envelopeAt journal db (versions.getLast?.map PolicyEntry.link) operation state atMs) =
        .ok releaseIds)
    (paused : versions = [] → state.kill.global.isSome = true)
    (reviewed : ∀ id ∈ releaseIds, ∃ request, reviews id = some request ∧
      request.head.seq < db.events.length + 1) :
    Governed journal reviews grown
      (versions ++ [⟨version, appended.hash,
        versions.getLast?.map PolicyEntry.link, operation⟩]) := by
  have bounded : ∀ entry ∈ versions.getLast?, entry.version.revision ≤ db.events.length :=
    fun entry last => governed.bounded entry (List.mem_of_getLast? last)
  have accepted := signs.replays read rfl bounded fits follows valid
  obtain ⟨message, tsMs, _, _, grows⟩ := signs.row
  obtain ⟨canonical, _, _, _, rfl⟩ := grows.row
  have long : (db.extend (nextRow journal.lib (journal.handle.genesis journal.lib) db
      (policyEvent tsMs (signedAt journal (envelopeAt journal db
        (versions.getLast?.map PolicyEntry.link) operation state atMs) message)) canonical
      (some (policyKey (versions.getLast?.map PolicyEntry.link))))).events.length =
        db.events.length + 1 := by
    rw [Db.extend, List.length_append, List.length_singleton]
  have revision : version.revision = db.events.length + 1 := by rw [signs.version]
  refine ⟨governed.lineage.snoc rfl ?_ ?_, ?_, ?_, releaseIds, ?_, ?_⟩
  · intro first
    rw [signs.version]
    exact paused first
  · intro current last
    have held := bounded current last
    change _ < version.revision
    omega
  · have policy : (nextRow journal.lib (journal.handle.genesis journal.lib) db
        (policyEvent tsMs (signedAt journal (envelopeAt journal db
          (versions.getLast?.map PolicyEntry.link) operation state atMs) message)) canonical
        (some (policyKey (versions.getLast?.map PolicyEntry.link)))).isPolicy = true :=
      Row.isPolicy_of_kind operation rfl
    rw [Db.extend, List.filter_append, List.filter_cons_of_pos policy, List.filter_nil,
      List.map_append, List.map_append, governed.rows]
    simp only [List.map_cons, List.map_nil, revision]
    rfl
  · intro entry member
    rw [long]
    rcases List.mem_append.mp member with older | last
    · exact (governed.bounded entry older).trans (Nat.le_succ _)
    · rw [List.mem_singleton.mp last, revision]
  · rw [List.getLast?_concat]
    exact accepted
  · rw [long]
    exact reviewed

/-- A change of no policy row keeps the versions. -/
theorem Governed.other (governed : Governed journal reviews db versions)
    (sound : SoundRows journal.lib (journal.handle.genesis journal.lib) db.events)
    {event : NewEvent} {idemKey : Option String} {appended : Appended}
    (change : Change journal.lib (journal.handle.genesis journal.lib) db event idemKey appended
      grown)
    (unrelated : event.kind ≠ .policyInitialized ∧ event.kind ≠ .policyReplaced)
    (spared : ∀ seq reason tsMs row, event = redactionEvent seq reason tsMs →
      db.rowAt (seq : Nat) = some row → row.isPolicy = false) :
    Governed journal reviews grown versions := by
  obtain ⟨row, kind, same⟩ := change.keepsRows sound isPolicy_of_kind_eq spared
  have hidden : row.isPolicy = false := by
    rw [Row.isPolicy, kind]
    have names : Function.Injective EventKind.asStr := EventKind.asStr_injective
    rw [Bool.or_eq_false_iff, decide_eq_false_iff_not, decide_eq_false_iff_not, names.eq_iff,
      names.eq_iff]
    exact unrelated
  rw [List.filter_cons_of_neg (by rw [hidden]; exact Bool.false_ne_true), List.filter_nil,
    List.append_nil] at same
  have grew := change.head.2.2
  obtain ⟨releaseIds, read, reviewed⟩ := governed.read
  refine ⟨governed.lineage, ?_, fun entry member => ?_, releaseIds, ?_, fun id member => ?_⟩
  · rw [same, governed.rows]
  · exact (governed.bounded entry member).trans (by omega)
  · rw [policyRows, same]
    exact read
  · obtain ⟨request, review, before⟩ := reviewed id member
    exact ⟨request, review, by omega⟩

/-- What an allowed call other than the journal's writes. -/
theorem Writes.sparesPolicy {dec : Decimals} {call : Call dec} {event : NewEvent}
    {idemKey : Option String} (writes : Writes dec call event idemKey)
    (spares : call.sparesPolicy db = true) :
    (event.kind ≠ .policyInitialized ∧ event.kind ≠ .policyReplaced) ∧
      ∀ seq reason tsMs row, event = redactionEvent seq reason tsMs →
        db.rowAt (seq : Nat) = some row → row.isPolicy = false := by
  have generic {tsMs : Int64} (facts : Generic tsMs event idemKey) :
      (event.kind ≠ .policyInitialized ∧ event.kind ≠ .policyReplaced) ∧
        ∀ seq reason tsMs row, event = redactionEvent seq reason tsMs →
          db.rowAt (seq : Nat) = some row → row.isPolicy = false := by
    have kinds : ∀ kind, refuseOneDoorKind kind = .ok () ∨ kind = .orderIntent →
        (kind ≠ .policyInitialized ∧ kind ≠ .policyReplaced) ∧ kind ≠ .payloadRedacted := by
      rintro kind (door | rfl)
      · refine ⟨⟨?_, ?_⟩, notRedaction_of_door door⟩
        all_goals
          rintro rfl
          cases door
      · exact ⟨⟨nofun, nofun⟩, nofun⟩
    obtain ⟨policy, redaction⟩ := kinds event.kind facts.kind
    refine ⟨policy, fun seq reason tsMs row explains _ => absurd ?_ redaction⟩
    rw [explains]
    rfl
  cases writes with
  | append facts | recordIntent facts | recordOutcome facts | openGap facts | closeGap facts =>
      exact generic facts
  | fill | halt | started | resolved => exact ⟨⟨nofun, nofun⟩, fun _ _ _ _ explains _ => by
      cases congrArg NewEvent.kind explains⟩
  | redact =>
      refine ⟨⟨nofun, nofun⟩, fun seq reason tsMs row explains found => ?_⟩
      rw [Call.sparesPolicy, redactionEvent_seq explains, found, Option.all_some,
        decide_eq_true_eq] at spares
      exact spares
  | journal other _ =>
      rw [Call.sparesPolicy, Bool.and_eq_true, decide_eq_true_eq, decide_eq_true_eq] at spares
      refine ⟨spares, fun seq reason tsMs row explains _ => ?_⟩
      rw [explains] at other
      cases other

variable {store : Store} {behind : Nat}

/-- A version that was signed settles what it committed. -/
theorem Signs.settles {previous : Option PolicyLink} {operation : PolicyOperation dec.Decimal}
    {state : PersistedState dec.Decimal} {atMs : UInt64} {version : PolicyVersion dec.Decimal}
    {appended : Appended}
    (signs : Signs journal db previous operation state atMs version appended grown) :
    Settles journal.lib journal.handle db (fun _ _ => True) (some appended) grown := by
  obtain ⟨event, _, change⟩ := signs.change
  exact .written trivial change

/-- What an initialisation may commit. -/
theorem Governed.initializeBody (governed : Governed journal reviews store.db versions)
    (tracks : Tracks journal.lib journal.handle behind store) {review : LegacyPolicyReview}
    {next : PersistedState dec.Decimal} {atMs : UInt64} {route : Option AuthorizedRoute}
    {done : Committed (PolicyVersion dec.Decimal)}
    (run : initializeBody journal review next atMs route store = .ok done) :
    Settles journal.lib journal.handle store.db (fun _ _ => True) done.noted done.db ∧
      ((∃ current ∈ versions.getLast?, done.value = current.version ∧ done.db = store.db) ∨
        ∃ entry, versions = [] ∧ entry.version = done.value ∧ entry.version.state = next ∧
          Governed journal reviews done.db [entry]) := by
  obtain ⟨releaseIds, read, reviewed⟩ := governed.read
  rcases initializeBody_ok tracks.consistent read run with
    ⟨current, last, rfl⟩ | ⟨none, paused, valid, follows, appended, noted, signs⟩
  · exact ⟨.found, .inl ⟨current, last, rfl, rfl⟩⟩
  · change versions.getLast? = .none at none
    have empty := List.getLast?_eq_none_iff.mp none
    subst empty
    refine ⟨noted ▸ signs.settles, .inr ⟨_, rfl, rfl, ?_, governed.signed signs read trivial valid
      follows (fun _ => paused) fun id member => ?_⟩⟩
    · change done.value.state = next
      rw [signs.version]
    · obtain ⟨request, review, before⟩ := reviewed id member
      exact ⟨request, review, before.trans (Nat.lt_succ_self _)⟩

/-- What a replacement may commit. -/
theorem Governed.replaceBody (governed : Governed journal reviews store.db versions)
    (tracks : Tracks journal.lib journal.handle behind store) {expectedRevision : Nat}
    {next : PersistedState dec.Decimal} {atMs : UInt64} {route : Option AuthorizedRoute}
    {done : Committed (PolicyVersion dec.Decimal)}
    (run : replaceBody journal expectedRevision next atMs route store = .ok done) :
    Settles journal.lib journal.handle store.db (fun _ _ => True) done.noted done.db ∧
      ∃ current ∈ versions.getLast?,
        (current.version.state.Same dec next ∧ done.value = current.version ∧
          done.db = store.db) ∨
        ∃ entry, current.version.revision = expectedRevision ∧
          ¬ current.version.state.Same dec next ∧ entry.version = done.value ∧
          entry.version.state = next ∧ entry.previousPolicy = some current.link ∧
          Governed journal reviews done.db (versions ++ [entry]) := by
  obtain ⟨releaseIds, read, reviewed⟩ := governed.read
  obtain ⟨current, last, ⟨same, rfl⟩ | ⟨compared, moves, valid, appended, noted, signs⟩⟩ :=
    replaceBody_ok tracks.consistent read run
  · exact ⟨.found, current, last, .inl ⟨same, rfl, rfl⟩⟩
  · change versions.getLast? = some current at last
    have link : some current.link = versions.getLast?.map PolicyEntry.link := by
      rw [last, Option.map_some]
    refine ⟨noted ▸ signs.settles, current, last, .inr ?_⟩
    rw [link] at signs
    have follows : checkOperation journal.handle.network ⟨versions.getLast?, releaseIds⟩
        (envelopeAt journal store.db (versions.getLast?.map PolicyEntry.link) .policyReplaced next
          atMs) = .ok releaseIds := by
      rw [checkOperation, last]
      rfl
    refine ⟨_, compared, moves, rfl, ?_, link.symm, governed.signed signs read trivial valid follows
      ?_ fun id member => ?_⟩
    · change done.value.state = next
      rw [signs.version]
    · rintro rfl
      cases last
    · obtain ⟨request, review, before⟩ := reviewed id member
      exact ⟨request, review, before.trans (Nat.lt_succ_self _)⟩

/-- What a release may commit. -/
theorem Governed.releaseBody (governed : Governed journal reviews store.db versions)
    (tracks : Tracks journal.lib journal.handle behind store)
    {request : ReleaseRequest dec.Decimal} {gate : Except KillReleaseError UInt64}
    (review : reviews request.display.operationId = some request)
    (fits : (ReleaseRequest.codec dec).Fits request)
    {done : Committed (PolicyVersion dec.Decimal × Appended × UInt64)}
    (run : releaseBody journal request gate store = .ok done) :
    Settles journal.lib journal.handle store.db (fun _ _ => True) done.noted done.db ∧
      ∃ current ∈ versions.getLast?, ∃ entry,
        current.version.revision = request.display.policyRevision ∧
        entry.version.state = request.released ∧ entry.previousPolicy = some current.link ∧
        Governed journal reviews done.db (versions ++ [entry]) := by
  obtain ⟨releaseIds, read, reviewed⟩ := governed.read
  obtain ⟨current, atMs, appended, version, last, head, valid, correlated, shape, signs⟩ :=
    releaseBody_ok tracks.consistent read run
  change versions.getLast? = some current at last
  have link : some current.link = versions.getLast?.map PolicyEntry.link := by
    rw [last, Option.map_some]
  have position : request.head.seq = store.db.events.length := by rw [head]
  have noted : done.noted = some appended := by rw [shape]
  refine ⟨noted ▸ signs.settles, current, last, ?_⟩
  rw [link] at signs
  -- an id used before belongs to a review of an earlier head
  have unused : request.display.operationId ∉ releaseIds := by
    intro member
    obtain ⟨held, here, before⟩ := reviewed _ member
    obtain rfl := Option.some.inj (here.symm.trans review)
    omega
  have follows : checkOperation journal.handle.network ⟨versions.getLast?, releaseIds⟩
      (envelopeAt journal store.db (versions.getLast?.map PolicyEntry.link) (.killReleased request)
        request.released atMs) = .ok (releaseIds ++ [request.display.operationId]) := by
    have transition : validateTransition request current.version (envelopeAt journal store.db
        (versions.getLast?.map PolicyEntry.link) (.killReleased request) request.released atMs) =
          .ok () := by
      rw [← link]
      exact correlated
    rw [checkOperation, last]
    simp only [envelopeAt, nextEnvelope, last] at transition ⊢
    simp only [transition, bind, Except.bind, refuseIf, if_neg unused]
    rfl
  refine ⟨_, ?_, ?_, link.symm, governed.signed signs read fits valid follows ?_ ?_⟩
  · obtain ⟨_, checked, _⟩ := bind_eq_ok correlated
    have checks := refuseIf_ok checked
    simp only [not_or, not_not] at checks
    exact checks.2.2.2.1.symm
  · change version.state = request.released
    rw [signs.version]
  · rintro rfl
    cases last
  · intro id member
    rcases List.mem_append.mp member with older | newest
    · obtain ⟨held, here, before⟩ := reviewed id older
      exact ⟨held, here, before.trans (Nat.lt_succ_self _)⟩
    · rw [List.mem_singleton.mp newest]
      exact ⟨request, review, by omega⟩

/-- A release changes the store as the transaction of its body does. -/
theorem releaseKill_store (publish : Bool) (request : ReleaseRequest dec.Decimal)
    (gate : Except KillReleaseError UInt64) :
    (releaseKill journal publish request gate store).2 =
      (transact journal.handle publish
        (fun error => KillReleaseError.uncertain request.display.operationId (.ledger error)) store
        (releaseBody journal request gate store)).2 := by
  rw [releaseKill]
  split
  · rename_i after ran
    rw [ran]
  · rename_i version appended atMs after ran
    rw [ran]
    split <;> rfl

/-- **One call of any process** leaves the versions, with one more at most. -/
theorem Governed.step (governed : Governed journal reviews store.db versions)
    (tracks : Tracks journal.lib journal.handle behind store) {act : PolicyAct dec} {after : Store}
    (step : PolicyStep journal reviews store act after) :
    ∃ behind' added, Tracks journal.lib journal.handle behind' after ∧ behind' ≤ behind + 1 ∧
      (act.publish = true → behind' ≤ behind) ∧ added.length ≤ 1 ∧
      Governed journal reviews after.db (versions ++ added) := by
  obtain ⟨allowed, rfl⟩ := step
  have unchanged : Governed journal reviews store.db (versions ++ []) := by
    rwa [List.append_nil]
  cases act with
  | initializePolicy review next atMs route publish =>
      obtain ⟨behind', tracks', near, level⟩ := tracks.settled publish PolicyError.ledger
        fun done run => (governed.initializeBody tracks run).1
      refine ⟨behind', ?_⟩
      rcases transact_cases publish PolicyError.ledger store
          (Ledger.initializeBody journal review next atMs route store) with
        ⟨error, _, refused⟩ | ⟨done, run, tables, _⟩
      · refine ⟨[], tracks', near, level, Nat.zero_le 1, ?_⟩
        rw [PolicyAct.perform, initializePolicy, refused]
        exact unchanged
      · rcases (governed.initializeBody tracks run).2 with
          ⟨_, _, _, same⟩ | ⟨entry, empty, _, _, next⟩
        · refine ⟨[], tracks', near, level, Nat.zero_le 1, ?_⟩
          rw [PolicyAct.perform, initializePolicy, tables, same]
          exact unchanged
        · refine ⟨[entry], tracks', near, level, le_rfl, ?_⟩
          rw [PolicyAct.perform, initializePolicy, tables, empty]
          exact next
  | replacePolicy expectedRevision next atMs route publish =>
      obtain ⟨behind', tracks', near, level⟩ := tracks.settled publish PolicyError.ledger
        fun done run => (governed.replaceBody tracks run).1
      refine ⟨behind', ?_⟩
      rcases transact_cases publish PolicyError.ledger store
          (Ledger.replaceBody journal expectedRevision next atMs route store) with
        ⟨error, _, refused⟩ | ⟨done, run, tables, _⟩
      · refine ⟨[], tracks', near, level, Nat.zero_le 1, ?_⟩
        rw [PolicyAct.perform, replacePolicy, refused]
        exact unchanged
      · obtain ⟨current, _, ⟨_, _, same⟩ | ⟨entry, _, _, _, _, _, next⟩⟩ :=
          (governed.replaceBody tracks run).2
        · refine ⟨[], tracks', near, level, Nat.zero_le 1, ?_⟩
          rw [PolicyAct.perform, replacePolicy, tables, same]
          exact unchanged
        · refine ⟨[entry], tracks', near, level, le_rfl, ?_⟩
          rw [PolicyAct.perform, replacePolicy, tables]
          exact next
  | releaseKill request gate publish =>
      obtain ⟨review, fits⟩ := allowed
      obtain ⟨behind', tracks', near, level⟩ := tracks.settled publish
        (fun error => KillReleaseError.uncertain request.display.operationId (.ledger error))
        fun done run => (governed.releaseBody tracks review fits run).1
      refine ⟨behind', ?_⟩
      rw [PolicyAct.perform, releaseKill_store]
      rcases transact_cases publish
          (fun error => KillReleaseError.uncertain request.display.operationId
            (.ledger error)) store
          (Ledger.releaseBody journal request gate store) with
        ⟨error, _, refused⟩ | ⟨done, run, tables, _⟩
      · refine ⟨[], tracks', near, level, Nat.zero_le 1, ?_⟩
        rw [refused]
        exact unchanged
      · obtain ⟨_, _, entry, _, _, _, next⟩ := (governed.releaseBody tracks review fits run).2
        refine ⟨[entry], tracks', near, level, le_rfl, ?_⟩
        rw [tables]
        exact next
  | other request =>
      have called : Step journal.lib dec.toDecimals journal.handle store request
          (Ledger.perform journal.lib dec.toDecimals journal.handle request store).2 := rfl
      obtain ⟨behind', tracks', near, level⟩ := tracks.step called
      refine ⟨behind', [], tracks', near, level, Nat.zero_le 1, ?_⟩
      rw [List.append_nil]
      have moved := perform_moved tracks request
      rw [PolicyAct.perform]
      have spare {event : NewEvent} {idemKey : Option String} {appended : Appended} {changed : Db}
          (writes : Writes dec.toDecimals request.call event idemKey)
          (change : Change journal.lib (journal.handle.genesis journal.lib) store.db event idemKey
            appended changed) : Governed journal reviews changed versions := by
        obtain ⟨unrelated, spared⟩ := writes.sparesPolicy allowed
        exact governed.other tracks.consistent.rows change unrelated spared
      generalize Ledger.perform journal.lib dec.toDecimals journal.handle request store = outcome
        at moved
      obtain ⟨answer, after⟩ := outcome
      cases moved with
      | unchanged => exact governed
      | published writes change => exact spare writes change
      | unpublished writes change => exact spare writes change

/-- A ledger that was just opened is governed by no version. -/
theorem opened_governed :
    Governed journal reviews (opened journal.lib journal.handle).db [] where
  lineage := .nil
  rows := rfl
  bounded _ member := absurd member List.not_mem_nil
  read := ⟨[], rfl, fun _ member => absurd member List.not_mem_nil⟩

/-- **Runs.** Versions are only added, and the anchor is behind by the failed publications
since the last one that went through. -/
theorem Governed.run (governed : Governed journal reviews store.db versions)
    (tracks : Tracks journal.lib journal.handle behind store) {acts : List (PolicyAct dec)}
    {last : Store} (run : Run (PolicyStep journal reviews) store acts last) :
    ∃ behind' added, Tracks journal.lib journal.handle behind' last ∧
      Governed journal reviews last.db (versions ++ added) := by
  refine run.invariant (fun last => ∃ behind' added,
    Tracks journal.lib journal.handle behind' last ∧
    Governed journal reviews last.db (versions ++ added)) ?_
    ⟨behind, [], tracks, by rwa [List.append_nil]⟩
  rintro before act after ⟨_, added, tracks, governed⟩ step
  obtain ⟨behind', one, tracks', _, _, _, governed'⟩ := governed.step tracks step
  exact ⟨behind', added ++ one, tracks', by rwa [← List.append_assoc]⟩

/-- When every publication but perhaps the last goes through, the anchor is at most one row
behind. -/
theorem policyRun_near {acts : List (PolicyAct dec)}
    (run : Run (PolicyStep journal reviews) (opened journal.lib journal.handle) acts store)
    (published : ∀ act ∈ acts.dropLast, act.publish = true) :
    ∃ behind ≤ 1, Tracks journal.lib journal.handle behind store := by
  have level {acts : List (PolicyAct dec)} {store : Store}
      (run : Run (PolicyStep journal reviews) (opened journal.lib journal.handle) acts store)
      (published : ∀ act ∈ acts, act.publish = true) :
      Tracks journal.lib journal.handle 0 store ∧
        ∃ versions, Governed journal reviews store.db versions := by
    refine run.persists (fun store => Tracks journal.lib journal.handle 0 store ∧
      ∃ versions, Governed journal reviews store.db versions) (fun act => act.publish = true) ?_
      published ⟨opened_tracks, [], opened_governed⟩
    rintro before act after ⟨tracks, versions, governed⟩ publish step
    obtain ⟨behind', added, tracks', _, kept, _, governed'⟩ := governed.step tracks step
    obtain rfl : behind' = 0 := Nat.le_zero.mp (kept publish)
    exact ⟨tracks', _, governed'⟩
  cases run with
  | nil => exact ⟨0, Nat.zero_le 1, opened_tracks⟩
  | snoc prior step =>
      rw [List.dropLast_concat] at published
      obtain ⟨tracks, versions, governed⟩ := level prior published
      obtain ⟨behind', _, tracks', near, _⟩ := governed.step tracks step
      exact ⟨behind', near, tracks'⟩

/-- The whole replay, chain and anchor included, of a table within the tolerance. -/
theorem Governed.replays (governed : Governed journal reviews store.db versions)
    (tracks : Tracks journal.lib journal.handle behind store) (near : behind ≤ 1)
    (anchored : journal.handle.anchored = true) :
    replayPolicy journal store = .ok versions.getLast? := by
  obtain ⟨releaseIds, read, _⟩ := governed.read
  obtain ⟨report, verified, intact⟩ := tracks.verify_iff.mpr fun _ => near
  obtain ⟨anchor, present, _⟩ := tracks.anchored anchored
  have unbroken : ¬ report.firstBreak ≠ none := not_not.mpr (Option.isNone_iff_eq_none.mp intact)
  simp only [verify, anchored, present, if_true] at verified
  have owned : ¬ journal.handle.anchored = false := by
    rw [anchored]
    exact Bool.true_eq_false.mp
  simp only [replayPolicy, replayPolicyIn, refuseIf, if_neg owned, bind, Except.bind, present,
    verified, mapError, if_neg unbroken, read, pure, Except.pure]

end Stepping

/-! ## Guarantees -/

section Journal

variable {dec : PolicyDecimals} (journal : PolicyJournal dec)
  (reviews : String → Option (ReleaseRequest dec.Decimal)) (store : Store)
  (versions : List (PolicyEntry dec.Decimal))

/-- The caller is told of the version, unless its head was not published. -/
def Answers (publish : Bool) (result : Except PolicyError (PolicyVersion dec.Decimal))
    (version : PolicyVersion dec.Decimal) : Prop :=
  result = .ok version ∨
    journal.handle.anchored = true ∧ publish = false ∧ result = .error (.ledger .io)

/-- An initialisation is refused, finds itself done, or begins the lineage paused. -/
def InitializesOnce : Prop :=
  ∀ publish review next atMs route,
    (∃ error, initializePolicy journal publish review next atMs route store =
      (.error error, store)) ∨
    (∃ current ∈ versions.getLast?,
      (initializePolicy journal publish review next atMs route store).2.db = store.db ∧
      Answers journal publish (initializePolicy journal publish review next atMs route store).1
        current.version) ∨
    ∃ entry, versions = [] ∧ entry.version.state = next ∧ next.kill.global.isSome = true ∧
      Governed journal reviews (initializePolicy journal publish review next atMs route store).2.db
        [entry] ∧
      Answers journal publish (initializePolicy journal publish review next atMs route store).1
        entry.version

/-- A replacement is refused, finds its state to be the current one, or adds it to the version
it names, which is the current one. -/
def ReplacesCurrent : Prop :=
  ∀ publish expectedRevision next atMs route,
    (∃ error, replacePolicy journal publish expectedRevision next atMs route store =
      (.error error, store)) ∨
    ∃ current ∈ versions.getLast?,
      (current.version.state.Same dec next ∧
        (replacePolicy journal publish expectedRevision next atMs route store).2.db = store.db ∧
        Answers journal publish
          (replacePolicy journal publish expectedRevision next atMs route store).1
          current.version) ∨
      ∃ entry, current.version.revision = expectedRevision ∧
        ¬ current.version.state.Same dec next ∧ entry.version.state = next ∧
        entry.previousPolicy = some current.link ∧
        Governed journal reviews
          (replacePolicy journal publish expectedRevision next atMs route store).2.db
          (versions ++ [entry]) ∧
        Answers journal publish
          (replacePolicy journal publish expectedRevision next atMs route store).1 entry.version

/-- A reviewed release is refused, or adds what it releases to the version it was reviewed
at, which is the current one. -/
def ReleasesCurrent : Prop :=
  ∀ publish request gate, reviews request.display.operationId = some request →
    (ReleaseRequest.codec dec).Fits request →
    (∃ error, releaseKill journal publish request gate store = (.error error, store)) ∨
    ∃ current ∈ versions.getLast?, ∃ entry,
      current.version.revision = request.display.policyRevision ∧
      entry.version.state = request.released ∧ entry.previousPolicy = some current.link ∧
      Governed journal reviews (releaseKill journal publish request gate store).2.db
        (versions ++ [entry])

/-- A replacement of the current version with another state is refused by nothing but its own
checks and the append. -/
def CommitsFirst : Prop :=
  ∀ publish next atMs route current, validateState next atMs = .ok () →
    checkSetupRoute journal store route = .ok () → replayPolicy journal store = .ok (some current) →
    ¬ current.version.state.Same dec next →
      replacePolicy journal publish current.version.revision next atMs route store =
        transact journal.handle publish .ledger store
          (committedPolicy journal store (some current.link) .policyReplaced next atMs)

/-- Another state for a revision that has a successor is refused, as stale when nothing else
is wrong with it. -/
def RefusesStale : Prop :=
  ∀ publish expectedRevision next atMs route, ∀ entry ∈ versions, ∀ link ∈ entry.previousPolicy,
    link.seq = expectedRevision → ¬ entry.version.state.Same dec next →
      (∃ error, replacePolicy journal publish expectedRevision next atMs route store =
        (.error error, store)) ∧
      ∀ current, validateState next atMs = .ok () → checkSetupRoute journal store route = .ok () →
        replayPolicy journal store = .ok (some current) →
          replacePolicy journal publish expectedRevision next atMs route store =
            (.error (.staleRevision expectedRevision current.version.revision), store)

/-- The replacement that committed the current version, tried again, adds nothing and is told
of that version. -/
def RetriesOnce : Prop :=
  ∀ publish expectedRevision next atMs route, ∀ current ∈ versions.getLast?,
    current.ExactRetry expectedRevision next →
      (replacePolicy journal publish expectedRevision next atMs route store).2.db = store.db ∧
      (validateState next atMs = .ok () → checkSetupRoute journal store route = .ok () →
        replayPolicy journal store = .ok (some current) →
          Answers journal publish
            (replacePolicy journal publish expectedRevision next atMs route store).1
            current.version)

end Journal

section Proofs

variable {dec : PolicyDecimals} {journal : PolicyJournal dec}
  {reviews : String → Option (ReleaseRequest dec.Decimal)} {store : Store}
  {versions : List (PolicyEntry dec.Decimal)} {behind : Nat}

/-- A policy is initialized once: a second time is answered by the version that is there, or
refused. -/
theorem Governed.initializesOnce (governed : Governed journal reviews store.db versions)
    (tracks : Tracks journal.lib journal.handle behind store) :
    InitializesOnce journal reviews store versions := by
  intro publish review next atMs route
  rcases transact_cases publish PolicyError.ledger store
      (Ledger.initializeBody journal review next atMs route store) with
    ⟨error, _, refused⟩ | ⟨done, run, tables, answered⟩
  · exact .inl ⟨error, refused⟩
  · right
    rcases (governed.initializeBody tracks run).2 with
      ⟨current, last, value, same⟩ | ⟨entry, empty, version, state, following⟩
    · refine .inl ⟨current, last, ?_, ?_⟩
      · rw [initializePolicy, tables, same]
      · rw [← value]
        exact answered
    · refine .inr ⟨entry, empty, state, ?_, ?_, ?_⟩
      · have began := following.lineage
        rw [← state]
        generalize single : [entry] = lineage at began
        cases began with
        | nil => cases single
        | begun _ paused =>
            obtain rfl := (List.cons.inj single).1
            exact paused
        | succeeded =>
            have length := congrArg List.length single
            simp only [List.length_append, List.length_singleton] at length
            omega
      · rw [initializePolicy, tables]
        exact following
      · rw [version]
        exact answered

/-- A policy is replaced only under the revision that is current. -/
theorem Governed.replacesCurrent (governed : Governed journal reviews store.db versions)
    (tracks : Tracks journal.lib journal.handle behind store) :
    ReplacesCurrent journal reviews store versions := by
  intro publish expectedRevision next atMs route
  rcases transact_cases publish PolicyError.ledger store
      (Ledger.replaceBody journal expectedRevision next atMs route store) with
    ⟨error, _, refused⟩ | ⟨done, run, tables, answered⟩
  · exact .inl ⟨error, refused⟩
  · obtain ⟨current, last, ⟨same, value, kept⟩ | ⟨entry, compared, moves, version, state, named,
      following⟩⟩ := (governed.replaceBody tracks run).2
    · refine .inr ⟨current, last, .inl ⟨same, ?_, ?_⟩⟩
      · rw [replacePolicy, tables, kept]
      · rw [← value]
        exact answered
    · refine .inr ⟨current, last, .inr ⟨entry, compared, moves, state, named, ?_, ?_⟩⟩
      · rw [replacePolicy, tables]
        exact following
      · rw [version]
        exact answered

/-- A switch is released only under the revision that is current. -/
theorem Governed.releasesCurrent (governed : Governed journal reviews store.db versions)
    (tracks : Tracks journal.lib journal.handle behind store) :
    ReleasesCurrent journal reviews store versions := by
  intro publish request gate review fits
  rcases transact_cases publish
      (fun error => KillReleaseError.uncertain request.display.operationId (.ledger error)) store
      (Ledger.releaseBody journal request gate store) with
    ⟨error, _, refused⟩ | ⟨done, run, tables, answered⟩
  · left
    refine ⟨error, ?_⟩
    rw [releaseKill, refused]
  · obtain ⟨current, last, entry, revision, state, named, next⟩ :=
      (governed.releaseBody tracks review fits run).2
    refine .inr ⟨current, last, entry, revision, state, named, ?_⟩
    rw [releaseKill_store, tables]
    exact next

section Checked

variable {next : PersistedState dec.Decimal} {atMs : UInt64} {route : Option AuthorizedRoute}
  {current : PolicyEntry dec.Decimal} (valid : validateState next atMs = .ok ())
  (routed : checkSetupRoute journal store route = .ok ())
  (replayed : replayPolicy journal store = .ok (some current))

include valid routed replayed

/-- What remains of a replacement once its checks pass. -/
theorem replaceBody_checked (expectedRevision : Nat) :
    replaceBody journal expectedRevision next atMs route store =
      if current.version.revision ≠ expectedRevision ∧
        ¬ current.ExactRetry expectedRevision next then
        .error (.staleRevision expectedRevision current.version.revision)
      else if current.ExactRetry expectedRevision next ∨ current.version.state.Same dec next then
        publishedHead store current.version
      else committedPolicy journal store (some current.link) .policyReplaced next atMs := by
  simp only [replaceBody, valid, routed, replayed, bind, Except.bind, refuseIf]
  by_cases stale : current.version.revision ≠ expectedRevision ∧
      ¬ current.ExactRetry expectedRevision next
  · rw [if_pos stale, if_pos stale]
  · rw [if_neg stale, if_neg stale]

end Checked

/-- An operation that reports success has committed before it does. -/
theorem commitsFirst (journal : PolicyJournal dec) (store : Store) :
    CommitsFirst journal store := by
  intro publish next atMs route current valid routed replayed moves
  have retry : ¬ current.ExactRetry current.version.revision next := fun retry => moves retry.2.2
  rw [replacePolicy, replaceBody_checked valid routed replayed, if_neg (fun stale => stale.1 rfl),
    if_neg (not_or.mpr ⟨retry, moves⟩)]

/-- An operation that names an old revision is refused and changes nothing. -/
theorem Governed.refusesStale (governed : Governed journal reviews store.db versions) :
    RefusesStale journal store versions := by
  intro publish expectedRevision next atMs route entry member link held position other
  have lineage := governed.lineage
  -- the successor is the current version or lies before it, so no retry of this replacement is
  -- current and neither is the revision it names
  have stale : ∀ current ∈ versions.getLast?, current.version.revision ≠ expectedRevision ∧
      ¬ current.ExactRetry expectedRevision next := by
    intro current last
    have later := lineage.succeeded_ne_last member held last
    refine ⟨by omega, fun retry => ?_⟩
    obtain ⟨_, ⟨link', held', same⟩, state⟩ := retry
    have one := lineage.successor_unique member (List.mem_of_getLast? last) held held'
      (position.trans same.symm)
    rw [one] at other
    exact other state
  obtain ⟨releaseIds, read, _⟩ := governed.read
  have refuses {current : PolicyEntry dec.Decimal} (valid : validateState next atMs = .ok ())
      (routed : checkSetupRoute journal store route = .ok ())
      (replayed : replayPolicy journal store = .ok (some current)) :
      Ledger.replaceBody journal expectedRevision next atMs route store =
        .error (.staleRevision expectedRevision current.version.revision) := by
    rw [replaceBody_checked valid routed replayed,
      if_pos (stale current (latest_of_replay read replayed))]
  constructor
  · rcases transact_cases publish PolicyError.ledger store
        (Ledger.replaceBody journal expectedRevision next atMs route store) with
      ⟨error, _, refused⟩ | ⟨done, run, _, _⟩
    · exact ⟨error, refused⟩
    · have whole := run
      obtain ⟨_, valid, run⟩ := bind_eq_ok run
      obtain ⟨_, routed, run⟩ := bind_eq_ok run
      obtain ⟨latest, replayed, run⟩ := bind_eq_ok run
      cases latest with
      | none => cases run
      | some current =>
          rw [refuses valid routed replayed] at whole
          cases whole
  · intro current valid routed replayed
    rw [replacePolicy, refuses valid routed replayed]
    rfl

/-- An operation that is retried commits once. -/
theorem Governed.retriesOnce (governed : Governed journal reviews store.db versions)
    (tracks : Tracks journal.lib journal.handle behind store) :
    RetriesOnce journal store versions := by
  intro publish expectedRevision next atMs route current last retry
  constructor
  · rcases transact_cases publish PolicyError.ledger store
        (Ledger.replaceBody journal expectedRevision next atMs route store) with
      ⟨error, _, refused⟩ | ⟨done, run, tables, _⟩
    · rw [replacePolicy, refused]
    · obtain ⟨held, last', ⟨_, _, kept⟩ | ⟨_, _, moves, _⟩⟩ := (governed.replaceBody tracks run).2
      · rw [replacePolicy, tables, kept]
      · obtain rfl : current = held := Option.some.inj (last.symm.trans last')
        exact absurd retry.2.2 moves
  · intro valid routed replayed
    have body := replaceBody_checked valid routed replayed expectedRevision
    rw [if_neg (fun stale => stale.2 retry), if_pos (.inl retry)] at body
    rcases transact_cases publish PolicyError.ledger store
        (Ledger.replaceBody journal expectedRevision next atMs route store) with
      ⟨error, run, _⟩ | ⟨done, run, _, answered⟩
    · obtain ⟨seq, hash, found⟩ : ∃ seq hash, head store.db = .ok (seq, hash) :=
        ⟨_, _, tracks.consistent.headed.head_eq⟩
      rw [body, publishedHead, found] at run
      cases run
    · rw [body] at run
      have value : done.value = current.version := by
        rw [publishedHead_ok tracks.consistent run]
      rw [← value]
      exact answered

end Proofs

/-- What holds of every file the calls leave, by its versions. The lineage is the content of the
policy rows, in the order of the chain. -/
structure LinearVersions {dec : PolicyDecimals} (journal : PolicyJournal dec)
    (reviews : String → Option (ReleaseRequest dec.Decimal)) (acts : List (PolicyAct dec))
    (store : Store) (versions : List (PolicyEntry dec.Decimal)) : Prop where
  governed : Governed journal reviews store.db versions
  unique : ∀ first ∈ versions, ∀ second ∈ versions, ∀ link ∈ first.previousPolicy,
    ∀ link' ∈ second.previousPolicy, link.seq = link'.seq → first = second
  replays : journal.handle.anchored = true → (∀ act ∈ acts.dropLast, act.publish = true) →
    replayPolicy journal store = .ok versions.getLast?
  initializes : InitializesOnce journal reviews store versions
  replaces : ReplacesCurrent journal reviews store versions
  releases : ReleasesCurrent journal reviews store versions
  commits : CommitsFirst journal store
  refuses : RefusesStale journal store versions
  retries : RetriesOnce journal store versions
  onward : ∀ acts' later, Run (PolicyStep journal reviews) store acts' later →
    ∃ added, Governed journal reviews later.db (versions ++ added)

/-- **Policy versions are linear.** The policy rows of every file that initialisations,
replacements and releases of any processes leave, among all other calls, are one lineage: it
begins paused, each version names the one that was current when it was committed, and none
has two successors. The replay accepts the rows, and the chain and the anchor as long as
publications went through. -/
theorem policy_versions_linear {dec : PolicyDecimals} (journal : PolicyJournal dec)
    (reviews : String → Option (ReleaseRequest dec.Decimal)) {acts : List (PolicyAct dec)}
    {store : Store}
    (run : Run (PolicyStep journal reviews) (opened journal.lib journal.handle) acts store) :
    ∃ versions, LinearVersions journal reviews acts store versions := by
  obtain ⟨behind, versions, tracks, governed⟩ := opened_governed.run opened_tracks run
  rw [List.nil_append] at governed
  refine ⟨versions, governed, ?_, ?_, governed.initializesOnce tracks,
    governed.replacesCurrent tracks, governed.releasesCurrent tracks, commitsFirst journal store,
    governed.refusesStale, governed.retriesOnce tracks, ?_⟩
  · intro first member second member' link held link' held' same
    exact governed.lineage.successor_unique member member' held held' same
  · intro anchored published
    obtain ⟨near, within, tracks⟩ := policyRun_near run published
    exact governed.replays tracks within anchored
  · intro acts' later onward
    obtain ⟨_, added, _, next⟩ := governed.run tracks onward
    exact ⟨added, next⟩

/-- A transaction that may publish and whose body goes through is answered, and its tables
stay. -/
theorem transact_publishes (handle : Handle) {α ε : Type} (lift : LedgerError → ε) (store : Store)
    {body : Except ε (Committed α)} {done : Committed α} (run : body = .ok done) :
    (transact handle true lift store body).1.isOk = true ∧
      (transact handle true lift store body).2.db = done.db := by
  rcases @transact_cases handle _ _ true lift store body with
    ⟨_, failed, _⟩ | ⟨_, committed, tables, answered | ⟨_, unpublished, _⟩⟩
  · cases run.symm.trans failed
  · cases run.symm.trans committed
    rw [answered]
    exact ⟨rfl, tables⟩
  · cases unpublished

namespace TwoOperators

/-- A pause engaged at that time, and no agents. -/
def paused (engagedAtMs : UInt64) : PersistedState PolicyDecimals.reference.Decimal :=
  ⟨.empty, ⟨some ⟨engagedAtMs, .operator⟩, .empty⟩, ⟨none, none⟩⟩

/-- The compact reader and the checksum in place of the real libraries, one tag for every
message and a registry without routes. -/
def journal : PolicyJournal .reference where
  lib := .reference checksum
  handle := ⟨.testnet, true⟩
  key := .constant
  registry := ⟨fun _ _ => .ok none, fun _ => .ok [], fun _ _ => .error "no route"⟩

def fingerprint : String := String.ofList (List.replicate 64 'a')

/-- The review of a policy file that is not there. -/
def review : LegacyPolicyReview where
  evidence := ⟨"/policy.db", .testnet, 5, fingerprint, false, [], []⟩
  file _ := .ok ⟨"/policy.db", fingerprint, false, [], []⟩

def reviews : String → Option (ReleaseRequest PolicyDecimals.reference.Decimal) := fun _ => none

/-- The file before every call. -/
abbrev empty : Store := opened journal.lib journal.handle

def start : PolicyAct .reference := .initializePolicy review (paused 1) 5 none true

/-- A replacement of the first revision by the state it has. -/
def again : PolicyAct .reference := .replacePolicy 1 (paused 1) 6 none true

/-- A replacement of the first revision by another state. -/
def other : PolicyAct .reference := .replacePolicy 1 (paused 2) 6 none true

/-- The authority is initialised. -/
def began : Store := start.perform journal empty

/-- The replacement that changes nothing was made. -/
def repeated : Store := again.perform journal began

/-- So was the other one. -/
def replaced : Store := other.perform journal repeated

/-- The sample initializes its policy. -/
theorem began_run :
    Run (PolicyStep journal reviews) (opened journal.lib journal.handle) [start] began :=
  .single ⟨trivial, rfl⟩

/-- The sample repeats its own replacement, as an operator does who saw no answer. -/
theorem repeated_run :
    Run (PolicyStep journal reviews) (opened journal.lib journal.handle) [start, again] repeated :=
  began_run.snoc ⟨trivial, rfl⟩

/-- The sample is replaced by another operator, whose state differs. -/
theorem replaced_run :
    Run (PolicyStep journal reviews) (opened journal.lib journal.handle) [start, again, other]
      replaced :=
  repeated_run.snoc ⟨trivial, rfl⟩

/-- What the initialisation commits. -/
def initializing :
    Except PolicyError (Committed (PolicyVersion PolicyDecimals.reference.Decimal)) :=
  initializeBody journal review (paused 1) 5 none empty

/-- The initialization of the sample is signed. -/
theorem initializes : initializing.toOption.isSome = true := by decide +kernel

def first : Committed (PolicyVersion PolicyDecimals.reference.Decimal) :=
  initializing.toOption.get initializes

/-- The first version of the lineage. -/
def entry : PolicyEntry PolicyDecimals.reference.Decimal :=
  ⟨first.value, first.noted.elim "" Appended.hash, none, .policyInitialized review.evidence 5⟩

/-- The sample's first step is the transaction of its body. -/
theorem began_committed :
    began = (transact journal.handle true PolicyError.ledger empty initializing).2 := by
  rw [began, start, PolicyAct.perform, initializePolicy, initializing]

/-- The sample's ledger holds the row of the first version. -/
theorem began_db : began.db = first.db := by
  have run : initializing = .ok first := ok_get initializes
  rw [began_committed, (transact_publishes journal.handle PolicyError.ledger empty run).2]

/-- The sample is governed by its first version. -/
theorem began_governed :
    entry.version = ⟨1, paused 1⟩ ∧ Governed journal reviews began.db [entry] := by
  have run : initializing = .ok first := ok_get initializes
  rcases initializeBody_ok opened_tracks.consistent rfl run with
    ⟨_, none, _⟩ | ⟨_, halted, valid, follows, appended, noted, signs⟩
  · cases none
  have named :
      entry = ⟨first.value, appended.hash, none, .policyInitialized review.evidence 5⟩ := by
    rw [entry, noted]
    rfl
  have version : first.value = ⟨1, paused 1⟩ := by
    rw [signs.version]
    rfl
  refine ⟨by rw [entry, version], ?_⟩
  rw [began_db, named]
  exact opened_governed.signed signs rfl trivial valid follows (fun _ => halted) nofun

/-- The sample's first version is what a replay reads. -/
theorem began_replays : replayPolicy journal began = .ok (some entry) := by
  obtain ⟨_, near, tracks⟩ := policyRun_near began_run (by simp)
  exact began_governed.2.replays tracks near rfl

/-- No replacement here reviews a route. -/
theorem routed (store : Store) : checkSetupRoute journal store none = .ok () := rfl

/-- The sample's second step is the replacement it asked for. -/
theorem repeated_answered :
    repeated = (replacePolicy journal true 1 (paused 1) 6 none began).2 := by
  rw [repeated, again, PolicyAct.perform]

/-- The replacement by the same state is answered, and the file stays as it is. -/
theorem repeats : (replacePolicy journal true 1 (paused 1) 6 none began).1.isOk = true ∧
    repeated.db = began.db := by
  obtain ⟨version, governed⟩ := began_governed
  obtain ⟨_, _, tracks⟩ := policyRun_near began_run (by simp)
  have valid : validateState (paused 1) 6 = .ok () := eq_ok_of_some (by decide +kernel)
  have body := replaceBody_checked valid (routed began) began_replays 1
  have same : entry.version.state.Same .reference (paused 1) := by rw [version]; rfl
  rw [if_neg (fun stale => stale.1 (by rw [version])), if_pos (.inr same), publishedHead,
    tracks.consistent.headed.head_eq] at body
  have committed := transact_publishes journal.handle PolicyError.ledger began body
  refine ⟨committed.1, ?_⟩
  rw [repeated_answered, replacePolicy, committed.2]

/-- The replacement of the other operator is signed. -/
theorem commits :
    (committedPolicy journal began (some entry.link) .policyReplaced (paused 2) 6).toOption.isSome =
      true := by
  decide +kernel

/-- The states of the two operators differ. -/
theorem apart : ¬ (paused 1).Same .reference (paused 2) := by decide +kernel

/-- After it the replacement by another state goes through as well. -/
theorem replaces : (replacePolicy journal true 1 (paused 2) 6 none repeated).1.isOk = true := by
  obtain ⟨version, governed⟩ := began_governed
  obtain ⟨_, near, tracks⟩ :=
    policyRun_near repeated_run (by simp [start, again, PolicyAct.publish])
  rw [← repeats.2] at governed
  have changes : ¬ (entry.ExactRetry 1 (paused 2) ∨
      entry.version.state.Same .reference (paused 2)) := by
    rintro (⟨_, _, same⟩ | same)
    · rw [version] at same
      exact apart same
    · rw [version] at same
      exact apart same
  have valid : validateState (paused 2) 6 = .ok () := eq_ok_of_some (by decide +kernel)
  have replays : replayPolicy journal repeated = .ok (some entry) :=
    governed.replays tracks near rfl
  have body := replaceBody_checked valid (routed repeated) replays 1
  rw [if_neg (fun stale => stale.1 (by rw [version])), if_neg changes, committedPolicy,
    repeats.2] at body
  exact (transact_publishes journal.handle PolicyError.ledger repeated
    (body.trans (ok_get commits))).1

/-- Two replacements of revision 1 with different states, one of them the current state, both
succeed. -/
theorem both_succeed :
    Run (PolicyStep journal reviews) (opened journal.lib journal.handle) [start] began ∧
      ¬ (paused 1).Same .reference (paused 2) ∧
      (replacePolicy journal true 1 (paused 1) 6 none began).1.isOk = true ∧
      (replacePolicy journal true 1 (paused 2) 6 none
        (replacePolicy journal true 1 (paused 1) 6 none began).2).1.isOk = true := by
  refine ⟨began_run, apart, repeats.1, ?_⟩
  rw [← repeated_answered]
  exact replaces

/-- The authority after both replacements is one lineage, and it replays. -/
theorem replaced_linear : ∃ versions,
    LinearVersions journal reviews [start, again, other] replaced versions ∧
      replayPolicy journal replaced = .ok versions.getLast? := by
  obtain ⟨versions, linear⟩ := policy_versions_linear journal reviews replaced_run
  exact ⟨versions, linear, linear.replays rfl (by simp [start, again, PolicyAct.publish])⟩

end TwoOperators

end Oppen.Ledger
