import Mathlib.Tactic.SplitIfs
import Oppen.Accounts.Authority

/-! # The lifecycle of an account

The roster is rewritten row by row, each row read, changed and written back whole. What any
of these writes may change of a row is said once (`Amends`); what a run of calls keeps of the
rows it started from (`Keeps`), and what holds of every roster it reaches (`Orderly`), follow
from that.
-/

namespace Oppen.Accounts

open Foundation Oppen.Json Oppen.Guardrail Oppen.Ledger

/-! ## The calls -/

/-- The calls of the operator on a roster. -/
inductive RosterCall where
  | provision (address : Address) (name : String) (owner : Owner) (nowMs : Int64)
  | observe (seen : List Discovered) (nowMs : Int64)
  | optIn (address : Address)
  | optOut (address : Address)
  | retire (address : Address)

def RosterCall.op : RosterCall → MetadataOp
  | .provision address name owner nowMs => .provision address name owner nowMs
  | .observe seen nowMs => .observe seen nowMs
  | .optIn address => .optIn address
  | .optOut address => .optOut address
  | .retire address => .retire address

/-- The roster after calls, each on the ledger file as it is then. -/
def rosterAfter (journal : RegistryJournal) (accounts : List SubAccount)
    (calls : List (Store × RosterCall)) : List SubAccount :=
  calls.foldl (fun held call => (call.2.op.perform journal ⟨call.1, held⟩).2.accounts) accounts

/-! ## What a roster keeps -/

/-- The roster is one row an address, spelled one way, and one live account an owner, and
records what it provisioned. -/
structure Orderly (accounts : List SubAccount) : Prop where
  canonical : ∀ row ∈ accounts, ∃ address : Address, row.address = address.display
  distinct : (accounts.map SubAccount.address).Nodup
  single : ∀ row ∈ accounts, ∀ other ∈ accounts, row.active = true → other.active = true →
    ∀ owner, row.owner = some owner → other.owner = some owner → row = other
  recorded : ∀ row ∈ accounts, row.provisionedByOppen = true → row.recorded = true

/-- Every row of the first roster is still there, created when it was, with the owner it had,
retired and provisioned if it was. -/
def Keeps (before after : List SubAccount) : Prop :=
  ∀ row ∈ before, ∃ later ∈ after, later.address = row.address ∧
    later.createdTsMs = row.createdTsMs ∧
    (∀ owner, row.owner = some owner → later.owner = some owner) ∧
    (row.active = false → later.active = false) ∧
    (row.provisionedByOppen = true → later.provisionedByOppen = true)

theorem Keeps.refl (accounts : List SubAccount) : Keeps accounts accounts :=
  fun row member => ⟨row, member, rfl, rfl, fun _ => id, id, id⟩

/-- What is kept by one step and then by another is kept across both. -/
theorem Keeps.trans {first second third : List SubAccount} (earlier : Keeps first second)
    (later : Keeps second third) : Keeps first third := by
  intro row member
  obtain ⟨middle, inside, address, created, owner, retired, provisioned⟩ := earlier row member
  obtain ⟨last, held, address', created', owner', retired', provisioned'⟩ := later middle inside
  exact ⟨last, held, address'.trans address, created'.trans created,
    fun named owned => owner' named (owner named owned), retired' ∘ retired,
    provisioned' ∘ provisioned⟩

/-- What a write may change of the roster it was read from. -/
structure Amends (before : List SubAccount) (row : SubAccount) : Prop where
  canonical : ∃ address : Address, row.address = address.display
  owner : ∀ held ∈ before, held.address = row.address → ∀ owner, held.owner = some owner →
    row.owner = some owner
  retired : ∀ held ∈ before, held.address = row.address → held.active = false →
    row.active = false
  provisioned : ∀ held ∈ before, held.address = row.address → held.provisionedByOppen = true →
    row.provisionedByOppen = true
  recorded : row.provisionedByOppen = true → row.recorded = true
  alone : row.active = true → ∀ owner, row.owner = some owner → ∀ other ∈ before,
    other.active = true → other.owner = some owner → other.address = row.address

section Writing

variable {row held : SubAccount} {before after : List SubAccount} {key : String}

/-- The first row at an address among rows put in order of theirs. -/
theorem subAccountOn_insert : ∀ accounts : List SubAccount,
    (∀ held ∈ accounts, held.address ≠ row.address) →
      subAccountOn (insertSubAccount row accounts) key =
        if key = row.address then some row else subAccountOn accounts key
  | [], _ => by
      simp only [insertSubAccount, subAccountOn, List.find?_cons, List.find?_nil, eq_comm]
      split_ifs with here <;> simp [here]
  | first :: rest, fresh => by
      have ih := subAccountOn_insert rest
        fun held member => fresh held (List.mem_cons_of_mem _ member)
      rw [insertSubAccount]
      split
      · simp only [subAccountOn, List.find?_cons, eq_comm]
        split_ifs with here <;> simp [here]
      · simp only [subAccountOn, List.find?_cons] at ih ⊢
        rw [ih]
        by_cases here : key = row.address
        · have other : first.address ≠ key := here ▸ fresh first List.mem_cons_self
          simp [here ▸ other, here]
        · simp only [here, ↓reduceIte]

/-- The row an address shows after a write. -/
theorem subAccountOn_write (row : SubAccount) (accounts : List SubAccount) (key : String) :
    subAccountOn (writeSubAccount row accounts) key =
      if key = row.address then
        some { row with createdTsMs :=
          ((subAccountOn accounts key).map SubAccount.createdTsMs).getD row.createdTsMs }
      else subAccountOn accounts key := by
  rw [writeSubAccount]
  split
  · rename_i present
    obtain ⟨stored, inside, same⟩ := List.any_eq_true.mp present
    have lookup : (fun held : SubAccount => decide (held.address = key)) ∘ (fun held =>
        if held.address = row.address then { row with createdTsMs := held.createdTsMs } else held) =
        fun held => decide (held.address = key) := by
      funext held
      simp only [Function.comp_apply]
      split_ifs with here
      · rw [here]
      · rfl
    rw [subAccountOn, List.find?_map, lookup]
    change Option.map _ (subAccountOn accounts key) = _
    cases found : subAccountOn accounts key with
    | none =>
        have missing := List.find?_eq_none.mp found stored inside
        have other : key ≠ row.address := fun here =>
          missing (decide_eq_true ((of_decide_eq_true same).trans here.symm))
        simp only [Option.map_none, other, ↓reduceIte]
    | some held =>
        have named := (mem_of_subAccountOn found).2
        simp only [Option.map_some, named, Option.getD_some]
        split_ifs <;> rfl
  · rename_i fresh
    have absent (held : SubAccount) (member : held ∈ accounts) : held.address ≠ row.address :=
      fun same => fresh (List.any_eq_true.mpr ⟨held, member, decide_eq_true same⟩)
    rw [subAccountOn_insert accounts absent]
    split_ifs with here
    · have missing : subAccountOn accounts key = none := by
        refine List.find?_eq_none.mpr fun held member same => absent held member ?_
        exact (of_decide_eq_true same).trans here
      rw [missing]
      rfl
    · rfl

/-- A row at the address of a write keeps when it was created. -/
theorem mem_write_of_eq (member : held ∈ before) (same : held.address = row.address) :
    { row with createdTsMs := held.createdTsMs } ∈ writeSubAccount row before := by
  have present : (before.any fun other => other.address = row.address) = true :=
    List.any_eq_true.mpr ⟨held, member, decide_eq_true same⟩
  rw [writeSubAccount, if_pos present]
  exact List.mem_map.mpr ⟨held, member, if_pos same⟩

/-- Writing a row by its address leaves no address twice. -/
theorem addresses_nodup_write (distinct : (before.map SubAccount.address).Nodup) :
    ((writeSubAccount row before).map SubAccount.address).Nodup := by
  unfold writeSubAccount
  split
  · rw [List.map_map]
    have same : before.map (SubAccount.address ∘ fun held =>
        if held.address = row.address then { row with createdTsMs := held.createdTsMs } else held) =
        before.map SubAccount.address := by
      refine List.map_congr_left fun held _ => ?_
      simp only [Function.comp_apply]
      split
      · rename_i here
        exact here.symm
      · rfl
    rwa [same]
  · rename_i fresh
    refine (((insertSubAccount_perm row before).map _).nodup_iff).mpr ?_
    refine List.nodup_cons.mpr ⟨fun member => ?_, distinct⟩
    obtain ⟨held, inside, same⟩ := List.mem_map.mp member
    exact fresh (List.any_eq_true.mpr ⟨held, inside, decide_eq_true same⟩)

/-- A row that amends the table takes nothing from it that the lifecycle keeps. -/
theorem Amends.keeps (amends : Amends before row) : Keeps before (writeSubAccount row before) := by
  intro held member
  by_cases same : held.address = row.address
  · exact ⟨_, mem_write_of_eq member same, same.symm, rfl, amends.owner held member same,
      amends.retired held member same, amends.provisioned held member same⟩
  · exact ⟨held, mem_writeSubAccount_of_ne member same, rfl, rfl, fun _ => id, id, id⟩

/-- Writing a row that amends an orderly table leaves it orderly. -/
theorem Amends.orderly (amends : Amends before row) (orderly : Orderly before) :
    Orderly (writeSubAccount row before) := by
  have distinct : ((writeSubAccount row before).map SubAccount.address).Nodup :=
    addresses_nodup_write orderly.distinct
  refine ⟨?_, distinct, ?_, ?_⟩
  · intro one inside
    rcases of_mem_writeSubAccount inside with ⟨older, _⟩ | ⟨_, rfl⟩
    · exact orderly.canonical one older
    · exact amends.canonical
  · intro one inside other inside' live live' owner owned owned'
    refine List.inj_on_of_nodup_map distinct inside inside' ?_
    rcases of_mem_writeSubAccount inside with ⟨older, _⟩ | ⟨_, rfl⟩ <;>
      rcases of_mem_writeSubAccount inside' with ⟨older', _⟩ | ⟨_, rfl⟩
    · rw [orderly.single one older other older' live live' owner owned owned']
    · exact amends.alone live' owner owned' one older live owned
    · exact (amends.alone live owner owned other older' live' owned').symm
    · rfl
  · intro one inside provisioned
    rcases of_mem_writeSubAccount inside with ⟨older, _⟩ | ⟨_, rfl⟩
    · exact orderly.recorded one older provisioned
    · exact amends.recorded provisioned

end Writing

/-! ## What each call writes -/

section Calls

variable {journal : RegistryJournal} {roster : Roster} {address : Address}
  {accounts written : List SubAccount} {account held : SubAccount}

/-- A guarded write that goes through is a write. -/
theorem upsertOn_written (run : upsertOn journal roster account accounts = .ok written) :
    written = writeSubAccount account accounts := by
  have run := mapError_eq_ok run
  obtain ⟨managed, _, run⟩ := bind_eq_ok run
  cases managed with
  | false =>
      cases run
      rfl
  | true =>
      simp only [↓reduceIte] at run
      split at run
      · cases run
      · obtain ⟨_, _, run⟩ := bind_eq_ok run
        cases run
        rfl

/-- A stored row may be written back with its owner, its provisioning and no new life. -/
theorem Orderly.amends (orderly : Orderly accounts) (member : held ∈ accounts)
    (same : account.address = held.address) (owner : account.owner = held.owner)
    (active : account.active = true → held.active = true)
    (provisioned : account.provisionedByOppen = held.provisionedByOppen)
    (recorded : held.recorded = true → held.provisionedByOppen = true → account.recorded = true) :
    Amends accounts account := by
  have only (other : SubAccount) (inside : other ∈ accounts)
      (here : other.address = account.address) : other = held :=
    List.inj_on_of_nodup_map orderly.distinct inside member (here.trans same)
  refine ⟨same ▸ orderly.canonical held member, ?_, ?_, ?_, ?_, ?_⟩
  · intro other inside here named owned
    rw [owner, ← only other inside here, owned]
  · intro other inside here retired
    rw [only other inside here] at retired
    exact Bool.eq_false_iff.mpr fun live => Bool.eq_false_iff.mp retired (active live)
  · intro other inside here made
    rw [provisioned, ← only other inside here, made]
  · intro made
    rw [provisioned] at made
    exact recorded (orderly.recorded held member made) made
  · intro live named owned other inside live' owned'
    rw [same]
    rw [owner] at owned
    rw [orderly.single other inside held member live' (active live) named owned' owned]

/-- A row that is looked up is in the roster, under the display of the address asked for. -/
theorem row_ok (run : row roster address = .ok held) :
    held ∈ roster.accounts ∧ held.address = address.display := by
  rw [Accounts.row] at run
  split at run
  · cases run
  · rename_i stored
    cases run
    exact mem_of_subAccountOn stored

/-- An owner whose live account is at most the address has none elsewhere. -/
theorem checkBound_ok (orderly : Orderly roster.accounts) {owner : Owner} {bound : Option Address}
    (found : boundTo roster owner = .ok bound) (only : checkBound address owner bound = .ok ()) :
    ∀ other ∈ roster.accounts, other.active = true → other.owner = some owner →
      other.address = address.display := by
  intro other member live owned
  rw [boundTo] at found
  split at found
  · rename_i missing
    have absent := List.find?_eq_none.mp missing other member
    simp [live, owned] at absent
  · rename_i first held
    have facts := List.find?_some held
    rw [Bool.and_eq_true, decide_eq_true_eq] at facts
    have inside := List.mem_of_find?_eq_some held
    obtain rfl := orderly.single other member first inside live facts.1 owner owned facts.2
    obtain ⟨spelled, named⟩ := orderly.canonical other member
    rw [Account.fromRow, named, Address.parse_display] at found
    cases found
    have same : spelled = address := not_not.mp (refuseIf_ok only)
    rw [named, same]

/-- What a call does to the roster: nothing, or a write that it may make. -/
def Amended (before after : List SubAccount) : Prop :=
  after = before ∨ ∃ row, Amends before row ∧ after = writeSubAccount row before

/-- An upsert of a row that amends the table amends it. -/
theorem Amended.of_upsert (upserted : upsertOn journal roster account accounts = .ok written)
    (amends : Amends accounts account) : Amended accounts written :=
  .inr ⟨account, amends, upsertOn_written upserted⟩

/-- Provisioning amends the table: it adds a row, or updates the one of that address. -/
theorem provisionBody_amends (orderly : Orderly roster.accounts) {name : String} {owner : Owner}
    {nowMs : Int64} {answer : Account}
    (run : provisionBody journal roster address name owner nowMs = .ok (answer, accounts)) :
    Amended roster.accounts accounts := by
  obtain ⟨_, existing, run⟩ := bind_eq_ok run
  obtain ⟨bound, found, run⟩ := bind_eq_ok run
  obtain ⟨_, only, run⟩ := bind_eq_ok run
  obtain ⟨written, upserted, run⟩ := bind_eq_ok run
  obtain ⟨_, _, run⟩ := bind_eq_ok run
  cases run
  have stored (held : SubAccount) (member : held ∈ roster.accounts)
      (same : held.address = address.display) :
      held.active = true ∧ ∀ current, held.owner = some current → current = owner := by
    have lookup : subAccountOn roster.accounts address.display = some held := by
      cases missing : subAccountOn roster.accounts address.display with
      | none => exact absurd (decide_eq_true same) (List.find?_eq_none.mp missing held member)
      | some first =>
          obtain ⟨inside, named⟩ := mem_of_subAccountOn missing
          rw [List.inj_on_of_nodup_map orderly.distinct inside member (named.trans same.symm)]
    rw [lookup] at existing
    obtain ⟨_, live, existing⟩ := bind_eq_ok existing
    refine ⟨by simpa using refuseIf_ok live, fun current owned => ?_⟩
    rw [owned] at existing
    exact not_not.mp (refuseIf_ok existing)
  refine .of_upsert upserted ⟨⟨address, rfl⟩, ?_, ?_, fun _ _ _ _ => rfl, fun _ => rfl, ?_⟩
  · intro held member same current owned
    rw [(stored held member same).2 current owned]
  · intro held member same retired
    rw [(stored held member same).1] at retired
    exact absurd retired (by decide)
  · intro _ named owned
    obtain rfl := Option.some.inj owned
    exact checkBound_ok orderly found only

/-- Setting whether an account is recorded amends its row alone. -/
theorem setRecordedBody_amends (orderly : Orderly roster.accounts) {recorded : Bool}
    {answer : Account}
    (run : setRecordedBody journal roster address recorded = .ok (answer, accounts)) :
    Amended roster.accounts accounts := by
  obtain ⟨_, _, run⟩ := bind_eq_ok run
  obtain ⟨held, found, run⟩ := bind_eq_ok run
  obtain ⟨_, _, run⟩ := bind_eq_ok run
  obtain ⟨_, allowed, run⟩ := bind_eq_ok run
  split at run
  · obtain ⟨_, _, run⟩ := bind_eq_ok run
    cases run
    exact .inl rfl
  · obtain ⟨written, upserted, run⟩ := bind_eq_ok run
    obtain ⟨_, _, run⟩ := bind_eq_ok run
    cases run
    refine .of_upsert upserted (orderly.amends (row_ok found).1 rfl rfl id rfl ?_)
    intro _ provisioned
    -- what oppen provisioned may only be opted in
    by_contra off
    exact refuseIf_ok allowed ⟨Bool.eq_false_iff.mpr off, provisioned⟩

/-- Retiring an account amends its row alone. -/
theorem retireBody_amends (orderly : Orderly roster.accounts) {answer : Account}
    (run : retireBody journal roster address = .ok (answer, accounts)) :
    Amended roster.accounts accounts := by
  obtain ⟨_, _, run⟩ := bind_eq_ok run
  obtain ⟨held, found, run⟩ := bind_eq_ok run
  split at run
  · obtain ⟨_, _, run⟩ := bind_eq_ok run
    cases run
    exact .inl rfl
  · obtain ⟨written, upserted, run⟩ := bind_eq_ok run
    obtain ⟨_, _, run⟩ := bind_eq_ok run
    cases run
    exact .of_upsert upserted
      (orderly.amends (row_ok found).1 rfl rfl nofun rfl fun kept _ => kept)

/-- What a sweep writes for one discovered address amends the table. -/
theorem observeOne_amends {nowMs : Int64} {before after : DiscoveryReport × List SubAccount}
    (orderly : Orderly before.2) {key : String} {seen : Discovered}
    (canonical : key = seen.address.display)
    (run : observeOne journal roster nowMs before (key, seen) = .ok after) :
    Amended before.2 after.2 := by
  obtain ⟨report, accounts⟩ := before
  simp only [observeOne] at run
  split at run
  · rename_i held found
    split at run
    · cases run
      exact .inl rfl
    · obtain ⟨written, upserted, run⟩ := bind_eq_ok run
      cases run
      exact .of_upsert upserted
        (orderly.amends (mem_of_subAccountOn found).1 rfl rfl id rfl fun kept _ => kept)
  · rename_i missing
    obtain ⟨written, upserted, run⟩ := bind_eq_ok run
    cases run
    have fresh (held : SubAccount) (member : held ∈ accounts) : held.address ≠ key := fun same =>
      List.find?_eq_none.mp missing held member (decide_eq_true same)
    refine .of_upsert upserted ⟨⟨seen.address, canonical⟩, ?_, ?_, ?_, ?_, ?_⟩
    · exact fun held member same => absurd same (fresh held member)
    · exact fun held member same => absurd same (fresh held member)
    · exact fun held member same => absurd same (fresh held member)
    · intro provisioned
      cases provisioned
    · intro _ owner owned
      cases owned

/-- A table that was amended has kept what the lifecycle keeps. -/
theorem Amended.keeps (amended : Amended accounts written) : Keeps accounts written := by
  rcases amended with rfl | ⟨account, amends, rfl⟩
  · exact .refl _
  · exact amends.keeps

/-- A table that was amended is as orderly as it was. -/
theorem Amended.orderly (amended : Amended accounts written) (orderly : Orderly accounts) :
    Orderly written := by
  rcases amended with rfl | ⟨account, amends, rfl⟩
  · exact orderly
  · exact amends.orderly orderly

/-- A sweep is a write, or none, for each address it saw. -/
theorem observe_keeps {nowMs : Int64} {entries : List (String × Discovered)}
    {before after : DiscoveryReport × List SubAccount} (orderly : Orderly before.2)
    (canonical : ∀ entry ∈ entries, entry.1 = entry.2.address.display)
    (run : entries.foldlM (observeOne journal roster nowMs) before = .ok after) :
    Orderly after.2 ∧ Keeps before.2 after.2 := by
  induction entries generalizing before with
  | nil =>
      cases run
      exact ⟨orderly, .refl _⟩
  | cons entry rest ih =>
      rw [List.foldlM_cons] at run
      obtain ⟨middle, first, run⟩ := bind_eq_ok run
      have amended := observeOne_amends orderly (canonical entry List.mem_cons_self) first
      obtain ⟨orderly', keeps⟩ := ih (amended.orderly orderly)
        (fun other member => canonical other (List.mem_cons_of_mem _ member)) run
      exact ⟨orderly', amended.keeps.trans keeps⟩

/-- A call keeps the order of the table and its rows when its body does. -/
theorem transaction_keeps {α : Type} {body : Except AccountsError (α × List SubAccount)}
    (orderly : Orderly roster.accounts)
    (spec : ∀ value accounts, body = .ok (value, accounts) →
      Orderly accounts ∧ Keeps roster.accounts accounts) :
    Orderly (settled (registryTransaction roster body)).2.accounts ∧
      Keeps roster.accounts (settled (registryTransaction roster body)).2.accounts := by
  rcases registryTransaction_cases roster body with
    ⟨error, _, refused⟩ | ⟨value, accounts, run, written⟩
  · rw [refused]
    exact ⟨orderly, .refl _⟩
  · rw [written]
    exact spec value accounts run

/-- **What one call keeps.** -/
theorem RosterCall.keeps (call : RosterCall) (orderly : Orderly roster.accounts) :
    Orderly (call.op.perform journal roster).2.accounts ∧
      Keeps roster.accounts (call.op.perform journal roster).2.accounts := by
  have amended {written : List SubAccount} (done : Amended roster.accounts written) :
      Orderly written ∧ Keeps roster.accounts written :=
    ⟨done.orderly orderly, done.keeps⟩
  cases call with
  | provision address name owner nowMs =>
      exact transaction_keeps orderly fun _ _ run => amended (provisionBody_amends orderly run)
  | observe seen nowMs =>
      refine transaction_keeps orderly fun report accounts run => ?_
      exact observe_keeps orderly (fun entry member => ((wanted_facts seen).1 entry member).1) run
  | optIn address =>
      exact transaction_keeps orderly fun _ _ run => amended (setRecordedBody_amends orderly run)
  | optOut address =>
      exact transaction_keeps orderly fun _ _ run => amended (setRecordedBody_amends orderly run)
  | retire address =>
      exact transaction_keeps orderly fun _ _ run => amended (retireBody_amends orderly run)

/-- A call that is refused leaves the file and the roster. -/
theorem RosterCall.refused (call : RosterCall) {error : AccountsError}
    (refused : (call.op.perform journal roster).1 = .error error) :
    (call.op.perform journal roster).2 = roster := by
  have transacted {α : Type} (body : Except AccountsError (α × List SubAccount))
      (failed : (settled (registryTransaction roster body)).1 = .error error) :
      (settled (registryTransaction roster body)).2 = roster := by
    rcases registryTransaction_cases roster body with
      ⟨_, _, refused⟩ | ⟨value, accounts, _, written⟩
    · rw [refused]
      rfl
    · rw [written] at failed
      cases failed
  cases call <;> exact transacted _ refused

end Calls

/-! ## What a sweep changes -/

/-- The row of an address a sweep saw: its name the one seen, or a row of its own, unowned and
unrecorded. -/
def sighted (nowMs : Int64) (seen : Discovered) : Option SubAccount → SubAccount
  | some row => { row with name := seen.name }
  | none => {
      address := seen.address.display, name := seen.name, owner := none, recorded := false
      provisionedByOppen := false, active := true, createdTsMs := nowMs }

/-- The roster before shows the address under that name. -/
def Known (before : List SubAccount) (seen : Discovered) : Prop :=
  ∃ row ∈ subAccountOn before seen.address.display, row.name = seen.name

/-- The roster before shows the address under another name. -/
def Renamed (before : List SubAccount) (seen : Discovered) : Prop :=
  ∃ row ∈ subAccountOn before seen.address.display, row.name ≠ seen.name

instance (before : List SubAccount) (seen : Discovered) : Decidable (Known before seen) :=
  inferInstanceAs (Decidable (∃ row ∈ _, _))

instance (before : List SubAccount) (seen : Discovered) : Decidable (Renamed before seen) :=
  inferInstanceAs (Decidable (∃ row ∈ _, _))

/-- What a sweep over those addresses did, and what it reports of it. -/
structure Swept (nowMs : Int64) (seen : List Discovered) (before after : List SubAccount)
    (start report : DiscoveryReport) : Prop where
  at_seen : ∀ entry ∈ seen, subAccountOn after entry.address.display =
    some (sighted nowMs entry (subAccountOn before entry.address.display))
  elsewhere : ∀ key, (∀ entry ∈ seen, entry.address.display ≠ key) →
    subAccountOn after key = subAccountOn before key
  added : report.added = start.added ++ (seen.filter fun entry =>
    subAccountOn before entry.address.display = none).map Discovered.address
  renamed : report.renamed = start.renamed ++
    (seen.filter (Renamed before ·)).map Discovered.address
  unchanged : report.unchanged = start.unchanged + seen.countP (Known before ·)

section Sweeping

variable {journal : RegistryJournal} {roster : Roster} {nowMs : Int64}

/-- A sweep of one discovered address is accounted for in its report. -/
theorem observeOne_swept {before after : DiscoveryReport × List SubAccount} {seen : Discovered}
    (run : observeOne journal roster nowMs before (seen.address.display, seen) = .ok after) :
    Swept nowMs [seen] before.2 after.2 before.1 after.1 := by
  obtain ⟨start, accounts⟩ := before
  simp only [observeOne] at run
  split at run
  · rename_i held found
    obtain ⟨-, named⟩ := mem_of_subAccountOn found
    split at run
    · rename_i same
      cases run
      refine ⟨?_, fun _ _ => rfl, ?_, ?_, ?_⟩
      · rw [List.forall_mem_singleton, found, sighted, ← same]
      · simp [found]
      · simp [Renamed, found, same]
      · simp [Known, found, same]
    · rename_i other
      obtain ⟨written, upserted, run⟩ := bind_eq_ok run
      cases run
      obtain rfl := upsertOn_written upserted
      refine ⟨?_, ?_, ?_, ?_, ?_⟩
      · rw [List.forall_mem_singleton, subAccountOn_write, if_pos named.symm, found]
        rfl
      · intro key apart
        rw [subAccountOn_write, if_neg]
        rw [named]
        exact (apart seen List.mem_cons_self).symm
      · simp [found]
      · simp [Renamed, found, other]
      · simp [Known, found, other]
  · rename_i missing
    obtain ⟨written, upserted, run⟩ := bind_eq_ok run
    cases run
    obtain rfl := upsertOn_written upserted
    refine ⟨?_, ?_, ?_, ?_, ?_⟩
    · rw [List.forall_mem_singleton, subAccountOn_write, if_pos rfl, missing]
      rfl
    · intro key apart
      rw [subAccountOn_write, if_neg (apart seen List.mem_cons_self).symm]
    · simp [missing]
    · simp [Renamed, missing]
    · simp [Known, missing]

/-- Sweeps over different addresses add up. -/
theorem Swept.cons {first : Discovered} {rest : List Discovered}
    {before middle after : List SubAccount} {start halfway report : DiscoveryReport}
    (fresh : ∀ entry ∈ rest, first.address.display ≠ entry.address.display)
    (one : Swept nowMs [first] before middle start halfway)
    (others : Swept nowMs rest middle after halfway report) :
    Swept nowMs (first :: rest) before after start report := by
  have untouched (entry : Discovered) (member : entry ∈ rest) :
      subAccountOn middle entry.address.display = subAccountOn before entry.address.display := by
    refine one.elsewhere _ fun other inside => ?_
    rw [List.mem_singleton.mp inside]
    exact fresh entry member
  refine ⟨?_, ?_, ?_, ?_, ?_⟩
  · rw [List.forall_mem_cons]
    constructor
    · rw [others.elsewhere _ fun entry member => (fresh entry member).symm]
      exact one.at_seen first List.mem_cons_self
    · intro entry member
      rw [others.at_seen entry member, untouched entry member]
  · intro key apart
    rw [others.elsewhere key fun entry member => apart entry (List.mem_cons_of_mem _ member),
      one.elsewhere key (List.forall_mem_singleton.mpr (apart first List.mem_cons_self))]
  · have same : (rest.filter fun entry => subAccountOn middle entry.address.display = none) =
        rest.filter fun entry => subAccountOn before entry.address.display = none :=
      List.filter_congr fun entry member => by rw [untouched entry member]
    rw [others.added, one.added, same, List.append_assoc, ← List.map_append, ← List.filter_append,
      List.singleton_append]
  · have same : rest.filter (Renamed middle ·) = rest.filter (Renamed before ·) :=
      List.filter_congr fun entry member =>
        decide_eq_decide.mpr (by rw [Renamed, Renamed, untouched entry member])
    rw [others.renamed, one.renamed, same, List.append_assoc, ← List.map_append,
      ← List.filter_append, List.singleton_append]
  · have same : rest.countP (Known middle ·) = rest.countP (Known before ·) :=
      List.countP_congr fun entry member => by
        rw [decide_eq_true_iff, decide_eq_true_iff, Known, Known, untouched entry member]
    rw [others.unchanged, one.unchanged, same, Nat.add_assoc, ← List.countP_append,
      List.singleton_append]

/-- **What a sweep changes and reports**, by induction on the addresses it saw. -/
theorem observe_swept {entries : List (String × Discovered)}
    {before after : DiscoveryReport × List SubAccount}
    (keyed : ∀ entry ∈ entries, entry.1 = entry.2.address.display)
    (distinct : (entries.map Prod.fst).Nodup)
    (run : entries.foldlM (observeOne journal roster nowMs) before = .ok after) :
    Swept nowMs (entries.map Prod.snd) before.2 after.2 before.1 after.1 := by
  induction entries generalizing before with
  | nil =>
      cases run
      exact ⟨nofun, fun _ _ => rfl, (List.append_nil _).symm, (List.append_nil _).symm, rfl⟩
  | cons entry rest ih =>
      obtain ⟨key, seen⟩ := entry
      obtain rfl : key = seen.address.display := keyed (key, seen) List.mem_cons_self
      rw [List.foldlM_cons] at run
      obtain ⟨middle, first, run⟩ := bind_eq_ok run
      obtain ⟨fresh, distinct⟩ := List.nodup_cons.mp distinct
      have keyed' (entry : String × Discovered) (member : entry ∈ rest) :
          entry.1 = entry.2.address.display :=
        keyed entry (List.mem_cons_of_mem _ member)
      refine (observeOne_swept first).cons (fun other member same => fresh ?_)
        (ih keyed' distinct run)
      obtain ⟨pair, inside, rfl⟩ := List.mem_map.mp member
      exact List.mem_map.mpr ⟨pair, inside, (keyed' pair inside).trans same.symm⟩

/-- A sweep of accounts the roster shows under those names writes nothing. -/
theorem observe_known (journal : RegistryJournal) (roster : Roster) (nowMs : Int64)
    {entries : List (String × Discovered)} {report : DiscoveryReport}
    {accounts : List SubAccount} (keyed : ∀ entry ∈ entries, entry.1 = entry.2.address.display)
    (known : ∀ entry ∈ entries, Known accounts entry.2) :
    entries.foldlM (observeOne journal roster nowMs) (report, accounts) =
      .ok ({ report with unchanged := report.unchanged + entries.length }, accounts) := by
  induction entries generalizing report with
  | nil => rfl
  | cons entry rest ih =>
      obtain ⟨key, seen⟩ := entry
      obtain rfl : key = seen.address.display := keyed (key, seen) List.mem_cons_self
      obtain ⟨row, shown, named⟩ := known (_, seen) List.mem_cons_self
      have first : observeOne journal roster nowMs (report, accounts) (seen.address.display, seen) =
          .ok ({ report with unchanged := report.unchanged + 1 }, accounts) := by
        simp only [observeOne, Option.mem_def.mp shown, named, ↓reduceIte]
        rfl
      have later := @ih { report with unchanged := report.unchanged + 1 }
        (fun entry member => keyed entry (List.mem_cons_of_mem _ member))
        (fun entry member => known entry (List.mem_cons_of_mem _ member))
      rw [List.foldlM_cons, first]
      refine later.trans ?_
      rw [List.length_cons, Nat.add_assoc, Nat.add_comm 1]

/-- What a sweep reports of the roster it found. -/
theorem observe_ok_swept {seen : List Discovered} {report : DiscoveryReport}
    (run : (observe journal roster seen nowMs).1 = .ok report) :
    Swept nowMs (wanted seen).values roster.accounts (observe journal roster seen nowMs).2.accounts
      ⟨[], [], 0⟩ report := by
  obtain ⟨named, distinct, -⟩ := wanted_facts seen
  rcases registryTransaction_cases roster
      ((wanted seen).entries.foldlM (observeOne journal roster nowMs)
        (⟨[], [], 0⟩, roster.accounts))
    with ⟨error, _, refused⟩ | ⟨value, accounts, swept, written⟩
  · rw [observe, refused] at run
    cases run
  · rw [observe, written] at run ⊢
    cases run
    exact observe_swept (fun entry member => (named entry member).1) distinct swept

/-- A sweep repeated finds every account as it left it. -/
theorem observe_again {seen : List Discovered} {report : DiscoveryReport}
    (run : (observe journal roster seen nowMs).1 = .ok report) (store : Store) (laterMs : Int64) :
    observe journal ⟨store, (observe journal roster seen nowMs).2.accounts⟩ seen laterMs =
      (.ok ⟨[], [], (wanted seen).entries.length⟩,
        ⟨store, (observe journal roster seen nowMs).2.accounts⟩) := by
  have swept := observe_ok_swept run
  obtain ⟨named, -, -⟩ := wanted_facts seen
  have known (entry : String × Discovered) (member : entry ∈ (wanted seen).entries) :
      Known (observe journal roster seen nowMs).2.accounts entry.2 := by
    refine ⟨_, swept.at_seen entry.2 (List.mem_map_of_mem member), ?_⟩
    cases subAccountOn roster.accounts entry.2.address.display <;> rfl
  have again := @observe_known journal ⟨store, (observe journal roster seen nowMs).2.accounts⟩
    laterMs (wanted seen).entries ⟨[], [], 0⟩ _ (fun entry member => (named entry member).1) known
  generalize (observe journal roster seen nowMs).2.accounts = accounts at again ⊢
  rw [observe, again, Nat.zero_add]
  rfl

end Sweeping

/-! ## Runs -/

/-- What holds of a roster that calls reach, and of the calls that follow. -/
structure Lifecycle (journal : RegistryJournal) (roster : List SubAccount) : Prop where
  orderly : Orderly roster
  keeps : ∀ calls, Keeps roster (rosterAfter journal roster calls)
  refused : ∀ store (call : RosterCall) error,
    (call.op.perform journal ⟨store, roster⟩).1 = .error error →
      (call.op.perform journal ⟨store, roster⟩).2 = ⟨store, roster⟩
  swept : ∀ store seen nowMs report, (observe journal ⟨store, roster⟩ seen nowMs).1 = .ok report →
    Swept nowMs (wanted seen).values roster (observe journal ⟨store, roster⟩ seen nowMs).2.accounts
      ⟨[], [], 0⟩ report
  again : ∀ store seen nowMs report, (observe journal ⟨store, roster⟩ seen nowMs).1 = .ok report →
    ∀ later laterMs,
      observe journal ⟨later,
        (observe journal ⟨store, roster⟩ seen nowMs).2.accounts⟩ seen laterMs =
        (.ok ⟨[], [], (wanted seen).values.length⟩,
          ⟨later, (observe journal ⟨store, roster⟩ seen nowMs).2.accounts⟩)

/-- From an orderly roster every sequence of calls keeps the order and, from call to call, the
rows. -/
theorem rosterAfter_keeps {journal : RegistryJournal} {roster : List SubAccount}
    (orderly : Orderly roster) (calls : List (Store × RosterCall)) :
    Orderly (rosterAfter journal roster calls) ∧
      Keeps roster (rosterAfter journal roster calls) := by
  induction calls generalizing roster with
  | nil => exact ⟨orderly, .refl _⟩
  | cons call rest ih =>
      obtain ⟨orderly', keeps⟩ := @RosterCall.keeps journal ⟨call.1, roster⟩ call.2 orderly
      obtain ⟨orderly'', keeps'⟩ := ih orderly'
      exact ⟨orderly'', keeps.trans keeps'⟩

/-- The empty roster is orderly, so every lifecycle starts from one that is. -/
theorem Orderly.nil : Orderly [] := ⟨nofun, .nil, nofun, nofun⟩

/-- **The lifecycle of every account.** From an empty roster, after any calls on any ledger. The
roster stays orderly and keeps what it knows from call to call, a refused call leaves the file and
the rows, a sweep reports exactly what it changed, and the same sweep over again finds nothing to
do. -/
theorem rosterAfter_lifecycle (journal : RegistryJournal) (calls : List (Store × RosterCall)) :
    Lifecycle journal (rosterAfter journal [] calls) := by
  have orderly : Orderly (rosterAfter journal [] calls) := (rosterAfter_keeps Orderly.nil calls).1
  refine ⟨orderly, fun later => (rosterAfter_keeps orderly later).2, ?_, ?_, ?_⟩
  · exact fun _ call _ failed => call.refused failed
  · exact fun _ _ _ _ run => observe_ok_swept run
  · intro store seen nowMs report run later laterMs
    rw [KeyMap.values, List.length_map]
    exact observe_again run later laterMs

end Oppen.Accounts
