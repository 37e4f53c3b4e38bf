import Oppen.Ledger.Registry

/-! # What the registry holds its metadata to

The checks of a projection as a property of the table, and what one write of the table
keeps of it.
-/

namespace Oppen.Ledger

open Foundation Oppen.Json Oppen.Guardrail

/-! ## Writes of the table -/

section Writes

variable {account row : SubAccount} {accounts : List SubAccount}

/-- Inserting a row adds it to the table, wherever its place is. -/
theorem insertSubAccount_perm (account : SubAccount) : ∀ accounts : List SubAccount,
    (insertSubAccount account accounts).Perm (account :: accounts)
  | [] => .refl _
  | held :: rest => by
      rw [insertSubAccount]
      split
      · exact .refl _
      · exact ((insertSubAccount_perm account rest).cons held).trans (.swap account held rest)

/-- A row of the written table is an old one under another key, or the new one. -/
theorem of_mem_writeSubAccount (member : row ∈ writeSubAccount account accounts) :
    (row ∈ accounts ∧ row.address ≠ account.address) ∨
      ∃ createdTsMs, row = { account with createdTsMs } := by
  unfold writeSubAccount at member
  split at member
  · obtain ⟨held, inside, rfl⟩ := List.mem_map.mp member
    split
    · exact .inr ⟨held.createdTsMs, rfl⟩
    · rename_i other
      exact .inl ⟨inside, other⟩
  · rename_i fresh
    rcases List.mem_cons.mp ((insertSubAccount_perm account accounts).mem_iff.mp member) with
      rfl | older
    · exact .inr ⟨row.createdTsMs, rfl⟩
    · refine .inl ⟨older, fun same => fresh (List.any_eq_true.mpr ⟨row, older, ?_⟩)⟩
      exact decide_eq_true same

/-- Writing a row leaves those of other addresses. -/
theorem mem_writeSubAccount_of_ne (member : row ∈ accounts)
    (other : row.address ≠ account.address) :
    row ∈ writeSubAccount account accounts := by
  unfold writeSubAccount
  split
  · exact List.mem_map.mpr ⟨row, member, if_neg other⟩
  · exact (insertSubAccount_perm account accounts).mem_iff.mpr (List.mem_cons_of_mem _ member)

/-- A row that was written is in the table, with the time of its creation. -/
theorem written_mem (account : SubAccount) (accounts : List SubAccount) :
    ∃ createdTsMs, { account with createdTsMs } ∈ writeSubAccount account accounts := by
  unfold writeSubAccount
  split
  · rename_i found
    obtain ⟨held, inside, same⟩ := List.any_eq_true.mp found
    exact ⟨held.createdTsMs, List.mem_map.mpr ⟨held, inside, if_pos (of_decide_eq_true same)⟩⟩
  · exact ⟨account.createdTsMs,
      (insertSubAccount_perm account accounts).mem_iff.mpr (List.mem_cons_self ..)⟩

end Writes

/-! ## Tables by address -/

/-- Every row has an address, and no two have the same one. A projection reads the table by address,
so two rows of one address would leave it undecided. -/
structure Table (accounts : List SubAccount) : Prop where
  parsed : ∀ row ∈ accounts, ∃ address, Address.parse row.address = some address
  distinct : (accounts.map fun row => Address.parse row.address).Nodup

/-- An empty table is one. -/
theorem Table.nil : Table [] := ⟨fun _ member => absurd member List.not_mem_nil, .nil⟩

/-- The address has no other spelling in the table. -/
def Unaliased (accounts : List SubAccount) (account : SubAccount) : Prop :=
  ∀ row ∈ accounts, Address.parse row.address = Address.parse account.address →
    row.address = account.address

section Tables

variable {account row other : SubAccount} {accounts : List SubAccount} {address : Address}

/-- A table has one row of each address. -/
theorem Table.eq_of_parse (table : Table accounts) (member : row ∈ accounts)
    (member' : other ∈ accounts) (same : Address.parse row.address = Address.parse other.address) :
    row = other :=
  List.inj_on_of_nodup_map table.distinct member member' same

/-- Writing a row keeps a table, where no other text names its address. -/
theorem Table.write (table : Table accounts) (parsed : Address.parse account.address = some address)
    (unaliased : Unaliased accounts account) : Table (writeSubAccount account accounts) where
  parsed row member := by
    rcases of_mem_writeSubAccount member with ⟨older, _⟩ | ⟨_, rfl⟩
    · exact table.parsed row older
    · exact ⟨address, parsed⟩
  distinct := by
    unfold writeSubAccount
    split
    · rw [List.map_map]
      have same : ∀ held ∈ accounts, ((fun row : SubAccount => Address.parse row.address) ∘
          fun held => if held.address = account.address then
            { account with createdTsMs := held.createdTsMs } else held) held =
          Address.parse held.address := by
        intro held _
        simp only [Function.comp_apply]
        split
        · rename_i here
          rw [here]
        · rfl
      rw [List.map_congr_left same]
      exact table.distinct
    · rename_i fresh
      refine (((insertSubAccount_perm account accounts).map _).nodup_iff).mpr ?_
      refine List.nodup_cons.mpr ⟨fun member => ?_, table.distinct⟩
      obtain ⟨held, inside, same⟩ := List.mem_map.mp member
      exact fresh (List.any_eq_true.mpr ⟨held, inside, decide_eq_true (unaliased held inside same)⟩)

/-- A write under a second spelling of an address breaks the table. -/
theorem Table.unaliased_of_write (table : Table (writeSubAccount account accounts)) :
    Unaliased accounts account := by
  intro row member same
  by_contra other
  obtain ⟨createdTsMs, inside⟩ := written_mem account accounts
  have one := table.eq_of_parse (mem_writeSubAccount_of_ne member other) inside same
  rw [one] at other
  exact other rfl

/-- A table was one before a row of a new address was written. -/
theorem Table.of_write (table : Table (writeSubAccount account accounts))
    (known : subAccountOn accounts account.address = none) : Table accounts where
  parsed row member := by
    refine table.parsed row (mem_writeSubAccount_of_ne member fun same => ?_)
    exact List.find?_eq_none.mp known row member (decide_eq_true same)
  distinct := by
    have fresh : ¬ (accounts.any fun held => held.address = account.address) = true := by
      intro found
      obtain ⟨held, inside, same⟩ := List.any_eq_true.mp found
      exact List.find?_eq_none.mp known held inside same
    have whole := table.distinct
    rw [writeSubAccount, if_neg fresh] at whole
    exact (List.nodup_cons.mp
      (((insertSubAccount_perm account accounts).map _).nodup_iff.mp whole)).2

/-- A projection that could be read has every row of the table, with the address it names. -/
theorem projectionAccounts_ok :
    ∀ {accounts : List SubAccount} {pairs : List (Address × SubAccount)},
    projectionAccounts accounts = .ok pairs → pairs.map Prod.snd = accounts ∧
      ∀ pair ∈ pairs, Address.parse pair.2.address = some pair.1
  | [], _, rfl => ⟨rfl, fun _ member => absurd member List.not_mem_nil⟩
  | account :: rest, pairs, run => by
      rw [projectionAccounts] at run
      split at run
      · cases run
      · rename_i address parsed
        obtain ⟨others, read, run⟩ := bind_eq_ok run
        obtain ⟨_, _, run⟩ := bind_eq_ok run
        cases run
        obtain ⟨same, all⟩ := projectionAccounts_ok read
        refine ⟨by rw [List.map_cons, same], fun pair member => ?_⟩
        rcases List.mem_cons.mp member with rfl | later
        · exact parsed
        · exact all pair later

/-- **The table is read by address exactly when it is one.** -/
theorem projectionAccounts_iff : (∃ pairs, projectionAccounts accounts = .ok pairs) ↔
    Table accounts := by
  induction accounts with
  | nil => exact ⟨fun _ => .nil, fun _ => ⟨[], rfl⟩⟩
  | cons account rest ih =>
      constructor
      · rintro ⟨pairs, run⟩
        rw [projectionAccounts] at run
        split at run
        · cases run
        · rename_i address parsed
          obtain ⟨others, read, run⟩ := bind_eq_ok run
          obtain ⟨_, distinct, run⟩ := bind_eq_ok run
          obtain ⟨same, all⟩ := projectionAccounts_ok read
          have table := ih.mp ⟨others, read⟩
          refine ⟨fun row member => ?_, List.nodup_cons.mpr ⟨fun member => ?_, table.distinct⟩⟩
          · rcases List.mem_cons.mp member with rfl | later
            · exact ⟨address, parsed⟩
            · exact table.parsed row later
          · obtain ⟨held, inside, equal⟩ := List.mem_map.mp member
            rw [← same] at inside
            obtain ⟨pair, here, rfl⟩ := List.mem_map.mp inside
            refine refuseIf_ok distinct ⟨pair, here, ?_⟩
            rw [all pair here] at equal
            exact Option.some.inj (equal.trans parsed)
      · intro table
        obtain ⟨address, parsed⟩ := table.parsed account (List.mem_cons_self ..)
        obtain ⟨fresh, distinct⟩ := List.nodup_cons.mp table.distinct
        obtain ⟨others, read⟩ := ih.mpr
          ⟨fun row member => table.parsed row (List.mem_cons_of_mem _ member), distinct⟩
        obtain ⟨same, all⟩ := projectionAccounts_ok read
        refine ⟨(address, account) :: others, ?_⟩
        have unique : ¬ ∃ other ∈ others, other.1 = address := by
          rintro ⟨other, inside, rfl⟩
          refine fresh (List.mem_map.mpr ⟨other.2, ?_, ?_⟩)
          · rw [← same]
            exact List.mem_map_of_mem inside
          · exact (all other inside).trans parsed.symm
        simp only [projectionAccounts, parsed, read, bind, Except.bind, refuseIf, if_neg unique]
        rfl

/-- The rows by address are those of the table. -/
theorem mem_projection {pairs : List (Address × SubAccount)}
    (read : projectionAccounts accounts = .ok pairs) :
    (address, row) ∈ pairs ↔ row ∈ accounts ∧ Address.parse row.address = some address := by
  obtain ⟨same, all⟩ := projectionAccounts_ok read
  constructor
  · intro member
    refine ⟨?_, all _ member⟩
    rw [← same]
    exact List.mem_map_of_mem member
  · rintro ⟨member, parsed⟩
    rw [← same] at member
    obtain ⟨pair, inside, rfl⟩ := List.mem_map.mp member
    have first := all pair inside
    rw [parsed] at first
    obtain rfl := Option.some.inj first
    exact inside

/-- The projection shows a row under an address exactly if the table has it. -/
theorem projected_eq_some {pairs : List (Address × SubAccount)}
    (read : projectionAccounts accounts = .ok pairs) :
    projected pairs address = some row ↔ row ∈ accounts ∧
      Address.parse row.address = some address := by
  have table := projectionAccounts_iff.mp ⟨pairs, read⟩
  constructor
  · intro found
    obtain ⟨pair, here, rfl⟩ := Option.map_eq_some_iff.mp found
    have same : pair.1 = address := by simpa using List.find?_some here
    refine (mem_projection read).mp ?_
    rw [← same]
    exact List.mem_of_find?_eq_some here
  · intro facts
    have member := (mem_projection read).mpr facts
    rw [projected]
    cases found : pairs.find? fun held => held.1 = address with
    | none =>
        have none := List.find?_eq_none.mp found _ member
        simp only [decide_true, not_true_eq_false] at none
    | some pair =>
        have same : pair.1 = address := by simpa using List.find?_some found
        have inside : (address, pair.2) ∈ pairs := by
          rw [← same]
          exact List.mem_of_find?_eq_some found
        have other := (mem_projection read).mp inside
        rw [Option.map_some, table.eq_of_parse facts.1 other.1 (facts.2.trans other.2.symm)]

/-- An owner is ambiguous exactly if an active row of another address names it. -/
theorem ambiguous_iff {pairs : List (Address × SubAccount)} {owner : Owner}
    (read : projectionAccounts accounts = .ok pairs) :
    Ambiguous pairs owner address ↔ ∃ row ∈ accounts, row.active = true ∧ row.owner = some owner ∧
      Address.parse row.address ≠ some address := by
  constructor
  · rintro ⟨⟨found, row⟩, member, active, owned, other⟩
    obtain ⟨inside, parsed⟩ := (mem_projection read).mp member
    refine ⟨row, inside, active, owned, fun same => other ?_⟩
    rw [parsed] at same
    exact Option.some.inj same
  · rintro ⟨row, inside, active, owned, other⟩
    have table := projectionAccounts_iff.mp ⟨pairs, read⟩
    obtain ⟨found, parsed⟩ := table.parsed row inside
    refine ⟨(found, row), (mem_projection read).mpr ⟨inside, parsed⟩, active, owned, ?_⟩
    rintro rfl
    exact other parsed

end Tables

/-! ## Grants in the table -/

/-- The table shows the grant: its row is owned, recorded and active while it is live, and
while it is live no other active row has its owner. -/
structure Shows (accounts : List SubAccount) (grant : Grant) : Prop where
  row : ∃ row ∈ accounts, Address.parse row.address = some grant.route.binding.container ∧
    row.owner = some (registryOwner grant.route.binding) ∧ row.active = !grant.retired ∧
    row.recorded = true
  alone : grant.retired = false → ∀ row ∈ accounts, row.active = true →
    row.owner = some (registryOwner grant.route.binding) →
      Address.parse row.address = some grant.route.binding.container

/-- A table that shows every grant. -/
structure Projects (accounts : List SubAccount) (grants : List Grant) : Prop where
  table : Table accounts
  showsGrant : ∀ grant ∈ grants, Shows accounts grant

section Showing

variable {account : SubAccount} {accounts : List SubAccount} {grants : List Grant} {grant : Grant}

/-- A grant passes exactly if the table shows it. -/
theorem checkProjection_iff {pairs : List (Address × SubAccount)}
    (read : projectionAccounts accounts = .ok pairs) :
    checkProjection pairs grant = .ok () ↔ Shows accounts grant := by
  rw [checkProjection]
  cases found : projected pairs grant.route.binding.container with
  | none =>
      refine ⟨nofun, fun shown => ?_⟩
      obtain ⟨row, member, parsed, _⟩ := shown.row
      rw [(projected_eq_some read).mpr ⟨member, parsed⟩] at found
      cases found
  | some projection =>
      obtain ⟨member, parsed⟩ := (projected_eq_some read).mp found
      have table := projectionAccounts_iff.mp ⟨pairs, read⟩
      constructor
      · intro run
        obtain ⟨_, contradicts, run⟩ := bind_eq_ok run
        have agrees := refuseIf_ok contradicts
        have unambiguous := refuseIf_ok run
        simp only [not_or, not_not, Bool.not_eq_false] at agrees
        refine ⟨⟨projection, member, parsed, agrees.1, Bool.eq_not.mpr agrees.2.1, agrees.2.2⟩, ?_⟩
        intro live row inside active owned
        by_contra other
        exact unambiguous ⟨live, (ambiguous_iff read).mpr ⟨row, inside, active, owned, other⟩⟩
      · intro shown
        obtain ⟨row, inside, parsed', owned, active, recorded⟩ := shown.row
        obtain rfl := table.eq_of_parse inside member (parsed'.trans parsed.symm)
        have agrees : ¬ (row.owner ≠ some (registryOwner grant.route.binding) ∨
            row.active = grant.retired ∨ row.recorded = false) := by
          rw [owned, active, recorded]
          cases grant.retired <;> simp
        have unambiguous : ¬ (grant.retired = false ∧ Ambiguous pairs
            (registryOwner grant.route.binding) grant.route.binding.container) := by
          rintro ⟨live, ambiguous⟩
          obtain ⟨row, inside, active, owned, other⟩ := (ambiguous_iff read).mp ambiguous
          exact other (shown.alone live row inside active owned)
        simp only [bind, Except.bind, refuseIf, if_neg agrees, if_neg unambiguous]

/-- **The projection is accepted exactly when the table shows every grant.** -/
theorem validateProjection_iff :
    validateProjection accounts grants = .ok () ↔ Projects accounts grants := by
  have each {pairs : List (Address × SubAccount)} (read : projectionAccounts accounts = .ok pairs) :
      grants.forM (checkProjection pairs) = .ok () ↔ ∀ grant ∈ grants, Shows accounts grant := by
    induction grants with
    | nil => exact ⟨fun _ _ member => absurd member List.not_mem_nil, fun _ => rfl⟩
    | cons first rest ih =>
        rw [List.forM_eq_forM, List.forM_cons, List.forall_mem_cons, ← checkProjection_iff read]
        constructor
        · intro run
          obtain ⟨_, here, rest⟩ := bind_eq_ok run
          exact ⟨here, ih.mp rest⟩
        · rintro ⟨here, rest⟩
          rw [here]
          exact ih.mpr rest
  constructor
  · intro run
    obtain ⟨pairs, read, run⟩ := bind_eq_ok run
    exact ⟨projectionAccounts_iff.mp ⟨pairs, read⟩, (each read).mp run⟩
  · intro projects
    obtain ⟨pairs, read⟩ := projectionAccounts_iff.mpr projects.table
    simp only [validateProjection, read, bind, Except.bind]
    exact (each read).mpr projects.showsGrant

/-- A write that says of its address what the grants say, and gives no live agent a second
active row, keeps showing a grant. -/
theorem Shows.write (shown : Shows accounts grant)
    (agrees : Address.parse account.address = some grant.route.binding.container →
      account.owner = some (registryOwner grant.route.binding) ∧ account.active = !grant.retired ∧
        account.recorded = true)
    (alone : grant.retired = false → account.active = true →
      account.owner = some (registryOwner grant.route.binding) →
        Address.parse account.address = some grant.route.binding.container) :
    Shows (writeSubAccount account accounts) grant where
  row := by
    obtain ⟨row, member, parsed, facts⟩ := shown.row
    by_cases here : row.address = account.address
    · obtain ⟨createdTsMs, inside⟩ := written_mem account accounts
      rw [here] at parsed
      exact ⟨_, inside, parsed, agrees parsed⟩
    · exact ⟨row, mem_writeSubAccount_of_ne member here, parsed, facts⟩
  alone live row member active owned := by
    rcases of_mem_writeSubAccount member with ⟨older, _⟩ | ⟨_, rfl⟩
    · exact shown.alone live row older active owned
    · exact alone live active owned

/-- The row a grant writes shows it. -/
theorem Shows.written (parsed : Address.parse account.address = some grant.route.binding.container)
    (owned : account.owner = some (registryOwner grant.route.binding))
    (active : account.active = !grant.retired) (recorded : account.recorded = true)
    (alone : grant.retired = false → ∀ row ∈ accounts, row.active = true →
      row.owner = some (registryOwner grant.route.binding) →
        Address.parse row.address = some grant.route.binding.container) :
    Shows (writeSubAccount account accounts) grant where
  row := by
    obtain ⟨createdTsMs, inside⟩ := written_mem account accounts
    exact ⟨_, inside, parsed, owned, active, recorded⟩
  alone live row member active owned := by
    rcases of_mem_writeSubAccount member with ⟨older, _⟩ | ⟨_, rfl⟩
    · exact alone live row older active owned
    · exact parsed

end Showing

end Oppen.Ledger
