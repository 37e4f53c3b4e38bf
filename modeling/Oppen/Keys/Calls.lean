import Oppen.Keys.Names

/-! # What one call does

For each operation on the key store, what it may have done to the entries wherever it was cut
short, and what it answered if it was not.
-/

namespace Oppen.Keys

open Foundation Oppen.Json Oppen.Ledger Oppen.Guardrail

variable {Backend Key : Type} {lib : KeyLib Key} {network : Network}
  {store before after : EntryName → Option String} {trace : Trace EntryName String}
  {agent other keyHex text : String} {validUntilMs nowMs : UInt64} {wallet : AgentWallet}

/-! ## Entries by name -/

/-- The name an entry has, its agent id accepted. -/
def Entry.at (network : Network) (entry : Entry) : EntryName := ⟨serviceOf network, entry.account⟩

/-- Two accepted entries of one network have one name only if they are the same. -/
theorem Entry.at_injective (first : Entry) {second : Entry} (accepted : first.Accepted)
    (same : first.at network = second.at network) : first = second :=
  Entry.account_injective accepted (congrArg EntryName.account same)

/-- The key of an accepted agent is named, whatever its generation. -/
theorem agentKey_eq (accepted : agentIdFault agent = none) (generation : Nat) :
    (EntryName.agentKey network agent generation : Except (KeyStoreError Backend) EntryName) =
      .ok ((Entry.agentKey agent generation).at network) :=
  (Entry.name_ok (.agentKey agent generation)).mpr ⟨accepted, rfl⟩

/-- The record of an accepted agent is named. -/
theorem agentRecord_eq (accepted : agentIdFault agent = none) :
    (EntryName.agentRecord network agent : Except (KeyStoreError Backend) EntryName) =
      .ok ((Entry.agentRecord agent).at network) :=
  (Entry.name_ok (.agentRecord agent)).mpr ⟨accepted, rfl⟩

/-- A record that could be named is that of an accepted agent. -/
theorem agentRecord_ok {name : EntryName}
    (named : (EntryName.agentRecord network agent : Except (KeyStoreError Backend) EntryName) =
      .ok name) : agentIdFault agent = none ∧ name = (Entry.agentRecord agent).at network :=
  (Entry.name_ok (.agentRecord agent)).mp named

/-! ## Records -/

variable (lib network store) in
/-- The wallet the record of an agent holds. -/
def Recorded (agent : String) (wallet : AgentWallet) : Prop :=
  agentIdFault agent = none ∧ wallet.generation ≤ maxGeneration ∧
    ∃ text, store ((Entry.agentRecord agent).at network) = some text ∧
      lib.readRecord text = some wallet

/-- A store records at most one wallet of an agent. -/
theorem Recorded.unique {wallet' : AgentWallet} (recorded : Recorded lib network store agent wallet)
    (recorded' : Recorded lib network store agent wallet') : wallet = wallet' := by
  obtain ⟨-, -, text, held, read⟩ := recorded
  obtain ⟨-, -, text', held', read'⟩ := recorded'
  obtain rfl : text = text' := Option.some.inj (held.symm.trans held')
  exact Option.some.inj (read.symm.trans read')

/-- A wallet that could be read is what the record's text says, within the generations that may
be. -/
theorem readWallet_ok {held : Option AgentWallet}
    (read : (readWallet lib text : Except (KeyStoreError Backend) _) = .ok held) :
    ∃ wallet, held = some wallet ∧ wallet.generation ≤ maxGeneration ∧
      lib.readRecord text = some wallet := by
  rw [readWallet] at read
  cases decoded : lib.readRecord text with
  | none =>
      rw [decoded] at read
      cases read
  | some wallet =>
      rw [decoded] at read
      obtain ⟨done, limit, same⟩ := bind_eq_ok read
      exact ⟨wallet, (Except.ok.inj same).symm, not_lt.mp (refuseIf_ok limit), rfl⟩

/-- Reading an agent's wallet changes nothing. -/
theorem quiet_agentWallet (agent : String) :
    (agentWallet lib network agent : KeyScript Backend _).Quiet := by
  refine (Script.quiet_done _).bind fun entry => (Script.quiet_get _).bind fun held => ?_
  cases held <;> trivial

/-- `agent_wallet` answers what the record holds. -/
theorem answer_agentWallet {held : Option AgentWallet}
    (answered : (agentWallet lib network agent : KeyScript Backend _).answer store = .ok held) :
    agentIdFault agent = none ∧
      (held = none ∧ store ((Entry.agentRecord agent).at network) = none ∨
        ∃ wallet, held = some wallet ∧ Recorded lib network store agent wallet) := by
  rw [agentWallet, (Script.quiet_done _).answer_bind] at answered
  obtain ⟨name, named, answered⟩ := bind_eq_ok answered
  obtain ⟨accepted, rfl⟩ := agentRecord_ok named
  rw [(Script.quiet_get _).answer_bind] at answered
  refine ⟨accepted, ?_⟩
  obtain ⟨stored, read, answered⟩ := bind_eq_ok answered
  obtain rfl := Except.ok.inj read
  cases found : store ((Entry.agentRecord agent).at network) with
  | none =>
      rw [found] at answered
      exact .inl ⟨(Except.ok.inj answered).symm, rfl⟩
  | some text =>
      rw [found] at answered
      obtain ⟨wallet, rfl, limit, decoded⟩ := readWallet_ok answered
      exact .inr ⟨wallet, rfl, accepted, limit, text, found, decoded⟩

/-- `agent_wallet` answers what is recorded. -/
theorem Recorded.answer (recorded : Recorded lib network store agent wallet) :
    (agentWallet lib network agent : KeyScript Backend _).answer store = .ok (some wallet) := by
  obtain ⟨accepted, limit, text, held, read⟩ := recorded
  rw [agentWallet, (Script.quiet_done (EntryName.agentRecord network agent)).answer_bind_ok
    (agentRecord_eq accepted), (Script.quiet_get _).answer_bind_ok (congrArg Except.ok held)]
  change (readWallet lib text : Except (KeyStoreError Backend) _) = _
  rw [readWallet, read]
  exact congrArg (· >>= fun _ => Except.ok (some wallet)) (if_neg (not_lt.mpr limit))

/-- Asking for an agent's wallet changes nothing. -/
theorem quiet_requireWallet (agent : String) :
    (requireWallet lib network agent : KeyScript Backend _).Quiet := by
  refine (quiet_agentWallet agent).bind fun held => ?_
  cases held <;> trivial

/-- The wallet that is answered is the one the store records. -/
theorem answer_requireWallet
    (answered : (requireWallet lib network agent : KeyScript Backend _).answer store = .ok wallet) :
    Recorded lib network store agent wallet := by
  rw [requireWallet, (quiet_agentWallet agent).answer_bind] at answered
  obtain ⟨held, read, answered⟩ := bind_eq_ok answered
  rcases (answer_agentWallet read).2 with ⟨rfl, -⟩ | ⟨wallet', rfl, recorded⟩
  · cases answered
  · rwa [← Except.ok.inj answered]

/-! ## Loading -/

variable (lib network store) in
/-- The wallet of an agent and the key that goes with it can be loaded. -/
structure Loadable (agent : String) (key : Key) (wallet : AgentWallet) : Prop where
  recorded : Recorded lib network store agent wallet
  derives : lib.address key = wallet.address
  stored : ∃ text, store ((Entry.agentKey agent wallet.generation).at network) = some text ∧
    lib.fromHex text = some key

/-- A key that passes its check has the address of the wallet. -/
theorem checkKey_ok {key : Key}
    (checked : (checkKey lib wallet text : Except (KeyStoreError Backend) Key) = .ok key) :
    lib.fromHex text = some key ∧ lib.address key = wallet.address := by
  rw [checkKey] at checked
  cases decoded : lib.fromHex text with
  | none =>
      rw [decoded] at checked
      cases checked
  | some key' =>
      rw [decoded] at checked
      obtain ⟨done, same, returned⟩ := bind_eq_ok checked
      obtain rfl := Except.ok.inj returned
      exact ⟨rfl, not_not.mp (refuseIf_ok same)⟩

/-- Loading a key changes nothing. -/
theorem quiet_loadAgentKeyWithWallet (agent : String) :
    (loadAgentKeyWithWallet lib network agent : KeyScript Backend _).Quiet := by
  refine (quiet_requireWallet agent).bind fun record => (Script.quiet_done _).bind fun entry =>
    (Script.quiet_get _).bind fun held => ?_
  cases held with
  | none => trivial
  | some stored => exact (Script.quiet_done _).bind fun key => Script.quiet_pure _

/-- **A load answers the wallet of the record with the key of its generation.** -/
theorem answer_loadAgentKeyWithWallet {key : Key}
    (answered : (loadAgentKeyWithWallet lib network agent : KeyScript Backend _).answer store =
      .ok (key, wallet)) : Loadable lib network store agent key wallet := by
  rw [loadAgentKeyWithWallet, (quiet_requireWallet agent).answer_bind] at answered
  obtain ⟨record, required, answered⟩ := bind_eq_ok answered
  have recorded := answer_requireWallet required
  rw [(Script.quiet_done _).answer_bind] at answered
  obtain ⟨name, named, answered⟩ := bind_eq_ok answered
  rw [Script.answer_done, agentKey_eq recorded.1] at named
  obtain rfl := Except.ok.inj named
  rw [(Script.quiet_get _).answer_bind] at answered
  obtain ⟨held, read, answered⟩ := bind_eq_ok answered
  obtain rfl := Except.ok.inj read
  cases found : store ((Entry.agentKey agent record.generation).at network) with
  | none =>
      rw [found] at answered
      cases answered
  | some text =>
      rw [found] at answered
      rw [(Script.quiet_done _).answer_bind] at answered
      obtain ⟨key', checked, returned⟩ := bind_eq_ok answered
      obtain ⟨rfl, rfl⟩ := Prod.mk.inj (Except.ok.inj returned)
      obtain ⟨decoded, derives⟩ := checkKey_ok checked
      exact ⟨recorded, derives, text, found, decoded⟩

/-- A wallet that can be loaded is loaded when nothing fails. -/
theorem Loadable.answer {key : Key} (loadable : Loadable lib network store agent key wallet) :
    (loadAgentKeyWithWallet lib network agent : KeyScript Backend _).answer store =
      .ok (key, wallet) := by
  obtain ⟨⟨accepted, limit, text, held, read⟩, derives, text', stored, decoded⟩ := loadable
  have recorded : (agentWallet lib network agent : KeyScript Backend _).answer store =
      .ok (some wallet) := Recorded.answer ⟨accepted, limit, text, held, read⟩
  have required : (requireWallet lib network agent : KeyScript Backend _).answer store =
      .ok wallet := by
    rw [requireWallet, (quiet_agentWallet agent).answer_bind_ok recorded]
    rfl
  have checked : (checkKey lib wallet text' : Except (KeyStoreError Backend) Key) = .ok key := by
    rw [checkKey, decoded]
    exact congrArg (· >>= fun _ => Except.ok key) (if_neg (not_not.mpr derives))
  rw [loadAgentKeyWithWallet, (quiet_requireWallet agent).answer_bind_ok required,
    (Script.quiet_done (EntryName.agentKey network agent _)).answer_bind_ok
      (agentKey_eq accepted _),
    (Script.quiet_get _).answer_bind_ok (congrArg Except.ok stored)]
  exact (Script.quiet_done _).answer_bind_ok checked

/-! ## Installing -/

/-- What an installation puts, in order. -/
def installing (network : Network) (agent keyHex : String) (wallet : AgentWallet) :
    Trace EntryName String :=
  [((Entry.agentAddress wallet.address).at network, some (toString wallet.generation)),
    ((Entry.agentKey agent wallet.generation).at network, some keyHex),
    ((Entry.agentRecord agent).at network, some (recordText wallet))]

/-- **The writes of a wallet are cut short anywhere, or all of them took effect.** -/
theorem writeWallet_ends {outcome : Option (Except (KeyStoreError Backend) Unit)}
    (ends : Ends (writeWallet network agent keyHex wallet) store trace outcome)
    (accepted : agentIdFault agent = none) :
    trace <+: installing network agent keyHex wallet ∧
      (Stopped outcome ∨ trace = installing network agent keyHex wallet) := by
  rw [writeWallet, agentKey_eq accepted, agentRecord_eq accepted] at ends
  rcases ends_set_bind ends with ⟨stopped, begun⟩ | ⟨afterMark, rfl, marked⟩
  · exact ⟨begun.trans (List.prefix_append _ _), .inl stopped⟩
  rcases ends_set_bind marked with ⟨stopped, begun⟩ | ⟨afterKey, rfl, keyed⟩
  · refine ⟨List.cons_prefix_cons.mpr ⟨rfl, begun.trans (List.prefix_append _ _)⟩, .inl stopped⟩
  obtain ⟨begun, stopped | rfl⟩ := ends_set keyed
  · exact ⟨List.cons_prefix_cons.mpr ⟨rfl, List.cons_prefix_cons.mpr ⟨rfl, begun⟩⟩, .inl stopped⟩
  · exact ⟨List.prefix_rfl, .inr rfl⟩

variable (lib network store) in
/-- A wallet is installed: its address is fresh and derived from the key that is stored, and what
is put is cut short anywhere unless the wallet is returned. -/
structure Installs (agent : String) (wallet : AgentWallet) (trace : Trace EntryName String)
    (outcome : Option (Except (KeyStoreError Backend) AgentWallet)) : Prop where
  accepted : agentIdFault agent = none
  ceiling : wallet.generation ≤ maxGeneration
  fits : walletFits wallet
  fresh : store ((Entry.agentAddress wallet.address).at network) = none
  begun : ∃ text key, lib.fromHex text = some key ∧ lib.address key = wallet.address ∧
    trace <+: installing network agent text wallet ∧
      ∀ installed, outcome = some (.ok installed) →
        installed = wallet ∧ trace = installing network agent text wallet

/-- Asking whether an address was used changes nothing. -/
theorem quiet_addressUsed (address : Address) :
    (addressUsed network address : KeyScript Backend Bool).Quiet :=
  (Script.quiet_get _).bind fun _ => Script.quiet_pure _

/-- An address was used exactly if the store holds its mark. -/
theorem answer_addressUsed {address : Address} :
    (addressUsed network address : KeyScript Backend Bool).answer store =
      .ok (store ((Entry.agentAddress address).at network)).isSome := rfl

/-- The address that is derived is that of the key in the text. -/
theorem addressOfKey_ok {address : Address}
    (derived : (addressOfKey lib text : Except (KeyStoreError Backend) Address) = .ok address) :
    ∃ key, lib.fromHex text = some key ∧ lib.address key = address := by
  rw [addressOfKey] at derived
  cases decoded : lib.fromHex text with
  | none =>
      rw [decoded] at derived
      cases derived
  | some key =>
      rw [decoded] at derived
      exact ⟨key, rfl, Except.ok.inj derived⟩

/-- What follows the checks of the address. -/
theorem writeWallet_installs {key : Key}
    {outcome : Option (Except (KeyStoreError Backend) AgentWallet)}
    (ends : Ends (writeWallet network agent text wallet >>= fun _ => pure wallet) store trace
      outcome)
    (accepted : agentIdFault agent = none) (ceiling : wallet.generation ≤ maxGeneration)
    (fits : walletFits wallet) (unused : ¬ (store ((Entry.agentAddress wallet.address).at
      network)).isSome = true) (decoded : lib.fromHex text = some key)
    (derives : lib.address key = wallet.address) :
    Installs lib network store agent wallet trace outcome where
  accepted := accepted
  ceiling := ceiling
  fits := fits
  fresh := Option.not_isSome_iff_eq_none.mp unused
  begun := by
    obtain ⟨early, written, returned⟩ := ends_return ends
    obtain ⟨begun, whole⟩ := writeWallet_ends written accepted
    refine ⟨text, key, decoded, derives, begun, fun installed same => ?_⟩
    obtain ⟨value, rfl, rfl⟩ := returned installed same
    exact ⟨rfl, whole.resolve_left fun stopped => stopped value rfl⟩

/-- **A creation stops before it puts anything, or installs a first wallet.** -/
theorem createAgentKey_ends {outcome : Option (Except (KeyStoreError Backend) AgentWallet)}
    (ends : Ends (createAgentKey lib network agent keyHex validUntilMs nowMs) store trace outcome) :
    (Stopped outcome ∧ trace = []) ∨
      ∃ wallet, wallet.generation = 0 ∧ store ((Entry.agentRecord agent).at network) = none ∧
        Installs lib network store agent wallet trace outcome := by
  rcases (quiet_agentWallet agent).ends_bind ends with stopped | ⟨held, read, ends1⟩
  · exact .inl stopped
  rcases (Script.quiet_done _).ends_bind ends1 with stopped | ⟨done, absent, ends2⟩
  · exact .inl stopped
  rcases (Script.quiet_done _).ends_bind ends2 with stopped | ⟨normalized, -, ends3⟩
  · exact .inl stopped
  rcases (Script.quiet_done _).ends_bind ends3 with stopped | ⟨address, derived, ends4⟩
  · exact .inl stopped
  rcases (quiet_addressUsed address).ends_bind ends4 with stopped | ⟨used, answered, ends5⟩
  · exact .inl stopped
  rcases (Script.quiet_done _).ends_bind ends5 with stopped | ⟨done', unused, ends6⟩
  · exact .inl stopped
  obtain ⟨key, decoded, derives⟩ := addressOfKey_ok derived
  rw [answer_addressUsed] at answered
  obtain rfl := Except.ok.inj answered
  obtain ⟨accepted, ⟨-, missing⟩ | ⟨wallet, rfl, -⟩⟩ := answer_agentWallet read
  · refine .inr ⟨_, rfl, missing, writeWallet_installs ends6 accepted (Nat.zero_le _) ?_
      (refuseIf_ok unused) decoded derives⟩
    exact ⟨Nat.two_pow_pos 32, nowMs.toNat_lt, validUntilMs.toNat_lt⟩
  · rw [Script.answer_done] at absent
    exact absurd rfl (refuseIf_ok absent)

/-- **A rotation stops before it puts anything, or installs a wallet of a later generation.** -/
theorem rotateAgentKey_ends {outcome : Option (Except (KeyStoreError Backend) AgentWallet)}
    (ends : Ends (rotateAgentKey lib network agent keyHex validUntilMs nowMs) store trace outcome) :
    (Stopped outcome ∧ trace = []) ∨
      ∃ current wallet, Recorded lib network store agent current ∧
        current.generation < wallet.generation ∧
        Installs lib network store agent wallet trace outcome := by
  rcases (quiet_requireWallet agent).ends_bind ends with stopped | ⟨current, read, ends1⟩
  · exact .inl stopped
  rcases (Script.quiet_done _).ends_bind ends1 with stopped | ⟨normalized, -, ends2⟩
  · exact .inl stopped
  rcases (Script.quiet_done _).ends_bind ends2 with stopped | ⟨address, derived, ends3⟩
  · exact .inl stopped
  rcases (quiet_addressUsed address).ends_bind ends3 with stopped | ⟨used, answered, ends4⟩
  · exact .inl stopped
  rcases (Script.quiet_done _).ends_bind ends4 with stopped | ⟨done, unused, ends5⟩
  · exact .inl stopped
  rcases (Script.quiet_done _).ends_bind ends5 with stopped | ⟨done', limit, ends6⟩
  · exact .inl stopped
  obtain ⟨key, decoded, derives⟩ := addressOfKey_ok derived
  rw [answer_addressUsed] at answered
  obtain rfl := Except.ok.inj answered
  have recorded := answer_requireWallet read
  have below := recorded.2.1
  have ceiling := not_lt.mp (refuseIf_ok limit)
  rw [maxGeneration] at below ceiling
  refine .inr ⟨current, _, recorded, ?_, writeWallet_installs ends6 recorded.1 ceiling ?_
    (refuseIf_ok unused) decoded derives⟩
  · change current.generation < min (current.generation + 1) (2 ^ 32 - 1)
    omega
  · exact ⟨by change min _ _ < _; omega, nowMs.toNat_lt, validUntilMs.toNat_lt⟩

/-! ## Deleting -/

/-- A removal of one of these key entries. -/
def Sweeps (network : Network) (agent : String) (generations : List Nat)
    (trace : Trace EntryName String) : Prop :=
  ∀ effect ∈ trace, ∃ generation ∈ generations,
    effect = ((Entry.agentKey agent generation).at network, none)

/-- A sweep deletes keys of its generations only, and where it was not stopped it deleted each of
them. -/
theorem sweep_ends {outcome : Option (Except (KeyStoreError Backend) Unit)}
    (accepted : agentIdFault agent = none) {generations : List Nat}
    (ends : Ends (sweep network agent generations) store trace outcome) :
    Sweeps network agent generations trace ∧
      (Stopped outcome ∨ ∀ generation ∈ generations,
        ((Entry.agentKey agent generation).at network, none) ∈ trace) := by
  induction generations generalizing store trace with
  | nil =>
      obtain ⟨rfl, rfl⟩ := ends_pure ends
      exact ⟨nofun, .inr nofun⟩
  | cons generation rest ih =>
      rw [sweep, agentKey_eq accepted] at ends
      rcases ends_set_bind ends with ⟨stopped, begun⟩ | ⟨last, rfl, later⟩
      · refine ⟨fun effect member => ⟨generation, List.mem_cons_self, ?_⟩, .inl stopped⟩
        exact List.mem_singleton.mp (begun.subset member)
      · obtain ⟨swept, whole⟩ := ih later
        refine ⟨fun effect member => ?_, whole.imp_right fun each generation' inside => ?_⟩
        · rcases List.mem_cons.mp member with rfl | member
          · exact ⟨generation, List.mem_cons_self, rfl⟩
          · obtain ⟨generation', inside, same⟩ := swept effect member
            exact ⟨generation', List.mem_cons_of_mem _ inside, same⟩
        · rcases List.mem_cons.mp inside with rfl | inside
          · exact List.mem_cons_self
          · exact List.mem_cons_of_mem _ (each generation' inside)

/-- **A deletion stops before it removes anything, or removes the record first.** -/
theorem deleteAgent_ends {outcome : Option (Except (KeyStoreError Backend) Unit)}
    (ends : Ends (deleteAgent network agent) store trace outcome) :
    (Stopped outcome ∧ trace = []) ∨
      agentIdFault agent = none ∧ ∃ swept,
        trace = ((Entry.agentRecord agent).at network, none) :: swept ∧
        Sweeps network agent (List.range (maxGeneration + 1)) swept ∧
        (Stopped outcome ∨ ∀ generation ≤ maxGeneration,
          ((Entry.agentKey agent generation).at network, none) ∈ swept) := by
  rcases (Script.quiet_done _).ends_bind ends with stopped | ⟨name, named, ends⟩
  · exact .inl stopped
  obtain ⟨accepted, rfl⟩ := agentRecord_ok named
  rcases ends_set_bind ends with ⟨stopped, begun⟩ | ⟨swept, rfl, later⟩
  · rcases List.prefix_cons_iff.mp begun with rfl | ⟨rest, rfl, nothing⟩
    · exact .inl ⟨stopped, rfl⟩
    · obtain rfl := List.prefix_nil.mp nothing
      exact .inr ⟨accepted, [], rfl, nofun, .inl stopped⟩
  · obtain ⟨removed, whole⟩ := sweep_ends accepted later
    refine .inr ⟨accepted, swept, rfl, removed, whole.imp_right fun each generation below => ?_⟩
    exact each generation (List.mem_range.mpr (Nat.lt_succ_of_le below))

end Oppen.Keys
