import Oppen.Foundation.Run
import Oppen.Keys.Calls

/-! # Runs of the key store

Calls on the wallets of any agents of one network, one after the other, each cut short anywhere.
No address is installed twice, what is loaded signs for the recorded address, an installation
that does not reach its record leaves what was there, and a deletion locks the agent out from its
first removal on.
-/

namespace Oppen.Keys

open Foundation Oppen.Json Oppen.Ledger Oppen.Guardrail

variable {Backend Key : Type} {lib : KeyLib Key} {network : Network}
  {start before after last : EntryName → Option String} {trace : Trace EntryName String}
  {agent : String} {wallet : AgentWallet} {call : Call Backend Key}
  {calls : List (Call Backend Key)} {entry : Entry} {content : Option String}

/-! ## What a call did -/

/-- Where an installation starts from: a first wallet from none, another from an earlier one. -/
inductive StartsFrom (lib : KeyLib Key) (network : Network) (before : EntryName → Option String)
    (wallet : AgentWallet) : Request → (agent : String) → Prop
  | create {agent keyHex : String} {validUntilMs nowMs : UInt64} (first : wallet.generation = 0)
      (missing : before ((Entry.agentRecord agent).at network) = none) :
      StartsFrom lib network before wallet (.create agent keyHex validUntilMs nowMs) agent
  | rotate {agent keyHex : String} {validUntilMs nowMs : UInt64} {current : AgentWallet}
      (recorded : Recorded lib network before agent current)
      (upward : current.generation < wallet.generation) :
      StartsFrom lib network before wallet (.rotate agent keyHex validUntilMs nowMs) agent

/-- What a call did: nothing, an installation, or a deletion, each as far as it came. -/
inductive Does (lib : KeyLib Key) (network : Network) (before : EntryName → Option String)
    (call : Call Backend Key) : Prop
  | nothing (quiet : call.trace = [])
      (answers : ∀ wallet, call.outcome ≠ some (.ok (.installed wallet)))
      (remains : call.outcome ≠ some (.ok .deleted))
  | installs {agent : String} {wallet : AgentWallet}
      {outcome : Option (Except (KeyStoreError Backend) AgentWallet)}
      (starts : StartsFrom lib network before wallet call.request agent)
      (installs : Installs lib network before agent wallet call.trace outcome)
      (answers : ∀ reply, call.outcome = some (.ok reply) →
        ∃ installed, outcome = some (.ok installed) ∧ reply = .installed installed)
  | deletes {agent : String} {swept : Trace EntryName String}
      (requested : call.request = .delete agent) (accepted : agentIdFault agent = none)
      (removed : call.trace = ((Entry.agentRecord agent).at network, none) :: swept)
      (sweeps : Sweeps network agent (List.range (maxGeneration + 1)) swept)
      (answers : ∀ reply, call.outcome = some (.ok reply) → reply = .deleted ∧
        ∀ generation ≤ maxGeneration, ((Entry.agentKey agent generation).at network, none) ∈ swept)

/-- What a call does to the store, by the operation it asked for. The invariants of the runs are
derived from this. -/
theorem CallStep.does (step : CallStep lib network before call after) :
    Does lib network before call := by
  obtain ⟨request, trace, outcome⟩ := call
  obtain ⟨ends, -⟩ := step
  cases request with
  | create agent keyHex validUntilMs nowMs =>
      obtain ⟨early, created, answers⟩ := ends_return ends
      rcases createAgentKey_ends created with ⟨stopped, quiet⟩ | ⟨wallet, first, missing, installs⟩
      · refine .nothing quiet (fun wallet same => ?_) fun same => ?_
        · obtain ⟨value, same, -⟩ := answers _ same
          exact stopped value same
        · obtain ⟨value, -, other⟩ := answers _ same
          cases other
      · exact .installs (.create first missing) installs answers
  | rotate agent keyHex validUntilMs nowMs =>
      obtain ⟨early, rotated, answers⟩ := ends_return ends
      rcases rotateAgentKey_ends rotated with ⟨stopped, quiet⟩ |
        ⟨current, wallet, recorded, upward, installs⟩
      · refine .nothing quiet (fun wallet same => ?_) fun same => ?_
        · obtain ⟨value, same, -⟩ := answers _ same
          exact stopped value same
        · obtain ⟨value, -, other⟩ := answers _ same
          cases other
      · exact .installs (.rotate recorded upward) installs answers
  | load agent =>
      obtain ⟨early, loaded, answers⟩ := ends_return ends
      refine .nothing ((quiet_loadAgentKeyWithWallet agent).trace_eq loaded)
        (fun wallet same => ?_) fun same => ?_
      · obtain ⟨value, -, other⟩ := answers _ same
        cases other
      · obtain ⟨value, -, other⟩ := answers _ same
        cases other
  | delete agent =>
      obtain ⟨early, deleted, answers⟩ := ends_return ends
      rcases deleteAgent_ends deleted with ⟨stopped, quiet⟩ |
        ⟨accepted, swept, removed, sweeps, whole⟩
      · refine .nothing quiet (fun wallet same => ?_) fun same => ?_
        · obtain ⟨value, same, -⟩ := answers _ same
          exact stopped value same
        · obtain ⟨value, same, -⟩ := answers _ same
          exact stopped value same
      · refine .deletes rfl accepted removed sweeps fun reply same => ?_
        obtain ⟨value, rfl, rfl⟩ := answers reply same
        exact ⟨rfl, whole.resolve_left fun stopped => stopped value rfl⟩

/-! ## Entries it put -/

/-- An installation writes the mark of the address, the key of the generation and the record, and no
other entry. -/
theorem installing_entry {keyHex : String} (accepted : agentIdFault agent = none)
    (member : (entry.at network, content) ∈ installing network agent keyHex wallet) :
    content.isSome = true ∧ (entry = .agentAddress wallet.address ∨
      entry = .agentKey agent wallet.generation ∨ entry = .agentRecord agent) := by
  rcases List.mem_cons.mp member with same | member
  · obtain ⟨named, rfl⟩ := Prod.mk.inj same
    exact ⟨rfl, .inl (Entry.at_injective (.agentAddress wallet.address) trivial named.symm).symm⟩
  rcases List.mem_cons.mp member with same | member
  · obtain ⟨named, rfl⟩ := Prod.mk.inj same
    exact ⟨rfl, .inr (.inl (Entry.at_injective (.agentKey agent wallet.generation) accepted
      named.symm).symm)⟩
  · obtain ⟨named, rfl⟩ := Prod.mk.inj (List.mem_singleton.mp member)
    exact ⟨rfl, .inr (.inr (Entry.at_injective (.agentRecord agent) accepted named.symm).symm)⟩

/-- A creation or an import that was cut short wrote some of these entries and no other. -/
theorem Installs.put_entry {outcome : Option (Except (KeyStoreError Backend) AgentWallet)}
    (installs : Installs lib network before agent wallet trace outcome)
    (member : (entry.at network, content) ∈ trace) :
    content.isSome = true ∧ (entry = .agentAddress wallet.address ∨
      entry = .agentKey agent wallet.generation ∨ entry = .agentRecord agent) := by
  obtain ⟨text, key, -, -, begun, -⟩ := installs.begun
  exact installing_entry installs.accepted (begun.subset member)

/-- A deletion deletes the record and keys of its agent, and writes nothing. -/
theorem deleting_entry {swept : Trace EntryName String} (accepted : agentIdFault agent = none)
    (sweeps : Sweeps network agent (List.range (maxGeneration + 1)) swept)
    (member : (entry.at network, content) ∈
      ((Entry.agentRecord agent).at network, none) :: swept) :
    content = none ∧ (entry = .agentRecord agent ∨
      ∃ generation ≤ maxGeneration, entry = .agentKey agent generation) := by
  rcases List.mem_cons.mp member with same | member
  · obtain ⟨named, rfl⟩ := Prod.mk.inj same
    exact ⟨rfl, .inl (Entry.at_injective (.agentRecord agent) accepted named.symm).symm⟩
  · obtain ⟨generation, inside, same⟩ := sweeps _ member
    obtain ⟨named, rfl⟩ := Prod.mk.inj same
    exact ⟨rfl, .inr ⟨generation, Nat.le_of_lt_succ (List.mem_range.mp inside),
      (Entry.at_injective (.agentKey agent generation) accepted named.symm).symm⟩⟩

/-! ## Marks are never removed -/

/-- No call removes the mark of an address, which is what keeps a used address from coming back. -/
theorem CallStep.keeps_mark {address : Address} (step : CallStep lib network before call after)
    (marked : (before ((Entry.agentAddress address).at network)).isSome = true) :
    (after ((Entry.agentAddress address).at network)).isSome = true := by
  rw [step.2]
  refine applied_of_forall (·.isSome = true) marked fun content member => ?_
  cases step.does with
  | nothing quiet =>
      rw [quiet] at member
      cases member
  | installs starts installs => exact (installs.put_entry member).1
  | deletes requested accepted removed sweeps =>
      rw [removed] at member
      obtain ⟨-, other | ⟨generation, -, other⟩⟩ := deleting_entry accepted sweeps member
      · cases other
      · cases other

/-- The address a call returned a wallet of. -/
def Call.installed (call : Call Backend Key) : Option Address :=
  match call.outcome with
  | some (.ok (.installed wallet)) => some wallet.address
  | _ => none

/-- The address that was installed is that of the wallet which was answered. -/
theorem Call.installed_eq {address : Address} (installed : call.installed = some address) :
    ∃ wallet, call.outcome = some (.ok (.installed wallet)) ∧ wallet.address = address := by
  rw [Call.installed] at installed
  split at installed
  · rename_i wallet answered
    exact ⟨wallet, answered, Option.some.inj installed⟩
  · cases installed

/-- An address that is returned was not marked before and is since. -/
theorem CallStep.marks {address : Address} (step : CallStep lib network before call after)
    (installed : call.installed = some address) :
    before ((Entry.agentAddress address).at network) = none ∧
      (after ((Entry.agentAddress address).at network)).isSome = true := by
  obtain ⟨wallet, answered, rfl⟩ := Call.installed_eq installed
  cases step.does with
  | nothing _ answers => exact absurd answered (answers wallet)
  | @installs agent fresh outcome starts installs answers =>
      obtain ⟨returned, same, reply⟩ := answers _ answered
      obtain rfl := Reply.installed.inj reply
      obtain ⟨text, key, -, -, -, whole⟩ := installs.begun
      obtain ⟨rfl, effects⟩ := whole _ same
      refine ⟨installs.fresh, ?_⟩
      rw [step.2, effects]
      refine applied_of_mem (·.isSome = true) List.mem_cons_self fun content member => ?_
      exact (installing_entry installs.accepted member).1
  | deletes _ _ _ _ answers => cases (answers _ answered).1

/-- **No address is returned twice.** -/
theorem installed_nodup (run : Run (CallStep lib network) start calls last) :
    (calls.filterMap Call.installed).Nodup := by
  suffices history : (calls.filterMap Call.installed).Nodup ∧
      ∀ address ∈ calls.filterMap Call.installed,
        (last ((Entry.agentAddress address).at network)).isSome = true from history.1
  refine run.history (fun calls store => (calls.filterMap Call.installed).Nodup ∧
    ∀ address ∈ calls.filterMap Call.installed,
      (store ((Entry.agentAddress address).at network)).isSome = true) ⟨.nil, nofun⟩ ?_
  rintro seen before call after - ⟨distinct, marked⟩ step
  have kept : ∀ address ∈ seen.filterMap Call.installed,
      (after ((Entry.agentAddress address).at network)).isSome = true :=
    fun address member => step.keeps_mark (marked address member)
  rw [List.filterMap_append]
  cases installed : call.installed with
  | none =>
      rw [List.filterMap_cons_none installed, List.filterMap_nil, List.append_nil]
      exact ⟨distinct, kept⟩
  | some address =>
      rw [List.filterMap_cons_some installed, List.filterMap_nil]
      obtain ⟨unmarked, marks⟩ := step.marks installed
      have unseen : address ∉ seen.filterMap Call.installed := by
        intro member
        have held := marked address member
        rw [unmarked] at held
        cases held
      refine ⟨List.nodup_append.mpr ⟨distinct, List.nodup_singleton address, ?_⟩, ?_⟩
      · rintro other member _ final rfl
        exact unseen (List.mem_singleton.mp final ▸ member)
      · intro other member
        rcases List.mem_append.mp member with member | final
        · exact kept other member
        · rwa [List.mem_singleton.mp final]

/-! ## What is loaded -/

/-- A key that was loaded is one the store held for the wallet it records. -/
theorem CallStep.loads {key : Key} (step : CallStep lib network before call after)
    (requested : call.request = .load agent)
    (loaded : call.outcome = some (.ok (.loaded key wallet))) :
    Loadable lib network before agent key wallet := by
  obtain ⟨ends, -⟩ := step
  rw [requested, loaded] at ends
  obtain ⟨early, ends, answers⟩ := ends_return ends
  obtain ⟨⟨key', wallet'⟩, rfl, same⟩ := answers _ rfl
  obtain ⟨rfl, rfl⟩ := Reply.loaded.inj same
  exact answer_loadAgentKeyWithWallet ends.answered

/-- What can be loaded depends on the record and on the key of its generation. -/
theorem Loadable.congr {key : Key} (loadable : Loadable lib network before agent key wallet)
    (record : after ((Entry.agentRecord agent).at network) =
      before ((Entry.agentRecord agent).at network))
    (stored : after ((Entry.agentKey agent wallet.generation).at network) =
      before ((Entry.agentKey agent wallet.generation).at network)) :
    Loadable lib network after agent key wallet := by
  obtain ⟨⟨accepted, ceiling, text, held, read⟩, derives, kept⟩ := loadable
  exact ⟨⟨accepted, ceiling, text, record.trans held, read⟩, derives, by rwa [stored]⟩

/-- An entry that a call did not touch is as it was. -/
theorem CallStep.after_eq (step : CallStep lib network before call after)
    (untouched : ∀ content, (entry.at network, content) ∉ call.trace) :
    after (entry.at network) = before (entry.at network) := by
  rw [step.2]
  exact applied_of_not_mem untouched

/-- **An installation that does not put the record leaves every wallet that could be loaded.** -/
theorem CallStep.keeps_loadable {other : String} {key : Key} {held : AgentWallet}
    (step : CallStep lib network before call after)
    (starts : StartsFrom lib network before wallet call.request agent)
    {outcome : Option (Except (KeyStoreError Backend) AgentWallet)}
    (installs : Installs lib network before agent wallet call.trace outcome)
    (short : ∀ content, ((Entry.agentRecord agent).at network, content) ∉ call.trace)
    (loadable : Loadable lib network before other key held) :
    Loadable lib network after other key held := by
  refine loadable.congr (step.after_eq fun content member => ?_)
    (step.after_eq fun content member => ?_)
  · obtain ⟨-, same | same | same⟩ := installs.put_entry member
    · cases same
    · cases same
    · cases same
      exact short content member
  · obtain ⟨-, same | same | same⟩ := installs.put_entry member
    · cases same
    · obtain ⟨rfl, generations⟩ := Entry.agentKey.inj same
      -- The key is that of the generation the wallet had, so it belongs to the agent itself.
      generalize call.request = request at starts
      cases starts with
      | create first missing =>
          obtain ⟨-, -, text, stored, -⟩ := loadable.recorded
          rw [missing] at stored
          cases stored
      | rotate recorded upward =>
          rw [recorded.unique loadable.recorded] at upward
          omega
    · cases same

/-- **A wallet whose writes all took effect can be loaded.** -/
theorem installing_loadable {text : String} {key : Key} (accepted : agentIdFault agent = none)
    (ceiling : wallet.generation ≤ maxGeneration) (fits : walletFits wallet)
    (decoded : lib.fromHex text = some key) (derives : lib.address key = wallet.address) :
    Loadable lib network (applied before (installing network agent text wallet)) agent key
      wallet := by
  have apart : (Entry.agentKey agent wallet.generation).at network ≠
      (Entry.agentRecord agent).at network := by
    intro same
    cases Entry.at_injective (.agentKey agent wallet.generation) accepted same
  refine ⟨⟨accepted, ceiling, recordText wallet, ?_, lib.readRecord_text fits⟩, derives, text, ?_,
    decoded⟩
  · exact Function.update_self _ _ _
  · exact (Function.update_of_ne apart _ _).trans (Function.update_self _ _ _)

/-- A key that may be loaded is loaded by a call. -/
theorem Loadable.step {key : Key} (loadable : Loadable lib network before agent key wallet) :
    CallStep lib network before
      (⟨.load agent, [], some (.ok (.loaded key wallet))⟩ : Call Backend Key) before := by
  have quiet : ((Request.load agent).script lib network : KeyScript Backend (Reply Key)).Quiet :=
    (quiet_loadAgentKeyWithWallet agent).bind fun _ => Script.quiet_pure _
  have ends := Ends.run ((Request.load agent).script lib network : KeyScript Backend (Reply Key))
    before
  have answered : ((Request.load agent).script lib network :
      KeyScript Backend (Reply Key)).answer before = .ok (.loaded key wallet) :=
    (quiet_loadAgentKeyWithWallet agent).answer_bind_ok loadable.answer
  rw [quiet.trace_eq ends] at ends
  refine ⟨?_, rfl⟩
  rw [Script.answer] at answered
  rwa [answered] at ends

/-! ## Locked out -/

/-- Whether a call put an entry. -/
def Call.Puts (network : Network) (call : Call Backend Key) (entry : Entry)
    (content : Option String) : Prop :=
  ∃ name, (entry.name network : Except (KeyStoreError Backend) EntryName) = .ok name ∧
    (name, content) ∈ call.trace

/-- A call puts an entry exactly if its trace does. -/
theorem Call.puts_iff :
    call.Puts network entry content ↔
      entry.Accepted ∧ (entry.at network, content) ∈ call.trace := by
  constructor
  · rintro ⟨name, named, member⟩
    obtain ⟨accepted, rfl⟩ := (Entry.name_ok entry).mp named
    exact ⟨accepted, member⟩
  · rintro ⟨accepted, member⟩
    exact ⟨entry.at network, (Entry.name_ok entry).mpr ⟨accepted, rfl⟩, member⟩

/-- A creation of the agent. -/
def Call.Creates (call : Call Backend Key) (agent : String) : Prop :=
  ∃ keyHex validUntilMs nowMs, call.request = .create agent keyHex validUntilMs nowMs

/-- A creation of the agent whose record took effect. -/
def Call.Restores (network : Network) (call : Call Backend Key) (agent : String) : Prop :=
  call.Creates agent ∧ ∃ text, call.Puts network (.agentRecord agent) (some text)

/-- A creation of the agent that returned its wallet. -/
def Call.Created (call : Call Backend Key) (agent : String) : Prop :=
  call.Creates agent ∧ ∃ wallet, call.outcome = some (.ok (.installed wallet))

/-- A deletion of the agent whose first removal took effect. -/
def Call.Revokes (network : Network) (call : Call Backend Key) (agent : String) : Prop :=
  call.request = .delete agent ∧ call.Puts network (.agentRecord agent) none

/-- A call that revokes leaves no record of its agent. -/
theorem CallStep.revokes (step : CallStep lib network before call after)
    (revokes : call.Revokes network agent) :
    after ((Entry.agentRecord agent).at network) = none := by
  obtain ⟨accepted, member⟩ := Call.puts_iff.mp revokes.2
  rw [step.2]
  refine applied_of_mem (· = none) member fun content member => ?_
  cases step.does with
  | nothing quiet =>
      rw [quiet] at member
      cases member
  | installs starts =>
      have requested := revokes.1
      generalize call.request = request at starts requested
      cases starts with
      | create | rotate => cases requested
  | deletes requested accepted removed sweeps =>
      rw [removed] at member
      exact (deleting_entry accepted sweeps member).1

/-- **An agent without a record has none until a creation puts one.** -/
theorem CallStep.keeps_missing (step : CallStep lib network before call after)
    (missing : before ((Entry.agentRecord agent).at network) = none)
    (unrestored : ¬ call.Restores network agent) :
    after ((Entry.agentRecord agent).at network) = none := by
  rw [step.2]
  refine applied_of_forall (· = none) missing fun content member => ?_
  cases step.does with
  | nothing quiet =>
      rw [quiet] at member
      cases member
  | installs starts installs =>
      obtain ⟨held, same | same | same⟩ := installs.put_entry member
      · cases same
      · cases same
      · cases same
        generalize requested : call.request = request at starts
        cases starts with
        | @create agent keyHex validUntilMs nowMs _ _ =>
            obtain ⟨text, rfl⟩ := Option.isSome_iff_exists.mp held
            exact absurd ⟨⟨keyHex, validUntilMs, nowMs, requested⟩, text,
              Call.puts_iff.mpr ⟨installs.accepted, member⟩⟩ unrestored
        | rotate recorded _ =>
            obtain ⟨-, -, text, stored, -⟩ := recorded
            rw [missing] at stored
            cases stored
  | deletes requested accepted removed sweeps =>
      rw [removed] at member
      exact (deleting_entry accepted sweeps member).1

variable (lib network) in
/-- Once the first removal of a deletion took effect no load succeeds, until the agent is
restored. -/
def Locked (restores : Call Backend Key → String → Prop) (calls : List (Call Backend Key))
    (last : EntryName → Option String) : Prop :=
  ∀ earlier removal later agent, calls = earlier ++ removal :: later →
    removal.Revokes network agent → (∀ call ∈ later, ¬ restores call agent) →
      ∀ (load : Call Backend Key) after,
        CallStep lib network last load after → load.request = .load agent →
        Stopped load.outcome

/-- After every run a revoked agent is locked out until a call restores it. -/
theorem locked (run : Run (CallStep lib network) start calls last) :
    Locked lib network (fun call => call.Restores network) calls last := by
  rintro earlier removal later agent rfl revokes unrestored load after step requested reply same
  obtain ⟨before, -, rest⟩ := run.split
  obtain ⟨middle, removes, rest⟩ := rest.head
  have missing := rest.persists
    (fun store => store ((Entry.agentRecord agent).at network) = none)
    (fun call => ¬ call.Restores network agent)
    (fun _ _ _ missing tame step => step.keeps_missing missing tame) unrestored
    (removes.revokes revokes)
  have loaded : ∃ key wallet, reply = .loaded key wallet := by
    have ends := step.1
    rw [requested, same] at ends
    obtain ⟨early, -, answers⟩ := ends_return ends
    obtain ⟨⟨key, wallet⟩, -, rfl⟩ := answers _ rfl
    exact ⟨key, wallet, rfl⟩
  obtain ⟨key, wallet, rfl⟩ := loaded
  obtain ⟨-, -, text, stored, -⟩ := (step.loads requested same).recorded
  rw [missing] at stored
  cases stored

/-! ## Swept -/

variable (network) in
/-- No key entry lies past the highest generation. The sweep of a deletion goes up to that
generation, so nothing it should reach lies beyond. -/
def Capped (store : EntryName → Option String) : Prop :=
  ∀ agent, agentIdFault agent = none → ∀ generation, maxGeneration < generation →
    store ((Entry.agentKey agent generation).at network) = none

/-- Every call keeps the generations within what may be. -/
theorem CallStep.capped (step : CallStep lib network before call after)
    (capped : Capped network before) : Capped network after := by
  intro agent accepted generation past
  rw [step.2]
  refine applied_of_forall (· = none) (capped agent accepted generation past)
    fun content member => ?_
  cases step.does with
  | nothing quiet =>
      rw [quiet] at member
      cases member
  | installs starts installs =>
      obtain ⟨-, same | same | same⟩ := installs.put_entry member
      · cases same
      · cases same
        exact absurd installs.ceiling (not_le.mpr past)
      · cases same
  | deletes requested accepted removed sweeps =>
      rw [removed] at member
      exact (deleting_entry accepted sweeps member).1

/-- **A deletion that returned leaves no key of the agent.** -/
theorem CallStep.swept (step : CallStep lib network before call after)
    (capped : Capped network before) (requested : call.request = .delete agent)
    (deleted : call.outcome = some (.ok .deleted)) (accepted : agentIdFault agent = none)
    (generation : Nat) : after ((Entry.agentKey agent generation).at network) = none := by
  by_cases past : maxGeneration < generation
  · exact step.capped capped agent accepted generation past
  cases step.does with
  | nothing _ _ remains => exact absurd deleted remains
  | installs starts installs answers =>
      obtain ⟨installed, -, other⟩ := answers _ deleted
      cases other
  | deletes requested' accepted' removed sweeps answers =>
      obtain rfl := Request.delete.inj (requested.symm.trans requested')
      have member := (answers _ deleted).2 generation (not_lt.mp past)
      rw [step.2, removed]
      refine applied_of_mem (· = none) (List.mem_cons_of_mem _ member) fun content member => ?_
      exact (deleting_entry accepted sweeps member).1

/-! ## The key store -/

/-- An installation for the agent was asked for. -/
def Call.Asks (call : Call Backend Key) (agent : String) : Prop :=
  ∃ keyHex validUntilMs nowMs, call.request = .create agent keyHex validUntilMs nowMs ∨
    call.request = .rotate agent keyHex validUntilMs nowMs

/-- What the key store keeps to in a run that led to a store, and in whatever call comes next. -/
structure WalletsKept (Backend : Type) (lib : KeyLib Key) (network : Network)
    (calls : List (Call Backend Key)) (last : EntryName → Option String) : Prop where
  /-- No address is returned by two installations. -/
  installed_once : (calls.filterMap Call.installed).Nodup
  /-- A load returns the current record with a key that derives its address. -/
  loads : ∀ (load : Call Backend Key) after agent key wallet,
    CallStep lib network last load after → load.request = .load agent →
      load.outcome = some (.ok (.loaded key wallet)) →
        lib.address key = wallet.address ∧
          (agentWallet lib network agent : KeyScript Backend _).answer last = .ok (some wallet)
  /-- An installation that is cut short before its record leaves what could be loaded. -/
  survives : ∀ (install : Call Backend Key) after agent,
    CallStep lib network last install after → install.Asks agent →
      (∀ content, ¬ install.Puts network (.agentRecord agent) content) →
        ∀ other key wallet,
          (loadAgentKeyWithWallet lib network other : KeyScript Backend _).answer last =
            .ok (key, wallet) →
          (loadAgentKeyWithWallet lib network other : KeyScript Backend _).answer after =
            .ok (key, wallet)
  /-- A rotation puts no key of the current or an earlier generation. -/
  upward : ∀ (rotation : Call Backend Key) after agent keyHex validUntilMs nowMs current,
    CallStep lib network last rotation after →
      rotation.request = .rotate agent keyHex validUntilMs nowMs →
        (agentWallet lib network agent : KeyScript Backend _).answer last = .ok (some current) →
          ∀ generation ≤ current.generation, ∀ content,
            ¬ rotation.Puts network (.agentKey agent generation) content
  /-- An agent whose deletion began is locked out until a creation puts its record. -/
  locked : Locked lib network (fun call => call.Restores network) calls last
  /-- A deletion that returned leaves no key entry of the agent. -/
  swept : ∀ (deletion : Call Backend Key) after agent,
    CallStep lib network last deletion after → deletion.request = .delete agent →
      deletion.outcome = some (.ok .deleted) → ∀ generation name,
        (EntryName.agentKey network agent generation : Except (KeyStoreError Backend) _) =
          .ok name → after name = none
  /-- Different entries have different names. -/
  distinct : ∀ (first second : Entry) other name,
    (first.name network : Except (KeyStoreError Backend) _) = .ok name →
      (second.name other : Except (KeyStoreError Backend) _) = .ok name →
        first = second ∧ network = other

/-- An installation that ran did nothing, or installs for the agent that asked. -/
theorem CallStep.asked (step : CallStep lib network before call after) (asks : call.Asks agent) :
    call.trace = [] ∨ ∃ wallet, ∃ outcome : Option (Except (KeyStoreError Backend) AgentWallet),
      StartsFrom lib network before wallet call.request agent ∧
        Installs lib network before agent wallet call.trace outcome := by
  obtain ⟨keyHex, validUntilMs, nowMs, requested⟩ := asks
  cases step.does with
  | nothing quiet => exact .inl quiet
  | @installs other wallet outcome starts installs =>
      refine .inr ⟨wallet, outcome, ?_⟩
      rcases requested with requested | requested
      · rw [requested] at starts ⊢
        cases starts with
        | create first missing => exact ⟨.create first missing, installs⟩
      · rw [requested] at starts ⊢
        cases starts with
        | rotate recorded upward => exact ⟨.rotate recorded upward, installs⟩
  | deletes requested' =>
      rcases requested with requested | requested
      · cases requested.symm.trans requested'
      · cases requested.symm.trans requested'

/-- **The key store keeps wallets through any sequence of calls**, whichever operation on an entry
fails or is the last the process does. No address is installed twice, a load returns the recorded
wallet with the key that derives its address, an installation that is cut short before its record
leaves what could be loaded, and an agent whose deletion began is locked out until a creation puts
its record. -/
theorem wallets_kept (capped : Capped network start)
    (run : Run (CallStep lib network) start calls last) :
    WalletsKept Backend lib network calls last where
  installed_once := installed_nodup run
  loads load after agent key wallet step requested loaded := by
    have loadable := step.loads requested loaded
    exact ⟨loadable.derives, loadable.recorded.answer⟩
  survives install after agent step asks short other key wallet answered := by
    have loadable := answer_loadAgentKeyWithWallet answered
    rcases step.asked asks with quiet | ⟨fresh, outcome, starts, installs⟩
    · rw [step.2, quiet]
      exact answered
    · refine (step.keeps_loadable starts installs (fun content member => ?_) loadable).answer
      exact short content (Call.puts_iff.mpr ⟨installs.accepted, member⟩)
  upward rotation after agent keyHex validUntilMs nowMs current step requested answered
      generation below content puts := by
    obtain ⟨accepted, member⟩ := Call.puts_iff.mp puts
    rcases step.asked ⟨keyHex, validUntilMs, nowMs, .inr requested⟩ with quiet |
      ⟨fresh, outcome, starts, installs⟩
    · rw [quiet] at member
      cases member
    · rw [requested] at starts
      cases starts with
      | rotate recorded upward =>
          obtain ⟨-, ⟨same, -⟩ | ⟨wallet, same, recorded'⟩⟩ := answer_agentWallet answered
          · cases same
          · obtain rfl := Option.some.inj same
            obtain rfl := recorded.unique recorded'
            obtain ⟨-, same | same | same⟩ := installs.put_entry member
            · cases same
            · obtain ⟨-, rfl⟩ := Entry.agentKey.inj same
              omega
            · cases same
  locked := locked run
  swept deletion after agent step requested deleted generation name named := by
    obtain ⟨accepted, rfl⟩ := (Entry.name_ok (.agentKey agent generation)).mp named
    have ceiling := run.invariant (Capped network) (fun _ _ _ capped step => step.capped capped)
      capped
    exact step.swept ceiling requested deleted accepted generation
  distinct first second other name named named' := Entry.name_injective named named'

/-! ## A first wallet -/

/-- A wallet that fits is written in whole numbers. -/
theorem wallet_integral (fits : walletFits wallet) : wallet.toValue.Integral := by
  obtain ⟨generation, approved, valid⟩ := fits
  have small : wallet.generation < 2 ^ 64 := by omega
  exact ⟨small, trivial, approved, valid, trivial⟩

def firstKeyHex : String := "0000000000000000000000000000000000000000000000000000000000000001"

/-- The signer on the key of the curve's generator, and the record reader on compact text. -/
def KeyLib.reference : KeyLib Nat where
  fromHex text := if text = firstKeyHex then some 1 else none
  address _ := ⟨[0x7e, 0x5f, 0x45, 0x52, 0x09, 0x1a, 0x69, 0x12, 0x5d, 0x5d, 0xfc, 0xb7, 0xb8, 0xc2,
    0x65, 0x90, 0x29, 0x39, 0x5b, 0xdf], rfl⟩
  readRecord text := (read text.toList).bind walletOfValue
  readRecord_text {wallet} fits := by
    rw [String.toList_ofList, read_chars (wallet_integral fits) (by decide : 1 < 128),
      Option.bind_some, walletOfValue_fields fits rfl]

def firstWallet : AgentWallet := ⟨0, KeyLib.reference.address 1, 1000, 2000⟩

def firstRequest : Request := .create "agent-1" firstKeyHex 2000 1000

/-- Nothing is stored yet. -/
def nothingStored : EntryName → Option String := fun _ => none

/-- An empty store is within what may be. -/
theorem capped_nothingStored (network : Network) : Capped network nothingStored :=
  fun _ _ _ _ => rfl

/-- A call in which nothing fails. -/
def Request.whole (request : Request) (store : EntryName → Option String) : Call Empty Nat :=
  let run := (request.script KeyLib.reference .testnet : KeyScript Empty _).run store
  ⟨request, run.1, some run.2⟩

/-- A request that is neither cut short nor fails is a call, and the store is what its trace makes
of it. -/
theorem Request.whole_step (request : Request) (store : EntryName → Option String) :
    CallStep KeyLib.reference .testnet store (request.whole store)
      (applied store (request.whole store).trace) :=
  ⟨Ends.run _ store, rfl⟩

/-- A deletion that dies after its first removal. -/
def revocation : Call Empty Nat :=
  ⟨.delete "agent-1", [((Entry.agentRecord "agent-1").at .testnet, none)], none⟩

/-- The store with the first wallet. -/
def afterCreation : EntryName → Option String :=
  applied nothingStored (firstRequest.whole nothingStored).trace

/-- The store once the wallet was loaded. -/
def afterLoad : EntryName → Option String :=
  applied afterCreation ((Request.load "agent-1").whole afterCreation).trace

/-- The store after the deletion died. -/
def afterDeath : EntryName → Option String := applied afterLoad revocation.trace

/-- A first wallet is created, returned and loaded. Its deletion dies after its first removal, and
no load returns the wallet after that. -/
theorem first_wallet_kept :
    ∃ (created loaded refused : Call Empty Nat) (last : EntryName → Option String),
      created.outcome = some (.ok (.installed firstWallet)) ∧
        loaded.outcome = some (.ok (.loaded 1 firstWallet)) ∧
        refused.request = .load "agent-1" ∧
        refused.outcome = some (.error (.missing (Entry.agentRecord "agent-1").account)) ∧
        WalletsKept Empty KeyLib.reference .testnet [created, loaded, revocation, refused]
          last := by
  have died : CallStep KeyLib.reference .testnet afterLoad revocation afterDeath :=
    ⟨.putStopsAfter .died, rfl⟩
  have load (store : EntryName → Option String) := Request.whole_step (.load "agent-1") store
  have run := (((Run.single (firstRequest.whole_step nothingStored)).snoc (load afterCreation)).snoc
    died).snoc (load afterDeath)
  exact ⟨_, _, _, _, by decide +kernel, by decide +kernel, rfl, by decide +kernel,
    wallets_kept (capped_nothingStored .testnet) run⟩

/-- A creation that dies when its record has taken effect. -/
def cutCreation : Call Empty Nat :=
  ⟨firstRequest, installing .testnet "agent-1" firstKeyHex firstWallet, none⟩

/-- **The lock-out may end without a creation that returns**: once the record took effect the
wallet can be loaded, though the process died before the creation answered. -/
theorem created_without_return_loads :
    ¬ ∀ (calls : List (Call Empty Nat)) last,
      Run (CallStep KeyLib.reference .testnet) nothingStored calls last →
        Locked KeyLib.reference .testnet Call.Created calls last := by
  intro locked
  have accepted : agentIdFault "agent-1" = none := by decide
  have removes : CallStep KeyLib.reference .testnet nothingStored revocation
      (applied nothingStored revocation.trace) := ⟨.putStopsAfter .died, rfl⟩
  have run : ((firstRequest.script KeyLib.reference .testnet : KeyScript Empty _).run
      (applied nothingStored revocation.trace)).1 = cutCreation.trace ++ [] := by
    decide +kernel
  have ends := Ends.run (firstRequest.script KeyLib.reference .testnet : KeyScript Empty _)
    (applied nothingStored revocation.trace)
  rw [run] at ends
  have creates : CallStep KeyLib.reference .testnet (applied nothingStored revocation.trace)
      cutCreation (applied (applied nothingStored revocation.trace) cutCreation.trace) :=
    ⟨ends.cut (List.cons_ne_nil _ _), rfl⟩
  have loadable : Loadable KeyLib.reference .testnet
      (applied (applied nothingStored revocation.trace) cutCreation.trace) "agent-1" 1
      firstWallet :=
    installing_loadable accepted (Nat.zero_le _) ⟨by decide, by decide, by decide⟩ rfl rfl
  have run := (Run.single removes).append (.single creates)
  refine locked _ _ run [] revocation [cutCreation] "agent-1" rfl ⟨rfl, ?_⟩ ?_ _ _
    loadable.step rfl _ rfl
  · exact Call.puts_iff.mpr ⟨accepted, List.mem_cons_self⟩
  · rintro call member ⟨-, wallet, returned⟩
    rw [List.mem_singleton.mp member] at returned
    cases returned

end Oppen.Keys
