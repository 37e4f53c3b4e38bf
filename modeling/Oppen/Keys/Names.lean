import Oppen.Keys.Store

/-! # Entry names

The names of the entries of one network, for accepted agent ids: what an entry is for, and whose
it is, is determined by its name.
-/

namespace Oppen.Keys

open Foundation Oppen.Ledger

variable {Backend : Type} {network network' : Network} {agent other : String}

/-- What an entry is for. -/
inductive Entry where
  | agentKey (agent : String) (generation : Nat)
  | agentRecord (agent : String)
  | agentAddress (address : Address)
  | guardrailHmac
  deriving DecidableEq

/-- The name of an entry; an agent id that cannot be part of one is refused. -/
def Entry.name (network : Network) : Entry → Except (KeyStoreError Backend) EntryName
  | .agentKey agent generation => EntryName.agentKey network agent generation
  | .agentRecord agent => EntryName.agentRecord network agent
  | .agentAddress address => .ok (EntryName.agentAddress network address)
  | .guardrailHmac => .ok (EntryName.guardrailHmac network)

/-- The agent id of an entry, if it has one, is accepted. -/
def Entry.Accepted : Entry → Prop
  | .agentKey agent _ | .agentRecord agent => agentIdFault agent = none
  | _ => True

/-- What a name is made of besides the service. -/
def Entry.account : Entry → String
  | .agentKey agent generation => "agent-key" ++ "/" ++ agent ++ "/" ++ toString generation
  | .agentRecord agent => "agent-record" ++ "/" ++ agent
  | .agentAddress address => "agent-address" ++ "/" ++ address.display
  | .guardrailHmac => "guardrail-hmac"

/-- An agent's name is accepted exactly if it has no fault, and it is then kept as it is. -/
theorem checkedAgentId_ok {id : String} :
    (checkedAgentId agent : Except (KeyStoreError Backend) String) = .ok id ↔
      agentIdFault agent = none ∧ id = agent := by
  rw [checkedAgentId]
  cases agentIdFault agent with
  | none => exact ⟨fun same => ⟨rfl, (Except.ok.inj same).symm⟩, fun facts => by rw [facts.2]⟩
  | some reason => exact ⟨nofun, fun facts => nomatch facts.1⟩

/-- An entry is named exactly if it is accepted, and by its own account. -/
theorem Entry.name_ok (entry : Entry) {name : EntryName} :
    (entry.name network : Except (KeyStoreError Backend) EntryName) = .ok name ↔
      entry.Accepted ∧ name = ⟨serviceOf network, entry.account⟩ := by
  cases entry with
  | agentKey agent generation =>
      constructor
      · intro named
        obtain ⟨id, checked, same⟩ := bind_eq_ok named
        obtain ⟨accepted, rfl⟩ := checkedAgentId_ok.mp checked
        exact ⟨accepted, (Except.ok.inj same).symm⟩
      · rintro ⟨accepted, rfl⟩
        rw [Entry.name, EntryName.agentKey, checkedAgentId_ok.mpr ⟨accepted, rfl⟩]
        rfl
  | agentRecord agent =>
      constructor
      · intro named
        obtain ⟨id, checked, same⟩ := bind_eq_ok named
        obtain ⟨accepted, rfl⟩ := checkedAgentId_ok.mp checked
        exact ⟨accepted, (Except.ok.inj same).symm⟩
      · rintro ⟨accepted, rfl⟩
        rw [Entry.name, EntryName.agentRecord, checkedAgentId_ok.mpr ⟨accepted, rfl⟩]
        rfl
  | agentAddress address =>
      exact ⟨fun same => ⟨trivial, (Except.ok.inj same).symm⟩, fun facts => by
        rw [facts.2]
        rfl⟩
  | guardrailHmac =>
      exact ⟨fun same => ⟨trivial, (Except.ok.inj same).symm⟩, fun facts => by
        rw [facts.2]
        rfl⟩

/-- An accepted agent id does not contain the separator. -/
theorem separator_not_mem (accepted : agentIdFault agent = none) : '/' ∉ agent.toList := by
  rw [agentIdFault] at accepted
  split at accepted
  · cases accepted
  split at accepted
  · cases accepted
  split at accepted
  · rename_i plain
    intro member
    exact Bool.false_ne_true (List.all_eq_true.mp plain '/' member)
  · cases accepted

/-- No number is written with a separator. -/
theorem separator_not_mem_digits (generation : Nat) : '/' ∉ (toString generation).toList := by
  intro member
  rw [Nat.toString_eq_repr, Nat.repr, String.toList_ofList] at member
  exact Bool.false_ne_true (Nat.isDigit_of_mem_toDigits (by omega) (by omega) member)

/-- An agent and a generation are told apart where the separator stands. -/
theorem agentKey_account_injective {generation generation' : Nat}
    (accepted : agentIdFault agent = none)
    (same : (Entry.agentKey agent generation).account =
      (Entry.agentKey other generation').account) :
    agent = other ∧ generation = generation' := by
  have chars := congrArg String.toList same
  simp only [Entry.account, String.toList_append, List.append_assoc, List.append_cancel_left_eq]
    at chars
  have separated : "/".toList = ['/'] := rfl
  rw [separated, List.singleton_append, List.singleton_append] at chars
  obtain ⟨agents, -, digits⟩ := (List.append_cons_inj_of_notMem (separator_not_mem accepted)
    (separator_not_mem_digits generation)).mp chars
  exact ⟨String.toList_inj.mp agents,
    toString_nat_injective (String.toList_inj.mp digits)⟩

/-- What follows the separator is told apart from what is before it. -/
theorem account_append_injective {stem first second : String}
    (same : stem ++ "/" ++ first = stem ++ "/" ++ second) : first = second := by
  have chars := congrArg String.toList same
  simp only [String.toList_append, List.append_cancel_left_eq] at chars
  exact String.toList_inj.mp chars

/-- The letter that tells the kinds of entry apart. -/
def Entry.letter : Entry → Option Char
  | .agentKey .. => some 'y'
  | .agentRecord _ => some 'c'
  | .agentAddress _ => some 'd'
  | .guardrailHmac => some 'l'

/-- The letter after the stem says which kind of entry an account names. -/
theorem Entry.letter_account (entry : Entry) : entry.account.toList[8]? = entry.letter := by
  cases entry with
  | agentKey agent generation =>
      simp only [Entry.account, String.toList_append]
      rfl
  | agentRecord agent =>
      simp only [Entry.account, String.toList_append]
      rfl
  | agentAddress address =>
      simp only [Entry.account, String.toList_append]
      rfl
  | guardrailHmac => rfl

/-- **What an entry is for is determined by its account name.** -/
theorem Entry.account_injective {first second : Entry} (accepted : first.Accepted)
    (same : first.account = second.account) : first = second := by
  have letters : first.letter = second.letter := by
    rw [← first.letter_account, ← second.letter_account, same]
  cases first with
  | agentKey agent generation =>
      cases second with
      | agentKey other generation' =>
          obtain ⟨rfl, rfl⟩ := agentKey_account_injective accepted same
          rfl
      | agentRecord | agentAddress | guardrailHmac => cases letters
  | agentRecord agent =>
      cases second with
      | agentRecord other => rw [account_append_injective same]
      | agentKey | agentAddress | guardrailHmac => cases letters
  | agentAddress address =>
      cases second with
      | agentAddress other =>
          rw [Address.display_injective (account_append_injective same)]
      | agentKey | agentRecord | guardrailHmac => cases letters
  | guardrailHmac =>
      cases second with
      | guardrailHmac => rfl
      | agentKey | agentRecord | agentAddress => cases letters

/-- Each network has a service of its own. -/
theorem serviceOf_injective (same : serviceOf network = serviceOf network') :
    network = network' := by
  cases network <;> cases network' <;> first | rfl | exact absurd same (by decide)

/-- **Entries of one name are one entry of one network.** -/
theorem Entry.name_injective {first second : Entry} {name : EntryName}
    (named : (first.name network : Except (KeyStoreError Backend) EntryName) = .ok name)
    (named' : (second.name network' : Except (KeyStoreError Backend) EntryName) = .ok name) :
    first = second ∧ network = network' := by
  obtain ⟨accepted, rfl⟩ := (Entry.name_ok _).mp named
  obtain ⟨-, same⟩ := (Entry.name_ok _).mp named'
  exact ⟨Entry.account_injective accepted (congrArg EntryName.account same),
    serviceOf_injective (congrArg EntryName.service same)⟩

end Oppen.Keys
