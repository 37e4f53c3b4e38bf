import Mathlib.Data.List.Basic
import Mathlib.Data.List.Chain

/-! # Blocks of a list

A list falls into blocks, the longest stretches of entries with one key. The blocks of a coarser
key are made of whole blocks, and what an associative operation makes of them may be made of
what it makes of the finer ones.
-/

namespace Foundation

/-- A stretch of entries, with at least one of them. -/
structure Block (α : Type) where
  first : α
  rest : List α
  deriving DecidableEq

variable {α β κ ι : Type}

namespace Block

def toList (block : Block α) : List α := block.first :: block.rest

def map (f : α → β) (block : Block α) : Block β := ⟨f block.first, block.rest.map f⟩

/-- What an operation makes of the entries, in their order. -/
def fold (op : α → α → α) (block : Block α) : α := block.rest.foldl op block.first

/-- The last entry. -/
def last (block : Block α) : α := block.rest.getLastD block.first

/-- Several stretches in a row. -/
def join (block : Block (Block α)) : Block α :=
  ⟨block.first.first, block.first.rest ++ block.rest.flatMap toList⟩

/-- The first entry of a block is one of its entries, since a block is not empty. -/
@[simp] theorem first_mem (block : Block α) : block.first ∈ block.toList := List.mem_cons_self

/-- The last entry of a block is one of its entries, since a block is not empty. -/
theorem last_mem (block : Block α) : block.last ∈ block.toList := by
  rw [last, toList]
  cases block.rest with
  | nil => exact List.mem_cons_self
  | cons entry later =>
      rw [List.getLastD_cons, ← List.getLast_eq_getLastD (by simp)]
      exact List.mem_cons_of_mem _ (List.getLast_mem _)

/-- Joining blocks of blocks joins their lists. -/
theorem toList_join (block : Block (Block α)) :
    block.join.toList = block.toList.flatMap toList := by
  simp only [toList, join, List.flatMap_cons, List.cons_append]

/-- **An associative operation makes of stretches in a row what it makes of their entries.** -/
theorem fold_join {op : α → α → α} [Std.Associative op] (block : Block (Block α)) :
    block.join.fold op = (block.map (fold op)).fold op := by
  obtain ⟨head, later⟩ := block
  simp only [fold, join, map, List.foldl_append]
  generalize head.rest.foldl op head.first = made
  induction later generalizing made with
  | nil => rfl
  | cons next later ih =>
      simp only [List.flatMap_cons, List.map_cons, List.foldl_append, List.foldl_cons, toList]
      rw [List.foldl_assoc, ih]
      rfl

end Block

/-- A chain through stretches in a row is a chain through each of them and from each to the next. -/
theorem isChain_flatMap_toList {relation : α → α → Prop} (split : List (Block α)) :
    (split.flatMap Block.toList).IsChain relation ↔
      (∀ block ∈ split, block.toList.IsChain relation) ∧
        split.IsChain fun block next => relation block.last next.first := by
  induction split with
  | nil => simp
  | cons block later ih =>
      rw [List.flatMap_cons, List.isChain_append, ih, List.forall_mem_cons]
      cases later with
      | nil => simp
      | cons next later =>
          have ends : block.toList.getLast? = some block.last := by
            rw [Block.toList, Block.last, List.getLast?_cons, List.getLastD_eq_getLast?]
          rw [List.isChain_cons_cons, ends]
          simp only [List.flatMap_cons, Block.toList, List.cons_append, List.head?_cons,
            Option.mem_def, Option.some.injEq, forall_eq']
          tauto

/-! ## Splitting by a key -/

section Split

variable [DecidableEq κ] [DecidableEq ι] (key : α → κ)

/-- One more entry in front. -/
def extend (entry : α) : List (Block α) → List (Block α)
  | [] => [⟨entry, []⟩]
  | block :: later =>
      if key entry = key block.first then ⟨entry, block.toList⟩ :: later
      else ⟨entry, []⟩ :: block :: later

/-- The longest stretches of one key. -/
def blocks : List α → List (Block α)
  | [] => []
  | entry :: later => extend key entry (blocks later)

@[simp] theorem blocks_nil : blocks key ([] : List α) = [] := rfl

/-- The blocks of a longer list extend the blocks of its tail by one entry. -/
@[simp] theorem blocks_cons (entry : α) (later : List α) :
    blocks key (entry :: later) = extend key entry (blocks key later) := rfl

variable {key} in
/-- An entry with the key of the first block is put in front of that block. -/
theorem extend_of_eq {entry : α} {block : Block α} (same : key entry = key block.first)
    (later : List (Block α)) :
    extend key entry (block :: later) = ⟨entry, block.toList⟩ :: later := if_pos same

variable {key} in
/-- An entry with another key than the first block begins a block of its own. -/
theorem extend_of_ne {entry : α} {block : Block α} (apart : key entry ≠ key block.first)
    (later : List (Block α)) :
    extend key entry (block :: later) = ⟨entry, []⟩ :: block :: later := if_neg apart

/-- Extending by an entry puts that entry in front, whatever the blocks are. -/
theorem flatMap_extend (entry : α) (split : List (Block α)) :
    (extend key entry split).flatMap Block.toList = entry :: split.flatMap Block.toList := by
  cases split with
  | nil => rfl
  | cons block later =>
      rw [extend]
      split <;> rfl

/-- The blocks are the list. -/
theorem flatMap_blocks (entries : List α) :
    (blocks key entries).flatMap Block.toList = entries := by
  induction entries with
  | nil => rfl
  | cons entry later ih => rw [blocks_cons, flatMap_extend, ih]

/-- Splitting into blocks invents no entry. -/
theorem mem_of_mem_blocks {entries : List α} {block : Block α} (member : block ∈ blocks key entries)
    {entry : α} (inside : entry ∈ block.toList) : entry ∈ entries := by
  rw [← flatMap_blocks key entries]
  exact List.mem_flatMap.mpr ⟨block, member, inside⟩

/-- The first block starts with the first entry. -/
theorem exists_blocks_cons (entry : α) (later : List α) :
    ∃ rest others, blocks key (entry :: later) = ⟨entry, rest⟩ :: others := by
  rw [blocks_cons]
  cases blocks key later with
  | nil => exact ⟨[], [], rfl⟩
  | cons block others =>
      by_cases same : key entry = key block.first
      · exact ⟨_, _, extend_of_eq same others⟩
      · exact ⟨_, _, extend_of_ne same others⟩

/-- The split depends on the keys of the entries in the list only. -/
theorem blocks_congr {other : α → κ} {entries : List α}
    (same : ∀ entry ∈ entries, key entry = other entry) :
    blocks key entries = blocks other entries := by
  induction entries with
  | nil => rfl
  | cons entry later ih =>
      rw [blocks_cons, blocks_cons,
        ← ih fun entry member => same entry (List.mem_cons_of_mem _ member)]
      cases split : blocks key later with
      | nil => rfl
      | cons block others =>
          have head := mem_of_mem_blocks key (split ▸ List.mem_cons_self) block.first_mem
          rw [extend, extend, same entry List.mem_cons_self,
            same block.first (List.mem_cons_of_mem _ head)]

/-- A block has one key. -/
theorem key_of_mem_block {entries : List α} {block : Block α} (member : block ∈ blocks key entries)
    {entry : α} (inside : entry ∈ block.toList) : key entry = key block.first := by
  induction entries generalizing block with
  | nil => cases member
  | cons head later ih =>
      rw [blocks_cons] at member
      cases split : blocks key later with
      | nil =>
          rw [split, extend, List.mem_singleton] at member
          subst member
          rw [List.mem_singleton.mp inside]
      | cons next others =>
          rw [split] at member ih
          rw [extend] at member
          by_cases same : key head = key next.first
          · rw [if_pos same] at member
            rcases List.mem_cons.mp member with rfl | old
            · rcases List.mem_cons.mp inside with rfl | older
              · rfl
              · exact (ih List.mem_cons_self older).trans same.symm
            · exact ih (List.mem_cons_of_mem _ old) inside
          · rw [if_neg same] at member
            rcases List.mem_cons.mp member with rfl | old
            · rw [List.mem_singleton.mp inside]
            · exact ih old inside

/-- Two blocks in a row have different keys. -/
theorem isChain_blocks (entries : List α) :
    (blocks key entries).IsChain fun block next => key block.first ≠ key next.first := by
  induction entries with
  | nil => exact .nil
  | cons entry later ih =>
      rw [blocks_cons]
      cases split : blocks key later with
      | nil => exact .singleton _
      | cons block others =>
          rw [split] at ih
          rw [extend]
          by_cases same : key entry = key block.first
          · rw [if_pos same]
            cases others with
            | nil => exact .singleton _
            | cons next others =>
                obtain ⟨apart, ih⟩ := List.isChain_cons_cons.mp ih
                exact .cons_cons (same ▸ apart) ih
          · rw [if_neg same]
            exact .cons_cons same ih

/-- The blocks of what a function makes of the entries. -/
theorem blocks_map (f : β → α) (entries : List β) :
    blocks key (entries.map f) =
      (blocks (fun entry => key (f entry)) entries).map (Block.map f) := by
  induction entries with
  | nil => rfl
  | cons entry later ih =>
      rw [List.map_cons, blocks_cons, ih, blocks_cons]
      cases blocks (fun entry => key (f entry)) later with
      | nil => rfl
      | cons block others =>
          simp only [extend, List.map_cons, Block.map]
          split <;> rfl

omit [DecidableEq κ] in
/-- An entry in front of joined blocks is a block of its own in front of them. -/
theorem extend_join (coarse : κ → ι) (entry : α) (split : List (Block (Block α))) :
    extend (fun entry => coarse (key entry)) entry (split.map Block.join) =
      (extend (fun block => coarse (key block.first)) ⟨entry, []⟩ split).map Block.join := by
  cases split with
  | nil => rfl
  | cons outer further =>
      by_cases same : coarse (key entry) = coarse (key outer.first.first)
      · rw [List.map_cons, extend, extend,
          if_pos (show coarse (key entry) = coarse (key outer.join.first) from same),
          if_pos (show _ = coarse (key outer.first.first) from same), List.map_cons,
          Block.toList_join]
        rfl
      · rw [List.map_cons, extend, extend,
          if_neg (show ¬ coarse (key entry) = coarse (key outer.join.first) from same),
          if_neg (show ¬ _ = coarse (key outer.first.first) from same)]
        rfl

omit [DecidableEq κ] in
/-- An entry in front of the first of the joined blocks. -/
theorem extend_join_of_eq (coarse : κ → ι) {entry : α} {block : Block α}
    (same : key entry = key block.first) (split : List (Block (Block α))) :
    extend (fun entry => coarse (key entry)) entry
        ((extend (fun block => coarse (key block.first)) block split).map Block.join) =
      (extend (fun block => coarse (key block.first)) ⟨entry, block.toList⟩ split).map
        Block.join := by
  have level : coarse (key entry) = coarse (key block.first) := congrArg coarse same
  have head (rest : List (Block α)) (further : List (Block (Block α))) :
      extend (fun entry => coarse (key entry)) entry
          ((⟨block, rest⟩ :: further : List (Block (Block α))).map Block.join) =
        (⟨⟨entry, block.toList⟩, rest⟩ :: further : List (Block (Block α))).map Block.join := by
    rw [List.map_cons, extend,
      if_pos (show _ = coarse (key (Block.join ⟨block, rest⟩).first) from level),
      Block.toList_join]
    rfl
  cases split with
  | nil => exact head [] []
  | cons outer further =>
      by_cases next : coarse (key block.first) = coarse (key outer.first.first)
      · rw [extend, extend, if_pos next,
          if_pos (show coarse (key entry) = coarse (key outer.first.first) from level.trans next)]
        exact head outer.toList further
      · rw [extend, extend, if_neg next,
          if_neg (show ¬ coarse (key entry) = coarse (key outer.first.first) from level ▸ next)]
        exact head [] (outer :: further)

/-- **The blocks of a coarser key are made of whole blocks.** -/
theorem blocks_coarse (coarse : κ → ι) (entries : List α) :
    blocks (fun entry => coarse (key entry)) entries =
      (blocks (fun block => coarse (key block.first)) (blocks key entries)).map Block.join := by
  induction entries with
  | nil => rfl
  | cons entry later ih =>
      rw [blocks_cons, ih, blocks_cons]
      cases blocks key later with
      | nil => rfl
      | cons block others =>
          by_cases same : key entry = key block.first
          · rw [extend_of_eq same, blocks_cons, blocks_cons, extend_join_of_eq key coarse same]
          · rw [extend_of_ne same, blocks_cons _ (⟨entry, []⟩ : Block α), extend_join]

omit [DecidableEq ι] in
/-- Where no two stretches have one key, the entries of a stretch are those with its key. -/
theorem filter_flatMap_toList {split : List (Block α)}
    (uniform : ∀ block ∈ split, ∀ entry ∈ block.toList, key entry = key block.first)
    (distinct : split.Pairwise fun block next => key block.first ≠ key next.first)
    {block : Block α} (member : block ∈ split) :
    (split.flatMap Block.toList).filter (fun entry => key entry = key block.first) =
      block.toList := by
  have outside {others : List (Block α)} (within : ∀ other ∈ others, other ∈ split)
      (apart : ∀ other ∈ others, key other.first ≠ key block.first) :
      (others.flatMap Block.toList).filter (fun entry => key entry = key block.first) = [] := by
    rw [List.filter_eq_nil_iff]
    intro entry inside same
    obtain ⟨other, among, inside⟩ := List.mem_flatMap.mp inside
    exact apart other among
      ((uniform other (within other among) entry inside).symm.trans (of_decide_eq_true same))
  obtain ⟨before, after, rfl⟩ := List.append_of_mem member
  obtain ⟨-, rest, earlier⟩ := List.pairwise_append.mp distinct
  have later := (List.pairwise_cons.mp rest).1
  rw [List.flatMap_append, List.flatMap_cons, List.filter_append, List.filter_append,
    outside (fun other among => List.mem_append_left _ among)
      (fun other among => earlier other among block List.mem_cons_self),
    outside (fun other among => List.mem_append_right _ (List.mem_cons_of_mem _ among))
      (fun other among => (later other among).symm), List.nil_append, List.append_nil,
    List.filter_eq_self]
  exact fun entry inside => decide_eq_true (uniform block member entry inside)

end Split

end Foundation
