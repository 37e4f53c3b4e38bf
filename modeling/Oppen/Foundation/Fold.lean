import Mathlib.Data.List.Forall2
import Mathlib.Data.List.Induction

/-! # Folding a log into a state

A log is read by a step function that may refuse an entry; the read succeeds when
every step does. The rules below say what a successful read leaves, and compare the
reads of two logs.
-/

namespace Foundation

variable {State Entry Error : Type} {step : State → Entry → Except Error State}
  {start final : State} {entries : List Entry}

/-- A fold over a longer list succeeds exactly if it succeeds on the shorter one and the last step
succeeds from there. -/
theorem foldlM_concat_ok_iff {entry : Entry} :
    (entries ++ [entry]).foldlM step start = .ok final ↔
      ∃ middle, entries.foldlM step start = .ok middle ∧ step middle entry = .ok final := by
  rw [List.foldlM_append]
  cases entries.foldlM step start with
  | error error => exact ⟨nofun, nofun⟩
  | ok middle =>
      have last : [entry].foldlM step middle = step middle entry := by
        rw [List.foldlM_cons]
        cases step middle entry <;> rfl
      change [entry].foldlM step middle = _ ↔ _
      rw [last]
      constructor
      · intro moved
        exact ⟨middle, rfl, moved⟩
      · rintro ⟨state, same, moved⟩
        cases same
        exact moved

/-- A relation between the entries read so far and the state they leave. -/
theorem foldlM_history (relation : List Entry → State → Prop) (initial : relation [] start)
    (extended : ∀ seen before entry after, relation seen before →
      step before entry = .ok after → relation (seen ++ [entry]) after)
    (run : entries.foldlM step start = .ok final) : relation entries final := by
  induction entries using List.reverseRecOn generalizing final with
  | nil =>
      cases run
      exact initial
  | append_singleton entries entry ih =>
      obtain ⟨middle, prior, last⟩ := foldlM_concat_ok_iff.mp run
      exact extended _ _ _ _ (ih prior) last

/-- A step function that does whatever another does reads every log the other reads. -/
theorem foldlM_mono {step' : State → Entry → Except Error State}
    (agrees : ∀ before entry after, step before entry = .ok after →
      step' before entry = .ok after)
    (run : entries.foldlM step start = .ok final) : entries.foldlM step' start = .ok final := by
  induction entries using List.reverseRecOn generalizing final with
  | nil => exact run
  | append_singleton entries entry ih =>
      obtain ⟨middle, prior, last⟩ := foldlM_concat_ok_iff.mp run
      exact foldlM_concat_ok_iff.mpr ⟨middle, ih prior, agrees _ _ _ last⟩

/-- A traversal goes through exactly when every entry does, each to its result. -/
theorem mapM_ok_iff {Result : Type} {read : Entry → Except Error Result}
    {results : List Result} :
    entries.mapM read = .ok results ↔
      List.Forall₂ (fun entry result => read entry = .ok result) entries results := by
  induction entries generalizing results with
  | nil =>
      rw [List.mapM_nil, List.forall₂_nil_left_iff]
      exact ⟨fun same => (Except.ok.inj same).symm, fun empty => by rw [empty]; rfl⟩
  | cons entry rest ih =>
      rw [List.mapM_cons, List.forall₂_cons_left_iff]
      constructor
      · intro run
        cases first : read entry with
        | error error => rw [first] at run; cases run
        | ok result =>
            cases others : rest.mapM read with
            | error error => rw [first, others] at run; cases run
            | ok results =>
                rw [first, others] at run
                cases run
                exact ⟨result, results, rfl, ih.mp others, rfl⟩
      · rintro ⟨result, results, first, others, rfl⟩
        rw [first, ih.mpr others]
        rfl

/-- A traversal that is refused is refused at an entry. -/
theorem mapM_error {Result : Type} {read : Entry → Except Error Result} {error : Error}
    (refused : entries.mapM read = .error error) :
    ∃ entry ∈ entries, read entry = .error error := by
  induction entries with
  | nil => cases refused
  | cons entry rest ih =>
      rw [List.mapM_cons] at refused
      cases first : read entry with
      | error error' =>
          rw [first] at refused
          cases refused
          exact ⟨entry, List.mem_cons_self, first⟩
      | ok result =>
          cases others : rest.mapM read with
          | error error' =>
              rw [first, others] at refused
              cases refused
              obtain ⟨held, inside, refused⟩ := ih others
              exact ⟨held, List.mem_cons_of_mem _ inside, refused⟩
          | ok results =>
              rw [first, others] at refused
              cases refused

/-- Entries matched with the entries of a middle list, one by one. -/
theorem forall₂_compose {First Middle Last : Type} {earlier : First → Middle → Prop}
    {later : Middle → Last → Prop} {joined : First → Last → Prop}
    (compose : ∀ first middle last, earlier first middle → later middle last → joined first last)
    {firsts : List First} {middles : List Middle} {lasts : List Last}
    (left : List.Forall₂ earlier firsts middles) (right : List.Forall₂ later middles lasts) :
    List.Forall₂ joined firsts lasts := by
  induction left generalizing lasts with
  | nil => cases right; exact .nil
  | cons same _ ih =>
      cases right with
      | cons same' rest => exact .cons (compose _ _ _ same same') (ih rest)

/-- Every entry on the right is matched by one on the left. -/
theorem forall₂_left_of_right {Left Right : Type} {matched : Left → Right → Prop}
    {lefts : List Left} {rights : List Right} (both : List.Forall₂ matched lefts rights)
    {right : Right} (member : right ∈ rights) : ∃ left ∈ lefts, matched left right := by
  induction both with
  | nil => cases member
  | cons same _ ih =>
      rcases List.mem_cons.mp member with rfl | later
      · exact ⟨_, List.mem_cons_self, same⟩
      · obtain ⟨left, inside, related⟩ := ih later
        exact ⟨left, List.mem_cons_of_mem _ inside, related⟩

end Foundation
