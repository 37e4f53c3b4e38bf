import Mathlib.Data.List.Induction

/-! # Labelled runs and invariants

A run is a finite sequence of labelled steps, kept in the order they happen.
The rules below are the induction principles used for every safety result: a
state invariant, an invariant relating the state to the labels seen so far, and
the comparison of two moments of one run.
-/

namespace Foundation

variable {State Label : Type}

/-- A finite run and the labels of its steps, oldest first. -/
inductive Run (step : State → Label → State → Prop) (start : State) :
    List Label → State → Prop
  | nil : Run step start [] start
  | snoc {labels : List Label} {middle last : State} {label : Label} :
      Run step start labels middle → step middle label last →
        Run step start (labels ++ [label]) last

variable {step : State → Label → State → Prop} {start middle last : State}
  {labels earlier later : List Label}

/-- One step is a run. -/
theorem Run.single {label : Label} (moved : step start label last) :
    Run step start [label] last :=
  .snoc .nil moved

/-- A run whose steps all satisfy a wider relation is a run of it. -/
theorem Run.mono {wider : State → Label → State → Prop}
    (within : ∀ before label after, step before label after → wider before label after)
    (run : Run step start labels last) : Run wider start labels last := by
  induction run with
  | nil => exact .nil
  | snoc _ moved ih => exact .snoc ih (within _ _ _ moved)

/-- Runs compose, and their labels are appended. -/
theorem Run.append (before : Run step start earlier middle) (after : Run step middle later last) :
    Run step start (earlier ++ later) last := by
  induction after with
  | nil => simpa only [List.append_nil] using before
  | snoc _ moved ih => rw [← List.append_assoc]; exact .snoc ih moved

/-- A run over a concatenation passes through the state between its halves. -/
theorem Run.split (run : Run step start (earlier ++ later) last) :
    ∃ middle, Run step start earlier middle ∧ Run step middle later last := by
  induction later using List.reverseRecOn generalizing last with
  | nil => exact ⟨last, by simpa only [List.append_nil] using run, .nil⟩
  | append_singleton later label ih =>
      rw [← List.append_assoc] at run
      generalize joined : (earlier ++ later) ++ [label] = labels at run
      cases run with
      | nil => simp only [List.append_eq_nil_iff, List.cons_ne_self, and_false] at joined
      | @snoc labels before last' label' prior moved =>
          obtain ⟨same, final⟩ := List.append_inj' joined rfl
          obtain rfl := (List.cons.inj final).1
          subst same
          obtain ⟨middle, first, second⟩ := ih prior
          exact ⟨middle, first, .snoc second moved⟩

/-- The first step of a nonempty run. -/
theorem Run.head {label : Label} (run : Run step start (label :: later) last) :
    ∃ middle, step start label middle ∧ Run step middle later last := by
  obtain ⟨middle, first, rest⟩ := Run.split (show Run step start ([label] ++ later) last from run)
  refine ⟨middle, ?_, rest⟩
  generalize single : [label] = labels at first
  cases first with
  | nil => cases single
  | @snoc labels before _ label' prior moved =>
      obtain ⟨same, final⟩ := List.append_inj' (show [] ++ [label] = _ from single) rfl
      obtain rfl := (List.cons.inj final).1
      subst same
      generalize empty : ([] : List Label) = labels at prior
      cases prior with
      | nil => exact moved
      | snoc _ _ => simp only [List.nil_eq, List.append_eq_nil_iff, List.cons_ne_self,
          and_false] at empty

/-- A predicate every step preserves holds at the end of a run from a state that has it. -/
theorem Run.invariant (predicate : State → Prop)
    (preserved : ∀ before label after, predicate before → step before label after →
      predicate after)
    (run : Run step start labels last) (initial : predicate start) : predicate last := by
  induction run with
  | nil => exact initial
  | snoc _ moved ih => exact preserved _ _ _ ih moved

/-- An invariant relating each state to the labels that led to it. -/
theorem Run.history (relation : List Label → State → Prop)
    (initial : relation [] start)
    (extended : ∀ seen before label after, Run step start seen before → relation seen before →
      step before label after → relation (seen ++ [label]) after)
    (run : Run step start labels last) : relation labels last := by
  induction run with
  | nil => exact initial
  | snoc prior moved ih => exact extended _ _ _ _ prior ih moved

/-- A reflexive, transitive relation that every step respects relates the ends of a run. -/
theorem Run.relates (relation : State → State → Prop) (reflexive : ∀ state, relation state state)
    (transitive : ∀ first second third, relation first second → relation second third →
      relation first third)
    (stepwise : ∀ before label after, step before label after → relation before after)
    (run : Run step start labels last) : relation start last := by
  induction run with
  | nil => exact reflexive _
  | snoc _ moved ih => exact transitive _ _ _ ih (stepwise _ _ _ moved)

/-- Once a predicate holds, it stays as long as every later label is tame for it. -/
theorem Run.persists (predicate : State → Prop) (tame : Label → Prop)
    (preserved : ∀ before label after, predicate before → tame label →
      step before label after → predicate after)
    (run : Run step start labels last) (calm : ∀ label ∈ labels, tame label)
    (initial : predicate start) : predicate last := by
  induction run with
  | nil => exact initial
  | @snoc labels before after label _ moved ih =>
      have earlier := ih fun label member => calm label (List.mem_append_left _ member)
      exact preserved _ _ _ earlier
        (calm label (List.mem_append_right _ (List.mem_singleton_self label))) moved

end Foundation
