import Mathlib.Data.List.Basic
import Mathlib.Logic.Function.Basic

/-! # Programs over named entries

A program reads and puts the entries of a store one at a time, with no transaction around
them. Every operation may fail, which ends the program, and the process may die at it; either
may happen before the operation takes effect or after. A run leaves the trace of what took
effect, and the store is what the trace makes of it.
-/

namespace Foundation

/-- A program over entries; what an operation that fails answers is the program's result. -/
inductive Script (Name Content Fault α : Type) where
  | done (result : Except Fault α)
  | read (name : Name) (next : Option Content → Script Name Content Fault α)
  | put (name : Name) (content : Option Content) (next : Script Name Content Fault α)

/-- What took effect: entries, each with what it holds since. -/
abbrev Trace (Name Content : Type) := List (Name × Option Content)

variable {Name Content Fault α β : Type}

/-- The store after a trace. -/
def applied [DecidableEq Name] (store : Name → Option Content) (trace : Trace Name Content) :
    Name → Option Content :=
  trace.foldl (fun store effect => Function.update store effect.1 effect.2) store

section Applied

variable [DecidableEq Name] {store : Name → Option Content} {name : Name}
  {trace more : Trace Name Content}

@[simp] theorem applied_nil : applied store ([] : Trace Name Content) = store := rfl

/-- Applying a trace applies its first effect and then the rest. -/
@[simp] theorem applied_cons {effect : Name × Option Content} :
    applied store (effect :: trace) =
      applied (Function.update store effect.1 effect.2) trace := rfl

/-- Applying one trace after another applies the first, then the second to its store. -/
theorem applied_append : applied store (trace ++ more) = applied (applied store trace) more :=
  List.foldl_append

/-- An entry that is not in the trace keeps what it holds. -/
theorem applied_of_not_mem (absent : ∀ content, (name, content) ∉ trace) :
    applied store trace name = store name := by
  induction trace generalizing store with
  | nil => rfl
  | cons effect trace ih =>
      have other : name ≠ effect.1 := by
        intro same
        exact absent effect.2 (same ▸ List.mem_cons_self)
      rw [applied_cons, ih fun content later => absent content (List.mem_cons_of_mem _ later),
        Function.update_of_ne other]

/-- What every effect on an entry has, and the entry had before, it has after. -/
theorem applied_of_forall (holds : Option Content → Prop) (before : holds (store name))
    (each : ∀ content, (name, content) ∈ trace → holds content) :
    holds (applied store trace name) := by
  induction trace generalizing store with
  | nil => exact before
  | cons effect trace ih =>
      rw [applied_cons]
      refine ih ?_ fun content later => each content (List.mem_cons_of_mem _ later)
      by_cases same : name = effect.1
      · subst same
        rw [Function.update_self]
        exact each effect.2 List.mem_cons_self
      · rw [Function.update_of_ne same]
        exact before

/-- What every effect on an entry of the trace has, it has after. -/
theorem applied_of_mem (holds : Option Content → Prop) {content : Option Content}
    (member : (name, content) ∈ trace)
    (each : ∀ content, (name, content) ∈ trace → holds content) :
    holds (applied store trace name) := by
  obtain ⟨before, after, rfl⟩ := List.append_of_mem member
  rw [applied_append, applied_cons]
  refine applied_of_forall holds ?_ fun other later =>
    each other (List.mem_append_right _ (List.mem_cons_of_mem _ later))
  rw [Function.update_self]
  exact each content member

end Applied

namespace Script

def bind (script : Script Name Content Fault α) (next : α → Script Name Content Fault β) :
    Script Name Content Fault β :=
  match script with
  | done (.ok value) => next value
  | done (.error fault) => done (.error fault)
  | read name following => read name fun content => (following content).bind next
  | put name content following => put name content (following.bind next)

instance : Monad (Script Name Content Fault) where
  pure value := done (.ok value)
  bind := bind

/-- Read one entry. -/
def get (name : Name) : Script Name Content Fault (Option Content) :=
  read name fun content => pure content

/-- Write one entry, or remove it. -/
def set (name : Name) (content : Option Content) : Script Name Content Fault Unit :=
  put name content (pure ())

variable [DecidableEq Name] {store : Name → Option Content} {name : Name}
  {trace : Trace Name Content} {content : Option Content}

/-- The result when no operation fails, with the trace. -/
def run (store : Name → Option Content) :
    Script Name Content Fault α → Trace Name Content × Except Fault α
  | done result => ([], result)
  | read name next => (next (store name)).run store
  | put name content next =>
      let (trace, result) := next.run (Function.update store name content)
      ((name, content) :: trace, result)

/-- The answer of a program that puts nothing, when no operation fails. -/
def answer (script : Script Name Content Fault α) (store : Name → Option Content) :
    Except Fault α :=
  (script.run store).2

end Script

/-- No value is returned: an operation failed, or the process died. -/
def Stopped (outcome : Option (Except Fault α)) : Prop := ∀ value, outcome ≠ some (.ok value)

theorem Stopped.died : Stopped (none : Option (Except Fault α)) := nofun

theorem Stopped.failed (fault : Fault) : Stopped (some (.error fault : Except Fault α)) := nofun

/-- How a program may end on a store: what took effect, and the result unless the process died. -/
inductive Ends [DecidableEq Name] : Script Name Content Fault α → (Name → Option Content) →
    Trace Name Content → Option (Except Fault α) → Prop
  | done {result : Except Fault α} {store} : Ends (.done result) store [] (some result)
  | read {name next store trace outcome} : Ends (next (store name)) store trace outcome →
      Ends (.read name next) store trace outcome
  | readStops {name next store outcome} : Stopped outcome → Ends (.read name next) store [] outcome
  | put {name content next store trace outcome} :
      Ends next (Function.update store name content) trace outcome →
        Ends (.put name content next) store ((name, content) :: trace) outcome
  | putStops {name content next store outcome} : Stopped outcome →
      Ends (.put name content next) store [] outcome
  | putStopsAfter {name content next store outcome} : Stopped outcome →
      Ends (.put name content next) store [(name, content)] outcome

section Ends

variable [DecidableEq Name] {store : Name → Option Content} {name : Name}
  {trace : Trace Name Content} {content : Option Content} {script : Script Name Content Fault α}
  {outcome : Option (Except Fault β)}

/-- A program may end as if nothing failed. -/
theorem Ends.run (script : Script Name Content Fault α) (store : Name → Option Content) :
    Ends script store (script.run store).1 (some (script.run store).2) := by
  induction script generalizing store with
  | done result => exact .done
  | read name next ih => exact .read (ih (store name) store)
  | put name content next ih => exact .put (ih _)

/-- A value is returned only when nothing failed. -/
theorem Ends.eq_run {value : α} (ends : Ends script store trace (some (.ok value))) :
    script.run store = (trace, .ok value) := by
  generalize returned : some (Except.ok value) = outcome at ends
  induction ends with
  | done => rw [Script.run, Option.some.inj returned]
  | read _ ih => exact ih returned
  | readStops stopped => exact absurd returned.symm (stopped value)
  | put _ ih => rw [Script.run, ih returned]
  | putStops stopped => exact absurd returned.symm (stopped value)
  | putStopsAfter stopped => exact absurd returned.symm (stopped value)

/-- A script that ended with a value is one whose answer on that store is the value. -/
theorem Ends.answered {value : α} (ends : Ends script store trace (some (.ok value))) :
    script.answer store = .ok value := by
  rw [Script.answer, ends.eq_run]

/-- The process may die right after anything that took effect. -/
theorem Ends.cut {outcome : Option (Except Fault α)} {first last : Trace Name Content}
    (ends : Ends script store (first ++ last) outcome) (took : first ≠ []) :
    Ends script store first none := by
  generalize whole : first ++ last = trace at ends
  induction ends generalizing first with
  | done | readStops | putStops => exact absurd (List.append_eq_nil_iff.mp whole).1 took
  | read _ ih => exact .read (ih took whole)
  | put _ ih =>
      cases first with
      | nil => exact absurd rfl took
      | cons effect first =>
          obtain ⟨rfl, later⟩ := List.cons.inj whole
          cases first with
          | nil => exact .putStopsAfter .died
          | cons effect first => exact .put (ih (List.cons_ne_nil _ _) later)
  | putStopsAfter _ =>
      cases first with
      | nil => exact absurd rfl took
      | cons effect first =>
          obtain ⟨rfl, later⟩ := List.cons.inj whole
          obtain ⟨rfl, -⟩ := List.append_eq_nil_iff.mp later
          exact .putStopsAfter .died

/-- A script that is done has no effect, and it ends as it says. -/
theorem ends_done {result : Except Fault β} (ends : Ends (.done result) store trace outcome) :
    trace = [] ∧ outcome = some result := by
  cases ends with
  | done => exact ⟨rfl, rfl⟩

/-- A script that only returns has no effect, and it ends with what it returns. -/
theorem ends_pure {value : β}
    (ends : Ends (pure value : Script Name Content Fault β) store trace outcome) :
    trace = [] ∧ outcome = some (.ok value) :=
  ends_done ends

/-- **A program ends in its first part, or goes on where that returned.** -/
theorem ends_bind {next : α → Script Name Content Fault β}
    (ends : Ends (script >>= next) store trace outcome) :
    (Stopped outcome ∧ ∃ early : Option (Except Fault α), Stopped early ∧
      Ends script store trace early) ∨
    ∃ value first last, trace = first ++ last ∧ Ends script store first (some (.ok value)) ∧
      Ends (next value) (applied store first) last outcome := by
  induction script generalizing store trace with
  | done result =>
      cases result with
      | ok value => exact .inr ⟨value, [], trace, rfl, .done, ends⟩
      | error fault =>
          obtain ⟨rfl, rfl⟩ := ends_done ends
          exact .inl ⟨.failed fault, _, .failed fault, .done⟩
  | read name following ih =>
      cases ends with
      | read later =>
          rcases ih _ later with ⟨stopped, early, stopped', first⟩ |
            ⟨value, first, last, rfl, first', last'⟩
          · exact .inl ⟨stopped, early, stopped', .read first⟩
          · exact .inr ⟨value, first, last, rfl, .read first', last'⟩
      | readStops stopped => exact .inl ⟨stopped, none, .died, .readStops .died⟩
  | put name content following ih =>
      cases ends with
      | put later =>
          rcases ih later with ⟨stopped, early, stopped', first⟩ |
            ⟨value, first, last, rfl, first', last'⟩
          · exact .inl ⟨stopped, early, stopped', .put first⟩
          · exact .inr ⟨value, _, last, rfl, .put first', last'⟩
      | putStops stopped => exact .inl ⟨stopped, none, .died, .putStops .died⟩
      | putStopsAfter stopped => exact .inl ⟨stopped, none, .died, .putStopsAfter .died⟩

/-- Writing one entry either changes nothing and stops, or writes the entry and then may still
stop. -/
theorem ends_set {outcome : Option (Except Fault Unit)}
    (ends : Ends (Script.set name content) store trace outcome) :
    trace <+: [(name, content)] ∧ (Stopped outcome ∨ trace = [(name, content)]) := by
  cases ends with
  | put later =>
      obtain ⟨rfl, rfl⟩ := ends_pure later
      exact ⟨List.prefix_rfl, .inr rfl⟩
  | putStops stopped => exact ⟨List.nil_prefix, .inl stopped⟩
  | putStopsAfter stopped => exact ⟨List.prefix_rfl, .inl stopped⟩

/-- **What puts an entry first stops there, or leaves it in front of the rest.** -/
theorem ends_set_bind {next : Unit → Script Name Content Fault β}
    (ends : Ends (Script.set name content >>= next) store trace outcome) :
    (Stopped outcome ∧ trace <+: [(name, content)]) ∨
    ∃ last, trace = (name, content) :: last ∧
      Ends (next ()) (Function.update store name content) last outcome := by
  rcases ends_bind ends with ⟨stopped, early, -, first⟩ | ⟨value, first, last, rfl, first', last'⟩
  · exact .inl ⟨stopped, (ends_set first).1⟩
  · rcases (ends_set first').2 with stopped | rfl
    · exact absurd rfl (stopped value)
    · exact .inr ⟨last, rfl, last'⟩

/-- A program whose answer is wrapped ends as it does. -/
theorem ends_return {wrap : α → β} (ends : Ends (script >>= fun value => pure (wrap value))
    store trace outcome) :
    ∃ early : Option (Except Fault α), Ends script store trace early ∧
      ∀ answered, outcome = some (.ok answered) →
        ∃ value, early = some (.ok value) ∧ answered = wrap value := by
  rcases ends_bind ends with ⟨stopped, early, -, first⟩ | ⟨value, first, last, rfl, first', last'⟩
  · exact ⟨early, first, fun answered same => absurd same (stopped answered)⟩
  · obtain ⟨rfl, rfl⟩ := ends_pure last'
    rw [List.append_nil]
    exact ⟨_, first', fun answered same =>
      ⟨value, rfl, (Except.ok.inj (Option.some.inj same)).symm⟩⟩

end Ends

/-! ## Programs that only read -/

namespace Script

/-- No entry is put. -/
def Quiet : Script Name Content Fault α → Prop
  | done _ => True
  | read _ next => ∀ content, (next content).Quiet
  | put .. => False

theorem quiet_done (result : Except Fault α) :
    (done result : Script Name Content Fault α).Quiet := trivial

theorem quiet_pure (value : α) : (pure value : Script Name Content Fault α).Quiet := trivial

theorem quiet_get (name : Name) :
    (get name : Script Name Content Fault (Option Content)).Quiet := fun _ => trivial

/-- Quiet scripts compose: where both parts only read, so does the whole. -/
theorem Quiet.bind {script : Script Name Content Fault α}
    {next : α → Script Name Content Fault β} (quiet : script.Quiet)
    (quiet' : ∀ value, (next value).Quiet) : (script >>= next).Quiet := by
  induction script with
  | done result =>
      cases result with
      | ok value => exact quiet' value
      | error fault => trivial
  | read name following ih => exact fun content => ih content (quiet content)
  | put => exact quiet.elim

variable [DecidableEq Name] {store : Name → Option Content} {trace : Trace Name Content}
  {script : Script Name Content Fault α}

@[simp] theorem answer_done (result : Except Fault α) :
    (done result : Script Name Content Fault α).answer store = result := rfl

@[simp] theorem answer_pure (value : α) :
    (pure value : Script Name Content Fault α).answer store = .ok value := rfl

/-- The answer of a read is what the store holds under the name. -/
@[simp] theorem answer_get (name : Name) :
    (get name : Script Name Content Fault (Option Content)).answer store = .ok (store name) := rfl

/-- The parts of a program that only reads are answered from one store. -/
theorem Quiet.answer_bind {next : α → Script Name Content Fault β} (quiet : script.Quiet) :
    (script >>= next).answer store =
      script.answer store >>= fun value => (next value).answer store := by
  induction script with
  | done result =>
      cases result with
      | ok value => rfl
      | error fault => rfl
  | read name following ih => exact ih (store name) (quiet (store name))
  | put => exact quiet.elim

/-- A quiet script leaves the store as it was, so the next one is answered from the same store. -/
theorem Quiet.answer_bind_ok {next : α → Script Name Content Fault β} {value : α}
    (quiet : script.Quiet) (answered : script.answer store = .ok value) :
    (script >>= next).answer store = (next value).answer store := by
  rw [quiet.answer_bind, answered]
  rfl

/-- A quiet script leaves no trace, however it ends. -/
theorem Quiet.trace_eq {outcome : Option (Except Fault α)} (quiet : script.Quiet)
    (ends : Ends script store trace outcome) : trace = [] := by
  induction ends with
  | done | readStops => rfl
  | read _ ih => exact ih (quiet _)
  | put | putStops | putStopsAfter => exact quiet.elim

/-- **What reads first stops there, or goes on with what is answered from the store.** -/
theorem Quiet.ends_bind {next : α → Script Name Content Fault β} {outcome : Option (Except Fault β)}
    (quiet : script.Quiet) (ends : Ends (script >>= next) store trace outcome) :
    (Stopped outcome ∧ trace = []) ∨
      ∃ value, script.answer store = .ok value ∧ Ends (next value) store trace outcome := by
  rcases Foundation.ends_bind ends with ⟨stopped, early, -, first⟩ |
    ⟨value, first, last, rfl, first', last'⟩
  · exact .inl ⟨stopped, quiet.trace_eq first⟩
  · obtain rfl := quiet.trace_eq first'
    exact .inr ⟨value, first'.answered, last'⟩

end Script

end Foundation
