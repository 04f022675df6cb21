import GuardAgent.Foundation.Machine

/-!
# Simulation up to stuttering

A projection of the states of one machine to those of another simulates it when every step
is one of the other machine with the same label, or one with a hidden label that leaves the
projected state. Then a run goes through the same observations as a run of the other machine
with the same visible labels (`Foundation.Simulation.run`), except that it may stay at one
for a while.
-/

namespace Foundation

/-- The first list with entries repeated makes the second one. -/
inductive Stutters {α : Type*} : List α → List α → Prop where
  | nil : Stutters [] []
  | cons (entry : α) {short long : List α} :
      Stutters short long → Stutters (entry :: short) (entry :: long)
  | again {entry : α} {short long : List α} :
      Stutters (entry :: short) long → Stutters (entry :: short) (entry :: long)

namespace Machine

variable {State Label Observation : Type*} (machine : Machine State Label)

/-- What is observed of the states that a run goes through. -/
def observed (observe : State → Observation) : State → List Label → List Observation
  | state, [] => [observe state]
  | state, label :: labels =>
      observe state :: match machine.step? state label with
        | some next => observed observe next labels
        | none => []

/-- What is observed begins with the first state. -/
theorem observed_eq_cons (observe : State → Observation) (state : State) (labels : List Label) :
    ∃ later, machine.observed observe state labels = observe state :: later := by
  cases labels with
  | nil => exact ⟨[], rfl⟩
  | cons label labels => exact ⟨_, rfl⟩

end Machine

/-- Every step from a state with the invariant, where it is allowed, is a step of the other
machine, where that is allowed, or its label is hidden and it leaves what is projected. -/
structure Simulation {State State' Label : Type*} (machine : Machine State Label)
    (other : Machine State' Label) (project : State → State') (invariant : State → Prop)
    (allowed : State → Label → Prop) (allowed' : State' → Label → Prop)
    (visible : Label → Bool) : Prop where
  kept : ∀ {state next label}, invariant state → allowed state label →
    machine.step? state label = some next → invariant next
  step : ∀ {state next label}, invariant state → allowed state label →
    machine.step? state label = some next →
    visible label = false ∧ project next = project state ∨
      allowed' (project state) label ∧
        other.step? (project state) label = some (project next)

/-- **A simulated run** goes through the same observations, with the same visible labels. -/
theorem Simulation.run {State State' Label Observation : Type*} {machine : Machine State Label}
    {other : Machine State' Label} {project : State → State'} {invariant : State → Prop}
    {allowed : State → Label → Prop} {allowed' : State' → Label → Prop} {visible : Label → Bool}
    (simulation : Simulation machine other project invariant allowed allowed' visible)
    {observe : State → Observation} {observe' : State' → Observation}
    (same : ∀ state, observe state = observe' (project state)) {source target : State}
    {labels : List Label} (run : machine.RunUnder allowed source labels target)
    (initial : invariant source) :
    ∃ kept : List Label, kept.Sublist labels ∧ kept.filter visible = labels.filter visible ∧
      other.RunUnder allowed' (project source) kept (project target) ∧
      Stutters (other.observed observe' (project source) kept)
        (machine.observed observe source labels) := by
  induction run with
  | nil state =>
      refine ⟨[], List.Sublist.refl _, rfl, .nil _, ?_⟩
      simp only [Machine.observed, same]
      exact .cons _ .nil
  | @cons source middle target label labels meets stepped _ ih =>
      obtain ⟨kept, part, seen, run, stutters⟩ := ih (simulation.kept initial meets stepped)
      rcases simulation.step initial meets stepped with ⟨hidden, stays⟩ | ⟨meets', moves⟩
      · -- The other machine waits; its first observation is seen once more.
        rw [stays] at run stutters
        refine ⟨kept, part.cons label, ?_, run, ?_⟩
        · rw [seen, List.filter_cons_of_neg (Bool.not_eq_true _ ▸ hidden)]
        · obtain ⟨later, first⟩ := other.observed_eq_cons observe' (project source) kept
          simp only [Machine.observed, stepped, same source]
          rw [first] at stutters ⊢
          exact .again stutters
      · refine ⟨label :: kept, part.cons_cons label, ?_, .cons meets' moves run, ?_⟩
        · rw [List.filter_cons, List.filter_cons, seen]
        · simp only [Machine.observed, stepped, moves, same source]
          exact .cons _ stutters

end Foundation
