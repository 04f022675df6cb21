import GuardAgent.Foundation.Retry
import Mathlib.Algebra.BigOperators.Group.List.Basic
import Mathlib.Tactic.Linarith
import Mathlib.Tactic.Ring

/-!
# What the executions of a program weigh

Every event has a weight, and a trace weighs what its events weigh together. A bound on the
executions of a program composes (`Program.AtMost.bind`); a retry loop is bounded by its rounds
(`Retry.Rounds.weigh_le`). When all executions of a program weigh the same, what is left to
perform of it is known beforehand (`Program.debt_next`).
-/

namespace Foundation

variable {Event : Type*} (weight : Event → ℚ)

def weigh (trace : List Event) : ℚ := (trace.map weight).sum

variable {weight}

/-- An empty trace weighs nothing. -/
@[simp] theorem weigh_nil : weigh weight [] = 0 := rfl

/-- A trace weighs what its first event and the rest weigh. -/
@[simp] theorem weigh_cons (event : Event) (trace : List Event) :
    weigh weight (event :: trace) = weight event + weigh weight trace := List.sum_cons

/-- Traces one after the other weigh what both weigh. -/
@[simp] theorem weigh_append (first second : List Event) :
    weigh weight (first ++ second) = weigh weight first + weigh weight second := by
  rw [weigh, List.map_append, List.sum_append]
  rfl

/-- Events of no weight weigh nothing together. -/
theorem weigh_eq_zero {trace : List Event} (light : ∀ event ∈ trace, weight event = 0) :
    weigh weight trace = 0 := by
  refine List.sum_eq_zero fun total member => ?_
  obtain ⟨event, inside, rfl⟩ := List.mem_map.mp member
  exact light event inside

/-- The negated weights sum up to the negated sum. -/
theorem weigh_neg (trace : List Event) :
    weigh (fun event => -weight event) trace = -weigh weight trace := by
  induction trace with
  | nil => exact neg_zero.symm
  | cons event trace ih => rw [weigh_cons, weigh_cons, ih, neg_add]

/-- The difference of two counts. -/
theorem weigh_sub (first second : Event → ℕ) (trace : List Event) :
    weigh (fun event => (first event : ℚ) - second event) trace =
      ((trace.map first).sum : ℕ) - ((trace.map second).sum : ℕ) := by
  induction trace with
  | nil => exact (sub_self 0).symm
  | cons event trace ih =>
      rw [weigh_cons, ih, List.map_cons, List.map_cons, List.sum_cons, List.sum_cons]
      push_cast
      ring

namespace Retry

variable {Outcome Value : Type*} {loop : Retry Outcome Event Value}

/-- Every attempt but the last may weigh as much as `early`, and the last one as `final`. -/
theorem Rounds.weigh_le {early final : ℚ} (early_nonneg : 0 ≤ early) (final_nonneg : 0 ≤ final)
    (round : ∀ index last outcome,
      weigh weight (loop.events index last outcome) ≤ if last then final else early)
    {index budget : ℕ} {outcomes : List Outcome} {trace : List Event} {value : Value}
    (rounds : loop.Rounds index budget outcomes trace value) :
    weigh weight trace ≤ (budget - 1 : ℕ) * early + final := by
  induction rounds with
  | exhausted =>
      rw [weigh_nil]
      positivity
  | @stop index budget outcome _ _ =>
      have here := round index (budget == 0) outcome
      cases budget with
      | zero => simpa using here
      | succ budget =>
          simp only [Nat.add_sub_cancel, Nat.cast_add, Nat.cast_one]
          have more : 0 ≤ (budget : ℚ) * early := by positivity
          simp only [beq_iff_eq, Nat.add_eq_zero_iff, one_ne_zero, and_false, if_false] at here
          linarith
  | @again index budget outcome _ _ _ _ rest ih =>
      have here := round index (budget == 0) outcome
      rw [weigh_append]
      cases budget with
      | zero =>
          cases rest
          simpa using here
      | succ budget =>
          simp only [Nat.add_sub_cancel, Nat.cast_add, Nat.cast_one] at ih ⊢
          simp only [beq_iff_eq, Nat.add_eq_zero_iff, one_ne_zero, and_false, if_false] at here
          linarith

end Retry

namespace Program

variable {sig : Signature} {α β : Type} {weight : sig.Event → ℚ}

variable (weight) in
/-- Every execution weighs at most as much. -/
def AtMost (bound : ℚ) (program : Program sig α) : Prop :=
  program.Ensures fun trace _ => weigh weight trace ≤ bound

/-- What is done weighs nothing more. -/
theorem atMost_done {bound : ℚ} {value : α} (nonneg : 0 ≤ bound) :
    (done value : Program sig α).AtMost weight bound :=
  ensures_done nonneg

/-- A larger bound is a bound. -/
theorem AtMost.mono {bound other : ℚ} {program : Program sig α}
    (atMost : program.AtMost weight bound) (less : bound ≤ other) : program.AtMost weight other :=
  Ensures.mono atMost fun _ _ within => within.trans less

/-- An operation that weighs nothing. -/
theorem AtMost.call {bound : ℚ} {op : sig.Op} {rest : sig.Answer op → Program sig α}
    (light : ∀ answer, weight ⟨op, answer⟩ = 0)
    (later : ∀ answer, (rest answer).AtMost weight bound) :
    (Program.call op >>= rest).AtMost weight bound := by
  refine ensures_call fun answer => Ensures.mono (later answer) fun trace _ within => ?_
  rw [weigh_cons, light, zero_add]
  exact within

/-- The rule of sequential composition. -/
theorem AtMost.bind {first second : ℚ} {program : Program sig α} {rest : α → Program sig β}
    (before : program.AtMost weight first) (later : ∀ value, (rest value).AtMost weight second) :
    (program >>= rest).AtMost weight (first + second) := by
  refine ensures_bind before fun trace value within => ?_
  refine Ensures.mono (later value) fun more _ within' => ?_
  rw [weigh_append]
  linarith

variable (weight) in
/-- All executions weigh the same. -/
def Balanced (total : ℚ) (program : Program sig α) : Prop :=
  program.Ensures fun trace _ => weigh weight trace = total

/-- A program that weighs at most nothing, either way, is balanced. -/
theorem balanced_of_atMost {program : Program sig α} (above : program.AtMost weight 0)
    (below : program.AtMost (fun event => -weight event) 0) : program.Balanced weight 0 := by
  intro trace value run
  have high := above trace value run
  have low := below trace value run
  dsimp only at high low ⊢
  rw [weigh_neg] at low
  linarith

variable (weight) in
/-- What is left to perform weighs this much, with any answers. -/
def debt (answer : (op : sig.Op) → sig.Answer op) (program : Program sig α) : ℚ :=
  weigh weight (program.play (fun _ => answer) []).1

variable {answer : (op : sig.Op) → sig.Answer op}

/-- Whatever the answer, a balanced program owes its total. -/
theorem Balanced.debt_eq {program : Program sig α} {total : ℚ}
    (balanced : program.Balanced weight total) : program.debt weight answer = total :=
  balanced _ _ (play_run _ _ _)

/-- An operation is paid off, and the rest is still balanced. -/
theorem Balanced.next {op : sig.Op} {next : sig.Answer op → Program sig α} {total : ℚ}
    (balanced : (perform op next).Balanced weight total) (given : sig.Answer op) :
    (next given).Balanced weight (total - weight ⟨op, given⟩) := by
  intro trace value run
  have whole := balanced _ value (.perform run)
  dsimp only at whole ⊢
  rw [weigh_cons] at whole
  linarith

end Program

end Foundation
