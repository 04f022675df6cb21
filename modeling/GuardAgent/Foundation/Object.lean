import Mathlib.Data.List.Basic
import Mathlib.Data.List.Induction
import Mathlib.Data.Rat.Defs
import Mathlib.Algebra.Order.Ring.Rat
import Mathlib.Logic.Relation

/-!
# Sequential objects and their call histories

An object answers one call after another. `Object.replay` is its state after the calls
of a history and `Object.answers` what it answers to them. What is true of the state
before any call, and is kept by every call, is true after every history
(`Object.replay_invariant`); the invariant may speak of the history. An object may be
called through a handler that translates its calls (`Object.adapt`) or behind a guard that
refuses some (`Object.guarded`). The calls of a timed history carry the time at which they
are made. What is to be expected of an object is another object, whose answers are the same,
or a loose one, which admits them.
-/

namespace Foundation

/-- An object whose calls return an answer and change its state. -/
structure Object (State Call Answer : Type*) where
  perform : State → Call → Answer × State

namespace Object

variable {State Call Answer : Type*} (object : Object State Call Answer)

/-- The state after a history of calls. -/
def replay (state : State) (calls : List Call) : State :=
  calls.foldl (fun state call => (object.perform state call).2) state

/-- The answers to the calls of a history, in order. -/
def answers : State → List Call → List Answer
  | _, [] => []
  | state, call :: calls =>
      (object.perform state call).1 :: answers (object.perform state call).2 calls

/-- No calls leave the state as it is. -/
@[simp] theorem replay_nil (state : State) : object.replay state [] = state := rfl

/-- The first call of a history is performed first. -/
@[simp] theorem replay_cons (state : State) (call : Call) (calls : List Call) :
    object.replay state (call :: calls) =
      object.replay (object.perform state call).2 calls := rfl

/-- A history is replayed in parts. -/
theorem replay_append (state : State) (past future : List Call) :
    object.replay state (past ++ future) = object.replay (object.replay state past) future :=
  List.foldl_append

/-- The last call of a history is performed in the state the others led to. -/
theorem replay_concat (state : State) (past : List Call) (call : Call) :
    object.replay state (past ++ [call]) = (object.perform (object.replay state past) call).2 :=
  object.replay_append state past [call]

/-- **The invariant rule.** What holds of the initial state with no history, and is kept
by every call, holds after every history. -/
theorem replay_invariant (invariant : List Call → State → Prop) {state : State}
    (initial : invariant [] state)
    (preserved : ∀ past state call, invariant past state →
      invariant (past ++ [call]) (object.perform state call).2) (calls : List Call) :
    invariant calls (object.replay state calls) := by
  induction calls using List.reverseRecOn with
  | nil => exact initial
  | append_singleton past call ih =>
      rw [replay_concat]
      exact preserved past _ call ih

/-- An object behind a handler that translates the calls and the answers. -/
def adapt {Call' Answer' : Type*} (translate : Call' → Call) (respond : Answer → Answer') :
    Object State Call' Answer' where
  perform state call :=
    (respond (object.perform state (translate call)).1,
      (object.perform state (translate call)).2)

/-- A handler answers a history as the object answers its translation. -/
theorem answers_adapt {Call' Answer' : Type*} (translate : Call' → Call)
    (respond : Answer → Answer') (state : State) (calls : List Call') :
    (object.adapt translate respond).answers state calls =
      (object.answers state (calls.map translate)).map respond := by
  induction calls generalizing state with
  | nil => rfl
  | cons call calls ih => rw [answers, ih, List.map_cons, answers, List.map_cons]; rfl

section Guarded

variable (permitted : Call → Prop) [DecidablePred permitted] (refusal : Answer)

/-- An object behind a guard that refuses some of the calls. -/
def guarded : Object State Call Answer where
  perform state call :=
    if permitted call then object.perform state call else (refusal, state)

/-- A call that is let through. -/
theorem guarded_perform (state : State) {call : Call} (allowed : permitted call) :
    (object.guarded permitted refusal).perform state call = object.perform state call :=
  if_pos allowed

/-- A call that is refused changes nothing. -/
theorem guarded_refused (state : State) {call : Call} (refused : ¬ permitted call) :
    (object.guarded permitted refusal).perform state call = (refusal, state) :=
  if_neg refused

/-- **The guard rule.** When the object itself never answers as the guard refuses, the guard
makes no difference to a history exactly if it refuses none of the calls. -/
theorem answers_guarded_iff (proper : ∀ state call, (object.perform state call).1 ≠ refusal)
    (state : State) (calls : List Call) :
    (object.guarded permitted refusal).answers state calls = object.answers state calls ↔
      ∀ call ∈ calls, permitted call := by
  induction calls generalizing state with
  | nil => exact iff_of_true rfl fun _ member => (List.not_mem_nil member).elim
  | cons call calls ih =>
      rw [List.forall_mem_cons, answers, answers, List.cons.injEq]
      by_cases allowed : permitted call
      · rw [object.guarded_perform permitted refusal state allowed, ih]
        simp only [allowed, true_and]
      · rw [object.guarded_refused permitted refusal state allowed]
        exact iff_of_false (fun both => proper state call both.1.symm) fun both => allowed both.1

end Guarded

/-- The answers to the selected calls of a history. -/
def answersTo (select : Call → Bool) (state : State) (calls : List Call) : List Answer :=
  ((calls.zip (object.answers state calls)).filter fun answered => select answered.1).map Prod.snd

/-- The answers to the selected calls, by the first call. -/
theorem answersTo_cons (select : Call → Bool) (state : State) (call : Call) (calls : List Call) :
    object.answersTo select state (call :: calls) =
      if select call then
        (object.perform state call).1 ::
          object.answersTo select (object.perform state call).2 calls
      else object.answersTo select (object.perform state call).2 calls := by
  unfold answersTo
  rw [answers, List.zip_cons_cons, List.filter_cons]
  split <;> rfl

/-- **The purge rule.** What the selected calls answer, and what they leave to be seen,
depends on what is seen of the state, which no other call changes: then they are answered
as if the others had not been made. -/
theorem answersTo_eq_purged {View : Type*} (view : State → View) {select : Call → Bool}
    (unseen : ∀ state call, select call = false →
      view (object.perform state call).2 = view state)
    (seen : ∀ state state' call, select call = true → view state = view state' →
      (object.perform state call).1 = (object.perform state' call).1 ∧
        view (object.perform state call).2 = view (object.perform state' call).2)
    (calls : List Call) (state state' : State) (same : view state = view state') :
    object.answersTo select state calls = object.answers state' (calls.filter select) := by
  induction calls generalizing state state' with
  | nil => rfl
  | cons call calls ih =>
      rw [answersTo_cons, List.filter_cons]
      cases selected : select call with
      | true =>
          obtain ⟨answered, kept⟩ := seen state state' call selected same
          simp only [↓reduceIte, answers, answered]
          rw [ih _ _ kept]
      | false =>
          simp only [Bool.false_eq_true, ↓reduceIte]
          exact ih _ _ ((unseen state call selected).trans same)

end Object

/-- A call with the time at which it is made. -/
abbrev Timed (Call : Type*) : Type _ := ℚ × Call

/-- The calls are made at nondecreasing times. -/
def InOrder {Call : Type*} (calls : List (Timed Call)) : Prop :=
  calls.Pairwise fun earlier later => earlier.1 ≤ later.1

/-- In an ordered history no earlier call is later in time. -/
theorem InOrder.last_le {Call : Type*} {past future : List (Timed Call)} {call : Timed Call}
    (ordered : InOrder (past ++ call :: future)) : ∀ earlier ∈ past, earlier.1 ≤ call.1 :=
  fun earlier member => (List.pairwise_append.mp ordered).2.2 earlier member _ List.mem_cons_self

/-- What is left out of an ordered history leaves it ordered. -/
theorem InOrder.sublist {Call : Type*} {calls kept : List (Timed Call)} (ordered : InOrder calls)
    (part : kept.Sublist calls) : InOrder kept := List.Pairwise.sublist part ordered

section Refinement

variable {State Abstract Call Answer : Type*} {object : Object State (Timed Call) Answer}
  {spec : Object Abstract (Timed Call) Answer} (related : ℚ → State → Abstract → Prop)
  (permitted : Timed Call → Prop)
  (lasts : ∀ {now later state model}, now ≤ later → related now state model →
    related later state model)
  (kept : ∀ {state model call}, permitted call → related call.1 state model →
    (object.perform state call).1 = (spec.perform model call).1 ∧
      related call.1 (object.perform state call).2 (spec.perform model call).2)
include lasts kept

private theorem answers_eq_of_begun {calls : List (Timed Call)} {now : ℚ} {state : State}
    {model : Abstract} (allowed : ∀ call ∈ calls, permitted call)
    (begun : ∀ call ∈ calls, now ≤ call.1) (ordered : InOrder calls)
    (initial : related now state model) :
    object.answers state calls = spec.answers model calls := by
  induction calls generalizing now state model with
  | nil => rfl
  | cons call calls ih =>
      obtain ⟨later, rest⟩ := List.pairwise_cons.mp ordered
      obtain ⟨first, others⟩ := List.forall_mem_cons.mp allowed
      obtain ⟨answered, next⟩ := kept first (lasts (begun call List.mem_cons_self) initial)
      rw [Object.answers, Object.answers, answered, ih others later rest next]

/-- **The timed refinement rule.** A relation between the states of two objects that
lasts as time passes, makes equal permitted calls answer equally and is kept by them,
makes histories in order answer equally. -/
theorem answers_eq_of_refines {calls : List (Timed Call)} {state : State} {model : Abstract}
    (allowed : ∀ call ∈ calls, permitted call) (ordered : InOrder calls)
    (initial : ∀ now, related now state model) :
    object.answers state calls = spec.answers model calls := by
  cases calls with
  | nil => rfl
  | cons call calls =>
      have begun : ∀ later ∈ call :: calls, call.1 ≤ later.1 :=
        List.forall_mem_cons.mpr ⟨le_rfl, (List.pairwise_cons.mp ordered).1⟩
      exact answers_eq_of_begun related permitted lasts kept allowed begun ordered
        (initial call.1)

end Refinement

/-- An object whose answers are not determined and whose state may also change by itself. -/
structure LooseObject (State Call Answer : Type*) where
  changes : State → State → Prop
  performs : State → Call → Answer → State → Prop

namespace LooseObject

variable {State Call Answer : Type*} (loose : LooseObject State Call Answer)

/-- The calls may be answered so. -/
inductive Admits : State → List (Call × Answer) → Prop
  | nil (state : State) : Admits state []
  | change {state after : State} {history : List (Call × Answer)} : loose.changes state after →
      Admits after history → Admits state history
  | call {state after : State} {call : Call} {answer : Answer} {history : List (Call × Answer)} :
      loose.performs state call answer after → Admits after history →
      Admits state ((call, answer) :: history)

variable {loose}

/-- What is admitted after some changes is admitted before them. -/
theorem Admits.of_changes {state after : State} {history : List (Call × Answer)}
    (changed : Relation.ReflTransGen loose.changes state after)
    (admits : loose.Admits after history) : loose.Admits state history := by
  induction changed using Relation.ReflTransGen.head_induction_on with
  | refl => exact admits
  | head first _ ih => exact .change first ih

/-- **The loose refinement rule.** A relation between the states of an object and those of a
loose one that lasts as time passes, while the latter may change by itself, and that is kept
by calls which the latter may answer alike, makes every history in order one that the latter
admits. -/
theorem admits_of_refines {Concrete Timely : Type*} {object : Object Concrete (Timed Timely) Answer}
    (view : Timely → Call) (related : ℚ → Concrete → State → Prop)
    (permitted : Timed Timely → Prop)
    (lasts : ∀ {now later state model}, now ≤ later → related now state model →
      ∃ model', Relation.ReflTransGen loose.changes model model' ∧ related later state model')
    (kept : ∀ {state model call}, permitted call → related call.1 state model →
      ∃ model', loose.performs model (view call.2) (object.perform state call).1 model' ∧
        related call.1 (object.perform state call).2 model')
    {calls : List (Timed Timely)} {now : ℚ} {state : Concrete} {model : State}
    (allowed : ∀ call ∈ calls, permitted call) (begun : ∀ call ∈ calls, now ≤ call.1)
    (ordered : InOrder calls) (initial : related now state model) :
    loose.Admits model ((calls.map fun call => view call.2).zip (object.answers state calls)) := by
  induction calls generalizing now state model with
  | nil => exact .nil model
  | cons call calls ih =>
      obtain ⟨later, rest⟩ := List.pairwise_cons.mp ordered
      obtain ⟨first, others⟩ := List.forall_mem_cons.mp allowed
      obtain ⟨shown, changed, here⟩ := lasts (begun call List.mem_cons_self) initial
      obtain ⟨after, performed, next⟩ := kept first here
      exact .of_changes changed (.call performed (ih others later rest next))

end LooseObject

end Foundation
