import Mathlib.Data.Multiset.Bind
import Mathlib.Algebra.Order.Group.Multiset

/-!
# Labelled machines, their runs, and pools of threads

A machine is a partial step function of a label. A run is a list of labels
that are all enabled in turn; `RunUnder` also asks every step of the run to meet
a condition on the state it starts from and its label. An observer of a run records
its `history`. A pool is the machine of
a list of threads over one shared state: each step lets one thread perform one
atomic action, so a run of the pool is an interleaving.
-/

namespace Foundation

/-- A machine whose transitions are a partial function of the label. -/
structure Machine (State Label : Type*) where
  step? : State → Label → Option State

namespace Machine

variable {State Label : Type*} (machine : Machine State Label)

/-- Perform the labels in turn; `none` when one of them is not enabled. -/
def run? : State → List Label → Option State
  | state, [] => some state
  | state, label :: labels => (machine.step? state label).bind fun next => run? next labels

/-- A run whose every step meets `allowed` in the state it starts from. -/
inductive RunUnder (allowed : State → Label → Prop) : State → List Label → State → Prop where
  | nil (state : State) : RunUnder allowed state [] state
  | cons {source middle target : State} {label : Label} {labels : List Label} :
      allowed source label → machine.step? source label = some middle →
      RunUnder allowed middle labels target → RunUnder allowed source (label :: labels) target

/-- A run with no condition on its steps. -/
abbrev Run : State → List Label → State → Prop := machine.RunUnder fun _ _ => True

variable {machine}

/-- What evaluates to a state runs to it. -/
theorem run_of_run? {source target : State} {labels : List Label}
    (performed : machine.run? source labels = some target) : machine.Run source labels target := by
  induction labels generalizing source with
  | nil =>
      obtain rfl := Option.some.inj performed
      exact .nil _
  | cons label labels ih =>
      obtain ⟨middle, stepped, rest⟩ := Option.bind_eq_some_iff.mp performed
      exact .cons trivial stepped (ih rest)

/-- A run can be exhibited by performing it. -/
theorem exists_run {source : State} {labels : List Label} {check : State → Bool}
    (performed : (machine.run? source labels).any check = true) :
    ∃ target, machine.Run source labels target ∧ check target = true := by
  obtain ⟨target, reached, checked⟩ := (Option.any_eq_true ..).mp performed
  exact ⟨target, run_of_run? reached, checked⟩

/-- **The invariant rule.** What holds at the start and is kept by every allowed
step holds at the end of the run. -/
theorem RunUnder.invariant {allowed : State → Label → Prop} {source target : State}
    {labels : List Label} (run : machine.RunUnder allowed source labels target)
    (invariant : State → Prop) (initial : invariant source)
    (preserved : ∀ state label next, invariant state → allowed state label →
      machine.step? state label = some next → invariant next) : invariant target := by
  induction run with
  | nil state => exact initial
  | cons meets stepped _ ih => exact ih (preserved _ _ _ initial meets stepped)

/-- A run under one condition is a run under any that follows from it. -/
theorem RunUnder.mono {weaker stronger : State → Label → Prop} {source target : State}
    {labels : List Label} (implies : ∀ state label, stronger state label → weaker state label)
    (run : machine.RunUnder stronger source labels target) :
    machine.RunUnder weaker source labels target := by
  induction run with
  | nil state => exact .nil state
  | cons meets stepped _ ih => exact .cons (implies _ _ meets) stepped ih

/-- A run meets a condition at every step where an invariant of the run implies it. -/
theorem RunUnder.strengthen {allowed stronger : State → Label → Prop} {source target : State}
    {labels : List Label} (run : machine.RunUnder allowed source labels target)
    (invariant : State → Prop) (initial : invariant source)
    (preserved : ∀ state label next, invariant state → allowed state label →
      machine.step? state label = some next → stronger state label ∧ invariant next) :
    machine.RunUnder stronger source labels target := by
  induction run with
  | nil state => exact .nil state
  | cons meets stepped _ ih =>
      obtain ⟨met, kept⟩ := preserved _ _ _ initial meets stepped
      exact .cons met stepped (ih kept)

/-- A run whose labels all meet a condition meets it at every step. -/
theorem RunUnder.with_labels {allowed : State → Label → Prop} {condition : Label → Prop}
    {source target : State} {labels : List Label}
    (run : machine.RunUnder allowed source labels target)
    (met : ∀ label ∈ labels, condition label) :
    machine.RunUnder (fun state label => allowed state label ∧ condition label) source labels
      target := by
  induction run with
  | nil state => exact .nil state
  | cons meets stepped _ ih =>
      exact .cons ⟨meets, met _ List.mem_cons_self⟩ stepped
        (ih fun label member => met label (List.mem_cons_of_mem _ member))

/-- Labels that are stepped alike in every state make the same runs. -/
theorem run_iff_of_forall₂ {related : Label → Label → Prop}
    (same : ∀ state first second, related first second →
      machine.step? state first = machine.step? state second)
    {labels labels' : List Label} (pairwise : List.Forall₂ related labels labels')
    {source target : State} :
    machine.Run source labels target ↔ machine.Run source labels' target := by
  induction pairwise generalizing source with
  | nil => rfl
  | @cons first second _ _ alike _ ih =>
      constructor
      · rintro (_ | ⟨_, stepped, rest⟩)
        exact .cons trivial (same source first second alike ▸ stepped) (ih.mp rest)
      · rintro (_ | ⟨_, stepped, rest⟩)
        exact .cons trivial ((same source first second alike).symm ▸ stepped) (ih.mpr rest)

/-- The steps that also pass a check. -/
def restrict (machine : Machine State Label) (admits : State → Label → Bool) :
    Machine State Label where
  step? state label := if admits state label then machine.step? state label else none

/-- A run of the restricted machine is a run under its restriction. -/
theorem RunUnder.of_restrict {admits : State → Label → Bool} {source target : State}
    {labels : List Label} (run : (machine.restrict admits).Run source labels target) :
    machine.RunUnder (fun state label => admits state label = true) source labels target := by
  induction run with
  | nil state => exact .nil state
  | @cons source middle target label labels _ stepped _ ih =>
      obtain ⟨admitted, performed⟩ := Option.ite_none_right_eq_some.mp stepped
      exact .cons admitted performed ih

/-- A run whose steps meet a decidable condition can be exhibited by performing it. -/
theorem exists_runUnder {allowed : State → Label → Prop}
    [∀ state label, Decidable (allowed state label)] {source : State} {labels : List Label}
    {check : State → Bool}
    (performed : ((machine.restrict fun state label => decide (allowed state label)).run?
      source labels).any check = true) :
    ∃ target, machine.RunUnder allowed source labels target ∧ check target = true := by
  obtain ⟨target, run, checked⟩ := exists_run performed
  refine ⟨target, ?_, checked⟩
  exact (RunUnder.of_restrict run).mono fun _ _ => of_decide_eq_true

/-- A run under a condition is a run. -/
theorem RunUnder.run {allowed : State → Label → Prop} {source target : State}
    {labels : List Label} (run : machine.RunUnder allowed source labels target) :
    machine.Run source labels target := run.mono fun _ _ _ => trivial

/-- Runs under a condition one after the other are a run under it. -/
theorem RunUnder.trans {allowed : State → Label → Prop} {source middle target : State}
    {first second : List Label} (before : machine.RunUnder allowed source first middle)
    (after : machine.RunUnder allowed middle second target) :
    machine.RunUnder allowed source (first ++ second) target := by
  induction before with
  | nil state => exact after
  | cons meets stepped _ ih => exact .cons meets stepped (ih after)

section Beside

variable {State' Label' : Type*}

/-- A machine next to one whose steps may depend on the state of the first. -/
def beside (first : Machine State Label) (second : State → Machine State' Label') :
    Machine (State × State') (Label ⊕ Label') where
  step? := fun (state, other) label =>
    match label with
    | .inl label => (first.step? state label).map fun next => (next, other)
    | .inr label => ((second state).step? other label).map fun next => (state, next)

/-- Either of the two makes a step. -/
theorem beside_cases {first : Machine State Label} {second : State → Machine State' Label'}
    {source target : State × State'} {label : Label ⊕ Label'}
    (stepped : (first.beside second).step? source label = some target) :
    (∃ move next, label = .inl move ∧ first.step? source.1 move = some next ∧
      target = (next, source.2)) ∨
    ∃ move next, label = .inr move ∧ (second source.1).step? source.2 move = some next ∧
      target = (source.1, next) := by
  cases label with
  | inl move =>
      obtain ⟨next, moved, rfl⟩ := Option.map_eq_some_iff.mp stepped
      exact Or.inl ⟨move, next, rfl, moved, rfl⟩
  | inr move =>
      obtain ⟨next, moved, rfl⟩ := Option.map_eq_some_iff.mp stepped
      exact Or.inr ⟨move, next, rfl, moved, rfl⟩

end Beside

section History

variable {History : Type*}

variable (machine) in
/-- What an observer has recorded after a run, when `observe` is what it makes of a step. -/
def history (observe : History → State → Label → State → History) :
    History → State → List Label → History
  | past, _, [] => past
  | past, state, label :: labels =>
      match machine.step? state label with
      | some next => history observe (observe past state label next) next labels
      | none => past

variable {observe : History → State → Label → State → History}

/-- The invariant rule for a run together with what an observer records of it. -/
theorem RunUnder.history_invariant {allowed : State → Label → Prop} {source target : State}
    {labels : List Label} (run : machine.RunUnder allowed source labels target) {past : History}
    (invariant : State → History → Prop) (initial : invariant source past)
    (preserved : ∀ state past label next, invariant state past → allowed state label →
      machine.step? state label = some next → invariant next (observe past state label next)) :
    invariant target (machine.history observe past source labels) := by
  induction run generalizing past with
  | nil state => exact initial
  | cons meets stepped _ ih =>
      simp only [history, stepped]
      exact ih (preserved _ _ _ _ initial meets stepped)

/-- An observer of two runs in turn goes on from what it recorded of the first. -/
theorem RunUnder.history_append {allowed : State → Label → Prop} {source middle : State}
    {first : List Label} (run : machine.RunUnder allowed source first middle) (past : History)
    (second : List Label) : machine.history observe past source (first ++ second) =
      machine.history observe (machine.history observe past source first) middle second := by
  induction run generalizing past with
  | nil state => rfl
  | cons meets stepped _ ih =>
      simp only [List.cons_append, history, stepped]
      exact ih _

end History

end Machine

/-- Threads over one shared state. An arrival changes the shared state and
starts threads; a thread's action changes the shared state and the thread and
may start further threads. -/
structure Threads (Shared Task Arrival Choice : Type*) where
  arrive? : Arrival → Shared → Option (Shared × List Task)
  act? : Task → Choice → Shared → Option (Shared × Task × List Task)

/-- The shared state and the threads started so far, in the order they started. -/
structure Pool (Shared Task : Type*) where
  shared : Shared
  tasks : List Task

/-- A label of a pool: an arrival, or the next action of one thread together
with the answer the environment gives to it. -/
inductive PoolLabel (Arrival Choice : Type*) where
  | arrive (arrival : Arrival)
  | run (tid : ℕ) (choice : Choice)

namespace Threads

variable {Shared Task Arrival Choice : Type*} (threads : Threads Shared Task Arrival Choice)

/-- The interleavings of the threads. -/
def machine : Machine (Pool Shared Task) (PoolLabel Arrival Choice) where
  step? := fun pool label =>
    match label with
    | .arrive arrival =>
        (threads.arrive? arrival pool.shared).map fun (shared, started) =>
          ⟨shared, pool.tasks ++ started⟩
    | .run tid choice =>
        (pool.tasks[tid]?).bind fun task =>
          (threads.act? task choice pool.shared).map fun (shared, next, started) =>
            ⟨shared, pool.tasks.set tid next ++ started⟩

variable {threads}

/-- The step of an arrival. -/
theorem step_of_arrive {pool : Pool Shared Task} {arrival : Arrival} {shared : Shared}
    {started : List Task} (arrived : threads.arrive? arrival pool.shared = some (shared, started)) :
    threads.machine.step? pool (.arrive arrival) = some ⟨shared, pool.tasks ++ started⟩ := by
  change Option.map _ (threads.arrive? arrival pool.shared) = _
  rw [arrived]
  rfl

/-- The step of a task that acts. -/
theorem step_of_act {pool : Pool Shared Task} {tid : ℕ} {choice : Choice} {task after : Task}
    {shared : Shared} {started : List Task} (present : pool.tasks[tid]? = some task)
    (acted : threads.act? task choice pool.shared = some (shared, after, started)) :
    threads.machine.step? pool (.run tid choice) =
      some ⟨shared, pool.tasks.set tid after ++ started⟩ := by
  change Option.bind pool.tasks[tid]? _ = _
  rw [present]
  change Option.map _ (threads.act? task choice pool.shared) = _
  rw [acted]
  rfl

/-- What one step of a pool can be. -/
theorem step_cases {pool next : Pool Shared Task} {label : PoolLabel Arrival Choice}
    (stepped : threads.machine.step? pool label = some next) :
    (∃ arrival shared started, label = .arrive arrival ∧
      threads.arrive? arrival pool.shared = some (shared, started) ∧
      next = ⟨shared, pool.tasks ++ started⟩) ∨
    (∃ tid choice task shared after started, label = .run tid choice ∧
      pool.tasks[tid]? = some task ∧
      threads.act? task choice pool.shared = some (shared, after, started) ∧
      next = ⟨shared, pool.tasks.set tid after ++ started⟩) := by
  cases label with
  | arrive arrival =>
      obtain ⟨⟨shared, started⟩, arrived, rfl⟩ := Option.map_eq_some_iff.mp stepped
      exact Or.inl ⟨arrival, shared, started, rfl, arrived, rfl⟩
  | run tid choice =>
      obtain ⟨task, present, acted⟩ := Option.bind_eq_some_iff.mp stepped
      obtain ⟨⟨shared, after, started⟩, moved, rfl⟩ := Option.map_eq_some_iff.mp acted
      exact Or.inr ⟨tid, choice, task, shared, after, started, rfl, present, moved, rfl⟩

end Threads

/-- Replacing one entry of a list leaves the other entries, as a multiset. -/
theorem exists_rest_of_getElem? {α : Type*} {list : List α} {index : ℕ} {entry : α}
    (present : list[index]? = some entry) :
    ∃ rest : Multiset α, (list : Multiset α) = entry ::ₘ rest ∧
      ∀ replacement, ((list.set index replacement : List α) : Multiset α) =
        replacement ::ₘ rest := by
  induction list generalizing index with
  | nil => simp at present
  | cons head tail ih =>
      cases index with
      | zero =>
          obtain rfl : head = entry := by simpa using present
          exact ⟨tail, rfl, fun _ => rfl⟩
      | succ index =>
          obtain ⟨rest, split, replaced⟩ := ih (by simpa using present)
          refine ⟨head ::ₘ rest, ?_, fun replacement => ?_⟩
          · rw [← Multiset.cons_coe, split, Multiset.cons_swap]
          · rw [List.set_cons_succ, ← Multiset.cons_coe, replaced, Multiset.cons_swap]

namespace Pool

variable {Shared Task α M : Type*} [AddCommMonoid M]

/-- The thread that acts becomes its successor. -/
theorem getElem?_acted {tasks started : List Task} {tid : ℕ} {task : Task}
    (present : tasks[tid]? = some task) (after : Task) :
    (tasks.set tid after ++ started)[tid]? = some after := by
  obtain ⟨bound, _⟩ := List.getElem?_eq_some_iff.mp present
  have inside : tid < (tasks.set tid after).length := by
    rw [List.length_set]
    exact bound
  rw [List.getElem?_append_left inside, List.getElem?_set_self bound]

/-- The other threads stay as they are. -/
theorem getElem?_other {tasks started : List Task} {tid other : ℕ} {task : Task}
    (present : tasks[other]? = some task) (different : other ≠ tid) (after : Task) :
    (tasks.set tid after ++ started)[other]? = some task := by
  obtain ⟨bound, _⟩ := List.getElem?_eq_some_iff.mp present
  have inside : other < (tasks.set tid after).length := by
    rw [List.length_set]
    exact bound
  rw [List.getElem?_append_left inside, List.getElem?_set_ne different.symm, present]

/-- A thread of a pool after an action is the one that acted, another, or a new one. -/
theorem getElem?_acted_cases {tasks started : List Task} {tid index : ℕ} {after found : Task}
    (there : (tasks.set tid after ++ started)[index]? = some found) :
    index = tid ∧ found = after ∨ index ≠ tid ∧ tasks[index]? = some found ∨ found ∈ started := by
  rw [List.getElem?_append] at there
  split at there
  · by_cases same : index = tid
    · subst same
      rw [List.getElem?_set_self'] at there
      obtain ⟨_, _, rfl⟩ := Option.map_eq_some_iff.mp there
      exact Or.inl ⟨rfl, rfl⟩
    · rw [List.getElem?_set_ne (Ne.symm same)] at there
      exact Or.inr (Or.inl ⟨same, there⟩)
  · exact Or.inr (Or.inr (List.mem_of_getElem? there))

/-- The other threads are still there after an action. -/
theorem mem_acted {tasks : List Task} {tid : ℕ} {task other : Task}
    (present : tasks[tid]? = some task) (member : other ∈ tasks) (different : other ≠ task)
    (after : Task) (started : List Task) : other ∈ tasks.set tid after ++ started := by
  obtain ⟨index, there⟩ := List.mem_iff_getElem?.mp member
  have elsewhere : index ≠ tid := by
    intro same
    subst same
    rw [present] at there
    exact different (Option.some.inj there).symm
  exact List.mem_of_getElem? (getElem?_other there elsewhere after)

/-- After an action a task is the one that acted, an old one or a started one. -/
theorem mem_acted_cases {tasks started : List Task} {tid : ℕ} {after found : Task}
    (there : found ∈ tasks.set tid after ++ started) :
    found = after ∨ found ∈ tasks ∨ found ∈ started := by
  rcases List.mem_append.mp there with old | new
  · rcases List.mem_or_eq_of_mem_set old with before | same
    · exact Or.inr (Or.inl before)
    · exact Or.inl same
  · exact Or.inr (Or.inr new)

/-- What the threads own together, each owning `owns task`. -/
def owned (pool : Pool Shared Task) (owns : Task → M) : M :=
  ((pool.tasks : Multiset Task).map owns).sum

/-- A measure of what each thread owns measures what all own together. -/
theorem map_owned {N : Type*} [AddCommMonoid N] (measure : M →+ N) (pool : Pool Shared Task)
    (owns : Task → M) : measure (pool.owned owns) = pool.owned fun task => measure (owns task) := by
  rw [owned, map_multiset_sum, Multiset.map_map]
  rfl

/-- What a pool owns is owned by one of its tasks. -/
theorem mem_owned {pool : Pool Shared Task} {owns : Task → Multiset α} {a : α} :
    a ∈ pool.owned owns ↔ ∃ task ∈ pool.tasks, a ∈ owns task := by
  change a ∈ Multiset.bind (pool.tasks : Multiset Task) owns ↔ _
  simp only [Multiset.mem_bind, Multiset.mem_coe]

/-- When nothing is owned twice, everything that is owned has one owner. -/
theorem existsUnique_owner {pool : Pool Shared Task} {owns : Task → Multiset α} {a : α}
    (distinct : (pool.owned owns).Nodup) (member : a ∈ pool.owned owns) :
    ∃! tid : ℕ, ∃ task, pool.tasks[tid]? = some task ∧ a ∈ owns task := by
  obtain ⟨task, present, owned⟩ := mem_owned.mp member
  obtain ⟨tid, found⟩ := List.mem_iff_getElem?.mp present
  refine ⟨tid, ⟨task, found, owned⟩, ?_⟩
  intro other elsewhere
  obtain ⟨task', found', owned'⟩ := elsewhere
  have symmetric : Std.Symm fun first second : Task => Disjoint (owns first) (owns second) :=
    ⟨fun _ _ disjoint => disjoint.symm⟩
  have apart : pool.tasks.Pairwise fun first second => Disjoint (owns first) (owns second) :=
    Multiset.pairwise_coe_iff_pairwise.mp (Multiset.nodup_bind.mp distinct).2
  obtain ⟨bound, rfl⟩ := List.getElem?_eq_some_iff.mp found
  obtain ⟨bound', rfl⟩ := List.getElem?_eq_some_iff.mp found'
  rcases Nat.lt_trichotomy tid other with before | same | behind
  · have disjoint := List.pairwise_iff_getElem.mp apart tid other bound bound' before
    exact (Multiset.disjoint_left.mp disjoint owned owned').elim
  · exact same.symm
  · have disjoint := List.pairwise_iff_getElem.mp apart other tid bound' bound behind
    exact (Multiset.disjoint_left.mp disjoint owned' owned).elim

/-- Without tasks nothing is owned. -/
@[simp] theorem owned_nil (shared : Shared) (owns : Task → M) :
    (⟨shared, []⟩ : Pool Shared Task).owned owns = 0 := rfl

/-- Started threads own what they own in addition. -/
theorem owned_append (shared : Shared) (tasks started : List Task) (owns : Task → M) :
    (⟨shared, tasks ++ started⟩ : Pool Shared Task).owned owns =
      (⟨shared, tasks⟩ : Pool Shared Task).owned owns + (started.map owns).sum := by
  simp only [owned, ← Multiset.coe_add, Multiset.map_add, Multiset.sum_add, Multiset.map_coe,
    Multiset.sum_coe]

/-- One thread's share can be singled out, and replaced when the thread acts. -/
theorem exists_owned_rest {pool : Pool Shared Task} {tid : ℕ} {task : Task}
    (present : pool.tasks[tid]? = some task) (owns : Task → M) :
    ∃ rest : M, pool.owned owns = owns task + rest ∧
      ∀ shared after started, (⟨shared, pool.tasks.set tid after ++ started⟩ :
        Pool Shared Task).owned owns = owns after + rest + (started.map owns).sum := by
  obtain ⟨others, split, replaced⟩ := exists_rest_of_getElem? present
  refine ⟨(others.map owns).sum, ?_, fun shared after started => ?_⟩
  · rw [owned, split, Multiset.map_cons, Multiset.sum_cons]
  · rw [owned_append]
    simp only [owned, replaced, Multiset.map_cons, Multiset.sum_cons]

end Pool

end Foundation
