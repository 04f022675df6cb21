import GuardAgent.Foundation.Machine
import GuardAgent.Foundation.Program
import Mathlib.Logic.Hydra
import Mathlib.Order.GameAdd
import Mathlib.SetTheory.Ordinal.Family
import Mathlib.Tactic.Abel

/-!
# Machines that settle

Some labels of a machine are its own actions, the others come from outside. A machine
settles when its actions cannot change its state for ever: left alone, it comes to a state
that no action changes (`Machine.eventually_constant`, `Machine.exists_settled`). Threads
settle when they have a `Ranking`, in which every action replaces its thread by lower ones
or spends some of a finite credit.
-/

namespace Foundation

namespace Machine

variable {State Label : Type*} (machine : Machine State Label) (own : Label → Prop)

/-- An action leads from the second state to the first and changes it. -/
def Changes (next state : State) : Prop :=
  ∃ label, own label ∧ machine.step? state label = some next ∧ next ≠ state

/-- No action changes the state. -/
def Settled (state : State) : Prop :=
  ∀ label next, own label → machine.step? state label = some next → next = state

variable {machine own}

/-- A settled state is one that no step of its own changes. -/
theorem settled_iff {state : State} :
    machine.Settled own state ↔ ∀ next, ¬ machine.Changes own next state := by
  constructor
  · rintro settled next ⟨label, owned, stepped, changed⟩
    exact changed (settled label next owned stepped)
  · intro unchanged label next owned stepped
    by_contra changed
    exact unchanged next ⟨label, owned, stepped, changed⟩

/-- **Actions change a state only so often.** The state at which the sequence is least is
never left. -/
theorem eventually_constant (settles : WellFounded (machine.Changes own)) (states : ℕ → State)
    (labels : ℕ → Label) (owned : ∀ index, own (labels index))
    (stepped : ∀ index, machine.step? (states index) (labels index) = some (states (index + 1))) :
    ∃ index, ∀ later ≥ index, states later = states index := by
  obtain ⟨least, ⟨index, rfl⟩, minimal⟩ := settles.has_min (Set.range states) ⟨_, 0, rfl⟩
  refine ⟨index, fun later after => ?_⟩
  induction later, after using Nat.le_induction with
  | base => rfl
  | succ later _ ih =>
      by_contra changed
      refine minimal (states (later + 1)) ⟨later + 1, rfl⟩ ⟨labels later, owned later, ?_, changed⟩
      rw [← ih]
      exact stepped later

/-- **Left alone, the machine comes to a state that no action changes.** -/
theorem exists_settled (settles : WellFounded (machine.Changes own)) (state : State) :
    ∃ labels target, (∀ label ∈ labels, own label) ∧ machine.Run state labels target ∧
      machine.Settled own target := by
  induction state using settles.induction with
  | _ state ih =>
      by_cases settled : machine.Settled own state
      · exact ⟨[], state, fun _ none => (List.not_mem_nil none).elim, .nil state, settled⟩
      · rw [settled_iff, not_forall] at settled
        obtain ⟨next, changes⟩ := settled
        have change := not_not.mp changes
        obtain ⟨label, owned, stepped, _⟩ := change
        obtain ⟨labels, target, all, run, rests⟩ := ih next (not_not.mp changes)
        exact ⟨label :: labels, target, List.forall_mem_cons.mpr ⟨owned, all⟩,
          .cons trivial stepped run, rests⟩

section Beside

variable {State' Label' : Type*} {own' : Label' → Prop} {first : Machine State Label}
  {second : State → Machine State' Label'}

/-- A machine next to another settles if both do, whatever the state of the first. -/
theorem settles_beside {lower : State' → State' → Prop} (settles : WellFounded (first.Changes own))
    (wellFounded : WellFounded lower)
    (lowers : ∀ state next other, (second state).Changes own' next other → lower next other) :
    WellFounded ((first.beside second).Changes (Sum.elim own own')) := by
  refine Subrelation.wf ?_ (settles.prod_gameAdd wellFounded)
  rintro ⟨next, next'⟩ ⟨state, state'⟩ ⟨label, owned, stepped, changed⟩
  rcases beside_cases stepped with ⟨move, after, rfl, moved, same⟩ | ⟨move, after, rfl, moved, same⟩
  · cases same
    refine .fst ⟨move, owned, moved, fun unchanged => changed ?_⟩
    rw [unchanged]
  · cases same
    refine .snd (lowers state _ _ ⟨move, owned, moved, fun unchanged => changed ?_⟩)
    rw [unchanged]

/-- A machine next to another is settled exactly when both are. -/
theorem settled_beside {pair : State × State'} :
    (first.beside second).Settled (Sum.elim own own') pair ↔
      first.Settled own pair.1 ∧ (second pair.1).Settled own' pair.2 := by
  constructor
  · intro settled
    refine ⟨fun label next owned stepped => ?_, fun label next owned stepped => ?_⟩
    · have moved : (first.beside second).step? pair (.inl label) = some (next, pair.2) := by
        change Option.map _ (first.step? pair.1 label) = _
        rw [stepped]
        rfl
      exact congrArg Prod.fst (settled (.inl label) _ owned moved)
    · have moved : (first.beside second).step? pair (.inr label) = some (pair.1, next) := by
        change Option.map _ ((second pair.1).step? pair.2 label) = _
        rw [stepped]
        rfl
      exact congrArg Prod.snd (settled (.inr label) _ owned moved)
  · rintro ⟨settled, settled'⟩ label target owned stepped
    rcases beside_cases stepped with ⟨move, next, rfl, moved, rfl⟩ | ⟨move, next, rfl, moved, rfl⟩
    · rw [settled move next owned moved]
    · rw [settled' move next owned moved]

/-- What a run of two machines does to the first is a run of the first. -/
theorem Run.of_beside {source target : State × State'} {labels : List (Label ⊕ Label')}
    (run : (first.beside second).Run source labels target) :
    ∃ moves, first.Run source.1 moves target.1 := by
  induction run with
  | nil state => exact ⟨[], .nil _⟩
  | cons _ stepped _ ih =>
      obtain ⟨moves, rest⟩ := ih
      rcases beside_cases stepped with ⟨move, next, -, moved, rfl⟩ | ⟨move, next, -, -, rfl⟩
      · exact ⟨move :: moves, .cons trivial moved rest⟩
      · exact ⟨moves, rest⟩

end Beside

end Machine

/-- An entry that is there may be put there. -/
theorem set_of_getElem? {α : Type*} {list : List α} {index : ℕ} {entry : α}
    (present : list[index]? = some entry) : list.set index entry = list := by
  obtain ⟨bound, rfl⟩ := List.getElem?_eq_some_iff.mp present
  exact List.set_getElem_self bound

/-- The label is an action of a thread. -/
def PoolLabel.IsAction {Arrival Choice : Type*} : PoolLabel Arrival Choice → Prop
  | .arrive _ => False
  | .run _ _ => True

namespace Threads

variable {Shared Task Arrival Choice Rank : Type*}

/-- Why the actions of threads come to an end. An action replaces its thread by threads of
lower rank, or keeps the rank and spends credit, or changes nothing. -/
structure Ranking (threads : Threads Shared Task Arrival Choice)
    (lower : Rank → Rank → Prop) where
  rank : Task → Rank
  /-- The credit in the shared state. -/
  fund : Shared → ℕ
  /-- The credit of a thread. -/
  credit : Task → ℕ
  descends : ∀ task choice shared shared' after started,
    threads.act? task choice shared = some (shared', after, started) →
    (∀ other ∈ after :: started, lower (rank other) (rank task)) ∨
    (rank after = rank task ∧ started = [] ∧
      fund shared' + credit after < fund shared + credit task) ∨
    (shared' = shared ∧ after = task ∧ started = [])

namespace Ranking

variable {threads : Threads Shared Task Arrival Choice} {lower : Rank → Rank → Prop}
  (ranking : threads.Ranking lower)

/-- The ranks of the threads, and the credit that is left. -/
def measure (pool : Pool Shared Task) : Multiset Rank × ℕ :=
  ((pool.tasks : Multiset Task).map ranking.rank,
    ranking.fund pool.shared + pool.owned ranking.credit)

/-- The second pool is further from its end than the first. -/
def Below (next pool : Pool Shared Task) : Prop :=
  Prod.Lex (Relation.CutExpand lower) (· < ·) (ranking.measure next) (ranking.measure pool)

/-- Over a well-founded order of ranks, being nearer to the end is well-founded. -/
theorem wellFounded_below (wellFounded : WellFounded lower) : WellFounded ranking.Below :=
  InvImage.wf ranking.measure (wellFounded.cutExpand.prod_lex wellFounded_lt)

/-- **An action that changes anything brings the pool nearer to its end.** -/
theorem below_of_changes {next pool : Pool Shared Task}
    (changes : threads.machine.Changes PoolLabel.IsAction next pool) : ranking.Below next pool := by
  obtain ⟨label, action, stepped, changed⟩ := changes
  rcases Threads.step_cases stepped with ⟨arrival, shared, started, rfl, -, -⟩ |
    ⟨tid, choice, task, shared, after, started, rfl, present, acted, rfl⟩
  · exact action.elim
  obtain ⟨others, split, replaced⟩ := exists_rest_of_getElem? present
  rcases ranking.descends _ _ _ _ _ _ acted with lowered | ⟨same, rfl, spent⟩ | ⟨rfl, rfl, rfl⟩
  · -- The thread is cut off, and what replaces it grows back.
    refine Prod.Lex.left _ _ ⟨((after :: started).map ranking.rank : List Rank),
      ranking.rank task, ?_, ?_⟩
    · intro rank member
      obtain ⟨other, grown, rfl⟩ := List.mem_map.mp (Multiset.mem_coe.mp member)
      exact lowered other grown
    · simp only [← Multiset.coe_add, Multiset.map_add, replaced, split, Multiset.map_cons,
        Multiset.map_coe, List.map_cons, ← Multiset.cons_coe]
      simp only [← Multiset.singleton_add]
      abel
  · obtain ⟨rest, owned, owned'⟩ := Pool.exists_owned_rest present ranking.credit
    have ranks : (ranking.measure ⟨shared, pool.tasks.set tid after ++ []⟩).1 =
        (ranking.measure pool).1 := by
      simp only [measure, List.append_nil, replaced, split, Multiset.map_cons, same]
    have credits : (ranking.measure ⟨shared, pool.tasks.set tid after ++ []⟩).2 <
        (ranking.measure pool).2 := by
      have left := owned' shared after []
      rw [List.map_nil, List.sum_nil] at left
      simp only [measure, left, owned]
      omega
    rw [Below, Prod.lex_def]
    exact Or.inr ⟨ranks, credits⟩
  · refine (changed ?_).elim
    rw [set_of_getElem? present, List.append_nil]

/-- **Threads with a ranking settle.** -/
theorem wellFounded_changes (ranking : threads.Ranking lower) (wellFounded : WellFounded lower) :
    WellFounded (threads.machine.Changes PoolLabel.IsAction) :=
  Subrelation.wf ranking.below_of_changes (ranking.wellFounded_below wellFounded)

end Ranking

/-- In a settled pool, an action that is enabled changes nothing. -/
theorem act_of_settled {threads : Threads Shared Task Arrival Choice} {pool : Pool Shared Task}
    (settled : threads.machine.Settled PoolLabel.IsAction pool) {task after : Task}
    (present : task ∈ pool.tasks) {choice : Choice} {shared : Shared} {started : List Task}
    (acted : threads.act? task choice pool.shared = some (shared, after, started)) :
    shared = pool.shared ∧ after = task ∧ started = [] := by
  obtain ⟨tid, there⟩ := List.mem_iff_getElem?.mp present
  have same := settled (.run tid choice) _ trivial (step_of_act there acted)
  have tasks : pool.tasks.set tid after ++ started = pool.tasks := congrArg Pool.tasks same
  have found : (pool.tasks.set tid after ++ started)[tid]? = some after :=
    Pool.getElem?_acted there after
  rw [tasks, there] at found
  have length := congrArg List.length tasks
  rw [List.length_append, List.length_set] at length
  exact ⟨congrArg Pool.shared same, (Option.some.inj found).symm,
    List.eq_nil_of_length_eq_zero (by omega)⟩

/-- A pool none of whose threads has an action that changes anything is settled. -/
theorem settled_of_idle {threads : Threads Shared Task Arrival Choice} {pool : Pool Shared Task}
    (idle : ∀ task ∈ pool.tasks, ∀ choice shared after started,
      threads.act? task choice pool.shared = some (shared, after, started) →
      shared = pool.shared ∧ after = task ∧ started = []) :
    threads.machine.Settled PoolLabel.IsAction pool := by
  intro label next action stepped
  rcases Threads.step_cases stepped with ⟨arrival, shared, started, rfl, -, -⟩ |
    ⟨tid, choice, task, shared, after, started, rfl, present, acted, rfl⟩
  · exact action.elim
  · obtain ⟨rfl, rfl, rfl⟩ := idle task (List.mem_of_getElem? present) _ _ _ _ acted
    rw [set_of_getElem? present, List.append_nil]

end Threads

namespace Program

variable {sig : Signature} {α : Type}

/-- How deep the tree of a program is. -/
noncomputable def depth : Program sig α → Ordinal.{0}
  | done _ => 0
  | perform _ next => ⨆ answer, Order.succ (next answer).depth

/-- Every answer leaves less to do. -/
theorem depth_next_lt (op : sig.Op) (next : sig.Answer op → Program sig α)
    (answer : sig.Answer op) : (next answer).depth < (perform op next).depth := by
  rw [depth, ← Order.succ_le_iff]
  exact Ordinal.le_iSup (fun answer => Order.succ (next answer).depth) answer

end Program

end Foundation
