import GuardAgent.Agent.Capacity
import GuardAgent.Agent.LoopFailures
import GuardAgent.Agent.Permits
import GuardAgent.Agent.Recovery
import GuardAgent.Foundation.Settling

/-!
# The agent comes to rest

Without new calls and ticks, the tasks of the agent and of its loops change something only
so often, whatever the server and the store answer (`Agent.settles`). Where they can change
nothing more, no task waits for another one: every call has returned, the lock of the core
is free and every permit is back, except that sends may wait for room under the block
policy (`Agent.comes_to_rest`).
-/

namespace GuardAgent

open Foundation

variable {agent : Agent} {kind : Kind} {Rules : Type} {format : RulesFormat Rules}

/-- How far a task is from its end: first where the task is, then how much is left to do there. -/
abbrev Standing : Type 1 := ℕ × Ordinal.{0}

namespace Standing

def Lower : Standing → Standing → Prop := Prod.Lex (· < ·) (· < ·)

/-- No task comes nearer to its end for ever. -/
theorem wellFounded_lower : WellFounded Lower :=
  wellFounded_lt.prod_lex wellFounded_lt

/-- An earlier stage is lower, whatever is left to do there. -/
theorem lower_of_lt {stage stage' : ℕ} {left left' : Ordinal.{0}} (earlier : stage < stage') :
    Lower (stage, left) (stage', left') := Prod.Lex.left _ _ earlier

/-- What is left decides among tasks at the same place. -/
theorem lower_add (offset : ℕ) {first second : Standing} (lower : Lower first second) :
    Lower (first.1 + offset, first.2) (second.1 + offset, second.2) := by
  rcases Prod.lex_def.mp lower with earlier | ⟨same, less⟩
  · exact lower_of_lt (Nat.add_lt_add_right earlier offset)
  · exact Prod.lex_def.mpr (Or.inr ⟨congrArg (· + offset) same, less⟩)

end Standing

namespace FlushPhase

def stage : FlushPhase kind → ℕ
  | .start => 10
  | .gated _ => 9
  | .draining => 8
  | .stamping _ => 7
  | .sending _ _ _ => 6
  | .requeueing _ => 5
  | .recordingFailed _ _ => 4
  | .confirming _ _ => 3
  | .deleting _ _ => 2
  | .recordingSent _ => 1
  | .finished => 0

/-- A flush stays in `send_batch` for as many operations as this has. -/
noncomputable def standing : FlushPhase kind → Standing
  | .sending batch trace rest => ((sending batch trace rest).stage, rest.depth)
  | phase => (phase.stage, 0)

/-- After the confirmation a flush is at one of its last stages. -/
theorem stage_afterConfirm (sent : Option ℕ) : (afterConfirm sent : FlushPhase kind).stage ≤ 1 := by
  cases sent
  · exact Nat.zero_le 1
  · exact le_rfl

/-- The standing of a flush begins with its stage. -/
theorem standing_fst (phase : FlushPhase kind) : phase.standing.1 = phase.stage := by
  cases phase <;> rfl

/-- A flush at an earlier stage stands lower. -/
theorem lower_of_stage {phase after : FlushPhase kind} (earlier : after.stage < phase.stage) :
    Standing.Lower after.standing phase.standing := by
  rw [← standing_fst, ← standing_fst] at earlier
  exact Standing.lower_of_lt earlier

/-- **Every action of a flush brings it nearer to its end.** -/
theorem Acts.lower {phase after : FlushPhase kind} {choice : Choice} {common common' : Common}
    {column column' : Column kind}
    (acts : phase.Acts agent choice common column common' column' after) :
    Standing.Lower after.standing phase.standing := by
  cases acts with
  | performed batch trace op next =>
      exact Prod.Lex.right _
        (@Program.depth_next_lt (transportSignature (Occurrence kind)) _ op next _)
  | confirmedNone keys sent _ =>
      exact lower_of_stage (lt_of_le_of_lt (stage_afterConfirm sent) (by decide : 1 < 3))
  | deleted live sent =>
      exact lower_of_stage (lt_of_le_of_lt (stage_afterConfirm sent) (by decide : 1 < 2))
  | _ => exact lower_of_stage (by simp only [stage, Nat.reduceLT])

end FlushPhase

namespace LoadPhase

def stage : LoadPhase kind → ℕ
  | .listing => 2
  | .finished => 0
  | _ => 1

/-- The actions that the keys ahead take at most. -/
def left : LoadPhase kind → ℕ
  | .getting keys => 4 * keys.length
  | .loaded _ _ keys => 4 * keys.length + 3
  | .forgetting _ _ _ keys => 4 * keys.length + 2
  | .appending _ _ keys => 4 * keys.length + 1
  | _ => 0

noncomputable def standing (phase : LoadPhase kind) : Standing := (phase.stage, phase.left)

/-- **Every action of a reload brings it nearer to its end.** -/
theorem Acts.lower {phase after : LoadPhase kind} {choice : Choice} {common : Common}
    {column column' : Column kind}
    (acts : phase.Acts agent choice common column column' after) :
    Standing.Lower after.standing phase.standing := by
  have less {first second : LoadPhase kind} (same : first.stage = second.stage)
      (fewer : first.left < second.left) : Standing.Lower first.standing second.standing :=
    Prod.lex_def.mpr (Or.inr ⟨same, Nat.cast_lt.mpr fewer⟩)
  cases acts with
  | listed keys => exact Standing.lower_of_lt one_lt_two
  | unlisted => exact Standing.lower_of_lt two_pos
  | none => exact Standing.lower_of_lt one_pos
  | _ =>
      refine less rfl ?_
      simp only [left, List.length_cons]
      omega

end LoadPhase

namespace Task

/-- No action of a task leads to one that stands higher; gated flushes are started by sends. -/
noncomputable def standing : Task → Standing
  | .finished => (0, 0)
  | .flush .metrics phase => (phase.standing.1 + 1, phase.standing.2)
  | .flush .events phase => (phase.standing.1 + 12, phase.standing.2)
  | .flushIfNeeded => (23, 0)
  | .flushBuffer => (24, 0)
  | .gatedFlush => (24, 0)
  | .send _ (.pushing _ _) => (25, 0)
  | .send _ (.persisting _ _) => (26, 0)
  | .send _ (.enqueue _) => (27, 0)
  | .send _ (.forgetting _ _) => (27, 0)
  | .send _ (.returned _) => (0, 0)
  | .send _ .panicked => (0, 0)
  | .load .metrics phase => (phase.standing.1 + 1, phase.standing.2)
  | .load .events phase => (phase.standing.1 + 4, phase.standing.2)
  | .lockForReload => (7, 0)
  | .reload => (8, 0)
  | .connect => (9, 0)
  | .start => (10, 0)
  | .clearNamespace .metrics => (1, 0)
  | .clearNamespace .events => (2, 0)
  | .clearBuffer => (3, 0)

/-- A send that forgets an evicted item has one action to pay for. -/
def credit : Task → ℕ
  | .send _ (.forgetting _ _) => 1
  | _ => 0

/-- The task is over. A send that has panicked counts as over; where the buffer has room for
one item none ever does (`Task.Acts.sound`). -/
def Over : Task → Prop
  | .send _ (.returned _) => True
  | .send _ .panicked => True
  | .finished => True
  | _ => False

/-- A send that waits for room under the block policy. -/
def Blocked (agent : Agent) (shared : Shared) (task : Task) : Prop :=
  agent.config.bufferOverflowPolicy = .block ∧ ∃ kind item, task = .send kind (.enqueue item) ∧
    agent.config.bufferSize ≤ (shared.columns kind).buffer.length

end Task

/-- The buffered items pay for evictions, two actions each. -/
def Shared.fund (shared : Shared) : ℕ :=
  2 * ((shared.columns .events).buffer.length + (shared.columns .metrics).buffer.length)

/-- An eviction takes the two actions that it pays for out of the fund. -/
theorem Shared.fund_evictFront (shared : Shared) {common : Common} {victim : Entry kind}
    {rest : List (Entry kind)} (front : (shared.columns kind).buffer = victim :: rest) :
    (shared.update kind common ((shared.columns kind).evictFront victim rest)).fund + 2 =
      shared.fund := by
  have length := congrArg List.length front
  rw [List.length_cons] at length
  cases kind <;> simp only [fund, update, Function.update_self, ne_eq, reduceCtorEq,
    not_false_eq_true, Function.update_of_ne, Column.evictFront] <;> omega

namespace Task

variable {choice : Choice} {task after : Task} {shared shared' : Shared} {started : List Task}

/-- An action of a send lowers it, or evicts, or waits under the block policy. -/
theorem descends_send {phase after : SendPhase kind} {common : Common} {column : Column kind}
    (acts : phase.Acts agent choice shared.toCommon (shared.columns kind) common column after
      started) :
    (∀ other ∈ .send kind after :: started,
      Standing.Lower other.standing (standing (.send kind phase))) ∨
    (standing (.send kind after) = standing (.send kind phase) ∧ started = [] ∧
      (shared.update kind common column).fund + credit (.send kind after) <
        shared.fund + credit (.send kind phase)) ∨
    Blocked agent shared (.send kind phase) ∧ shared.update kind common column = shared ∧
      after = phase ∧ started = [] := by
  have pushed (common : Common) (column : Column kind) (phase : SendPhase kind)
      (above : 24 < (standing (.send kind phase)).1) :
      ∀ other ∈ .send kind (.returned (.ok ())) :: startedByPush agent common column,
        Standing.Lower other.standing (standing (.send kind phase)) := by
    have ends := lt_trans (by decide : 0 < 24) above
    refine List.forall_mem_cons.mpr ⟨Standing.lower_of_lt ends, fun other member => ?_⟩
    unfold startedByPush at member
    split at member
    · rw [List.mem_singleton.mp member]
      exact Standing.lower_of_lt above
    · exact (List.not_mem_nil member).elim
  have alone {first second : SendPhase kind} (earlier : (standing (.send kind first)).1 <
      (standing (.send kind second)).1) :
      ∀ other ∈ [Task.send kind first],
        Standing.Lower other.standing (standing (.send kind second)) :=
    List.forall_mem_singleton.mpr (Prod.lex_def.mpr (Or.inl earlier))
  cases acts with
  | persist item _ _ _ => exact Or.inl (alone (by simp only [standing, Nat.reduceLT]))
  | push item _ _ _ => exact Or.inl (pushed _ _ _ (by simp only [standing, Nat.reduceLT]))
  | panic item _ _ _ _ => exact Or.inl (alone (by simp only [standing, Nat.reduceLT]))
  | refuse item _ _ _ => exact Or.inl (alone (by simp only [standing, Nat.reduceLT]))
  | persisted item key _ => exact Or.inl (alone (by simp only [standing, Nat.reduceLT]))
  | unpersisted item key _ => exact Or.inl (alone (by simp only [standing, Nat.reduceLT]))
  | pushed item key => exact Or.inl (pushed _ _ _ (by simp only [standing, Nat.reduceLT]))
  | evict item victim rest _ _ _ front _ =>
      exact Or.inr (Or.inl ⟨rfl, rfl,
        lt_of_lt_of_eq (Nat.lt_add_of_pos_right two_pos) (shared.fund_evictFront front)⟩)
  | evictKeyed item victim rest key _ _ _ front _ _ =>
      exact Or.inr (Or.inl ⟨rfl, rfl,
        lt_of_lt_of_eq (Nat.lt_succ_self _) (shared.fund_evictFront front)⟩)
  | forgot item key =>
      have kept : (shared.update kind { shared.toCommon with locked := false }
          { shared.columns kind with
            records := (shared.columns kind).records.deleteKeys choice.stored [key] }).fund =
          shared.fund := by
        cases kind <;> simp only [Shared.fund, Shared.update, Function.update_self, ne_eq,
          reduceCtorEq, not_false_eq_true, Function.update_of_ne]
      exact Or.inr (Or.inl ⟨rfl, rfl, by simp only [credit, kept]; omega⟩)
  | wait item _ full blocks =>
      refine Or.inr (Or.inr ⟨⟨blocks, kind, item, rfl, full⟩, ?_, rfl, rfl⟩)
      rw [Shared.update, Function.update_eq_self]

/-- **An action lowers its task, or evicts, or waits under the block policy.** -/
theorem Acts.descends (acts : task.Acts agent choice shared shared' after started) :
    (∀ other ∈ after :: started, Standing.Lower other.standing task.standing) ∨
    (after.standing = task.standing ∧ started = [] ∧
      shared'.fund + after.credit < shared.fund + task.credit) ∨
    task.Blocked agent shared ∧ shared' = shared ∧ after = task ∧ started = [] := by
  have alone {task after : Task} (lower : Standing.Lower after.standing task.standing) :
      ∀ other ∈ [after], Standing.Lower other.standing task.standing :=
    List.forall_mem_singleton.mpr lower
  cases acts with
  | send kind phase after common column started acts =>
      rcases descends_send acts with lower | spent | ⟨blocked, same, rfl, none⟩
      · exact Or.inl lower
      · exact Or.inr (Or.inl spent)
      · exact Or.inr (Or.inr ⟨blocked, same, rfl, none⟩)
  | flush kind phase after common column acts =>
      cases kind with
      | events => exact Or.inl (alone (Standing.lower_add 12 acts.lower))
      | metrics => exact Or.inl (alone (Standing.lower_add 1 acts.lower))
  | load kind phase after column acts =>
      cases kind with
      | events => exact Or.inl (alone (Standing.lower_add 4 acts.lower))
      | metrics => exact Or.inl (alone (Standing.lower_add 1 acts.lower))
  | cleared _ =>
      refine Or.inl (alone ?_)
      split <;> exact Standing.lower_of_lt (by decide)
  | clearedNamespace kind =>
      cases kind <;> exact Or.inl (alone (Standing.lower_of_lt (by decide)))
  | start _ =>
      refine Or.inl (alone ?_)
      split <;> exact Standing.lower_of_lt (by decide)
  | reload _ =>
      refine Or.inl (alone ?_)
      split <;> exact Standing.lower_of_lt (by decide)
  | _ => exact Or.inl (alone (Standing.lower_of_lt (by decide)))

end Task

/-- Why the tasks of the agent come to an end. -/
noncomputable def Agent.ranking (agent : Agent) : agent.threads.Ranking Standing.Lower where
  rank := Task.standing
  fund := Shared.fund
  credit := Task.credit
  descends _ _ _ _ _ _ acted := by
    rcases (Task.act?_acts acted).descends with lower | spent | ⟨-, idle⟩
    · exact Or.inl lower
    · exact Or.inr (Or.inl spent)
    · exact Or.inr (Or.inr idle)

namespace FetchPhase

noncomputable def standing : FetchPhase Rules → Standing
  | .start => (4, 0)
  | .checking _ => (3, 0)
  | .fetching rest => (2, rest.depth)
  | .installing _ => (1, 0)
  | .returned _ => (0, 0)

/-- Each action of a fetch brings it nearer to its end. -/
theorem act?_lower {phase after : FetchPhase Rules} {choice : LoopChoice} {common : Common}
    {cache cache' : RulesCache Rules}
    (acted : phase.act? agent format choice common cache = some (cache', after)) :
    Standing.Lower after.standing phase.standing := by
  cases phase with
  | start =>
      cases acted
      exact Standing.lower_of_lt (by decide)
  | checking now =>
      simp only [act?] at acted
      split at acted
      · cases acted
      · split at acted <;> cases acted <;> exact Standing.lower_of_lt (by decide)
  | fetching rest =>
      cases rest with
      | done fetched =>
          cases acted
          exact Standing.lower_of_lt one_lt_two
      | perform op next =>
          cases acted
          exact Prod.Lex.right _ (@Program.depth_next_lt (transportSignature Unit) _ op next _)
  | installing fetched =>
      simp only [act?] at acted
      split at acted
      · cases acted
      · split at acted <;> cases acted <;> exact Standing.lower_of_lt one_pos
  | returned rules => cases acted

/-- A fetch that has not returned can act when the lock is free. -/
theorem isSome_act? {phase : FetchPhase Rules} {common : Common} (free : common.locked = false)
    (ongoing : ∀ rules, phase ≠ .returned rules) (choice : LoopChoice) (cache : RulesCache Rules) :
    (phase.act? agent format choice common cache).isSome = true := by
  cases phase with
  | start => rfl
  | checking now =>
      simp only [act?, free, Bool.false_eq_true, ↓reduceIte]
      split <;> rfl
  | fetching rest => cases rest <;> rfl
  | installing fetched =>
      simp only [act?, free, Bool.false_eq_true, ↓reduceIte]
      split <;> rfl
  | returned rules => exact (ongoing rules rfl).elim

end FetchPhase

namespace StatusPhase

noncomputable def standing : StatusPhase → Standing
  | .computing => (3, 0)
  | .sending rest => (2, rest.depth)
  | .recording _ => (1, 0)
  | .finished => (0, 0)

/-- Each action of a status push brings it nearer to its end. -/
theorem act?_lower {phase after : StatusPhase} {choice : LoopChoice} {common : Common}
    {state state' : LoopState Rules}
    (acted : phase.act? agent choice common state = some (state', after)) :
    Standing.Lower after.standing phase.standing := by
  cases phase with
  | computing =>
      obtain ⟨-, same⟩ := Option.ite_none_left_eq_some.mp acted
      cases same
      exact Standing.lower_of_lt (by decide)
  | sending rest =>
      cases rest with
      | done outcome =>
          cases acted
          exact Standing.lower_of_lt one_lt_two
      | perform op next =>
          cases acted
          exact Prod.Lex.right _ (@Program.depth_next_lt (transportSignature Unit) _ op next _)
  | recording outcome =>
      simp only [act?] at acted
      split at acted
      · cases acted
      · split at acted <;> cases acted <;> exact Standing.lower_of_lt one_pos
  | finished => cases acted

/-- A status push that is not finished can act when the lock is free. -/
theorem isSome_act? {phase : StatusPhase} {common : Common} (free : common.locked = false)
    (ongoing : phase ≠ .finished) (choice : LoopChoice) (state : LoopState Rules) :
    (phase.act? agent choice common state).isSome = true := by
  cases phase with
  | computing => simp only [act?, free, Bool.false_eq_true, ↓reduceIte, Option.isSome_some]
  | sending rest => cases rest <;> rfl
  | recording outcome =>
      simp only [act?, free, Bool.false_eq_true, ↓reduceIte]
      split <;> rfl
  | finished => exact (ongoing rfl).elim

end StatusPhase

namespace LoopTask

noncomputable def standing : LoopTask Rules → Standing
  | .pushStatus phase => phase.standing
  | .pollRules phase => (phase.standing.1 + 1, phase.standing.2)
  | .getDynamicRules phase => phase.standing
  | .finished => (0, 0)

/-- The task is over. -/
def Over : LoopTask Rules → Prop
  | .pushStatus .finished => True
  | .getDynamicRules (.returned _) => True
  | .finished => True
  | _ => False

/-- **Every action of a push, a poll or a fetch lowers it.** -/
theorem act?_lower {task after : LoopTask Rules} {choice : LoopChoice} {common : Common}
    {state state' : LoopState Rules} {started : List (LoopTask Rules)}
    (acted : task.act? agent format choice common state = some (state', after, started)) :
    started = [] ∧ Standing.Lower after.standing task.standing := by
  cases task with
  | pushStatus phase =>
      obtain ⟨⟨state, phase'⟩, moved, same⟩ := Option.map_eq_some_iff.mp acted
      cases same
      exact ⟨rfl, StatusPhase.act?_lower moved⟩
  | getDynamicRules phase =>
      obtain ⟨⟨cache, phase'⟩, moved, same⟩ := Option.map_eq_some_iff.mp acted
      cases same
      exact ⟨rfl, FetchPhase.act?_lower moved⟩
  | pollRules phase =>
      by_cases ended : ∃ outcome, phase = .returned outcome
      · obtain ⟨outcome, rfl⟩ := ended
        obtain ⟨-, same⟩ := Option.ite_none_left_eq_some.mp acted
        cases same
        exact ⟨rfl, Standing.lower_of_lt one_pos⟩
      · have moving : (phase.act? agent format choice common state.toRulesCache).map
            (fun moved => ({ state with toRulesCache := moved.1 }, LoopTask.pollRules moved.2,
              ([] : List (LoopTask Rules)))) = some (state', after, started) := by
          cases phase with
          | returned outcome => exact (ended ⟨outcome, rfl⟩).elim
          | _ => exact acted
        obtain ⟨⟨cache, phase'⟩, moved, same⟩ := Option.map_eq_some_iff.mp moving
        cases same
        exact ⟨rfl, Standing.lower_add 1 (FetchPhase.act?_lower moved)⟩
  | finished => cases acted

/-- While the lock is free, every task acts that is not over. -/
theorem isSome_act? {task : LoopTask Rules} {common : Common} (free : common.locked = false)
    (ongoing : ¬ task.Over) (choice : LoopChoice) (state : LoopState Rules) :
    (task.act? agent format choice common state).isSome = true := by
  cases task with
  | pushStatus phase =>
      simp only [act?, Option.isSome_map]
      cases phase with
      | finished => exact (ongoing trivial).elim
      | _ => exact StatusPhase.isSome_act? free (fun same => by cases same) choice state
  | pollRules phase =>
      cases phase with
      | returned outcome =>
          simp only [act?, free, Bool.false_eq_true, ↓reduceIte, Option.isSome_some]
      | _ =>
          simp only [act?, Option.isSome_map]
          exact FetchPhase.isSome_act? free (fun _ same => by cases same) choice state.toRulesCache
  | getDynamicRules phase =>
      simp only [act?, Option.isSome_map]
      cases phase with
      | returned outcome => exact (ongoing trivial).elim
      | _ =>
          exact FetchPhase.isSome_act? free (fun _ same => by cases same) choice state.toRulesCache
  | finished => exact (ongoing trivial).elim

end LoopTask

/-- The tasks of the loops come to an end in every state of the agent. -/
noncomputable def Agent.loopRanking (agent : Agent) (format : RulesFormat Rules) (common : Common) :
    (agent.loopThreads format common).Ranking Standing.Lower where
  rank := LoopTask.standing
  fund _ := 0
  credit _ := 0
  descends _ _ _ _ _ _ acted := by
    obtain ⟨rfl, lower⟩ := LoopTask.act?_lower acted
    exact Or.inl (List.forall_mem_singleton.mpr lower)

namespace SendPhase

/-- A send that holds the lock acts, and so does every send while the lock is free. -/
theorem isSome_act? {phase : SendPhase kind} {common : Common}
    (free : phase.holdsLock = true ∨ common.locked = false)
    (ongoing : ¬ (Task.send kind phase).Over)
    (choice : Choice) (column : Column kind) :
    (phase.act? agent choice common column).isSome = true := by
  cases phase with
  | enqueue item =>
      have unlocked : common.locked = false := free.resolve_left nofun
      simp only [act?, unlocked, Bool.false_eq_true, ↓reduceIte]
      split
      · split <;> rfl
      · split
        · split
          · rfl
          · split
            · rfl
            · split <;> rfl
        · rfl
        · rfl
  | persisting item key =>
      simp only [act?]
      split <;> rfl
  | pushing item key => rfl
  | forgetting item key => rfl
  | returned result => exact (ongoing trivial).elim
  | panicked => exact (ongoing trivial).elim

end SendPhase

/-- A flush that is not finished can act when the lock is free. -/
theorem FlushPhase.isSome_act? {phase : FlushPhase kind} {common : Common}
    (free : common.locked = false) (ongoing : phase ≠ .finished) (choice : Choice)
    (column : Column kind) : (phase.act? agent choice common column).isSome = true := by
  cases phase with
  | gated gate =>
      simp only [act?]
      split <;> rfl
  | sending batch trace rest =>
      cases rest with
      | perform op next => rfl
      | done outcome => cases outcome <;> rfl
  | confirming keys sent =>
      simp only [act?, free, Bool.false_eq_true, ↓reduceIte]
      split
      · rfl
      · split <;> rfl
  | deleting live sent => rfl
  | finished => exact (ongoing rfl).elim
  | _ => simp only [act?, free, Bool.false_eq_true, ↓reduceIte, Option.isSome_some]

namespace Task

/-- **A task waits for the lock or for a permit, or it is over.** -/
theorem enabled {task : Task} {shared : Shared}
    (free : task.holdsLock = true ∨ shared.locked = false)
    (permit : task = .flushBuffer → shared.flushPermits ≠ 0) (ongoing : ¬ task.Over)
    (choice : Choice) : (task.act? agent choice shared).isSome = true := by
  cases task with
  | send kind phase =>
      simp only [act?, Option.isSome_map]
      exact SendPhase.isSome_act? free ongoing choice (shared.columns kind)
  | load kind phase =>
      by_cases done : phase = .finished
      · subst done
        cases kind <;> rfl
      · rw [act?_load phase done, Option.isSome_map]
        exact LoadPhase.isSome_act? agent done choice shared.toCommon (shared.columns kind)
  | flush kind phase =>
      by_cases done : phase = .finished
      · subst done
        cases kind <;> rfl
      · rw [act?_flush phase done, Option.isSome_map]
        exact FlushPhase.isSome_act? (free.resolve_left Bool.false_ne_true) done choice
          (shared.columns kind)
  | flushBuffer => simp only [act?, permit rfl, ↓reduceIte, Option.isSome_some]
  | gatedFlush =>
      simp only [act?]
      split <;> rfl
  | flushIfNeeded =>
      simp only [act?, free.resolve_left Bool.false_ne_true, Bool.false_eq_true, ↓reduceIte]
      split <;> rfl
  | clearNamespace kind => rfl
  | start =>
      simp only [act?]
      split <;> rfl
  | finished => exact (ongoing trivial).elim
  | _ =>
      have unlocked : shared.locked = false := free.resolve_left Bool.false_ne_true
      simp only [act?, unlocked, Bool.false_eq_true, ↓reduceIte, Option.isSome_some]

/-- A send that is blocked looks again, and changes nothing. -/
theorem act?_of_blocked {shared : Shared} (blocks : agent.config.bufferOverflowPolicy = .block)
    (free : shared.locked = false) (item : Telemetry kind)
    (full : agent.config.bufferSize ≤ (shared.columns kind).buffer.length) (choice : Choice) :
    act? agent (.send kind (.enqueue item)) choice shared =
      some (shared, .send kind (.enqueue item), []) := by
  have same : shared.update kind shared.toCommon (shared.columns kind) = shared := by
    rw [Shared.update, Function.update_eq_self]
  simp only [act?, SendPhase.act?, free, Bool.false_eq_true, ↓reduceIte, Nat.not_lt.mpr full,
    blocks, Option.map_some, same]

/-- In a settled pool every task that could act is blocked. -/
theorem blocked_of_settled {pool : Pool Shared Task}
    (settled : agent.machine.Settled PoolLabel.IsAction pool) {task : Task}
    (present : task ∈ pool.tasks) {choice : Choice}
    (acts : (task.act? agent choice pool.shared).isSome = true) :
    task.Blocked agent pool.shared := by
  obtain ⟨⟨shared, after, started⟩, acted⟩ := Option.isSome_iff_exists.mp acts
  obtain ⟨rfl, rfl, rfl⟩ := Threads.act_of_settled settled present acted
  rcases (act?_acts acted).descends with lower | ⟨-, -, spent⟩ | ⟨blocked, -⟩
  · exact (Standing.wellFounded_lower.irrefl.irrefl _ (lower after List.mem_cons_self)).elim
  · exact (lt_irrefl _ spent).elim
  · exact blocked

end Task

/-- Every call has returned or waits for room, and nothing is held. -/
structure Rests (agent : Agent) (state : LoopingState Rules) : Prop where
  unlocked : state.1.shared.locked = false
  permits : state.1.shared.flushPermits = max agent.config.maxConcurrentFlushes 1
  calls : ∀ task ∈ state.1.tasks, task.Over ∨ task.Blocked agent state.1.shared
  loops : ∀ task ∈ state.2.tasks, task.Over

/-- The label is an action of a task, of the agent or of its loops. -/
def LoopingLabel.IsAction : LoopingLabel → Prop :=
  Sum.elim PoolLabel.IsAction PoolLabel.IsAction

namespace Agent

/-- **There is no end of actions that change anything.** -/
theorem wellFounded_changes (agent : Agent) (format : RulesFormat Rules) :
    WellFounded ((agent.looping format).Changes LoopingLabel.IsAction) :=
  Machine.settles_beside (agent.ranking.wellFounded_changes Standing.wellFounded_lower)
    ((agent.loopRanking format (agent.initial fun _ => ∅).toCommon).wellFounded_below
      Standing.wellFounded_lower)
    fun pool _ _ changes => (agent.loopRanking format pool.shared.toCommon).below_of_changes changes

/-- **The agent settles.** However the actions of its tasks and loops are interleaved, and
whatever the server and the store answer, without new arrivals they change the state of the
agent only finitely often. -/
theorem settles (agent : Agent) (format : RulesFormat Rules) (states : ℕ → LoopingState Rules)
    (labels : ℕ → LoopingLabel) (actions : ∀ index, (labels index).IsAction)
    (stepped : ∀ index,
      (agent.looping format).step? (states index) (labels index) = some (states (index + 1))) :
    ∃ index, ∀ later ≥ index, states later = states index :=
  Machine.eventually_constant (agent.wellFounded_changes format) states labels actions stepped

/-- Of two sends to a buffer of one item, the first is buffered and the second waits for
ever. -/
theorem settles_while_a_send_waits :
    let agent := Agent.sample { AgentConfig.new "test-api-key-1234" with
      bufferSize := 1, bufferOverflowPolicy := .block } []
    let sends : List Task :=
      [.send .metrics (.enqueue (sampleMetric 1 [])), .send .metrics (.enqueue (sampleMetric 2 []))]
    let empty : LoopingState ℕ := (⟨agent.initial fun _ => ∅, sends⟩, ⟨.initial, []⟩)
    let full : LoopingState ℕ := (⟨empty.1.shared.update .metrics empty.1.shared.toCommon
      ((empty.1.shared.columns .metrics).pushBack (sampleMetric 1 []) none),
      sends.set 0 (.send .metrics (.returned (.ok ())))⟩, ⟨.initial, []⟩)
    let states (index : ℕ) : LoopingState ℕ := if index = 0 then empty else full
    ∃ index, ∀ later ≥ index, states later = states index := by
  intro agent sends empty full states
  let choice : Choice := .sample 0 .ok fun _ => .clientError "connection refused"
  let labels (index : ℕ) : LoopingLabel := .inl (.run (if index = 0 then 0 else 1) choice)
  refine settles agent noRules states labels (fun _ => trivial) fun index => ?_
  have step {pool : Pool Shared Task} {tid : ℕ} {task after : Task} {shared : Shared}
      (present : pool.tasks[tid]? = some task)
      (acted : task.act? agent choice pool.shared = some (shared, after, [])) :
      (agent.looping noRules).step? (pool, full.2) (.inl (.run tid choice)) =
        some (⟨shared, pool.tasks.set tid after ++ []⟩, full.2) :=
    congrArg (Option.map fun pool => (pool, full.2)) (Threads.step_of_act present acted)
  cases index with
  | zero =>
      have pushed := SendPhase.act?_of_acts (@SendPhase.Acts.push agent .metrics choice
        empty.1.shared.toCommon (empty.1.shared.columns .metrics) (sampleMetric 1 []) rfl one_pos
        rfl)
      have idle : startedByPush agent empty.1.shared.toCommon
          (@Column.pushBack .metrics (sampleMetric 1 []) none (empty.1.shared.columns .metrics)) =
            [] :=
        if_neg fun started => Bool.noConfusion started.2
      rw [idle] at pushed
      have acted : Task.act? agent (.send .metrics (.enqueue (sampleMetric 1 []))) choice
          empty.1.shared = some (full.1.shared, .send .metrics (.returned (.ok ())), []) := by
        rw [Task.act?, pushed]
        rfl
      exact step rfl acted
  | succ index =>
      have waits := @Task.act?_of_blocked agent .metrics full.1.shared rfl rfl (sampleMetric 2 [])
        le_rfl choice
      exact @step full.1 1 _ _ _ rfl waits

/-- In a settled state nothing holds the lock: what holds it acts. -/
theorem unlocked_of_settled {pool : Pool Shared Task} (fits : Fits agent pool)
    (settled : agent.machine.Settled PoolLabel.IsAction pool) (choice : Choice) :
    pool.shared.locked = false := by
  by_contra locked
  have held : pool.owned Task.lock = 1 := by
    rw [fits.exclusive, if_pos (Bool.eq_true_of_not_eq_false locked)]
  have holder : ∃ task ∈ pool.tasks, task.holdsLock = true := by
    by_contra none
    have free : pool.owned Task.lock = 0 := by
      refine Multiset.sum_eq_zero fun share member => ?_
      obtain ⟨task, present, rfl⟩ := Multiset.mem_map.mp member
      exact if_neg fun holds => none ⟨task, Multiset.mem_coe.mp present, holds⟩
    omega
  obtain ⟨task, present, holds⟩ := holder
  have ongoing : ¬ task.Over := by
    intro ended
    cases task with
    | send kind phase => cases phase <;> first | exact ended | cases holds
    | load kind phase => exact ended
    | _ => cases holds
  have enabled := @Task.enabled agent task pool.shared (Or.inl holds)
    (fun same => by subst same; cases holds) ongoing choice
  -- A blocked send does not hold the lock.
  obtain ⟨-, kind, item, rfl, -⟩ := Task.blocked_of_settled settled present enabled
  cases holds

/-- In a settled state no permit is held: what holds one acts, since the lock is free. -/
theorem permits_of_settled {pool : Pool Shared Task} (permitted : Permitted agent pool)
    (settled : agent.machine.Settled PoolLabel.IsAction pool)
    (unlocked : pool.shared.locked = false) (choice : Choice) :
    pool.shared.flushPermits = max agent.config.maxConcurrentFlushes 1 := by
  have none : pool.owned Task.permits = 0 := by
    refine Multiset.sum_eq_zero fun share member => ?_
    obtain ⟨task, present, rfl⟩ := Multiset.mem_map.mp member
    by_contra has
    have ongoing : ¬ task.Over := by
      intro ended
      cases task <;> first | exact ended | exact has rfl
    have enabled := @Task.enabled agent task pool.shared (Or.inr unlocked)
      (fun same => by subst same; exact (has rfl).elim) ongoing choice
    obtain ⟨-, kind, item, rfl, -⟩ :=
      Task.blocked_of_settled settled (Multiset.mem_coe.mp present) enabled
    exact has rfl
  rw [Permitted, none, Nat.zero_add] at permitted
  exact permitted

/-- **A settled state is one where nothing waits for anything**, except for room. -/
theorem rests_of_settled {state : LoopingState Rules} (fits : Fits agent state.1)
    (permitted : Permitted agent state.1)
    (settled : (agent.looping format).Settled LoopingLabel.IsAction state) : Rests agent state := by
  obtain ⟨tasks, loops⟩ := Machine.settled_beside.mp settled
  let choice : Choice := .sample 0 .ok fun _ => .clientError "connection refused"
  have unlocked := unlocked_of_settled fits tasks choice
  have permits := permits_of_settled permitted tasks unlocked choice
  refine ⟨unlocked, permits, fun task present => ?_, fun task present => ?_⟩
  · by_contra waits
    rw [not_or] at waits
    have permit : task = .flushBuffer → state.1.shared.flushPermits ≠ 0 := by
      intro _
      rw [permits]
      exact (lt_of_lt_of_le Nat.zero_lt_one (le_max_right _ _)).ne'
    exact waits.2 (Task.blocked_of_settled tasks present
      (@Task.enabled agent task state.1.shared (Or.inr unlocked) permit waits.1 choice))
  · by_contra ongoing
    let answers : LoopChoice := ⟨[], TransportOp.admitting fun _ => .clientError "refused"⟩
    obtain ⟨⟨after, task', started⟩, acted⟩ := Option.isSome_iff_exists.mp
      (@LoopTask.isSome_act? agent Rules format task state.1.shared.toCommon unlocked ongoing
        answers state.2.shared)
    obtain ⟨-, rfl, -⟩ := Threads.act_of_settled loops present acted
    exact Standing.wellFounded_lower.irrefl.irrefl _ (LoopTask.act?_lower acted).2

/-- Where nothing waits for anything but room, nothing acts. -/
theorem settled_of_rests {state : LoopingState Rules} (rests : Rests agent state) :
    (agent.looping format).Settled LoopingLabel.IsAction state := by
  refine Machine.settled_beside.mpr ⟨Threads.settled_of_idle ?_, Threads.settled_of_idle ?_⟩
  · intro task present choice shared after started acted
    rcases rests.calls task present with ended | ⟨blocks, kind, item, rfl, full⟩
    · cases task with
      | send kind phase => cases phase <;> first | exact False.elim ended | cases acted
      | finished => cases acted
      | _ => exact False.elim ended
    · have waits := Task.act?_of_blocked blocks rests.unlocked item full choice
      cases Option.some.inj (acted.symm.trans waits)
      exact ⟨rfl, rfl, rfl⟩
  · intro task present choice shared after started acted
    have ended := rests.loops task present
    cases task with
    | pushStatus phase => cases phase <;> first | exact False.elim ended | cases acted
    | getDynamicRules phase => cases phase <;> first | exact False.elim ended | cases acted
    | finished => cases acted
    | pollRules phase => exact False.elim ended

/-- **The agent comes to rest, and nothing is left waiting.** In every reachable state no action
changes anything exactly when every call has returned, or waits for room under the block
policy, no task holds the lock of the core, every permit is back and the loops wait for their
next ticks; and from every reachable state the actions of the agent alone lead to such a
state. -/
theorem comes_to_rest (agent : Agent) (positive : 1 ≤ agent.config.bufferSize)
    (format : RulesFormat Rules) (records : Kind → Records) (labels : List LoopingLabel)
    (state : LoopingState Rules)
    (run : (agent.looping format).Run (agent.initialLooping records) labels state) :
    ((agent.looping format).Settled LoopingLabel.IsAction state ↔ Rests agent state) ∧
      ∃ (actions : List LoopingLabel) (target : LoopingState Rules),
        (∀ action ∈ actions, LoopingLabel.IsAction action) ∧
        (agent.looping format).Run state actions target ∧ Rests agent target := by
  have reachable {labels : List LoopingLabel} {state : LoopingState Rules}
      (run : (agent.looping format).Run (agent.initialLooping records) labels state) :
      (agent.looping format).Settled LoopingLabel.IsAction state → Rests agent state := by
    obtain ⟨moves, first⟩ := Machine.Run.of_beside run
    have fits := first.invariant (Fits agent) (.initial records)
      fun _ _ _ fits _ stepped => fits.step positive stepped
    exact rests_of_settled fits (agent.permitted records first)
  obtain ⟨actions, target, all, further, settled⟩ :=
    Machine.exists_settled (agent.wellFounded_changes format) state
  exact ⟨⟨reachable run, settled_of_rests⟩,
    actions, target, all, further, reachable (run.trans further) settled⟩

/-- A metric is buffered, and a flush has just got the only permit. -/
theorem comes_to_rest_from_a_flush :
    let agent := Agent.sample (AgentConfig.new "test-api-key-1234") []
    ∃ labels state, (agent.looping noRules).Run (agent.initialLooping fun _ => ∅) labels state ∧
      state.1.shared.flushPermits = 0 ∧
      ((agent.looping noRules).Settled LoopingLabel.IsAction state ↔ Rests agent state) ∧
      ∃ (actions : List LoopingLabel) (target : LoopingState ℕ),
        (∀ action ∈ actions, LoopingLabel.IsAction action) ∧
        (agent.looping noRules).Run state actions target ∧ Rests agent target := by
  intro agent
  let labels : List LoopingLabel := [.inl (.arrive (.trySend .metrics (sampleMetric 1 []))),
    .inl (offlineAct 0), .inl (.arrive .flushBuffer), .inl (offlineAct 1)]
  obtain ⟨state, run, checked⟩ := @Machine.exists_run _ _ (agent.looping noRules)
    (agent.initialLooping fun _ => ∅) labels (fun state => state.1.shared.flushPermits = 0)
    (by decide +kernel)
  exact ⟨labels, state, run, of_decide_eq_true checked,
    comes_to_rest agent (by decide) noRules (fun _ => ∅) labels state run⟩

end Agent

end GuardAgent
