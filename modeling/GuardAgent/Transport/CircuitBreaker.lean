import GuardAgent.Foundation.Object
import Mathlib.Tactic.Linarith

/-!
# The circuit breaker

The breaker answers from its counter, the time it opened and a half-open flag. All it
answers is determined by the failures recorded since the last success
(`CircuitBreaker.agrees_with_history`).
-/

namespace GuardAgent

open Foundation

def failureThreshold : UInt32 := 5
def recoveryWindow : ℚ := 60

/-- `CircuitBreakerState`. -/
inductive CircuitBreakerState where
  | closed
  | «open»
  | halfOpen
  deriving DecidableEq

/-- `CircuitBreaker`. -/
structure CircuitBreaker where
  threshold : UInt32
  recovery : ℚ
  failures : ℕ
  openedAt : Option ℚ
  halfOpen : Bool

/-- The calls of a breaker. -/
inductive BreakerCall where
  | admits
  | recordSuccess
  | recordFailure
  | state
  deriving DecidableEq

/-- What a breaker answers to a call. -/
inductive BreakerAnswer where
  | admitted (granted : Bool)
  | recorded
  | position (state : CircuitBreakerState)
  deriving DecidableEq

namespace CircuitBreaker

def new (threshold : UInt32) (recovery : ℚ) : CircuitBreaker where
  threshold := max threshold 1
  recovery := recovery
  failures := 0
  openedAt := none
  halfOpen := false

/-- The breaker of a new transport. -/
def default : CircuitBreaker := new failureThreshold recoveryWindow

variable (now : ℚ) (breaker : CircuitBreaker)

/-- `admit`. -/
def admits : Bool × CircuitBreaker :=
  match breaker.openedAt with
  | some openedAt =>
      if breaker.recovery ≤ now - openedAt then (true, { breaker with halfOpen := true })
      else (false, breaker)
  | none => (true, breaker)

def recordSuccess : CircuitBreaker :=
  { breaker with failures := 0, openedAt := none, halfOpen := false }

/-- The counter saturates as a `u32` does. -/
def recordFailure : CircuitBreaker :=
  if breaker.halfOpen then { breaker with halfOpen := false, openedAt := some now }
  else
    let failures := min (breaker.failures + 1) (2 ^ 32 - 1)
    if breaker.threshold.toNat ≤ failures then
      { breaker with failures := failures, openedAt := some now }
    else { breaker with failures := failures }

def state : CircuitBreakerState :=
  match breaker.openedAt, breaker.halfOpen with
  | none, _ => .closed
  | some _, true => .halfOpen
  | some openedAt, false => if breaker.recovery ≤ now - openedAt then .halfOpen else .open

/-- The breaker as an object that answers timed calls. -/
def object : Object CircuitBreaker (Timed BreakerCall) BreakerAnswer where
  perform breaker call :=
    match call.2 with
    | .admits => (.admitted (breaker.admits call.1).1, (breaker.admits call.1).2)
    | .recordSuccess => (.recorded, breaker.recordSuccess)
    | .recordFailure => (.recorded, breaker.recordFailure call.1)
    | .state => (.position (breaker.state call.1), breaker)

end CircuitBreaker

/-- The times of the failures recorded since the last success, the latest first. -/
def failuresSince (calls : List (Timed BreakerCall)) : List ℚ :=
  ((calls.reverse.takeWhile fun call => call.2 ≠ .recordSuccess).filter fun call =>
    call.2 = .recordFailure).map Prod.fst

/-- One more call empties the failures, adds one, or leaves them. -/
theorem failuresSince_concat (past : List (Timed BreakerCall)) (now : ℚ) (call : BreakerCall) :
    failuresSince (past ++ [(now, call)]) =
      match call with
      | .recordSuccess => []
      | .recordFailure => now :: failuresSince past
      | _ => failuresSince past := by
  cases call <;> simp [failuresSince]

/-- Each failure since the last success was recorded. -/
theorem mem_of_mem_failuresSince {calls : List (Timed BreakerCall)} {time : ℚ}
    (member : time ∈ failuresSince calls) : (time, .recordFailure) ∈ calls := by
  obtain ⟨⟨other, call⟩, inside, rfl⟩ := List.mem_map.mp member
  obtain ⟨taken, failure⟩ := List.mem_filter.mp inside
  obtain rfl : call = .recordFailure := of_decide_eq_true failure
  exact List.mem_reverse.mp (List.takeWhile_subset _ taken)

/-- The failures recorded since the last success keep the circuit open at this time. -/
def Refuses (threshold : UInt32) (recovery : ℚ) (failures : List ℚ) (now : ℚ) : Prop :=
  max threshold.toNat 1 ≤ failures.length ∧ ∃ last ∈ failures.head?, now - last < recovery

namespace CircuitBreaker

variable {threshold : UInt32} {recovery : ℚ} {breaker : CircuitBreaker}
  {past : List (Timed BreakerCall)}

/-- The fields of the breaker after the calls of a history. -/
structure Tracks (threshold : UInt32) (recovery : ℚ) (past : List (Timed BreakerCall))
    (breaker : CircuitBreaker) : Prop where
  threshold_eq : breaker.threshold.toNat = max threshold.toNat 1
  recovery_eq : breaker.recovery = recovery
  closed : breaker.openedAt = none → breaker.failures = (failuresSince past).length ∧
    (failuresSince past).length < max threshold.toNat 1
  opened : ∀ openedAt ∈ breaker.openedAt, (failuresSince past).head? = some openedAt ∧
    max threshold.toNat 1 ≤ (failuresSince past).length ∧
    max threshold.toNat 1 ≤ breaker.failures
  probed : breaker.halfOpen = true → ∃ openedAt ∈ breaker.openedAt, ∃ call ∈ past,
    recovery ≤ call.1 - openedAt

/-- A new breaker agrees with the empty history. -/
theorem Tracks.new (threshold : UInt32) (recovery : ℚ) :
    Tracks threshold recovery [] (.new threshold recovery) where
  threshold_eq := by
    change (if threshold ≤ 1 then (1 : UInt32) else threshold).toNat = _
    by_cases small : threshold ≤ 1
    · rw [if_pos small]
      exact (max_eq_right (UInt32.le_iff_toNat_le.mp small)).symm
    · rw [if_neg small]
      exact (max_eq_left (Nat.le_of_not_le (mt UInt32.le_iff_toNat_le.mpr small))).symm
  recovery_eq := rfl
  closed := fun _ => ⟨rfl, lt_of_lt_of_le Nat.zero_lt_one (le_max_right _ _)⟩
  opened := nofun
  probed := nofun

/-- Observing may set the half-open flag, once the window has elapsed. -/
theorem Tracks.observed (tracks : Tracks threshold recovery past breaker) (now : ℚ)
    {call : BreakerCall} (observes : call = .admits ∨ call = .state) :
    Tracks threshold recovery (past ++ [(now, call)]) (object.perform breaker (now, call)).2 := by
  have same : failuresSince (past ++ [(now, call)]) = failuresSince past := by
    rw [failuresSince_concat]
    rcases observes with rfl | rfl <;> rfl
  have kept : Tracks threshold recovery (past ++ [(now, call)]) breaker := by
    refine ⟨tracks.threshold_eq, tracks.recovery_eq, ?_, ?_, fun probed => ?_⟩
    · rw [same]
      exact tracks.closed
    · rw [same]
      exact tracks.opened
    · obtain ⟨openedAt, opened, probe, inside, elapsed⟩ := tracks.probed probed
      exact ⟨openedAt, opened, probe, List.mem_append_left _ inside, elapsed⟩
  rcases observes with rfl | rfl
  · change Tracks threshold recovery _ (breaker.admits now).2
    unfold admits
    split
    · next openedAt opened =>
        split
        · next elapsed =>
            refine ⟨kept.threshold_eq, kept.recovery_eq, kept.closed, kept.opened, fun _ => ?_⟩
            rw [tracks.recovery_eq] at elapsed
            have made : (now, .admits) ∈ past ++ [(now, BreakerCall.admits)] :=
              List.mem_append_right _ (List.mem_singleton_self _)
            exact ⟨openedAt, opened, (now, .admits), made, elapsed⟩
        · exact kept
    · exact kept
  · exact kept

/-- A success closes the breaker, as the history says. -/
theorem Tracks.succeeded (tracks : Tracks threshold recovery past breaker) (now : ℚ) :
    Tracks threshold recovery (past ++ [(now, .recordSuccess)]) breaker.recordSuccess := by
  refine ⟨tracks.threshold_eq, tracks.recovery_eq, fun _ => ?_, nofun, nofun⟩
  rw [failuresSince_concat]
  exact ⟨rfl, lt_of_lt_of_le Nat.zero_lt_one (le_max_right _ _)⟩

/-- Both branches leave the circuit open, or count one failure more below the threshold. -/
theorem Tracks.failed (tracks : Tracks threshold recovery past breaker) (now : ℚ) :
    Tracks threshold recovery (past ++ [(now, .recordFailure)]) (breaker.recordFailure now) := by
  have limit : max threshold.toNat 1 < 2 ^ 32 := by
    have := threshold.toNat_lt
    omega
  have counted : failuresSince (past ++ [(now, .recordFailure)]) = now :: failuresSince past :=
    failuresSince_concat past now .recordFailure
  unfold recordFailure
  split
  · next probing =>
      obtain ⟨openedAt, opened, _⟩ := tracks.probed probing
      obtain ⟨_, many, failures⟩ := tracks.opened openedAt opened
      refine ⟨tracks.threshold_eq, tracks.recovery_eq, nofun, fun at' same => ?_, nofun⟩
      cases same
      rw [counted, List.length_cons]
      exact ⟨rfl, many.trans (Nat.le_succ _), failures⟩
  · next closed =>
      dsimp only
      split
      · next reached =>
          refine ⟨tracks.threshold_eq, tracks.recovery_eq, nofun, fun at' same => ?_,
            fun probed => (closed probed).elim⟩
          cases same
          rw [counted, List.length_cons]
          rw [tracks.threshold_eq] at reached
          refine ⟨rfl, ?_, reached⟩
          cases was : breaker.openedAt with
          | none =>
              obtain ⟨failures, _⟩ := tracks.closed was
              omega
          | some openedAt =>
              exact (tracks.opened openedAt was).2.1.trans (Nat.le_succ _)
      · next below =>
          rw [tracks.threshold_eq] at below
          have unopened : breaker.openedAt = none := by
            cases was : breaker.openedAt with
            | none => rfl
            | some openedAt =>
                have failures := (tracks.opened openedAt was).2.2
                omega
          obtain ⟨failures, few⟩ := tracks.closed unopened
          refine ⟨tracks.threshold_eq, tracks.recovery_eq, fun _ => ?_, fun at' same => ?_,
            fun probed => (closed probed).elim⟩
          · rw [counted, List.length_cons]
            dsimp only
            omega
          · cases unopened.symm.trans same

/-- The breaker agrees with any history of calls. -/
theorem tracks (threshold : UInt32) (recovery : ℚ) (calls : List (Timed BreakerCall)) :
    Tracks threshold recovery calls (object.replay (.new threshold recovery) calls) := by
  apply object.replay_invariant (Tracks threshold recovery) (.new threshold recovery)
  intro past breaker call tracked
  obtain ⟨now, call⟩ := call
  cases call with
  | admits => exact tracked.observed now (Or.inl rfl)
  | recordSuccess => exact tracked.succeeded now
  | recordFailure => exact tracked.failed now
  | state => exact tracked.observed now (Or.inr rfl)

/-- An admission is refused exactly while the failures keep the circuit open. -/
theorem Tracks.admits_iff (tracks : Tracks threshold recovery past breaker) (now : ℚ) :
    (breaker.admits now).1 = true ↔ ¬ Refuses threshold recovery (failuresSince past) now := by
  unfold admits Refuses
  cases was : breaker.openedAt with
  | none =>
      have few := (tracks.closed was).2
      simp only [true_iff, not_and_or]
      exact Or.inl (Nat.not_le.mpr few)
  | some openedAt =>
      obtain ⟨last, many, _⟩ := tracks.opened openedAt was
      dsimp only
      rw [tracks.recovery_eq, last]
      by_cases elapsed : recovery ≤ now - openedAt
      · simp [elapsed]
      · simp [elapsed, many, not_le.mp elapsed]

/-- The position is read off the failures, when time does not go back. -/
theorem Tracks.state_eq (tracks : Tracks threshold recovery past breaker) {now : ℚ}
    (later : ∀ call ∈ past, call.1 ≤ now) :
    (breaker.state now = .closed ↔ (failuresSince past).length < max threshold.toNat 1) ∧
      (breaker.state now = .open ↔ Refuses threshold recovery (failuresSince past) now) := by
  unfold state Refuses
  cases was : breaker.openedAt with
  | none =>
      have few := (tracks.closed was).2
      simp [few, Nat.not_le.mpr few]
  | some openedAt =>
      obtain ⟨last, many, _⟩ := tracks.opened openedAt was
      cases probing : breaker.halfOpen with
      | true =>
          obtain ⟨at', opened, probe, inside, elapsed⟩ := tracks.probed probing
          obtain rfl : openedAt = at' := Option.some.inj (was.symm.trans opened)
          have passed := later probe inside
          simp only [reduceCtorEq, false_iff, last]
          refine ⟨Nat.not_lt.mpr many, fun refused => ?_⟩
          obtain ⟨_, _, same, within⟩ := refused
          cases same
          linarith
      | false =>
          have opened := Nat.not_lt.mpr many
          simp only [tracks.recovery_eq, last]
          by_cases elapsed : recovery ≤ now - openedAt
          · simp [elapsed, opened]
          · simp [elapsed, opened, many, not_le.mp elapsed]

/-- What the breaker answers is determined by the failures since the last success. -/
theorem answer_congr {past past' : List (Timed BreakerCall)} {now : ℚ}
    (same : failuresSince past = failuresSince past') (later : ∀ call ∈ past, call.1 ≤ now)
    (later' : ∀ call ∈ past', call.1 ≤ now) (call : BreakerCall) :
    (object.perform (object.replay (.new threshold recovery) past) (now, call)).1 =
      (object.perform (object.replay (.new threshold recovery) past') (now, call)).1 := by
  have first := tracks threshold recovery past
  have second := tracks threshold recovery past'
  cases call with
  | admits =>
      change BreakerAnswer.admitted _ = .admitted _
      rw [Bool.eq_iff_iff.mpr ((first.admits_iff now).trans (same ▸ (second.admits_iff now).symm))]
  | recordSuccess => rfl
  | recordFailure => rfl
  | state =>
      change BreakerAnswer.position _ = .position _
      obtain ⟨closed, opened⟩ := first.state_eq later
      obtain ⟨closed', opened'⟩ := second.state_eq later'
      rw [same] at closed opened
      have agreed := closed.trans closed'.symm
      have agreed' := opened.trans opened'.symm
      generalize (object.replay (.new threshold recovery) past).state now = state at *
      generalize (object.replay (.new threshold recovery) past').state now = state' at *
      cases state <;> cases state' <;> simp_all

/-- Histories with the same failures since the last success have the same continuations. -/
theorem answers_congr {past past' : List (Timed BreakerCall)}
    (same : failuresSince past = failuresSince past') (future : List (Timed BreakerCall))
    (ordered : InOrder (past ++ future)) (ordered' : InOrder (past' ++ future)) :
    object.answers (object.replay (.new threshold recovery) past) future =
      object.answers (object.replay (.new threshold recovery) past') future := by
  induction future generalizing past past' with
  | nil => rfl
  | cons call future ih =>
      obtain ⟨now, call⟩ := call
      have first := @answer_congr threshold recovery _ _ now same ordered.last_le ordered'.last_le
        call
      have grown : failuresSince (past ++ [(now, call)]) =
          failuresSince (past' ++ [(now, call)]) := by
        rw [failuresSince_concat, failuresSince_concat, same]
      rw [List.append_cons] at ordered ordered'
      have rest := ih grown ordered ordered'
      rw [object.replay_concat, object.replay_concat] at rest
      exact congrArg₂ List.cons first rest

/-- **The breaker answers from the failures since the last success.** It admits and is
closed, open or half-open as their number and the time of the latest say, and observing it
changes no later answer. -/
theorem agrees_with_history (threshold : UInt32) (recovery : ℚ)
    (past : List (Timed BreakerCall)) (now : ℚ) (later : ∀ call ∈ past, call.1 ≤ now) :
    let breaker := object.replay (.new threshold recovery) past
    let failures := failuresSince past
    let limit := max threshold.toNat 1
    ((breaker.admits now).1 = true ↔
      failures.length < limit ∨ ∃ last ∈ failures.head?, recovery ≤ now - last) ∧
    (breaker.state now = .closed ↔ failures.length < limit) ∧
    (breaker.state now = .open ↔
      limit ≤ failures.length ∧ ∃ last ∈ failures.head?, now - last < recovery) ∧
    (breaker.state now = .halfOpen ↔
      limit ≤ failures.length ∧ ∃ last ∈ failures.head?, recovery ≤ now - last) ∧
    (breaker.state now = .open ↔ (breaker.admits now).1 = false) ∧
    ∀ observation, observation = .admits ∨ observation = .state → ∀ future,
      InOrder (past ++ (now, observation) :: future) →
      object.answers (object.perform breaker (now, observation)).2 future =
        object.answers breaker future := by
  intro breaker failures limit
  have tracked := tracks threshold recovery past
  obtain ⟨closed, opened⟩ := tracked.state_eq later
  have refused := tracked.admits_iff now
  have positive : 1 ≤ limit := le_max_right _ _
  have latest : limit ≤ failures.length → ∃ last, failures.head? = some last := by
    intro many
    cases listed : failures with
    | nil =>
        rw [listed, List.length_nil] at many
        omega
    | cons last rest => exact ⟨last, rfl⟩
  have granted : (breaker.admits now).1 = true ↔
      failures.length < limit ∨ ∃ last ∈ failures.head?, recovery ≤ now - last := by
    rw [refused, Refuses, not_and_or, not_le]
    by_cases few : failures.length < limit
    · exact iff_of_true (Or.inl few) (Or.inl few)
    · obtain ⟨last, head⟩ := latest (not_lt.mp few)
      change failures.length < limit ∨ ¬ (∃ last ∈ failures.head?, now - last < recovery) ↔ _
      rw [head]
      simp only [few, false_or, Option.mem_def, Option.some.injEq, exists_eq_left', not_lt]
  refine ⟨granted, closed, opened, ?_, ?_, ?_⟩
  · have halfOpen : breaker.state now = .halfOpen ↔
        ¬ breaker.state now = .closed ∧ ¬ breaker.state now = .open := by
      cases breaker.state now <;> simp
    rw [halfOpen, closed, opened, Refuses, not_lt]
    change limit ≤ failures.length ∧
      ¬ (limit ≤ failures.length ∧ ∃ last ∈ failures.head?, now - last < recovery) ↔ _
    constructor
    · rintro ⟨many, within⟩
      obtain ⟨last, head⟩ := latest many
      exact ⟨many, last, head, not_lt.mp fun soon => within ⟨many, last, head, soon⟩⟩
    · rintro ⟨many, last, head, elapsed⟩
      refine ⟨many, ?_⟩
      rintro ⟨_, other, head', soon⟩
      cases head.symm.trans head'
      exact absurd elapsed (not_le.mpr soon)
  · rw [opened, ← Bool.not_eq_true, refused, not_not]
  · intro observation observes future later'
    have same : failuresSince (past ++ [(now, observation)]) = failuresSince past := by
      rw [failuresSince_concat]
      rcases observes with rfl | rfl <;> rfl
    have without : InOrder (past ++ future) :=
      later'.sublist (List.Sublist.append_left (List.sublist_cons_self _ _) _)
    rw [List.append_cons] at later'
    have agreed := @answers_congr threshold recovery _ _ same future later' without
    rwa [object.replay_concat] at agreed

/-- A failed probe reopens the circuit for another window. -/
theorem agrees_with_history_after_probe :
    let past : List (Timed BreakerCall) := [(0, .recordFailure), (1, .recordFailure),
      (2, .recordFailure), (3, .recordFailure), (4, .recordFailure), (64, .admits),
      (65, .recordFailure)]
    (object.replay .default past).state 124 = .open ∧
      ((object.replay .default past).admits 125).1 = true := by
  intro past
  have before := agrees_with_history failureThreshold recoveryWindow past 124 (by decide +kernel)
  have after := agrees_with_history failureThreshold recoveryWindow past 125 (by decide +kernel)
  exact ⟨before.2.2.1.mpr ⟨by decide +kernel, 65, by decide +kernel, by decide +kernel⟩,
    after.1.mpr (Or.inr ⟨65, by decide +kernel, by decide +kernel⟩)⟩

end CircuitBreaker

end GuardAgent
