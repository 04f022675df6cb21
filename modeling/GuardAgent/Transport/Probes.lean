import GuardAgent.Transport.Callers

/-!
# Probes of an open circuit

Once the recovery window of an open circuit has elapsed, the breaker admits a request as a
probe, and goes on admitting others before the outcome of the probe is recorded. They are
refused exactly when other requests reopened the circuit in between
(`Client.single_probe`).
-/

namespace GuardAgent

open Foundation

/-- The failures that open the breaker of a transport. -/
def failureLimit : ℕ := max failureThreshold.toNat 1

/-- The failures recorded since the last success, in a record with its callers. -/
def recentFailures (history : List BreakerEvent) : List ℚ :=
  failuresSince (history.map BreakerEvent.timed)

/-- The event is an admission asked for after the recovery window of an open circuit. -/
structure IsProbe (before : List BreakerEvent) (probe : BreakerEvent) : Prop where
  admits : probe.call = .admits
  opened : failureLimit ≤ (recentFailures before).length
  elapsed : ∃ last ∈ (recentFailures before).head?, recoveryWindow ≤ probe.time - last

/-- The next call that the caller makes of the breaker records an outcome. -/
def OutcomeRecorded (caller : ℕ) (between : List BreakerEvent) : Prop :=
  ∃ event ∈ (between.filter fun event => event.caller = caller).head?,
    event.call = .recordSuccess ∨ event.call = .recordFailure

/-- An admission is asked for while the outcome of a probe is not recorded. -/
structure AskedDuringProbe (history before : List BreakerEvent) (probe : BreakerEvent)
    (between : List BreakerEvent) (asked : BreakerEvent) : Prop where
  within : ∃ after, history = before ++ probe :: (between ++ asked :: after)
  isProbe : IsProbe before probe
  asks : asked.call = .admits
  pending : ¬ OutcomeRecorded probe.caller between

/-- Until the outcome of a probe is recorded, every other request is refused. -/
def SingleProbe (history : List BreakerEvent) : Prop :=
  ∀ before probe between asked, AskedDuringProbe history before probe between asked →
    asked.answer = .admitted false

/-- The circuit was reopened: the latest of these calls to record an outcome recorded a
failure, less than the recovery window before, and if some recorded a success then enough
failures were recorded after the last one. -/
def Reopened (between : List BreakerEvent) (now : ℚ) : Prop :=
  (∃ last ∈ (recentFailures between).head?, now - last < recoveryWindow) ∧
  ((∃ event ∈ between, event.call = .recordSuccess) →
    failureLimit ≤ (recentFailures between).length)

instance (between : List BreakerEvent) (now : ℚ) : Decidable (Reopened between now) :=
  inferInstanceAs (Decidable (_ ∧ _))

/-- A success later on leaves only the failures after it; without one they all stay. -/
theorem failuresSince_append (past future : List (Timed BreakerCall)) :
    failuresSince (past ++ future) =
      if ∃ call ∈ future, call.2 = .recordSuccess then failuresSince future
      else failuresSince future ++ failuresSince past := by
  induction future using List.reverseRecOn with
  | nil => simp [failuresSince]
  | append_singleton future call ih =>
      obtain ⟨now, call⟩ := call
      rw [← List.append_assoc, failuresSince_concat, failuresSince_concat, ih]
      cases call with
      | recordSuccess => simp
      | recordFailure => by_cases success : ∃ call ∈ future, call.2 = .recordSuccess <;>
          simp [success]
      | _ => by_cases success : ∃ call ∈ future, call.2 = .recordSuccess <;> simp [success]

namespace AskedDuringProbe

variable {history before between : List BreakerEvent} {probe asked : BreakerEvent}

/-- The failures the breaker answers from: those since the probe, and before it those that
opened the circuit unless a success was recorded since. -/
theorem recentFailures_eq (during : AskedDuringProbe history before probe between asked) :
    recentFailures (before ++ probe :: between) =
      if ∃ event ∈ between, event.call = .recordSuccess then recentFailures between
      else recentFailures between ++ recentFailures before := by
  have first : failuresSince [probe.timed] = [] := by
    simp [failuresSince, BreakerEvent.timed, during.isProbe.admits]
  have since : failuresSince (probe.timed :: between.map BreakerEvent.timed) =
      failuresSince (between.map BreakerEvent.timed) := by
    have split := failuresSince_append [probe.timed] (between.map BreakerEvent.timed)
    rw [first, List.append_nil, ite_self] at split
    exact split
  have successes : (∃ call ∈ probe.timed :: between.map BreakerEvent.timed,
      call.2 = .recordSuccess) ↔ ∃ event ∈ between, event.call = .recordSuccess := by
    simp [BreakerEvent.timed, during.isProbe.admits]
  simp only [recentFailures, List.map_append, List.map_cons]
  rw [failuresSince_append, since]
  simp only [successes]

/-- The failures refuse the request exactly when they reopened the circuit. -/
theorem refuses_iff (during : AskedDuringProbe history before probe between asked)
    (ordered : InOrder (history.map BreakerEvent.timed)) :
    Refuses failureThreshold recoveryWindow (recentFailures (before ++ probe :: between))
      asked.time ↔ Reopened between asked.time := by
  have passed : probe.time ≤ asked.time := by
    obtain ⟨after, same⟩ := during.within
    rw [same] at ordered
    simp only [InOrder, List.map_append, List.map_cons] at ordered
    have later := (List.pairwise_cons.mp (List.pairwise_append.mp ordered).2.1).1
    exact later asked.timed (List.mem_append_right _ List.mem_cons_self)
  obtain ⟨last, latest, elapsed⟩ := during.isProbe.elapsed
  rw [during.recentFailures_eq, Refuses, Reopened]
  by_cases success : ∃ event ∈ between, event.call = .recordSuccess
  · simp only [success, ↓reduceIte, true_implies]
    exact and_comm
  · have many : failureLimit ≤ (recentFailures between ++ recentFailures before).length := by
      have opened := during.isProbe.opened
      rw [List.length_append]
      omega
    simp only [success, ↓reduceIte, false_implies, and_true]
    change failureLimit ≤ _ ∧ _ ↔ _
    rw [and_iff_right many, List.head?_append]
    cases recentFailures between with
    | cons failure others => rfl
    | nil =>
        rw [List.head?_nil, Option.none_or, latest]
        constructor
        · rintro ⟨other, same, soon⟩
          cases same
          linarith
        · rintro ⟨other, same, _⟩
          cases same

/-- The request is refused exactly when the circuit was reopened. -/
theorem refused_iff {state : TransportState} (recorded : state.Recorded)
    (during : AskedDuringProbe state.history before probe between asked) :
    asked.answer = .admitted false ↔ Reopened between asked.time := by
  obtain ⟨after, same⟩ := during.within
  rw [List.append_cons, ← List.append_assoc] at same
  have tracks := CircuitBreaker.tracks failureThreshold recoveryWindow
    ((before ++ probe :: between).map BreakerEvent.timed)
  have granted := tracks.admits_iff asked.time
  have answered := recorded.answered _ asked after same
  rw [List.append_assoc, List.singleton_append] at answered
  rw [← during.refuses_iff recorded.ordered, answered]
  simp only [CircuitBreaker.object, BreakerEvent.timed, during.asks, BreakerAnswer.admitted.injEq]
  rw [← Bool.not_eq_true]
  exact (not_congr granted).trans not_not

end AskedDuringProbe

namespace Client

/-- **A single probe, while others keep the circuit open.** In every run, a request asked
for while the outcome of a probe is not recorded is refused exactly when the circuit was
reopened since the probe; so all are refused exactly in the runs in which it was for each. -/
theorem single_probe {Item DynamicRules : Type} (client : Client Item DynamicRules)
    (labels : List (PoolLabel (TransportArrival Item) ((op : TransportOp Item) → op.Answer)))
    (pool : Pool TransportState (Caller Item))
    (run : client.machine.Run ⟨.initial, []⟩ labels pool) :
    (∀ before probe between asked,
      AskedDuringProbe pool.shared.history before probe between asked →
      (asked.answer = .admitted false ↔ Reopened between asked.time)) ∧
    (SingleProbe pool.shared.history ↔
      ∀ before probe between asked,
        AskedDuringProbe pool.shared.history before probe between asked →
        Reopened between asked.time) := by
  have recorded := client.recorded run
  refine ⟨fun _ _ _ _ during => during.refused_iff recorded, ?_⟩
  constructor
  · intro single before probe between asked during
    exact (during.refused_iff recorded).mp (single before probe between asked during)
  · intro reopened before probe between asked during
    exact (during.refused_iff recorded).mpr (reopened before probe between asked during)

/-- A client of the sample crates that tries once. -/
def sample : Client ℕ Value where
  crates := .sample []
  transport := ⟨{ AgentConfig.new "test-api-key-1234" with retryAttempts := 0 }, none⟩
  render := naturalDocument
  fromValue := some

/-- A caller takes as many steps, and its requests fail to connect. -/
def failing (tid count : ℕ) :
    List (PoolLabel (TransportArrival ℕ) ((op : TransportOp ℕ) → op.Answer)) :=
  List.replicate count (.run tid (TransportOp.admitting fun _ => .clientError "connection refused"))

/-- Five status pushes fail to connect, one after another. -/
def fiveFailures (first : ℕ) :
    List (PoolLabel (TransportArrival ℕ) ((op : TransportOp ℕ) → op.Answer)) :=
  (List.range' first 5).flatMap fun tid => .arrive (.call (.sendStatus [])) :: failing tid 8

/-- The record ends with a probe, this many calls of others, and a request for admission. -/
def endsDuringProbe (history : List BreakerEvent) (before between : ℕ) : Bool :=
  match history.drop before with
  | [] => false
  | probe :: rest =>
      match rest.drop between with
      | [asked] =>
          decide ((probe.call = .admits ∧ asked.call = .admits) ∧
            (∀ event ∈ rest.take between, event.caller ≠ probe.caller) ∧
            failureLimit ≤ (recentFailures (history.take before)).length ∧
            ∃ last ∈ (recentFailures (history.take before)).head?,
              recoveryWindow ≤ probe.time - last)
      | _ => false

/-- A record that ends so is one of a request during a probe. -/
theorem askedDuringProbe_of_ends {history : List BreakerEvent} {before between : ℕ}
    (ends : endsDuringProbe history before between = true) :
    ∃ probe calls asked, AskedDuringProbe history (history.take before) probe calls asked ∧
      calls = (history.drop (before + 1)).take between ∧ history.getLast? = some asked := by
  unfold endsDuringProbe at ends
  split at ends
  · cases ends
  · next probe rest split =>
      split at ends
      · next asked split' =>
          obtain ⟨⟨admits, asks⟩, others, opened, elapsed⟩ := of_decide_eq_true ends
          have within : history =
              history.take before ++ probe :: (rest.take between ++ asked :: []) := by
            rw [← split', List.take_append_drop, ← split, List.take_append_drop]
          refine ⟨probe, rest.take between, asked,
            ⟨⟨[], within⟩, ⟨admits, opened, elapsed⟩, asks, ?_⟩, ?_, ?_⟩
          · rintro ⟨event, first, _⟩
            obtain ⟨inside, same⟩ := List.mem_filter.mp (List.mem_of_head? first)
            exact others event inside (of_decide_eq_true same)
          · rw [← List.drop_drop, split]
            rfl
          · rw [within, List.getLast?_append, ← List.cons_append, List.getLast?_append]
            rfl
      · cases ends

/-- While a fetch of the rules is a probe, a push that was admitted earlier fails: the circuit
is open again, and the next request is refused. -/
theorem single_probe_after_late_failure :
    ∃ labels pool, sample.machine.Run ⟨.initial, []⟩ labels pool ∧
      ∃ before probe between asked,
        AskedDuringProbe pool.shared.history before probe between asked ∧
        asked.answer = .admitted false := by
  let labels := .arrive (.call (.sendStatus [])) :: failing 0 3 ++ fiveFailures 1 ++
    [.arrive (.elapse 60), .arrive (.call .fetchRules),
      .arrive (.call (.sendBatch ⟨.events, [0]⟩))] ++
    failing 6 2 ++ failing 0 2 ++ failing 7 4
  obtain ⟨pool, run, checked⟩ := @Machine.exists_run _ _ sample.machine ⟨.initial, []⟩ labels
    (fun pool => endsDuringProbe pool.shared.history 11 1 ∧
      ∀ asked ∈ pool.shared.history.getLast?,
        Reopened ((pool.shared.history.drop 12).take 1) asked.time) (by decide +kernel)
  obtain ⟨ends, reopened⟩ := of_decide_eq_true checked
  obtain ⟨probe, between, asked, during, calls, last⟩ := askedDuringProbe_of_ends ends
  have exact := (sample.single_probe labels pool run).1 _ probe between asked during
  refine ⟨labels, pool, run, _, probe, between, asked, during, exact.mpr ?_⟩
  rw [calls]
  exact reopened asked last

/-- A minute after the circuit opened, a fetch of the rules and a flush are both admitted. -/
theorem two_probes :
    ∃ labels pool, sample.machine.Run ⟨.initial, []⟩ labels pool ∧
      ¬ SingleProbe pool.shared.history := by
  let labels := fiveFailures 0 ++ [.arrive (.elapse 60), .arrive (.call .fetchRules),
    .arrive (.call (.sendBatch ⟨.events, [0]⟩))] ++ failing 5 2 ++ failing 6 4
  obtain ⟨pool, run, checked⟩ := @Machine.exists_run _ _ sample.machine ⟨.initial, []⟩ labels
    (fun pool => endsDuringProbe pool.shared.history 10 0 ∧
      ∀ asked ∈ pool.shared.history.getLast?, asked.answer = .admitted true) (by decide +kernel)
  obtain ⟨ends, granted⟩ := of_decide_eq_true checked
  obtain ⟨probe, between, asked, during, _, last⟩ := askedDuringProbe_of_ends ends
  refine ⟨labels, pool, run, fun single => ?_⟩
  have refused := single _ probe between asked during
  rw [granted asked last] at refused
  cases refused

end Client

end GuardAgent
