import GuardAgent.Foundation.Program

/-!
# Retry loops

A loop makes one attempt after another until the outcome of one stops it or its budget is
used up. `Retry.Rounds` relates the outcomes to what the loop performs and to its value. When
a verdict on the single outcomes decides whether the loop stops (`Retry.Decides`), the loop
is a search for the first outcome with a verdict (`Retry.Rounds.decided`). What a program
does after an attempt is given by `Program.Settles`.
-/

namespace Foundation

/-- How a loop treats the outcome of an attempt: what it performs, which may depend on the
index of the attempt and on whether it is the last, and the value it then returns, if it
does. -/
structure Retry (Outcome Event Value : Type*) where
  events : (index : ℕ) → (last : Bool) → Outcome → List Event
  stops : (last : Bool) → Outcome → Option Value
  exhausted : Value

namespace Retry

variable {Outcome Event Value Verdict : Type*} (loop : Retry Outcome Event Value)

/-- The rounds from the attempt `index` on, with `budget` attempts to go. -/
inductive Rounds : (index budget : ℕ) → List Outcome → List Event → Value → Prop where
  | exhausted (index : ℕ) : Rounds index 0 [] [] loop.exhausted
  | stop {index budget : ℕ} {outcome : Outcome} {value : Value} :
      loop.stops (budget == 0) outcome = some value →
      Rounds index (budget + 1) [outcome] (loop.events index (budget == 0) outcome) value
  | again {index budget : ℕ} {outcome : Outcome} {outcomes : List Outcome} {trace : List Event}
      {value : Value} : loop.stops (budget == 0) outcome = none →
      Rounds (index + 1) budget outcomes trace value →
      Rounds index (budget + 1) (outcome :: outcomes)
        (loop.events index (budget == 0) outcome ++ trace) value

/-- What is left after an attempt: nothing when it stopped the loop. -/
def Remains (stopped? : Option Value) (rest : List Event → Value → Prop) (later : List Event)
    (value : Value) : Prop :=
  match stopped? with
  | some stopped => later = [] ∧ value = stopped
  | none => rest later value

/-- The outcomes are the first of those assigned to the attempts. -/
def Follows (assigned : ℕ → Outcome) (outcomes : List Outcome) : Prop :=
  ∀ index outcome, outcomes[index]? = some outcome → assigned index = outcome

variable {loop}

/-- The rounds begin with an attempt. -/
theorem exists_rounds_succ {index budget : ℕ} {trace : List Event} {value : Value} :
    (∃ outcomes, loop.Rounds index (budget + 1) outcomes trace value) ↔
      ∃ outcome later, trace = loop.events index (budget == 0) outcome ++ later ∧
        Remains (loop.stops (budget == 0) outcome)
          (fun later value => ∃ outcomes, loop.Rounds (index + 1) budget outcomes later value)
          later value := by
  constructor
  · rintro ⟨_, rounds⟩
    cases rounds with
    | @stop _ _ outcome _ stops =>
        refine ⟨outcome, [], (List.append_nil _).symm, ?_⟩
        rw [stops]
        exact ⟨rfl, rfl⟩
    | @again _ _ outcome outcomes later _ stops rest =>
        refine ⟨outcome, later, rfl, ?_⟩
        rw [stops]
        exact ⟨outcomes, rest⟩
  · rintro ⟨outcome, later, rfl, remains⟩
    cases stops : loop.stops (budget == 0) outcome with
    | some stopped =>
        rw [stops] at remains
        obtain ⟨rfl, rfl⟩ := remains
        rw [List.append_nil]
        exact ⟨[outcome], .stop stops⟩
    | none =>
        rw [stops] at remains
        obtain ⟨outcomes, rest⟩ := remains
        exact ⟨outcome :: outcomes, .again stops rest⟩

/-- Whatever outcomes are assigned to the attempts, the loop has rounds that follow them. -/
theorem exists_rounds (assigned : ℕ → Outcome) (index budget : ℕ) :
    ∃ outcomes trace value, loop.Rounds index budget outcomes trace value ∧
      Follows assigned outcomes := by
  induction budget generalizing assigned index with
  | zero => exact ⟨[], [], _, .exhausted index, fun index outcome present => by simp at present⟩
  | succ budget ih =>
      cases stops : loop.stops (budget == 0) (assigned 0) with
      | some value =>
          refine ⟨[assigned 0], _, value, .stop stops, fun index outcome present => ?_⟩
          obtain ⟨_, only⟩ := List.getElem?_eq_some_iff.mp present
          cases index with
          | zero => exact only
          | succ index => simp at present
      | none =>
          obtain ⟨outcomes, trace, value, rounds, follows⟩ :=
            ih (fun index => assigned (index + 1)) (index + 1)
          refine ⟨assigned 0 :: outcomes, _, value, .again stops rounds, ?_⟩
          intro index outcome present
          cases index with
          | zero => exact Option.some.inj present
          | succ index => exact follows index outcome present

/-- What is read from a trace round by round. -/
theorem Rounds.filterMap_trace {read : Event → Option Outcome}
    (reads : ∀ index last outcome, (loop.events index last outcome).filterMap read = [outcome])
    {index budget : ℕ} {outcomes : List Outcome} {trace : List Event} {value : Value}
    (rounds : loop.Rounds index budget outcomes trace value) : trace.filterMap read = outcomes := by
  induction rounds with
  | exhausted => rfl
  | stop _ => exact reads ..
  | again _ _ ih => rw [List.filterMap_append, reads, ih, List.singleton_append]

/-- There are no more rounds than the budget allows. -/
theorem Rounds.length_le {index budget : ℕ} {outcomes : List Outcome} {trace : List Event}
    {value : Value} (rounds : loop.Rounds index budget outcomes trace value) :
    outcomes.length ≤ budget := by
  induction rounds with
  | exhausted => exact Nat.le_refl 0
  | stop _ => exact Nat.succ_le_succ (Nat.zero_le _)
  | again _ _ ih => exact Nat.succ_le_succ ih

/-- What the attempts before the last one perform. -/
def continuing (loop : Retry Outcome Event Value) (index : ℕ) (before : List Outcome) :
    List (List Event) :=
  before.mapIdx fun round outcome => loop.events (index + round) false outcome

/-- The events of the rounds before the last, by the first round. -/
theorem continuing_cons (index : ℕ) (outcome : Outcome) (before : List Outcome) :
    loop.continuing index (outcome :: before) =
      loop.events index false outcome :: loop.continuing (index + 1) before := by
  rw [continuing, List.mapIdx_cons, Nat.add_zero]
  congr 2
  funext round
  rw [Nat.add_right_comm, Nat.add_assoc]

/-- What is counted once for certain outcomes. -/
theorem countP_continuing {count : Event → Bool} {counts : Outcome → Bool}
    (counted : ∀ index outcome, (loop.events index false outcome).countP count =
      if counts outcome then 1 else 0) (index : ℕ) (before : List Outcome) :
    (loop.continuing index before).flatten.countP count = before.countP counts := by
  induction before generalizing index with
  | nil => rfl
  | cons outcome before ih =>
      rw [continuing_cons, List.flatten_cons, List.countP_append, counted, ih, List.countP_cons,
        Nat.add_comm]

/-- All rounds but the last go on, and not as the last attempt. -/
theorem Rounds.exists_last {index budget : ℕ} {outcomes : List Outcome} {trace : List Event}
    {value : Value} (rounds : loop.Rounds index (budget + 1) outcomes trace value) :
    ∃ before outcome, outcomes = before ++ [outcome] ∧ before.length ≤ budget ∧
      (∀ earlier ∈ before, loop.stops false earlier = none) ∧
      trace = (loop.continuing index before).flatten ++
        loop.events (index + before.length) (before.length == budget) outcome ∧
      (loop.stops (before.length == budget) outcome = some value ∨
        loop.stops (before.length == budget) outcome = none ∧ before.length = budget ∧
          value = loop.exhausted) := by
  induction budget generalizing index outcomes trace with
  | zero =>
      cases rounds with
      | stop stops =>
          exact ⟨[], _, rfl, Nat.le_refl 0, fun _ none => (List.not_mem_nil none).elim,
            rfl, Or.inl stops⟩
      | again stops rest =>
          cases rest
          refine ⟨[], _, rfl, Nat.le_refl 0, fun _ none => (List.not_mem_nil none).elim, ?_,
            Or.inr ⟨stops, rfl, rfl⟩⟩
          exact List.append_nil _
  | succ budget ih =>
      have flag : (budget + 1 == 0) = false := rfl
      cases rounds with
      | stop stops =>
          exact ⟨[], _, rfl, Nat.zero_le _, fun _ none => (List.not_mem_nil none).elim, rfl,
            Or.inl stops⟩
      | @again _ _ outcome _ _ _ stops rest =>
          obtain ⟨before, last, rfl, short, continued, rfl, ends⟩ := ih rest
          have flags : ((outcome :: before).length == budget + 1) = (before.length == budget) :=
            Bool.eq_iff_iff.mpr (by simp)
          refine ⟨outcome :: before, last, rfl, Nat.succ_le_succ short,
            List.forall_mem_cons.mpr ⟨stops, continued⟩, ?_, ?_⟩
          · rw [continuing_cons, flags, List.flatten_cons, List.append_assoc, List.length_cons,
              Nat.add_right_comm, flag, Nat.add_assoc]
          · rw [flags]
            rcases ends with stopped | ⟨none, used, same⟩
            · exact Or.inl stopped
            · exact Or.inr ⟨none, congrArg (· + 1) used, same⟩

/-- The events of the rounds before the last, in parts. -/
theorem continuing_append (index : ℕ) (before later : List Outcome) :
    loop.continuing index (before ++ later) =
      loop.continuing index before ++ loop.continuing (index + before.length) later := by
  induction before generalizing index with
  | nil => rfl
  | cons outcome before ih =>
      rw [List.cons_append, continuing_cons, continuing_cons, ih, List.length_cons,
        Nat.add_right_comm, Nat.add_assoc, List.cons_append]

section Pauses

variable {Wait : Type*} {read : Event → Option Outcome} {pause : Event → Option Wait}

variable (loop read pause) in
/-- A round shows its outcome once, and pauses only after that. -/
structure Shows : Prop where
  once : ∀ index last outcome, (loop.events index last outcome).filterMap read = [outcome]
  first : ∀ index last outcome, ∃ opening event closing,
    loop.events index last outcome = opening ++ event :: closing ∧ read event = some outcome ∧
      opening.filterMap pause = []

/-- An event of two stretches is in the first or in the second. -/
theorem split_append {round later before after : List Event} {event : Event}
    (split : round ++ later = before ++ event :: after) :
    (∃ closing, round = before ++ event :: closing) ∨
      ∃ between, before = round ++ between ∧ later = between ++ event :: after := by
  rcases List.append_eq_append_iff.mp split with ⟨between, same, rest⟩ | ⟨closing, same, rest⟩
  · exact Or.inr ⟨between, same, rest⟩
  · cases closing with
    | nil => exact Or.inr ⟨[], by simpa using same.symm, rest.symm⟩
    | cons first closing =>
        obtain ⟨rfl, _⟩ := List.cons.inj rest
        exact Or.inl ⟨closing, same⟩

/-- An event that shows an outcome is where its round shows it. -/
theorem Shows.opening {index : ℕ} {last : Bool} {outcome found : Outcome}
    {before closing : List Event}
    {event : Event} (shows : loop.Shows read pause)
    (split : loop.events index last outcome = before ++ event :: closing)
    (shown : read event = some found) : before.filterMap read = [] ∧
      before.filterMap pause = [] := by
  obtain ⟨opening, first, rest, performed, showing, awake⟩ := shows.first index last outcome
  have alone := shows.once index last outcome
  rw [performed, List.filterMap_append, List.filterMap_cons_some showing] at alone
  obtain ⟨silent, quiet⟩ : opening.filterMap read = [] ∧ rest.filterMap read = [] := by
    rcases List.append_eq_singleton_iff.mp alone with ⟨silent, same⟩ | ⟨_, more⟩
    · exact ⟨silent, (List.cons.inj same).2⟩
    · cases more
  have reads {list more later : List Event} (here : list = more ++ event :: later) :
      list.filterMap read ≠ [] := by
    rw [here, List.filterMap_append, List.filterMap_cons_some shown]
    simp
  rw [performed] at split
  rcases split_append split with ⟨_, early⟩ | ⟨between, rfl, rest⟩
  · exact absurd silent (reads early)
  · cases between with
    | nil => exact ⟨by rwa [List.append_nil], by rwa [List.append_nil]⟩
    | cons _ between => exact absurd quiet (reads (List.cons.inj rest).2)

/-- Up to the outcome of an attempt, the loop has paused as its earlier attempts do, and each of
these went on. -/
theorem Rounds.paused (shows : loop.Shows read pause) {index budget : ℕ} {outcomes : List Outcome}
    {trace before after : List Event} {value : Value} {event : Event} {found : Outcome}
    (rounds : loop.Rounds index budget outcomes trace value)
    (split : trace = before ++ event :: after) (shown : read event = some found) :
    before.filterMap pause =
      (loop.continuing index (before.filterMap read)).flatten.filterMap pause ∧
      ∀ earlier ∈ before.filterMap read, loop.stops false earlier = none := by
  induction rounds generalizing before with
  | exhausted => exact absurd split (by simp)
  | stop _ =>
      obtain ⟨silent, awake⟩ := shows.opening split shown
      rw [silent, awake]
      exact ⟨rfl, fun _ none => (List.not_mem_nil none).elim⟩
  | @again index budget outcome outcomes later value stops rounds ih =>
      rcases split_append split with ⟨closing, here⟩ | ⟨between, rfl, rest⟩
      · obtain ⟨silent, awake⟩ := shows.opening here shown
        rw [silent, awake]
        exact ⟨rfl, fun _ none => (List.not_mem_nil none).elim⟩
      · -- Another round follows, so this was not the last attempt.
        have more : (budget == 0) = false := by
          cases rounds with
          | exhausted => exact absurd rest (by simp)
          | _ => rfl
        obtain ⟨paused, continued⟩ := ih rest
        rw [more] at stops ⊢
        rw [List.filterMap_append, List.filterMap_append, shows.once, paused,
          List.singleton_append, continuing_cons, List.flatten_cons, List.filterMap_append]
        exact ⟨rfl, List.forall_mem_cons.mpr ⟨stops, continued⟩⟩

/-- Attempts that each pause once. -/
theorem filterMap_continuing {wait : ℕ → Outcome → Wait} {before : List Outcome}
    (waits : ∀ outcome ∈ before, ∀ index,
      (loop.events index false outcome).filterMap pause = [wait index outcome]) (index : ℕ) :
    (loop.continuing index before).flatten.filterMap pause =
      before.mapIdx fun round outcome => wait (index + round) outcome := by
  induction before generalizing index with
  | nil => rfl
  | cons outcome before ih =>
      obtain ⟨here, later⟩ := List.forall_mem_cons.mp waits
      rw [continuing_cons, List.flatten_cons, List.filterMap_append, here, ih later,
        List.mapIdx_cons, List.singleton_append]
      simp only [Nat.add_assoc, Nat.add_comm 1, Nat.add_zero]

/-- Between two attempts the loop pauses as the first of them does, and then as those do that
follow it. -/
theorem Rounds.paused_between (shows : loop.Shows read pause) {index budget : ℕ}
    {outcomes : List Outcome} {before between after : List Event} {value : Value}
    {first second : Event} {found next : Outcome}
    (rounds : loop.Rounds index budget outcomes (before ++ first :: between ++ second :: after)
      value)
    (shown : read first = some found) (again : read second = some next)
    (awake : pause first = none) :
    between.filterMap pause =
        (loop.events (index + (before.filterMap read).length) false found).filterMap pause ++
          (loop.continuing (index + (before.filterMap read).length + 1)
            (between.filterMap read)).flatten.filterMap pause ∧
      loop.stops false found = none := by
  obtain ⟨early, _⟩ := rounds.paused shows (List.append_assoc ..) shown
  obtain ⟨late, continued⟩ := rounds.paused shows rfl again
  rw [List.filterMap_append, List.filterMap_append, List.filterMap_cons_none awake,
    List.filterMap_cons_some shown, continuing_append, continuing_cons, List.flatten_append,
    List.flatten_cons, List.filterMap_append, List.filterMap_append, early] at late
  refine ⟨List.append_cancel_left late, continued found ?_⟩
  rw [List.filterMap_append, List.filterMap_cons_some shown]
  simp

end Pauses

variable (loop) in
/-- Whether the loop stops is decided by a verdict on the outcome, but for the last attempt,
which may also stop it with the value it falls back to. -/
structure Decides (verdict? : Outcome → Option Verdict) (judge : Value → Verdict)
    (fallback : Verdict) : Prop where
  stopped : ∀ {last outcome value}, loop.stops last outcome = some value →
    verdict? outcome = some (judge value) ∨
      verdict? outcome = none ∧ last = true ∧ judge value = fallback
  continued : ∀ {last outcome}, loop.stops last outcome = none → verdict? outcome = none
  exhausted : judge loop.exhausted = fallback

variable {verdict? : Outcome → Option Verdict} {judge : Value → Verdict} {fallback : Verdict}

/-- **A retry loop is a bounded search**: it ends with the first outcome that has a verdict,
or uses up its budget. -/
theorem Rounds.decided (decides : loop.Decides verdict? judge fallback) {index budget : ℕ}
    {outcomes : List Outcome} {trace : List Event} {value : Value}
    (rounds : loop.Rounds index (budget + 1) outcomes trace value) :
    (∃ before outcome, outcomes = before ++ [outcome] ∧ before.length ≤ budget ∧
      (∀ earlier ∈ before, verdict? earlier = none) ∧ verdict? outcome = some (judge value)) ∨
    ((∀ outcome ∈ outcomes, verdict? outcome = none) ∧ outcomes.length = budget + 1 ∧
      judge value = fallback) := by
  obtain ⟨before, outcome, rfl, short, continued, _, ends⟩ := rounds.exists_last
  have undecided := fun earlier member => decides.continued (continued earlier member)
  have all (last : verdict? outcome = none) :
      ∀ other ∈ before ++ [outcome], verdict? other = none := by
    intro other member
    rcases List.mem_append.mp member with earlier | only
    · exact undecided other earlier
    · rw [List.mem_singleton.mp only]
      exact last
  rcases ends with stopped | ⟨continues, used, rfl⟩
  · rcases decides.stopped stopped with judged | ⟨last, flag, same⟩
    · exact Or.inl ⟨before, outcome, rfl, short, undecided, judged⟩
    · refine Or.inr ⟨all last, ?_, same⟩
      rw [List.length_append, eq_of_beq flag, List.length_singleton]
  · refine Or.inr ⟨all (decides.continued continues), ?_, decides.exhausted⟩
    rw [List.length_append, used, List.length_singleton]

/-- The last round has the outcome assigned to it, and so have those before it. -/
theorem Follows.init {assigned : ℕ → Outcome} {before : List Outcome} {last : Outcome}
    (follows : Follows assigned (before ++ [last])) :
    assigned before.length = last ∧ ∀ index < before.length, assigned index ∈ before := by
  refine ⟨follows _ _ List.getElem?_concat_length, fun index earlier => ?_⟩
  have there : (before ++ [last])[index]? = some before[index] := by
    rw [List.getElem?_append_left earlier, List.getElem?_eq_getElem earlier]
  rw [follows _ _ there]
  exact List.getElem_mem earlier

/-- So it is a search through the outcomes assigned to its attempts. -/
theorem Rounds.search (decides : loop.Decides verdict? judge fallback) {index budget : ℕ}
    {outcomes : List Outcome} {trace : List Event} {value : Value}
    (rounds : loop.Rounds index (budget + 1) outcomes trace value) {assigned : ℕ → Outcome}
    (follows : Follows assigned outcomes) :
    (∀ found ≤ budget, (∀ earlier < found, verdict? (assigned earlier) = none) →
      ∀ verdict, verdict? (assigned found) = some verdict →
        outcomes.length = found + 1 ∧ judge value = verdict) ∧
    ((∀ each ≤ budget, verdict? (assigned each) = none) →
      outcomes.length = budget + 1 ∧ judge value = fallback) := by
  rcases rounds.decided decides with ⟨before, outcome, rfl, short, undecided, judged⟩ |
    ⟨undecided, used, same⟩
  · obtain ⟨here, earlier⟩ := follows.init
    constructor
    · intro found _ none verdict some
      rcases Nat.lt_trichotomy found before.length with early | rfl | late
      · rw [undecided _ (earlier found early)] at some
        cases some
      · rw [here, judged] at some
        exact ⟨List.length_append, Option.some.inj some⟩
      · have first := none before.length late
        rw [here, judged] at first
        cases first
    · intro none
      have last := none before.length short
      rw [here, judged] at last
      cases last
  · refine ⟨fun found within _ verdict some => ?_, fun _ => ⟨used, same⟩⟩
    have inside : found < outcomes.length := by omega
    have there : outcomes[found]? = Option.some outcomes[found] := List.getElem?_eq_getElem inside
    rw [follows _ _ there, undecided _ (List.getElem_mem inside)] at some
    cases some

end Retry

namespace Program

variable {sig : Signature} {Value : Type} {loop : Program sig Value}

/-- The program performs these events and returns the value, or goes on as the loop. -/
def Settles (program : Program sig Value) (events : List sig.Event) (stopped? : Option Value)
    (loop : Program sig Value) : Prop :=
  ∀ trace value, program.Run trace value ↔
    ∃ later, trace = events ++ later ∧ Retry.Remains stopped? loop.Run later value

/-- A program that is done settles on its value. -/
theorem settles_done (value : Value) :
    (done value : Program sig Value).Settles [] (some value) loop := by
  intro trace result
  rw [run_done]
  constructor
  · rintro ⟨rfl, rfl⟩
    exact ⟨[], rfl, rfl, rfl⟩
  · rintro ⟨_, rfl, rfl, rfl⟩
    exact ⟨rfl, rfl⟩

/-- A loop settles like itself. -/
theorem settles_loop : loop.Settles [] none loop := fun trace _ =>
  ⟨fun run => ⟨trace, rfl, run⟩, fun ⟨_, same, run⟩ => same ▸ run⟩

/-- An operation with one possible answer is performed first. -/
theorem settles_call {op : sig.Op} {rest : sig.Answer op → Program sig Value}
    {answer : sig.Answer op} {events : List sig.Event} {stopped? : Option Value}
    (only : ∀ other, other = answer) (settles : (rest answer).Settles events stopped? loop) :
    (call op >>= rest).Settles (⟨op, answer⟩ :: events) stopped? loop := by
  intro trace value
  rw [run_call_bind]
  constructor
  · rintro ⟨other, later, rfl, run⟩
    obtain rfl := only other
    obtain ⟨later, rfl, remains⟩ := (settles later value).mp run
    exact ⟨later, rfl, remains⟩
  · rintro ⟨later, rfl, remains⟩
    exact ⟨answer, events ++ later, rfl, (settles _ value).mpr ⟨later, rfl, remains⟩⟩

end Program

end Foundation
