import Mathlib.Logic.Basic
import Mathlib.Data.List.Basic

/-!
# Programs over effects, and their traces

A program performs operations one after another and continues with the answer
the environment gives to each. Its partial executions are described by
`Program.Reaches`: performing the operations of a trace, with the answers
recorded there, leaves a residual program. A program is a well-founded tree, so
against every environment it returns (`Program.play_run`).
-/

namespace Foundation

/-- The operations a program can perform, and the answers to each. -/
structure Signature where
  Op : Type
  Answer : Op → Type

/-- An operation that was performed, with its answer. -/
abbrev Signature.Event (sig : Signature) : Type := Σ op : sig.Op, sig.Answer op

inductive Program (sig : Signature) (α : Type) where
  | done (value : α)
  | perform (op : sig.Op) (next : sig.Answer op → Program sig α)

namespace Program

variable {sig : Signature} {α β : Type}

protected def bind : Program sig α → (α → Program sig β) → Program sig β
  | done value, rest => rest value
  | perform op next, rest => perform op fun answer => (next answer).bind rest

instance : Monad (Program sig) where
  pure := done
  bind := Program.bind

/-- Perform one operation and return its answer. -/
def call (op : sig.Op) : Program sig (sig.Answer op) := perform op done

/-- A pure program is done. -/
@[simp] theorem pure_eq (value : α) : (pure value : Program sig α) = done value := rfl

/-- What follows a value is what follows. -/
@[simp] theorem done_bind (value : α) (rest : α → Program sig β) :
    (done value : Program sig α) >>= rest = rest value := rfl

/-- What follows an operation follows its answer. -/
@[simp] theorem perform_bind (op : sig.Op) (next : sig.Answer op → Program sig α)
    (rest : α → Program sig β) :
    perform op next >>= rest = perform op fun answer => next answer >>= rest := rfl

/-- A call goes on with its answer. -/
@[simp] theorem call_bind (op : sig.Op) (rest : sig.Answer op → Program sig β) :
    call op >>= rest = perform op rest := rfl

/-- Performing the operations of a trace with the recorded answers leaves a
residual program. -/
inductive Reaches : Program sig α → List sig.Event → Program sig α → Prop where
  | refl (program : Program sig α) : Reaches program [] program
  | perform {op : sig.Op} {next : sig.Answer op → Program sig α} {answer : sig.Answer op}
      {trace : List sig.Event} {residual : Program sig α} :
      Reaches (next answer) trace residual →
      Reaches (perform op next) (⟨op, answer⟩ :: trace) residual

/-- A complete execution. -/
def Run (program : Program sig α) (trace : List sig.Event) (value : α) : Prop :=
  program.Reaches trace (done value)

/-- What is reached in two stretches is reached in one. -/
theorem Reaches.trans {program middle residual : Program sig α} {first second : List sig.Event}
    (before : program.Reaches first middle) (after : middle.Reaches second residual) :
    program.Reaches (first ++ second) residual := by
  induction before with
  | refl _ => exact after
  | perform _ ih => exact .perform (ih after)

/-- A partial execution can be extended by performing the next operation. -/
theorem Reaches.snoc {program : Program sig α} {trace : List sig.Event} {op : sig.Op}
    {next : sig.Answer op → Program sig α} (reached : program.Reaches trace (.perform op next))
    (answer : sig.Answer op) : program.Reaches (trace ++ [⟨op, answer⟩]) (next answer) :=
  reached.trans (.perform (.refl _))

/-- A program that is done has one run. -/
@[simp] theorem run_done {value result : α} {trace : List sig.Event} :
    (done value : Program sig α).Run trace result ↔ trace = [] ∧ value = result := by
  constructor
  · intro run
    cases run
    exact ⟨rfl, rfl⟩
  · rintro ⟨rfl, rfl⟩
    exact .refl _

/-- The runs of an operation, by its answer. -/
theorem run_perform {op : sig.Op} {next : sig.Answer op → Program sig α} {result : α}
    {trace : List sig.Event} : (perform op next).Run trace result ↔
      ∃ answer rest, trace = ⟨op, answer⟩ :: rest ∧ (next answer).Run rest result := by
  constructor
  · intro run
    cases run with
    | perform rest => exact ⟨_, _, rfl, rest⟩
  · rintro ⟨answer, rest, rfl, run⟩
    exact .perform run

/-- The runs of a call, by its answer. -/
theorem run_call_bind {op : sig.Op} {rest : sig.Answer op → Program sig α} {result : α}
    {trace : List sig.Event} : (call op >>= rest).Run trace result ↔
      ∃ answer later, trace = ⟨op, answer⟩ :: later ∧ (rest answer).Run later result :=
  run_perform

/-- An execution of a sequential composition is an execution of the first
program followed by one of the second. -/
theorem run_bind {program : Program sig α} {rest : α → Program sig β} {result : β}
    {trace : List sig.Event} : (program >>= rest).Run trace result ↔
      ∃ first value second, trace = first ++ second ∧ program.Run first value ∧
        (rest value).Run second result := by
  induction program generalizing trace with
  | done value =>
      rw [done_bind]
      constructor
      · intro run
        exact ⟨[], value, trace, rfl, .refl _, run⟩
      · rintro ⟨first, other, second, rfl, run, after⟩
        obtain ⟨rfl, rfl⟩ := run_done.mp run
        exact after
  | perform op next ih =>
      rw [perform_bind, run_perform]
      constructor
      · rintro ⟨answer, later, rfl, run⟩
        obtain ⟨first, value, second, rfl, before, after⟩ := (ih answer).mp run
        exact ⟨⟨op, answer⟩ :: first, value, second, rfl, .perform before, after⟩
      · rintro ⟨first, value, second, rfl, before, after⟩
        obtain ⟨answer, later, rfl, run⟩ := run_perform.mp before
        exact ⟨answer, later ++ second, rfl, (ih answer).mpr
            ⟨later, value, second, rfl, run, after⟩⟩

/-- The execution against an environment that answers from the trace so far. -/
def play (environment : List sig.Event → (op : sig.Op) → sig.Answer op) :
    List sig.Event → Program sig α → List sig.Event × α
  | _, done value => ([], value)
  | past, perform op next =>
      let answer := environment past op
      let (trace, value) := (next answer).play environment (past ++ [⟨op, answer⟩])
      (⟨op, answer⟩ :: trace, value)

/-- **Every program returns against every environment.** -/
theorem play_run (environment : List sig.Event → (op : sig.Op) → sig.Answer op)
    (past : List sig.Event) (program : Program sig α) :
    program.Run (program.play environment past).1 (program.play environment past).2 := by
  induction program generalizing past with
  | done value => exact .refl _
  | perform op next ih => exact .perform (ih _ _)

/-- An execution can be exhibited by playing it. -/
theorem exists_run {environment : List sig.Event → (op : sig.Op) → sig.Answer op}
    {program : Program sig α} {check : List sig.Event → α → Bool}
    (checked : check (program.play environment []).1 (program.play environment []).2 = true) :
    ∃ trace value, program.Run trace value ∧ check trace value = true :=
  ⟨_, _, play_run environment [] program, checked⟩

/-- A partial execution can be completed. -/
theorem Reaches.of_run {program residual : Program sig α} {trace : List sig.Event}
    (reached : program.Reaches trace residual) (environment : (op : sig.Op) → sig.Answer op) :
    ∃ later value, program.Run (trace ++ later) value :=
  ⟨_, _, reached.trans (play_run (fun _ => environment) [] residual)⟩

/-- Every complete execution meets the postcondition on its trace and its value. -/
def Ensures (program : Program sig α) (post : List sig.Event → α → Prop) : Prop :=
  ∀ trace value, program.Run trace value → post trace value

/-- What is done ensures what holds of its value. -/
theorem ensures_done {value : α} {post : List sig.Event → α → Prop} (holds : post [] value) :
    (done value : Program sig α).Ensures post := by
  intro trace result run
  obtain ⟨rfl, rfl⟩ := run_done.mp run
  exact holds

/-- The rule of one operation: whatever the answer, the rest meets what remains of
the postcondition. -/
theorem ensures_call {op : sig.Op} {rest : sig.Answer op → Program sig α}
    {post : List sig.Event → α → Prop}
    (answered : ∀ answer, (rest answer).Ensures fun trace => post (⟨op, answer⟩ :: trace)) :
    (call op >>= rest).Ensures post := by
  intro _ result run
  obtain ⟨answer, later, rfl, after⟩ := run_perform.mp run
  exact answered answer later result after

/-- The rule of sequential composition. -/
theorem ensures_bind {program : Program sig α} {rest : α → Program sig β}
    {middle : List sig.Event → α → Prop} {post : List sig.Event → β → Prop}
    (first : program.Ensures middle)
    (later : ∀ before value, middle before value →
      (rest value).Ensures fun trace => post (before ++ trace)) :
    (program >>= rest).Ensures post := by
  intro _ result run
  obtain ⟨before, value, after, rfl, started, finished⟩ := run_bind.mp run
  exact later before value (first before value started) after result finished

/-- What is ensured may be weakened. -/
theorem Ensures.mono {program : Program sig α} {stronger weaker : List sig.Event → α → Prop}
    (ensures : program.Ensures stronger)
    (implies : ∀ trace value, stronger trace value → weaker trace value) :
    program.Ensures weaker :=
  fun trace value run => implies trace value (ensures trace value run)

end Program

end Foundation
