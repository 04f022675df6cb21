import GuardAgent.Foundation.Program
import Mathlib.Logic.Equiv.Defs

/-!
# Programs in their surroundings

Two things that can be said of a program without a trace. `Program.Leads`: if the
surroundings give only good answers, the value meets a postcondition. `Program.translate`:
what the program looks like from where some operations cannot be told apart. Programs that
look alike have the same runs, up to what cannot be told apart (`Program.Alike.exists_run`).
-/

namespace Foundation

namespace Program

variable {sig : Signature} {α β : Type} {good : (op : sig.Op) → sig.Answer op → Prop}

/-- If every answer is good, the value meets the postcondition. -/
def Leads (good : (op : sig.Op) → sig.Answer op → Prop) (post : α → Prop) : Program sig α → Prop
  | done value => post value
  | perform op next => ∀ answer, good op answer → (next answer).Leads good post

/-- What is done leads to what holds of its value. -/
@[simp] theorem leads_done {post : α → Prop} {value : α} :
    (done value : Program sig α).Leads good post ↔ post value := Iff.rfl

/-- The rule of one operation. -/
theorem leads_call {post : α → Prop} {op : sig.Op} {rest : sig.Answer op → Program sig α} :
    (call op >>= rest).Leads good post ↔ ∀ answer, good op answer → (rest answer).Leads good post :=
  Iff.rfl

/-- The rule of sequential composition. -/
theorem Leads.bind {middle : α → Prop} {post : β → Prop} {program : Program sig α}
    {rest : α → Program sig β} (first : program.Leads good middle)
    (later : ∀ value, middle value → (rest value).Leads good post) :
    (program >>= rest).Leads good post := by
  induction program with
  | done value => exact later value first
  | perform op next ih => exact fun answer fair => ih answer (first answer fair)

end Program

/-- What the operations of a signature look like. Their answers are seen as they are. -/
structure Signature.View (sig sig' : Signature) where
  op : sig.Op → sig'.Op
  answer : (op' : sig.Op) → sig.Answer op' ≃ sig'.Answer (op op')

namespace Signature.View

variable {sig sig' : Signature} (view : Signature.View sig sig')

def event (performed : sig.Event) : sig'.Event :=
  ⟨view.op performed.1, view.answer performed.1 performed.2⟩

end Signature.View

namespace Program

variable {sig sig' : Signature} (view : Signature.View sig sig') {α β : Type}

/-- What a program looks like. -/
def translate : Program sig α → Program sig' α
  | done value => done value
  | perform op next =>
      perform (view.op op) fun answer => (next ((view.answer op).symm answer)).translate

/-- The parts of a sequential composition look as they do alone. -/
theorem translate_bind (program : Program sig α) (rest : α → Program sig β) :
    (program >>= rest).translate view =
      program.translate view >>= fun value => (rest value).translate view := by
  induction program with
  | done value => rfl
  | perform op next ih => exact congrArg (perform (view.op op)) (funext fun answer => ih _)

variable {view}

/-- What a run looks like is a run of what the program looks like. -/
theorem Run.translate {program : Program sig α} {trace : List sig.Event} {value : α}
    (run : program.Run trace value) :
    (program.translate view).Run (trace.map view.event) value := by
  induction program generalizing trace with
  | done result =>
      obtain ⟨rfl, rfl⟩ := run_done.mp run
      exact .refl _
  | perform op next ih =>
      obtain ⟨answer, rest, rfl, later⟩ := run_perform.mp run
      refine run_perform.mpr ⟨view.answer op answer, rest.map view.event, rfl, ?_⟩
      rw [Equiv.symm_apply_apply]
      exact ih answer later

/-- A run of what a program looks like is what one of its runs looks like. -/
theorem Run.of_translate {program : Program sig α} {seen : List sig'.Event} {value : α}
    (run : (program.translate view).Run seen value) :
    ∃ trace, trace.map view.event = seen ∧ program.Run trace value := by
  induction program generalizing seen with
  | done result =>
      obtain ⟨rfl, rfl⟩ := run_done.mp run
      exact ⟨[], rfl, .refl _⟩
  | perform op next ih =>
      obtain ⟨answer, rest, rfl, later⟩ := run_perform.mp run
      obtain ⟨trace, rfl, before⟩ := ih _ later
      refine ⟨⟨op, (view.answer op).symm answer⟩ :: trace, ?_, .perform before⟩
      rw [List.map_cons, Signature.View.event, Equiv.apply_symm_apply]

variable (view) in
/-- The programs cannot be told apart. -/
def Alike (program other : Program sig α) : Prop :=
  program.translate view = other.translate view

namespace Alike

variable {program other : Program sig α}

/-- A program is like itself. -/
theorem refl (program : Program sig α) : Alike view program program := rfl

/-- Calls of one operation are alike if what follows is, whatever the answer. -/
theorem call {op : sig.Op} {rest rest' : sig.Answer op → Program sig α}
    (later : ∀ answer, Alike view (rest answer) (rest' answer)) :
    Alike view (call op >>= rest) (call op >>= rest') :=
  congrArg (perform (view.op op)) (funext fun _ => later _)

/-- Programs one after the other are alike if their parts are. -/
theorem bind {rest rest' : α → Program sig β} (first : Alike view program other)
    (later : ∀ value, Alike view (rest value) (rest' value)) :
    Alike view (program >>= rest) (other >>= rest') := by
  rw [Alike, translate_bind, translate_bind, first]
  exact congrArg _ (funext later)

/-- **Programs that look alike have runs that look alike.** -/
theorem exists_run (alike : Alike view program other) {trace : List sig.Event} {value : α}
    (run : program.Run trace value) :
    ∃ trace', trace'.map view.event = trace.map view.event ∧ other.Run trace' value :=
  Run.of_translate (alike ▸ run.translate)

end Alike

end Program

end Foundation
