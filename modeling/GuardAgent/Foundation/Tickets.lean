import GuardAgent.Foundation.Program

/-!
# Programs that work with tickets

Some operations of a program use up a ticket, and some answers grant one. A program is
`Program.Ticketed` when it performs such an operation only with a ticket in hand, and holds
at most one. Whoever performs its operations then performs at most as many of them as tickets
were granted, but for the one in hand (`Program.tickets_next`).
-/

namespace Foundation

/-- Which operations use up a ticket, and which answers grant one. -/
structure Ticketing (sig : Signature) where
  uses : sig.Op → Bool
  grants : sig.Event → Bool

namespace Program

variable {sig : Signature} {α β : Type} (ticketing : Ticketing sig)

/-- The program, with or without a ticket in hand, never performs an operation that uses up a
ticket without one. -/
def Ticketed : Bool → Program sig α → Prop
  | _, done _ => True
  | held, perform op next =>
      (ticketing.uses op = true → held = true) ∧
      ∀ answer, (next answer).Ticketed (ticketing.grants ⟨op, answer⟩ || held && !ticketing.uses op)

variable {ticketing} {held : Bool}

/-- A ticket in hand does no harm. -/
theorem Ticketed.mono {program : Program sig α} (ticketed : program.Ticketed ticketing false) :
    program.Ticketed ticketing held := by
  cases held with
  | false => exact ticketed
  | true =>
      induction program with
      | done value => trivial
      | perform op next ih =>
          obtain ⟨unused, later⟩ := ticketed
          refine ⟨fun _ => rfl, fun answer => ?_⟩
          have rest := later answer
          rw [Bool.false_and, Bool.or_false] at rest
          cases granted : ticketing.grants ⟨op, answer⟩ with
          | true => rwa [granted] at rest
          | false =>
              rw [granted] at rest
              rw [Bool.false_or, Bool.true_and]
              cases ticketing.uses op with
              | true => exact rest
              | false => exact ih answer rest

/-- The rule of an operation that needs no ticket and grants none. -/
theorem Ticketed.call {op : sig.Op} {rest : sig.Answer op → Program sig α}
    (free : ticketing.uses op = false)
    (later : ∀ answer, (rest answer).Ticketed ticketing false) :
    (Program.call op >>= rest).Ticketed ticketing held :=
  ⟨fun uses => absurd (free.symm.trans uses) Bool.false_ne_true, fun answer => (later answer).mono⟩

/-- The rule of an operation that may grant a ticket. -/
theorem Ticketed.grant {op : sig.Op} {rest : sig.Answer op → Program sig α}
    (free : ticketing.uses op = false)
    (later : ∀ answer, (rest answer).Ticketed ticketing (ticketing.grants ⟨op, answer⟩ || held)) :
    (Program.call op >>= rest).Ticketed ticketing held := by
  refine ⟨fun uses => absurd (free.symm.trans uses) Bool.false_ne_true, fun answer => ?_⟩
  rw [free, Bool.not_false, Bool.and_true]
  exact later answer

/-- The rule of an operation that uses up the ticket. -/
theorem Ticketed.use {op : sig.Op} {rest : sig.Answer op → Program sig α}
    (later : ∀ answer, (rest answer).Ticketed ticketing false) :
    (Program.call op >>= rest).Ticketed ticketing true :=
  ⟨fun _ => rfl, fun answer => (later answer).mono⟩

/-- The rule of sequential composition: the second program starts without a ticket. -/
theorem Ticketed.bind {program : Program sig α} {rest : α → Program sig β}
    (first : program.Ticketed ticketing held)
    (later : ∀ value, (rest value).Ticketed ticketing false) :
    (program >>= rest).Ticketed ticketing held := by
  induction program generalizing held with
  | done value => exact (later value).mono
  | perform op next ih => exact ⟨first.1, fun answer => ih answer (first.2 answer)⟩

variable (ticketing) in
open Classical in
/-- The tickets that a program must hold. -/
noncomputable def tickets (program : Program sig α) : ℕ :=
  if program.Ticketed ticketing false then 0 else 1

/-- A program needs at most one ticket. -/
theorem tickets_le_one (program : Program sig α) : program.tickets ticketing ≤ 1 := by
  unfold tickets
  split
  · exact Nat.zero_le 1
  · exact Nat.le_refl 1

/-- A program that may begin without a ticket needs none. -/
theorem Ticketed.tickets_eq {program : Program sig α}
    (ticketed : program.Ticketed ticketing false) : program.tickets ticketing = 0 :=
  if_pos ticketed

/-- A program needs no more tickets than it begins with. -/
theorem Ticketed.tickets_le {program : Program sig α} (ticketed : program.Ticketed ticketing held) :
    program.tickets ticketing ≤ held.toNat := by
  cases held with
  | false => exact Nat.le_of_eq ticketed.tickets_eq
  | true => exact program.tickets_le_one

/-- **An operation is paid for by the ticket in hand**, and a granted ticket may be kept. -/
theorem tickets_next {op : sig.Op} {next : sig.Answer op → Program sig α}
    (ticketed : (perform op next).Ticketed ticketing true) (answer : sig.Answer op) :
    (next answer).Ticketed ticketing true ∧
      (next answer).tickets ticketing + (ticketing.uses op).toNat ≤
        (perform op next).tickets ticketing + (ticketing.grants ⟨op, answer⟩).toNat := by
  have later := ticketed.2 answer
  rw [Bool.true_and] at later
  constructor
  · revert later
    cases ticketing.grants ⟨op, answer⟩ || !ticketing.uses op with
    | true => exact id
    | false => exact Ticketed.mono
  by_cases without : (perform op next).Ticketed ticketing false
  · have unused : ticketing.uses op = false :=
      Bool.eq_false_iff.mpr fun uses => Bool.false_ne_true (without.1 uses)
    have rest := without.2 answer
    rw [Bool.false_and, Bool.or_false] at rest
    have few := rest.tickets_le
    rw [without.tickets_eq, unused, Bool.toNat_false]
    omega
  · have holding : (perform op next).tickets ticketing = 1 := if_neg without
    cases used : ticketing.uses op with
    | false =>
        have few := @tickets_le_one sig α ticketing (next answer)
        rw [holding, Bool.toNat_false]
        omega
    | true =>
        rw [used, Bool.not_true, Bool.or_false] at later
        have few := later.tickets_le
        rw [holding, Bool.toNat_true]
        omega

end Program

end Foundation
