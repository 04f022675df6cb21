import Mathlib.Data.List.Basic

/-!
# Lists in the order of their stamps

Entries carry a stamp. A list is stamped below a bound when the stamps grow from front to
back and all are below the bound, which is the next stamp to be given out.
-/

namespace Foundation

variable {α : Type*} {stamp : α → ℕ}

/-- The stamps grow from front to back, and all are below the bound. -/
structure Stamped (stamp : α → ℕ) (bound : ℕ) (list : List α) : Prop where
  increasing : list.Pairwise fun first second => stamp first < stamp second
  below : ∀ entry ∈ list, stamp entry < bound

namespace Stamped

variable {bound larger : ℕ} {list first second : List α}

/-- An empty list is stamped. -/
theorem nil : Stamped stamp bound [] :=
  ⟨.nil, fun _ member => (List.not_mem_nil member).elim⟩

/-- A larger bound is a bound. -/
theorem mono (stamped : Stamped stamp bound list) (least : bound ≤ larger) :
    Stamped stamp larger list :=
  ⟨stamped.increasing, fun entry member => Nat.lt_of_lt_of_le (stamped.below entry member) least⟩

/-- A part of a stamped list is stamped. -/
theorem sublist (stamped : Stamped stamp bound second) (part : first.Sublist second) :
    Stamped stamp bound first :=
  ⟨stamped.increasing.sublist part, fun entry member => stamped.below entry (part.subset member)⟩

/-- What is stamped in front of what is stamped later. -/
theorem append (front : Stamped stamp bound first) (back : Stamped stamp bound second)
    (before : ∀ entry ∈ first, ∀ later ∈ second, stamp entry < stamp later) :
    Stamped stamp bound (first ++ second) := by
  refine ⟨List.pairwise_append.mpr ⟨front.increasing, back.increasing, before⟩, ?_⟩
  intro entry member
  rcases List.mem_append.mp member with here | there
  · exact front.below entry here
  · exact back.below entry there

/-- The next stamp goes to the back. -/
theorem snoc (stamped : Stamped stamp bound list) {entry : α} (next : stamp entry = bound) :
    Stamped stamp (bound + 1) (list ++ [entry]) := by
  apply (stamped.mono (Nat.le_succ bound)).append
  · refine ⟨List.pairwise_singleton _ _, fun other member => ?_⟩
    rw [List.mem_singleton.mp member, next]
    exact Nat.lt_succ_self bound
  · intro earlier member later here
    rw [List.mem_singleton.mp here, next]
    exact stamped.below earlier member

/-- The front has the least stamp. -/
theorem front_le {front : α} {rest : List α} (stamped : Stamped stamp bound (front :: rest)) :
    ∀ entry ∈ front :: rest, stamp front ≤ stamp entry := by
  intro entry member
  rcases List.mem_cons.mp member with rfl | later
  · exact Nat.le_refl _
  · exact Nat.le_of_lt (List.rel_of_pairwise_cons stamped.increasing later)

/-- What does not fit in front has greater stamps than what does. -/
theorem take_lt_drop (stamped : Stamped stamp bound list) (count : ℕ) :
    ∀ kept ∈ list.take count, ∀ other ∈ list.drop count, stamp kept < stamp other := by
  have increasing := stamped.increasing
  rw [← List.take_append_drop count list] at increasing
  exact (List.pairwise_append.mp increasing).2.2

end Stamped

end Foundation
