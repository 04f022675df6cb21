import Mathlib.Algebra.BigOperators.Pi
import Mathlib.Algebra.BigOperators.Group.Finset.Basic
import Mathlib.Algebra.Order.BigOperators.Group.Finset
import Mathlib.Algebra.Order.Group.Multiset
import Mathlib.Data.Fintype.Basic

/-!
# Custody of items among places

Items enter at one place and are then only handed over from place to place, along
the hand-overs that are allowed. Whatever the hand-overs, the items of all places
together are the items that entered (`Foundation.Moves.total`): none is lost and
none is held twice.
-/

namespace Foundation

variable {Place α : Type*} [DecidableEq Place]

/-- The items each place holds. -/
abbrev Custody (Place α : Type*) := Place → Multiset α

/-- `moved` is handed over from `source` to `target`, and nothing else changes. -/
def HandOver (source target : Place) (moved : Multiset α) (before after : Custody Place α) :
    Prop :=
  after + Pi.single source moved = before + Pi.single target moved

/-- Admissions at `entry` and allowed hand-overs, with the items admitted. -/
inductive Moves (entry : Place) (allowed : Place → Place → Prop) :
    Custody Place α → Multiset α → Custody Place α → Prop where
  | refl (custody : Custody Place α) : Moves entry allowed custody 0 custody
  | enter {before middle : Custody Place α} {admitted : Multiset α} (added : Multiset α) :
      Moves entry allowed before admitted middle →
      Moves entry allowed before (admitted + added) (middle + Pi.single entry added)
  | handOver {before middle after : Custody Place α} {admitted moved : Multiset α}
      {source target : Place} : Moves entry allowed before admitted middle →
      allowed source target → HandOver source target moved middle after →
      Moves entry allowed before admitted after

namespace Moves

variable {entry : Place} {allowed : Place → Place → Prop} {before middle after : Custody Place α}
  {admitted later : Multiset α}

/-- Moves one after the other are moves. -/
theorem trans (first : Moves entry allowed before admitted middle)
    (second : Moves entry allowed middle later after) :
    Moves entry allowed before (admitted + later) after := by
  induction second with
  | refl => simpa only [add_zero] using first
  | enter added _ ih => rw [← add_assoc]; exact .enter added ih
  | handOver _ legal moved ih => exact .handOver ih legal moved

/-- **Nothing is lost and nothing is duplicated.** -/
theorem total [Fintype Place] (moves : Moves entry allowed before admitted after) :
    ∑ place, after place = ∑ place, before place + admitted := by
  induction moves with
  | refl => rw [add_zero]
  | enter added _ ih =>
      simp only [Pi.add_apply, Finset.sum_add_distrib, ih, Finset.sum_pi_single', Finset.mem_univ,
        ↓reduceIte, add_assoc]
  | @handOver middle after admitted moved source target _ _ moved' ih =>
      have balanced : ∑ place, (after + Pi.single source moved : Custody Place α) place =
          ∑ place, (middle + Pi.single target moved : Custody Place α) place := by
        rw [moved']
      simp only [Pi.add_apply, Finset.sum_add_distrib, Finset.sum_pi_single', Finset.mem_univ,
        ↓reduceIte] at balanced
      rw [← ih]
      exact add_right_cancel balanced

end Moves

variable [Fintype Place] {custody : Custody Place α}

/-- When no item occurs twice, every item is in exactly one place. -/
theorem existsUnique_place (distinct : (∑ place, custody place).Nodup) {item : α}
    (member : item ∈ ∑ place, custody place) : ∃! place, item ∈ custody place := by
  obtain ⟨place, _, present⟩ := Multiset.mem_sum.mp member
  refine ⟨place, present, fun other elsewhere => ?_⟩
  by_contra different
  have pair : custody place + custody other ≤ ∑ place, custody place := by
    rw [← Finset.sum_pair (fun same : place = other => different same.symm)]
    exact Finset.sum_le_sum_of_subset (Finset.subset_univ _)
  exact Multiset.disjoint_left.mp (Multiset.nodup_add.mp (Multiset.nodup_of_le pair distinct)).2.2
    present elsewhere

omit [DecidableEq Place] in
/-- When no item occurs twice, no place holds an item twice. -/
theorem nodup_place (distinct : (∑ place, custody place).Nodup) (place : Place) :
    (custody place).Nodup :=
  Multiset.nodup_of_le
    (Finset.single_le_sum (fun _ _ => Multiset.zero_le _) (Finset.mem_univ place)) distinct

end Foundation
