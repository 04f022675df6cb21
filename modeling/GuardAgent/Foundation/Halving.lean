import Mathlib.Data.List.Flatten
import Mathlib.Data.List.Infix
import Mathlib.Data.List.Nodup

/-!
# Sending a batch by halving

A batch is sent whole. When it is too large and holds more than one item it is
halved: the left half is sent in the same way and, unless that failed, then the
right half. `Foundation.Halving` describes the sends this makes. An item is
finished by a send that was acknowledged or rejected, or that was too large with
this item alone. A confirmed batch is finished item by item, each once and in
order (`Foundation.Halving.finished_of_confirmed`); a failed one up to a prefix
(`Foundation.Halving.finished_of_failed`); and a finished item is not sent again
(`Foundation.Halving.pairwise_finished`).
-/

namespace Foundation

/-- How one send of a batch was answered. -/
inductive Reply where
  | acknowledged
  | rejected
  | tooLarge
  | failed
  deriving DecidableEq

/-- What is reported for a batch as a whole. -/
inductive Verdict where
  | accepted
  | dropped
  | failed
  deriving DecidableEq

/-- The verdict on a batch that is not halved. -/
def Reply.verdict : Reply → Verdict
  | .acknowledged => .accepted
  | .rejected => .dropped
  | .tooLarge => .dropped
  | .failed => .failed

variable {α : Type*}

/-- One send of a batch. -/
structure Sent (α : Type*) where
  batch : List α
  reply : Reply

/-- The items a send finished. -/
def Sent.finished (sent : Sent α) : List α :=
  match sent.reply with
  | .acknowledged => sent.batch
  | .rejected => sent.batch
  | .tooLarge => if sent.batch.length ≤ 1 then sent.batch else []
  | .failed => []

/-- The items a send was acknowledged for. -/
def Sent.delivered (sent : Sent α) : List α :=
  if sent.reply = .acknowledged then sent.batch else []

/-- What is delivered of a call is part of what it finished. -/
theorem Sent.delivered_sublist (sent : Sent α) : sent.delivered.Sublist sent.finished := by
  obtain ⟨batch, reply⟩ := sent
  cases reply with
  | acknowledged => exact List.Sublist.refl _
  | rejected => exact List.nil_sublist _
  | tooLarge => exact List.nil_sublist _
  | failed => exact List.nil_sublist _

/-- What a call finished is part of its batch. -/
theorem Sent.finished_subset (sent : Sent α) : sent.finished ⊆ sent.batch := by
  unfold finished
  split
  · exact List.Subset.refl _
  · exact List.Subset.refl _
  · split
    · exact List.Subset.refl _
    · exact List.nil_subset _
  · exact List.nil_subset _

/-- The sends made for a batch, in order, and the verdict reported for it. -/
inductive Halving : List α → List (Sent α) → Verdict → Prop where
  | whole {batch : List α} {reply : Reply} (kept : reply = .tooLarge → batch.length ≤ 1) :
      Halving batch [⟨batch, reply⟩] reply.verdict
  | leftFailed {batch : List α} {sends : List (Sent α)} (several : 1 < batch.length) :
      Halving (batch.take (batch.length / 2)) sends .failed →
      Halving batch (⟨batch, .tooLarge⟩ :: sends) .failed
  | both {batch : List α} {first second : List (Sent α)} {left right : Verdict}
      (several : 1 < batch.length) (confirmed : left ≠ .failed) :
      Halving (batch.take (batch.length / 2)) first left →
      Halving (batch.drop (batch.length / 2)) second right →
      Halving batch (⟨batch, .tooLarge⟩ :: (first ++ second)) right

namespace Halving

variable {batch : List α} {sends : List (Sent α)} {verdict : Verdict}

/-- Halving a batch of several items finishes nothing yet. -/
private theorem finished_split (several : 1 < batch.length) :
    (⟨batch, .tooLarge⟩ : Sent α).finished = [] := by
  simp only [Sent.finished, Nat.not_le.mpr several, ↓reduceIte]

/-- **A confirmed batch is finished**, each item once and in order. -/
theorem finished_of_confirmed (halving : Halving batch sends verdict)
    (confirmed : verdict ≠ .failed) : sends.flatMap Sent.finished = batch := by
  induction halving with
  | @whole batch reply kept =>
      cases reply with
      | acknowledged => simp [Sent.finished]
      | rejected => simp [Sent.finished]
      | tooLarge => simp [Sent.finished, kept rfl]
      | failed => exact (confirmed rfl).elim
  | leftFailed _ _ _ => exact (confirmed rfl).elim
  | both several leftConfirmed _ _ ihLeft ihRight =>
      rw [List.flatMap_cons, finished_split several, List.nil_append, List.flatMap_append,
        ihLeft leftConfirmed, ihRight confirmed, List.take_append_drop]

/-- **A failed batch is finished up to a prefix**, each item of it once and in order. -/
theorem finished_of_failed (halving : Halving batch sends verdict) (failed : verdict = .failed) :
    ∃ count, sends.flatMap Sent.finished = batch.take count := by
  induction halving with
  | @whole batch reply kept =>
      refine ⟨0, ?_⟩
      cases reply <;> simp_all [Reply.verdict, Sent.finished]
  | @leftFailed batch sends several _ ih =>
      obtain ⟨count, finished⟩ := ih rfl
      refine ⟨min count (batch.length / 2), ?_⟩
      rw [List.flatMap_cons, finished_split several, List.nil_append, finished, List.take_take]
  | @both batch first second left right several leftConfirmed leftRun _ _ ihRight =>
      obtain ⟨count, finished⟩ := ihRight failed
      refine ⟨batch.length / 2 + count, ?_⟩
      rw [List.flatMap_cons, finished_split several, List.nil_append, List.flatMap_append,
        leftRun.finished_of_confirmed leftConfirmed, finished, List.take_add]

/-- Every send is of a contiguous part of the batch. -/
theorem batch_infix (halving : Halving batch sends verdict) :
    ∀ sent ∈ sends, sent.batch <:+: batch := by
  induction halving with
  | whole _ =>
      intro sent member
      obtain rfl := List.mem_singleton.mp member
      exact List.infix_rfl
  | leftFailed _ _ ih =>
      intro sent member
      rcases List.mem_cons.mp member with rfl | later
      · exact List.infix_rfl
      · exact (ih sent later).trans (List.take_prefix _ _).isInfix
  | both _ _ _ _ ihLeft ihRight =>
      intro sent member
      rcases List.mem_cons.mp member with rfl | later
      · exact List.infix_rfl
      · rcases List.mem_append.mp later with left | right
        · exact (ihLeft sent left).trans (List.take_prefix _ _).isInfix
        · exact (ihRight sent right).trans (List.drop_suffix _ _).isInfix

private theorem half_ne_nil (several : 1 < batch.length) :
    batch.take (batch.length / 2) ≠ [] ∧ batch.drop (batch.length / 2) ≠ [] := by
  constructor
  · rw [← List.length_pos_iff, List.length_take]
    omega
  · rw [← List.length_pos_iff, List.length_drop]
    omega

/-- No send is empty. -/
theorem batch_ne_nil (halving : Halving batch sends verdict) (nonempty : batch ≠ []) :
    ∀ sent ∈ sends, sent.batch ≠ [] := by
  induction halving with
  | whole _ =>
      intro sent member
      obtain rfl := List.mem_singleton.mp member
      exact nonempty
  | leftFailed several _ ih =>
      intro sent member
      rcases List.mem_cons.mp member with rfl | later
      · exact nonempty
      · exact ih (half_ne_nil several).1 sent later
  | both several _ _ _ ihLeft ihRight =>
      intro sent member
      rcases List.mem_cons.mp member with rfl | later
      · exact nonempty
      · rcases List.mem_append.mp later with left | right
        · exact ihLeft (half_ne_nil several).1 sent left
        · exact ihRight (half_ne_nil several).2 sent right

/-- A batch of `n` items takes at most `2n - 1` sends. -/
theorem length_lt (halving : Halving batch sends verdict) (nonempty : batch ≠ []) :
    sends.length < 2 * batch.length := by
  induction halving with
  | @whole batch reply _ =>
      have positive := List.length_pos_iff.mpr nonempty
      rw [List.length_singleton]
      omega
  | @leftFailed batch sends several _ ih =>
      have left := ih (half_ne_nil several).1
      rw [List.length_take] at left
      rw [List.length_cons]
      omega
  | @both batch first second _ _ several _ _ _ ihLeft ihRight =>
      have left := ihLeft (half_ne_nil several).1
      have right := ihRight (half_ne_nil several).2
      rw [List.length_take] at left
      rw [List.length_drop] at right
      rw [List.length_cons, List.length_append]
      omega

/-- Something of an accepted batch was delivered. -/
theorem delivered_of_accepted (halving : Halving batch sends verdict) (nonempty : batch ≠ [])
    (accepted : verdict = .accepted) : sends.flatMap Sent.delivered ≠ [] := by
  induction halving with
  | @whole batch reply _ =>
      cases reply with
      | acknowledged =>
          rw [List.flatMap_singleton]
          exact nonempty
      | rejected => cases accepted
      | tooLarge => cases accepted
      | failed => cases accepted
  | leftFailed _ _ _ => cases accepted
  | both several _ _ _ _ ihRight =>
      intro none
      rw [List.flatMap_cons, List.flatMap_append, List.append_eq_nil_iff,
        List.append_eq_nil_iff] at none
      exact ihRight (half_ne_nil several).2 accepted none.2.2

/-- Not all of a dropped batch was delivered. -/
theorem delivered_of_dropped (halving : Halving batch sends verdict) (nonempty : batch ≠ [])
    (dropped : verdict = .dropped) : (sends.flatMap Sent.delivered).length < batch.length := by
  induction halving with
  | @whole batch reply _ =>
      have positive := List.length_pos_iff.mpr nonempty
      cases reply with
      | acknowledged => cases dropped
      | rejected => exact positive
      | tooLarge => exact positive
      | failed => cases dropped
  | leftFailed _ _ _ => cases dropped
  | @both batch first second left right several confirmed leftRun _ _ ihRight =>
      have fewer := ihRight (half_ne_nil several).2 dropped
      have part := (List.Sublist.flatMap_right first fun sent _ => sent.delivered_sublist).length_le
      rw [leftRun.finished_of_confirmed confirmed, List.length_take] at part
      rw [List.length_drop] at fewer
      have none : (⟨batch, .tooLarge⟩ : Sent α).delivered = [] := rfl
      rw [List.flatMap_cons, none, List.nil_append, List.flatMap_append, List.length_append]
      omega

/-- **A finished item is not sent again.** -/
theorem pairwise_finished (halving : Halving batch sends verdict) (distinct : batch.Nodup) :
    sends.Pairwise fun earlier later => ∀ item ∈ earlier.finished, item ∉ later.batch := by
  induction halving with
  | whole _ => exact List.pairwise_singleton _ _
  | leftFailed several _ ih =>
      refine List.pairwise_cons.mpr ⟨fun later _ item finished => ?_,
        ih (distinct.sublist (List.take_sublist _ _))⟩
      rw [finished_split several] at finished
      exact (List.not_mem_nil finished).elim
  | @both batch first second _ _ several _ leftRun rightRun ihLeft ihRight =>
      refine List.pairwise_cons.mpr ⟨fun later _ item finished => ?_, ?_⟩
      · rw [finished_split several] at finished
        exact (List.not_mem_nil finished).elim
      · refine List.pairwise_append.mpr ⟨ihLeft (distinct.sublist (List.take_sublist _ _)),
          ihRight (distinct.sublist (List.drop_sublist _ _)), ?_⟩
        intro earlier inLeft later inRight item finished sentAgain
        have left : item ∈ batch.take (batch.length / 2) :=
          (leftRun.batch_infix earlier inLeft).subset (earlier.finished_subset finished)
        have right : item ∈ batch.drop (batch.length / 2) :=
          (rightRun.batch_infix later inRight).subset sentAgain
        exact List.disjoint_take_drop distinct le_rfl left right

end Halving

end Foundation
