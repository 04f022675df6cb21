import Mathlib.Algebra.Order.Group.Multiset
import Mathlib.Data.List.Basic

/-!
# The buffer of one kind

Buffered items with their persistence keys, drained batches, and the requeue of a
failed batch.
-/

namespace GuardAgent

/-- `BufferedItem`. -/
structure BufferedItem (T : Type) where
  item : T
  redisKey : Option String

/-- A drained batch: the items that are sent and, position by position, their keys. -/
structure Batch (T : Type) where
  items : List T
  keys : List (Option String)
  aligned : items.length = keys.length

variable {T : Type}

namespace Batch

/-- The items paired with their keys again. -/
def entries (batch : Batch T) : List (BufferedItem T) :=
  List.zipWith BufferedItem.mk batch.items batch.keys

/-- A batch has one entry for each of its items. -/
theorem length_entries (batch : Batch T) : batch.entries.length = batch.items.length := by
  rw [entries, List.length_zipWith, ← batch.aligned, Nat.min_self]

/-- The entries of a batch pair its items with their keys. -/
theorem entries_eq (batch : Batch T) :
    batch.entries = (batch.items.zip batch.keys).map fun pair => ⟨pair.1, pair.2⟩ :=
  (List.map_uncurry_zip_eq_zipWith ..).symm

/-- The entries of a batch carry its items. -/
theorem map_item_entries (batch : Batch T) : batch.entries.map BufferedItem.item = batch.items := by
  rw [entries_eq, List.map_map]
  exact List.map_fst_zip batch.aligned.le

/-- The entries of a batch carry its keys. -/
theorem map_redisKey_entries (batch : Batch T) :
    batch.entries.map BufferedItem.redisKey = batch.keys := by
  rw [entries_eq, List.map_map]
  exact List.map_snd_zip batch.aligned.ge

end Batch

/-- `drain`: the whole buffer as a batch, and the counter of flushed items. -/
def drain (deque : List (BufferedItem T)) (counter : ℕ) :
    Batch T × List (BufferedItem T) × ℕ :=
  (⟨deque.map BufferedItem.item, deque.map BufferedItem.redisKey, by
    rw [List.length_map, List.length_map]⟩, [], counter + deque.length)

/-- The batch that a drain returns has the buffered entries. -/
theorem entries_drain (deque : List (BufferedItem T)) (counter : ℕ) :
    (drain deque counter).1.entries = deque := by
  change List.zipWith BufferedItem.mk (deque.map BufferedItem.item)
    (deque.map BufferedItem.redisKey) = deque
  induction deque with
  | nil => rfl
  | cons entry deque ih => rw [List.map_cons, List.map_cons, List.zipWith_cons_cons, ih]

/-- The state of the requeue loop. Of the evicted items the code keeps the keys only. -/
structure Requeued (T : Type) where
  deque : List (BufferedItem T)
  dropped : ℕ
  evicted : List (BufferedItem T)

/-- One round of the requeue loop: make room at the back, push to the front. -/
def requeueItem (capacity : ℕ) (state : Requeued T) (entry : BufferedItem T) : Requeued T :=
  let roomy := if capacity ≤ state.deque.length then
      match state.deque.getLast? with
      | some victim =>
          ⟨state.deque.dropLast, state.dropped + 1, state.evicted ++ [victim]⟩
      | none => state
    else state
  { roomy with deque := entry :: roomy.deque }

/-- `requeue`: the batch goes back to the front, last item first. -/
def requeue (capacity : ℕ) (deque : List (BufferedItem T)) (batch : Batch T) (dropped : ℕ) :
    Requeued T :=
  batch.entries.reverse.foldl (requeueItem capacity) ⟨deque, dropped, []⟩

/-- Requeuing one entry adds it to the deque or the evicted ones, and counts what it evicts. -/
theorem requeueItem_balance (capacity : ℕ) (state : Requeued T) (entry : BufferedItem T) :
    ((requeueItem capacity state entry).deque : Multiset (BufferedItem T)) +
        (requeueItem capacity state entry).evicted = entry ::ₘ (state.deque + state.evicted) ∧
      (requeueItem capacity state entry).dropped + state.evicted.length =
        state.dropped + (requeueItem capacity state entry).evicted.length := by
  unfold requeueItem
  split
  · split
    · next victim last =>
        obtain ⟨front, split⟩ := List.getLast?_eq_some_iff.mp last
        simp only [split, List.dropLast_concat, ← Multiset.cons_coe, ← Multiset.coe_add]
        constructor
        · rw [Multiset.cons_add, add_assoc, add_comm (state.evicted : Multiset (BufferedItem T))]
        · rw [List.length_append, List.length_singleton]
          omega
    · exact ⟨by rw [← Multiset.cons_coe, Multiset.cons_add], rfl⟩
  · exact ⟨by rw [← Multiset.cons_coe, Multiset.cons_add], rfl⟩

/-- **Requeueing loses nothing**: what does not fit is evicted and counted as dropped. -/
theorem requeue_balance (capacity : ℕ) (deque : List (BufferedItem T)) (batch : Batch T)
    (dropped : ℕ) :
    ((requeue capacity deque batch dropped).deque : Multiset (BufferedItem T)) +
        (requeue capacity deque batch dropped).evicted = deque + batch.entries ∧
      (requeue capacity deque batch dropped).dropped =
        dropped + (requeue capacity deque batch dropped).evicted.length := by
  have folded (entries : List (BufferedItem T)) (state : Requeued T) :
      ((entries.foldl (requeueItem capacity) state).deque : Multiset (BufferedItem T)) +
          (entries.foldl (requeueItem capacity) state).evicted =
        state.deque + state.evicted + entries ∧
      (entries.foldl (requeueItem capacity) state).dropped + state.evicted.length =
        state.dropped + (entries.foldl (requeueItem capacity) state).evicted.length := by
    induction entries generalizing state with
    | nil => exact ⟨(add_zero _).symm, rfl⟩
    | cons entry entries ih =>
        obtain ⟨items, counted⟩ := ih (requeueItem capacity state entry)
        obtain ⟨item, count⟩ := requeueItem_balance capacity state entry
        rw [List.foldl_cons]
        constructor
        · rw [items, item, ← Multiset.cons_coe, Multiset.cons_add, Multiset.add_cons]
        · omega
  obtain ⟨items, counted⟩ := folded batch.entries.reverse ⟨deque, dropped, []⟩
  constructor
  · rw [requeue, items, Multiset.coe_nil, add_zero, Multiset.coe_reverse]
  · exact (Nat.add_zero _).symm.trans counted

/-- One round of the loop, when the buffer holds the first entries of a list and the others
were evicted, the newest first. -/
theorem requeueItem_eq {capacity : ℕ} (positive : 0 < capacity) (entries : List (BufferedItem T))
    (entry : BufferedItem T) (dropped : ℕ) :
    requeueItem capacity ⟨entries.take capacity, dropped + (entries.length - capacity),
        (entries.drop capacity).reverse⟩ entry =
      ⟨(entry :: entries).take capacity, dropped + ((entry :: entries).length - capacity),
        ((entry :: entries).drop capacity).reverse⟩ := by
  obtain ⟨kept, rfl⟩ := Nat.exists_eq_add_of_lt positive
  rw [Nat.zero_add]
  unfold requeueItem
  by_cases full : kept + 1 ≤ entries.length
  · have bound : kept < entries.length := full
    have front : entries.take (kept + 1) = entries.take kept ++ [entries[kept]] :=
      (List.take_concat_get' entries kept bound).symm
    have last : entries.drop kept = entries[kept] :: entries.drop (kept + 1) :=
      List.drop_eq_getElem_cons bound
    have length : (entries.take (kept + 1)).length = kept + 1 := List.length_take_of_le full
    simp only [length, le_refl, ↓reduceIte]
    rw [front, List.getLast?_concat]
    simp only [List.dropLast_concat, List.take_succ_cons, List.drop_succ_cons, List.length_cons]
    rw [last, List.reverse_cons]
    congr 1
    omega
  · have all : entries.take (kept + 1) = entries := List.take_of_length_le (by omega)
    have none : entries.drop (kept + 1) = [] := List.drop_of_length_le (by omega)
    have none' : entries.drop kept = [] := List.drop_of_length_le (by omega)
    have all' : entries.take kept = entries := List.take_of_length_le (by omega)
    simp only [all, none, full, ↓reduceIte, List.take_succ_cons, List.drop_succ_cons, none', all',
      List.length_cons]
    congr 1
    omega

/-- **What requeueing leaves**: the first entries of the batch followed by the buffer, as many
as fit; the others are evicted, the newest first. -/
theorem requeue_eq {capacity : ℕ} (positive : 0 < capacity) (deque : List (BufferedItem T))
    (fits : deque.length ≤ capacity) (batch : Batch T) (dropped : ℕ) :
    requeue capacity deque batch dropped =
      ⟨(batch.entries ++ deque).take capacity,
        dropped + ((batch.entries ++ deque).length - capacity),
        ((batch.entries ++ deque).drop capacity).reverse⟩ := by
  unfold requeue
  induction batch.entries with
  | nil =>
      rw [List.nil_append, List.take_of_length_le fits, List.drop_of_length_le fits,
        Nat.sub_eq_zero_of_le fits]
      rfl
  | cons entry entries ih =>
      rw [List.reverse_cons, List.foldl_append, ih, List.foldl_cons, List.foldl_nil,
        List.cons_append]
      exact requeueItem_eq positive _ entry dropped

/-- **The specification of requeueing.** On a buffer within its capacity, and for a batch of
any length: the buffer is then the first entries of the batch and the old buffer, items with
their own keys; the rest is counted as dropped, and its keys are returned, the last first. -/
theorem requeue_specification {capacity : ℕ} (positive : 0 < capacity)
    (deque : List (BufferedItem T)) (fits : deque.length ≤ capacity) (batch : Batch T)
    (dropped : ℕ) :
    let requeued := requeue capacity deque batch dropped
    requeued.deque = (batch.entries ++ deque).take capacity ∧
      requeued.dropped = dropped + (batch.items.length + deque.length - capacity) ∧
      requeued.evicted.map BufferedItem.redisKey =
        (((batch.entries ++ deque).map BufferedItem.redisKey).drop capacity).reverse := by
  intro requeued
  have closed : requeued = _ := requeue_eq positive deque fits batch dropped
  rw [List.length_append, Batch.length_entries] at closed
  refine ⟨congrArg Requeued.deque closed, congrArg Requeued.dropped closed, ?_⟩
  rw [congrArg Requeued.evicted closed, List.map_reverse, List.map_drop]

/-- Of a batch that is longer than the capacity an item is evicted that was just put back. -/
theorem requeue_specification_overlong :
    let batch : Batch ℕ := ⟨[1, 2, 3], [some "a", none, some "c"], rfl⟩
    let requeued := requeue 2 [⟨7, some "x"⟩, ⟨8, none⟩] batch 5
    requeued.deque = [⟨1, some "a"⟩, ⟨2, none⟩] ∧ requeued.dropped = 8 ∧
      requeued.evicted.map BufferedItem.redisKey = [none, some "x", some "c"] :=
  @requeue_specification ℕ 2 (by decide) [⟨7, some "x"⟩, ⟨8, none⟩] (by decide)
    ⟨[1, 2, 3], [some "a", none, some "c"], rfl⟩ 5

end GuardAgent
