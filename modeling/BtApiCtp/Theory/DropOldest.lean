/-
# Theory.DropOldest -- a bounded queue that drops its oldest entry

A queue that is full makes room by dropping the entry at its head, and remembers that it
did until entries are taken out of it again.  The producer numbers its entries; `Follows`
says of the numbers what the queue itself does not know: which entries are in it, and that
the loss it remembers is exactly the entries between the last one taken and its head.
-/
import Mathlib.Data.List.Range

namespace BtApiCtp.Theory

variable {limit : Nat}

/-- At most `capacity` entries, the oldest first. -/
structure DropOldest (α : Type) (capacity : Nat) where
  items : List α
  /-- An entry was dropped since entries were last taken. -/
  lossPending : Bool
  droppedOldest : Nat
  bounded : items.length ≤ capacity

namespace DropOldest

variable {α : Type} {capacity : Nat}

def empty : DropOldest α capacity := ⟨[], false, 0, Nat.zero_le _⟩

variable {items : List α} {item : α}

theorem length_append_le (bounded : items.length ≤ capacity) (room : items.length ≠ capacity) :
    (items ++ [item]).length ≤ capacity := by
  rw [List.length_append, List.length_singleton]
  omega

theorem length_tail_append_le (bounded : items.length ≤ capacity) (positive : 0 < capacity) :
    (items.tail ++ [item]).length ≤ capacity := by
  rw [List.length_append, List.length_singleton, List.length_tail]
  omega

/-- Append an entry, at the cost of the oldest one if there is no room. -/
def put (positive : 0 < capacity) (queue : DropOldest α capacity) (item : α) :
    DropOldest α capacity :=
  if full : queue.items.length = capacity then
    ⟨queue.items.tail ++ [item], true, queue.droppedOldest + 1,
      length_tail_append_le queue.bounded positive⟩
  else
    { queue with
      items := queue.items ++ [item]
      bounded := length_append_le queue.bounded full }

/-- Take up to `limit` entries, with the loss that precedes the first of them. -/
def drain (queue : DropOldest α capacity) (limit : Nat) : (List α × Bool) × DropOldest α capacity :=
  let taken := queue.items.take limit
  let loss := queue.lossPending && !taken.isEmpty
  ((taken, loss), ⟨queue.items.drop limit, if loss then false else queue.lossPending,
    queue.droppedOldest, by rw [List.length_drop]; exact (Nat.sub_le ..).trans queue.bounded⟩)

/-- A drain that found nothing has changed nothing. -/
theorem drain_eq_self {queue : DropOldest α capacity} (positive : 0 < limit)
    (none : (queue.drain limit).1.1 = []) : (queue.drain limit).2 = queue := by
  obtain ⟨items, pending, dropped, bounded⟩ := queue
  obtain rfl : items = [] := (List.take_eq_nil_iff.mp none).resolve_left positive.ne'
  simp [drain]

/-! ## Numbered entries -/

section

variable (number : α → Nat)

/-- Entries were numbered up to `next` and taken up to `taken`: the queue has those from
`head` on, in order, and a pending loss where there are some before `head`. -/
structure Follows (queue : DropOldest α capacity) (taken head next : Nat) : Prop where
  numbered : queue.items.map number = List.range' head queue.items.length
  next_eq : next = head + queue.items.length
  taken_le : taken ≤ head
  loss : queue.lossPending = true ↔ taken < head

variable {number} {queue : DropOldest α capacity} {taken head next : Nat}

theorem follows_empty : (empty : DropOldest α capacity).Follows number 0 0 0 where
  numbered := rfl
  next_eq := rfl
  taken_le := le_rfl
  loss := by simp [empty]

theorem Follows.put (positive : 0 < capacity) (follows : queue.Follows number taken head next)
    (item : α) (fresh : number item = next) :
    ∃ head', (queue.put positive item).Follows number taken head' (next + 1) := by
  obtain ⟨numbered, next_eq, taken_le, loss⟩ := follows
  unfold DropOldest.put
  split
  · rename_i full
    refine ⟨head + 1, ?_, ?_, by omega, by simp only [true_iff]; omega⟩
    · rw [List.map_append, List.map_tail, numbered, List.tail_range', List.map_singleton, fresh,
        next_eq, List.length_append, List.length_tail, List.length_singleton,
        List.range'_1_concat]
      have last : head + queue.items.length = head + 1 + (queue.items.length - 1) := by omega
      rw [last]
    · simp only [List.length_append, List.length_tail, List.length_singleton]
      omega
  · refine ⟨head, ?_, ?_, taken_le, loss⟩
    · rw [List.map_append, numbered, List.map_singleton, fresh, next_eq, List.length_append,
        List.length_singleton, List.range'_1_concat]
    · rw [List.length_append, List.length_singleton, next_eq, Nat.add_assoc]

/-- What a drain takes: consecutive entries from the head on, with the loss between the last
one taken before and the first one taken now. -/
theorem Follows.drain (follows : queue.Follows number taken head next) (limit : Nat) :
    (queue.drain limit).1.1.map number = List.range' head (queue.drain limit).1.1.length ∧
      ((queue.drain limit).1.2 = true ↔ (queue.drain limit).1.1 ≠ [] ∧ taken < head) := by
  obtain ⟨numbered, -, -, loss⟩ := follows
  constructor
  · rw [DropOldest.drain, List.map_take, numbered]
    apply List.ext_getElem
    · simp
    · intro index _ _
      simp
  · simp only [DropOldest.drain, Bool.and_eq_true, loss, Bool.not_eq_true',
      List.isEmpty_eq_false_iff, ne_eq, and_comm]

theorem Follows.drained (follows : queue.Follows number taken head next)
    (some : (queue.drain limit).1.1 ≠ []) :
    (queue.drain limit).2.Follows number (head + (queue.drain limit).1.1.length)
      (head + (queue.drain limit).1.1.length) next := by
  obtain ⟨numbered, next_eq, taken_le, loss⟩ := follows
  have count : (queue.drain limit).1.1.length = min limit queue.items.length := List.length_take
  rw [count]
  refine ⟨?_, ?_, le_rfl, ?_⟩
  · simp only [DropOldest.drain, List.map_drop, numbered, List.drop_range', List.length_drop]
    rcases Nat.le_total limit queue.items.length with enough | short
    · rw [Nat.min_eq_left enough, Nat.mul_one]
    · rw [Nat.sub_eq_zero_of_le short, List.range'_zero, List.range'_zero]
  · simp only [DropOldest.drain, List.length_drop]
    omega
  · have present : (queue.items.take limit).isEmpty = false := by
      simpa [DropOldest.drain] using some
    simp only [DropOldest.drain, present, Bool.not_false, Bool.and_true, lt_self_iff_false]
    cases queue.lossPending <;> simp

end

end DropOldest

end BtApiCtp.Theory
