import Mathlib.Data.List.Perm.Subperm

/-!
# One item at a time

A sender puts items on a stream, each behind the others; a worker takes them off the stream,
and gives each of them back on a second stream, at most once, in whatever order it is done with
them.  Where the sender puts an item on the stream only when it has all others back, the order
is no question: there is never a choice.

What is sent, what the worker has and what it has given back are lists of items, and an item is
a list of symbols that is not empty.  `few_of_returned` says that the worker has at most one
item that it has not given back, which needs no more than that the sender has received the
symbols of all items but one.  `in_turn` is the step: the next item the worker gives back is
the only one it can.
-/

namespace ServerLib.Turns

universe u

variable {α : Type u}

/-- Of two fronts of items that are not empty, the one with fewer symbols has no more items. -/
theorem length_le_of_flatten_le {items front other : List (List α)}
    (nonempty : ∀ item ∈ items, item ≠ []) (isFront : front <+: items) (isOther : other <+: items)
    (symbols : front.flatten.length ≤ other.flatten.length) : front.length ≤ other.length := by
  by_contra more
  obtain ⟨rest, rfl⟩ := List.prefix_of_prefix_length_le isOther isFront (by omega)
  rw [List.length_append] at more
  obtain ⟨item, later, rfl⟩ := List.exists_cons_of_ne_nil
    (List.ne_nil_of_length_pos (l := rest) (by omega))
  have symbol := List.length_pos_of_ne_nil
    (nonempty item (isFront.subset (List.mem_append_right _ List.mem_cons_self)))
  rw [List.flatten_append, List.length_append, List.flatten_cons, List.length_append] at symbols
  omega

/-- Where all that was sent but one item has been received back, all that the worker has but
one item has been given back. -/
theorem few_of_returned {items done taken given : List (List α)}
    (nonempty : ∀ item ∈ items, item ≠ []) (isDone : done <+: items)
    (one : items.length ≤ done.length + 1) (isTaken : taken <+: items) (isGiven : given <+: taken)
    (received : done.flatten <+: given.flatten) : taken.length ≤ given.length + 1 := by
  have back := length_le_of_flatten_le nonempty isDone (isGiven.trans isTaken) received.length_le
  have := isTaken.length_le
  omega

/-- **There is no choice.**  Where at most one item is left, the next one given back is that
one. -/
theorem in_turn {ι : Type u} {taken given : List ι} {item : ι} (isGiven : given <+: taken)
    (few : taken.length ≤ given.length + 1) (once : (given ++ [item]).Subperm taken) :
    given ++ [item] = taken := by
  obtain ⟨rest, rfl⟩ := isGiven
  have among : [item].Subperm rest := (List.subperm_append_left given).mp once
  have short : rest.length ≤ [item].length := by
    rw [List.length_append] at few
    exact Nat.le_of_add_le_add_left few
  rw [← List.perm_singleton.mp (among.perm_of_length_le short).symm]

end ServerLib.Turns
