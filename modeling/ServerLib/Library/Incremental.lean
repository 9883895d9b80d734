import Mathlib.Data.List.Basic

/-!
# Incremental scanning of a segmented stream

A receiver that cuts items out of a byte stream keeps the bytes it could not
use yet, appends the next segment to them and looks again.  What such a receiver
hands over must not depend on where the network cut the stream.  This module
proves that, once, for every receiver whose *scanner* obeys two laws:

* a found item uses up at least one symbol (`scan_shorter`), so the loop that
  takes items off the front of the buffer ends;
* an item found in a buffer is found unchanged when more symbols arrive behind
  it (`scan_extend`).

`Scanner` carries both laws as fields.  `drain` is the receiver's loop on one
buffer, `feed` the receiver over a list of segments, and `feed_eq_drain` is the
independence theorem: feeding segments is draining their concatenation.
`drain_encoded` is the other half of a round trip: a buffer made of encoded
items drains to exactly those items.

`Cursor` names the positions the loop passes through, which is how a condition
on "the headers the receiver meets" is stated on the buffer alone.
-/

namespace ServerLib.Incremental

universe u v

/-- A scanner looks at the front of a buffer and either takes one item off it or
waits for more symbols. -/
structure Scanner (α : Type u) (β : Type v) where
  /-- The item at the front, with what is left behind it. -/
  scan : List α → Option (β × List α)
  /-- Every item uses up at least one symbol. -/
  scan_shorter : ∀ {buffer item rest},
    scan buffer = some (item, rest) → rest.length < buffer.length
  /-- Later symbols never change an item already complete. -/
  scan_extend : ∀ {buffer item rest} (more : List α),
    scan buffer = some (item, rest) → scan (buffer ++ more) = some (item, rest ++ more)

namespace Scanner

variable {α : Type u} {β : Type v} (S : Scanner α β)

/-- Take items off the front for as long as there is one: the items in order,
and the buffer that is left. -/
def drain (buffer : List α) : List β × List α :=
  match _found : S.scan buffer with
  | none => ([], buffer)
  | some (item, rest) => (item :: (drain rest).1, (drain rest).2)
termination_by buffer.length
decreasing_by all_goals exact S.scan_shorter _found

/-- Receive the segments one after the other, starting from `buffer`. -/
def feed : List α → List (List α) → List β × List α
  | buffer, [] => ([], buffer)
  | buffer, segment :: later =>
      ((S.drain (buffer ++ segment)).1 ++ (feed (S.drain (buffer ++ segment)).2 later).1,
        (feed (S.drain (buffer ++ segment)).2 later).2)

/-- The positions of a buffer at which the loop looks for an item. -/
inductive Cursor (buffer : List α) : List α → Prop where
  | start : Cursor buffer buffer
  | next {position rest : List α} {item : β} : Cursor buffer position →
      S.scan position = some (item, rest) → Cursor buffer rest

variable {S} {buffer position rest more : List α} {item : β}

theorem drain_of_none (waits : S.scan buffer = none) : S.drain buffer = ([], buffer) := by
  rw [drain]
  split
  · rfl
  · next found => rw [waits] at found; cases found

theorem drain_of_some (found : S.scan buffer = some (item, rest)) :
    S.drain buffer = (item :: (S.drain rest).1, (S.drain rest).2) := by
  rw [drain]
  split
  · next waits => rw [found] at waits; cases waits
  · next found' =>
      rw [found] at found'
      cases found'
      rfl

/-- Draining stops only where the scanner waits. -/
theorem scan_drain_snd (buffer : List α) : S.scan (S.drain buffer).2 = none := by
  induction total : buffer.length using Nat.strongRecOn generalizing buffer with
  | ind size ih =>
      cases found : S.scan buffer with
      | none => rwa [drain_of_none found]
      | some entry =>
          obtain ⟨item, rest⟩ := entry
          rw [drain_of_some found]
          exact ih rest.length (total ▸ S.scan_shorter found) rest rfl

/-- Draining a longer buffer first drains its front, then goes on from what the
front left. -/
theorem drain_append (buffer more : List α) :
    S.drain (buffer ++ more) =
      ((S.drain buffer).1 ++ (S.drain ((S.drain buffer).2 ++ more)).1,
        (S.drain ((S.drain buffer).2 ++ more)).2) := by
  induction total : buffer.length using Nat.strongRecOn generalizing buffer with
  | ind size ih =>
      cases found : S.scan buffer with
      | none => simp [drain_of_none found]
      | some entry =>
          obtain ⟨item, rest⟩ := entry
          have tail := ih rest.length (total ▸ S.scan_shorter found) rest rfl
          rw [drain_of_some found, drain_of_some (S.scan_extend more found), tail]
          rfl

/-- **Segmentation does not matter**: feeding segments to a buffer in which the
scanner waits is draining the buffer followed by all of them. -/
theorem feed_eq_drain (segments : List (List α)) :
    ∀ {buffer : List α}, S.scan buffer = none →
      S.feed buffer segments = S.drain (buffer ++ segments.flatten) := by
  induction segments with
  | nil =>
      intro buffer waits
      simp [feed, drain_of_none waits]
  | cons segment later ih =>
      intro buffer _
      rw [feed, ih (scan_drain_snd (buffer ++ segment)), List.flatten_cons,
        ← List.append_assoc, drain_append (buffer ++ segment)]

/-- A buffer of encoded items, followed by symbols in which the scanner waits,
drains to exactly those items and leaves exactly those symbols. -/
theorem drain_encoded {γ : Type*} {encode : γ → List α} {decoded : γ → β} {tail : List α}
    (waits : S.scan tail = none) :
    ∀ items : List γ,
      (∀ item ∈ items, ∀ more, S.scan (encode item ++ more) = some (decoded item, more)) →
      S.drain (items.flatMap encode ++ tail) = (items.map decoded, tail) := by
  intro items
  induction items with
  | nil =>
      intro _
      simpa using drain_of_none waits
  | cons item items ih =>
      intro scans
      have first := scans item (by simp) (items.flatMap encode ++ tail)
      rw [List.flatMap_cons, List.append_assoc, drain_of_some first,
        ih fun later member => scans later (List.mem_cons_of_mem _ member)]
      rfl

namespace Cursor

/-- The positions behind a position are positions of the whole buffer. -/
theorem trans {last : List α} (here : S.Cursor buffer position)
    (later : S.Cursor position last) : S.Cursor buffer last := by
  induction later with
  | start => exact here
  | next _ found ih => exact ih.next found

/-- A position stays a position when symbols arrive behind the buffer. -/
theorem append (here : S.Cursor buffer position) (more : List α) :
    S.Cursor (buffer ++ more) (position ++ more) := by
  induction here with
  | start => exact .start
  | next _ found ih => exact ih.next (S.scan_extend more found)

/-- A position is the buffer itself or a position behind its first item. -/
theorem eq_or_behind (here : S.Cursor buffer position) :
    position = buffer ∨
      ∃ item rest, S.scan buffer = some (item, rest) ∧ S.Cursor rest position := by
  induction here with
  | start => exact Or.inl rfl
  | next _ found ih =>
      rcases ih with rfl | ⟨item, rest, first, later⟩
      · exact Or.inr ⟨_, _, found, .start⟩
      · exact Or.inr ⟨item, rest, first, later.next found⟩

theorem length_le (here : S.Cursor buffer position) : position.length ≤ buffer.length := by
  induction here with
  | start => exact Nat.le_refl _
  | next _ found ih => exact Nat.le_trans (Nat.le_of_lt (S.scan_shorter found)) ih

/-- A test of all positions, one scan at a time. -/
instance decidableForall (P : List α → Prop) [DecidablePred P] (buffer : List α) :
    Decidable (∀ position, S.Cursor buffer position → P position) :=
  match found : S.scan buffer with
  | none =>
      decidable_of_iff (P buffer) (by
        refine ⟨fun holds position here => ?_, fun all => all _ .start⟩
        rcases here.eq_or_behind with rfl | ⟨item, rest, first, -⟩
        · exact holds
        · rw [found] at first
          cases first)
  | some (item, rest) =>
      have := decidableForall P rest
      decidable_of_iff (P buffer ∧ ∀ position, S.Cursor rest position → P position) (by
        refine ⟨fun both position here => ?_, fun all => ⟨all _ .start, fun position there =>
          all position ((Cursor.start.next found).trans there)⟩⟩
        rcases here.eq_or_behind with rfl | ⟨item', rest', first, later⟩
        · exact both.1
        · rw [found] at first
          cases first
          exact both.2 position later)
termination_by buffer.length
decreasing_by exact S.scan_shorter found

end Cursor

/-- The loop stops at one of its positions. -/
theorem cursor_drain_snd (buffer : List α) : S.Cursor buffer (S.drain buffer).2 := by
  induction total : buffer.length using Nat.strongRecOn generalizing buffer with
  | ind size ih =>
      cases found : S.scan buffer with
      | none =>
          rw [drain_of_none found]
          exact .start
      | some entry =>
          obtain ⟨item, rest⟩ := entry
          rw [drain_of_some found]
          exact (Cursor.start.next found).trans
            (ih rest.length (total ▸ S.scan_shorter found) rest rfl)

end Scanner

end ServerLib.Incremental
