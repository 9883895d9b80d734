import Mathlib.Data.List.Induction
import Mathlib.Tactic.Common

/-!
# Laws about histories

**Once over, never again.**  A law about a history that only grows: after an event that
puts an end to something, no later event speaks of it.  What an event ends may depend on
what came before it, so `ends` reads the history in front of the event as well.

`Over` collects what was ended so far, and it is all a proof by steps has to carry: an
event may be appended as soon as it speaks of nothing that is over
(`neverAgain_concat`).

**A history in sections.**  Where the events themselves say what a history is about from
there on, `during` is the part of it that is about one key, in order.  Every event is in
the section of the key current before it (`mem_during_of_current`), and sections grow at
their ends (`during_append`).
-/

namespace ServerLib.History

universe u v

variable {ε : Type u} {κ : Type v}

/-- Some event of the history has put an end to `key`. -/
def Over (ends : List ε → ε → κ → Prop) (history : List ε) (key : κ) : Prop :=
  ∃ front event back, history = front ++ event :: back ∧ ends front event key

/-- Behind an event that ends a key no event speaks of the key. -/
def NeverAgain (ends : List ε → ε → κ → Prop) (speaks : ε → κ → Prop) (history : List ε) :
    Prop :=
  ∀ front event back, history = front ++ event :: back →
    ∀ key, ends front event key → ∀ later ∈ back, ¬ speaks later key

section Rules

variable {ends : List ε → ε → κ → Prop} {speaks : ε → κ → Prop} {history : List ε} {event : ε}

/-- A history with one more event, split at an event: at the new one, or before. -/
theorem concat_eq_split {front back : List ε} {middle : ε} :
    history ++ [event] = front ++ middle :: back ↔
      history = front ∧ event = middle ∧ back = [] ∨
        ∃ rest, back = rest ++ [event] ∧ history = front ++ middle :: rest := by
  constructor
  · intro same
    rcases List.eq_nil_or_concat back with rfl | ⟨rest, last, rfl⟩
    · obtain ⟨front_eq, middle_eq⟩ := List.append_inj' same rfl
      exact Or.inl ⟨front_eq, List.head_eq_of_cons_eq middle_eq, rfl⟩
    · rw [List.concat_eq_append, ← List.cons_append, ← List.append_assoc] at same
      obtain ⟨history_eq, last_eq⟩ := List.append_inj' same rfl
      obtain rfl := List.head_eq_of_cons_eq last_eq
      exact Or.inr ⟨rest, List.concat_eq_append, history_eq⟩
  · rintro (⟨rfl, rfl, rfl⟩ | ⟨rest, rfl, rfl⟩)
    · rfl
    · rw [List.append_assoc, List.cons_append]

theorem not_over_nil (key : κ) : ¬ Over ends [] key := by
  rintro ⟨front, event, back, same, -⟩
  exact absurd same.symm (by simp)

theorem over_concat {key : κ} :
    Over ends (history ++ [event]) key ↔ Over ends history key ∨ ends history event key := by
  constructor
  · rintro ⟨front, middle, back, same, ended⟩
    rcases concat_eq_split.mp same with ⟨rfl, rfl, -⟩ | ⟨rest, -, rfl⟩
    · exact Or.inr ended
    · exact Or.inl ⟨front, middle, rest, rfl, ended⟩
  · rintro (⟨front, middle, rest, rfl, ended⟩ | ended)
    · exact ⟨front, middle, rest ++ [event], by simp, ended⟩
    · exact ⟨history, event, [], rfl, ended⟩

theorem neverAgain_nil : NeverAgain ends speaks [] := by
  intro front event back same
  exact absurd same.symm (by simp)

/-- **One more event keeps the law as long as it speaks of nothing that is over.** -/
theorem neverAgain_concat (never : NeverAgain ends speaks history)
    (silent : ∀ key, Over ends history key → ¬ speaks event key) :
    NeverAgain ends speaks (history ++ [event]) := by
  intro front middle back same key ended later member
  rcases concat_eq_split.mp same with ⟨-, -, rfl⟩ | ⟨rest, rfl, history_eq⟩
  · cases member
  · rcases List.mem_append.mp member with before | last
    · exact never front middle rest history_eq key ended later before
    · obtain rfl := List.mem_singleton.mp last
      exact silent key ⟨front, middle, rest, history_eq, ended⟩

end Rules

section Sections

variable [DecidableEq κ] {next : Option κ → ε → Option κ} {key : κ} {current : Option κ}

/-- The events of a history that come while `key` is current; `next` says what is current
behind an event. -/
def during (next : Option κ → ε → Option κ) (key : κ) : Option κ → List ε → List ε
  | _, [] => []
  | current, event :: rest =>
      if current = some key then
        event :: during next key (next current event) rest
      else
        during next key (next current event) rest

theorem during_append (front back : List ε) :
    during next key current (front ++ back) =
      during next key current front ++ during next key (front.foldl next current) back := by
  induction front generalizing current with
  | nil => rfl
  | cons event rest ih =>
      simp only [List.cons_append, during, List.foldl_cons, ih]
      split <;> rfl

theorem during_sublist (history : List ε) : (during next key current history).Sublist history := by
  induction history generalizing current with
  | nil => exact .slnil
  | cons event rest ih =>
      rw [during]
      split
      · exact ih.cons_cons event
      · exact ih.cons event

theorem mem_during_of_current {front back : List ε} {event : ε}
    (here : front.foldl next current = some key) :
    event ∈ during next key current (front ++ event :: back) := by
  rw [during_append, here, during, if_pos rfl]
  exact List.mem_append_right _ List.mem_cons_self

end Sections

end ServerLib.History
