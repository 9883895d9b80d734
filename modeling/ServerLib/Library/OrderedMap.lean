import Mathlib.Order.Basic
import Mathlib.Tactic.Common

/-!
# Maps ordered by a strict comparison

A C++ `std::map` knows its keys only through one boolean `<`: two keys are the
same key when neither is below the other.  Whether that is equality is a
property of the comparison, and a comparison with a slip in it silently merges
or loses entries.

`StrictOrder` is the contract a comparison has to meet — irreflexive,
transitive, and equal when incomparable — and `OrderedMap` is the balanced tree
over the three-way comparison derived from it.  `find_insert` and `find_erase`
are the two equations by which a map that meets the contract is an ordinary
finite function.
-/

namespace ServerLib

universe u v

/-- The contract of a boolean `<` used as the order of a map. -/
class StrictOrder (κ : Type u) where
  /-- The comparison itself. -/
  less : κ → κ → Bool
  /-- No key is below itself. -/
  less_irrefl : ∀ a, less a a = false
  /-- The comparison composes. -/
  less_trans : ∀ {a b c}, less a b = true → less b c = true → less a c = true
  /-- Keys that are incomparable are one key. -/
  eq_of_incomparable : ∀ {a b}, less a b = false → less b a = false → a = b

variable {κ : Type u} {ν : Type v} [StrictOrder κ]

open StrictOrder

/-- The three-way comparison a map makes of two calls of `<`. -/
def compareKeys (a b : κ) : Ordering :=
  if less a b then .lt else if less b a then .gt else .eq

theorem less_asymm {a b : κ} (below : less a b = true) : less b a = false := by
  cases above : less b a with
  | false => rfl
  | true =>
      have loop := less_trans below above
      rw [less_irrefl] at loop
      cases loop

theorem compareKeys_eq_iff {a b : κ} : compareKeys a b = .eq ↔ a = b := by
  unfold compareKeys
  constructor
  · intro same
    split at same
    · cases same
    · next notBelow =>
        split at same
        · cases same
        · next notAbove =>
            exact eq_of_incomparable (by simpa using notBelow) (by simpa using notAbove)
  · rintro rfl
    simp [less_irrefl]

theorem isLE_compareKeys {a b : κ} : (compareKeys a b).isLE = true ↔ less b a = false := by
  unfold compareKeys
  cases below : less a b with
  | true => simp [less_asymm below]
  | false => cases above : less b a <;> simp

/-- Not being above is transitive: the contract is a total order. -/
theorem not_above_trans {a b c : κ} (first : less b a = false) (second : less c b = false) :
    less c a = false := by
  cases last : less c a with
  | false => rfl
  | true =>
      cases middle : less a b with
      | true =>
          rw [less_trans last middle] at second
          cases second
      | false =>
          have same := eq_of_incomparable first middle
          subst same
          rw [last] at second
          cases second

instance : Std.OrientedCmp (compareKeys (κ := κ)) where
  eq_swap {a b} := by
    unfold compareKeys
    cases below : less a b with
    | true => simp [less_asymm below]
    | false => cases above : less b a <;> simp

instance : Std.TransCmp (compareKeys (κ := κ)) where
  isLE_trans first second := by
    rw [isLE_compareKeys] at first second ⊢
    exact not_above_trans first second

/-- A map whose keys are ordered by their `<`. -/
abbrev OrderedMap (κ : Type u) (ν : Type v) [StrictOrder κ] : Type (max u v) :=
  Std.TreeMap κ ν compareKeys

namespace OrderedMap

/-- The value stored under a key, if any. -/
def find (map : OrderedMap κ ν) (key : κ) : Option ν := map[key]?

@[simp] theorem find_empty (key : κ) : find (∅ : OrderedMap κ ν) key = none :=
  Std.TreeMap.getElem?_emptyc

variable [DecidableEq κ]

@[simp] theorem find_insert (map : OrderedMap κ ν) (key other : κ) (value : ν) :
    find (map.insert key value) other = if key = other then some value else find map other := by
  simp only [find, Std.TreeMap.getElem?_insert, compareKeys_eq_iff]

@[simp] theorem find_erase (map : OrderedMap κ ν) (key other : κ) :
    find (map.erase key) other = if key = other then none else find map other := by
  simp only [find, Std.TreeMap.getElem?_erase, compareKeys_eq_iff]

end OrderedMap

end ServerLib
