import Mathlib.Data.List.Dedup
import Mathlib.Data.List.Nodup
import Mathlib.Data.List.Perm.Subperm
import Mathlib.Data.List.Range
import Mathlib.Logic.Function.Basic
import ServerLib.Library.Transition

/-!
# A pool of first-in first-out queues

Items are distributed over several queues, and each queue is emptied from its
front by a worker of its own.  This module says what such a pool promises,
independently of how an item's queue is chosen and of when the workers run.

A `Pool` carries the queues together with the history of what was pushed to them
and popped from them.  Two laws hold along every run from the empty pool.

* `run_conserved`: what a queue gave out, followed by what it holds, is what was
  pushed to it, in order.  Nothing is lost, duplicated or reordered within one
  queue, and over all queues the items are only redistributed (`pushed_perm`).
* `popped_prefix_pushed`: the items of one *class* come out in the order they
  went in, across all queues, provided no item of the class is pushed to a queue
  while another queue still holds one of them.  Without that proviso the pool
  promises nothing about two queues.
-/

namespace ServerLib.FifoPool

open Transition

universe u v

variable {ι : Type u} {α : Type v}

/-- Queues named by `ι`, with everything that was pushed and popped so far. -/
@[ext] structure Pool (ι : Type u) (α : Type v) where
  queue : ι → List α
  pushed : List (ι × α)
  popped : List (ι × α)

/-- A producer or a worker moves. -/
inductive Action (ι : Type u) (α : Type v) where
  | push (i : ι) (item : α)
  | pop (i : ι)

/-- The items a history names a queue for. -/
def itemsAt [DecidableEq ι] (i : ι) (history : List (ι × α)) : List α :=
  (history.filter fun entry => entry.1 = i).map Prod.snd

@[simp] theorem itemsAt_nil [DecidableEq ι] (i : ι) :
    itemsAt i ([] : List (ι × α)) = [] := rfl

@[simp] theorem itemsAt_concat [DecidableEq ι] (i j : ι) (history : List (ι × α)) (item : α) :
    itemsAt i (history ++ [(j, item)]) =
      itemsAt i history ++ if j = i then [item] else [] := by
  by_cases same : j = i <;> simp [itemsAt, same]

theorem mem_itemsAt [DecidableEq ι] {i : ι} {history : List (ι × α)} {item : α} :
    item ∈ itemsAt i history ↔ (i, item) ∈ history := by
  simp [itemsAt]

/-- The items of a history that belong to a class. -/
def ofClass (mine : α → Bool) (history : List (ι × α)) : List α :=
  (history.map Prod.snd).filter mine

@[simp] theorem ofClass_concat (mine : α → Bool) (history : List (ι × α)) (i : ι) (item : α) :
    ofClass mine (history ++ [(i, item)]) =
      ofClass mine history ++ if mine item then [item] else [] := by
  by_cases belongs : mine item = true <;> simp [ofClass, belongs]

namespace Pool

/-- Nothing pushed yet. -/
def empty : Pool ι α where
  queue := fun _ => []
  pushed := []
  popped := []

variable [DecidableEq ι]

/-- The pool after `item` went in at the back of queue `i`. -/
def pushTo (pool : Pool ι α) (i : ι) (item : α) : Pool ι α where
  queue := Function.update pool.queue i (pool.queue i ++ [item])
  pushed := pool.pushed ++ [(i, item)]
  popped := pool.popped

/-- The pool after `item` came out of queue `i`, which now holds `rest`. -/
def popFrom (pool : Pool ι α) (i : ι) (item : α) (rest : List α) : Pool ι α where
  queue := Function.update pool.queue i rest
  pushed := pool.pushed
  popped := pool.popped ++ [(i, item)]

@[simp] theorem queue_pushTo (pool : Pool ι α) (i j : ι) (item : α) :
    (pool.pushTo i item).queue j =
      if j = i then pool.queue i ++ [item] else pool.queue j :=
  Function.update_apply ..

@[simp] theorem pushed_pushTo (pool : Pool ι α) (i : ι) (item : α) :
    (pool.pushTo i item).pushed = pool.pushed ++ [(i, item)] := rfl

@[simp] theorem popped_pushTo (pool : Pool ι α) (i : ι) (item : α) :
    (pool.pushTo i item).popped = pool.popped := rfl

@[simp] theorem queue_popFrom (pool : Pool ι α) (i j : ι) (item : α) (rest : List α) :
    (pool.popFrom i item rest).queue j = if j = i then rest else pool.queue j :=
  Function.update_apply ..

@[simp] theorem pushed_popFrom (pool : Pool ι α) (i : ι) (item : α) (rest : List α) :
    (pool.popFrom i item rest).pushed = pool.pushed := rfl

@[simp] theorem popped_popFrom (pool : Pool ι α) (i : ι) (item : α) (rest : List α) :
    (pool.popFrom i item rest).popped = pool.popped ++ [(i, item)] := rfl

/-- One move; there is none at the front of an empty queue. -/
def step (pool : Pool ι α) : Action ι α → Option (Pool ι α)
  | .push i item => some (pool.pushTo i item)
  | .pop i =>
      match pool.queue i with
      | [] => none
      | item :: rest => some (pool.popFrom i item rest)

/-- What a step can do to a pool. -/
theorem step_cases {pool next : Pool ι α} {action : Action ι α}
    (taken : pool.step action = some next) :
    (∃ i item, action = .push i item ∧ next = pool.pushTo i item) ∨
    (∃ i item rest, action = .pop i ∧ pool.queue i = item :: rest ∧
      next = pool.popFrom i item rest) := by
  cases action with
  | push i item =>
      cases taken
      exact Or.inl ⟨i, item, rfl, rfl⟩
  | pop i =>
      simp only [step] at taken
      split at taken
      · cases taken
      · next item rest queued =>
          cases taken
          exact Or.inr ⟨i, item, rest, rfl, queued, rfl⟩

/-- A pop, seen from the queue it is made on. -/
theorem step_pop {pool : Pool ι α} {i : ι} {item : α} {rest : List α}
    (queued : pool.queue i = item :: rest) :
    pool.step (.pop i) = some (pool.popFrom i item rest) := by
  simp only [step, queued]

/-! ## Conservation -/

/-- Each queue gave out the front of what it was given, and holds the rest. -/
def Conserved (pool : Pool ι α) : Prop :=
  ∀ i, itemsAt i pool.popped ++ pool.queue i = itemsAt i pool.pushed

theorem conserved_empty : (empty : Pool ι α).Conserved := fun _ => rfl

theorem Conserved.step {pool next : Pool ι α} {action : Action ι α}
    (conserved : pool.Conserved) (taken : pool.step action = some next) : next.Conserved := by
  intro j
  have before := conserved j
  rcases step_cases taken with ⟨i, item, -, rfl⟩ | ⟨i, item, rest, -, queued, rfl⟩
  · by_cases here : j = i
    · subst here
      simp [← before]
    · simp [here, Ne.symm here, before]
  · by_cases here : j = i
    · subst here
      simp [← before, queued]
    · simp [here, Ne.symm here, before]

/-- **Conservation.**  Along every run each queue gives out what it was given, in
order, and holds the rest. -/
theorem run_conserved {actions : List (Action ι α)} {pool : Pool ι α}
    (runs : run step empty actions = some pool) : pool.Conserved :=
  run_invariant (fun _ _ _ conserved taken => Conserved.step conserved taken) actions
    conserved_empty runs

/-- The entries of a history, sorted by queue. -/
theorem perm_flatMap_itemsAt (indices : List ι) (distinct : indices.Nodup) :
    ∀ history : List (ι × α), (∀ entry ∈ history, entry.1 ∈ indices) →
      (history.map Prod.snd).Perm (indices.flatMap fun i => itemsAt i history) := by
  induction indices with
  | nil =>
      intro history named
      have none : history = [] :=
        List.eq_nil_iff_forall_not_mem.mpr fun entry member => by simpa using named entry member
      simp [none]
  | cons i indices ih =>
      intro history named
      obtain ⟨fresh, distinct⟩ := List.nodup_cons.mp distinct
      have others : ∀ j ∈ indices, itemsAt j history =
          itemsAt j (history.filter fun entry => ¬ entry.1 = i) := by
        intro j member
        have apart : j ≠ i := fun same => fresh (same ▸ member)
        unfold itemsAt
        rw [List.filter_filter]
        congr 1
        refine List.filter_congr fun entry _ => ?_
        by_cases same : entry.1 = j
        · simp [same, apart]
        · simp [same]
      have split : (history.filter (fun entry => entry.1 = i) ++
          history.filter fun entry => ¬ entry.1 = i).Perm history := by
        simpa using List.filter_append_perm (fun entry => decide (entry.1 = i)) history
      have rest := ih distinct (history.filter fun entry => ¬ entry.1 = i) (by
        intro entry member
        obtain ⟨member, apart⟩ := List.mem_filter.mp member
        have := named entry member
        simp_all)
      rw [List.flatMap_cons, List.flatMap_congr others]
      refine ((split.map Prod.snd).symm.trans ?_)
      rw [List.map_append]
      exact List.Perm.append_left _ rest

/-- **Every pushed item is in exactly one place.**  Over all queues, what was
given out together with what is held is a rearrangement of what was pushed. -/
theorem pushed_perm {pool : Pool ι α} (conserved : pool.Conserved) {indices : List ι}
    (distinct : indices.Nodup) (named : ∀ entry ∈ pool.pushed, entry.1 ∈ indices) :
    (pool.pushed.map Prod.snd).Perm
      (indices.flatMap fun i => itemsAt i pool.popped ++ pool.queue i) := by
  have same : (fun i => itemsAt i pool.popped ++ pool.queue i) =
      fun i => itemsAt i pool.pushed := funext conserved
  rw [same]
  exact perm_flatMap_itemsAt indices distinct pool.pushed named

theorem popped_mem_pushed {pool : Pool ι α} (conserved : pool.Conserved) {entry : ι × α}
    (member : entry ∈ pool.popped) : entry ∈ pool.pushed := by
  rw [← mem_itemsAt, ← conserved entry.1]
  exact List.mem_append_left _ (mem_itemsAt.mpr member)

/-- What was given out, followed by what is held, is a rearrangement of what was pushed. -/
theorem pushed_perm_append {pool : Pool ι α} (conserved : pool.Conserved) {indices : List ι}
    (distinct : indices.Nodup) (named : ∀ entry ∈ pool.pushed, entry.1 ∈ indices) :
    (pool.pushed.map Prod.snd).Perm (pool.popped.map Prod.snd ++ indices.flatMap pool.queue) := by
  have given := perm_flatMap_itemsAt indices distinct pool.popped
    fun entry member => named entry (popped_mem_pushed conserved member)
  have apart := List.flatMap_append_perm indices (fun i => itemsAt i pool.popped) pool.queue
  exact (pushed_perm conserved distinct named).trans
    (apart.symm.trans (given.symm.append_right _))

/-- Over all queues, nothing is given out that was not pushed, and nothing twice. -/
theorem popped_subperm {pool : Pool ι α} (conserved : pool.Conserved) :
    (pool.popped.map Prod.snd).Subperm (pool.pushed.map Prod.snd) := by
  have taken := pushed_perm_append conserved (List.nodup_dedup (pool.pushed.map Prod.fst))
    fun entry member => List.mem_dedup.mpr (List.mem_map_of_mem member)
  exact (List.sublist_append_left _ _).subperm.trans taken.symm.subperm

/-- Where everything is pushed to one queue, everything comes out in order. -/
theorem popped_prefix_of_single {pool : Pool ι α} (conserved : pool.Conserved) {i : ι}
    (single : ∀ entry ∈ pool.pushed, entry.1 = i) :
    pool.popped.map Prod.snd <+: pool.pushed.map Prod.snd := by
  have all : ∀ history : List (ι × α), (∀ entry ∈ history, entry.1 = i) →
      itemsAt i history = history.map Prod.snd := by
    intro history same
    rw [itemsAt, List.filter_eq_self.mpr fun entry member => decide_eq_true (same entry member)]
  have poppedSingle : ∀ entry ∈ pool.popped, entry.1 = i :=
    fun entry member => single entry (popped_mem_pushed conserved member)
  rw [← all _ single, ← all _ poppedSingle, ← conserved i]
  exact List.prefix_append _ _

/-! ## Order within a class of items -/

section Order

variable (mine : α → Bool)

/-- An item of the class is pushed only where no other queue holds one. -/
def AloneAtPush (pool : Pool ι α) : Action ι α → Prop
  | .push i item =>
      mine item = true → ∀ j, j ≠ i → ∀ other ∈ pool.queue j, mine other = false
  | .pop _ => True

/-- One queue holds everything of the class that is still to come, in order. -/
def Held (pool : Pool ι α) : Prop :=
  ∃ holder, (∀ j, j ≠ holder → (pool.queue j).filter mine = []) ∧
    ofClass mine pool.popped ++ (pool.queue holder).filter mine = ofClass mine pool.pushed

variable {mine} {pool next : Pool ι α}

/-- A push keeps the class in one queue: the old holder when the item is not of
the class, else the queue it is pushed to. -/
theorem Held.push (held : pool.Held mine) {i : ι} {item : α}
    (alone : pool.AloneAtPush mine (.push i item)) : (pool.pushTo i item).Held mine := by
  obtain ⟨holder, others, order⟩ := held
  by_cases belongs : mine item = true
  · have elsewhere : ∀ j, j ≠ i → (pool.queue j).filter mine = [] := by
      intro j apart
      rw [List.filter_eq_nil_iff]
      intro other member
      simp [alone belongs j apart other member]
    have moved : (pool.queue holder).filter mine = (pool.queue i).filter mine := by
      by_cases same : holder = i
      · rw [same]
      · rw [elsewhere holder same, others i (Ne.symm same)]
    refine ⟨i, fun j apart => ?_, ?_⟩
    · simp [apart, elsewhere j apart]
    · rw [moved] at order
      simp [belongs, ← order]
  · refine ⟨holder, fun j apart => ?_, ?_⟩
    · by_cases same : j = i
      · simp [same, belongs, others i (same ▸ apart)]
      · simp [same, others j apart]
    · by_cases same : holder = i
      · subst same
        simp [belongs, order]
      · simp [same, belongs, order]

/-- A pop keeps the class in its queue: what leaves another queue is not of the
class. -/
theorem Held.pop (held : pool.Held mine) {i : ι} {item : α} {rest : List α}
    (queued : pool.queue i = item :: rest) : (pool.popFrom i item rest).Held mine := by
  obtain ⟨holder, others, order⟩ := held
  by_cases same : holder = i
  · subst same
    refine ⟨holder, fun j apart => by simp [apart, others j apart], ?_⟩
    rw [queued] at order
    by_cases belongs : mine item = true
    · simpa [belongs] using order
    · simpa [belongs] using order
  · have none := others i (Ne.symm same)
    rw [queued, List.filter_eq_nil_iff] at none
    have foreign : mine item = false := by simpa using none item (by simp)
    refine ⟨holder, fun j apart => ?_, ?_⟩
    · by_cases here : j = i
      · subst here
        simpa using fun other member => none other (List.mem_cons_of_mem _ member)
      · simp [here, others j apart]
    · simp [same, foreign, order]

theorem Held.step {action : Action ι α} (held : pool.Held mine)
    (alone : pool.AloneAtPush mine action) (taken : pool.step action = some next) :
    next.Held mine := by
  rcases step_cases taken with ⟨i, item, rfl, rfl⟩ | ⟨i, item, rest, rfl, queued, rfl⟩
  · exact held.push alone
  · exact held.pop queued

/-- **Order within a class.**  Along every run in which no item of the class is
pushed to one queue while another holds one, the class comes out in the order it
went in. -/
theorem popped_prefix_pushed [Inhabited ι] {actions : List (Action ι α)}
    (alone : Along step (AloneAtPush mine) empty actions)
    (runs : run step empty actions = some pool) :
    ofClass mine pool.popped <+: ofClass mine pool.pushed := by
  have start : (empty : Pool ι α).Held mine := ⟨default, fun _ _ => rfl, rfl⟩
  obtain ⟨holder, -, order⟩ := run_invariant_along
    (fun _ _ _ held alone taken => Held.step held alone taken) actions start alone runs
  exact ⟨_, order⟩

end Order

end Pool

end ServerLib.FifoPool
