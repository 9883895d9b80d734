import Mathlib.Data.List.Induction
import Mathlib.Data.Option.Basic
import Mathlib.Logic.Function.Basic
import Mathlib.Logic.Relation

/-!
# Runs of a guarded step function

A concurrent program is presented as a *guarded step function*
`step : σ → ε → Option σ`: the label says which party moves and what its
environment answers, and `none` says that the move is not possible in that
state.  One interleaving of the program is a list of labels, and `run` replays
it.

Two notions are enough for the developments built on this module.

* `run step state labels` — the state an interleaving ends in, if every label
  of it was enabled.
* `Along step C state labels` — every step of the interleaving meets the
  condition `C`, read in the state *before* the step.  `C` may look at the
  label, so a condition on what the environment does and a condition on the
  program's state are the same kind of thing.

The rule `run_invariant_along` is the only induction over interleavings: an
invariant that is kept by every step meeting `C` holds wherever a run along `C`
ends.  Every prefix of a run is a run, so "in the last state of every run" and
"in every state of every run" are the same statement.
-/

namespace ServerLib.Transition

universe u v

variable {σ : Type u} {ε : Type v}

/-- Replay an interleaving; `none` as soon as a label is not enabled. -/
def run (step : σ → ε → Option σ) : σ → List ε → Option σ
  | state, [] => some state
  | state, label :: rest => (step state label).bind fun next => run step next rest

/-- Every step of the interleaving meets `C` in the state it starts from. -/
def Along (step : σ → ε → Option σ) (C : σ → ε → Prop) : σ → List ε → Prop
  | _, [] => True
  | state, label :: rest =>
      C state label ∧ ∀ next, step state label = some next → Along step C next rest

/-- A condition that can be tested can be tested along an interleaving. -/
instance decidableAlong (step : σ → ε → Option σ) (C : σ → ε → Prop)
    [∀ state label, Decidable (C state label)] :
    ∀ (state : σ) (labels : List ε), Decidable (Along step C state labels)
  | _, [] => isTrue trivial
  | state, label :: rest =>
      match taken : step state label with
      | none =>
          decidable_of_iff (C state label) (by simp [Along, taken])
      | some next =>
          have := decidableAlong step C next rest
          decidable_of_iff (C state label ∧ Along step C next rest) (by simp [Along, taken])

section Rules

variable {step : σ → ε → Option σ} {C D : σ → ε → Prop}

@[simp] theorem run_nil (state : σ) : run step state [] = some state := rfl

theorem run_cons (state : σ) (label : ε) (rest : List ε) :
    run step state (label :: rest) =
      (step state label).bind fun next => run step next rest := rfl

theorem run_append (state : σ) (front back : List ε) :
    run step state (front ++ back) =
      (run step state front).bind fun middle => run step middle back := by
  induction front generalizing state with
  | nil => rfl
  | cons label rest ih =>
      rw [List.cons_append, run_cons, run_cons, Option.bind_assoc]
      exact congrArg _ (funext fun next => ih next)

/-- A run that ends with one more step, taken apart. -/
theorem run_concat_eq_some {state last : σ} {labels : List ε} {label : ε} :
    run step state (labels ++ [label]) = some last ↔
      ∃ middle, run step state labels = some middle ∧ step middle label = some last := by
  rw [run_append, Option.bind_eq_some_iff]
  refine exists_congr fun middle => and_congr_right fun _ => ?_
  rw [run_cons, Option.bind_eq_some_iff]
  simp

@[simp] theorem along_nil (state : σ) : Along step C state [] := trivial

/-- A condition along a longer run is the condition along its front, and along its
back wherever the front ends. -/
theorem along_append {state : σ} {front back : List ε} :
    Along step C state (front ++ back) ↔
      Along step C state front ∧
        ∀ middle, run step state front = some middle → Along step C middle back := by
  induction front generalizing state with
  | nil => simp
  | cons first rest ih =>
      simp only [List.cons_append, Along, run_cons, Option.bind_eq_some_iff, ih]
      constructor
      · rintro ⟨here, later⟩
        refine ⟨⟨here, fun next taken => (later next taken).1⟩, ?_⟩
        rintro middle ⟨next, taken, runs⟩
        exact (later next taken).2 middle runs
      · rintro ⟨⟨here, later⟩, ends⟩
        exact ⟨here, fun next taken =>
          ⟨later next taken, fun middle runs => ends middle ⟨next, taken, runs⟩⟩⟩

theorem Along.and {state : σ} {labels : List ε} (first : Along step C state labels)
    (second : Along step D state labels) :
    Along step (fun state label => C state label ∧ D state label) state labels := by
  induction labels generalizing state with
  | nil => trivial
  | cons label rest ih =>
      exact ⟨⟨first.1, second.1⟩, fun next taken => ih (first.2 next taken) (second.2 next taken)⟩

theorem along_congr (same : ∀ state label, C state label ↔ D state label) {state : σ}
    {labels : List ε} : Along step C state labels ↔ Along step D state labels := by
  induction labels generalizing state with
  | nil => simp
  | cons label rest ih =>
      simp only [Along, same state label]
      exact and_congr_right fun _ => forall_congr' fun next => imp_congr_right fun _ => ih

/-- Two conditions that agree wherever an invariant holds, and of which one keeps the
invariant, hold along the same runs. -/
theorem along_iff_along {I : σ → Prop}
    (kept : ∀ state label next, I state → D state label →
      step state label = some next → I next)
    (agree : ∀ state label next, I state → step state label = some next →
      (C state label ↔ D state label))
    (labels : List ε) {state last : σ} (holds : I state)
    (runs : run step state labels = some last) :
    Along step C state labels ↔ Along step D state labels := by
  induction labels generalizing state with
  | nil => simp
  | cons label rest ih =>
      rw [run_cons, Option.bind_eq_some_iff] at runs
      obtain ⟨next, taken, runs⟩ := runs
      have here := agree state label next holds taken
      have only : ∀ after, step state label = some after → after = next := by
        intro after taken'
        rw [taken, Option.some_inj] at taken'
        exact taken'.symm
      constructor
      · rintro ⟨first, later⟩
        refine ⟨here.mp first, fun after taken' => ?_⟩
        obtain rfl := only after taken'
        exact (ih (kept state label after holds (here.mp first) taken) runs).mp (later after taken)
      · rintro ⟨first, later⟩
        refine ⟨here.mpr first, fun after taken' => ?_⟩
        obtain rfl := only after taken'
        exact (ih (kept state label after holds first taken) runs).mpr (later after taken)

/-- **The run rule.**  An invariant kept by every step that meets `C` holds at
the end of every run along `C`. -/
theorem run_invariant_along {I : σ → Prop}
    (kept : ∀ state label next, I state → C state label →
      step state label = some next → I next) :
    ∀ (labels : List ε) {state last : σ}, I state → Along step C state labels →
      run step state labels = some last → I last := by
  intro labels
  induction labels with
  | nil =>
      intro state last holds _ runs
      cases runs
      exact holds
  | cons label rest ih =>
      intro state last holds along runs
      rw [run_cons, Option.bind_eq_some_iff] at runs
      obtain ⟨next, taken, runs⟩ := runs
      exact ih (kept state label next holds along.1 taken) (along.2 next taken) runs

/-- Where the invariant and the condition together enable every step, a run along
the condition is never blocked. -/
theorem exists_run_along {I : σ → Prop}
    (kept : ∀ state label next, I state → C state label →
      step state label = some next → I next)
    (enabled : ∀ state label, I state → C state label → ∃ next, step state label = some next) :
    ∀ (labels : List ε) {state : σ}, I state → Along step C state labels →
      ∃ last, run step state labels = some last := by
  intro labels
  induction labels with
  | nil => exact fun _ _ => ⟨_, rfl⟩
  | cons label rest ih =>
      intro state holds along
      obtain ⟨next, taken⟩ := enabled state label holds along.1
      obtain ⟨last, runs⟩ := ih (kept state label next holds along.1 taken) (along.2 next taken)
      exact ⟨last, by rw [run_cons, taken, Option.bind_some, runs]⟩

/-- A condition that an invariant guarantees holds along every interleaving. -/
theorem along_of_invariant {I : σ → Prop}
    (kept : ∀ state label next, I state → step state label = some next → I next)
    (guaranteed : ∀ state label, I state → C state label) (labels : List ε) {state : σ}
    (holds : I state) : Along step C state labels := by
  induction labels generalizing state with
  | nil => trivial
  | cons label rest ih =>
      exact ⟨guaranteed state label holds, fun next taken => ih (kept state label next holds taken)⟩

/-- A condition that every label of an interleaving meets in every state. -/
theorem along_of_labels (labels : List ε) (always : ∀ label ∈ labels, ∀ state, C state label)
    (state : σ) : Along step C state labels := by
  induction labels generalizing state with
  | nil => trivial
  | cons label rest ih =>
      exact ⟨always label List.mem_cons_self state, fun next _ =>
        ih (fun later member => always later (List.mem_cons_of_mem _ member)) next⟩

/-- The interleaving leads from one state to the other, and meets `C` on its way. -/
def Leads (step : σ → ε → Option σ) (C : σ → ε → Prop) (state : σ) (labels : List ε) (last : σ) :
    Prop :=
  run step state labels = some last ∧ Along step C state labels

theorem Leads.cons {state next last : σ} {label : ε} {rest : List ε}
    (taken : step state label = some next) (met : C state label)
    (leads : Leads step C next rest last) : Leads step C state (label :: rest) last := by
  refine ⟨by rw [run_cons, taken, Option.bind_some, leads.1], met, fun after taken' => ?_⟩
  rw [taken, Option.some_inj] at taken'
  exact taken' ▸ leads.2

theorem Leads.nil (state : σ) : Leads step C state [] state := ⟨rfl, trivial⟩

theorem Leads.append {state middle last : σ} {front back : List ε}
    (first : Leads step C state front middle) (second : Leads step C middle back last) :
    Leads step C state (front ++ back) last := by
  refine ⟨by rw [run_append, first.1, Option.bind_some, second.1], along_append.mpr
    ⟨first.2, fun reached ends => ?_⟩⟩
  rw [first.1, Option.some_inj] at ends
  exact ends ▸ second.2

/-- **The loop rule.**  An interleaving that leads from each stage `I (left + 1)` to `I left`
leads, taken `count` times, from `I count` to `I 0`. -/
theorem exists_leads_replicate {I : ℕ → σ → Prop} {labels : List ε}
    (body : ∀ left state, I (left + 1) state →
      ∃ next, Leads step C state labels next ∧ I left next) (count : ℕ) {state : σ}
    (start : I count state) :
    ∃ last, Leads step C state (List.replicate count labels).flatten last ∧ I 0 last := by
  induction count generalizing state with
  | zero => exact ⟨state, .nil state, start⟩
  | succ count ih =>
      obtain ⟨middle, leads, reached⟩ := body count state start
      obtain ⟨last, leads', ended⟩ := ih reached
      refine ⟨last, ?_, ended⟩
      rw [List.replicate_succ, List.flatten_cons]
      exact leads.append leads'

/-- A condition that always holds, holds along every interleaving. -/
theorem along_of_forall (always : ∀ state label, C state label) (state : σ)
    (labels : List ε) : Along step C state labels :=
  along_of_labels labels (fun label _ state => always state label) state

/-- The run rule for an invariant that every step keeps. -/
theorem run_invariant {I : σ → Prop}
    (kept : ∀ state label next, I state → step state label = some next → I next)
    (labels : List ε) {state last : σ} (holds : I state)
    (runs : run step state labels = some last) : I last :=
  run_invariant_along (C := fun _ _ => True)
    (fun state label next holds _ taken => kept state label next holds taken)
    labels holds (along_of_forall (fun _ _ => trivial) state labels) runs

/-- **The run rule for steps made of effects.**  Let every step that meets `C` in a
state with the invariant be a sequence of effects, each of which keeps the invariant.
Then it holds at the end of every run along `C`. -/
theorem run_invariant_effects {I : σ → Prop} {Effect : σ → σ → Prop}
    (effects : ∀ state label next, I state → C state label → step state label = some next →
      Relation.ReflTransGen Effect state next)
    (kept : ∀ state next, I state → Effect state next → I next)
    (labels : List ε) {state last : σ} (holds : I state) (along : Along step C state labels)
    (runs : run step state labels = some last) : I last := by
  refine run_invariant_along (fun state label next holds met taken => ?_) labels holds along runs
  have sequence := effects state label next holds met taken
  clear taken
  induction sequence with
  | refl => exact holds
  | tail _ effect ih => exact kept _ _ ih effect

/-- **A law that every step either keeps or breaks.**  Let a step of a state with the
invariant keep the law `P` exactly where it meets `C`, and let no step repair it.  Then
the law holds at the end of a run exactly where the whole run meets `C`. -/
theorem law_iff_along {I P : σ → Prop}
    (kept : ∀ state label next, I state → step state label = some next → I next)
    (law : ∀ state label next, I state → step state label = some next →
      (P next ↔ P state ∧ C state label))
    (labels : List ε) {state last : σ} (holds : I state)
    (runs : run step state labels = some last) :
    P last ↔ P state ∧ Along step C state labels := by
  induction labels generalizing state with
  | nil =>
      cases runs
      simp
  | cons label rest ih =>
      rw [run_cons, Option.bind_eq_some_iff] at runs
      obtain ⟨next, taken, runs⟩ := runs
      rw [ih (kept state label next holds taken) runs, law state label next holds taken, and_assoc]
      refine and_congr_right fun _ => and_congr_right fun _ => ?_
      rw [taken]
      simp

/-- **The history rule.**  What holds of the empty interleaving, and passes from
an interleaving to the one with one more step, holds of every interleaving and
the state it ends in. -/
theorem run_history {P : List ε → σ → Prop} {state : σ} (start : P [] state)
    (grows : ∀ labels label middle last, P labels middle →
      step middle label = some last → P (labels ++ [label]) last) :
    ∀ (labels : List ε) {last : σ}, run step state labels = some last → P labels last := by
  intro labels
  induction labels using List.reverseRecOn with
  | nil =>
      intro last runs
      cases runs
      exact start
  | append_singleton labels label ih =>
      intro last runs
      obtain ⟨middle, runs, taken⟩ := run_concat_eq_some.mp runs
      exact grows labels label middle last (ih runs) taken

/-- **The refinement rule.**  Let `abs` read an abstract state off every concrete
one.  If each concrete step that meets `C` in a state with the invariant is a
sequence of abstract steps that meet `D`, then so is every concrete run. -/
theorem run_refines {ρ : Type*} {α : Type*} {abstractStep : ρ → α → Option ρ}
    {D : ρ → α → Prop} {abs : σ → ρ} {I : σ → Prop}
    (kept : ∀ state label next, I state → C state label →
      step state label = some next → I next)
    (refined : ∀ state label next, I state → C state label → step state label = some next →
      ∃ actions, run abstractStep (abs state) actions = some (abs next) ∧
        Along abstractStep D (abs state) actions) :
    ∀ (labels : List ε) {state last : σ}, I state → Along step C state labels →
      run step state labels = some last →
      ∃ actions, run abstractStep (abs state) actions = some (abs last) ∧
        Along abstractStep D (abs state) actions := by
  intro labels
  induction labels with
  | nil =>
      intro state last _ _ runs
      cases runs
      exact ⟨[], rfl, trivial⟩
  | cons label rest ih =>
      intro state last holds along runs
      rw [run_cons, Option.bind_eq_some_iff] at runs
      obtain ⟨next, taken, runs⟩ := runs
      obtain ⟨first, firstRuns, firstAlong⟩ := refined state label next holds along.1 taken
      obtain ⟨later, laterRuns, laterAlong⟩ :=
        ih (kept state label next holds along.1 taken) (along.2 next taken) runs
      refine ⟨first ++ later, ?_, ?_⟩
      · rw [run_append, firstRuns, Option.bind_some, laterRuns]
      · rw [along_append]
        refine ⟨firstAlong, fun middle reached => ?_⟩
        rw [firstRuns, Option.some_inj] at reached
        exact reached ▸ laterAlong

end Rules

/-- Reading back a table that was updated at one key. -/
theorem update_eq_some_iff {κ : Type*} {α : Type*} [DecidableEq κ] {table : κ → Option α}
    {key other : κ} {value : Option α} {entry : α} :
    Function.update table key value other = some entry ↔
      other = key ∧ value = some entry ∨ other ≠ key ∧ table other = some entry := by
  by_cases same : other = key
  · subst same
    simp
  · simp [same]

end ServerLib.Transition
