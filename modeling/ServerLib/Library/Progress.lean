import Mathlib.Data.List.Count
import ServerLib.Library.Transition

/-!
# Bounded progress of one party

Among the parties of a guarded step function one is singled out by its labels, `own`.
The question is how many moves it can make, or needs to make, while the other parties move
as they like in between.

`Pays` is the answer for one step: a `measure` that every move of the party lowers and no
other move raises, until the `Goal` is reached and from then on for good.  The rule
`Pays.countP_le` adds the steps up: at the end of every run the goal is reached, or the
party's moves are paid for by what the measure has lost.  With `Goal := False` it bounds
what the party can still do; with a goal it says how many moves the party needs for it.
There is no notion of fairness here: a bound on the party's own moves is what a fair
scheduler turns into an "eventually".
-/

namespace ServerLib.Transition

universe u v

variable {σ : Type u} {ε : Type v}

/-- In the states with the invariant, every step that meets `C` keeps the goal or reaches
it, or it leaves the measure no higher, and lower where the step is the party's own. -/
structure Pays (step : σ → ε → Option σ) (C : σ → ε → Prop) (I Goal : σ → Prop)
    (own : ε → Bool) (measure : σ → ℕ) : Prop where
  kept : ∀ {state label next}, I state → C state label → step state label = some next → I next
  stays : ∀ {state label next}, I state → C state label → step state label = some next →
    Goal state → Goal next
  lowered : ∀ {state label next}, I state → C state label → step state label = some next →
    ¬ Goal state → own label = true → Goal next ∨ measure next < measure state
  held : ∀ {state label next}, I state → C state label → step state label = some next →
    ¬ Goal state → own label = false → Goal next ∨ measure next ≤ measure state

namespace Pays

variable {step : σ → ε → Option σ} {C : σ → ε → Prop} {I Goal : σ → Prop} {own : ε → Bool}
  {measure : σ → ℕ}

theorem goal_of_run (pays : Pays step C I Goal own measure) (labels : List ε)
    {state last : σ} (holds : I state) (along : Along step C state labels)
    (runs : run step state labels = some last) (reached : Goal state) : Goal last :=
  (run_invariant_along (I := fun state => I state ∧ Goal state)
    (fun _ _ _ holds met taken =>
      ⟨pays.kept holds.1 met taken, pays.stays holds.1 met taken holds.2⟩)
    labels ⟨holds, reached⟩ along runs).2

/-- **The measure pays for the party's moves**, until the goal is reached. -/
theorem countP_le (pays : Pays step C I Goal own measure) :
    ∀ (labels : List ε) {state last : σ}, I state → Along step C state labels →
      run step state labels = some last →
      Goal last ∨ labels.countP own + measure last ≤ measure state := by
  intro labels
  induction labels with
  | nil =>
      intro state last _ _ runs
      cases runs
      simp
  | cons label rest ih =>
      intro state last holds along runs
      rw [run_cons, Option.bind_eq_some_iff] at runs
      obtain ⟨next, taken, runs⟩ := runs
      have kept := pays.kept holds along.1 taken
      have later := along.2 next taken
      by_cases reached : Goal state
      · exact Or.inl (pays.goal_of_run rest kept later runs
          (pays.stays holds along.1 taken reached))
      rcases ih kept later runs with there | paid
      · exact Or.inl there
      · cases mine : own label with
        | true =>
            rcases pays.lowered holds along.1 taken reached mine with here | lower
            · exact Or.inl (pays.goal_of_run rest kept later runs here)
            · rw [List.countP_cons_of_pos mine]
              omega
        | false =>
            rcases pays.held holds along.1 taken reached mine with here | same
            · exact Or.inl (pays.goal_of_run rest kept later runs here)
            · rw [List.countP_cons_of_neg (by simp [mine])]
              omega

/-- A party that has made as many moves as the measure was worth has reached the goal. -/
theorem goal_of_le_countP (pays : Pays step C I Goal own measure)
    (positive : ∀ state, I state → ¬ Goal state → 0 < measure state) {labels : List ε}
    {state last : σ} (holds : I state) (along : Along step C state labels)
    (runs : run step state labels = some last)
    (often : measure state ≤ labels.countP own) : Goal last := by
  by_contra missed
  have kept : I last :=
    run_invariant_along (fun _ _ _ holds met taken => pays.kept holds met taken) labels holds
      along runs
  have worth := positive last kept missed
  rcases pays.countP_le labels holds along runs with there | paid
  · exact missed there
  · omega

end Pays

end ServerLib.Transition
