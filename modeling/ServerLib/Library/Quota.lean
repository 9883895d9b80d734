import Mathlib.Algebra.Order.Ring.Nat
import Mathlib.Algebra.Order.BigOperators.Group.List

/-!
# Workers with a quota and a common total

A number of workers finish jobs one at a time.  Each counts its own jobs and stops when its
counter is at the `quota`; all of them raise one `total`, and whoever takes the total to the
`target` gives the signal to end.  Both tests are for equality, at the moment of the
increment: a worker whose quota is 0 never meets it, and a target that the total starts
beyond is never met either.

`Kept` is what every job keeps: the total is the base it started from and the sum of the
counters, no counter is beyond the quota, and the signal was given if and only if the total
has come from below the target up to it.  Where the quotas together come to the target at
most, that is when every worker has met its quota and they come to it exactly
(`Kept.signalled_iff_of_le`).
-/

namespace ServerLib.Quota

/-- The total, the counter of each worker, and whether the signal was given. -/
structure Tally where
  total : ℕ
  counts : List ℕ
  signalled : Bool
  deriving DecidableEq, Repr

/-- A worker with `count` jobs done has not met its quota. -/
def Works (quota count : ℕ) : Prop := quota = 0 ∨ count < quota

instance (quota count : ℕ) : Decidable (Works quota count) := inferInstanceAs (Decidable (_ ∨ _))

/-- A worker finishes a job. -/
def finish (target quota : ℕ) (tally : Tally) (worker : ℕ) : Option Tally :=
  (tally.counts[worker]?).bind fun count =>
    if Works quota count then
      some ⟨tally.total + 1, tally.counts.set worker (count + 1),
        tally.signalled || decide (tally.total + 1 = target)⟩
    else
      none

/-- What is so while the workers work, from a total of `base` on. -/
structure Kept (target quota base : ℕ) (tally : Tally) : Prop where
  total_eq : tally.total = base + tally.counts.sum
  within : ∀ count ∈ tally.counts, quota = 0 ∨ count ≤ quota
  signalled_iff : tally.signalled = true ↔ base < target ∧ target ≤ tally.total

variable {target quota base worker : ℕ} {tally next : Tally}

/-- Nobody has done anything yet. -/
theorem kept_start {counts : List ℕ} (idle : ∀ count ∈ counts, count = 0) :
    Kept target quota base ⟨base, counts, false⟩ where
  total_eq := by
    rw [List.sum_eq_zero idle, Nat.add_zero]
  within count member := Or.inr (idle count member ▸ Nat.zero_le quota)
  signalled_iff := by
    simp only [Bool.false_eq_true, false_iff, not_and, not_le]
    exact id

/-- One counter is one higher, and so is the sum. -/
theorem sum_set_succ {counts : List ℕ} {count : ℕ} (found : counts[worker]? = some count) :
    (counts.set worker (count + 1)).sum = counts.sum + 1 := by
  induction counts generalizing worker with
  | nil => cases found
  | cons first rest ih =>
      cases worker with
      | zero =>
          obtain rfl : first = count := Option.some.inj found
          simp only [List.set_cons_zero, List.sum_cons]
          omega
      | succ worker =>
          simp only [List.set_cons_succ, List.sum_cons, ih (by simpa using found)]
          omega

/-- **A finished job keeps the account.** -/
theorem Kept.finish (kept : Kept target quota base tally)
    (finished : finish target quota tally worker = some next) : Kept target quota base next := by
  obtain ⟨count, found, finished⟩ := Option.bind_eq_some_iff.mp finished
  obtain ⟨works, same⟩ := Option.ite_none_right_eq_some.mp finished
  obtain rfl := Option.some.inj same
  refine ⟨?_, fun other member => ?_, ?_⟩
  · show tally.total + 1 = base + (tally.counts.set worker (count + 1)).sum
    rw [sum_set_succ found, kept.total_eq, Nat.add_assoc]
  · rcases List.mem_or_eq_of_mem_set member with before | rfl
    · exact kept.within other before
    · exact works.imp_right id
  · have signalled_iff := kept.signalled_iff
    have above : base ≤ tally.total := kept.total_eq ▸ Nat.le_add_right _ _
    simp only [Bool.or_eq_true, decide_eq_true_eq, signalled_iff]
    omega

/-- Counters that are within the quota sum up to at most what all quotas come to, and to that
only if every one of them is at the quota. -/
theorem sum_eq_iff {counts : List ℕ} (within : ∀ count ∈ counts, count ≤ quota) :
    counts.sum ≤ counts.length * quota ∧
      (counts.sum = counts.length * quota ↔ ∀ count ∈ counts, count = quota) := by
  induction counts with
  | nil => simp
  | cons first rest ih =>
      obtain ⟨le, eq_iff⟩ := ih fun count member => within count (List.mem_cons_of_mem _ member)
      have first_le := within first List.mem_cons_self
      rw [List.sum_cons, List.length_cons, Nat.succ_mul, List.forall_mem_cons, ← eq_iff]
      omega

/-- The total stays within what all quotas come to. -/
theorem Kept.total_le (kept : Kept target quota base tally) (some_quota : 0 < quota) :
    tally.total ≤ base + tally.counts.length * quota := by
  obtain ⟨le, -⟩ := sum_eq_iff fun count member =>
    (kept.within count member).resolve_left (Nat.ne_of_gt some_quota)
  exact kept.total_eq ▸ Nat.add_le_add_left le base

/-- **The signal was given** exactly when every worker has met its quota, where the target is
what all quotas come to, and never where it is more than that. -/
theorem Kept.signalled_iff_of_le (kept : Kept target quota base tally) (some_quota : 0 < quota)
    (below : base < target) (enough : base + tally.counts.length * quota ≤ target) :
    tally.signalled = true ↔
      target = base + tally.counts.length * quota ∧ ∀ count ∈ tally.counts, count = quota := by
  obtain ⟨le, eq_iff⟩ := sum_eq_iff fun count member =>
    (kept.within count member).resolve_left (Nat.ne_of_gt some_quota)
  rw [kept.signalled_iff, kept.total_eq, ← eq_iff]
  omega

end ServerLib.Quota
