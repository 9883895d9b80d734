import Mathlib.Computability.Language
import ServerLib.Library.Transition

/-!
# Sessions under keys, with an account of their output

A component that talks to many peers keeps at most one *session* under each key.
Output is submitted to a key at any time, waits in one list, and is carried out in
that order: it is added to what the key's session still has to write, or it finds
no session.  The session writes its output piece by piece, as far as the peer takes
it.  A session can end at any moment, and the key can be used again.

`Table` is that component, with its history.  Three laws hold of every run.

* `Accounted`: what was carried out, followed by what is waiting, is what was
  submitted; and what a session wrote, followed by what it still has to write, is
  what was carried out for its key since it was opened.
* `Tracked`: the keys with a session are the keys that were opened and have not
  ended since.
* `Lived`: what is seen of one key is a word of `lives`, possibly cut short: opened
  once, then any number of inputs, then ended once, and again.
-/

namespace ServerLib.Sessions

open Transition Computability

universe u v

/-- What is seen of a table. -/
inductive Event (κ : Type u) (β : Type v) where
  | opened (key : κ)
  | received (key : κ) (data : List β)
  | ended (key : κ)
  | submitted (key : κ) (data : List β)
  | executed (key : κ) (data : List β)
  | written (session : ℕ) (data : List β)

/-- The sessions by key, each with its number and what it still has to write; the
output waiting to be carried out; the next number; the history. -/
@[ext] structure Table (κ : Type u) (β : Type v) where
  session : κ → Option (ℕ × List β)
  waiting : List (κ × List β)
  next : ℕ
  history : List (Event κ β)

/-- What can happen to a table. -/
inductive Action (κ : Type u) (β : Type v) where
  | open (key : κ)
  | receive (key : κ) (data : List β)
  | close (key : κ)
  | submit (key : κ) (data : List β)
  /-- Carry out the next output. -/
  | execute
  /-- The peer takes the next `count` items. -/
  | write (key : κ) (count : ℕ)

variable {κ : Type u} {β : Type v}

namespace Table

/-- Nothing opened, nothing submitted. -/
def empty : Table κ β where
  session := fun _ => none
  waiting := []
  next := 0
  history := []

variable [DecidableEq κ]

/-- A session was opened under the key. -/
def opened (table : Table κ β) (key : κ) : Table κ β where
  session := Function.update table.session key (some (table.next, []))
  waiting := table.waiting
  next := table.next + 1
  history := table.history ++ [.opened key]

/-- The key's session had input. -/
def received (table : Table κ β) (key : κ) (data : List β) : Table κ β :=
  { table with history := table.history ++ [.received key data] }

/-- The key's session ended. -/
def ended (table : Table κ β) (key : κ) : Table κ β :=
  { table with
    session := Function.update table.session key none
    history := table.history ++ [.ended key] }

/-- An output was submitted. -/
def submitted (table : Table κ β) (key : κ) (data : List β) : Table κ β :=
  { table with
    waiting := table.waiting ++ [(key, data)]
    history := table.history ++ [.submitted key data] }

/-- The output at the front of the waiting ones was carried out: the key's session,
if there is one, has it to write. -/
def executed (table : Table κ β) (key : κ) (data : List β) (rest : List (κ × List β)) :
    Table κ β :=
  { table with
    session := Function.update table.session key
      ((table.session key).map fun entry => (entry.1, entry.2 ++ data))
    waiting := rest
    history := table.history ++ [.executed key data] }

/-- The key's session `n`, with `unsent` to write, wrote `count` items of it. -/
def wrote (table : Table κ β) (key : κ) (n : ℕ) (unsent : List β) (count : ℕ) : Table κ β :=
  { table with
    session := Function.update table.session key (some (n, unsent.drop count))
    history := table.history ++ [.written n (unsent.take count)] }

/-- One action; `none` where it is not possible. -/
def step (table : Table κ β) : Action κ β → Option (Table κ β)
  | .open key =>
      match table.session key with
      | some _ => none
      | none => some (table.opened key)
  | .receive key data =>
      match table.session key with
      | none => none
      | some _ => some (table.received key data)
  | .close key =>
      match table.session key with
      | none => none
      | some _ => some (table.ended key)
  | .submit key data => some (table.submitted key data)
  | .execute =>
      match table.waiting with
      | [] => none
      | (key, data) :: rest => some (table.executed key data rest)
  | .write key count =>
      match table.session key with
      | none => none
      | some (n, unsent) =>
          if count ≤ unsent.length then some (table.wrote key n unsent count) else none

theorem step_open {table : Table κ β} {key : κ} (absent : table.session key = none) :
    table.step (.open key) = some (table.opened key) := by
  simp only [step, absent]

theorem step_receive {table : Table κ β} {key : κ} {entry : ℕ × List β}
    (live : table.session key = some entry) (data : List β) :
    table.step (.receive key data) = some (table.received key data) := by
  simp only [step, live]

theorem step_close {table : Table κ β} {key : κ} {entry : ℕ × List β}
    (live : table.session key = some entry) :
    table.step (.close key) = some (table.ended key) := by
  simp only [step, live]

theorem step_execute {table : Table κ β} {key : κ} {data : List β} {rest : List (κ × List β)}
    (front : table.waiting = (key, data) :: rest) :
    table.step .execute = some (table.executed key data rest) := by
  simp only [step, front]

theorem step_write {table : Table κ β} {key : κ} {n count : ℕ} {unsent : List β}
    (live : table.session key = some (n, unsent)) (fits : count ≤ unsent.length) :
    table.step (.write key count) = some (table.wrote key n unsent count) := by
  simp only [step, live, fits, if_true]

end Table

/-! ## What the history says -/

/-- The outputs submitted, in order. -/
def submissions (history : List (Event κ β)) : List (κ × List β) :=
  history.filterMap fun
    | .submitted key data => some (key, data)
    | _ => none

/-- The outputs carried out, in order. -/
def executions (history : List (Event κ β)) : List (κ × List β) :=
  history.filterMap fun
    | .executed key data => some (key, data)
    | _ => none

/-- What a session wrote. -/
def writtenOn (n : ℕ) (history : List (Event κ β)) : List β :=
  history.flatMap fun
    | .written session data => if session = n then data else []
    | _ => []

@[simp] theorem submissions_append (history more : List (Event κ β)) :
    submissions (history ++ more) = submissions history ++ submissions more :=
  List.filterMap_append

@[simp] theorem executions_append (history more : List (Event κ β)) :
    executions (history ++ more) = executions history ++ executions more :=
  List.filterMap_append

@[simp] theorem writtenOn_append (n : ℕ) (history more : List (Event κ β)) :
    writtenOn n (history ++ more) = writtenOn n history ++ writtenOn n more :=
  List.flatMap_append

/-- The key was opened and has not ended since. -/
def Connected (key : κ) (history : List (Event κ β)) : Prop :=
  ∃ front back, history = front ++ .opened key :: back ∧ .ended key ∉ back

theorem connected_concat {key : κ} {history : List (Event κ β)} {event : Event κ β} :
    Connected key (history ++ [event]) ↔
      event = .opened key ∨ Connected key history ∧ event ≠ .ended key := by
  constructor
  · rintro ⟨front, back, whole, open'⟩
    rcases List.eq_nil_or_concat back with rfl | ⟨back, last, rfl⟩
    · exact Or.inl (List.append_singleton_inj.mp whole).2
    · rw [List.concat_eq_append, ← List.cons_append, ← List.append_assoc,
        List.append_singleton_inj] at whole
      rw [List.concat_eq_append, List.mem_append, List.mem_singleton, not_or] at open'
      refine Or.inr ⟨⟨front, back, whole.1, open'.1⟩, ?_⟩
      rw [whole.2]
      exact Ne.symm open'.2
  · rintro (rfl | ⟨⟨front, back, rfl, open'⟩, other⟩)
    · exact ⟨history, [], rfl, by simp⟩
    · refine ⟨front, back ++ [event], by simp, ?_⟩
      simp [open', Ne.symm other]

section Keys

variable [DecidableEq κ]

/-- What one event adds to the output carried out for a key; opening it starts
afresh. -/
def executedStep (key : κ) (data : List β) : Event κ β → List β
  | .opened other => if other = key then [] else data
  | .executed other more => if other = key then data ++ more else data
  | _ => data

/-- The output carried out for a key since it was last opened. -/
def executedSince (key : κ) (history : List (Event κ β)) : List β :=
  history.foldl (executedStep key) []

/-- The three things seen of one key. -/
inductive Letter where
  | opened
  | received
  | ended
  deriving DecidableEq, Repr

/-- What is seen of one key, in order. -/
def letters (key : κ) (history : List (Event κ β)) : List Letter :=
  history.filterMap fun
    | .opened other => if other = key then some .opened else none
    | .received other _ => if other = key then some .received else none
    | .ended other => if other = key then some .ended else none
    | _ => none

/-- Opened once, any number of inputs, ended once; and again. -/
def lives : Language Letter :=
  ({[Letter.opened]} * {[Letter.received]}∗ * {[Letter.ended]})∗

theorem nil_mem_lives : [] ∈ lives := Language.nil_mem_kstar _

/-- One whole life is a word. -/
theorem life_mem (n : ℕ) : [Letter.opened] ++ List.replicate n .received ++ [.ended] ∈
    ({[Letter.opened]} * {[Letter.received]}∗ * {[Letter.ended]} : Language Letter) := by
  refine Language.append_mem_mul (Language.append_mem_mul rfl ?_) rfl
  refine Language.mem_kstar.mpr ⟨List.replicate n [.received], ?_, ?_⟩
  · induction n with
    | zero => rfl
    | succ n ih =>
        rw [List.replicate_succ, List.replicate_succ, List.flatten_cons, ← ih]
        rfl
  · exact fun part member => List.eq_of_mem_replicate member

/-- One more whole life behind a word is a word. -/
theorem append_life_mem_lives {word : List Letter} (member : word ∈ lives) (n : ℕ) :
    word ++ ([.opened] ++ List.replicate n .received ++ [.ended]) ∈ lives := by
  obtain ⟨parts, rfl, whole⟩ := Language.mem_kstar.mp member
  refine Language.mem_kstar.mpr
    ⟨parts ++ [[.opened] ++ List.replicate n .received ++ [.ended]], by simp, ?_⟩
  intro part member
  rcases List.mem_append.mp member with member | member
  · exact whole part member
  · rw [List.mem_singleton] at member
    exact member ▸ life_mem n

@[simp] theorem letters_append (key : κ) (history more : List (Event κ β)) :
    letters key (history ++ more) = letters key history ++ letters key more :=
  List.filterMap_append

@[simp] theorem executedSince_append (key : κ) (history more : List (Event κ β)) :
    executedSince key (history ++ more) =
      more.foldl (executedStep key) (executedSince key history) :=
  List.foldl_append ..

/-- What one event adds to the output submitted for a key; opening it starts afresh. -/
def submittedStep (key : κ) (data : List β) : Event κ β → List β
  | .opened other => if other = key then [] else data
  | .submitted other more => if other = key then data ++ more else data
  | _ => data

/-- The output submitted for a key since it was last opened. -/
def submittedSince (key : κ) (history : List (Event κ β)) : List β :=
  history.foldl (submittedStep key) []

@[simp] theorem submittedSince_append (key : κ) (history more : List (Event κ β)) :
    submittedSince key (history ++ more) =
      more.foldl (submittedStep key) (submittedSince key history) :=
  List.foldl_append ..

/-- The output for a key, of the outputs that wait. -/
def outputFor (key : κ) (waiting : List (κ × List β)) : List β :=
  waiting.flatMap fun entry => if entry.1 = key then entry.2 else []

@[simp] theorem outputFor_cons (key : κ) (entry : κ × List β) (waiting : List (κ × List β)) :
    outputFor key (entry :: waiting) =
      (if entry.1 = key then entry.2 else []) ++ outputFor key waiting :=
  List.flatMap_cons

theorem outputFor_eq_nil {key : κ} {waiting : List (κ × List β)}
    (foreign : ∀ entry ∈ waiting, entry.1 ≠ key) : outputFor key waiting = [] :=
  List.flatMap_eq_nil_iff.mpr fun entry member => if_neg (foreign entry member)

/-! ### A key that is opened with nothing under way -/

/-- What is carried out for a key, and what waits for it, was submitted since the key was
opened: nothing of it is output that an earlier session left behind. -/
def Clean (key : κ) (history : List (Event κ β)) (waiting : List (κ × List β)) : Prop :=
  executedSince key history ++ outputFor key waiting = submittedSince key history

namespace Clean

variable {key other : κ} {data : List β} {history : List (Event κ β)}
  {waiting rest : List (κ × List β)}

theorem nil : Clean key ([] : List (Event κ β)) [] := rfl

/-- A key that is opened where nothing waits for it is clean. -/
theorem opened (clean : Clean key history waiting)
    (fresh : other = key → outputFor key waiting = []) :
    Clean key (history ++ [.opened other]) waiting := by
  unfold Clean at clean ⊢
  by_cases own : other = key
  · simp [executedStep, submittedStep, own, fresh own]
  · simpa [executedStep, submittedStep, own] using clean

theorem submitted (clean : Clean key history waiting) :
    Clean key (history ++ [.submitted other data]) (waiting ++ [(other, data)]) := by
  unfold Clean at clean ⊢
  by_cases own : other = key
  · simp [executedStep, submittedStep, own, ← clean, outputFor]
  · simpa [executedStep, submittedStep, own, outputFor] using clean

theorem executed (clean : Clean key history ((other, data) :: rest)) :
    Clean key (history ++ [.executed other data]) rest := by
  unfold Clean at clean ⊢
  by_cases own : other = key
  · simpa [executedStep, submittedStep, own] using clean
  · simpa [executedStep, submittedStep, own] using clean

theorem received (clean : Clean key history waiting) :
    Clean key (history ++ [.received other data]) waiting := by
  simpa [Clean, executedStep, submittedStep] using clean

theorem ended (clean : Clean key history waiting) :
    Clean key (history ++ [.ended other]) waiting := by
  simpa [Clean, executedStep, submittedStep] using clean

theorem written {n : ℕ} (clean : Clean key history waiting) :
    Clean key (history ++ [.written n data]) waiting := by
  simpa [Clean, executedStep, submittedStep] using clean

end Clean

end Keys

/-! ## The laws -/

namespace Table

variable [DecidableEq κ] {table next : Table κ β} {action : Action κ β}

/-- What a step can do to a table. -/
theorem step_cases (taken : table.step action = some next) :
    (∃ key, table.session key = none ∧ next = table.opened key) ∨
    (∃ key data entry, table.session key = some entry ∧ next = table.received key data) ∨
    (∃ key entry, table.session key = some entry ∧ next = table.ended key) ∨
    (∃ key data, next = table.submitted key data) ∨
    (∃ key data rest, table.waiting = (key, data) :: rest ∧
      next = table.executed key data rest) ∨
    (∃ key count n unsent, table.session key = some (n, unsent) ∧ count ≤ unsent.length ∧
      next = table.wrote key n unsent count) := by
  cases action with
  | «open» key =>
      simp only [step] at taken
      split at taken
      · cases taken
      · next absent =>
          cases taken
          exact Or.inl ⟨key, absent, rfl⟩
  | receive key data =>
      simp only [step] at taken
      split at taken
      · cases taken
      · next entry live =>
          cases taken
          exact Or.inr (Or.inl ⟨key, data, entry, live, rfl⟩)
  | close key =>
      simp only [step] at taken
      split at taken
      · cases taken
      · next entry live =>
          cases taken
          exact Or.inr (Or.inr (Or.inl ⟨key, entry, live, rfl⟩))
  | submit key data =>
      cases taken
      exact Or.inr (Or.inr (Or.inr (Or.inl ⟨key, data, rfl⟩)))
  | execute =>
      simp only [step] at taken
      split at taken
      · cases taken
      · next key data rest front =>
          cases taken
          exact Or.inr (Or.inr (Or.inr (Or.inr (Or.inl ⟨key, data, rest, front, rfl⟩))))
  | write key count =>
      simp only [step] at taken
      split at taken
      · cases taken
      · next n unsent live =>
          split at taken
          · next fits =>
              cases taken
              exact Or.inr (Or.inr (Or.inr (Or.inr (Or.inr
                ⟨key, count, n, unsent, live, fits, rfl⟩))))
          · cases taken

/-! ### Accounts -/

/-- Nothing is lost, doubled or reordered between submission, execution and
writing. -/
structure Accounted (table : Table κ β) : Prop where
  /-- Carried out, then waiting: together what was submitted, in order. -/
  lossless : executions table.history ++ table.waiting = submissions table.history
  number_lt : ∀ {key n unsent}, table.session key = some (n, unsent) → n < table.next
  number_inj : ∀ {key key' n unsent unsent'}, table.session key = some (n, unsent) →
    table.session key' = some (n, unsent') → key = key'
  fresh : ∀ {n}, table.next ≤ n → writtenOn n table.history = []
  /-- Written, then still to write: together what was carried out for the key since
  the session was opened. -/
  balanced : ∀ {key n unsent}, table.session key = some (n, unsent) →
    writtenOn n table.history ++ unsent = executedSince key table.history

theorem accounted_empty : (empty : Table κ β).Accounted :=
  ⟨rfl, nofun, nofun, fun _ => rfl, nofun⟩

/-- A new session has a number of its own, and nothing written or to write. -/
theorem Accounted.opened (accounted : table.Accounted) {key : κ} :
    (table.opened key).Accounted := by
  obtain ⟨lossless, number_lt, number_inj, fresh, balanced⟩ := accounted
  refine ⟨?_, fun live => ?_, fun live live' => ?_, fun small => ?_, fun live => ?_⟩
  · simpa [Table.opened, executions, submissions] using lossless
  · rcases update_eq_some_iff.mp live with ⟨-, same⟩ | ⟨-, live⟩
    · cases same
      exact Nat.lt_succ_self _
    · exact Nat.lt_succ_of_lt (number_lt live)
  · rcases update_eq_some_iff.mp live with ⟨own, same⟩ | ⟨-, old⟩ <;>
      rcases update_eq_some_iff.mp live' with ⟨own', same'⟩ | ⟨-, old'⟩
    · rw [own, own']
    · cases same
      exact absurd (number_lt old') (Nat.lt_irrefl _)
    · cases same'
      exact absurd (number_lt old) (Nat.lt_irrefl _)
    · exact number_inj old old'
  · simpa [Table.opened, writtenOn] using fresh (Nat.le_of_succ_le small)
  · rcases update_eq_some_iff.mp live with ⟨rfl, same⟩ | ⟨apart, live⟩
    · cases same
      simpa [Table.opened, executedStep, writtenOn] using fresh (Nat.le_refl _)
    · simpa [Table.opened, executedStep, writtenOn, Ne.symm apart] using balanced live

/-- A session that ends takes its account with it. -/
theorem Accounted.ended (accounted : table.Accounted) {key : κ} :
    (table.ended key).Accounted := by
  obtain ⟨lossless, number_lt, number_inj, fresh, balanced⟩ := accounted
  have still : ∀ {other entry}, (table.ended key).session other = some entry →
      table.session other = some entry := by
    intro other entry live
    rcases update_eq_some_iff.mp live with ⟨-, same⟩ | ⟨-, live⟩
    · cases same
    · exact live
  refine ⟨?_, fun live => number_lt (still live),
    fun live live' => number_inj (still live) (still live'), fun small => ?_, fun live => ?_⟩
  · simpa [Table.ended, executions, submissions] using lossless
  · simpa [Table.ended, writtenOn] using fresh small
  · simpa [Table.ended, executedStep, writtenOn] using balanced (still live)

/-- An output that is carried out moves from the waiting ones to the account of its
key's session. -/
theorem Accounted.executed (accounted : table.Accounted) {key : κ} {data : List β}
    {rest : List (κ × List β)} (front : table.waiting = (key, data) :: rest) :
    (table.executed key data rest).Accounted := by
  obtain ⟨lossless, number_lt, number_inj, fresh, balanced⟩ := accounted
  -- the key's session, if there is one, has more to write; the others do not
  have before : ∀ {other n unsent}, (table.executed key data rest).session other =
      some (n, unsent) → ∃ old, table.session other = some (n, old) ∧
        unsent = old ++ if key = other then data else [] := by
    intro other n unsent live
    rcases update_eq_some_iff.mp live with ⟨rfl, same⟩ | ⟨apart, live⟩
    · obtain ⟨⟨n', old⟩, held, same⟩ := Option.map_eq_some_iff.mp same
      cases same
      exact ⟨old, held, by simp⟩
    · exact ⟨unsent, live, by simp [Ne.symm apart]⟩
  refine ⟨?_, fun live => ?_, fun live live' => ?_, fun small => ?_, fun live => ?_⟩
  · rw [front] at lossless
    simpa [Table.executed, executions, submissions] using lossless
  · obtain ⟨old, live, -⟩ := before live
    exact number_lt live
  · obtain ⟨old, live, -⟩ := before live
    obtain ⟨old', live', -⟩ := before live'
    exact number_inj live live'
  · simpa [Table.executed, writtenOn] using fresh small
  · obtain ⟨old, held, rfl⟩ := before live
    have sum := balanced held
    simp only [Table.executed, executedSince_append, List.foldl_cons, List.foldl_nil,
      executedStep, ← sum]
    split <;> simp [writtenOn]

/-- What a session writes moves from one half of its account to the other. -/
theorem Accounted.wrote (accounted : table.Accounted) {key : κ} {n count : ℕ}
    {unsent : List β} (live : table.session key = some (n, unsent)) :
    (table.wrote key n unsent count).Accounted := by
  obtain ⟨lossless, number_lt, number_inj, fresh, balanced⟩ := accounted
  refine ⟨?_, fun live' => ?_, fun live' live'' => ?_, fun {m} small => ?_,
    fun {other m left} live' => ?_⟩
  · simpa [Table.wrote, executions, submissions] using lossless
  · rcases update_eq_some_iff.mp live' with ⟨-, same⟩ | ⟨-, old⟩
    · cases same
      exact number_lt live
    · exact number_lt old
  · rcases update_eq_some_iff.mp live' with ⟨own, same⟩ | ⟨apart, old⟩ <;>
      rcases update_eq_some_iff.mp live'' with ⟨own', same'⟩ | ⟨apart', old'⟩
    · rw [own, own']
    · cases same
      exact absurd (number_inj old' live) apart'
    · cases same'
      exact absurd (number_inj old live) apart
    · exact number_inj old old'
  · have apart : n ≠ m := Nat.ne_of_lt (Nat.lt_of_lt_of_le (number_lt live) small)
    simpa [Table.wrote, writtenOn, apart] using fresh small
  · rcases update_eq_some_iff.mp live' with ⟨rfl, same⟩ | ⟨apart, old⟩
    · cases same
      simpa [Table.wrote, executedStep, writtenOn] using balanced live
    · -- another key's session has another number, so nothing was written for it
      have distinct : n ≠ m := by
        rintro rfl
        exact apart (number_inj old live)
      simpa [Table.wrote, executedStep, writtenOn, distinct] using balanced old

/-- Input is on no account. -/
theorem Accounted.received (accounted : table.Accounted) {key : κ} {data : List β} :
    (table.received key data).Accounted := by
  obtain ⟨lossless, number_lt, number_inj, fresh, balanced⟩ := accounted
  refine ⟨?_, number_lt, number_inj, fun small => ?_, fun live => ?_⟩
  · simpa [Table.received, executions, submissions] using lossless
  · simpa [Table.received, writtenOn] using fresh small
  · simpa [Table.received, executedStep, writtenOn] using balanced live

/-- What is submitted waits. -/
theorem Accounted.submitted (accounted : table.Accounted) {key : κ} {data : List β} :
    (table.submitted key data).Accounted := by
  obtain ⟨lossless, number_lt, number_inj, fresh, balanced⟩ := accounted
  refine ⟨?_, number_lt, number_inj, fun small => ?_, fun live => ?_⟩
  · show executions (_ ++ [_]) ++ (table.waiting ++ [(key, data)]) = submissions (_ ++ [_])
    rw [executions_append, submissions_append, ← lossless]
    simp [executions, submissions]
  · simpa [Table.submitted, writtenOn] using fresh small
  · simpa [Table.submitted, executedStep, writtenOn] using balanced live

theorem Accounted.step (accounted : table.Accounted) (taken : table.step action = some next) :
    next.Accounted := by
  rcases step_cases taken with ⟨key, absent, rfl⟩ | ⟨key, data, entry, live, rfl⟩ |
    ⟨key, entry, live, rfl⟩ | ⟨key, data, rfl⟩ | ⟨key, data, rest, front, rfl⟩ |
    ⟨key, count, n, unsent, live, fits, rfl⟩
  · exact accounted.opened
  · exact accounted.received
  · exact accounted.ended
  · exact accounted.submitted
  · exact accounted.executed front
  · exact accounted.wrote live

/-! ### Which keys have a session -/

/-- The keys with a session are those opened and not ended since. -/
def Tracked (table : Table κ β) : Prop :=
  ∀ key, (table.session key).isSome = true ↔ Connected key table.history

omit [DecidableEq κ] in
theorem tracked_empty : (empty : Table κ β).Tracked := by
  intro key
  simp [empty, Connected]

theorem Tracked.step (tracked : table.Tracked) (taken : table.step action = some next) :
    next.Tracked := by
  intro other
  have before := tracked other
  rcases step_cases taken with ⟨key, absent, rfl⟩ | ⟨key, data, entry, live, rfl⟩ |
    ⟨key, entry, live, rfl⟩ | ⟨key, data, rfl⟩ | ⟨key, data, rest, front, rfl⟩ |
    ⟨key, count, n, unsent, live, fits, rfl⟩
  · by_cases same : other = key
    · simp [opened, connected_concat, same]
    · simp [opened, connected_concat, same, before, Ne.symm same]
  · simp [received, connected_concat, before]
  · by_cases same : other = key
    · simp [ended, connected_concat, same]
    · simp [ended, connected_concat, same, before, Ne.symm same]
  · simp [submitted, connected_concat, before]
  · by_cases same : other = key
    · simp [executed, connected_concat, same, tracked key]
    · simp [executed, connected_concat, same, before]
  · by_cases same : other = key
    · simp [wrote, connected_concat, same, ← tracked key, live]
    · simp [wrote, connected_concat, same, before]

/-! ### What is seen of one key -/

/-- What is seen of a key is whole lives, and the front of one more where the key
has a session. -/
structure Lived (table : Table κ β) : Prop where
  idle : ∀ {key}, table.session key = none → letters key table.history ∈ lives
  live : ∀ {key entry}, table.session key = some entry → ∃ word ∈ lives, ∃ n,
    letters key table.history = word ++ ([.opened] ++ List.replicate n .received)

theorem lived_empty : (empty : Table κ β).Lived := ⟨fun _ => nil_mem_lives, nofun⟩

/-- **What is seen of a key is a word of `lives`, possibly cut short.** -/
theorem Lived.letters_prefix (lived : table.Lived) (key : κ) :
    ∃ rest, letters key table.history ++ rest ∈ lives := by
  cases entry : table.session key with
  | none => exact ⟨[], by simpa using lived.idle entry⟩
  | some entry' =>
      obtain ⟨word, member, n, same⟩ := lived.live entry
      refine ⟨[.ended], ?_⟩
      rw [same, List.append_assoc]
      exact append_life_mem_lives member n

/-- The keys with a session and what is seen of every key are as before. -/
theorem Lived.of_same (lived : table.Lived)
    (same : ∀ key, (next.session key).isSome = (table.session key).isSome ∧
      letters key next.history = letters key table.history) : next.Lived where
  idle {key} absent := by
    rw [(same key).2]
    apply lived.idle
    have known := (same key).1
    rw [absent] at known
    simpa using known.symm
  live {key entry} present := by
    rw [(same key).2]
    have known := (same key).1
    rw [present, Option.isSome_some] at known
    obtain ⟨entry', present'⟩ := Option.isSome_iff_exists.mp known.symm
    exact lived.live present'

theorem Lived.opened (lived : table.Lived) {key : κ} (absent : table.session key = none) :
    (table.opened key).Lived where
  idle {other} absent' := by
    by_cases same : other = key
    · simp [Table.opened, same] at absent'
    · have old : table.session other = none := by
        simpa [Table.opened, same] using absent'
      simpa [Table.opened, letters, Ne.symm same] using lived.idle old
  live {other entry} live := by
    rcases update_eq_some_iff.mp live with ⟨rfl, -⟩ | ⟨apart, old⟩
    · exact ⟨_, lived.idle absent, 0, by simp [Table.opened, letters]⟩
    · simpa [Table.opened, letters, Ne.symm apart] using lived.live old

theorem Lived.received (lived : table.Lived) {key : κ} {data : List β} {entry : ℕ × List β}
    (live : table.session key = some entry) :
    (table.received key data).Lived where
  idle {other} absent := by
    have apart : key ≠ other := by
      rintro rfl
      rw [show (table.received key data).session key = some entry from live] at absent
      cases absent
    simpa [Table.received, letters, apart] using lived.idle absent
  live {other entry'} live' := by
    obtain ⟨word, member, n, seen⟩ := lived.live live'
    show ∃ word ∈ lives, ∃ n, letters other (table.history ++ [.received key data]) = _
    rw [letters_append, seen]
    by_cases same : key = other
    · refine ⟨word, member, n + 1, ?_⟩
      simp [letters, same, List.replicate_succ']
    · exact ⟨word, member, n, by simp [letters, same]⟩

theorem Lived.ended (lived : table.Lived) {key : κ} {entry : ℕ × List β}
    (live : table.session key = some entry) : (table.ended key).Lived where
  idle {other} absent := by
    by_cases same : other = key
    · subst same
      obtain ⟨word, member, n, seen⟩ := lived.live live
      show letters other (_ ++ [_]) ∈ lives
      rw [letters_append, seen, List.append_assoc]
      simpa [letters] using append_life_mem_lives member n
    · have old : table.session other = none := by
        simpa [Table.ended, same] using absent
      simpa [Table.ended, letters, Ne.symm same] using lived.idle old
  live {other entry'} live' := by
    rcases update_eq_some_iff.mp live' with ⟨-, none⟩ | ⟨apart, old⟩
    · cases none
    · simpa [Table.ended, letters, Ne.symm apart] using lived.live old

theorem Lived.step (lived : table.Lived) (taken : table.step action = some next) :
    next.Lived := by
  rcases step_cases taken with ⟨key, absent, rfl⟩ | ⟨key, data, entry, live, rfl⟩ |
    ⟨key, entry, live, rfl⟩ | ⟨key, data, rfl⟩ | ⟨key, data, rest, front, rfl⟩ |
    ⟨key, count, n, unsent, live, fits, rfl⟩
  · exact lived.opened absent
  · exact lived.received live
  · exact lived.ended live
  · exact lived.of_same fun other => ⟨rfl, by simp [submitted, letters]⟩
  · refine lived.of_same fun other => ⟨?_, by simp [executed, letters]⟩
    by_cases same : other = key
    · simp [executed, same]
    · simp [executed, same]
  · refine lived.of_same fun other => ⟨?_, by simp [wrote, letters]⟩
    by_cases same : other = key
    · simp [wrote, same, live]
    · simp [wrote, same]

/-- **The three laws hold of every run.** -/
theorem run_laws {actions : List (Action κ β)} {table : Table κ β}
    (runs : run step empty actions = some table) :
    table.Accounted ∧ table.Tracked ∧ table.Lived :=
  run_invariant (I := fun table => table.Accounted ∧ table.Tracked ∧ table.Lived)
    (fun _ _ _ laws taken => ⟨laws.1.step taken, laws.2.1.step taken, laws.2.2.step taken⟩)
    actions ⟨accounted_empty, tracked_empty, lived_empty⟩ runs

end Table

end ServerLib.Sessions
