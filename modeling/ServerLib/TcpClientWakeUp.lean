import ServerLib.TcpClientEffects

/-!
# Does every message wake the loop?

`Send` leaves its function in `m_Functions` and notifies `m_Async`; the loop clears the
notification, and then its callback swaps the list.  A function that lands in the list
while nothing tells the loop about it stays there until some later `Send`.

In the model of `CTcpClient` a call of `Send` is one step.  Here it is four, as other
threads see it: it takes the lock, appends to the list, notifies, and gives the lock
back.  Between any two of them the loop and `Start` may move, and the loop takes the
lock itself when it swaps.  `run_send` says that the four steps, taken without
interruption, are the one step of the coarser model.

`Covered` is the invariant behind `Start`'s own `m_Async.send()`: outside the critical
section a list that is not empty has a notification pending, or a callback that has not
swapped it yet.  What is load-bearing is that the list grows before the notification,
and that the loop clears the notification before it swaps.  `Send` before `Start` is
covered by `Start` alone: starting the watcher discards the earlier notifications.
-/

namespace ServerLib

open Transition

/-- How far a thread has come in the critical section of `Send`. -/
inductive SendStage where
  | entered (pData : Bytes)
  /-- Behind `m_Functions.push_back(…)`. -/
  | pushed
  /-- Behind `m_Async.send()`. -/
  | notified
  deriving DecidableEq, Repr

/-- `CTcpClient` with its lock: `inside` is the thread in the critical section of
`Send`, if there is one. -/
structure ThreadedClient where
  client : TcpClient
  inside : Option SendStage

namespace ThreadedClient

/-- Nobody holds the lock. -/
def new : ThreadedClient := ⟨TcpClient.new, none⟩

/-- Who moves. -/
inductive Label where
  /-- `Send(pData, nDataLen)`: `pthread_spin_lock`. -/
  | lock (pData : Bytes)
  /-- `m_Functions.push_back(…)`. -/
  | push
  /-- `m_Async.send()`. -/
  | notify
  /-- `pthread_spin_unlock`. -/
  | unlock
  /-- `Start`, `Stop`, the loop and the rest of the process. -/
  | other (label : TcpClient.Label)
  deriving DecidableEq, Repr

/-- One step.  The calls of `Send` go through the critical section, and the callback
needs the lock for its swap. -/
def step (state : ThreadedClient) : Label → Option ThreadedClient
  | .lock pData => if state.inside = none then some { state with inside := some (.entered pData) }
      else none
  | .push =>
      match state.inside with
      | some (.entered pData) => some
          { client := { state.client.emit (.sent pData) with
              functions := state.client.functions ++ [OutputBuffer.new pData] }
            inside := some .pushed }
      | _ => none
  | .notify =>
      if state.inside = some .pushed then
        some ⟨{ state.client with async := state.client.async.send }, some .notified⟩
      else
        none
  | .unlock => if state.inside = some .notified then some { state with inside := none } else none
  | .other (.send _) => none
  | .other .asyncSwap =>
      if state.inside = none then
        (state.client.step .asyncSwap).map fun client => { state with client := client }
      else
        none
  | .other label => (state.client.step label).map fun client => { state with client := client }

/-- **The four steps of a call of `Send` are the one step of the coarser model.** -/
theorem run_send (client : TcpClient) (pData : Bytes) :
    run step ⟨client, none⟩ [.lock pData, .push, .notify, .unlock] =
      some ⟨client.send pData, none⟩ :=
  rfl

/-! ## What the steps do to the list and the watcher -/

/-- A notification is pending, or a callback that has not swapped the list is about to
run. -/
def Awake (async : AsyncWatcher) : Prop :=
  async.active = true ∧ async.sent = true ∨ async.queued = true

/-- What the steps of the client do to the list, the watcher and the phase. -/
def Moves (client next : TcpClient) : TcpClient.Label → Prop
  | .startAsync _ _ => next.async = client.async.start ∧ next.functions = client.functions
  | .startNotify => client.phase = .started ∧ next.async = client.async.send ∧
      next.functions = client.functions
  | .startConnect _ => client.phase = .notified ∧ next.async = client.async ∧
      next.functions = client.functions
  | .stop => next.phase = .outside
  | .asyncDispatch => next.async = { client.async with sent := false, queued := true } ∧
      next.functions = client.functions ∧ next.phase = client.phase
  | .asyncSwap => next.async.active = client.async.active ∧ next.functions = [] ∧
      next.phase = client.phase
  | .send _ => True
  | .asyncExec | .io .. | .otherOpen _ | .otherClose _ => next.async = client.async ∧
      next.functions = client.functions ∧ next.phase = client.phase

section Step

variable {client next : TcpClient}

theorem connect_async {fd : Int32} {success : Bool}
    (called : client.connect fd = some (next, success)) :
    next.async = client.async ∧ next.functions = client.functions ∧
      next.phase = client.phase := by
  have dropped : client.dropSocket.async = client.async ∧
      client.dropSocket.functions = client.functions ∧ client.dropSocket.phase = client.phase := by
    unfold TcpClient.dropSocket
    split <;> exact ⟨rfl, rfl, rfl⟩
  rcases TcpClient.connect_cases called with ⟨-, -, rfl⟩ | ⟨-, -, -, rfl⟩ | ⟨-, -, -, rfl⟩ <;>
    exact dropped

theorem ioCallback_async {revents : Revents} {nRead : RecvResult} {nWritten : WriteResult}
    {errno fd : Int32} (called : client.ioCallback revents nRead nWritten errno fd = some next) :
    next.async = client.async ∧ next.functions = client.functions ∧
      next.phase = client.phase := by
  obtain ⟨-, after, read, rest⟩ := TcpClient.ioCallback_cases called
  have before : after.async = client.async ∧ after.functions = client.functions ∧
      after.phase = client.phase := by
    cases read <;> exact ⟨rfl, rfl, rfl⟩
  rcases rest with ⟨-, told, reported, failed⟩ | ⟨-, written⟩
  · obtain ⟨success, connected⟩ := TcpClient.connect_of_reconnect failed
    obtain ⟨async, functions, phase⟩ := connect_async connected
    rw [async, functions, phase]
    cases reported <;> exact before
  · cases written <;> exact before

theorem moves_of_step {label : TcpClient.Label} (taken : client.step label = some next) :
    Moves client next label := by
  cases TcpClient.stepped_of_step taken with
  | startAsync => exact ⟨rfl, rfl⟩
  | startNotify started => exact ⟨started, rfl, rfl⟩
  | startConnect notified connected =>
      obtain ⟨async, functions, -⟩ := connect_async connected
      exact ⟨notified, async, functions⟩
  | stop => exact rfl
  | send => exact trivial
  | dispatched | swapped | pushed | refused | otherOpen | otherClose => exact ⟨rfl, rfl, rfl⟩
  | io idle called => exact ioCallback_async called

end Step

/-! ## The invariants -/

/-- While `Start` runs, the watcher is active. -/
def Wired (state : ThreadedClient) : Prop :=
  state.client.phase ≠ .outside → state.client.async.active = true

/-- Where nobody is between growing the list and notifying, a list that is not empty
has the loop awake. -/
structure Covered (state : ThreadedClient) : Prop where
  active : state.client.async.active = true
  awake : state.inside ≠ some .pushed → state.client.functions ≠ [] → Awake state.client.async

section Keep

variable {state next : ThreadedClient}

/-- **What a step does**: one of the four of a call of `Send`, in their order, or a step of
the client. -/
inductive Stepped (state : ThreadedClient) : Label → ThreadedClient → Prop where
  | lock (pData : Bytes) : state.inside = none →
      Stepped state (.lock pData) { state with inside := some (.entered pData) }
  | push {pData : Bytes} : state.inside = some (.entered pData) →
      Stepped state .push
        { client := { state.client.emit (.sent pData) with
            functions := state.client.functions ++ [OutputBuffer.new pData] }
          inside := some .pushed }
  | notify : state.inside = some .pushed →
      Stepped state .notify
        ⟨{ state.client with async := state.client.async.send }, some .notified⟩
  | unlock : state.inside = some .notified → Stepped state .unlock { state with inside := none }
  | other {label : TcpClient.Label} {client : TcpClient} : (∀ pData, label ≠ .send pData) →
      state.client.step label = some client →
      Stepped state (.other label) { state with client := client }

theorem stepped_of_step {label : Label} (taken : state.step label = some next) :
    Stepped state label next := by
  cases label with
  | lock pData =>
      obtain ⟨free, same⟩ := Option.ite_none_right_eq_some.mp taken
      obtain rfl := Option.some.inj same
      exact .lock pData free
  | push =>
      unfold ThreadedClient.step at taken
      dsimp only at taken
      split at taken
      · next pData entered =>
          obtain rfl := Option.some.inj taken
          exact .push entered
      · cases taken
  | notify =>
      obtain ⟨pushed, same⟩ := Option.ite_none_right_eq_some.mp taken
      obtain rfl := Option.some.inj same
      exact .notify pushed
  | unlock =>
      obtain ⟨notified, same⟩ := Option.ite_none_right_eq_some.mp taken
      obtain rfl := Option.some.inj same
      exact .unlock notified
  | other label =>
      have lift : (∀ pData, label ≠ .send pData) →
          (state.client.step label).map (fun client => { state with client := client }) =
            some next → Stepped state (.other label) next := by
        intro own mapped
        obtain ⟨client, moved, rfl⟩ := Option.map_eq_some_iff.mp mapped
        exact .other own moved
      cases label with
      | send pData => cases taken
      | asyncSwap =>
          obtain ⟨-, swapped⟩ := Option.ite_none_right_eq_some.mp taken
          exact lift nofun swapped
      | startAsync | startNotify | startConnect | stop | asyncDispatch | asyncExec | io
      | otherOpen | otherClose => exact lift nofun taken

theorem Wired.step (wired : state.Wired) {label : Label} (taken : state.step label = some next) :
    next.Wired := by
  cases stepped_of_step taken with
  | lock | push | notify | unlock => exact wired
  | @other label client own moved =>
      have moves := moves_of_step moved
      intro outside
      cases label with
      | startAsync IP Port => exact moves.1 ▸ AsyncWatcher.active_start _
      | startNotify => exact moves.2.1 ▸ wired (by rw [moves.1]; exact nofun)
      | startConnect fd => exact moves.2.1 ▸ wired (by rw [moves.1]; exact nofun)
      | stop => exact absurd moves outside
      | send pData => exact absurd rfl (own pData)
      | asyncDispatch => exact moves.1 ▸ wired (moves.2.2 ▸ outside)
      | asyncSwap => exact moves.1.trans (wired (moves.2.2 ▸ outside))
      | asyncExec | io | otherOpen | otherClose => exact moves.1 ▸ wired (moves.2.2 ▸ outside)

/-- **`m_Async.send()` in `Start` covers whatever has been sent before.** -/
theorem Wired.covered (wired : state.Wired)
    (taken : state.step (.other .startNotify) = some next) : next.Covered := by
  cases stepped_of_step taken with
  | other _ moved =>
      obtain ⟨started, async, -⟩ := moves_of_step moved
      have active : state.client.async.active = true := wired (by rw [started]; exact nofun)
      exact ⟨async ▸ active, fun _ _ => Or.inl ⟨async ▸ active, async ▸ rfl⟩⟩

/-- **Every step but `Stop` keeps the loop awake.** -/
theorem Covered.step (covered : state.Covered) {label : Label} (runs : label ≠ .other .stop)
    (taken : state.step label = some next) : next.Covered := by
  cases stepped_of_step taken with
  | lock pData free =>
      exact ⟨covered.active, fun _ => covered.awake (by rw [free]; exact nofun)⟩
  | push => exact ⟨covered.active, fun outside => absurd rfl outside⟩
  | notify => exact ⟨covered.active, fun _ _ => Or.inl ⟨covered.active, rfl⟩⟩
  | unlock behind =>
      exact ⟨covered.active, fun _ => covered.awake (by rw [behind]; exact nofun)⟩
  | @other label client own moved =>
      have moves := moves_of_step moved
      have same : client.async = state.client.async →
          client.functions = state.client.functions →
          Covered { state with client := client } := by
        intro async functions
        refine ⟨async ▸ covered.active, ?_⟩
        rw [functions, async]
        exact covered.awake
      cases label with
      | startAsync IP Port =>
          -- the watcher is active already, so nothing is discarded
          refine same (moves.1.trans ?_) moves.2
          exact if_pos covered.active
      | startNotify =>
          exact ⟨moves.2.1 ▸ covered.active,
            fun _ _ => Or.inl ⟨moves.2.1 ▸ covered.active, moves.2.1 ▸ rfl⟩⟩
      | startConnect fd => exact same moves.2.1 moves.2.2
      | stop => exact absurd rfl runs
      | send pData => exact absurd rfl (own pData)
      | asyncDispatch =>
          exact ⟨moves.1 ▸ covered.active, fun _ _ => Or.inr (moves.1 ▸ rfl)⟩
      | asyncSwap =>
          exact ⟨moves.1.trans covered.active, fun _ nonempty => absurd moves.2.1 nonempty⟩
      | asyncExec | io | otherOpen | otherClose => exact same moves.1 moves.2.1

end Keep

/-- **No wake-up is lost.**  Behind the `m_Async.send()` of a `Start`, and before
`Stop`, a list that is not empty outside the critical section has a notification
pending, or a callback about to run that has not swapped it yet. -/
theorem awake_of_started {front back : List Label} {last : ThreadedClient}
    (running : .other .stop ∉ back)
    (runs : run step new (front ++ .other .startNotify :: back) = some last)
    (outside : last.inside = none) (waiting : last.client.functions ≠ []) :
    Awake last.client.async := by
  rw [run_append, Option.bind_eq_some_iff] at runs
  obtain ⟨before, starts, runs⟩ := runs
  rw [run_cons, Option.bind_eq_some_iff] at runs
  obtain ⟨notified, taken, runs⟩ := runs
  have wired : before.Wired :=
    run_invariant (fun _ _ _ wired taken => Wired.step wired taken) front
      (fun outside => absurd rfl outside) starts
  have along : Along step (fun _ label => label ≠ .other .stop) notified back := by
    refine along_of_labels back (fun label member _ => ?_) notified
    rintro rfl
    exact running member
  have covered : last.Covered :=
    run_invariant_along (fun _ _ _ covered runs taken => Covered.step covered runs taken) back
      (wired.covered taken) along runs
  exact covered.awake (by rw [outside]; exact nofun) waiting

/-- A message sent before `Start`, another one while the callback is about to run. -/
theorem awake_of_early_send :
    ∃ last, run step new ([.lock [1], .push, .notify, .unlock,
        .other (.startAsync 2130706433 8888)] ++ .other .startNotify ::
        [.other (.startConnect 3), .other .asyncDispatch, .lock [2], .push, .notify,
          .unlock]) = some last ∧ Awake last.client.async := by
  obtain ⟨last, runs, outside, waiting⟩ : ∃ last, run step new ([.lock [1], .push, .notify,
      .unlock, .other (.startAsync 2130706433 8888)] ++ .other .startNotify ::
      [.other (.startConnect 3), .other .asyncDispatch, .lock [2], .push, .notify,
        .unlock]) = some last ∧ last.inside = none ∧ last.client.functions ≠ [] :=
    ⟨_, rfl, by decide +kernel⟩
  exact ⟨last, runs, awake_of_started (by decide) runs outside waiting⟩

end ThreadedClient

end ServerLib
