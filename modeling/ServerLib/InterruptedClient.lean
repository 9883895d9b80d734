import ServerLib.TcpClientWatcher

/-!
# The client, called at any moment

In the model of `CTcpClient` a callback is one step, and `Stop` comes when none is running.
But a handler may call `Stop`, and `Start` again, from inside the callback that reports to it;
another thread may call `Stop` in the second that `__IoCallback` sleeps in front of
`__Connect`, or between two steps of `Start`.  The callback and `Start` then go on as if
nothing had happened.

Here `Start` and `__IoCallback` are taken apart where others can come between.  What a call
that has not returned still has to do is one of `rests`: for the callback the `EV_WRITE`
branch, behind `OnDataReceived`, and `__Connect()`, behind a report and `sleep(1)`.  Any of
the calls may go on at any moment, and `Start` and `Stop` may be called at any moment, from
handlers, from nested loops or from other threads.  Who calls is not asked, nor whether a
loop runs that could call back, so there are more orders here than in a program; what holds
of all of them holds of those.

`ioCallback_eq` says that the parts of the callback, taken without interruption, are the
callback, and `exists_run_of_run` that every run of the coarser model is one of this.
-/

namespace ServerLib

open Transition

/-- What a call of `Start` or `__IoCallback` that has not returned still has to do. -/
inductive ClientRest where
  /-- `Start`, behind `m_Async.start()`. -/
  | notify
  /-- `Start`, behind `m_Async.send()`. -/
  | connect
  /-- `__IoCallback`: the `EV_WRITE` branch. -/
  | write
  /-- `__IoCallback`, behind a report: `sleep(1)` and `__Connect()`. -/
  | reconnect
  deriving DecidableEq, Repr

namespace TcpClient

/-! ## `__IoCallback` in parts -/

/-- Where the read branch does not end the callback. -/
def behindRead (revents : Revents) : Option ClientRest :=
  if revents.write then some .write else none

/-- `__IoCallback(watcher, revents)` up to the first call of a handler, or to its `EV_WRITE`
branch. -/
def ioFront (client : TcpClient) (revents : Revents) (nRead : RecvResult) (errno : Int32) :
    Option (TcpClient × Option ClientRest) :=
  if Reported client.io revents then
    if revents.error then
      some (client.unwatched.emit (.onDisconnected client.socketClient errno), some .reconnect)
    else if revents.read then
      if nRead.Possible client.Opened then
        match nRead with
        | .eof => some (client.emit (.onDisconnected client.socketClient 0), some .reconnect)
        | .again => some (client, behindRead revents)
        | .error errno =>
            some (client.emit (.onRecvError client.socketClient errno), some .reconnect)
        | .data pData =>
            some (client.emit (.onDataReceived client.socketClient pData
              (client.owner client.io.fd)), behindRead revents)
      else
        none
    else
      some (client, behindRead revents)
  else
    none

/-- The `EV_WRITE` branch of `__IoCallback`, up to its call of a handler. -/
def ioBack (client : TcpClient) (nWritten : WriteResult) :
    Option (TcpClient × Option ClientRest) :=
  match client.writeQueue with
  | [] => some ({ client with io := client.io.set Interest.readOnly }, none)
  | pBuffer :: rest =>
      if nWritten.Possible client.Opened pBuffer.getBytes then
        match nWritten with
        | .again => some (client, none)
        | .error errno =>
            some (client.emit (.onSendError client.socketClient errno none), some .reconnect)
        | .wrote count =>
            if fits : count ≤ pBuffer.getBytes then
              some (client.advanced pBuffer rest count fits, none)
            else
              none
      else
        none

/-- `__Connect()`, where a part of the callback has left it. -/
def connectLast (fd : Int32) : TcpClient × Option ClientRest → Option TcpClient
  | (client, none) => some client
  | (client, some .reconnect) => client.reconnect fd
  | (_, some _) => none

/-- All that the first part of the callback has left, done at once. -/
def finish (nWritten : WriteResult) (fd : Int32) :
    TcpClient × Option ClientRest → Option TcpClient
  | (client, some .write) => (client.ioBack nWritten).bind (connectLast fd)
  | left => connectLast fd left

theorem ioWrite_eq (client : TcpClient) (nWritten : WriteResult) (fd : Int32) :
    client.ioWrite nWritten fd = (client.ioBack nWritten).bind (connectLast fd) := by
  unfold ioWrite ioBack
  cases client.writeQueue with
  | nil => rfl
  | cons pBuffer rest =>
      dsimp only
      by_cases possible : nWritten.Possible client.Opened pBuffer.getBytes
      · simp only [if_pos possible]
        cases nWritten with
        | again => rfl
        | error errno => rfl
        | wrote count =>
            by_cases fits : count ≤ pBuffer.getBytes
            · simp only [dif_pos fits]
              rfl
            · simp only [dif_neg fits]
              rfl
      · simp only [if_neg possible]
        rfl

/-- **The parts are the callback.** -/
theorem ioCallback_eq (client : TcpClient) (revents : Revents) (nRead : RecvResult)
    (nWritten : WriteResult) (errno fd : Int32) :
    client.ioCallback revents nRead nWritten errno fd =
      (client.ioFront revents nRead errno).bind (finish nWritten fd) := by
  have behind : ∀ after : TcpClient,
      (if revents.write then after.ioWrite nWritten fd else some after) =
        finish nWritten fd (after, behindRead revents) := by
    intro after
    unfold behindRead
    cases revents.write with
    | true => exact ioWrite_eq after nWritten fd
    | false => rfl
  unfold ioCallback ioFront
  by_cases reported : Reported client.io revents
  · simp only [if_pos reported]
    cases error : revents.error with
    | true => rfl
    | false =>
        cases asked : revents.read with
        | false => exact behind client
        | true =>
            simp only [ioRead, Bool.false_eq_true, if_false, if_true]
            by_cases possible : nRead.Possible client.Opened
            · simp only [if_pos possible]
              cases nRead with
              | eof =>
                  show (Option.map _ (reconnect _ fd)).bind _ = reconnect _ fd
                  cases reconnect _ fd <;> rfl
              | error errno =>
                  show (Option.map _ (reconnect _ fd)).bind _ = reconnect _ fd
                  cases reconnect _ fd <;> rfl
              | again => exact behind _
              | data pData => exact behind _
            · simp only [if_neg possible]
              rfl
  · simp only [if_neg reported]
    rfl

end TcpClient

/-! ## Calls at any moment -/

/-- `CTcpClient`, and what the calls that have not returned still have to do. -/
structure InterruptedClient where
  client : TcpClient
  rests : List ClientRest

namespace InterruptedClient

/-- `CTcpClient()`. -/
def new : InterruptedClient := ⟨TcpClient.new, []⟩

/-- One of the calls goes on; `part` is what it does, and what it has left then. -/
def resume (state : InterruptedClient) (rest : ClientRest)
    (part : Option (TcpClient × Option ClientRest)) : Option InterruptedClient :=
  if rest ∈ state.rests then
    part.map fun gone => ⟨gone.1, gone.2.toList ++ state.rests.erase rest⟩
  else
    none

/-- Who moves, and what the environment answers. -/
inductive Label where
  /-- `Start(IP, Port)` is called: up to `m_Async.start()`. -/
  | startAsync (IP : UInt32) (Port : UInt16)
  /-- `Start`: `m_Async.send()`. -/
  | startNotify
  /-- `Start`: `__Connect()`. -/
  | startConnect (fd : Int32)
  /-- `Stop()` is called. -/
  | stop
  | send (pData : Bytes)
  | asyncDispatch
  | asyncSwap
  | asyncExec
  /-- `__IoCallback` is invoked. -/
  | ioFront (revents : Revents) (nRead : RecvResult) (errno : Int32)
  /-- `__IoCallback`: the `EV_WRITE` branch. -/
  | ioBack (nWritten : WriteResult)
  /-- `__IoCallback`, behind a report and `sleep(1)`: `__Connect()`. -/
  | reconnect (fd : Int32)
  /-- The rest of the process opens a descriptor. -/
  | otherOpen (fd : Int32)
  /-- The rest of the process closes a descriptor of its own. -/
  | otherClose (fd : Int32)
  deriving DecidableEq, Repr

/-- One step.  A nested `__AsyncCallback` takes its functions in front of those that an outer
one has left. -/
def step (state : InterruptedClient) : Label → Option InterruptedClient
  | .startAsync IP Port => some ⟨state.client.startAsync IP Port, .notify :: state.rests⟩
  | .startNotify => state.resume .notify (some (state.client.startNotify, some .connect))
  | .startConnect fd =>
      state.resume .connect ((state.client.startConnect fd).map fun client => (client, none))
  | .stop => some { state with client := state.client.stop }
  | .send pData => some { state with client := state.client.send pData }
  | .asyncDispatch => state.client.asyncDispatch.map fun client => { state with client := client }
  | .asyncSwap =>
      state.client.asyncSwap.map fun client =>
        { state with client := { client with batch := client.batch ++ state.client.batch } }
  | .asyncExec => state.client.asyncExec.map fun client => { state with client := client }
  | .ioFront revents nRead errno =>
      (state.client.ioFront revents nRead errno).map fun front =>
        ⟨front.1, front.2.toList ++ state.rests⟩
  | .ioBack nWritten => state.resume .write (state.client.ioBack nWritten)
  | .reconnect fd =>
      state.resume .reconnect ((state.client.reconnect fd).map fun client => (client, none))
  | .otherOpen fd => (state.client.step (.otherOpen fd)).map fun client =>
      { state with client := client }
  | .otherClose fd => (state.client.step (.otherClose fd)).map fun client =>
      { state with client := client }

/-! ## The coarser model -/

/-- What a call of `Start` has left in a phase of the coarser model. -/
def restsOf : StartPhase → List ClientRest
  | .outside => []
  | .started => [.notify]
  | .notified => [.connect]
  | .looping => []

/-- A state of the coarser model. -/
def ofClient (client : TcpClient) : InterruptedClient := ⟨client, restsOf client.phase⟩

section Refines

variable {client next : TcpClient}

theorem resume_head {rests : List ClientRest} {rest : ClientRest}
    (part : Option (TcpClient × Option ClientRest)) :
    (⟨client, rest :: rests⟩ : InterruptedClient).resume rest part =
      part.map fun gone => ⟨gone.1, gone.2.toList ++ rests⟩ := by
  rw [resume, if_pos List.mem_cons_self, List.erase_cons_head]

/-- `__Connect()` as a step, where it is left. -/
theorem exists_run_connectLast (rests : List ClientRest) (fd : Int32)
    {left : TcpClient × Option ClientRest}
    (finished : TcpClient.connectLast fd left = some next) :
    ∃ moves, run step ⟨left.1, left.2.toList ++ rests⟩ moves = some ⟨next, rests⟩ := by
  obtain ⟨client, _ | rest⟩ := left
  · obtain rfl := Option.some.inj finished
    exact ⟨[], rfl⟩
  · cases rest with
    | reconnect =>
        have called : client.reconnect fd = some next := finished
        have taken : step ⟨client, .reconnect :: rests⟩ (.reconnect fd) = some ⟨next, rests⟩ := by
          show resume _ _ _ = _
          rw [resume_head, called]
          rfl
        exact ⟨[.reconnect fd], (run_cons ..).trans (congrArg (Option.bind · _) taken)⟩
    | notify | connect | write => cases finished

/-- The rest of the callback as steps. -/
theorem exists_run_finish (rests : List ClientRest) (nWritten : WriteResult) (fd : Int32)
    {left : TcpClient × Option ClientRest}
    (finished : TcpClient.finish nWritten fd left = some next) :
    ∃ moves, run step ⟨left.1, left.2.toList ++ rests⟩ moves = some ⟨next, rests⟩ := by
  obtain ⟨client, _ | rest⟩ := left
  · exact exists_run_connectLast rests fd finished
  · cases rest with
    | write =>
        obtain ⟨back, wrote, behind⟩ := Option.bind_eq_some_iff.mp finished
        have taken : step ⟨client, .write :: rests⟩ (.ioBack nWritten) =
            some ⟨back.1, back.2.toList ++ rests⟩ := by
          show resume _ _ _ = _
          rw [resume_head, wrote]
          rfl
        obtain ⟨moves, runs⟩ := exists_run_connectLast rests fd behind
        refine ⟨.ioBack nWritten :: moves, ?_⟩
        exact ((run_cons ..).trans (congrArg (Option.bind · _) taken)).trans runs
    | notify | connect | reconnect => exact exists_run_connectLast rests fd finished

/-- A phase in which no call of `Start` is under way. -/
theorem restsOf_eq_nil {phase : StartPhase} (free : phase = .outside ∨ phase = .looping) :
    restsOf phase = [] := by
  rcases free with rfl | rfl <;> rfl

theorem exists_run_single {state last : InterruptedClient} (move : Label)
    (taken : state.step move = some last) : ∃ moves, run step state moves = some last :=
  ⟨[move], (run_cons ..).trans (congrArg (Option.bind · _) taken)⟩

/-- **A step of the coarser model is a few steps of this one.** -/
theorem exists_run_of_step {label : TcpClient.Label} (taken : client.step label = some next) :
    ∃ moves, run step (ofClient client) moves = some (ofClient next) := by
  have samePhase : ∀ move, next.phase = client.phase →
      step (ofClient client) move = some { ofClient client with client := next } →
      ∃ moves, run step (ofClient client) moves = some (ofClient next) := by
    intro move same moved
    refine exists_run_single move (moved.trans ?_)
    rw [ofClient, ofClient, same]
  cases TcpClient.stepped_of_step taken with
  | startAsync IP Port outside =>
      refine exists_run_single (.startAsync IP Port) ?_
      rw [ofClient, outside]
      rfl
  | startNotify started =>
      refine exists_run_single .startNotify ?_
      rw [ofClient, started]
      exact resume_head _
  | @startConnect fd reached success notified connected =>
      refine exists_run_single (.startConnect fd) ?_
      rw [ofClient, notified]
      refine (resume_head _).trans ?_
      rw [TcpClient.startConnect, connected]
      cases success <;> rfl
  | stop allowed =>
      refine exists_run_single .stop ?_
      rw [ofClient, restsOf_eq_nil (allowed.imp_right And.left)]
      rfl
  | send pData => exact samePhase (.send pData) rfl rfl
  | dispatched idle active sent =>
      have moved : client.asyncDispatch = some client.dispatched := if_pos ⟨active, sent⟩
      exact samePhase .asyncDispatch rfl (congrArg (Option.map _) moved)
  | swapped idle queued =>
      refine samePhase .asyncSwap rfl ?_
      have moved : client.asyncSwap = some client.swapped := if_pos queued
      refine (congrArg (Option.map _) moved).trans ?_
      show some (InterruptedClient.mk { client.swapped with
        batch := client.functions ++ client.batch } _) = _
      rw [idle.2, List.append_nil]
      rfl
  | pushed due short =>
      have moved : client.asyncExec = some _ := TcpClient.step_pushed due short
      exact samePhase .asyncExec rfl (congrArg (Option.map _) moved)
  | refused due long =>
      have moved : client.asyncExec = some _ := TcpClient.step_refused due long
      exact samePhase .asyncExec rfl (congrArg (Option.map _) moved)
  | @io revents nRead nWritten errno fd next idle called =>
      rw [ofClient, ofClient, TcpClient.ioCallback_phase called, restsOf_eq_nil (Or.inr idle.1)]
      rw [TcpClient.ioCallback_eq] at called
      obtain ⟨front, begins, finished⟩ := Option.bind_eq_some_iff.mp called
      have taken : step ⟨client, []⟩ (.ioFront revents nRead errno) =
          some ⟨front.1, front.2.toList ++ []⟩ := congrArg (Option.map _) begins
      obtain ⟨moves, runs⟩ := exists_run_finish [] nWritten fd finished
      refine ⟨.ioFront revents nRead errno :: moves, ?_⟩
      exact ((run_cons ..).trans (congrArg (Option.bind · _) taken)).trans runs
  | @otherOpen fd free => exact samePhase (.otherOpen fd) rfl (congrArg (Option.map _) taken)
  | @otherClose fd other => exact samePhase (.otherClose fd) rfl (congrArg (Option.map _) taken)

/-- **Every run of the coarser model is a run of this one.** -/
theorem exists_run_of_run {labels : List TcpClient.Label} {last : TcpClient}
    (runs : run TcpClient.step TcpClient.new labels = some last) :
    ∃ moves, run step new moves = some (ofClient last) := by
  obtain ⟨moves, reached, -⟩ := run_refines (C := fun _ _ => True) (D := fun _ _ => True)
    (I := fun _ => True) (fun _ _ _ _ _ _ => trivial)
    (fun client label next _ _ taken => (exists_run_of_step taken).imp fun moves reached =>
      ⟨reached, along_of_forall (fun _ _ => trivial) (ofClient client) moves⟩)
    labels trivial (along_of_forall (fun _ _ => trivial) _ labels) runs
  exact ⟨moves, reached⟩

end Refines

end InterruptedClient

end ServerLib
