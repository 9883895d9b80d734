import ServerLib.ConnectionFraming
import ServerLib.TcpServerSessions

/-!
# `CCommonServer` on top of `CTcpServer`

`CCommonServer` is a `CTcpServer` that overrides its callbacks (commonserver.h).  The two
were looked at one by one so far: `TcpServer` with a data handle that does nothing, and
`System` with a TCP server below it that may call anything at any moment outside the loop
of `__AddContent`.  `WholeServer` is the object that exists at run time, with both parts
and the one loop thread they share:

* what a function of `CTcpServer` reports, it reports by a call of a virtual function, and
  `overrides` is what `CCommonServer` does at that call;
* `__IoCallback` calls `OnClientDataReceived` in the middle, and that call is the loop of
  `__AddContent`, which may run a data handle for every packet.  So the callback is two
  steps, with the passes of the loop between them: `ioFront` ends behind the `EV_READ`
  branch, and `writing` says whose `EV_WRITE` branch comes next (`ioCallback_eq`: without
  anything between them they are `TcpServer.ioCallback`);
* `Send` and `CloseClient`, from any thread, and the packet threads can come between any
  two steps.

`step_cases` has what a step does: a move of the upper layer alone, or at most one effect
of the lower one together with the call it makes.
-/

namespace ServerLib

open Transition Sessions

namespace TcpServer

/-- `__IoCallback(watcher, revents)` of connection object `conn` in front of its `EV_WRITE`
branch, and the connection whose `EV_WRITE` branch comes next. -/
def ioFront (server : TcpServer) (conn : ℕ) (revents : Revents) (nRead : RecvResult)
    (errno now : Int32) : Option (TcpServer × Option ℕ) :=
  match server.heap conn with
  | none => none
  | some connection =>
      if Reported connection.io revents then
        if revents.error then
          (server.errorCallback connection errno).map fun next => (next, none)
        else
          (if revents.read then server.ioRead conn connection nRead now
            else some (server, true)).map fun afterRead =>
              (afterRead.1, if afterRead.2 && revents.write then some conn else none)
      else
        none

/-- The `EV_WRITE` branch of `__IoCallback`. -/
def ioBack (server : TcpServer) (conn : ℕ) (nWritten : WriteResult) (now : Int32) :
    Option TcpServer :=
  (server.heap conn).bind fun connection => server.ioWrite conn connection nWritten now

/-- **The two halves are the callback.** -/
theorem ioCallback_eq (server : TcpServer) (conn : ℕ) (revents : Revents) (nRead : RecvResult)
    (nWritten : WriteResult) (errno now : Int32) :
    server.ioCallback conn revents nRead nWritten errno now =
      (server.ioFront conn revents nRead errno now).bind fun front =>
        match front.2 with
        | none => some front.1
        | some conn => front.1.ioBack conn nWritten now := by
  unfold ioCallback ioFront
  cases server.heap conn with
  | none => rfl
  | some connection =>
      by_cases reported : Reported connection.io revents
      · simp only [reported, if_true]
        by_cases error : revents.error = true
        · simp only [error, if_true]
          cases server.errorCallback connection errno <;> rfl
        · simp only [error, if_false, Bool.false_eq_true]
          generalize (if revents.read = true then server.ioRead conn connection nRead now
            else some (server, true)) = afterRead
          rcases afterRead with _ | ⟨middle, _ | _⟩
          · rfl
          · rfl
          · cases write : revents.write <;> simp [ioBack]
      · simp only [reported, if_false]
        rfl

end TcpServer

/-! ## The calls between the two layers -/

/-- What `CCommonServer` does where `CTcpServer` reports an event.  `OnClientConnected` is
called on the data handle directly; the callbacks for the end of a connection do the same
whatever ended it. -/
def overrides : TcpEvent → Option Label
  | .onClientConnected sClient => some (.connected sClient)
  | .onClientDisconnected sClient nErrorCode =>
      some (.terminated sClient (.disconnected nErrorCode))
  | .onClientDataReceived _ sClient pData _ => some (.dataReceived sClient pData)
  | .accepted _ _ => none
  | .closed .. => none
  | .written _ _ _ => none
  | .sent _ _ => none
  | .executed _ _ => none

/-- The calls made while the server went from one state to the next. -/
def calls (before after : TcpServer) : List Label :=
  (after.log.drop before.log.length).filterMap overrides

/-- `CCommonServer`, with the connection whose `EV_WRITE` branch the loop thread still has
to come to. -/
structure WholeServer (H : Type) where
  tcp : TcpServer
  common : System H
  writing : Option ℕ

namespace WholeServer

variable {H : Type}

/-- A server that was set up and started, before any client. -/
def start (pDataHandle : H) (nThreadNum nTimeout : Int32) : WholeServer H where
  tcp := TcpServer.new nTimeout
  common := System.start pDataHandle nThreadNum
  writing := none

/-- Who moves, and what the environment answers. -/
inductive Label where
  | accept (result : AcceptResult) (now : Int32)
  | ioFront (conn : ℕ) (revents : Revents) (nRead : RecvResult) (errno now : Int32)
  | ioBack (nWritten : WriteResult) (now : Int32)
  | timer (conn : ℕ) (error : Bool) (errno now : Int32)
  | asyncSwap
  | asyncExec
  | send (sClient : SocketClientData) (pData : Bytes)
  | closeClient (sClient : SocketClientData)
  /-- One pass of the loop of `__AddContent`. -/
  | pass
  /-- One action of packet thread `i`. -/
  | handlePkt (i : ℕ)
  /-- `m_Threads[i].Stop()`. -/
  | stop (i : ℕ)
  deriving DecidableEq, Repr

/-- The moves of the upper layer alone. -/
def own : Label → Option ServerLib.Label
  | .pass => some .pass
  | .handlePkt i => some (.handlePkt i)
  | .stop i => some (.stop i)
  | _ => none

/-- The loop thread is in no `__IoCallback`. -/
abbrev Free (state : WholeServer H) : Prop :=
  state.writing = none ∧ state.common.adding = none

/-- A function of `CTcpServer` that the loop thread calls outside `__IoCallback`. -/
def called (state : WholeServer H) (label : TcpServer.Label) :
    Option (TcpServer × Option ℕ) :=
  if state.Free then (state.tcp.step label).map fun next => (next, none) else none

/-- What a label does to `CTcpServer`, and whose `EV_WRITE` branch comes next. -/
def callback (state : WholeServer H) : Label → Option (TcpServer × Option ℕ)
  | .accept result now => state.called (.accept result now)
  | .ioFront conn revents nRead errno now =>
      if state.Free ∧ state.tcp.batch = [] then
        state.tcp.ioFront conn revents nRead errno now
      else
        none
  | .ioBack nWritten now =>
      match state.writing, state.common.adding with
      | some conn, none => (state.tcp.ioBack conn nWritten now).map fun next => (next, none)
      | _, _ => none
  | .timer conn error errno now => state.called (.timer conn error errno now)
  | .asyncSwap => state.called .asyncSwap
  | .asyncExec => state.called .asyncExec
  | .send sClient pData => some (state.tcp.send sClient pData, state.writing)
  | .closeClient sClient =>
      (state.tcp.closeClient sClient).map fun next => (next, state.writing)
  | _ => none

/-- The upper layer takes the calls that were made. -/
def moved (state : WholeServer H) (after : TcpServer × Option ℕ) : Option (WholeServer H) :=
  (run System.step state.common (calls state.tcp after.1)).map fun common =>
    ⟨after.1, common, after.2⟩

/-- One step. -/
def step (state : WholeServer H) (label : Label) : Option (WholeServer H) :=
  match own label with
  | some move => (state.common.step move).map fun common => { state with common := common }
  | none => (state.callback label).bind state.moved

/-- No step closes the descriptor of a registered connection from outside. -/
def Undisturbed (state : WholeServer H) : Label → Prop
  | .closeClient sClient => state.tcp.Undisturbed (fun _ => True) (.closeClient sClient)
  | _ => True

instance (state : WholeServer H) : (label : Label) → Decidable (state.Undisturbed label)
  | .closeClient sClient => inferInstanceAs (Decidable
      (state.tcp.Undisturbed (fun _ => True) (.closeClient sClient)))
  | .accept .. | .ioFront .. | .ioBack .. | .timer .. | .asyncSwap | .asyncExec | .send ..
  | .pass | .handlePkt _ | .stop _ => inferInstanceAs (Decidable True)

end WholeServer

/-! ## What an effect means for the layer above -/

namespace TcpServer

/-- The bytes that `recv` returned on an accepted socket, one chunk for each call. -/
def readOn (conn : ℕ) (log : List TcpEvent) : List Bytes :=
  log.filterMap fun
    | .onClientDataReceived _ _ pData source => if source = some conn then some pData else none
    | _ => none

@[simp] theorem readOn_append (conn : ℕ) (log log' : List TcpEvent) :
    readOn conn (log ++ log') = readOn conn log ++ readOn conn log' :=
  List.filterMap_append

/-- Events that are no reads, which is what `readOn` sees of them. -/
@[simp] theorem readOn_singleton (conn : ℕ) (event : TcpEvent) :
    readOn conn [event] = match event with
      | .onClientDataReceived _ _ pData source => if source = some conn then [pData] else []
      | _ => [] := by
  cases event with
  | onClientDataReceived other sClient pData source =>
      by_cases here : source = some conn <;> simp [readOn, here]
  | _ => rfl

/-- The calls the layer above gets, with what happens meanwhile to the registry, to what was
read and to what was submitted: none, or one. -/
inductive Upward (server next : TcpServer) : Prop where
  | submitted (sClient : SocketClientData) (pData : Bytes) :
      next = server.send sClient pData → Upward server next
  | quiet : calls server next = [] →
      next.socketInfoManager.lookup = server.socketInfoManager.lookup →
      next.nextConn = server.nextConn → (∀ conn, readOn conn next.log = readOn conn server.log) →
      (∀ key, submittedSince key next.history = submittedSince key server.history) →
      Upward server next
  | connected (sClient : SocketClientData) : calls server next = [.connected sClient] →
      server.socketInfoManager.lookup sClient = none →
      next.socketInfoManager.lookup =
        Function.update server.socketInfoManager.lookup sClient (some server.nextConn) →
      next.nextConn = server.nextConn + 1 →
      (∀ conn, readOn conn next.log = readOn conn server.log) →
      (∀ key, submittedSince key next.history =
        if sClient = key then [] else submittedSince key server.history) →
      Upward server next
  | terminated (sClient : SocketClientData) (conn : ℕ) (nErrorCode : Int32) :
      calls server next = [.terminated sClient (.disconnected nErrorCode)] →
      server.socketInfoManager.lookup sClient = some conn →
      next.socketInfoManager.lookup =
        Function.update server.socketInfoManager.lookup sClient none →
      next.nextConn = server.nextConn → (∀ conn, readOn conn next.log = readOn conn server.log) →
      (∀ key, submittedSince key next.history = submittedSince key server.history) →
      Upward server next
  | dataReceived (sClient : SocketClientData) (conn : ℕ) (pData : Bytes) :
      calls server next = [.dataReceived sClient pData] →
      server.socketInfoManager.lookup sClient = some conn →
      next.socketInfoManager.lookup = server.socketInfoManager.lookup →
      next.nextConn = server.nextConn →
      (∀ other, readOn other next.log =
        readOn other server.log ++ if conn = other then [pData] else []) →
      (∀ key, submittedSince key next.history = submittedSince key server.history) →
      Upward server next

/-- An event that is no call, no read and no submission. -/
def Silent : TcpEvent → Prop
  | .accepted _ _ => True
  | .closed .. => True
  | .written _ _ _ => True
  | .executed _ _ => True
  | _ => False

section Upward

variable {Allowed : Int32 → Prop} {server next : TcpServer} {conn : ℕ}
  {connection : TcpConnection} {manager : SocketInfoManager ℕ} {events : List TcpEvent}

theorem calls_of_grown (events : List TcpEvent) (grown : next.log = server.log ++ events) :
    calls server next = events.filterMap overrides := by
  rw [calls, grown, List.drop_left]

@[simp] theorem calls_self (server : TcpServer) : calls server server = [] := by
  rw [calls_of_grown [] (List.append_nil _).symm]
  rfl

theorem calls_send (server : TcpServer) (sClient : SocketClientData) (pData : Bytes) :
    calls server (server.send sClient pData) = [] :=
  calls_of_grown [.sent sClient pData] rfl

theorem filterMap_overrides_of_silent (silent : ∀ event ∈ events, Silent event) :
    events.filterMap overrides = [] := by
  refine List.filterMap_eq_nil_iff.mpr fun event member => ?_
  have quiet := silent event member
  cases event <;> first | rfl | cases quiet

theorem readOn_of_silent (silent : ∀ event ∈ events, Silent event) (conn : ℕ) :
    readOn conn events = [] := by
  refine List.filterMap_eq_nil_iff.mpr fun event member => ?_
  have quiet := silent event member
  cases event <;> first | rfl | cases quiet

theorem history_of_grown (grown : next.log = server.log ++ events) :
    next.history = server.history ++ events.filterMap keyEvent := by
  rw [history, grown, List.filterMap_append, history]

/-- Silent events leave what was submitted for a key alone. -/
theorem foldl_submittedStep_of_silent (silent : ∀ event ∈ events, Silent event)
    (key : SocketClientData) (data : Bytes) :
    (events.filterMap keyEvent).foldl (submittedStep key) data = data := by
  induction events with
  | nil => rfl
  | cons event events ih =>
      have quiet := silent event List.mem_cons_self
      have later := ih fun other member => silent other (List.mem_cons_of_mem _ member)
      cases event with
      | accepted conn sClient => exact later
      | closed conn fd socket => exact later
      | written conn pData target => cases target <;> exact later
      | executed sClient pData => exact later
      | _ => cases quiet

/-- A history that grew by silent events. -/
theorem Upward.of_silent (grown : next.log = server.log ++ events)
    (silent : ∀ event ∈ events, Silent event)
    (sameLookup : next.socketInfoManager.lookup = server.socketInfoManager.lookup)
    (sameNext : next.nextConn = server.nextConn) : Upward server next := by
  refine .quiet ?_ sameLookup sameNext (fun conn => ?_) fun key => ?_
  · rw [calls_of_grown _ grown, filterMap_overrides_of_silent silent]
  · rw [grown, readOn_append, readOn_of_silent silent, List.append_nil]
  · rw [history_of_grown grown, submittedSince_append, foldl_submittedStep_of_silent silent]

/-- The end of a connection, between silent events. -/
theorem Upward.of_ended {before after : List TcpEvent} (owned : server.Owned)
    (alive : server.heap conn = some connection) {nErrorCode : Int32}
    (grown : next.log = server.log ++
      (before ++ .onClientDisconnected connection.socketClient nErrorCode :: after))
    (quietBefore : ∀ event ∈ before, Silent event) (quietAfter : ∀ event ∈ after, Silent event)
    (removed : server.socketInfoManager.remove connection.socketClient = some manager)
    (sameManager : next.socketInfoManager = manager)
    (sameNext : next.nextConn = server.nextConn) : Upward server next := by
  refine .terminated connection.socketClient conn nErrorCode ?_
    (owned.conn_owned alive).registered ?_ sameNext (fun other => ?_) fun key => ?_
  · rw [calls_of_grown _ grown, List.filterMap_append, List.filterMap_cons,
      filterMap_overrides_of_silent quietBefore, filterMap_overrides_of_silent quietAfter]
    rfl
  · funext key
    rw [sameManager, SocketInfoManager.lookup_remove removed, Function.update_apply]
    exact if_congr eq_comm rfl rfl
  · rw [grown, readOn_append, readOn_append, ← List.singleton_append, readOn_append,
      readOn_of_silent quietBefore, readOn_of_silent quietAfter]
    exact List.append_nil _
  · rw [history_of_grown grown, List.filterMap_append, submittedSince_append, List.foldl_append,
      foldl_submittedStep_of_silent quietBefore]
    exact foldl_submittedStep_of_silent quietAfter key _

theorem silent_singleton {event : TcpEvent} (silent : Silent event) :
    ∀ other ∈ [event], Silent other := by
  intro other member
  rw [List.mem_singleton] at member
  exact member ▸ silent

theorem silent_closing {isOpen : Prop} [Decidable isOpen] {conn : ℕ} {fd : Int32}
    {socket : Option ℕ} :
    ∀ event ∈ (if isOpen then [.closed conn fd socket] else [] : List TcpEvent), Silent event := by
  split
  · exact silent_singleton trivial
  · exact fun event member => absurd member List.not_mem_nil

/-- **An effect makes at most one call**, and says so to the layer above before anything
else can happen. -/
theorem Effect.upward (owned : server.Owned) (effect : Effect Allowed server next) :
    Upward server next := by
  cases effect with
  | @opened sClient manager now _ _ free fresh added =>
      refine .connected sClient ?_ fresh ?_ rfl (fun conn => ?_) fun key => ?_
      · exact calls_of_grown [.accepted _ _, .onClientConnected _] rfl
      · funext key
        show manager.lookup key = _
        rw [SocketInfoManager.lookup_add added, Function.update_apply]
        exact if_congr eq_comm rfl rfl
      · show readOn conn (server.log ++ ([_] ++ [_])) = _
        rw [readOn_append, readOn_append]
        simp
      · have grown : (server.opened sClient now manager).log =
          server.log ++ [.accepted server.nextConn sClient, .onClientConnected sClient] := rfl
        rw [history_of_grown grown, submittedSince_append]
        rfl
  | @ended conn connection manager nErrorCode alive removed =>
      have none : ∀ event ∈ ([] : List TcpEvent), Silent event :=
        fun _ member => absurd member List.not_mem_nil
      exact .of_ended owned alive rfl none silent_closing removed rfl rfl
  | @received conn connection pData now alive =>
      have mine := owned.conn_owned alive
      have source : server.owner connection.io.fd = some conn := by rw [mine.fd_eq, mine.owns]
      refine .dataReceived connection.socketClient conn pData
        (calls_of_grown [.onClientDataReceived _ _ _ _] rfl) mine.registered rfl rfl
        (fun other => ?_) fun key => ?_
      · show readOn other (server.log ++ [_]) = _
        rw [readOn_append, readOn_singleton, source]
        exact congrArg _ (if_congr Option.some_inj rfl rfl)
      · have grown : ((server.setConn conn { connection with nLasttime := now }).emit
            (.onClientDataReceived conn connection.socketClient pData
              (server.owner connection.io.fd))).log = server.log ++ [_] := rfl
        rw [history_of_grown grown, submittedSince_append]
        rfl
  | idle alive empty =>
      exact .quiet (calls_self server) rfl rfl (fun _ => rfl) fun _ => rfl
  | wrote fits now alive queue => exact .of_silent rfl (silent_singleton trivial) rfl rfl
  | submitted sClient pData => exact .submitted sClient pData rfl
  | swapped empty => exact .quiet (calls_self server) rfl rfl (fun _ => rfl) fun _ => rfl
  | missed batch unknown => exact .of_silent rfl (silent_singleton trivial) rfl rfl
  | queued batch alive => exact .of_silent rfl (silent_singleton trivial) rfl rfl
  | @refused pOutputBuffer rest conn connection manager batch alive removed =>
      exact .of_ended owned alive (List.append_assoc ..) (silent_singleton trivial)
        silent_closing removed rfl rfl

end Upward

end TcpServer

end ServerLib
