import ServerLib.WholeServer

/-!
# The two layers of the server agree

`CCommonServer` keeps its buffers under the keys `CTcpServer` reports, and trusts what is
reported: that a key is registered when data comes for it, and that it is registered once.
`Layered` is that agreement.  It holds in every state of every undisturbed run
(`layers_agree`), and in such a state the upper layer takes every call the lower one
makes, so the two never get stuck on each other.

What was proved of each layer alone then holds of the server: the upper layer makes the
runs of `System` (`common_of_run`), and each step of the lower one is an effect or none
(`step_cases`).  `frames_of_socket` joins them: the packets dispatched from a connection
are the packets in the bytes that `recv` returned on its socket.
-/

namespace ServerLib

open Transition

namespace TcpServer

section Halves

variable {Allowed : Int32 → Prop} {server next : TcpServer} {conn : ℕ}
  {connection : TcpConnection}

/-- What the timer of a connection does: nothing, or it ends the connection. -/
theorem timerCallback_effect (owned : server.Owned) {error : Bool} {errno now : Int32}
    (taken : server.timerCallback conn error errno now = some next) :
    Relation.ReflGen (Effect Allowed) server next := by
  unfold timerCallback at taken
  split at taken
  · cases taken
  · next connection alive =>
      split at taken
      · exact .single (terminate_effect owned alive taken)
      · split at taken
        · exact .single (terminate_effect owned alive taken)
        · obtain rfl := Option.some.inj taken
          exact .refl

/-- Behind a read after which the callback goes on, the connection is still there. -/
theorem ioRead_alive (alive : server.heap conn = some connection) {nRead : RecvResult}
    {now : Int32} (taken : server.ioRead conn connection nRead now = some (next, true)) :
    ∃ connection', next.heap conn = some connection' := by
  obtain ⟨-, taken⟩ := Option.ite_none_right_eq_some.mp taken
  cases nRead with
  | eof =>
      obtain ⟨after, -, same⟩ := Option.map_eq_some_iff.mp taken
      cases (Prod.mk.inj same).2
  | again =>
      obtain ⟨rfl, -⟩ := Prod.mk.inj (Option.some.inj taken)
      exact ⟨connection, alive⟩
  | error errno =>
      obtain ⟨after, -, same⟩ := Option.map_eq_some_iff.mp taken
      cases (Prod.mk.inj same).2
  | data pData =>
      obtain ⟨rfl, -⟩ := Prod.mk.inj (Option.some.inj taken)
      exact ⟨_, Function.update_self ..⟩

/-- The front half of the callback is at most one effect, and where the `EV_WRITE` branch
comes next there is a connection to write for. -/
theorem ioFront_effect (owned : server.Owned) {revents : Revents} {nRead : RecvResult}
    {errno now : Int32} {writing : Option ℕ}
    (taken : server.ioFront conn revents nRead errno now = some (next, writing)) :
    Relation.ReflGen (Effect Allowed) server next ∧
      ∀ other ∈ writing, ∃ connection', next.heap other = some connection' := by
  unfold ioFront at taken
  split at taken
  · cases taken
  · next connection alive =>
      obtain ⟨-, taken⟩ := Option.ite_none_right_eq_some.mp taken
      split at taken
      · obtain ⟨after, ended, same⟩ := Option.map_eq_some_iff.mp taken
        obtain ⟨rfl, rfl⟩ := Prod.mk.inj same
        exact ⟨.single (terminate_effect owned alive ended), nofun⟩
      · obtain ⟨⟨after, goesOn⟩, read, same⟩ := Option.map_eq_some_iff.mp taken
        obtain ⟨rfl, rfl⟩ := Prod.mk.inj same
        have reading : Relation.ReflGen (Effect Allowed) server after ∧
            (goesOn = true → ∃ connection', after.heap conn = some connection') := by
          split at read
          · refine ⟨?_, fun goes => ioRead_alive alive (goes ▸ read)⟩
            rcases ioRead_cases owned alive read with ⟨-, rfl⟩ | ⟨-, effect⟩ | ⟨-, effect⟩
            · exact .refl
            · exact .single effect
            · exact .single effect
          · obtain ⟨rfl, -⟩ := Prod.mk.inj (Option.some.inj read)
            exact ⟨.refl, fun _ => ⟨connection, alive⟩⟩
        refine ⟨reading.1, fun other writes => ?_⟩
        obtain ⟨both, same⟩ := Option.ite_none_right_eq_some.mp (Option.mem_def.mp writes)
        obtain rfl := Option.some.inj same
        exact reading.2 (Bool.and_eq_true_iff.mp both).1

theorem ioBack_effect (owned : server.Owned) {nWritten : WriteResult} {now : Int32}
    (taken : server.ioBack conn nWritten now = some next) :
    Relation.ReflGen (Effect Allowed) server next := by
  obtain ⟨connection, alive, taken⟩ := Option.bind_eq_some_iff.mp taken
  rcases ioWrite_cases owned alive taken with rfl | effect
  · exact .refl
  · exact .single effect

/-- `CloseClient` does nothing to a server it does not disturb. -/
theorem closeClient_eq {sClient : SocketClientData}
    (undisturbed : server.Undisturbed Allowed (.closeClient sClient))
    (called : server.closeClient sClient = some next) : next = server := by
  obtain ⟨pTcpConnection, found, called⟩ := Option.bind_eq_some_iff.mp called
  obtain ⟨-, found⟩ := SocketInfoManager.get_eq_some_iff.mp found
  cases pTcpConnection with
  | none => exact (Option.some.inj called).symm
  | some conn =>
      obtain ⟨connection, alive, rfl⟩ := Option.map_eq_some_iff.mp called
      rw [close, if_neg (undisturbed conn found connection alive)]

/-- A function the loop thread calls outside `__IoCallback` is at most one effect. -/
theorem step_effect (owned : server.Owned) {label : Label} (notIo : ∀ conn revents nRead nWritten
      errno now, label ≠ .io conn revents nRead nWritten errno now)
    (undisturbed : server.Undisturbed Allowed label) (taken : server.step label = some next) :
    Relation.ReflGen (Effect Allowed) server next := by
  have idle : ∀ {result : Option TcpServer}, (if server.batch = [] then result else none) =
      some next → result = some next :=
    fun taken => (Option.ite_none_right_eq_some.mp taken).2
  cases label with
  | accept result now =>
      have taken := idle taken
      cases result with
      | watcherError =>
          cases taken
          exact .refl
      | failed =>
          cases taken
          exact .refl
      | client IP Port client_fd => exact .single (accept_effect owned undisturbed taken)
  | io conn revents nRead nWritten errno now =>
      exact absurd rfl (notIo conn revents nRead nWritten errno now)
  | timer conn error errno now => exact timerCallback_effect owned (idle taken)
  | asyncSwap =>
      obtain ⟨empty, same⟩ := Option.ite_none_right_eq_some.mp taken
      obtain rfl := Option.some.inj same
      exact .single (.swapped empty)
  | asyncExec => exact .single (asyncExec_effect owned taken)
  | send sClient pData =>
      cases taken
      exact .single (.submitted sClient pData)
  | closeClient sClient =>
      obtain rfl := closeClient_eq undisturbed taken
      exact .refl

end Halves

/-! ## What takes in nothing new -/

/-- No call of `Send` was taken in, and no client was registered. -/
structure NoIntake (server next : TcpServer) : Prop where
  functions_eq : next.functions = server.functions
  registered : ∀ {sClient conn}, next.socketInfoManager.lookup sClient = some conn →
    server.socketInfoManager.lookup sClient = some conn

section NoIntake

variable {server next : TcpServer} {conn : ℕ} {connection : TcpConnection}

theorem NoIntake.refl (server : TcpServer) : server.NoIntake server := ⟨rfl, id⟩

@[simp] theorem functions_close (server : TcpServer) (conn : ℕ) (connection : TcpConnection) :
    (server.close conn connection).functions = server.functions := by
  unfold close
  split <;> rfl

@[simp] theorem socketInfoManager_close (server : TcpServer) (conn : ℕ)
    (connection : TcpConnection) :
    (server.close conn connection).socketInfoManager = server.socketInfoManager := by
  unfold close
  split <;> rfl

@[simp] theorem functions_destroy (server : TcpServer) (conn : ℕ) :
    (server.destroy conn).functions = server.functions := by
  unfold destroy
  split
  · rfl
  · exact functions_close ..

@[simp] theorem socketInfoManager_destroy (server : TcpServer) (conn : ℕ) :
    (server.destroy conn).socketInfoManager = server.socketInfoManager := by
  unfold destroy
  split
  · rfl
  · exact socketInfoManager_close ..

/-- The end of a connection removes an entry, and that is all. -/
theorem noIntake_terminate {sClient : SocketClientData} {nErrorCode : Int32}
    (called : server.terminate sClient nErrorCode = some next) : server.NoIntake next := by
  obtain ⟨manager, removed, rfl⟩ := Option.map_eq_some_iff.mp called
  have shrunk : ∀ {other conn}, manager.lookup other = some conn →
      server.socketInfoManager.lookup other = some conn := by
    intro other conn registered
    rw [SocketInfoManager.lookup_remove removed] at registered
    exact (Option.ite_none_left_eq_some.mp registered).2
  split
  · exact ⟨rfl, shrunk⟩
  · refine ⟨functions_destroy .., fun registered => shrunk ?_⟩
    rwa [socketInfoManager_destroy] at registered

theorem noIntake_ioRead {nRead : RecvResult} {now : Int32} {goesOn : Bool}
    (called : server.ioRead conn connection nRead now = some (next, goesOn)) :
    server.NoIntake next := by
  obtain ⟨-, called⟩ := Option.ite_none_right_eq_some.mp called
  cases nRead with
  | eof =>
      obtain ⟨after, ended, same⟩ := Option.map_eq_some_iff.mp called
      exact (Prod.mk.inj same).1 ▸ noIntake_terminate ended
  | again => exact (Prod.mk.inj (Option.some.inj called)).1 ▸ .refl server
  | error errno =>
      obtain ⟨after, ended, same⟩ := Option.map_eq_some_iff.mp called
      exact (Prod.mk.inj same).1 ▸ noIntake_terminate ended
  | data pData => exact (Prod.mk.inj (Option.some.inj called)).1 ▸ ⟨rfl, id⟩

theorem noIntake_ioWrite {nWritten : WriteResult} {now : Int32}
    (called : server.ioWrite conn connection nWritten now = some next) : server.NoIntake next := by
  unfold ioWrite at called
  split at called
  · exact Option.some.inj called ▸ ⟨rfl, id⟩
  · obtain ⟨-, called⟩ := Option.ite_none_right_eq_some.mp called
    cases nWritten with
    | again => exact Option.some.inj called ▸ .refl server
    | error errno => exact noIntake_terminate called
    | wrote count =>
        obtain ⟨fits, same⟩ := Option.dite_none_right_eq_some.mp called
        exact Option.some.inj same ▸ ⟨rfl, id⟩

theorem noIntake_ioFront {revents : Revents} {nRead : RecvResult} {errno now : Int32}
    {writing : Option ℕ}
    (called : server.ioFront conn revents nRead errno now = some (next, writing)) :
    server.NoIntake next := by
  unfold ioFront at called
  split at called
  · cases called
  · obtain ⟨-, called⟩ := Option.ite_none_right_eq_some.mp called
    split at called
    · obtain ⟨after, ended, same⟩ := Option.map_eq_some_iff.mp called
      exact (Prod.mk.inj same).1 ▸ noIntake_terminate ended
    · obtain ⟨⟨after, goesOn⟩, read, same⟩ := Option.map_eq_some_iff.mp called
      obtain ⟨rfl, -⟩ := Prod.mk.inj same
      split at read
      · exact noIntake_ioRead read
      · exact (Prod.mk.inj (Option.some.inj read)).1 ▸ .refl server

theorem noIntake_ioBack {nWritten : WriteResult} {now : Int32}
    (called : server.ioBack conn nWritten now = some next) : server.NoIntake next := by
  obtain ⟨connection, -, called⟩ := Option.bind_eq_some_iff.mp called
  exact noIntake_ioWrite called

theorem noIntake_timerCallback {error : Bool} {errno now : Int32}
    (called : server.timerCallback conn error errno now = some next) : server.NoIntake next := by
  unfold timerCallback at called
  split at called
  · cases called
  · split at called
    · exact noIntake_terminate called
    · split at called
      · exact noIntake_terminate called
      · exact Option.some.inj called ▸ .refl server

theorem noIntake_asyncExec (called : server.asyncExec = some next) : server.NoIntake next := by
  unfold asyncExec at called
  split at called
  · cases called
  · obtain ⟨pTcpConnection, -, called⟩ := Option.bind_eq_some_iff.mp called
    split at called
    · exact Option.some.inj called ▸ ⟨rfl, id⟩
    · obtain ⟨connection, -, called⟩ := Option.bind_eq_some_iff.mp called
      unfold connSend at called
      split at called
      · obtain ⟨functions_eq, registered⟩ := noIntake_terminate called
        exact ⟨functions_eq, registered⟩
      · exact Option.some.inj called ▸ ⟨rfl, id⟩

/-- `__Accept` registers the client it accepted, and no other. -/
theorem accept_intake {now : Int32} {result : AcceptResult}
    (called : server.accept now result = some next) :
    next.functions = server.functions ∧
      ∀ {sClient conn}, next.socketInfoManager.lookup sClient = some conn →
        server.socketInfoManager.lookup sClient = some conn ∨
          result = .client sClient.IP sClient.Port sClient.Socket := by
  cases result with
  | watcherError => exact Option.some.inj called ▸ ⟨rfl, Or.inl⟩
  | failed => exact Option.some.inj called ▸ ⟨rfl, Or.inl⟩
  | client IP Port client_fd =>
      obtain ⟨-, called⟩ := Option.ite_none_right_eq_some.mp called
      obtain ⟨manager, added, rfl⟩ := Option.map_eq_some_iff.mp called
      have grown : ∀ {sClient conn}, manager.lookup sClient = some conn →
          server.socketInfoManager.lookup sClient = some conn ∨
            AcceptResult.client IP Port client_fd =
              .client sClient.IP sClient.Port sClient.Socket := by
        intro sClient conn registered
        rw [SocketInfoManager.lookup_add added] at registered
        split at registered
        · next same => exact Or.inr (same ▸ rfl)
        · exact Or.inl registered
      dsimp only [emit]
      split
      · exact ⟨rfl, grown⟩
      · rw [functions_destroy, socketInfoManager_destroy]
        exact ⟨rfl, grown⟩

/-- A server whose `m_Functions` did not grow did not take in a call of `Send`. -/
theorem ne_send (same : next.functions = server.functions ∨ next.functions = [])
    (sClient : SocketClientData) (pData : Bytes) : next ≠ server.send sClient pData := by
  rintro rfl
  simp [send] at same

end NoIntake

end TcpServer

namespace WholeServer

variable {H : Type} {state next : WholeServer H} {label : Label}

/-! ## What a step can do -/

/-- A label that comes from another thread leaves the loop thread where it is; every other
one finds the loop of `__AddContent` left. -/
theorem callback_cases (owned : state.tcp.Owned) (undisturbed : state.Undisturbed label)
    {tcp : TcpServer} {writing : Option ℕ} (taken : state.callback label = some (tcp, writing)) :
    writing = state.writing ∧
        (tcp = state.tcp ∨ ∃ sClient pData, tcp = state.tcp.send sClient pData) ∨
      state.common.adding = none ∧
        Relation.ReflGen (TcpServer.Effect fun _ => True) state.tcp tcp ∧
        ∀ conn ∈ writing, ∃ connection, tcp.heap conn = some connection := by
  have loop : ∀ {other : TcpServer.Label}, state.called other = some (tcp, writing) →
      (∀ conn revents nRead nWritten errno now,
        other ≠ .io conn revents nRead nWritten errno now) →
      state.tcp.Undisturbed (fun _ => True) other → state.common.adding = none ∧
        Relation.ReflGen (TcpServer.Effect fun _ => True) state.tcp tcp ∧
        ∀ conn ∈ writing, ∃ connection, tcp.heap conn = some connection := by
    intro other taken notIo undisturbed
    obtain ⟨free, taken⟩ := Option.ite_none_right_eq_some.mp taken
    obtain ⟨after, took, same⟩ := Option.map_eq_some_iff.mp taken
    obtain ⟨rfl, rfl⟩ := Prod.mk.inj same
    exact ⟨free.2, TcpServer.step_effect owned notIo undisturbed took, nofun⟩
  cases label with
  | accept result now =>
      refine Or.inr (loop taken (by simp) ?_)
      cases result <;> trivial
  | ioFront conn revents nRead errno now =>
      obtain ⟨free, taken⟩ := Option.ite_none_right_eq_some.mp taken
      exact Or.inr ⟨free.1.2, TcpServer.ioFront_effect owned taken⟩
  | ioBack nWritten now =>
      simp only [callback] at taken
      split at taken
      · next conn writes idle =>
          obtain ⟨after, took, same⟩ := Option.map_eq_some_iff.mp taken
          obtain ⟨rfl, rfl⟩ := Prod.mk.inj same
          exact Or.inr ⟨idle, TcpServer.ioBack_effect owned took, nofun⟩
      · cases taken
  | timer conn error errno now => exact Or.inr (loop taken (by simp) trivial)
  | asyncSwap => exact Or.inr (loop taken (by simp) trivial)
  | asyncExec => exact Or.inr (loop taken (by simp) trivial)
  | send sClient pData =>
      obtain ⟨rfl, rfl⟩ := Prod.mk.inj (Option.some.inj taken)
      exact Or.inl ⟨rfl, Or.inr ⟨sClient, pData, rfl⟩⟩
  | closeClient sClient =>
      obtain ⟨after, closed, same⟩ := Option.map_eq_some_iff.mp taken
      obtain ⟨rfl, rfl⟩ := Prod.mk.inj same
      have quiet : state.tcp.Undisturbed (fun _ => True) (.closeClient sClient) := undisturbed
      exact Or.inl ⟨rfl, Or.inl (TcpServer.closeClient_eq quiet closed)⟩
  | pass => cases taken
  | handlePkt i => cases taken
  | stop i => cases taken

/-- **What a step does**: a move of the upper layer alone, or at most one effect of the
lower one, with its call to the upper one. -/
theorem step_cases (owned : state.tcp.Owned) (undisturbed : state.Undisturbed label)
    (taken : state.step label = some next) :
    (∃ move, own label = some move ∧ state.common.step move = some next.common ∧
        next.tcp = state.tcp ∧ next.writing = state.writing) ∨
      Relation.ReflGen (TcpServer.Effect fun _ => True) state.tcp next.tcp ∧
        (calls state.tcp next.tcp = [] ∨ state.common.adding = none) ∧
        run System.step state.common (calls state.tcp next.tcp) = some next.common ∧
        (next.writing = state.writing ∧ next.tcp.heap = state.tcp.heap ∨
          ∀ conn ∈ next.writing, ∃ connection, next.tcp.heap conn = some connection) := by
  unfold step at taken
  split at taken
  · next move mine =>
      obtain ⟨common, took, rfl⟩ := Option.map_eq_some_iff.mp taken
      exact Or.inl ⟨move, mine, took, rfl, rfl⟩
  · obtain ⟨⟨tcp, writing⟩, called, taken⟩ := Option.bind_eq_some_iff.mp taken
    obtain ⟨common, took, rfl⟩ := Option.map_eq_some_iff.mp taken
    refine Or.inr ?_
    rcases callback_cases owned undisturbed called with
      ⟨rfl, rfl | ⟨sClient, pData, rfl⟩⟩ | ⟨idle, effect, alive⟩
    · exact ⟨.refl, Or.inl (TcpServer.calls_self _), took, Or.inl ⟨rfl, rfl⟩⟩
    · exact ⟨.single (.submitted sClient pData), Or.inl (TcpServer.calls_send ..), took,
        Or.inl ⟨rfl, rfl⟩⟩
    · exact ⟨effect, Or.inr idle, took, Or.inr alive⟩

/-- Only `Send` adds to `m_Functions`, and only `__Accept` registers a client. -/
theorem callback_intake (notSend : ∀ sClient pData, label ≠ .send sClient pData)
    {tcp : TcpServer} {writing : Option ℕ} (taken : state.callback label = some (tcp, writing)) :
    (tcp.functions = state.tcp.functions ∨ tcp.functions = []) ∧
      ∀ {sClient conn}, tcp.socketInfoManager.lookup sClient = some conn →
        state.tcp.socketInfoManager.lookup sClient = some conn ∨
          ∃ now, label = .accept (.client sClient.IP sClient.Port sClient.Socket) now := by
  have called : ∀ {other : TcpServer.Label}, state.called other = some (tcp, writing) →
      state.tcp.step other = some tcp := by
    intro other taken
    obtain ⟨-, taken⟩ := Option.ite_none_right_eq_some.mp taken
    obtain ⟨after, took, same⟩ := Option.map_eq_some_iff.mp taken
    exact (Prod.mk.inj same).1 ▸ took
  have idle : ∀ {result : Option TcpServer},
      (if state.tcp.batch = [] then result else none) = some tcp → result = some tcp :=
    fun called => (Option.ite_none_right_eq_some.mp called).2
  have nothing : state.tcp.NoIntake tcp →
      (tcp.functions = state.tcp.functions ∨ tcp.functions = []) ∧
      ∀ {sClient conn}, tcp.socketInfoManager.lookup sClient = some conn →
        state.tcp.socketInfoManager.lookup sClient = some conn ∨
          ∃ now, label = .accept (.client sClient.IP sClient.Port sClient.Socket) now :=
    fun noIntake => ⟨Or.inl noIntake.functions_eq, fun known => Or.inl (noIntake.registered known)⟩
  cases label with
  | accept result now =>
      obtain ⟨functions_eq, registered⟩ := TcpServer.accept_intake (idle (called taken))
      refine ⟨Or.inl functions_eq, fun known => (registered known).imp id fun same => ?_⟩
      exact ⟨now, same ▸ rfl⟩
  | ioFront conn revents nRead errno now =>
      exact nothing (TcpServer.noIntake_ioFront (Option.ite_none_right_eq_some.mp taken).2)
  | ioBack nWritten now =>
      simp only [callback] at taken
      split at taken
      · obtain ⟨after, took, same⟩ := Option.map_eq_some_iff.mp taken
        exact nothing ((Prod.mk.inj same).1 ▸ TcpServer.noIntake_ioBack took)
      · cases taken
  | timer conn error errno now =>
      exact nothing (TcpServer.noIntake_timerCallback (idle (called taken)))
  | asyncSwap =>
      obtain rfl := Option.some.inj (idle (called taken))
      exact ⟨Or.inr rfl, Or.inl⟩
  | asyncExec => exact nothing (TcpServer.noIntake_asyncExec (called taken))
  | send sClient pData => exact absurd rfl (notSend sClient pData)
  | closeClient sClient =>
      obtain ⟨after, closed, same⟩ := Option.map_eq_some_iff.mp taken
      obtain ⟨rfl, -⟩ := Prod.mk.inj same
      obtain ⟨pTcpConnection, -, closed⟩ := Option.bind_eq_some_iff.mp closed
      cases pTcpConnection with
      | none => exact nothing (Option.some.inj closed ▸ .refl _)
      | some conn =>
          obtain ⟨connection, -, rfl⟩ := Option.map_eq_some_iff.mp closed
          refine nothing ⟨TcpServer.functions_close .., fun known => ?_⟩
          rwa [TcpServer.socketInfoManager_close] at known
  | pass => cases taken
  | handlePkt i => cases taken
  | stop i => cases taken

/-- `Send` is a step at any moment, and changes `m_Functions` only. -/
theorem step_send (state : WholeServer H) (sClient : SocketClientData) (pData : Bytes) :
    state.step (.send sClient pData) = some { state with tcp := state.tcp.send sClient pData } := by
  show ((some (state.tcp.send sClient pData, state.writing)).bind state.moved) = _
  rw [Option.bind_some, moved, TcpServer.calls_send, run_nil, Option.map_some]

/-- The calls of the lower layer neither frame nor deliver a packet. -/
theorem pool_calls {nThreadNum : Int32} {common next : System H}
    (config : common.server.Config nThreadNum) {before after : TcpServer}
    (upward : TcpServer.Upward before after)
    (took : run System.step common (calls before after) = some next) : next.pool = common.pool := by
  have one : ∀ {label : ServerLib.Label}, calls before after = [label] → label ≠ .pass →
      (∀ i, label ≠ .handlePkt i) → next.pool = common.pool := by
    intro label single notPass notThread
    rw [single] at took
    obtain ⟨middle, taken, ends⟩ := Option.bind_eq_some_iff.mp took
    obtain rfl := Option.some.inj ends
    rcases System.pool_step_cases config taken with same | ⟨_, _, pass, _⟩ | ⟨i, _, _, thread, _⟩
    · exact same
    · exact absurd pass notPass
    · exact absurd thread (notThread i)
  cases upward with
  | submitted sClient pData same =>
      rw [same, TcpServer.calls_send, run_nil, Option.some_inj] at took
      rw [took]
  | quiet none =>
      rw [none, run_nil, Option.some_inj] at took
      rw [took]
  | connected sClient single => exact one single nofun nofun
  | terminated sClient conn nErrorCode single => exact one single nofun nofun
  | dataReceived sClient conn pData single => exact one single nofun nofun

/-! ## The agreement -/

/-- The upper layer knows the registered connections by the numbers of their objects, and
was given what was read on their sockets. -/
structure Layered (state : WholeServer H) : Prop where
  owned : state.tcp.Owned
  live_eq : state.common.live = state.tcp.socketInfoManager.lookup
  nextConn_eq : state.common.nextConn = state.tcp.nextConn
  chunks_eq : ∀ conn, System.chunksFrom conn state.common.log = TcpServer.readOn conn state.tcp.log
  /-- The connection whose `EV_WRITE` branch comes next was not destroyed. -/
  writing_alive : ∀ conn ∈ state.writing, ∃ connection, state.tcp.heap conn = some connection

theorem layered_start (pDataHandle : H) (nThreadNum nTimeout : Int32) :
    (start pDataHandle nThreadNum nTimeout).Layered where
  owned := TcpServer.owned_new nTimeout
  live_eq := funext fun sClient => (SocketInfoManager.lookup_new sClient).symm
  nextConn_eq := rfl
  chunks_eq _ := rfl
  writing_alive := nofun

/-- A move of the upper layer alone changes nothing the lower one knows of. -/
theorem own_same {move : ServerLib.Label} {common : System H} (mine : own label = some move)
    (taken : state.common.step move = some common) :
    common.live = state.common.live ∧ common.nextConn = state.common.nextConn ∧
      ∀ conn, System.chunksFrom conn common.log = System.chunksFrom conn state.common.log := by
  cases label with
  | pass =>
      cases mine
      obtain ⟨key, origin, inside, ⟨-, rfl⟩ | ⟨-, rfl⟩ | ⟨_, rest, handled, -, -, called, rfl⟩⟩ :=
        System.step_pass_cases taken
      · exact ⟨rfl, rfl, fun _ => rfl⟩
      · exact ⟨rfl, rfl, fun _ => rfl⟩
      · exact ⟨rfl, rfl, fun conn => by simp [(System.handlePkt_framed called conn).1]⟩
  | handlePkt i =>
      cases mine
      obtain ⟨thread, moved, here, -, rfl⟩ := System.step_handlePkt_cases taken
      exact ⟨rfl, rfl, fun conn => by simp⟩
  | stop i =>
      cases mine
      obtain ⟨thread, here, rfl⟩ := System.step_stop_cases taken
      exact ⟨rfl, rfl, fun _ => rfl⟩
  | _ => cases mine

/-- **The upper layer takes every call**, and both layers agree behind it. -/
theorem Layered.takes (layered : state.Layered) {tcp : TcpServer}
    (upward : TcpServer.Upward state.tcp tcp)
    (idle : calls state.tcp tcp = [] ∨ state.common.adding = none) :
    ∃ common, run System.step state.common (calls state.tcp tcp) = some common ∧
      common.live = tcp.socketInfoManager.lookup ∧ common.nextConn = tcp.nextConn ∧
      ∀ conn, System.chunksFrom conn common.log = TcpServer.readOn conn tcp.log := by
  cases upward with
  | submitted sClient pData same =>
      subst same
      rw [TcpServer.calls_send]
      exact ⟨state.common, run_nil _, layered.live_eq, layered.nextConn_eq, fun conn => by
        rw [layered.chunks_eq, TcpServer.send, TcpServer.emit, TcpServer.readOn_append]
        simp⟩
  | quiet none sameLookup sameNext sameRead _ =>
      refine ⟨state.common, by rw [none, run_nil], ?_, ?_, fun conn => ?_⟩
      · rw [layered.live_eq, sameLookup]
      · rw [layered.nextConn_eq, sameNext]
      · rw [layered.chunks_eq, sameRead]
  | connected sClient one unknown grown nextConn sameRead _ =>
      have idle : state.common.adding = none := idle.resolve_left (by simp [one])
      have unknown' : state.common.live sClient = none := by rw [layered.live_eq, unknown]
      rw [one, run_cons]
      refine ⟨_, by simp only [System.step, idle, unknown']; rfl, ?_, ?_, fun conn => ?_⟩
      · rw [grown, layered.live_eq, layered.nextConn_eq]
      · rw [nextConn, layered.nextConn_eq]
      · simp [sameRead, layered.chunks_eq]
  | terminated sClient conn nErrorCode one registered shrunk sameNext sameRead _ =>
      have idle : state.common.adding = none := idle.resolve_left (by simp [one])
      have registered' : state.common.live sClient = some conn := by
        rw [layered.live_eq, registered]
      rw [one, run_cons]
      refine ⟨_, by simp only [System.step, idle, registered']; rfl, ?_, ?_, fun other => ?_⟩
      · rw [shrunk, layered.live_eq]
      · rw [sameNext, layered.nextConn_eq]
      · show System.chunksFrom other (state.common.log ++ [_]) = _
        simp [sameRead, layered.chunks_eq]
  | dataReceived sClient conn pData one registered sameLookup sameNext read _ =>
      have idle : state.common.adding = none := idle.resolve_left (by simp [one])
      have registered' : state.common.live sClient = some conn := by
        rw [layered.live_eq, registered]
      rw [one, run_cons]
      refine ⟨_, by simp only [System.step, idle, registered']; rfl, ?_, ?_, fun other => ?_⟩
      · rw [sameLookup, layered.live_eq]
      · rw [sameNext, layered.nextConn_eq]
      · simp [read, layered.chunks_eq]

/-- Nothing or one effect, seen from above. -/
theorem Layered.upward (layered : state.Layered) {tcp : TcpServer}
    (effect : Relation.ReflGen (TcpServer.Effect fun _ => True) state.tcp tcp) :
    tcp.Owned ∧ TcpServer.Upward state.tcp tcp := by
  cases effect with
  | refl =>
      exact ⟨layered.owned, .quiet (TcpServer.calls_self _) rfl rfl (fun _ => rfl) fun _ => rfl⟩
  | single effect => exact ⟨layered.owned.effect effect, effect.upward layered.owned⟩

/-- **The agreement survives every step.** -/
theorem Layered.step (layered : state.Layered) (undisturbed : state.Undisturbed label)
    (taken : state.step label = some next) : next.Layered := by
  rcases step_cases layered.owned undisturbed taken with
    ⟨move, mine, took, sameTcp, sameWriting⟩ | ⟨effect, idle, took, writing⟩
  · obtain ⟨sameLive, sameNext, sameChunks⟩ := own_same mine took
    refine ⟨sameTcp ▸ layered.owned, ?_, ?_, fun conn => ?_, ?_⟩
    · rw [sameLive, sameTcp, layered.live_eq]
    · rw [sameNext, sameTcp, layered.nextConn_eq]
    · rw [sameChunks, sameTcp, layered.chunks_eq]
    · rw [sameWriting, sameTcp]
      exact layered.writing_alive
  · obtain ⟨owned, upward⟩ := layered.upward effect
    obtain ⟨common, took', live_eq, nextConn_eq, chunks_eq⟩ := layered.takes upward idle
    rw [took, Option.some_inj] at took'
    subst took'
    refine ⟨owned, live_eq, nextConn_eq, chunks_eq, fun conn writes => ?_⟩
    rcases writing with ⟨same, sameHeap⟩ | alive
    · rw [sameHeap]
      exact layered.writing_alive conn (same ▸ writes)
    · exact alive conn writes

/-- Where the lower layer can move, the server can. -/
theorem Layered.ready (layered : state.Layered) (undisturbed : state.Undisturbed label)
    {after : TcpServer × Option ℕ} (called : state.callback label = some after) :
    ∃ next, state.step label = some next := by
  have foreign : own label = none := by
    cases label with
    | pass => cases called
    | handlePkt i => cases called
    | stop i => cases called
    | _ => rfl
  obtain ⟨tcp, writing⟩ := after
  have seen : TcpServer.Upward state.tcp tcp ∧
      (calls state.tcp tcp = [] ∨ state.common.adding = none) := by
    rcases callback_cases layered.owned undisturbed called with
      ⟨-, rfl | ⟨sClient, pData, rfl⟩⟩ | ⟨idle, effect, -⟩
    · exact ⟨(layered.upward .refl).2, Or.inl (TcpServer.calls_self _)⟩
    · exact ⟨(layered.upward (.single (.submitted sClient pData))).2,
        Or.inl (TcpServer.calls_send ..)⟩
    · exact ⟨(layered.upward effect).2, Or.inr idle⟩
  obtain ⟨common, took, -⟩ := layered.takes seen.1 seen.2
  refine ⟨⟨tcp, common, writing⟩, ?_⟩
  rw [WholeServer.step, foreign]
  show (state.callback label).bind state.moved = _
  rw [called, Option.bind_some, moved, took, Option.map_some]

/-! ## Runs -/

/-- Without `CloseClient` among them, labels disturb no server. -/
theorem undisturbed_of_labels {labels : List Label}
    (noClose : ∀ sClient, .closeClient sClient ∉ labels) (state : WholeServer H) :
    Along step Undisturbed state labels := by
  refine along_of_labels labels (fun label member state => ?_) state
  cases label with
  | closeClient sClient => exact absurd member (noClose sClient)
  | _ => trivial

section Runs

variable {nThreadNum nTimeout : Int32} {labels : List Label} {last : WholeServer H}

theorem layered_of_run (pDataHandle : H)
    (undisturbed : Along step Undisturbed (start pDataHandle nThreadNum nTimeout) labels)
    (runs : run step (start pDataHandle nThreadNum nTimeout) labels = some last) : last.Layered :=
  run_invariant_along (fun _ _ _ layered undisturbed taken => layered.step undisturbed taken)
    labels (layered_start pDataHandle nThreadNum nTimeout) undisturbed runs

/-- **The layers agree, and never get stuck on each other.**  In every state of every run
in which no `CloseClient` closes a registered connection: the upper layer knows the
registered connections under their numbers and was given what was read on their sockets,
and whatever `CTcpServer` can do, the server can do. -/
theorem layers_agree (pDataHandle : H)
    (undisturbed : Along step Undisturbed (start pDataHandle nThreadNum nTimeout) labels)
    (runs : run step (start pDataHandle nThreadNum nTimeout) labels = some last) :
    last.Layered ∧ ∀ label after, last.Undisturbed label → last.callback label = some after →
      ∃ next, last.step label = some next := by
  have layered := layered_of_run pDataHandle undisturbed runs
  exact ⟨layered, fun label after undisturbed called => layered.ready undisturbed called⟩

/-- A client whose two packets arrive in one read, for which there is something to write
when they do; it leaves while a packet is with a thread. -/
theorem layers_agree_reconnect :
    ∃ last, run step (start () 1 600) [.accept (.client 1 2 5) 0, .send ⟨1, 2, 5⟩ [42],
        .asyncSwap, .asyncExec,
        .ioFront 0 ⟨false, true, true⟩ (.data [1, 0, 0, 0, 7, 1, 0, 0, 0, 8]) 0 0, .pass,
        .handlePkt 0, .pass, .pass, .ioBack (.wrote 1) 0,
        .ioFront 0 ⟨false, true, false⟩ .eof 0 0, .accept (.client 1 2 5) 0] = some last ∧
      (last.Layered ∧ ∀ label after, last.Undisturbed label →
        last.callback label = some after → ∃ next, last.step label = some next) := by
  obtain ⟨last, runs⟩ := Option.isSome_iff_exists.mp
    (show (run step (start () 1 600) [.accept (.client 1 2 5) 0, .send ⟨1, 2, 5⟩ [42],
        .asyncSwap, .asyncExec,
        .ioFront 0 ⟨false, true, true⟩ (.data [1, 0, 0, 0, 7, 1, 0, 0, 0, 8]) 0 0, .pass,
        .handlePkt 0, .pass, .pass, .ioBack (.wrote 1) 0,
        .ioFront 0 ⟨false, true, false⟩ .eof 0 0, .accept (.client 1 2 5) 0]).isSome = true
      by decide +kernel)
  exact ⟨last, runs, layers_agree () (undisturbed_of_labels (by simp) _) runs⟩

/-- The upper layer of a run makes a run of `System`. -/
theorem common_of_run (pDataHandle : H)
    (undisturbed : Along step Undisturbed (start pDataHandle nThreadNum nTimeout) labels)
    (runs : run step (start pDataHandle nThreadNum nTimeout) labels = some last) :
    ∃ moves, run System.step (System.start pDataHandle nThreadNum) moves = some last.common := by
  refine (run_invariant_along (I := fun state : WholeServer H => state.Layered ∧
    ∃ moves, run System.step (System.start pDataHandle nThreadNum) moves = some state.common)
    ?_ labels ⟨layered_start pDataHandle nThreadNum nTimeout, [], rfl⟩ undisturbed runs).2
  rintro state label next ⟨layered, moves, reached⟩ undisturbed taken
  refine ⟨layered.step undisturbed taken, ?_⟩
  rcases step_cases layered.owned undisturbed taken with
    ⟨move, -, took, -, -⟩ | ⟨-, -, took, -⟩
  · exact ⟨moves ++ [move], run_concat_eq_some.mpr ⟨_, reached, took⟩⟩
  · exact ⟨moves ++ calls state.tcp next.tcp, by rw [run_append, reached, Option.bind_some, took]⟩

end Runs

/-! ## From the socket to the data handle -/

/-- The packets of a connection that the packet threads have in hand or queued. -/
def heldFrom (conn : ℕ) (state : WholeServer H) : List (PktData ℕ) :=
  (state.common.server.threads.flatMap PktHandleThread.pending).filter (System.fromConn conn)

/-- What the server makes of the bytes of one connection. -/
structure FramesOfSocket (conn : ℕ) (state : WholeServer H) : Prop where
  /-- Dispatched from the connection: packets in what was read on its socket, in order. -/
  framed_front : System.framedFrom conn state.common.log <+:
    (received [] (TcpServer.readOn conn state.tcp.log)).pkts
  /-- All of them, when the loop of `__AddContent` is not at the connection. -/
  framed_eq : state.common.adding.map Prod.snd ≠ some conn →
    System.framedFrom conn state.common.log =
      (received [] (TcpServer.readOn conn state.tcp.log)).pkts
  /-- Between two callbacks, the rest is kept under the key of the connection. -/
  kept : ∀ sClient, state.tcp.socketInfoManager.lookup sClient = some conn →
    state.common.adding = none →
    received [] (TcpServer.readOn conn state.tcp.log) =
      .returned (System.framedFrom conn state.common.log)
        (state.common.server.contentOf sClient)
  /-- What was dispatched from the connection is, in some order, what the data handle was
  given and what the threads still hold. -/
  delivered :
    (FifoPool.ofClass (System.fromConn conn) (System.dispatches state.common.log)).Perm
      (FifoPool.ofClass (System.fromConn conn) (System.beginnings state.common.log) ++
        state.heldFrom conn)

/-- Where the layers agree, what the upper one frames is in what the lower one read. -/
theorem Layered.framesOfSocket (layered : state.Layered) (numbered : state.common.Numbered)
    {conn : ℕ} (framed : state.common.FramedFrom conn)
    (everywhere : ((System.dispatches state.common.log).map Prod.snd).Perm
      ((System.beginnings state.common.log).map Prod.snd ++
        state.common.server.threads.flatMap PktHandleThread.pending)) :
    state.FramesOfSocket conn := by
  have read := layered.chunks_eq conn
  -- away from the connection the loop has nothing ahead of it
  have apart : ∀ {sClient}, state.common.live sClient = some conn →
      state.common.adding.map Prod.snd ≠ some conn →
      (state.common.ahead sClient).pkts = [] := by
    intro sClient registered elsewhere
    rw [System.ahead, if_neg]
    · rfl
    · intro here
      obtain ⟨⟨key, origin⟩, inside, rfl⟩ := Option.map_eq_some_iff.mp here
      have same := numbered.adding_live inside
      rw [registered, Option.some_inj] at same
      exact elsewhere (by rw [inside, same, Option.map_some])
  refine ⟨?_, fun elsewhere => ?_, fun sClient registered idle => ?_, ?_⟩
  · rw [← read]
    by_cases registered : ∃ sClient, state.common.live sClient = some conn
    · obtain ⟨sClient, registered⟩ := registered
      rw [framed.live registered, pkts_afterPkts]
      exact List.prefix_append _ _
    · obtain ⟨left, outcome⟩ := framed.ended (not_exists.mp registered)
      rw [outcome]
      exact List.prefix_refl _
  · rw [← read]
    by_cases registered : ∃ sClient, state.common.live sClient = some conn
    · obtain ⟨sClient, registered⟩ := registered
      rw [framed.live registered, pkts_afterPkts, apart registered elsewhere, List.append_nil]
    · obtain ⟨left, outcome⟩ := framed.ended (not_exists.mp registered)
      rw [outcome]
      rfl
  · rw [← read]
    exact framed.received_idle idle (by rw [layered.live_eq, registered])
  · have mine := everywhere.filter (System.fromConn conn)
    rwa [List.filter_append] at mine

/-- **Framing and delivery, from the socket on.**  In every state of every run in which no
`CloseClient` closes a registered connection, for every thread number and every
interleaving of the clients, the kernel and the threads: the packets dispatched
from a connection are those in the bytes that `recv` returned on its socket, and each of them
was given to the data handle or is with a thread. -/
theorem frames_of_socket (pDataHandle : H) {nThreadNum nTimeout : Int32} (low : 0 ≤ nThreadNum)
    (high : nThreadNum ≤ CommonServer.maxThreadNum) {labels : List Label} {last : WholeServer H}
    (undisturbed : Along step Undisturbed (start pDataHandle nThreadNum nTimeout) labels)
    (runs : run step (start pDataHandle nThreadNum nTimeout) labels = some last) (conn : ℕ) :
    last.FramesOfSocket conn := by
  have layered := layered_of_run pDataHandle undisturbed runs
  obtain ⟨moves, reached⟩ := common_of_run pDataHandle undisturbed runs
  obtain ⟨numbered, framed, -⟩ := System.invariants_of_run pDataHandle reached
  exact layered.framesOfSocket numbered (framed conn)
    (System.dispatched_perm_of_run low high reached)

/-- Two clients and two threads; the packet of the first is cut in two by the packet of
the second, and is delivered last. -/
theorem frames_of_socket_two_clients :
    ∃ last, run step (start () 2 600) [.accept (.client 1 2 5) 0, .accept (.client 3 4 6) 0,
        .ioFront 0 ⟨false, true, false⟩ (.data [2, 0, 0]) 0 0, .pass,
        .ioFront 1 ⟨false, true, false⟩ (.data [1, 0, 0, 0, 9]) 0 0, .pass, .pass,
        .ioFront 0 ⟨false, true, false⟩ (.data [0, 7, 8, 1]) 0 0, .pass, .pass,
        .handlePkt 1, .handlePkt 1, .handlePkt 1, .handlePkt 1, .handlePkt 1,
        .handlePkt 1] = some last ∧ last.FramesOfSocket 0 := by
  obtain ⟨last, runs⟩ := Option.isSome_iff_exists.mp
    (show (run step (start () 2 600) [.accept (.client 1 2 5) 0, .accept (.client 3 4 6) 0,
        .ioFront 0 ⟨false, true, false⟩ (.data [2, 0, 0]) 0 0, .pass,
        .ioFront 1 ⟨false, true, false⟩ (.data [1, 0, 0, 0, 9]) 0 0, .pass, .pass,
        .ioFront 0 ⟨false, true, false⟩ (.data [0, 7, 8, 1]) 0 0, .pass, .pass,
        .handlePkt 1, .handlePkt 1, .handlePkt 1, .handlePkt 1, .handlePkt 1,
        .handlePkt 1]).isSome = true by decide +kernel)
  exact ⟨last, runs, frames_of_socket () (by decide) (by decide)
    (undisturbed_of_labels (by simp) _) runs 0⟩

end WholeServer

end ServerLib
