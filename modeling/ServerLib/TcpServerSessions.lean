import ServerLib.Library.Sessions
import ServerLib.TcpServerEffects

/-!
# The server is a table of sessions

`abs` reads a table of sessions off a server: the session of a key is the
connection object registered under it, with the bytes its write queue still has to
write; the output that waits is what is left of the batch, then `m_Functions`; the
history is what the log says about keys and sockets.

`effect_refines` says that every effect is a short run of that table.  Where a
function of the batch finds the write queue too long, the table carries the output
out and ends the session.  So whatever an undisturbed run of the server does, the
table can do, and the laws of the table are laws of the server (`run_laws`):

* `SendPath` — what `Send` submits is neither lost nor doubled nor reordered, and no
  queue waits without its watcher waiting for `EV_WRITE`.
* the callbacks for one key alternate, and the registered keys are the connected
  ones (`TcpServerLifeCycle` goes on from there).
-/

namespace ServerLib

open Transition Sessions

namespace TcpServer

/-! ## Reading a table off a server -/

/-- What an event says about a key or a socket. -/
def keyEvent : TcpEvent → Option (Sessions.Event SocketClientData Byte)
  | .accepted _ _ => none
  | .closed .. => none
  | .onClientConnected sClient => some (.opened sClient)
  | .onClientDisconnected sClient _ => some (.ended sClient)
  | .onClientDataReceived _ sClient pData _ => some (.received sClient pData)
  -- the bytes count for the socket that took them, whoever sent them
  | .written _ pData target => target.map fun socket => .written socket pData
  | .sent sClient pData => some (.submitted sClient pData)
  | .executed sClient pData => some (.executed sClient pData)

/-- The history of keys and sockets. -/
def history (server : TcpServer) : List (Sessions.Event SocketClientData Byte) :=
  server.log.filterMap keyEvent

/-- The calls of `Send` that were not carried out yet. -/
def pending (server : TcpServer) : List (SocketClientData × Bytes) :=
  (server.batch ++ server.functions).map fun entry => (entry.1, entry.2.getDataPos)

/-- The connection registered under a key, and what it still has to write. -/
def session (server : TcpServer) (sClient : SocketClientData) : Option (ℕ × Bytes) :=
  (server.socketInfoManager.lookup sClient).bind fun conn =>
    (server.heap conn).map fun connection => (conn, unsent connection.writeQueue)

/-- The table of sessions a server is. -/
def abs (server : TcpServer) : Table SocketClientData Byte where
  session := server.session
  waiting := server.pending
  next := server.nextConn
  history := server.history

section Step

variable {Allowed : Int32 → Prop} {server next : TcpServer} {conn : ℕ}
  {connection : TcpConnection} {manager : SocketInfoManager ℕ}

@[simp] theorem abs_new (nTimeout : Int32) : (new nTimeout).abs = Table.empty := by
  ext1
  · funext sClient
    simp [abs, session, new, Table.empty]
  · rfl
  · rfl
  · rfl

/-- A connection object is registered under its own key only. -/
theorem Owned.key_eq (owned : server.Owned) (alive : server.heap conn = some connection)
    {sClient : SocketClientData}
    (registered : server.socketInfoManager.lookup sClient = some conn) :
    sClient = connection.socketClient := by
  obtain ⟨connection', alive', sameKey⟩ := owned.alive registered
  rw [alive, Option.some_inj] at alive'
  rw [← sameKey, alive']

theorem session_eq (owned : server.Owned) (alive : server.heap conn = some connection) :
    server.session connection.socketClient = some (conn, unsent connection.writeQueue) := by
  rw [session, (owned.conn_owned alive).registered, Option.bind_some, alive, Option.map_some]

/-- A key has a session exactly when it is registered. -/
theorem session_isSome (owned : server.Owned) (sClient : SocketClientData) :
    (server.session sClient).isSome = (server.socketInfoManager.lookup sClient).isSome := by
  cases registered : server.socketInfoManager.lookup sClient with
  | none => simp [session, registered]
  | some conn =>
      obtain ⟨connection, alive, -⟩ := owned.alive registered
      simp [session, registered, alive]

theorem session_eq_none {sClient : SocketClientData}
    (unknown : server.socketInfoManager.lookup sClient = none) :
    server.session sClient = none := by
  rw [session, unknown, Option.bind_none]

/-- A change to one connection object is a change to one session. -/
theorem session_setConn (owned : server.Owned) (alive : server.heap conn = some connection)
    (changed : TcpConnection) :
    (server.setConn conn changed).session =
      Function.update server.session connection.socketClient
        (some (conn, unsent changed.writeQueue)) := by
  have mine := owned.conn_owned alive
  funext sClient
  by_cases same : sClient = connection.socketClient
  · subst same
    simp [session, setConn, mine.registered]
  · rw [Function.update_of_ne same]
    refine Option.bind_congr fun other registered => ?_
    have apart : other ≠ conn := by
      rintro rfl
      exact same (owned.key_eq alive registered)
    simp [setConn, apart]

/-- A connection that keeps its queue keeps its session. -/
theorem session_setConn_of_same (owned : server.Owned)
    (alive : server.heap conn = some connection) (changed : TcpConnection)
    (sameQueue : changed.writeQueue = connection.writeQueue) :
    (server.setConn conn changed).session = server.session := by
  rw [session_setConn owned alive, sameQueue, ← session_eq owned alive, Function.update_eq_self]

theorem session_ended (owned : server.Owned) (alive : server.heap conn = some connection)
    (removed : server.socketInfoManager.remove connection.socketClient = some manager)
    (nErrorCode : Int32) :
    (server.ended conn connection nErrorCode manager).session =
      Function.update server.session connection.socketClient none := by
  have mine := owned.conn_owned alive
  funext sClient
  have lookup : (server.ended conn connection nErrorCode manager).socketInfoManager.lookup
      sClient = if connection.socketClient = sClient then none
        else server.socketInfoManager.lookup sClient :=
    SocketInfoManager.lookup_remove removed sClient
  by_cases same : sClient = connection.socketClient
  · subst same
    rw [Function.update_self, session_eq_none (lookup.trans (if_pos rfl))]
  · rw [Function.update_of_ne same, session, lookup, if_neg (Ne.symm same)]
    refine Option.bind_congr fun other registered => ?_
    have apart : other ≠ conn := by
      rintro rfl
      exact same (owned.key_eq alive registered)
    simp [ended, apart]

theorem session_opened (owned : server.Owned) {sClient : SocketClientData} (now : Int32)
    (added : server.socketInfoManager.add sClient server.nextConn = some manager) :
    (server.opened sClient now manager).session =
      Function.update server.session sClient (some (server.nextConn, [])) := by
  funext other
  have lookup : (server.opened sClient now manager).socketInfoManager.lookup other =
      if sClient = other then some server.nextConn else server.socketInfoManager.lookup other :=
    SocketInfoManager.lookup_add added other
  by_cases same : other = sClient
  · subst same
    rw [Function.update_self, session, lookup, if_pos rfl]
    simp [opened, TcpConnection.new]
  · rw [Function.update_of_ne same, session, lookup, if_neg (Ne.symm same)]
    refine Option.bind_congr fun conn registered => ?_
    obtain ⟨connection, alive, -⟩ := owned.alive registered
    have apart : conn ≠ server.nextConn := Nat.ne_of_lt (owned.conn_lt alive)
    simp [opened, apart]

/-! ## Effects are runs of the table -/

theorem abs_opened (owned : server.Owned) {sClient : SocketClientData} (now : Int32)
    (added : server.socketInfoManager.add sClient server.nextConn = some manager) :
    (server.opened sClient now manager).abs = server.abs.opened sClient := by
  ext1
  · exact session_opened owned now added
  · rfl
  · rfl
  · simp [abs, history, opened, keyEvent, Table.opened, List.filterMap_cons]

theorem abs_ended (owned : server.Owned) (alive : server.heap conn = some connection)
    (removed : server.socketInfoManager.remove connection.socketClient = some manager)
    (nErrorCode : Int32) :
    (server.ended conn connection nErrorCode manager).abs =
      server.abs.ended connection.socketClient := by
  ext1
  · exact session_ended owned alive removed nErrorCode
  · rfl
  · rfl
  · by_cases isOpen : 0 < connection.socket
    · simp [abs, history, ended, keyEvent, Table.ended, isOpen, List.filterMap_cons]
    · simp [abs, history, ended, keyEvent, Table.ended, isOpen]

/-- The front of the batch is what waits in front. -/
theorem pending_eq {sClient : SocketClientData} {pOutputBuffer : OutputBuffer}
    {rest : List (SocketClientData × OutputBuffer)}
    (batch : server.batch = (sClient, pOutputBuffer) :: rest) :
    server.abs.waiting = (sClient, pOutputBuffer.getDataPos) ::
      (server.popped sClient pOutputBuffer rest).pending := by
  simp [abs, pending, popped, emit, batch]

/-- A function of the batch was called, and its output is for a key that is not
registered, or was pushed to the write queue. -/
theorem abs_executed {sClient : SocketClientData} {pOutputBuffer : OutputBuffer}
    {rest : List (SocketClientData × OutputBuffer)}
    {table : Table SocketClientData Byte}
    (session : table.session = Function.update server.session sClient
      ((server.session sClient).map fun entry =>
        (entry.1, entry.2 ++ pOutputBuffer.getDataPos)))
    (waiting : table.waiting = (server.popped sClient pOutputBuffer rest).pending)
    (next : table.next = server.nextConn)
    (history : table.history = (server.popped sClient pOutputBuffer rest).history) :
    server.abs.executed sClient pOutputBuffer.getDataPos
      (server.popped sClient pOutputBuffer rest).pending = table := by
  refine Table.ext session.symm waiting.symm next.symm ?_
  rw [history]
  simp [abs, TcpServer.history, Table.executed, popped, emit, keyEvent]

/-- One action of the table. -/
theorem run_single {table after : Table SocketClientData Byte}
    {action : Action SocketClientData Byte} (taken : table.step action = some after)
    (same : after = next.abs) : ∃ actions, run Table.step table actions = some next.abs := by
  refine ⟨[action], ?_⟩
  rw [run_cons, taken, Option.bind_some, run_nil, same]

/-- What a `write` takes from a queue, the session writes. -/
theorem wrote_refines (owned : server.Owned) {pBuffer : OutputBuffer} {rest : List OutputBuffer}
    {count : ℕ} (fits : count ≤ pBuffer.getBytes) (now : Int32)
    (alive : server.heap conn = some connection)
    (queue : connection.writeQueue = pBuffer :: rest) :
    ∃ actions, run Table.step server.abs actions = some ((server.setConn conn { connection with
        nLasttime := now
        writeQueue := advanceQueue pBuffer count fits rest
        io := if advanceQueue pBuffer count fits rest = [] then
            connection.io.set Interest.readOnly
          else
            connection.io }).emit
        (.written conn (pBuffer.getDataPos.take count) (server.owner connection.io.fd))).abs := by
  have mine := owned.conn_owned alive
  have live := session_eq owned alive
  have short : (pBuffer.getDataPos.take count).length = count := by
    rw [List.length_take, pBuffer.length_getDataPos, Nat.min_eq_left fits]
  -- what is unsent: the bytes that are taken, then what they leave
  rw [queue, ← take_append_unsent_advanceQueue fits rest] at live
  have enough : count ≤ (pBuffer.getDataPos.take count ++
      unsent (advanceQueue pBuffer count fits rest)).length := by
    rw [List.length_append, short]
    exact Nat.le_add_right ..
  apply run_single (Table.step_write live enough)
  refine Table.ext ?_ rfl rfl ?_
  · show Function.update server.session connection.socketClient _ = _
    rw [List.drop_left' short]
    exact (session_setConn owned alive { connection with
      nLasttime := now
      writeQueue := advanceQueue pBuffer count fits rest
      io := if advanceQueue pBuffer count fits rest = [] then
          connection.io.set Interest.readOnly
        else
          connection.io }).symm
  · show server.history ++ [.written conn _] = _
    rw [List.take_left' short]
    simp [abs, history, emit, setConn, keyEvent, mine.fd_eq, mine.owns]

/-- A queue that is too long: the output is carried out, and the session ends. -/
theorem refused_refines (owned : server.Owned) {pOutputBuffer : OutputBuffer}
    {rest : List (SocketClientData × OutputBuffer)}
    (batch : server.batch = (connection.socketClient, pOutputBuffer) :: rest)
    (alive : server.heap conn = some connection)
    (removed : server.socketInfoManager.remove connection.socketClient = some manager) :
    ∃ actions, run Table.step server.abs actions =
      some ((server.popped connection.socketClient pOutputBuffer rest).ended conn connection 0
        manager).abs := by
  have called := Table.step_execute (pending_eq batch)
  have live : (server.abs.executed connection.socketClient pOutputBuffer.getDataPos
      (server.popped connection.socketClient pOutputBuffer rest).pending).session
        connection.socketClient =
      some (conn, unsent connection.writeQueue ++ pOutputBuffer.getDataPos) := by
    show Function.update server.session _ ((server.session _).map _) _ = _
    rw [Function.update_self, session_eq owned alive, Option.map_some]
  refine ⟨[.execute, .close connection.socketClient], ?_⟩
  rw [run_cons, called, Option.bind_some, run_cons, Table.step_close live, Option.bind_some,
    run_nil, abs_ended (owned.popped _ _ _) alive removed 0]
  refine congrArg some (Table.ext ?_ rfl rfl ?_)
  · exact Function.update_idem ..
  · simp [Table.ended, Table.executed, abs, history, popped, emit, keyEvent]

/-- **The table follows every effect.** -/
theorem effect_refines (owned : server.Owned) (effect : Effect Allowed server next) :
    ∃ actions, run Table.step server.abs actions = some next.abs := by
  cases effect with
  | @opened sClient manager now _ _ free fresh added =>
      exact run_single (Table.step_open (session_eq_none fresh)) (abs_opened owned now added).symm
  | @ended conn connection manager nErrorCode alive removed =>
      exact run_single (Table.step_close (session_eq owned alive))
        (abs_ended owned alive removed nErrorCode).symm
  | @received conn connection pData now alive =>
      refine run_single (Table.step_receive (session_eq owned alive) pData)
        (Table.ext ?_ rfl rfl ?_)
      · exact (session_setConn_of_same owned alive { connection with nLasttime := now } rfl).symm
      · simp [Table.received, abs, history, emit, setConn, keyEvent]
  | @idle conn connection alive empty =>
      have same : (server.setConn conn { connection with
          io := connection.io.set Interest.readOnly }).abs = server.abs :=
        Table.ext (session_setConn_of_same owned alive _ rfl) rfl rfl rfl
      exact ⟨[], by rw [same, run_nil]⟩
  | wrote fits now alive queue => exact wrote_refines owned fits now alive queue
  | submitted sClient pData =>
      have taken : server.abs.step (.submit sClient pData) =
        some (server.abs.submitted sClient pData) := rfl
      refine run_single taken (Table.ext rfl ?_ rfl ?_)
      · simp [Table.submitted, abs, pending, send, emit]
      · simp [Table.submitted, abs, history, send, emit, keyEvent]
  | swapped empty =>
      have same : server.asyncSwap.abs = server.abs :=
        Table.ext rfl (by simp [abs, pending, asyncSwap, empty]) rfl rfl
      exact ⟨[], by rw [same, run_nil]⟩
  | @missed sClient pOutputBuffer rest batch unknown =>
      refine run_single (Table.step_execute (pending_eq batch)) (abs_executed ?_ rfl rfl rfl)
      rw [session_eq_none unknown, Option.map_none, ← session_eq_none unknown,
        Function.update_eq_self]
      rfl
  | @queued pOutputBuffer rest conn connection batch alive =>
      refine run_single (Table.step_execute (pending_eq batch)) (abs_executed ?_ rfl rfl rfl)
      rw [session_eq owned alive]
      refine (session_setConn (owned.popped _ _ _) alive _).trans ?_
      show Function.update server.session _ (some (conn, unsent (_ ++ [_]))) = _
      rw [unsent_append, unsent_cons, unsent_nil, List.append_nil, Option.map_some]
  | refused batch alive removed => exact refused_refines owned batch alive removed

end Step

/-- **Every undisturbed run of the server is a run of the table**, so the laws of the
table hold of it. -/
theorem run_laws {Allowed : Int32 → Prop} {nTimeout : Int32} {labels : List Label}
    {last : TcpServer} (undisturbed : Along step (Undisturbed Allowed) (new nTimeout) labels)
    (runs : run step (new nTimeout) labels = some last) :
    last.Owned ∧ last.abs.Accounted ∧ last.abs.Tracked ∧ last.abs.Lived := by
  have follows : last.Owned ∧ ∃ actions, run Table.step Table.empty actions = some last.abs := by
    have start : ∃ actions, run Table.step Table.empty actions = some (new nTimeout).abs :=
      ⟨[], by rw [abs_new, run_nil]⟩
    refine run_effects (I := fun server => ∃ actions, run Table.step Table.empty actions =
      some server.abs) start ?_ undisturbed runs
    rintro server next owned ⟨actions, reached⟩ effect
    obtain ⟨more, taken⟩ := effect_refines owned effect
    exact ⟨actions ++ more, by rw [run_append, reached, Option.bind_some, taken]⟩
  obtain ⟨owned, actions, reached⟩ := follows
  exact ⟨owned, Table.run_laws reached⟩

/-! ## The send path -/

/-- Data submitted with `Send` is neither lost nor doubled nor reordered, and is on
its way. -/
structure SendPath (server : TcpServer) : Prop where
  /-- Carried out, then the rest of the batch, then `m_Functions`: together all calls
  of `Send`, in the order of the lock. -/
  lossless : executions server.history ++ server.pending = submissions server.history
  /-- Written on the socket, then unsent in the queue: together the data of the calls
  for the key that were carried out since it was registered. -/
  conserved : ∀ {sClient conn}, server.socketInfoManager.lookup sClient = some conn →
    ∃ connection, server.heap conn = some connection ∧ connection.socketClient = sClient ∧
      writtenOn conn server.history ++ unsent connection.writeQueue =
        executedSince sClient server.history ∧
      -- the watcher of a queue that waits is running and waits for `EV_WRITE`
      (connection.writeQueue ≠ [] →
        connection.io.active = true ∧ connection.io.events.write = true)

/-- Without `CloseClient` among them, and with `accept` free to return what it may,
labels disturb no server. -/
theorem undisturbed_of_labels {Allowed : Int32 → Prop} {labels : List Label}
    (noClose : ∀ sClient, .closeClient sClient ∉ labels)
    (allowed : ∀ IP Port client_fd now,
      .accept (.client IP Port client_fd) now ∈ labels → Allowed client_fd)
    (server : TcpServer) : Along step (Undisturbed Allowed) server labels := by
  refine along_of_labels labels (fun label member state => ?_) server
  cases label with
  | closeClient sClient => exact absurd member (noClose sClient)
  | accept result now =>
      cases result with
      | client IP Port client_fd => exact allowed IP Port client_fd now member
      | watcherError => trivial
      | failed => trivial
  | _ => trivial

/-- **The send path of the server conserves what is sent.**  In every state of every
run without `CloseClient`, whatever the clients, the threads and the kernel do. -/
theorem sendPath {nTimeout : Int32} {labels : List Label} {last : TcpServer}
    (noClose : ∀ sClient, .closeClient sClient ∉ labels)
    (runs : run step (new nTimeout) labels = some last) : last.SendPath := by
  have undisturbed : Along step (Undisturbed fun _ => True) (new nTimeout) labels :=
    undisturbed_of_labels noClose (fun _ _ _ _ _ => trivial) _
  obtain ⟨owned, accounted, -, -⟩ := run_laws undisturbed runs
  refine ⟨accounted.lossless, fun {sClient conn} registered => ?_⟩
  obtain ⟨connection, alive, rfl⟩ := owned.alive registered
  have mine := owned.conn_owned alive
  have live : last.abs.session connection.socketClient =
      some (conn, unsent connection.writeQueue) := session_eq owned alive
  exact ⟨connection, alive, rfl, accounted.balanced live,
    fun nonempty => ⟨mine.active, mine.interest nonempty⟩⟩

/-- Two clients, three calls of `Send` in one batch, a client that leaves before its
data is carried out, a partial write. -/
theorem sendPath_two_clients :
    ∃ last, run step (new 600) [.accept (.client 1 2 5) 0, .accept (.client 3 4 6) 0,
        .send ⟨1, 2, 5⟩ [1, 2, 3], .send ⟨3, 4, 6⟩ [7], .send ⟨1, 2, 5⟩ [4],
        .io 1 ⟨false, true, false⟩ .eof .again 0 0, .asyncSwap, .asyncExec, .asyncExec,
        .asyncExec, .io 0 ⟨false, false, true⟩ .again (.wrote 2) 0 0] = some last ∧
      last.SendPath := by
  obtain ⟨last, runs⟩ := Option.isSome_iff_exists.mp
    (show (run step (new 600) [.accept (.client 1 2 5) 0, .accept (.client 3 4 6) 0,
        .send ⟨1, 2, 5⟩ [1, 2, 3], .send ⟨3, 4, 6⟩ [7], .send ⟨1, 2, 5⟩ [4],
        .io 1 ⟨false, true, false⟩ .eof .again 0 0, .asyncSwap, .asyncExec, .asyncExec,
        .asyncExec, .io 0 ⟨false, false, true⟩ .again (.wrote 2) 0 0]).isSome = true
      by decide +kernel)
  exact ⟨last, runs, sendPath (by simp) runs⟩

end TcpServer

end ServerLib
