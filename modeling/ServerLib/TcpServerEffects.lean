import ServerLib.TcpServer

/-!
# What a step of the server can do

`Effect` lists, once, everything a step of `CTcpServer` does to the state: a client
is registered, a connection ends, bytes come in or go out, a call of `Send` is
taken in or carried out.  A step of the code is a short sequence of effects
(`step_effects`), and every property of the server is proved effect by effect.

The sequence exists in states in which every connection owns what it uses.
`Owned` is that invariant: the registry, the watchers and the descriptor table
agree about every connection object.  It survives every effect — and every step
except one.  `CTcpServer::CloseClient` closes the descriptor of a registered
connection and leaves its watcher active on the number.  `Undisturbed` is the
condition that no step does that.

`run_effects` is the rule the modules about the server use: what holds of a new
server and is kept by every effect holds in every state of every undisturbed run.
-/

namespace ServerLib

open Transition

namespace TcpServer

/-! ## Effects -/

/-- The server after the connection object `conn` ended: it was reported, its entry
was removed and it was destroyed. -/
def ended (server : TcpServer) (conn : ℕ) (connection : TcpConnection) (nErrorCode : Int32)
    (manager : SocketInfoManager ℕ) : TcpServer :=
  { server with
    socketInfoManager := manager
    heap := Function.update server.heap conn none
    owner :=
      if 0 < connection.socket then Function.update server.owner connection.socket none
      else server.owner
    log := server.log ++ .onClientDisconnected connection.socketClient nErrorCode ::
      if 0 < connection.socket then
        [.closed conn connection.socket (server.owner connection.socket)]
      else
        [] }

/-- The server after a client was accepted and registered. -/
def opened (server : TcpServer) (sClient : SocketClientData) (now : Int32)
    (manager : SocketInfoManager ℕ) : TcpServer :=
  { server with
    socketInfoManager := manager
    heap := Function.update server.heap server.nextConn
      (some (TcpConnection.new sClient server.nTimeout now))
    nextConn := server.nextConn + 1
    owner := Function.update server.owner sClient.Socket (some server.nextConn)
    log := server.log ++ [.accepted server.nextConn sClient, .onClientConnected sClient] }

/-- The next function of the batch was called. -/
def popped (server : TcpServer) (sClient : SocketClientData) (pOutputBuffer : OutputBuffer)
    (rest : List (SocketClientData × OutputBuffer)) : TcpServer :=
  { server.emit (.executed sClient pOutputBuffer.getDataPos) with batch := rest }

/-- The things a step does, one at a time.  `Allowed` restricts the descriptors
`accept` returns. -/
inductive Effect (Allowed : Int32 → Prop) (server : TcpServer) : TcpServer → Prop where
  | opened {sClient : SocketClientData} {manager : SocketInfoManager ℕ} (now : Int32) :
      0 ≤ sClient.Socket → Allowed sClient.Socket → server.owner sClient.Socket = none →
      server.socketInfoManager.lookup sClient = none →
      server.socketInfoManager.add sClient server.nextConn = some manager →
      Effect Allowed server (server.opened sClient now manager)
  | ended {conn : ℕ} {connection : TcpConnection} {manager : SocketInfoManager ℕ}
      (nErrorCode : Int32) :
      server.heap conn = some connection →
      server.socketInfoManager.remove connection.socketClient = some manager →
      Effect Allowed server (server.ended conn connection nErrorCode manager)
  | received {conn : ℕ} {connection : TcpConnection} (pData : Bytes) (now : Int32) :
      server.heap conn = some connection →
      Effect Allowed server
        ((server.setConn conn { connection with nLasttime := now }).emit
          (.onClientDataReceived conn connection.socketClient pData
            (server.owner connection.io.fd)))
  | idle {conn : ℕ} {connection : TcpConnection} :
      server.heap conn = some connection → connection.writeQueue = [] →
      Effect Allowed server
        (server.setConn conn { connection with io := connection.io.set Interest.readOnly })
  | wrote {conn : ℕ} {connection : TcpConnection} {pBuffer : OutputBuffer}
      {rest : List OutputBuffer} {count : ℕ} (fits : count ≤ pBuffer.getBytes) (now : Int32) :
      server.heap conn = some connection → connection.writeQueue = pBuffer :: rest →
      Effect Allowed server
        ((server.setConn conn { connection with
          nLasttime := now
          writeQueue := advanceQueue pBuffer count fits rest
          io := if advanceQueue pBuffer count fits rest = [] then
              connection.io.set Interest.readOnly
            else
              connection.io }).emit
          (.written conn (pBuffer.getDataPos.take count) (server.owner connection.io.fd)))
  | submitted (sClient : SocketClientData) (pData : Bytes) :
      Effect Allowed server (server.send sClient pData)
  | swapped : server.batch = [] → Effect Allowed server server.asyncSwap
  | missed {sClient : SocketClientData} {pOutputBuffer : OutputBuffer}
      {rest : List (SocketClientData × OutputBuffer)} :
      server.batch = (sClient, pOutputBuffer) :: rest →
      server.socketInfoManager.lookup sClient = none →
      Effect Allowed server (server.popped sClient pOutputBuffer rest)
  | queued {pOutputBuffer : OutputBuffer} {rest : List (SocketClientData × OutputBuffer)}
      {conn : ℕ} {connection : TcpConnection} :
      server.batch = (connection.socketClient, pOutputBuffer) :: rest →
      server.heap conn = some connection →
      Effect Allowed server
        ((server.popped connection.socketClient pOutputBuffer rest).setConn conn
          { connection with
            writeQueue := connection.writeQueue ++ [pOutputBuffer]
            io := connection.io.set Interest.readWrite })
  | refused {pOutputBuffer : OutputBuffer} {rest : List (SocketClientData × OutputBuffer)}
      {conn : ℕ} {connection : TcpConnection} {manager : SocketInfoManager ℕ} :
      server.batch = (connection.socketClient, pOutputBuffer) :: rest →
      server.heap conn = some connection →
      server.socketInfoManager.remove connection.socketClient = some manager →
      Effect Allowed server
        ((server.popped connection.socketClient pOutputBuffer rest).ended conn connection 0
          manager)

/-! ## Every connection owns what it uses -/

/-- The registry, the descriptor table and its own watcher agree about a connection
object. -/
structure ConnOwned (server : TcpServer) (conn : ℕ) (connection : TcpConnection) : Prop where
  registered : server.socketInfoManager.lookup connection.socketClient = some conn
  socket_eq : connection.socket = connection.socketClient.Socket
  fd_eq : connection.io.fd = connection.socketClient.Socket
  active : connection.io.active = true
  owns : server.owner connection.socketClient.Socket = some conn
  accepted : .accepted conn connection.socketClient ∈ server.log
  /-- While there is something to write, the watcher waits for `EV_WRITE`. -/
  interest : connection.writeQueue ≠ [] → connection.io.events.write = true

/-- Every connection object owns what it uses, and the registry names connection
objects by their key. -/
structure Owned (server : TcpServer) : Prop where
  conn_owned : ∀ {conn connection}, server.heap conn = some connection →
    server.ConnOwned conn connection
  alive : ∀ {sClient conn}, server.socketInfoManager.lookup sClient = some conn →
    ∃ connection, server.heap conn = some connection ∧ connection.socketClient = sClient
  owner_lt : ∀ {fd conn}, server.owner fd = some conn → conn < server.nextConn

theorem owned_new (nTimeout : Int32) : (new nTimeout).Owned :=
  ⟨nofun, fun registered => by simp [new] at registered, nofun⟩

section Step

variable {Allowed : Int32 → Prop} {server next : TcpServer} {conn : ℕ}
  {connection : TcpConnection} {manager : SocketInfoManager ℕ}

/-- Two connection objects with one descriptor are one. -/
theorem Owned.conn_unique (owned : server.Owned) {conn' : ℕ} {connection' : TcpConnection}
    (alive : server.heap conn = some connection) (alive' : server.heap conn' = some connection')
    (same : connection.socketClient.Socket = connection'.socketClient.Socket) : conn = conn' := by
  have owns := (owned.conn_owned alive).owns
  rw [same, (owned.conn_owned alive').owns, Option.some_inj] at owns
  exact owns.symm

theorem Owned.conn_lt (owned : server.Owned) (alive : server.heap conn = some connection) :
    conn < server.nextConn :=
  owned.owner_lt (owned.conn_owned alive).owns

/-- Events and the two lists of functions are no part of the invariant, except that
the history only grows. -/
theorem Owned.of_same (owned : server.Owned)
    (sameManager : next.socketInfoManager = server.socketInfoManager)
    (sameHeap : next.heap = server.heap) (sameOwner : next.owner = server.owner)
    (sameNext : next.nextConn = server.nextConn) (grown : ∀ event ∈ server.log, event ∈ next.log) :
    next.Owned where
  conn_owned alive := by
    obtain ⟨registered, socket_eq, fd_eq, active, owns, accepted, interest⟩ :=
      owned.conn_owned (sameHeap ▸ alive)
    exact ⟨by rw [sameManager, registered], socket_eq, fd_eq, active, by rw [sameOwner, owns],
      grown _ accepted, interest⟩
  alive registered := by
    rw [sameHeap]
    exact owned.alive (sameManager ▸ registered)
  owner_lt owns := by
    rw [sameNext]
    exact owned.owner_lt (sameOwner ▸ owns)

theorem Owned.popped (owned : server.Owned) (sClient : SocketClientData)
    (pOutputBuffer : OutputBuffer) (rest : List (SocketClientData × OutputBuffer)) :
    (server.popped sClient pOutputBuffer rest).Owned :=
  owned.of_same rfl rfl rfl rfl fun _ member => List.mem_append_left _ member

/-- A connection object may change its queue, its interest and its clock. -/
theorem Owned.setConn (owned : server.Owned) (alive : server.heap conn = some connection)
    {changed : TcpConnection} (sameClient : changed.socketClient = connection.socketClient)
    (sameSocket : changed.socket = connection.socket) (sameFd : changed.io.fd = connection.io.fd)
    (sameActive : changed.io.active = connection.io.active)
    (interest : changed.writeQueue ≠ [] → changed.io.events.write = true) :
    (server.setConn conn changed).Owned where
  conn_owned {other connection'} alive' := by
    rcases update_eq_some_iff.mp alive' with ⟨rfl, same⟩ | ⟨-, alive''⟩
    · rw [Option.some_inj] at same
      subst same
      obtain ⟨registered, socket_eq, fd_eq, active, owns, accepted, -⟩ := owned.conn_owned alive
      refine ⟨?_, ?_, ?_, ?_, ?_, ?_, interest⟩
      · rwa [sameClient]
      · rw [sameClient, sameSocket, socket_eq]
      · rw [sameClient, sameFd, fd_eq]
      · rw [sameActive, active]
      · rwa [sameClient]
      · rwa [sameClient]
    · obtain ⟨registered, socket_eq, fd_eq, active, owns, accepted, interest'⟩ :=
        owned.conn_owned alive''
      exact ⟨registered, socket_eq, fd_eq, active, owns, accepted, interest'⟩
  alive {sClient other} registered := by
    obtain ⟨connection', alive', sameKey⟩ := owned.alive registered
    by_cases here : other = conn
    · subst here
      rw [alive, Option.some_inj] at alive'
      subst alive'
      exact ⟨changed, by simp [TcpServer.setConn], sameClient.trans sameKey⟩
    · exact ⟨connection', by simpa [TcpServer.setConn, here] using alive', sameKey⟩
  owner_lt owns := owned.owner_lt owns

/-- A connection that ends takes its entry and its descriptor with it, and no other
connection's. -/
theorem Owned.ended (owned : server.Owned) (alive : server.heap conn = some connection)
    (removed : server.socketInfoManager.remove connection.socketClient = some manager)
    (nErrorCode : Int32) : (server.ended conn connection nErrorCode manager).Owned := by
  have mine := owned.conn_owned alive
  refine ⟨fun {other connection'} alive' => ?_, fun {sClient other} registered => ?_,
    fun {fd other} owns => ?_⟩
  · obtain ⟨apart, alive''⟩ : other ≠ conn ∧ server.heap other = some connection' :=
      (update_eq_some_iff.mp alive').resolve_left fun gone => nomatch gone.2
    obtain ⟨registered, socket_eq, fd_eq, active, owns, accepted, interest⟩ :=
      owned.conn_owned alive''
    -- its key and its descriptor are not those of the connection that ends
    refine ⟨?_, socket_eq, fd_eq, active, ?_, List.mem_append_left _ accepted, interest⟩
    · show manager.lookup connection'.socketClient = some other
      rw [SocketInfoManager.lookup_remove removed, if_neg, registered]
      intro same
      rw [← same, mine.registered, Option.some_inj] at registered
      exact apart registered.symm
    · show (if 0 < connection.socket then Function.update server.owner connection.socket none
        else server.owner) connection'.socketClient.Socket = some other
      split
      · rw [Function.update_of_ne, owns]
        intro same
        exact apart (owned.conn_unique alive'' alive (same.trans mine.socket_eq))
      · exact owns
  · have registered' : manager.lookup sClient = some other := registered
    rw [SocketInfoManager.lookup_remove removed] at registered'
    split at registered'
    · cases registered'
    · next differs =>
        obtain ⟨connection', alive', sameKey⟩ := owned.alive registered'
        refine ⟨connection', ?_, sameKey⟩
        have apart : other ≠ conn := by
          rintro rfl
          rw [alive, Option.some_inj] at alive'
          exact differs (alive' ▸ sameKey)
        simpa [TcpServer.ended, apart] using alive'
  · simp only [TcpServer.ended] at owns
    split at owns
    · rcases update_eq_some_iff.mp owns with ⟨-, closed⟩ | ⟨-, owns⟩
      · cases closed
      · exact owned.owner_lt owns
    · exact owned.owner_lt owns

/-- A new connection gets a key, an object number and a descriptor no other
connection has. -/
theorem Owned.opened (owned : server.Owned) {sClient : SocketClientData} (now : Int32)
    (free : server.owner sClient.Socket = none)
    (fresh : server.socketInfoManager.lookup sClient = none)
    (added : server.socketInfoManager.add sClient server.nextConn = some manager) :
    (server.opened sClient now manager).Owned := by
  refine ⟨fun {other connection'} alive' => ?_, fun {key other} registered => ?_,
    fun {fd other} owns => ?_⟩
  · rcases update_eq_some_iff.mp alive' with ⟨rfl, same⟩ | ⟨-, alive''⟩
    · rw [Option.some_inj] at same
      subst same
      refine ⟨?_, rfl, rfl, rfl, ?_, ?_, fun nonempty => absurd rfl nonempty⟩
      · show manager.lookup sClient = some server.nextConn
        rw [SocketInfoManager.lookup_add added, if_pos rfl]
      · exact Function.update_self ..
      · simp [TcpServer.opened, TcpConnection.new]
    · obtain ⟨registered, socket_eq, fd_eq, active, owns, accepted, interest⟩ :=
        owned.conn_owned alive''
      refine ⟨?_, socket_eq, fd_eq, active, ?_, List.mem_append_left _ accepted, interest⟩
      · show manager.lookup connection'.socketClient = some other
        rw [SocketInfoManager.lookup_add added, if_neg, registered]
        rintro rfl
        rw [fresh] at registered
        cases registered
      · show Function.update server.owner sClient.Socket _ _ = some other
        rw [Function.update_of_ne, owns]
        intro same
        rw [same, free] at owns
        cases owns
  · have registered' : manager.lookup key = some other := registered
    rw [SocketInfoManager.lookup_add added] at registered'
    split at registered'
    · next same =>
        cases registered'
        exact ⟨TcpConnection.new sClient server.nTimeout now, by simp [TcpServer.opened], same⟩
    · obtain ⟨connection', alive', sameKey⟩ := owned.alive registered'
      have apart : other ≠ server.nextConn := Nat.ne_of_lt (owned.conn_lt alive')
      exact ⟨connection', by simpa [TcpServer.opened, apart] using alive', sameKey⟩
  · rcases update_eq_some_iff.mp owns with ⟨-, new⟩ | ⟨-, owns⟩
    · exact Option.some.inj new ▸ Nat.lt_succ_self _
    · exact Nat.lt_succ_of_lt (owned.owner_lt owns)

/-- **The invariant survives every effect.** -/
theorem Owned.effect (owned : server.Owned) (effect : Effect Allowed server next) :
    next.Owned := by
  have grown : ∀ {server : TcpServer} {event : TcpEvent}, ∀ other ∈ server.log,
      other ∈ (server.emit event).log := fun other member => List.mem_append_left _ member
  cases effect with
  | opened now _ _ free fresh added => exact owned.opened now free fresh added
  | ended nErrorCode alive removed => exact owned.ended alive removed nErrorCode
  | received pData now alive =>
      refine Owned.of_same (owned.setConn alive ?_ ?_ ?_ ?_ ?_) rfl rfl rfl rfl grown
      · rfl
      · rfl
      · rfl
      · rfl
      · exact (owned.conn_owned alive).interest
  | idle alive empty =>
      exact owned.setConn alive rfl rfl rfl rfl fun nonempty => absurd empty nonempty
  | wrote fits now alive queue =>
      refine Owned.of_same (owned.setConn alive ?_ ?_ ?_ ?_ ?_) rfl rfl rfl rfl grown
      · rfl
      · rfl
      · dsimp only
        split <;> rfl
      · dsimp only
        split <;> rfl
      · intro nonempty
        rw [if_neg nonempty]
        exact (owned.conn_owned alive).interest (by simp [queue])
  | submitted sClient pData => exact owned.of_same rfl rfl rfl rfl grown
  | swapped empty => exact owned.of_same rfl rfl rfl rfl fun _ member => member
  | missed batch unknown => exact owned.of_same rfl rfl rfl rfl grown
  | queued batch alive =>
      exact (owned.popped _ _ _).setConn alive rfl rfl rfl rfl fun _ => rfl
  | refused batch alive removed =>
      exact (owned.popped _ _ _).ended alive removed 0

/-! ## Steps are sequences of effects -/

/-- No step closes the descriptor of a registered connection from outside, and
`accept` returns an allowed descriptor. -/
def Undisturbed (Allowed : Int32 → Prop) (server : TcpServer) : Label → Prop
  | .closeClient sClient => ∀ conn ∈ server.socketInfoManager.lookup sClient,
      ∀ connection ∈ server.heap conn, ¬ 0 < connection.socket
  | .accept (.client _ _ client_fd) _ => Allowed client_fd
  | _ => True

instance [DecidablePred Allowed] (server : TcpServer) :
    (label : Label) → Decidable (server.Undisturbed Allowed label)
  | .closeClient _ => inferInstanceAs (Decidable (∀ conn ∈ _, ∀ connection ∈ _, ¬ _ < _))
  | .accept (.client _ _ client_fd) _ => inferInstanceAs (Decidable (Allowed client_fd))
  | .accept .watcherError _ | .accept .failed _ | .io .. | .timer .. | .asyncSwap | .asyncExec
  | .send .. => inferInstanceAs (Decidable True)

/-- A termination of a connection that owns its entry is the one effect `ended`. -/
theorem terminate_eq (owned : server.Owned) (alive : server.heap conn = some connection)
    {nErrorCode : Int32}
    (called : server.terminate connection.socketClient nErrorCode = some next) :
    ∃ manager, server.socketInfoManager.remove connection.socketClient = some manager ∧
      next = server.ended conn connection nErrorCode manager := by
  obtain ⟨manager, removed, rfl⟩ := Option.map_eq_some_iff.mp called
  refine ⟨manager, removed, ?_⟩
  have registered : (server.emit (.onClientDisconnected connection.socketClient
      nErrorCode)).socketInfoManager.lookup connection.socketClient = some conn :=
    (owned.conn_owned alive).registered
  rw [registered]
  by_cases isOpen : 0 < connection.socket
  · simp [destroy, close, emit, TcpServer.setConn, TcpServer.ended, alive, isOpen]
  · simp [destroy, close, emit, TcpServer.ended, alive, isOpen]

theorem terminate_effect (owned : server.Owned) (alive : server.heap conn = some connection)
    {nErrorCode : Int32}
    (called : server.terminate connection.socketClient nErrorCode = some next) :
    Effect Allowed server next := by
  obtain ⟨manager, removed, rfl⟩ := terminate_eq owned alive called
  exact .ended nErrorCode alive removed

theorem accept_effect (owned : server.Owned) {IP : UInt32} {Port : UInt16}
    {client_fd now : Int32} (allowed : Allowed client_fd)
    (called : server.accept now (.client IP Port client_fd) = some next) :
    Effect Allowed server next := by
  obtain ⟨free, called⟩ := Option.ite_none_right_eq_some.mp called
  obtain ⟨manager, added, rfl⟩ := Option.map_eq_some_iff.mp called
  have fresh : server.socketInfoManager.lookup ⟨IP, Port, client_fd⟩ = none := by
    -- a registered connection would own the descriptor
    rw [Option.eq_none_iff_forall_ne_some]
    intro conn registered
    obtain ⟨connection, alive, sameKey⟩ := owned.alive registered
    have owns := (owned.conn_owned alive).owns
    rw [sameKey, free.2] at owns
    exact Option.some_ne_none _ owns.symm
  have effect : Effect Allowed server (server.opened ⟨IP, Port, client_fd⟩ now manager) :=
    .opened now free.1 allowed free.2 fresh added
  rw [fresh]
  simpa [TcpServer.opened, emit, TcpServer.setConn] using effect

/-- What the `EV_READ` branch does: nothing, one effect behind which the callback
goes on with the connection still there, or the end of the connection. -/
theorem ioRead_cases (owned : server.Owned) (alive : server.heap conn = some connection)
    {nRead : RecvResult} {now : Int32} {goesOn : Bool}
    (called : server.ioRead conn connection nRead now = some (next, goesOn)) :
    goesOn = true ∧ next = server ∨
      goesOn = true ∧ Effect Allowed server next ∨
      goesOn = false ∧ Effect Allowed server next := by
  obtain ⟨-, called⟩ := Option.ite_none_right_eq_some.mp called
  cases nRead with
  | eof =>
      obtain ⟨after, ended, same⟩ := Option.map_eq_some_iff.mp called
      obtain ⟨rfl, rfl⟩ := Prod.mk.inj same
      exact Or.inr (Or.inr ⟨rfl, terminate_effect owned alive ended⟩)
  | again =>
      obtain ⟨rfl, rfl⟩ := Prod.mk.inj (Option.some.inj called)
      exact Or.inl ⟨rfl, rfl⟩
  | error errno =>
      obtain ⟨after, ended, same⟩ := Option.map_eq_some_iff.mp called
      obtain ⟨rfl, rfl⟩ := Prod.mk.inj same
      exact Or.inr (Or.inr ⟨rfl, terminate_effect owned alive ended⟩)
  | data pData =>
      obtain ⟨rfl, rfl⟩ := Prod.mk.inj (Option.some.inj called)
      exact Or.inr (Or.inl ⟨rfl, .received pData now alive⟩)

/-- What the `EV_WRITE` branch does: nothing or one effect. -/
theorem ioWrite_cases (owned : server.Owned) (alive : server.heap conn = some connection)
    {nWritten : WriteResult} {now : Int32}
    (called : server.ioWrite conn connection nWritten now = some next) :
    next = server ∨ Effect Allowed server next := by
  unfold ioWrite at called
  split at called
  · next empty =>
      obtain rfl := Option.some.inj called
      exact Or.inr (.idle alive empty)
  · next pBuffer rest queue =>
      obtain ⟨-, called⟩ := Option.ite_none_right_eq_some.mp called
      cases nWritten with
      | again => exact Or.inl (Option.some.inj called).symm
      | error errno => exact Or.inr (terminate_effect owned alive called)
      | wrote count =>
          obtain ⟨fits, same⟩ := Option.dite_none_right_eq_some.mp called
          obtain rfl := Option.some.inj same
          exact Or.inr (.wrote fits now alive queue)

theorem ioCallback_effects (owned : server.Owned) {revents : Revents} {nRead : RecvResult}
    {nWritten : WriteResult} {errno now : Int32}
    (called : server.ioCallback conn revents nRead nWritten errno now = some next) :
    Relation.ReflTransGen (Effect Allowed) server next := by
  unfold ioCallback at called
  split at called
  · exact absurd called (by simp)
  · next connection alive =>
      obtain ⟨-, called⟩ := Option.ite_none_right_eq_some.mp called
      split at called
      · exact .single (terminate_effect owned alive called)
      · obtain ⟨⟨after, goesOn⟩, read, behind⟩ := Option.bind_eq_some_iff.mp called
        -- the read branch, if there was one
        have reading : goesOn = true ∧ after = server ∨
            goesOn = true ∧ Effect Allowed server after ∨
            goesOn = false ∧ Effect Allowed server after := by
          split at read
          · exact ioRead_cases owned alive read
          · obtain ⟨rfl, rfl⟩ := Prod.mk.inj (Option.some.inj read)
            exact Or.inl ⟨rfl, rfl⟩
        -- the write branch, behind it
        have writing : ∀ {middle : TcpServer}, middle.Owned →
            (if revents.write then (middle.heap conn).bind fun connection =>
              middle.ioWrite conn connection nWritten now else some middle) = some next →
            Relation.ReflTransGen (Effect Allowed) middle next := by
          intro middle owned' write
          split at write
          · obtain ⟨connection', alive', write⟩ := Option.bind_eq_some_iff.mp write
            rcases ioWrite_cases owned' alive' write with rfl | effect
            · exact .refl
            · exact .single effect
          · obtain rfl := Option.some.inj write
            exact .refl
        rcases reading with ⟨rfl, rfl⟩ | ⟨rfl, effect⟩ | ⟨rfl, effect⟩
        · exact writing owned behind
        · exact .head effect (writing (owned.effect effect) behind)
        · obtain rfl := Option.some.inj behind
          exact .single effect

theorem timerCallback_effects (owned : server.Owned) {error : Bool} {errno now : Int32}
    (called : server.timerCallback conn error errno now = some next) :
    Relation.ReflTransGen (Effect Allowed) server next := by
  unfold timerCallback at called
  split at called
  · exact absurd called (by simp)
  · next connection alive =>
      split at called
      · exact .single (terminate_effect owned alive called)
      · split at called
        · exact .single (terminate_effect owned alive called)
        · obtain rfl := Option.some.inj called
          exact .refl

theorem asyncExec_effect (owned : server.Owned) (called : server.asyncExec = some next) :
    Effect Allowed server next := by
  unfold asyncExec at called
  split at called
  · cases called
  · next sClient pOutputBuffer rest batch =>
      obtain ⟨pTcpConnection, found, called⟩ := Option.bind_eq_some_iff.mp called
      obtain ⟨-, found⟩ := SocketInfoManager.get_eq_some_iff.mp found
      cases pTcpConnection with
      | none =>
          cases called
          exact .missed batch found
      | some conn =>
          obtain ⟨connection, alive, called⟩ := Option.bind_eq_some_iff.mp called
          have alive' : server.heap conn = some connection := alive
          have sameKey : connection.socketClient = sClient := by
            obtain ⟨connection', alive'', sameKey⟩ := owned.alive found
            rw [alive', Option.some_inj] at alive''
            exact alive'' ▸ sameKey
          subst sameKey
          unfold connSend at called
          split at called
          · obtain ⟨manager, removed, rfl⟩ :=
              terminate_eq (owned.popped connection.socketClient pOutputBuffer rest) alive called
            exact .refused batch alive' removed
          · cases called
            exact .queued batch alive'

/-- **A step is a sequence of effects**, unless it closes the descriptor of a
registered connection from outside. -/
theorem step_effects (owned : server.Owned) {label : Label}
    (undisturbed : server.Undisturbed Allowed label) (taken : server.step label = some next) :
    Relation.ReflTransGen (Effect Allowed) server next := by
  -- outside the batch, where the loop thread is in no callback
  have idle : ∀ {result : Option TcpServer}, (if server.batch = [] then result else none) =
      some next → result = some next :=
    fun called => (Option.ite_none_right_eq_some.mp called).2
  cases label with
  | accept result now =>
      have called := idle taken
      cases result with
      | watcherError =>
          cases called
          exact .refl
      | failed =>
          cases called
          exact .refl
      | client IP Port client_fd => exact .single (accept_effect owned undisturbed called)
  | io conn revents nRead nWritten errno now => exact ioCallback_effects owned (idle taken)
  | timer conn error errno now => exact timerCallback_effects owned (idle taken)
  | asyncSwap =>
      obtain ⟨empty, same⟩ := Option.ite_none_right_eq_some.mp taken
      obtain rfl := Option.some.inj same
      exact .single (.swapped empty)
  | asyncExec => exact .single (asyncExec_effect owned taken)
  | send sClient pData =>
      cases taken
      exact .single (.submitted sClient pData)
  | closeClient sClient =>
      obtain ⟨pTcpConnection, found, called⟩ := Option.bind_eq_some_iff.mp taken
      obtain ⟨-, found⟩ := SocketInfoManager.get_eq_some_iff.mp found
      cases pTcpConnection with
      | none =>
          cases called
          exact .refl
      | some conn =>
          obtain ⟨connection, alive, rfl⟩ := Option.map_eq_some_iff.mp called
          rw [close, if_neg (undisturbed conn found connection alive)]

end Step

/-- **The run rule for effects.**  What holds at the start and is kept by every
effect holds in every state of every undisturbed run. -/
theorem run_effects {Allowed : Int32 → Prop} {I : TcpServer → Prop} {nTimeout : Int32}
    (start : I (new nTimeout))
    (kept : ∀ server next, server.Owned → I server → Effect Allowed server next → I next)
    {labels : List Label} {last : TcpServer}
    (undisturbed : Along step (Undisturbed Allowed) (new nTimeout) labels)
    (runs : run step (new nTimeout) labels = some last) : last.Owned ∧ I last :=
  run_invariant_effects (I := fun server => server.Owned ∧ I server)
    (fun _ _ _ holds undisturbed taken => step_effects holds.1 undisturbed taken)
    (fun _ _ holds effect => ⟨holds.1.effect effect, kept _ _ holds.1 holds.2 effect⟩)
    labels ⟨owned_new nTimeout, start⟩ undisturbed runs

end TcpServer

end ServerLib
