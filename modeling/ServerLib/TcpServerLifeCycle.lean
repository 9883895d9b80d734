import ServerLib.TcpServerSessions

/-!
# The life cycle of a connection

What the handler and the kernel see of a connection of `CTcpServer`, over a whole run
in which the application does not call `CloseClient` and `accept` returns positive
descriptors.  (`CTcpConnection::Close` takes `m_Socket == 0` for "closed": it would
never close descriptor 0.)

There are six ways a connection ends — the peer closes, `recv` fails, `write` fails,
the write queue is too long, the connection is idle, a watcher reports an error — and
all six are the one effect `ended`.  The callbacks and the registered keys are laws of
the table of sessions the server is (`TcpServerSessions`).  The descriptors are not
the table's business: `Closing` is the invariant about them, and `lifeCycle` puts the
two together.
-/

namespace ServerLib

open Transition Sessions

namespace TcpServer

/-- The descriptor numbers `close` was called with for an accepted socket, in order. -/
def closes (conn : ℕ) (log : List TcpEvent) : List Int32 :=
  log.filterMap fun
    | .closed _ fd (some socket) => if socket = conn then some fd else none
    | _ => none

@[simp] theorem closes_append (conn : ℕ) (log more : List TcpEvent) :
    closes conn (log ++ more) = closes conn log ++ closes conn more :=
  List.filterMap_append

theorem closes_eq_nil {conn : ℕ} {events : List TcpEvent}
    (none : ∀ closer fd socket, .closed closer fd socket ∉ events) : closes conn events = [] := by
  rw [closes, List.filterMap_eq_nil_iff]
  intro event member
  cases event with
  | closed closer fd socket => exact absurd member (none closer fd socket)
  | _ => rfl

/-! ## Every descriptor is closed once -/

/-- What was accepted under a key is open as long as it is registered, and was closed
once, under its own number, when it is not. -/
structure Closing (server : TcpServer) : Prop where
  accepted_lt : ∀ {conn sClient}, .accepted conn sClient ∈ server.log → conn < server.nextConn
  accepted_inj : ∀ {conn sClient sClient'}, .accepted conn sClient ∈ server.log →
    .accepted conn sClient' ∈ server.log → sClient = sClient'
  positive : ∀ {conn connection}, server.heap conn = some connection → 0 < connection.socket
  fresh : ∀ {conn}, server.nextConn ≤ conn → closes conn server.log = []
  once : ∀ {conn sClient}, .accepted conn sClient ∈ server.log →
    closes conn server.log =
      if server.socketInfoManager.lookup sClient = some conn then [] else [sClient.Socket]
  own : ∀ {conn fd socket}, .closed conn fd socket ∈ server.log →
    socket = some conn ∧ ∃ sClient, .accepted conn sClient ∈ server.log ∧ fd = sClient.Socket

section Step

variable {server next : TcpServer} {conn : ℕ} {connection : TcpConnection}
  {manager : SocketInfoManager ℕ}

/-- Nothing was accepted or closed, and no connection object has another descriptor. -/
theorem Closing.of_same (closing : server.Closing) (events : List TcpEvent)
    (grown : next.log = server.log ++ events)
    (noAccept : ∀ conn sClient, .accepted conn sClient ∉ events)
    (noClose : ∀ conn fd socket, .closed conn fd socket ∉ events)
    (sameManager : next.socketInfoManager = server.socketInfoManager)
    (sameNext : next.nextConn = server.nextConn)
    (sameSocket : ∀ conn connection, next.heap conn = some connection →
      ∃ before, server.heap conn = some before ∧ connection.socket = before.socket) :
    next.Closing := by
  have old : ∀ {conn sClient}, .accepted conn sClient ∈ next.log →
      .accepted conn sClient ∈ server.log := by
    intro conn sClient member
    rw [grown, List.mem_append] at member
    exact member.resolve_right (noAccept conn sClient)
  have sameCloses : ∀ conn, closes conn next.log = closes conn server.log := by
    intro conn
    rw [grown, closes_append, closes_eq_nil noClose, List.append_nil]
  refine ⟨fun member => ?_, fun member member' => closing.accepted_inj (old member) (old member'),
    fun {conn connection} alive => ?_, fun {conn} large => ?_, fun {conn sClient} member => ?_,
    fun {closer fd socket} member => ?_⟩
  · rw [sameNext]
    exact closing.accepted_lt (old member)
  · obtain ⟨before, alive', same⟩ := sameSocket conn connection alive
    rw [same]
    exact closing.positive alive'
  · rw [sameCloses]
    exact closing.fresh (sameNext ▸ large)
  · rw [sameCloses, sameManager]
    exact closing.once (old member)
  · rw [grown, List.mem_append] at member
    obtain ⟨mine, sClient, accepted, number⟩ :=
      closing.own (member.resolve_right (noClose closer fd socket))
    exact ⟨mine, sClient, grown ▸ List.mem_append_left _ accepted, number⟩

/-- A change to a connection object that keeps its descriptor. -/
theorem sameSocket_setConn {changed : TcpConnection}
    (alive : server.heap conn = some connection) (same : changed.socket = connection.socket) :
    ∀ other connection', (server.setConn conn changed).heap other = some connection' →
      ∃ before, server.heap other = some before ∧ connection'.socket = before.socket := by
  intro other connection' alive'
  rcases update_eq_some_iff.mp alive' with ⟨rfl, new⟩ | ⟨-, old⟩
  · cases new
    exact ⟨connection, alive, same⟩
  · exact ⟨connection', old, rfl⟩

theorem Closing.popped (closing : server.Closing) (sClient : SocketClientData)
    (pOutputBuffer : OutputBuffer) (rest : List (SocketClientData × OutputBuffer)) :
    (server.popped sClient pOutputBuffer rest).Closing :=
  closing.of_same [_] rfl (by simp) (by simp) rfl rfl fun _ connection alive =>
    ⟨connection, alive, rfl⟩

/-- A new connection has closed nothing. -/
theorem Closing.opened (closing : server.Closing) {sClient : SocketClientData} (now : Int32)
    (positive : 0 < sClient.Socket)
    (fresh : server.socketInfoManager.lookup sClient = none)
    (added : server.socketInfoManager.add sClient server.nextConn = some manager) :
    (server.opened sClient now manager).Closing := by
  have mem : ∀ {event}, event ∈ (server.opened sClient now manager).log ↔
      event ∈ server.log ∨ event = .accepted server.nextConn sClient ∨
        event = .onClientConnected sClient := by
    intro event
    simp [TcpServer.opened]
  have sameCloses : ∀ conn, closes conn (server.opened sClient now manager).log =
      closes conn server.log := by
    intro conn
    simp [TcpServer.opened, closes]
  have number : ∀ {conn key}, .accepted conn key ∈ (server.opened sClient now manager).log →
      .accepted conn key ∈ server.log ∨ conn = server.nextConn ∧ key = sClient := by
    intro conn key member
    simpa [mem] using member
  refine ⟨fun {conn key} member => ?_, fun {conn key key'} member member' => ?_,
    fun {conn connection} alive => ?_, fun {conn} large => ?_, fun {conn key} member => ?_,
    fun {closer fd socket} member => ?_⟩
  · rcases number member with old | ⟨rfl, -⟩
    · exact Nat.lt_succ_of_lt (closing.accepted_lt old)
    · exact Nat.lt_succ_self _
  · rcases number member with old | ⟨rfl, rfl⟩ <;> rcases number member' with old' | ⟨same, rfl⟩
    · exact closing.accepted_inj old old'
    · exact absurd (same ▸ closing.accepted_lt old) (Nat.lt_irrefl _)
    · exact absurd (closing.accepted_lt old') (Nat.lt_irrefl _)
    · rfl
  · rcases update_eq_some_iff.mp alive with ⟨-, new⟩ | ⟨-, old⟩
    · cases new
      exact positive
    · exact closing.positive old
  · rw [sameCloses]
    exact closing.fresh (Nat.le_of_succ_le large)
  · rw [sameCloses]
    show closes conn server.log = if manager.lookup key = some conn then [] else [key.Socket]
    rw [SocketInfoManager.lookup_add added]
    rcases number member with old | ⟨rfl, rfl⟩
    · rw [closing.once old]
      by_cases same : sClient = key
      · -- the key was used before, by a connection that is gone
        subst same
        have apart : server.nextConn ≠ conn := (Nat.ne_of_lt (closing.accepted_lt old)).symm
        simp [fresh, apart]
      · rw [if_neg same]
    · rw [closing.fresh (Nat.le_refl _), if_pos rfl, if_pos rfl]
  · rcases mem.mp member with old | same | same
    · obtain ⟨mine, key, accepted, number⟩ := closing.own old
      exact ⟨mine, key, mem.mpr (Or.inl accepted), number⟩
    · cases same
    · cases same

/-- A connection that ends closes its descriptor, and only its own. -/
theorem Closing.ended (owned : server.Owned) (closing : server.Closing)
    (alive : server.heap conn = some connection)
    (removed : server.socketInfoManager.remove connection.socketClient = some manager)
    (nErrorCode : Int32) : (server.ended conn connection nErrorCode manager).Closing := by
  have mine := owned.conn_owned alive
  have isOpen := closing.positive alive
  have grown : (server.ended conn connection nErrorCode manager).log = server.log ++
      [.onClientDisconnected connection.socketClient nErrorCode,
        .closed conn connection.socketClient.Socket (some conn)] := by
    simp only [TcpServer.ended, if_pos isOpen]
    rw [mine.socket_eq, mine.owns]
  have old : ∀ {other key}, .accepted other key ∈
      (server.ended conn connection nErrorCode manager).log → .accepted other key ∈ server.log := by
    intro other key member
    simpa [grown] using member
  have moreCloses : ∀ other, closes other (server.ended conn connection nErrorCode manager).log =
      closes other server.log ++ if conn = other then [connection.socketClient.Socket] else [] := by
    intro other
    rw [grown, closes_append]
    by_cases same : conn = other
    · simp [closes, same]
    · simp [closes, same]
  refine ⟨fun member => closing.accepted_lt (old member),
    fun member member' => closing.accepted_inj (old member) (old member'),
    fun {other connection'} alive' => ?_, fun {other} large => ?_, fun {other key} member => ?_,
    fun {closer fd socket} member => ?_⟩
  · rcases update_eq_some_iff.mp alive' with ⟨-, new⟩ | ⟨-, alive'⟩
    · cases new
    · exact closing.positive alive'
  · have apart : conn ≠ other := Nat.ne_of_lt (Nat.lt_of_lt_of_le (owned.conn_lt alive) large)
    rw [moreCloses, if_neg apart, List.append_nil]
    exact closing.fresh large
  · show _ = if manager.lookup key = some other then [] else [key.Socket]
    rw [moreCloses, closing.once (old member), SocketInfoManager.lookup_remove removed]
    by_cases same : conn = other
    · subst same
      -- an accepted socket has one key
      have sameKey : connection.socketClient = key :=
        closing.accepted_inj mine.accepted (old member)
      subst sameKey
      simp [mine.registered]
    · by_cases sameKey : connection.socketClient = key
      · subst sameKey
        simp [mine.registered, same]
      · simp [same, sameKey]
  · rw [grown, List.mem_append] at member
    rcases member with member | member
    · obtain ⟨ended, key, accepted, same⟩ := closing.own member
      exact ⟨ended, key, grown ▸ List.mem_append_left _ accepted, same⟩
    · simp only [List.mem_cons, List.not_mem_nil, or_false, reduceCtorEq, false_or,
        TcpEvent.closed.injEq] at member
      obtain ⟨rfl, number, ended⟩ := member
      exact ⟨ended, connection.socketClient,
        grown ▸ List.mem_append_left _ mine.accepted, number⟩

/-- **Every effect keeps the account of the descriptors**, where `accept` returns
positive ones. -/
theorem Closing.effect (owned : server.Owned) (closing : server.Closing)
    (effect : Effect (fun fd => 0 < fd) server next) : next.Closing := by
  cases effect with
  | opened now _ positive _ fresh added => exact closing.opened now positive fresh added
  | ended nErrorCode alive removed => exact Closing.ended owned closing alive removed nErrorCode
  | received pData now alive =>
      exact closing.of_same [_] rfl (by simp) (by simp) rfl rfl (sameSocket_setConn alive rfl)
  | idle alive empty =>
      exact closing.of_same [] (List.append_nil _).symm (by simp) (by simp) rfl rfl
        (sameSocket_setConn alive rfl)
  | wrote fits now alive queue =>
      exact closing.of_same [_] rfl (by simp) (by simp) rfl rfl (sameSocket_setConn alive rfl)
  | submitted sClient pData =>
      exact closing.of_same [_] rfl (by simp) (by simp) rfl rfl
        fun _ connection alive => ⟨connection, alive, rfl⟩
  | swapped empty =>
      exact closing.of_same [] (List.append_nil _).symm (by simp) (by simp) rfl rfl
        fun _ connection alive => ⟨connection, alive, rfl⟩
  | missed batch unknown => exact closing.popped _ _ _
  | queued batch alive =>
      exact closing.of_same [_] rfl (by simp) (by simp) rfl rfl (sameSocket_setConn alive rfl)
  | refused batch alive removed =>
      exact Closing.ended (owned.popped _ _ _) (closing.popped _ _ _) alive removed 0

end Step

/-! ## The life cycle -/

/-- What holds of the connections of a server between any two of its steps. -/
structure LifeCycle (server : TcpServer) : Prop where
  /-- The callbacks for a key: connected, any number of data, disconnected; and again,
  possibly cut short. -/
  callbacks : ∀ sClient, ∃ rest, letters sClient server.history ++ rest ∈ lives
  /-- The registered keys are those connected and not yet disconnected. -/
  registered : ∀ sClient, (server.socketInfoManager.lookup sClient).isSome = true ↔
    Connected sClient server.history
  /-- A key is mapped to the connection with this key, whose descriptor is open. -/
  mapped : ∀ {sClient conn}, server.socketInfoManager.lookup sClient = some conn →
    ∃ connection, server.heap conn = some connection ∧ connection.socketClient = sClient ∧
      connection.socket = sClient.Socket ∧ server.owner connection.socket = some conn
  /-- Registered connections have pairwise distinct descriptors. -/
  distinct : ∀ {sClient sClient' conn conn'},
    server.socketInfoManager.lookup sClient = some conn →
    server.socketInfoManager.lookup sClient' = some conn' →
    sClient.Socket = sClient'.Socket → sClient = sClient'
  /-- An accepted descriptor is open while its connection is registered, and was closed
  exactly once when it is not. -/
  closed_once : ∀ {conn sClient}, .accepted conn sClient ∈ server.log →
    closes conn server.log =
      if server.socketInfoManager.lookup sClient = some conn then [] else [sClient.Socket]
  /-- Nothing else is closed, and nothing by another connection. -/
  closed_own : ∀ {conn fd socket}, .closed conn fd socket ∈ server.log →
    socket = some conn ∧ ∃ sClient, .accepted conn sClient ∈ server.log ∧ fd = sClient.Socket

/-- **The life cycle of a connection.**  In every state of every run in which
`CloseClient` is not called and `accept` returns positive descriptors. -/
theorem lifeCycle {nTimeout : Int32} {labels : List Label} {last : TcpServer}
    (noClose : ∀ sClient, .closeClient sClient ∉ labels)
    (positive : ∀ IP Port client_fd now,
      .accept (.client IP Port client_fd) now ∈ labels → 0 < client_fd)
    (runs : run step (new nTimeout) labels = some last) : last.LifeCycle := by
  have undisturbed : Along step (Undisturbed fun fd => 0 < fd) (new nTimeout) labels :=
    undisturbed_of_labels noClose positive _
  obtain ⟨owned, -, tracked, lived⟩ := run_laws undisturbed runs
  have closing : last.Closing :=
    (run_effects ⟨nofun, nofun, nofun, fun _ => rfl, nofun, nofun⟩
      (fun _ _ owned closing effect => closing.effect owned effect) undisturbed runs).2
  refine ⟨lived.letters_prefix, fun sClient => ?_, fun {sClient conn} registered => ?_,
    fun {sClient sClient' conn conn'} registered registered' same => ?_,
    closing.once, closing.own⟩
  · rw [← session_isSome owned]
    exact tracked sClient
  · obtain ⟨connection, alive, rfl⟩ := owned.alive registered
    have mine := owned.conn_owned alive
    exact ⟨connection, alive, rfl, mine.socket_eq, by rw [mine.socket_eq, mine.owns]⟩
  · obtain ⟨connection, alive, rfl⟩ := owned.alive registered
    obtain ⟨connection', alive', rfl⟩ := owned.alive registered'
    obtain rfl := owned.conn_unique alive alive' same
    rw [alive, Option.some_inj] at alive'
    rw [alive']

/-- A client disconnects and its descriptor number is used again, under another key;
then a watcher reports an error. -/
theorem lifeCycle_of_reused_descriptor :
    ∃ last, run step (new 600) [.accept (.client 1 2 5) 0,
        .io 0 ⟨false, true, false⟩ (.data [7]) .again 0 0,
        .io 0 ⟨false, true, false⟩ .eof .again 0 0, .accept (.client 3 4 5) 0,
        .io 1 ⟨true, false, false⟩ .again .again 9 0] = some last ∧ last.LifeCycle := by
  obtain ⟨last, runs⟩ := Option.isSome_iff_exists.mp
    (show (run step (new 600) [.accept (.client 1 2 5) 0,
        .io 0 ⟨false, true, false⟩ (.data [7]) .again 0 0,
        .io 0 ⟨false, true, false⟩ .eof .again 0 0, .accept (.client 3 4 5) 0,
        .io 1 ⟨true, false, false⟩ .again .again 9 0]).isSome = true by decide +kernel)
  refine ⟨last, runs, lifeCycle (by simp) ?_ runs⟩
  intro IP Port client_fd now member
  simp at member
  rcases member with ⟨⟨-, -, rfl⟩, -⟩ | ⟨⟨-, -, rfl⟩, -⟩ <;> decide

end TcpServer

end ServerLib
