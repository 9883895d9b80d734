import ServerLib.TcpServerEffects

/-!
# Does a connection read or write another connection's socket?

A descriptor number is used again as soon as it was closed.  A watcher that stays
active on a closed number then watches whatever was accepted on it next.

`NoCrossTalk` says, of one state, that every byte reported for a key was read from
the socket accepted under that key, every byte taken from a connection's queue was
written to that connection's socket, and no connection's active watcher refers to
a number the connection has closed.

`CTcpServer::CloseClient` breaks it: `CTcpConnection::Close` closes the descriptor
and leaves `m_Io` running, where the destructor, which also calls `Close`, stops
it.  `crossTalk_after_closeClient` is a run in which one client's bytes are reported
for another.  `noCrossTalk_iff` says that nothing else breaks it: the law holds in
every state of a run exactly when no `CloseClient` of the run names a registered
connection whose descriptor is open.
-/

namespace ServerLib

open Transition

namespace TcpServer

/-- The bytes of this event went to or came from the socket they should. -/
def Straight (log : List TcpEvent) : TcpEvent → Prop
  | .onClientDataReceived conn sClient _ source =>
      source = some conn ∧ .accepted conn sClient ∈ log
  | .written conn _ target => target = some conn
  | _ => True

/-- No connection reads or writes another connection's socket, or watches a
descriptor number it has closed. -/
structure NoCrossTalk (server : TcpServer) : Prop where
  straight : ∀ event ∈ server.log, Straight server.log event
  /-- The number the watcher is on was not closed by the connection, nor by another one with
  the connection's socket under it. -/
  unclosed : ∀ {conn connection}, server.heap conn = some connection →
    connection.io.active = true → ∀ closer socket, closer = conn ∨ socket = some conn →
      .closed closer connection.io.fd socket ∉ server.log

/-- The invariant behind it: only connections that are gone have closed their
descriptor, each its own. -/
structure Straightened (server : TcpServer) : Prop where
  straight : ∀ event ∈ server.log, Straight server.log event
  closed_gone : ∀ {conn fd socket}, .closed conn fd socket ∈ server.log →
    socket = some conn ∧ conn < server.nextConn ∧ server.heap conn = none

section Step

variable {Allowed : Int32 → Prop} {server next : TcpServer} {conn : ℕ}

/-- The history grew by events that are straight and close nothing, and no
connection object came back. -/
theorem Straightened.of_grown (straightened : server.Straightened)
    (events : List TcpEvent) (grown : next.log = server.log ++ events)
    (straight : ∀ event ∈ events, Straight next.log event)
    (closes : ∀ conn fd socket, .closed conn fd socket ∈ events →
      socket = some conn ∧ conn < next.nextConn ∧ next.heap conn = none)
    (sameNext : server.nextConn ≤ next.nextConn)
    (gone : ∀ conn < server.nextConn, server.heap conn = none → next.heap conn = none) :
    next.Straightened where
  straight event member := by
    rw [grown, List.mem_append] at member
    rcases member with member | member
    · have before := straightened.straight event member
      cases event with
      | onClientDataReceived conn sClient pData source =>
          exact ⟨before.1, by rw [grown]; exact List.mem_append_left _ before.2⟩
      | written conn pData target => exact before
      | _ => trivial
    · exact straight event member
  closed_gone {conn fd socket} member := by
    rw [grown, List.mem_append] at member
    rcases member with member | member
    · obtain ⟨own, small, none⟩ := straightened.closed_gone member
      exact ⟨own, Nat.lt_of_lt_of_le small sameNext, gone conn small none⟩
    · exact closes conn fd socket member

/-- An effect on a living connection object brings none back. -/
theorem gone_setConn {connection changed : TcpConnection}
    (alive : server.heap conn = some connection) :
    ∀ other < server.nextConn, server.heap other = none →
      (server.setConn conn changed).heap other = none := by
  intro other _ none
  have apart : other ≠ conn := by
    rintro rfl
    rw [alive] at none
    cases none
  simpa [setConn, apart] using none

theorem gone_ended {connection : TcpConnection} {manager : SocketInfoManager ℕ}
    {nErrorCode : Int32} :
    ∀ other < server.nextConn, server.heap other = none →
      (server.ended conn connection nErrorCode manager).heap other = none := by
  intro other _ none
  by_cases here : other = conn
  · simp [ended, here]
  · simpa [ended, here] using none

theorem straight_ended {log : List TcpEvent} {sClient : SocketClientData} {nErrorCode fd : Int32}
    {socket : Option ℕ} {isOpen : Prop} [Decidable isOpen] :
    ∀ event ∈ (.onClientDisconnected sClient nErrorCode ::
      if isOpen then [.closed conn fd socket] else [] : List TcpEvent), Straight log event := by
  intro event member
  rcases List.mem_cons.mp member with rfl | member
  · trivial
  · split at member
    · rw [List.mem_singleton] at member
      subst member
      trivial
    · cases member

/-- The connection that closes its descriptor at its end is gone, and the socket under it was
its own. -/
theorem closes_ended (owned : server.Owned) {connection : TcpConnection}
    (alive : server.heap conn = some connection) {nErrorCode : Int32}
    {manager : SocketInfoManager ℕ} :
    ∀ other fd socket, TcpEvent.closed other fd socket ∈
      (.onClientDisconnected connection.socketClient nErrorCode ::
        if 0 < connection.socket then
          [.closed conn connection.socket (server.owner connection.socket)]
        else [] : List TcpEvent) →
      socket = some other ∧ other < server.nextConn ∧
        (server.ended conn connection nErrorCode manager).heap other = none := by
  intro other fd socket member
  have mine := owned.conn_owned alive
  split at member
  · simp only [List.mem_cons, List.not_mem_nil, or_false, reduceCtorEq, false_or,
      TcpEvent.closed.injEq] at member
    obtain ⟨rfl, rfl, rfl⟩ := member
    exact ⟨by rw [mine.socket_eq, mine.owns], owned.conn_lt alive, by simp [ended]⟩
  · simp at member

/-- **Every effect keeps the sockets apart.** -/
theorem Straightened.effect (owned : server.Owned) (straightened : server.Straightened)
    (effect : Effect Allowed server next) : next.Straightened := by
  cases effect with
  | opened now _ _ free fresh added =>
      refine straightened.of_grown _ rfl (by simp [Straight]) (by simp) (Nat.le_succ _) ?_
      intro other small none
      simpa [TcpServer.opened, Nat.ne_of_lt small] using none
  | ended nErrorCode alive removed =>
      exact straightened.of_grown _ rfl straight_ended (closes_ended owned alive)
        (Nat.le_refl _) gone_ended
  | @received conn connection pData now alive =>
      have mine := owned.conn_owned alive
      refine straightened.of_grown _ rfl ?_ (by simp) (Nat.le_refl _) (gone_setConn alive)
      intro event member
      rw [List.mem_singleton] at member
      subst member
      exact ⟨by rw [mine.fd_eq, mine.owns], List.mem_append_left _ mine.accepted⟩
  | idle alive empty =>
      exact straightened.of_grown [] (List.append_nil _).symm (by simp) (by simp)
        (Nat.le_refl _) (gone_setConn alive)
  | @wrote conn connection pBuffer rest count fits now alive queue =>
      have mine := owned.conn_owned alive
      refine straightened.of_grown _ rfl ?_ (by simp) (Nat.le_refl _) (gone_setConn alive)
      intro event member
      rw [List.mem_singleton] at member
      subst member
      show server.owner connection.io.fd = some conn
      rw [mine.fd_eq, mine.owns]
  | submitted sClient pData =>
      exact straightened.of_grown [_] rfl (by simp [Straight]) (by simp) (Nat.le_refl _)
        fun _ _ none => none
  | swapped empty =>
      exact straightened.of_grown [] (List.append_nil _).symm (by simp) (by simp)
        (Nat.le_refl _) fun _ _ none => none
  | missed batch unknown =>
      exact straightened.of_grown [_] rfl (by simp [Straight]) (by simp) (Nat.le_refl _)
        fun _ _ none => none
  | queued batch alive =>
      exact straightened.of_grown [_] rfl (by simp [Straight]) (by simp) (Nat.le_refl _)
        (gone_setConn alive)
  | @refused pOutputBuffer rest conn connection manager batch alive removed =>
      have popped : (server.popped connection.socketClient pOutputBuffer rest).Straightened :=
        straightened.of_grown [_] rfl (by simp [Straight]) (by simp) (Nat.le_refl _)
          fun _ _ none => none
      exact popped.of_grown _ rfl straight_ended
        (closes_ended (owned.popped connection.socketClient pOutputBuffer rest) alive)
        (Nat.le_refl _) gone_ended

theorem Straightened.noCrossTalk (straightened : server.Straightened) : server.NoCrossTalk where
  straight := straightened.straight
  unclosed {conn connection} alive _ closer socket own member := by
    obtain ⟨rfl, -, gone⟩ := straightened.closed_gone member
    obtain rfl : closer = conn := own.elim id Option.some.inj
    rw [gone] at alive
    cases alive

/-- A step that closes the descriptor of a registered connection from outside leaves
its watcher on a closed number. -/
theorem undisturbed_of_noCrossTalk (owned : server.Owned) {label : Label}
    (taken : server.step label = some next) (clean : next.NoCrossTalk) :
    server.Undisturbed (fun _ => True) label := by
  cases label with
  | closeClient sClient =>
      intro conn registered connection alive isOpen
      obtain ⟨pTcpConnection, found, called⟩ := Option.bind_eq_some_iff.mp taken
      obtain ⟨-, found⟩ := SocketInfoManager.get_eq_some_iff.mp found
      rw [Option.mem_def.mp registered] at found
      subst found
      obtain ⟨connection', alive', rfl⟩ := Option.map_eq_some_iff.mp called
      rw [Option.mem_def.mp alive, Option.some_inj] at alive'
      subst alive'
      have mine := owned.conn_owned alive
      -- the watcher still runs on the number that was closed
      have watching : (server.close conn connection).heap conn =
          some { connection with socket := 0 } := by
        simp [close, isOpen, emit, setConn]
      have logged : (server.close conn connection).log = server.log ++
          [.closed conn connection.socket (server.owner connection.socket)] := by
        simp [close, isOpen, emit, setConn]
      refine clean.unclosed watching mine.active conn (server.owner connection.socket)
        (Or.inl rfl) ?_
      rw [logged, mine.fd_eq, ← mine.socket_eq]
      exact List.mem_append_right _ List.mem_cons_self
  | accept result now => cases result <;> trivial
  | _ => trivial

end Step

/-- **No cross-talk, exactly without `CloseClient` on an open connection.**  In every
run: no state of the run has cross-talk if and only if no step of it closes the
descriptor of a registered connection from outside. -/
theorem noCrossTalk_iff {nTimeout : Int32} {labels : List Label} {last : TcpServer}
    (runs : run step (new nTimeout) labels = some last) :
    (∀ front state, front <+: labels → run step (new nTimeout) front = some state →
      state.NoCrossTalk) ↔
    Along step (Undisturbed fun _ => True) (new nTimeout) labels := by
  constructor
  · intro clean
    induction labels using List.reverseRecOn generalizing last with
    | nil => trivial
    | append_singleton labels label ih =>
        obtain ⟨middle, before, taken⟩ := run_concat_eq_some.mp runs
        have along := ih before fun front state prefixed reached =>
          clean front state (prefixed.trans (List.prefix_append _ _)) reached
        have owned := (run_effects (I := fun _ => True) trivial (fun _ _ _ _ _ => trivial) along
          before).1
        refine along_append.mpr ⟨along, fun middle' reached => ⟨?_, fun _ _ => trivial⟩⟩
        rw [before, Option.some_inj] at reached
        subst reached
        exact undisturbed_of_noCrossTalk owned taken
          (clean _ last (List.prefix_refl _) runs)
  · rintro along front state ⟨back, rfl⟩ reached
    have start : (new nTimeout).Straightened := ⟨nofun, nofun⟩
    exact (run_effects start (fun _ _ owned straightened effect => straightened.effect owned effect)
      (along_append.mp along).1 reached).2.noCrossTalk

/-- A client disconnects, its descriptor number is used again by another client,
and a `CloseClient` for the first one's key comes too late to find anything. -/
theorem noCrossTalk_of_reused_descriptor :
    ∃ last, run step (new 600) [.accept (.client 1 2 5) 0,
        .io 0 ⟨false, true, false⟩ .eof .again 0 0, .accept (.client 3 4 5) 0,
        .closeClient ⟨1, 2, 5⟩, .io 1 ⟨false, true, false⟩ (.data [7]) .again 0 0] = some last ∧
      last.NoCrossTalk := by
  obtain ⟨last, runs⟩ := Option.isSome_iff_exists.mp
    (show (run step (new 600) [.accept (.client 1 2 5) 0,
        .io 0 ⟨false, true, false⟩ .eof .again 0 0, .accept (.client 3 4 5) 0,
        .closeClient ⟨1, 2, 5⟩,
        .io 1 ⟨false, true, false⟩ (.data [7]) .again 0 0]).isSome = true by decide +kernel)
  exact ⟨last, runs, (noCrossTalk_iff runs).mpr (by decide +kernel) _ last
    (List.prefix_refl _) runs⟩

/-- `CloseClient` closes descriptor 5 of the first client; the number is accepted
again for the second; the first one's watcher then reads the second one's bytes. -/
theorem crossTalk_after_closeClient :
    ¬ ∀ (nTimeout : Int32) (labels : List Label) (last : TcpServer),
      run step (new nTimeout) labels = some last → last.NoCrossTalk := by
  intro claim
  obtain ⟨last, runs, read⟩ : ∃ last, run step (new 600) [.accept (.client 1 2 5) 0,
      .closeClient ⟨1, 2, 5⟩, .accept (.client 3 4 5) 0,
      .io 0 ⟨false, true, false⟩ (.data [7]) .again 0 0] = some last ∧
      .onClientDataReceived 0 ⟨1, 2, 5⟩ [7] (some 1) ∈ last.log :=
    ⟨_, rfl, by decide +kernel⟩
  have straight := (claim 600 _ last runs).straight _ read
  exact absurd straight.1 (by decide)

end TcpServer

end ServerLib
