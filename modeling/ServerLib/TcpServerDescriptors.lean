import ServerLib.CrossTalk
import ServerLib.SocketCalls

/-!
# The descriptors of the connections, `CloseClient` included

`CTcpServer::CloseClient` breaks what the other modules rest on: the watcher of the connection
goes on with the number it has closed, which may be another connection's by then, and the
invariant `Owned` is gone with the first such call.  What it does not break is the closing.
`CTcpConnection::Close` resets `m_Socket`, so the destructor, which calls it again, does not
close the number a second time, and whose number it has become does not matter.

`Held` is what is left of `Owned` in every run, and enough for that: an object with a
positive `m_Socket` has the number `accept` returned for it, and the kernel has the object's
socket under this number.  The registry is read only as far as that it names no object of the
future; that the objects it names have the keys they are registered under is not needed.

The result (`descriptors_of_run`) is the ledger of all connections: every `close` is of a
number that was accepted and not closed since, and ends the socket of the connection that
makes the call; and a connection that is gone has closed its descriptor.  A descriptor 0 is
the exception: `Close` asks for `m_Socket > 0`, and it stays open for good.
-/

namespace ServerLib

open Transition

namespace TcpServer

/-- The calls of `accept` and `close` in a history. -/
def descriptorCalls (log : List TcpEvent) : List SocketCall :=
  log.filterMap fun
    | .accepted _ sClient => some (.socket sClient.Socket)
    | .closed _ fd socket => some (.close fd (socket.map Descriptor.socket))
    | _ => none

/-- The event opens or closes nothing. -/
def KeepsDescriptors : TcpEvent → Prop
  | .accepted .. => False
  | .closed .. => False
  | _ => True

/-- What holds of the descriptors in every state. -/
structure Held (server : TcpServer) : Prop where
  held : ∀ {conn connection}, server.heap conn = some connection → 0 < connection.socket →
    connection.socket = connection.socketClient.Socket ∧
      server.owner connection.socket = some conn
  accepted : ∀ {conn connection}, server.heap conn = some connection →
    .accepted conn connection.socketClient ∈ server.log
  /-- A descriptor is in the object it was accepted for, or closed. -/
  kept : ∀ {conn sClient}, .accepted conn sClient ∈ server.log → 0 < sClient.Socket →
    (∃ connection, server.heap conn = some connection ∧ connection.socket = sClient.Socket) ∨
      .closed conn sClient.Socket (some conn) ∈ server.log
  heap_lt : ∀ {conn connection}, server.heap conn = some connection → conn < server.nextConn
  named_lt : ∀ {sClient conn}, server.socketInfoManager.lookup sClient = some conn →
    conn < server.nextConn
  ledger : Ledger (descriptorCalls server.log) fun fd => (server.owner fd).map Descriptor.socket
  law : NoDoubleClose (descriptorCalls server.log)
  /-- A socket is closed by the connection it was accepted for. -/
  own : ∀ {conn fd socket}, .closed conn fd socket ∈ server.log →
    socket = some conn ∧ ∃ sClient, .accepted conn sClient ∈ server.log ∧ sClient.Socket = fd

section Step

variable {server next : TcpServer} {conn : ℕ} {connection : TcpConnection}

theorem descriptorCalls_append (log events : List TcpEvent) :
    descriptorCalls (log ++ events) = descriptorCalls log ++ descriptorCalls events :=
  List.filterMap_append

theorem descriptorCalls_eq_nil {events : List TcpEvent}
    (keeps : ∀ event ∈ events, KeepsDescriptors event) : descriptorCalls events = [] := by
  refine List.filterMap_eq_nil_iff.mpr fun event member => ?_
  have kept := keeps event member
  cases event with
  | accepted conn sClient => exact kept.elim
  | closed conn fd socket => exact kept.elim
  | _ => rfl

/-- What is neither a descriptor nor an object is no part of it. -/
theorem Held.of_grown (held : server.Held) (events : List TcpEvent)
    (keeps : ∀ event ∈ events, KeepsDescriptors event) (grown : next.log = server.log ++ events)
    (sameHeap : next.heap = server.heap) (sameOwner : next.owner = server.owner)
    (sameNext : next.nextConn = server.nextConn)
    (named_lt : ∀ {sClient conn}, next.socketInfoManager.lookup sClient = some conn →
      conn < server.nextConn) : next.Held := by
  have calls : descriptorCalls next.log = descriptorCalls server.log := by
    rw [grown, descriptorCalls_append, descriptorCalls_eq_nil keeps, List.append_nil]
  have old : ∀ {event}, event ∈ server.log → event ∈ next.log := fun member =>
    grown ▸ List.mem_append_left _ member
  have back : ∀ {event}, event ∈ next.log → ¬ KeepsDescriptors event → event ∈ server.log := by
    intro event member changes
    rcases List.mem_append.mp (grown ▸ member) with before | new
    · exact before
    · exact absurd (keeps event new) changes
  refine ⟨?_, ?_, ?_, ?_, ?_, ?_, calls ▸ held.law, ?_⟩
  · rw [sameHeap, sameOwner]
    exact held.held
  · rw [sameHeap]
    exact fun alive => old (held.accepted alive)
  · rw [sameHeap]
    exact fun member positive => (held.kept (back member id) positive).imp_right old
  · rw [sameHeap, sameNext]
    exact held.heap_lt
  · rw [sameNext]
    exact named_lt
  · rw [calls, sameOwner]
    exact held.ledger
  · intro conn fd socket member
    obtain ⟨same, sClient, accepted, number⟩ := held.own (back member id)
    exact ⟨same, sClient, old accepted, number⟩

/-- An object after one object was assigned: that one, or another as it was. -/
theorem heap_update_cases {heap : ℕ → Option TcpConnection} {changed found : TcpConnection}
    {other : ℕ} (alive : Function.update heap conn (some changed) other = some found) :
    other = conn ∧ found = changed ∨ other ≠ conn ∧ heap other = some found :=
  (update_eq_some_iff.mp alive).imp_left (And.imp_right fun same => (Option.some.inj same).symm)

/-- An object keeps its key and its descriptor. -/
theorem Held.setConn (held : server.Held) (alive : server.heap conn = some connection)
    {changed : TcpConnection} (sameClient : changed.socketClient = connection.socketClient)
    (sameSocket : changed.socket = connection.socket) : (server.setConn conn changed).Held := by
  -- every object is there with the same two fields
  have before : ∀ {other connection'}, (server.setConn conn changed).heap other = some connection' →
      ∃ old, server.heap other = some old ∧ connection'.socketClient = old.socketClient ∧
        connection'.socket = old.socket := by
    intro other connection' alive'
    rcases heap_update_cases alive' with ⟨rfl, rfl⟩ | ⟨-, alive'⟩
    · exact ⟨connection, alive, sameClient, sameSocket⟩
    · exact ⟨connection', alive', rfl, rfl⟩
  refine ⟨fun alive' positive => ?_, fun alive' => ?_, fun {other _} member positive => ?_,
    fun alive' => ?_, held.named_lt, held.ledger, held.law, held.own⟩
  · obtain ⟨old, alive'', client, socket⟩ := before alive'
    rw [socket, client]
    exact held.held alive'' (socket ▸ positive)
  · obtain ⟨old, alive'', client, -⟩ := before alive'
    rw [client]
    exact held.accepted alive''
  · refine (held.kept member positive).imp_left ?_
    rintro ⟨old, alive', socket⟩
    by_cases here : other = conn
    · subst here
      obtain rfl := Option.some.inj (alive.symm.trans alive')
      exact ⟨changed, Function.update_self .., sameSocket.trans socket⟩
    · exact ⟨old, (Function.update_of_ne here ..).trans alive', socket⟩
  · obtain ⟨old, alive'', -⟩ := before alive'
    exact held.heap_lt alive''

/-- **`Close`** gives back the object's own descriptor, if it has one. -/
theorem Held.close (held : server.Held) (alive : server.heap conn = some connection) :
    (server.close conn connection).Held ∧
      ∃ closed, (server.close conn connection).heap conn = some closed ∧ ¬ 0 < closed.socket := by
  unfold TcpServer.close
  split
  · next positive =>
      obtain ⟨number, owns⟩ := held.held alive positive
      have mine := held.accepted alive
      have zero : ¬ (0 : Int32) < 0 := by decide
      have table : (fun fd => (Function.update server.owner connection.socket none fd).map
          Descriptor.socket) = Function.update (fun fd => (server.owner fd).map Descriptor.socket)
            connection.socket none :=
        Function.comp_update (Option.map Descriptor.socket) server.owner connection.socket none
      have calls : descriptorCalls (server.log ++
          [.closed conn connection.socket (server.owner connection.socket)]) =
          descriptorCalls server.log ++ [.close connection.socket
            ((server.owner connection.socket).map Descriptor.socket)] :=
        descriptorCalls_append ..
      refine ⟨⟨fun {other connection'} alive' positive' => ?_, fun {other connection'} alive' => ?_,
        fun {other sClient} member positive' => ?_, fun {other connection'} alive' => ?_,
        held.named_lt, ?_, ?_, fun {closer fd socket} member => ?_⟩,
        { connection with socket := 0 }, Function.update_self .., zero⟩
      · rcases heap_update_cases alive' with ⟨-, rfl⟩ | ⟨apart, alive'⟩
        · exact absurd positive' zero
        · obtain ⟨number', owns'⟩ := held.held alive' positive'
          refine ⟨number', (Function.update_of_ne ?_ ..).trans owns'⟩
          -- two objects do not have one number
          intro same
          rw [same, owns] at owns'
          exact apart (Option.some.inj owns').symm
      · refine List.mem_append_left _ ?_
        rcases heap_update_cases alive' with ⟨rfl, rfl⟩ | ⟨-, alive'⟩
        · exact mine
        · exact held.accepted alive'
      · have member' : .accepted other sClient ∈ server.log :=
          (List.mem_append.mp member).resolve_right (by simp)
        rcases held.kept member' positive' with ⟨old, alive', socket⟩ | closed
        · by_cases here : other = conn
          · subst here
            obtain rfl := Option.some.inj (alive.symm.trans alive')
            refine Or.inr (List.mem_append_right _ (List.mem_singleton.mpr ?_))
            rw [socket] at owns ⊢
            rw [owns]
          · exact Or.inl ⟨old, (Function.update_of_ne here ..).trans alive', socket⟩
        · exact Or.inr (List.mem_append_left _ closed)
      · rcases heap_update_cases alive' with ⟨rfl, rfl⟩ | ⟨-, alive'⟩
        · exact held.heap_lt alive
        · exact held.heap_lt alive'
      · rw [emit, table]
        exact calls ▸ held.ledger.close
      · show NoDoubleClose (descriptorCalls (server.log ++ _))
        rw [calls, held.ledger.close_iff, owns]
        exact ⟨held.law, fun _ => ⟨conn, rfl⟩⟩
      · rcases List.mem_append.mp member with before' | new
        · obtain ⟨same, sClient, accepted, numbered⟩ := held.own before'
          exact ⟨same, sClient, List.mem_append_left _ accepted, numbered⟩
        · obtain ⟨rfl, rfl, rfl⟩ := TcpEvent.closed.inj (List.mem_singleton.mp new)
          exact ⟨owns, connection.socketClient, List.mem_append_left _ mine, number.symm⟩
  · next without => exact ⟨held, connection, alive, without⟩

/-- An object without a descriptor may go. -/
theorem Held.dropped (held : server.Held) (alive : server.heap conn = some connection)
    (without : ¬ 0 < connection.socket) :
    { server with heap := Function.update server.heap conn none }.Held := by
  have before : ∀ {other connection'}, Function.update server.heap conn none other =
      some connection' → server.heap other = some connection' := fun alive' =>
    ((update_eq_some_iff.mp alive').resolve_left fun gone => nomatch gone.2).2
  refine ⟨fun alive' => held.held (before alive'), fun alive' => held.accepted (before alive'),
    fun member positive => (held.kept member positive).imp_left ?_,
    fun alive' => held.heap_lt (before alive'), held.named_lt, held.ledger, held.law, held.own⟩
  rintro ⟨old, alive', socket⟩
  refine ⟨old, (Function.update_of_ne ?_ ..).trans alive', socket⟩
  rintro rfl
  obtain rfl := Option.some.inj (alive.symm.trans alive')
  exact without (socket ▸ positive)

theorem Held.destroy (held : server.Held) (conn : ℕ) : (server.destroy conn).Held := by
  unfold TcpServer.destroy
  split
  · exact held
  · next connection alive =>
      obtain ⟨held', closed, alive', without⟩ := held.close alive
      exact held'.dropped alive' without

theorem Held.emit (held : server.Held) {event : TcpEvent} (keeps : KeepsDescriptors event) :
    (server.emit event).Held :=
  held.of_grown [event] (by simpa using keeps) rfl rfl rfl rfl held.named_lt

theorem Held.renamed (held : server.Held) (manager : SocketInfoManager ℕ)
    (named_lt : ∀ {sClient conn}, manager.lookup sClient = some conn → conn < server.nextConn) :
    { server with socketInfoManager := manager }.Held :=
  held.of_grown [] nofun (List.append_nil _).symm rfl rfl rfl named_lt

/-- **`accept`** returns a number that is not open, for a new object. -/
theorem Held.created (held : server.Held) (sClient : SocketClientData) (now : Int32)
    (free : server.owner sClient.Socket = none) :
    { (server.setConn server.nextConn (TcpConnection.new sClient server.nTimeout now)).emit
        (.accepted server.nextConn sClient) with
      nextConn := server.nextConn + 1
      owner := Function.update server.owner sClient.Socket (some server.nextConn) }.Held := by
  have table : (fun fd =>
      (Function.update server.owner sClient.Socket (some server.nextConn) fd).map
        Descriptor.socket) = Function.update (fun fd => (server.owner fd).map Descriptor.socket)
        sClient.Socket (some (.socket server.nextConn)) :=
    Function.comp_update (Option.map Descriptor.socket) server.owner sClient.Socket
      (some server.nextConn)
  have calls : descriptorCalls (server.log ++ [.accepted server.nextConn sClient]) =
      descriptorCalls server.log ++ [.socket sClient.Socket] := descriptorCalls_append ..
  refine ⟨fun {other connection'} alive' positive => ?_, fun {other connection'} alive' => ?_,
    fun {other key} member positive => ?_, fun {other connection'} alive' => ?_,
    fun named => Nat.lt_succ_of_lt (held.named_lt named), ?_, ?_,
    fun {closer fd socket} member => ?_⟩
  · rcases heap_update_cases alive' with ⟨rfl, rfl⟩ | ⟨-, alive'⟩
    · exact ⟨rfl, Function.update_self ..⟩
    · obtain ⟨number, owns⟩ := held.held alive' positive
      refine ⟨number, (Function.update_of_ne ?_ ..).trans owns⟩
      intro same
      rw [same, free] at owns
      cases owns
  · rcases heap_update_cases alive' with ⟨rfl, rfl⟩ | ⟨-, alive'⟩
    · exact List.mem_append_right _ (List.mem_singleton_self _)
    · exact List.mem_append_left _ (held.accepted alive')
  · rcases List.mem_append.mp member with before' | new
    · refine (held.kept before' positive).imp ?_ (List.mem_append_left _)
      rintro ⟨old, alive', socket⟩
      exact ⟨old, (Function.update_of_ne (Nat.ne_of_lt (held.heap_lt alive')) ..).trans alive',
        socket⟩
    · obtain ⟨rfl, rfl⟩ := TcpEvent.accepted.inj (List.mem_singleton.mp new)
      exact Or.inl ⟨_, Function.update_self .., rfl⟩
  · rcases heap_update_cases alive' with ⟨rfl, -⟩ | ⟨-, alive'⟩
    · exact Nat.lt_succ_self _
    · exact Nat.lt_succ_of_lt (held.heap_lt alive')
  · rw [TcpServer.emit, table]
    exact calls ▸ held.ledger.socket server.nextConn
  · exact calls ▸ noDoubleClose_socket.mpr held.law
  · have before' : .closed closer fd socket ∈ server.log :=
      (List.mem_append.mp member).resolve_right (by simp)
    obtain ⟨same, key, accepted, numbered⟩ := held.own before'
    exact ⟨same, key, List.mem_append_left _ accepted, numbered⟩

/-! ### The functions of the server -/

theorem Held.removeConn (held : server.Held) {sClient : SocketClientData}
    (called : server.removeConn sClient = some next) : next.Held := by
  obtain ⟨manager, removed, rfl⟩ := Option.map_eq_some_iff.mp called
  have without : { server with socketInfoManager := manager }.Held := by
    refine held.renamed manager fun {key conn} named => ?_
    rw [SocketInfoManager.lookup_remove removed] at named
    split at named
    · cases named
    · exact held.named_lt named
  split
  · exact without
  · exact without.destroy _

theorem Held.terminate (held : server.Held) {sClient : SocketClientData} {nErrorCode : Int32}
    (called : server.terminate sClient nErrorCode = some next) : next.Held := by
  have told : (server.emit (.onClientDisconnected sClient nErrorCode)).Held := held.emit trivial
  exact told.removeConn called

theorem Held.accept (held : server.Held) {now : Int32} {result : AcceptResult}
    (called : server.accept now result = some next) : next.Held := by
  cases result with
  | watcherError => exact Option.some.inj called ▸ held
  | failed => exact Option.some.inj called ▸ held
  | client IP Port client_fd =>
      obtain ⟨⟨-, free⟩, called⟩ := Option.ite_none_right_eq_some.mp called
      obtain ⟨manager, added, rfl⟩ := Option.map_eq_some_iff.mp called
      have created := held.created ⟨IP, Port, client_fd⟩ now free
      have named := created.renamed manager fun {key conn} named => by
        rw [SocketInfoManager.lookup_add added] at named
        split at named
        · exact Option.some.inj named ▸ Nat.lt_succ_self _
        · exact Nat.lt_succ_of_lt (held.named_lt named)
      refine Held.emit ?_ trivial
      split
      · exact named
      · exact named.destroy _

theorem Held.ioRead (held : server.Held) (alive : server.heap conn = some connection)
    {nRead : RecvResult} {now : Int32} {goesOn : Bool}
    (called : server.ioRead conn connection nRead now = some (next, goesOn)) : next.Held := by
  obtain ⟨-, called⟩ := Option.ite_none_right_eq_some.mp called
  cases nRead with
  | eof =>
      obtain ⟨after, ended, same⟩ := Option.map_eq_some_iff.mp called
      exact (Prod.mk.inj same).1 ▸ held.terminate ended
  | again => exact (Prod.mk.inj (Option.some.inj called)).1 ▸ held
  | error errno =>
      obtain ⟨after, ended, same⟩ := Option.map_eq_some_iff.mp called
      exact (Prod.mk.inj same).1 ▸ held.terminate ended
  | data pData =>
      obtain rfl := (Prod.mk.inj (Option.some.inj called)).1
      refine Held.emit ?_ trivial
      exact held.setConn alive rfl rfl

theorem Held.ioWrite (held : server.Held) (alive : server.heap conn = some connection)
    {nWritten : WriteResult} {now : Int32}
    (called : server.ioWrite conn connection nWritten now = some next) : next.Held := by
  unfold TcpServer.ioWrite at called
  split at called
  · obtain rfl := Option.some.inj called
    exact held.setConn alive rfl rfl
  · obtain ⟨-, called⟩ := Option.ite_none_right_eq_some.mp called
    cases nWritten with
    | again => exact Option.some.inj called ▸ held
    | error errno => exact held.terminate called
    | wrote count =>
        obtain ⟨fits, same⟩ := Option.dite_none_right_eq_some.mp called
        obtain rfl := Option.some.inj same
        refine Held.emit ?_ trivial
        exact held.setConn alive rfl rfl

theorem Held.ioCallback (held : server.Held) {revents : Revents} {nRead : RecvResult}
    {nWritten : WriteResult} {errno now : Int32}
    (called : server.ioCallback conn revents nRead nWritten errno now = some next) :
    next.Held := by
  unfold TcpServer.ioCallback at called
  split at called
  · cases called
  · next connection alive =>
      obtain ⟨-, called⟩ := Option.ite_none_right_eq_some.mp called
      split at called
      · exact held.terminate called
      · obtain ⟨⟨after, goesOn⟩, read, behind⟩ := Option.bind_eq_some_iff.mp called
        have held' : after.Held := by
          split at read
          · exact held.ioRead alive read
          · exact (Prod.mk.inj (Option.some.inj read)).1 ▸ held
        cases goesOn with
        | false => exact Option.some.inj behind ▸ held'
        | true =>
            dsimp only at behind
            split at behind
            · obtain ⟨connection', alive', write⟩ := Option.bind_eq_some_iff.mp behind
              exact held'.ioWrite alive' write
            · exact Option.some.inj behind ▸ held'

theorem Held.asyncExec (held : server.Held) (called : server.asyncExec = some next) :
    next.Held := by
  unfold TcpServer.asyncExec at called
  split at called
  · cases called
  · next sClient pOutputBuffer rest batch =>
      have held' : { server.emit (.executed sClient pOutputBuffer.getDataPos) with
          batch := rest }.Held :=
        held.of_grown [_] (by simp [KeepsDescriptors]) rfl rfl rfl rfl held.named_lt
      obtain ⟨pTcpConnection, -, called⟩ := Option.bind_eq_some_iff.mp called
      cases pTcpConnection with
      | none => exact Option.some.inj called ▸ held'
      | some conn =>
          obtain ⟨connection, alive, called⟩ := Option.bind_eq_some_iff.mp called
          unfold TcpServer.connSend at called
          split at called
          · exact held'.terminate called
          · exact Option.some.inj called ▸ held'.setConn alive rfl rfl

/-- **Every step keeps it**, `CloseClient` like the others. -/
theorem Held.step (held : server.Held) {label : Label} (taken : server.step label = some next) :
    next.Held := by
  -- outside the batch, where the loop thread is in no callback
  have idle : ∀ {result : Option TcpServer}, (if server.batch = [] then result else none) =
      some next → result = some next :=
    fun called => (Option.ite_none_right_eq_some.mp called).2
  cases label with
  | accept result now => exact held.accept (idle taken)
  | io conn revents nRead nWritten errno now => exact held.ioCallback (idle taken)
  | timer conn error errno now =>
      have called := idle taken
      unfold timerCallback at called
      split at called
      · cases called
      · split at called
        · exact held.terminate called
        · split at called
          · exact held.terminate called
          · exact Option.some.inj called ▸ held
  | asyncSwap =>
      obtain rfl := Option.some.inj (idle taken)
      exact held.of_grown [] nofun (List.append_nil _).symm rfl rfl rfl held.named_lt
  | asyncExec => exact held.asyncExec taken
  | send sClient pData =>
      obtain rfl := Option.some.inj taken
      exact held.of_grown [.sent sClient pData] (by simp [KeepsDescriptors]) rfl rfl rfl rfl
        held.named_lt
  | closeClient sClient =>
      obtain ⟨pTcpConnection, -, called⟩ := Option.bind_eq_some_iff.mp taken
      cases pTcpConnection with
      | none => exact Option.some.inj called ▸ held
      | some conn =>
          obtain ⟨connection, alive, rfl⟩ := Option.map_eq_some_iff.mp called
          exact (held.close alive).1

end Step

end TcpServer

end ServerLib
