import ServerLib.TcpServerOutput
import ServerLib.WholeServerLayers

/-!
# The echo server

The data handle of the echo server (test/tcpechoserver.cpp) gives every piece of data it is
called with back to `Send`, under the key it came from, and nothing else calls `Send`.  So
a client should get back what it sent.  On its way a byte is read by `__IoCallback`, waits
in `m_Functions` and in the batch of `__AsyncCallback`, waits in the write queue, and is
written; any of these can be anywhere at any moment, and clients come and go.

`Echoing` is what holds of a key at every moment (`echo_of_run`): written on its connection,
then unsent, then waiting for the key is exactly what was read on the connection's socket.
`Mirrors` keeps of that what stays true of a connection that has ended: it was written on only
what was read there, in order.

The key is what is load-bearing.  What waits for a key is carried out for whoever has the
key then, so a key that is accepted again while something waits for it gets the output of
the connection before.  `FreshKey` is the proviso that this does not happen to the key; no
other proviso is needed, about no other client.
-/

namespace ServerLib

open Transition Sessions

namespace TcpServer

variable {Allowed : Int32 → Prop} {server next : TcpServer} {sClient : SocketClientData}

theorem history_ended (server : TcpServer) (conn : ℕ) (connection : TcpConnection)
    (nErrorCode : Int32) (manager : SocketInfoManager ℕ) :
    (server.ended conn connection nErrorCode manager).history =
      server.history ++ [.ended connection.socketClient] := by
  by_cases isOpen : 0 < connection.socket
  · simp [history, ended, keyEvent, isOpen, List.filterMap_cons]
  · simp [history, ended, keyEvent, isOpen]

/-- What is carried out for a key was submitted since it was opened, as long as the key is
opened only where nothing waits for it. -/
theorem clean_effect (clean : Clean sClient server.history server.pending)
    (effect : Effect Allowed server next)
    (fresh : server.socketInfoManager.lookup sClient = none →
      next.socketInfoManager.lookup sClient ≠ none → outputFor sClient server.pending = []) :
    Clean sClient next.history next.pending := by
  have one : ∀ {after : TcpServer} {event : TcpEvent} {seen : Sessions.Event SocketClientData Byte},
      keyEvent event = some seen → after.log = server.log ++ [event] →
      after.history = server.history ++ [seen] := by
    intro after event seen shown grown
    rw [history_of_grown grown, List.filterMap_cons, shown, List.filterMap_nil]
  -- a function of the batch is called: its output moves to the account of the key
  have executed : ∀ {other : SocketClientData} {pOutputBuffer : OutputBuffer}
      {rest : List (SocketClientData × OutputBuffer)},
      server.batch = (other, pOutputBuffer) :: rest →
      Clean sClient (server.popped other pOutputBuffer rest).history
        (server.popped other pOutputBuffer rest).pending := by
    intro other pOutputBuffer rest batch
    have front : server.pending = _ := pending_eq batch
    rw [front] at clean
    have grown : (server.popped other pOutputBuffer rest).history =
        server.history ++ [.executed other pOutputBuffer.getDataPos] := one rfl rfl
    rw [grown]
    exact clean.executed
  cases effect with
  | @opened other manager now _ _ free unknown added =>
      have grown : (server.opened other now manager).history =
          server.history ++ [.opened other] := by
        simp [history, opened, keyEvent, List.filterMap_cons]
      rw [grown]
      refine clean.opened fun own => ?_
      subst own
      refine fresh unknown ?_
      show manager.lookup other ≠ none
      rw [SocketInfoManager.lookup_add added, if_pos rfl]
      exact Option.some_ne_none _
  | @ended conn connection manager nErrorCode alive removed =>
      have grown : (server.ended conn connection nErrorCode manager).history =
          server.history ++ [.ended connection.socketClient] :=
        history_ended server conn connection nErrorCode manager
      rw [grown]
      exact clean.ended
  | received pData now alive =>
      rw [one rfl rfl]
      exact clean.received
  | idle alive empty => exact clean
  | @wrote conn connection pBuffer rest count fits now alive queue =>
      -- bytes a closed descriptor would take count for no socket
      cases socket : server.owner connection.io.fd with
      | none =>
          have same : ∀ changed : TcpConnection, ((server.setConn conn changed).emit
              (.written conn (pBuffer.getDataPos.take count) none)).history = server.history := by
            intro changed
            simp [history, emit, setConn, keyEvent]
          rw [same]
          exact clean
      | some socket =>
          rw [one rfl rfl]
          exact clean.written
  | submitted other pData =>
      have waits : (server.send other pData).pending = server.pending ++ [(other, pData)] := by
        simp [pending, send, emit]
      rw [one rfl rfl, waits]
      exact clean.submitted
  | swapped empty =>
      have same : server.asyncSwap.pending = server.pending := by
        simp [pending, asyncSwap, empty]
      rw [same]
      exact clean
  | missed batch unknown => exact executed batch
  | queued batch alive => exact executed batch
  | @refused pOutputBuffer rest conn connection manager batch alive removed =>
      rw [history_ended]
      exact (executed batch).ended

theorem accounted_effect (owned : server.Owned) (accounted : server.abs.Accounted)
    (effect : Effect Allowed server next) : next.abs.Accounted := by
  obtain ⟨actions, reached⟩ := effect_refines owned effect
  exact run_invariant (fun _ _ _ accounted taken => accounted.step taken) actions accounted reached

/-- The account of a key that is opened clean: all that was submitted for it since is
written, unsent or waiting. -/
structure Kept (sClient : SocketClientData) (server : TcpServer) : Prop where
  owned : server.Owned
  accounted : server.abs.Accounted
  clean : Clean sClient server.history server.pending

theorem kept_new (sClient : SocketClientData) (nTimeout : Int32) : (new nTimeout).Kept sClient where
  owned := owned_new nTimeout
  accounted := by
    rw [abs_new]
    exact Table.accounted_empty
  clean := Clean.nil

theorem Kept.effect (kept : server.Kept sClient) (effect : Effect Allowed server next)
    (fresh : server.socketInfoManager.lookup sClient = none →
      next.socketInfoManager.lookup sClient ≠ none → outputFor sClient server.pending = []) :
    next.Kept sClient where
  owned := kept.owned.effect effect
  accounted := accounted_effect kept.owned kept.accounted effect
  clean := clean_effect kept.clean effect fresh

theorem Kept.send (kept : server.Kept sClient) (other : SocketClientData) (pData : Bytes) :
    (server.send other pData).Kept sClient := by
  have submitted : Effect (fun _ => True) server (server.send other pData) :=
    .submitted other pData
  exact kept.effect submitted fun unknown known => absurd unknown known

/-- Written, then unsent, then waiting: together what was submitted for the key since it
was opened. -/
theorem Kept.account (kept : server.Kept sClient) {conn : ℕ}
    (registered : server.socketInfoManager.lookup sClient = some conn) :
    ∃ connection, server.heap conn = some connection ∧ connection.socketClient = sClient ∧
      writtenOn conn server.history ++ unsent connection.writeQueue ++
        outputFor sClient server.pending = submittedSince sClient server.history := by
  obtain ⟨connection, alive, rfl⟩ := kept.owned.alive registered
  have live : server.abs.session connection.socketClient =
      some (conn, unsent connection.writeQueue) := session_eq kept.owned alive
  refine ⟨connection, alive, rfl, ?_⟩
  rw [← kept.clean]
  exact congrArg (· ++ _) (kept.accounted.balanced live)

end TcpServer

/-! ## The program -/

namespace EchoServer

/-- What the data handle does where it is called: `OnClientDataReceived(sClient, pData, nLen)`
is `g_pTcpServer->Send(sClient, pData, nLen)`, the other two callbacks are empty. -/
def handle (server : TcpServer) : ServerLib.Label → TcpServer
  | .dataReceived sClient pData => server.send sClient pData
  | _ => server

/-- The server after the data handle was called, where a callback called it. -/
def handled (before after : TcpServer) : TcpServer := (calls before after).foldl handle after

/-- One step of the program.  The data handle is called within the callbacks of the server,
in `__IoCallback` in front of its `EV_WRITE` branch; `Send` and `CloseClient` are called by
nobody else. -/
def step (server : TcpServer) : TcpServer.Label → Option TcpServer
  | .io conn revents nRead nWritten errno now =>
      if server.batch = [] then
        (server.ioFront conn revents nRead errno now).bind fun front =>
          match front.2 with
          | none => some (handled server front.1)
          | some conn =>
              ((handled server front.1).ioBack conn nWritten now).map
                (handled (handled server front.1))
      else
        none
  | .send _ _ => none
  | .closeClient _ => none
  | .accept result now => (server.step (.accept result now)).map (handled server)
  | .timer conn error errno now => (server.step (.timer conn error errno now)).map (handled server)
  | .asyncSwap => (server.step .asyncSwap).map (handled server)
  | .asyncExec => (server.step .asyncExec).map (handled server)

/-- Where the key is accepted, nothing waits for it. -/
def FreshKey (sClient : SocketClientData) (server : TcpServer) : TcpServer.Label → Prop
  | .accept (.client IP Port client_fd) _ =>
      (⟨IP, Port, client_fd⟩ : SocketClientData) = sClient →
        ∀ entry ∈ server.batch ++ server.functions, entry.1 ≠ sClient
  | _ => True

instance (sClient : SocketClientData) (server : TcpServer) :
    (label : TcpServer.Label) → Decidable (FreshKey sClient server label)
  | .accept (.client _ _ _) _ => inferInstanceAs (Decidable (_ → ∀ entry ∈ _, _ ≠ _))
  | .accept .watcherError _ | .accept .failed _ | .io .. | .timer .. | .asyncSwap | .asyncExec
  | .send .. | .closeClient _ => inferInstanceAs (Decidable True)

/-! ## What comes back -/

/-- What the key's connection sent was submitted for the key. -/
structure Echoing (sClient : SocketClientData) (server : TcpServer) : Prop
    extends server.Kept sClient where
  unread : ∀ {conn}, server.nextConn ≤ conn → TcpServer.readOn conn server.log = []
  echoed : ∀ {conn}, server.socketInfoManager.lookup sClient = some conn →
    submittedSince sClient server.history = (TcpServer.readOn conn server.log).flatten

variable {sClient : SocketClientData} {server next : TcpServer}

theorem echoing_new (sClient : SocketClientData) (nTimeout : Int32) :
    Echoing sClient (TcpServer.new nTimeout) where
  toKept := TcpServer.kept_new sClient nTimeout
  unread _ := rfl
  echoed registered := by simp [TcpServer.new] at registered

/-- An effect that is no call of `Send`, with what the data handle does at it. -/
theorem Echoing.handled (echoing : Echoing sClient server)
    (effect : Relation.ReflGen (TcpServer.Effect fun _ => True) server next)
    (notSend : ∀ other pData, next ≠ server.send other pData)
    (fresh : server.socketInfoManager.lookup sClient = none →
      next.socketInfoManager.lookup sClient ≠ none → outputFor sClient server.pending = []) :
    Echoing sClient (handled server next) := by
  obtain ⟨kept, upward⟩ : next.Kept sClient ∧ TcpServer.Upward server next := by
    cases effect with
    | refl => exact ⟨echoing.toKept, .quiet (TcpServer.calls_self _) rfl rfl (fun _ => rfl)
        fun _ => rfl⟩
    | single effect => exact ⟨echoing.toKept.effect effect fresh, effect.upward echoing.owned⟩
  cases upward with
  | submitted other pData same => exact absurd same (notSend other pData)
  | quiet none sameLookup sameNext sameRead sameSubmitted =>
      rw [EchoServer.handled, none, List.foldl_nil]
      refine ⟨kept, fun large => ?_, fun registered => ?_⟩
      · rw [sameRead, echoing.unread (sameNext ▸ large)]
      · rw [sameSubmitted, sameRead]
        exact echoing.echoed (sameLookup ▸ registered)
  | connected key one unknown grown nextConn sameRead submitted =>
      have unanswered : EchoServer.handled server next = next := by
        rw [EchoServer.handled, one]
        rfl
      rw [unanswered]
      refine ⟨kept, fun large => ?_, fun registered => ?_⟩
      · rw [nextConn] at large
        rw [sameRead, echoing.unread (Nat.le_of_succ_le large)]
      · rw [grown] at registered
        rw [submitted, sameRead]
        rcases update_eq_some_iff.mp registered with ⟨own, same⟩ | ⟨apart, old⟩
        · -- a new connection, which has sent nothing yet
          obtain rfl := Option.some.inj same
          rw [if_pos own.symm, echoing.unread (Nat.le_refl _), List.flatten_nil]
        · rw [if_neg (Ne.symm apart)]
          exact echoing.echoed old
  | terminated key conn nErrorCode one registered shrunk sameNext sameRead sameSubmitted =>
      have unanswered : EchoServer.handled server next = next := by
        rw [EchoServer.handled, one]
        rfl
      rw [unanswered]
      refine ⟨kept, fun large => ?_, fun known => ?_⟩
      · rw [sameRead, echoing.unread (sameNext ▸ large)]
      · rw [shrunk] at known
        rw [sameSubmitted, sameRead]
        exact echoing.echoed
          ((update_eq_some_iff.mp known).resolve_left fun gone => nomatch gone.2).2
  | dataReceived key conn pData one registered sameLookup sameNext read sameSubmitted =>
      have answered : EchoServer.handled server next = next.send key pData := by
        rw [EchoServer.handled, one]
        rfl
      rw [answered]
      have log : (next.send key pData).log = next.log ++ [.sent key pData] := rfl
      have history : (next.send key pData).history = next.history ++ [.submitted key pData] := by
        rw [TcpServer.history_of_grown log]
        rfl
      have reads : ∀ other, TcpServer.readOn other (next.send key pData).log =
          TcpServer.readOn other server.log ++ if conn = other then [pData] else [] := by
        intro other
        rw [log, TcpServer.readOn_append, read]
        simp
      refine ⟨kept.send key pData, fun {other} large => ?_, fun {other} registered' => ?_⟩
      · have old : server.nextConn ≤ other := sameNext ▸ large
        obtain ⟨connection, alive, -⟩ := echoing.owned.alive registered
        have apart : conn ≠ other :=
          Nat.ne_of_lt (Nat.lt_of_lt_of_le (echoing.owned.conn_lt alive) old)
        rw [reads, echoing.unread old, if_neg apart, List.append_nil]
      · have known : server.socketInfoManager.lookup sClient = some other :=
          sameLookup ▸ registered'
        rw [history, submittedSince_append, sameSubmitted, reads, List.flatten_append,
          ← echoing.echoed known]
        by_cases own : key = sClient
        · -- the connection that was read from is the one registered under the key
          subst own
          rw [registered, Option.some_inj] at known
          simp [submittedStep, known]
        · have apart : conn ≠ other := by
            rintro rfl
            obtain ⟨connection, alive, sameKey⟩ := echoing.owned.alive known
            exact own ((echoing.owned.key_eq alive registered).trans sameKey)
          simp [submittedStep, own, apart]

/-- A callback that takes in nothing new. -/
theorem Echoing.quiet (echoing : Echoing sClient server)
    (effect : Relation.ReflGen (TcpServer.Effect fun _ => True) server next)
    (noIntake : server.NoIntake next) : Echoing sClient (EchoServer.handled server next) := by
  refine echoing.handled effect (TcpServer.ne_send (Or.inl noIntake.functions_eq))
    fun unknown known => ?_
  obtain ⟨conn, registered⟩ := Option.ne_none_iff_exists'.mp known
  rw [noIntake.registered registered] at unknown
  cases unknown

theorem Echoing.step (echoing : Echoing sClient server) {label : TcpServer.Label}
    (freshKey : FreshKey sClient server label) (taken : EchoServer.step server label = some next) :
    Echoing sClient next := by
  have idle : ∀ {result : Option TcpServer} {after : TcpServer},
      (if server.batch = [] then result else none) = some after → result = some after :=
    fun called => (Option.ite_none_right_eq_some.mp called).2
  have effect : ∀ {label : TcpServer.Label} {after : TcpServer}, server.step label = some after →
      (∀ conn revents nRead nWritten errno now,
        label ≠ .io conn revents nRead nWritten errno now) →
      server.Undisturbed (fun _ => True) label →
      Relation.ReflGen (TcpServer.Effect fun _ => True) server after :=
    fun called notIo undisturbed => TcpServer.step_effect echoing.owned notIo undisturbed called
  cases label with
  | io conn revents nRead nWritten errno now =>
      obtain ⟨⟨middle, writing⟩, read, behind⟩ := Option.bind_eq_some_iff.mp (idle taken)
      have front := echoing.quiet (TcpServer.ioFront_effect echoing.owned read).1
        (TcpServer.noIntake_ioFront read)
      cases writing with
      | none =>
          obtain rfl := Option.some.inj behind
          exact front
      | some conn =>
          obtain ⟨after, wrote, rfl⟩ := Option.map_eq_some_iff.mp behind
          exact front.quiet (TcpServer.ioBack_effect front.owned wrote)
            (TcpServer.noIntake_ioBack wrote)
  | send other pData => cases taken
  | closeClient other => cases taken
  | accept result now =>
      obtain ⟨after, called, rfl⟩ := Option.map_eq_some_iff.mp taken
      obtain ⟨functions_eq, registered⟩ := TcpServer.accept_intake (idle called)
      refine echoing.handled (effect called (by simp) ?_) (TcpServer.ne_send (Or.inl functions_eq))
        fun unknown known => ?_
      · cases result <;> trivial
      · -- the key that is registered is the one that was accepted
        obtain ⟨conn, known⟩ := Option.ne_none_iff_exists'.mp known
        rcases registered known with old | rfl
        · rw [old] at unknown
          cases unknown
        · refine outputFor_eq_nil fun entry member => ?_
          obtain ⟨waiting, waits, rfl⟩ := List.mem_map.mp member
          exact freshKey rfl waiting waits
  | timer conn error errno now =>
      obtain ⟨after, called, rfl⟩ := Option.map_eq_some_iff.mp taken
      exact echoing.quiet (effect called (by simp) trivial)
        (TcpServer.noIntake_timerCallback (idle called))
  | asyncSwap =>
      obtain ⟨after, called, rfl⟩ := Option.map_eq_some_iff.mp taken
      have same := Option.some.inj (idle called)
      refine echoing.handled (effect called (by simp) trivial)
        (TcpServer.ne_send (Or.inr (same ▸ rfl))) fun unknown known => ?_
      rw [← same] at known
      exact absurd unknown known
  | asyncExec =>
      obtain ⟨after, called, rfl⟩ := Option.map_eq_some_iff.mp taken
      exact echoing.quiet (effect called (by simp) trivial) (TcpServer.noIntake_asyncExec called)

/-- **The echo server gives every client its own bytes back.**  In every state of every run
in which the key is accepted only where nothing waits for it, whatever the clients, the
kernel and the timers do: what was written on the connection registered under the key,
what its queue holds and what still waits for the key are, in this order, exactly the bytes
that were read on its socket. -/
theorem echo_of_run {nTimeout : Int32} {labels : List TcpServer.Label} {last : TcpServer}
    (sClient : SocketClientData)
    (fresh : Along step (FreshKey sClient) (TcpServer.new nTimeout) labels)
    (runs : run step (TcpServer.new nTimeout) labels = some last) {conn : ℕ}
    (registered : last.socketInfoManager.lookup sClient = some conn) :
    ∃ connection, last.heap conn = some connection ∧ connection.socketClient = sClient ∧
      writtenOn conn last.history ++ unsent connection.writeQueue ++
        outputFor sClient last.pending = (TcpServer.readOn conn last.log).flatten := by
  have echoing : Echoing sClient last :=
    run_invariant_along (fun _ _ _ echoing fresh taken => echoing.step fresh taken) labels
      (echoing_new sClient nTimeout) fresh runs
  obtain ⟨connection, alive, sameKey, account⟩ := echoing.account registered
  exact ⟨connection, alive, sameKey, account.trans (echoing.echoed registered)⟩

/-- Two clients; the first sends five bytes in two reads, of which two are back, two are in
its queue and one waits. -/
theorem echo_of_run_two_clients :
    ∃ last connection, run step (TcpServer.new 600) [.accept (.client 1 2 5) 0,
        .accept (.client 3 4 6) 0, .io 0 ⟨false, true, false⟩ (.data [1, 2, 3, 4]) .again 0 0,
        .io 1 ⟨false, true, false⟩ (.data [9]) .again 0 0, .asyncSwap, .asyncExec, .asyncExec,
        .io 0 ⟨false, true, true⟩ (.data [5]) (.wrote 2) 0 0] = some last ∧
      last.heap 0 = some connection ∧ connection.socketClient = ⟨1, 2, 5⟩ ∧
      writtenOn 0 last.history ++ unsent connection.writeQueue ++
        outputFor ⟨1, 2, 5⟩ last.pending = (TcpServer.readOn 0 last.log).flatten := by
  obtain ⟨last, runs, registered⟩ : ∃ last, run step (TcpServer.new 600)
      [.accept (.client 1 2 5) 0, .accept (.client 3 4 6) 0,
        .io 0 ⟨false, true, false⟩ (.data [1, 2, 3, 4]) .again 0 0,
        .io 1 ⟨false, true, false⟩ (.data [9]) .again 0 0, .asyncSwap, .asyncExec, .asyncExec,
        .io 0 ⟨false, true, true⟩ (.data [5]) (.wrote 2) 0 0] = some last ∧
      last.socketInfoManager.lookup ⟨1, 2, 5⟩ = some 0 := ⟨_, rfl, by decide +kernel⟩
  obtain ⟨connection, alive, sameKey, echoed⟩ :=
    echo_of_run ⟨1, 2, 5⟩ (by decide +kernel) runs registered
  exact ⟨last, connection, runs, alive, sameKey, echoed⟩

/-! ## Nothing else is ever written -/

/-- No entry of the two lists is for the key that is accepted. -/
def Fresh (server : TcpServer) : TcpServer.Label → Prop
  | .accept (.client IP Port client_fd) _ =>
      ∀ entry ∈ server.batch ++ server.functions, entry.1 ≠ ⟨IP, Port, client_fd⟩
  | _ => True

instance (server : TcpServer) : (label : TcpServer.Label) → Decidable (Fresh server label)
  | .accept (.client _ _ _) _ => inferInstanceAs (Decidable (∀ entry ∈ _, _ ≠ _))
  | .accept .watcherError _ | .accept .failed _ | .io .. | .timer .. | .asyncSwap | .asyncExec
  | .send .. | .closeClient _ => inferInstanceAs (Decidable True)

theorem Fresh.freshKey {label : TcpServer.Label} (fresh : Fresh server label)
    (sClient : SocketClientData) : FreshKey sClient server label := by
  cases label with
  | accept result now =>
      cases result with
      | client IP Port client_fd => exact fun own => own ▸ fresh
      | watcherError => trivial
      | failed => trivial
  | _ => trivial

theorem owned_handled (before : TcpServer) {after : TcpServer} (owned : after.Owned) :
    (handled before after).Owned := by
  unfold handled
  generalize calls before after = called
  induction called generalizing after with
  | nil => exact owned
  | cons call rest ih =>
      refine ih ?_
      cases call with
      | dataReceived sClient pData =>
          have submitted : TcpServer.Effect (fun _ => True) after (after.send sClient pData) :=
            .submitted sClient pData
          exact owned.effect submitted
      | connected | pass | terminated | handlePkt | stop => exact owned

/-- The data handle neither writes nor reads, and ends no connection. -/
theorem handled_same (before after : TcpServer) (conn : ℕ) :
    (handled before after).heap = after.heap ∧
      writtenOn conn (handled before after).history = writtenOn conn after.history ∧
      TcpServer.readOn conn (handled before after).log = TcpServer.readOn conn after.log := by
  unfold handled
  generalize calls before after = called
  induction called generalizing after with
  | nil => exact ⟨rfl, rfl, rfl⟩
  | cons call rest ih =>
      have here : (handle after call).heap = after.heap ∧
          writtenOn conn (handle after call).history = writtenOn conn after.history ∧
          TcpServer.readOn conn (handle after call).log = TcpServer.readOn conn after.log := by
        cases call with
        | dataReceived sClient pData =>
            refine ⟨rfl, TcpServer.writtenOn_of_grown rfl (by simp [TcpServer.keyEvent, writtenOn]),
              ?_⟩
            show TcpServer.readOn conn (after.log ++ [_]) = _
            rw [TcpServer.readOn_append, TcpServer.readOn_singleton, List.append_nil]
        | connected | pass | terminated | handlePkt | stop => exact ⟨rfl, rfl, rfl⟩
      obtain ⟨heap, written, read⟩ := ih (handle after call)
      exact ⟨heap.trans here.1, written.trans here.2.1, read.trans here.2.2⟩

end EchoServer

namespace TcpServer

variable {Allowed : Int32 → Prop} {server next : TcpServer}

theorem written_ended (server : TcpServer) (ends : ℕ) (connection : TcpConnection)
    (nErrorCode : Int32) (manager : SocketInfoManager ℕ) (conn : ℕ) :
    writtenOn conn (server.ended ends connection nErrorCode manager).history =
      writtenOn conn server.history := by
  rw [history_ended, writtenOn_append]
  exact List.append_nil _

/-- An effect writes on a connection only where it leaves it there. -/
theorem written_of_effect (owned : server.Owned) (conn : ℕ)
    (effect : Effect Allowed server next) :
    writtenOn conn next.history = writtenOn conn server.history ∨ next.heap conn ≠ none := by
  cases effect with
  | @wrote other connection pBuffer rest count fits now alive queue =>
      have mine := owned.conn_owned alive
      by_cases own : conn = other
      · exact Or.inr (by simp [emit, setConn, own])
      · refine Or.inl (writtenOn_of_grown rfl ?_)
        simp [keyEvent, mine.fd_eq, mine.owns, writtenOn, Ne.symm own]
  | ended => exact Or.inl (written_ended ..)
  | refused => exact Or.inl ((written_ended ..).trans (writtenOn_of_grown rfl rfl))
  | idle | swapped => exact Or.inl rfl
  | opened | received | submitted | missed | queued => exact Or.inl (writtenOn_of_grown rfl rfl)

theorem readOn_of_effect (owned : server.Owned) (conn : ℕ) (effect : Effect Allowed server next) :
    readOn conn server.log <+: readOn conn next.log := by
  cases effect.upward owned with
  | submitted sClient pData same =>
      rw [same]
      show _ <+: readOn conn (server.log ++ [_])
      exact readOn_append conn .. ▸ List.prefix_append _ _
  | quiet _ _ _ read => exact (read conn) ▸ List.prefix_rfl
  | connected _ _ _ _ _ read => exact (read conn) ▸ List.prefix_rfl
  | terminated _ _ _ _ _ _ _ read => exact (read conn) ▸ List.prefix_rfl
  | dataReceived _ _ _ _ _ _ _ read => exact (read conn) ▸ List.prefix_append _ _

/-- In front of its `EV_WRITE` branch the io callback writes nothing. -/
theorem written_ioFront (owned : server.Owned) {conn : ℕ} {revents : Revents} {nRead : RecvResult}
    {errno now : Int32} {writing : Option ℕ}
    (called : server.ioFront conn revents nRead errno now = some (next, writing)) (other : ℕ) :
    writtenOn other next.history = writtenOn other server.history := by
  unfold ioFront at called
  split at called
  · cases called
  · next connection alive =>
      have ended : ∀ {nErrorCode : Int32} {after : TcpServer},
          server.terminate connection.socketClient nErrorCode = some after →
          writtenOn other after.history = writtenOn other server.history := by
        intro nErrorCode after terminated
        obtain ⟨manager, -, rfl⟩ := terminate_eq owned alive terminated
        exact written_ended ..
      obtain ⟨-, called⟩ := Option.ite_none_right_eq_some.mp called
      split at called
      · obtain ⟨after, terminated, same⟩ := Option.map_eq_some_iff.mp called
        obtain ⟨rfl, -⟩ := Prod.mk.inj same
        exact ended terminated
      · obtain ⟨⟨after, goesOn⟩, read, same⟩ := Option.map_eq_some_iff.mp called
        obtain ⟨rfl, -⟩ := Prod.mk.inj same
        split at read
        · obtain ⟨-, read⟩ := Option.ite_none_right_eq_some.mp read
          cases nRead with
          | eof =>
              obtain ⟨_, terminated, same⟩ := Option.map_eq_some_iff.mp read
              exact (Prod.mk.inj same).1 ▸ ended terminated
          | again => exact (Prod.mk.inj (Option.some.inj read)).1 ▸ rfl
          | error =>
              obtain ⟨_, terminated, same⟩ := Option.map_eq_some_iff.mp read
              exact (Prod.mk.inj same).1 ▸ ended terminated
          | data =>
              exact (Prod.mk.inj (Option.some.inj read)).1 ▸ writtenOn_of_grown rfl rfl
        · exact (Prod.mk.inj (Option.some.inj read)).1 ▸ rfl

end TcpServer

namespace EchoServer

variable {server next : TcpServer}

/-- What the server has written on a connection, still open or not, is the front of what it
has read there. -/
structure Mirrors (server : TcpServer) : Prop where
  echoing : ∀ sClient, Echoing sClient server
  front : ∀ conn, writtenOn conn server.history <+: (TcpServer.readOn conn server.log).flatten

theorem mirrors_new (nTimeout : Int32) : Mirrors (TcpServer.new nTimeout) where
  echoing sClient := echoing_new sClient nTimeout
  front _ := List.prefix_rfl

/-- A step of the program writes on a connection only where it leaves it there, and reads
are never taken back. -/
theorem written_step (owned : server.Owned) (conn : ℕ) {label : TcpServer.Label}
    (taken : EchoServer.step server label = some next) :
    (writtenOn conn next.history = writtenOn conn server.history ∨ next.heap conn ≠ none) ∧
      TcpServer.readOn conn server.log <+: TcpServer.readOn conn next.log := by
  -- one effect, with what the data handle does at it
  have single : ∀ {before after : TcpServer}, before.Owned →
      Relation.ReflGen (TcpServer.Effect fun _ => True) before after →
      (writtenOn conn (handled before after).history = writtenOn conn before.history ∨
          (handled before after).heap conn ≠ none) ∧
        TcpServer.readOn conn before.log <+: TcpServer.readOn conn (handled before after).log := by
    intro before after owned effect
    obtain ⟨heap, written, read⟩ := handled_same before after conn
    rw [heap, written, read]
    cases effect with
    | refl => exact ⟨Or.inl rfl, List.prefix_rfl⟩
    | single effect => exact ⟨TcpServer.written_of_effect owned conn effect,
        TcpServer.readOn_of_effect owned conn effect⟩
  have idle : ∀ {result : Option TcpServer} {after : TcpServer},
      (if server.batch = [] then result else none) = some after → result = some after :=
    fun called => (Option.ite_none_right_eq_some.mp called).2
  have other : (∀ conn revents nRead nWritten errno now,
        label ≠ .io conn revents nRead nWritten errno now) →
      server.Undisturbed (fun _ => True) label →
      (server.step label).map (handled server) = some next →
      (writtenOn conn next.history = writtenOn conn server.history ∨ next.heap conn ≠ none) ∧
        TcpServer.readOn conn server.log <+: TcpServer.readOn conn next.log := by
    intro notIo undisturbed mapped
    obtain ⟨after, called, rfl⟩ := Option.map_eq_some_iff.mp mapped
    exact single owned (TcpServer.step_effect owned notIo undisturbed called)
  cases label with
  | io _ revents nRead nWritten errno now =>
      obtain ⟨⟨middle, writing⟩, read, behind⟩ := Option.bind_eq_some_iff.mp (idle taken)
      have effect : Relation.ReflGen (TcpServer.Effect fun _ => True) server middle :=
        (TcpServer.ioFront_effect owned read).1
      have front := (single owned effect).2
      have silent : writtenOn conn (handled server middle).history =
          writtenOn conn server.history :=
        (handled_same server middle conn).2.1.trans (TcpServer.written_ioFront owned read conn)
      cases writing with
      | none =>
          obtain rfl := Option.some.inj behind
          exact ⟨Or.inl silent, front⟩
      | some writer =>
          obtain ⟨after, wrote, rfl⟩ := Option.map_eq_some_iff.mp behind
          have ownedMiddle : middle.Owned := by
            cases effect with
            | refl => exact owned
            | single effect => exact owned.effect effect
          have owned' := owned_handled server ownedMiddle
          obtain ⟨written, read'⟩ := single owned' (TcpServer.ioBack_effect owned' wrote)
          rw [silent] at written
          exact ⟨written, front.trans read'⟩
  | send other pData => cases taken
  | closeClient other => cases taken
  | accept result now =>
      refine other (by simp) ?_ taken
      cases result <;> trivial
  | timer | asyncSwap | asyncExec => exact other (by simp) trivial taken

theorem Mirrors.step (mirrors : Mirrors server) {label : TcpServer.Label}
    (fresh : Fresh server label) (taken : EchoServer.step server label = some next) :
    Mirrors next := by
  have echoing := fun sClient => (mirrors.echoing sClient).step (fresh.freshKey sClient) taken
  refine ⟨echoing, fun conn => ?_⟩
  obtain ⟨written, read⟩ := written_step (mirrors.echoing ⟨0, 0, 0⟩).owned conn taken
  cases alive : next.heap conn with
  | none =>
      rw [written.resolve_right (absurd alive)]
      exact (mirrors.front conn).trans (by
        obtain ⟨more, grown⟩ := read
        rw [← grown, List.flatten_append]
        exact List.prefix_append _ _)
  | some connection =>
      -- a connection that is there is registered, and its account is balanced
      have mine := (echoing connection.socketClient).owned.conn_owned alive
      obtain ⟨connection', alive', -, account⟩ :=
        (echoing connection.socketClient).account mine.registered
      rw [← (echoing connection.socketClient).echoed mine.registered, ← account, List.append_assoc]
      exact List.prefix_append _ _

end EchoServer

end ServerLib
