import ServerLib.InterruptedClient
import ServerLib.SocketCalls

/-!
# Does an object close a number twice?

Three places close `m_Socket`: `CTcpClient::__Connect`, `CTcpClient::Stop` and
`CTcpServer::Stop`.  `__Connect` asks whether `m_Socket > 0` and sets it to 0 behind
`close`.  The two `Stop` do neither, so behind `Stop` the number is still there, and the
next `Stop`, or the next `__Connect`, closes it once more.  That `__Connect` need not be the
one of another `Start`: where a handler calls `Stop`, it is the one of the callback that
reports to it.  `Stop` before the first `Start` closes what the constructor left in
`m_Socket`: 0 in the client, and whatever the memory held in the server.  (The UDP classes
test `m_Socket > 0` in `Stop` and reset it.)

`noDoubleClose_iff` says of both classes exactly which orders of calls keep the law of
`NoDoubleClose`, for calls at any moment: the object's last call must have been `socket`,
that is, no `Stop` has come since, wherever `Stop` or `__Connect` closes.  Where `socket`
has failed, `Stop` closes −1 and does no harm.
-/

namespace ServerLib

open Transition

/-! ## `CTcpServer::Start` and `CTcpServer::Stop` -/

/-- The part of `CTcpServer` that `Start` and `Stop` set up and take down, with the
descriptors of its process and the calls of `socket` and `close` it made. -/
structure TcpListener where
  socket : Int32
  listenIo : IoWatcher
  asyncActive : Bool
  looping : Bool
  owner : Int32 → Option Descriptor
  nextSocket : ℕ
  calls : List SocketCall

namespace TcpListener

/-- `CTcpServer()`, which leaves `m_Socket` as it finds it. -/
def new (socket : Int32) : TcpListener where
  socket := socket
  listenIo := ⟨-1, ⟨false, false⟩, false⟩
  asyncActive := false
  looping := false
  owner := fun _ => none
  nextSocket := 0
  calls := []

/-- `m_Socket = socket(…)`; the call returns -1 or a descriptor that was not open. -/
def makeSocket (server : TcpListener) (fd : Int32) : Option TcpListener :=
  if fd = -1 then
    some { server with socket := fd }
  else if 0 ≤ fd ∧ server.owner fd = none then
    some { server with
      socket := fd
      owner := Function.update server.owner fd (some (.socket server.nextSocket))
      nextSocket := server.nextSocket + 1
      calls := server.calls ++ [.socket fd] }
  else
    none

/-- `Start(IP, Port)`, up to the loop; `bound` says that `bind` returned 0, which it
does on an open socket only. -/
def start (server : TcpListener) (fd : Int32) (bound : Bool) : Option TcpListener :=
  (server.makeSocket fd).bind fun made =>
    if bound then
      if fd = -1 then
        none
      else
        some { made with
          listenIo := ⟨made.socket, Interest.readOnly, true⟩
          asyncActive := true
          looping := true }
    else
      some made

/-- `Stop()`. -/
def stop (server : TcpListener) : TcpListener :=
  { server with
    owner := Function.update server.owner server.socket none
    calls := server.calls ++ [.close server.socket (server.owner server.socket)]
    listenIo := { server.listenIo with active := false }
    asyncActive := false
    looping := false }

/-- Who moves, and what the environment answers. -/
inductive Label where
  | start (fd : Int32) (bound : Bool)
  | stop
  /-- The rest of the process opens a descriptor. -/
  | otherOpen (fd : Int32)
  /-- The rest of the process closes a descriptor of its own. -/
  | otherClose (fd : Int32)
  deriving DecidableEq, Repr

/-- One step.  `Start` and `Stop` may be called in any order. -/
def step (server : TcpListener) : Label → Option TcpListener
  | .start fd bound => server.start fd bound
  | .stop => some server.stop
  | .otherOpen fd =>
      if 0 ≤ fd ∧ server.owner fd = none then
        some { server with owner := Function.update server.owner fd (some .other) }
      else
        none
  | .otherClose fd =>
      if server.owner fd = some .other then
        some { server with owner := Function.update server.owner fd none }
      else
        none

/-- `Stop` is called right behind a `Start`, or with no descriptor number in
`m_Socket`. -/
def SafeStop (server : TcpListener) : Label → Prop
  | .stop => justMade server.calls = true ∨ server.socket < 0
  | _ => True

/-- What is in `m_Socket` is a socket of the server right behind a `Start`, and not
otherwise. -/
abbrev Owns (server : TcpListener) : Prop := Placed server.calls server.owner server.socket

section Step

variable {server next : TcpListener} {fd : Int32}

/-- **What `socket` can do.** -/
theorem Owns.makeSocket (owns : server.Owns) (called : server.makeSocket fd = some next) :
    next.Owns ∧ (NoDoubleClose next.calls ↔ NoDoubleClose server.calls) := by
  unfold TcpListener.makeSocket at called
  split at called
  · next failed =>
      obtain rfl := Option.some.inj called
      subst failed
      exact ⟨owns.ledger.placed_failed, Iff.rfl⟩
  · obtain ⟨-, same⟩ := Option.ite_none_right_eq_some.mp called
    obtain rfl := Option.some.inj same
    exact ⟨owns.ledger.placed_socket fd server.nextSocket, noDoubleClose_socket⟩

theorem Owns.start (owns : server.Owns) {bound : Bool}
    (called : server.start fd bound = some next) :
    next.Owns ∧ (NoDoubleClose next.calls ↔ NoDoubleClose server.calls) := by
  obtain ⟨made, makes, behind⟩ := Option.bind_eq_some_iff.mp called
  obtain ⟨owns', law⟩ := owns.makeSocket makes
  split at behind
  · obtain ⟨-, same⟩ := Option.ite_none_left_eq_some.mp behind
    obtain rfl := Option.some.inj same
    exact ⟨owns', law⟩
  · obtain rfl := Option.some.inj behind
    exact ⟨owns', law⟩

/-- **One step of the server.** -/
theorem Owns.step (owns : server.Owns) {label : Label} (taken : server.step label = some next) :
    next.Owns ∧
      (NoDoubleClose next.calls ↔ NoDoubleClose server.calls ∧ server.SafeStop label) := by
  cases label with
  | start fd bound =>
      obtain ⟨owns', law⟩ := owns.start taken
      exact ⟨owns', law.trans (and_iff_left trivial).symm⟩
  | stop =>
      obtain rfl := Option.some.inj taken
      exact ⟨owns.close, owns.close_iff⟩
  | otherOpen fd =>
      obtain ⟨free, same⟩ := Option.ite_none_right_eq_some.mp taken
      obtain rfl := Option.some.inj same
      exact ⟨owns.others (by simp [free.2]) nofun, (and_iff_left trivial).symm⟩
  | otherClose fd =>
      obtain ⟨other, same⟩ := Option.ite_none_right_eq_some.mp taken
      obtain rfl := Option.some.inj same
      exact ⟨owns.others (by simp [other]) nofun, (and_iff_left trivial).symm⟩

end Step

end TcpListener

/-! ## `CTcpClient` -/

namespace TcpClient

/-- The calls of `socket` that returned a descriptor, and the calls of `close`. -/
def socketCalls (log : List ClientEvent) : List SocketCall :=
  log.filterMap fun
    | .opened _ fd => some (.socket fd)
    | .closed fd descriptor => some (.close fd descriptor)
    | _ => none

@[simp] theorem socketCalls_append (log more : List ClientEvent) :
    socketCalls (log ++ more) = socketCalls log ++ socketCalls more :=
  List.filterMap_append

/-- What is in `m_Socket` is a socket of the client right behind `socket`, and not
otherwise. -/
abbrev Owns (client : TcpClient) : Prop :=
  Placed (socketCalls client.log) client.owner client.socket

section Step

variable {client next : TcpClient} {fd : Int32}

/-- **A step of which `socket` and `close` are no part.** -/
structure SameSocket (client next : TcpClient) : Prop where
  calls : socketCalls next.log = socketCalls client.log
  owner : next.owner = client.owner
  socket : next.socket = client.socket

theorem SameSocket.owns (same : SameSocket client next) (owns : client.Owns) : next.Owns := by
  rw [Owns, same.calls, same.owner, same.socket]
  exact owns

/-- Events that are no calls of `socket` or `close`. -/
theorem sameSocket_of_grown (events : List ClientEvent) (silent : socketCalls events = [])
    (grown : next.log = client.log ++ events) (owner : next.owner = client.owner)
    (socket : next.socket = client.socket) : SameSocket client next := by
  refine ⟨?_, owner, socket⟩
  rw [grown, socketCalls_append, silent, List.append_nil]

theorem sameSocket_silent (grown : next.log = client.log) (owner : next.owner = client.owner)
    (socket : next.socket = client.socket) : SameSocket client next :=
  ⟨congrArg socketCalls grown, owner, socket⟩

/-- **What `__Connect` does to the descriptors.**  It closes a positive number that is in
`m_Socket`, and what it puts there is what `socket` returns. -/
theorem Owns.connect (owns : client.Owns) {success : Bool}
    (called : client.connect fd = some (next, success)) :
    next.Owns ∧ (NoDoubleClose (socketCalls next.log) ↔ NoDoubleClose (socketCalls client.log) ∧
      (justMade (socketCalls client.log) = true ∨ client.socket ≤ 0)) := by
  have dropped : Ledger (socketCalls client.dropSocket.log) client.dropSocket.owner ∧
      (NoDoubleClose (socketCalls client.dropSocket.log) ↔
        NoDoubleClose (socketCalls client.log) ∧
          (justMade (socketCalls client.log) = true ∨ client.socket ≤ 0)) := by
    unfold dropSocket
    split
    · next positive =>
        have calls : socketCalls (client.log ++ [.closed client.socket
            (client.owner client.socket)]) = socketCalls client.log ++
              [.close client.socket (client.owner client.socket)] := socketCalls_append ..
        have nonneg : ¬ client.socket < 0 := Int32.not_lt.mpr (Int32.le_of_lt positive)
        have nonzero : ¬ client.socket ≤ 0 := Int32.not_le.mpr positive
        refine ⟨?_, ?_⟩
        · show Ledger (socketCalls (client.log ++ [_])) _
          rw [calls]
          exact owns.ledger.close
        · show NoDoubleClose (socketCalls (client.log ++ [_])) ↔ _
          rw [calls, owns.close_iff, or_iff_left nonneg, or_iff_left nonzero]
    · next nonpos =>
        exact ⟨owns.ledger, (and_iff_left (Or.inr (Int32.not_lt.mp nonpos))).symm⟩
  obtain ⟨ledger, law⟩ := dropped
  have calls : socketCalls (client.dropSocket.made fd).log =
      socketCalls client.dropSocket.log ++ [.socket fd] := socketCalls_append ..
  have made : (client.dropSocket.made fd).Owns ∧
      (NoDoubleClose (socketCalls (client.dropSocket.made fd).log) ↔
        NoDoubleClose (socketCalls client.log) ∧
          (justMade (socketCalls client.log) = true ∨ client.socket ≤ 0)) := by
    rw [Owns, calls]
    exact ⟨ledger.placed_socket fd client.dropSocket.nextSocket, noDoubleClose_socket.trans law⟩
  rcases connect_cases called with ⟨-, -, rfl⟩ | ⟨-, -, -, rfl⟩ | ⟨-, -, -, rfl⟩
  · exact ⟨ledger.placed_failed, law⟩
  · exact made
  · exact made

/-- `Stop` closes what is in `m_Socket`, whatever it is. -/
theorem Owns.stop (owns : client.Owns) :
    client.stop.Owns ∧ (NoDoubleClose (socketCalls client.stop.log) ↔
      NoDoubleClose (socketCalls client.log) ∧
        (justMade (socketCalls client.log) = true ∨ client.socket < 0)) := by
  have calls : socketCalls client.stop.log = socketCalls client.log ++
      [.close client.socket (client.owner client.socket)] := socketCalls_append ..
  rw [Owns, calls]
  exact ⟨owns.close, owns.close_iff⟩

/-- A part of the callback calls neither `socket` nor `close`. -/
theorem ioFront_sameSocket {revents : Revents} {nRead : RecvResult} {errno : Int32}
    {rest : Option ClientRest} (called : client.ioFront revents nRead errno = some (next, rest)) :
    SameSocket client next := by
  obtain ⟨-, called⟩ := Option.ite_none_right_eq_some.mp called
  split at called
  · obtain ⟨rfl, rfl⟩ := Prod.mk.inj (Option.some.inj called)
    exact sameSocket_of_grown [_] rfl rfl rfl rfl
  · split at called
    · obtain ⟨-, called⟩ := Option.ite_none_right_eq_some.mp called
      cases nRead with
      | again =>
          obtain ⟨rfl, rfl⟩ := Prod.mk.inj (Option.some.inj called)
          exact sameSocket_silent rfl rfl rfl
      | eof | error | data =>
          obtain ⟨rfl, rfl⟩ := Prod.mk.inj (Option.some.inj called)
          exact sameSocket_of_grown [_] rfl rfl rfl rfl
    · obtain ⟨rfl, rfl⟩ := Prod.mk.inj (Option.some.inj called)
      exact sameSocket_silent rfl rfl rfl

theorem ioBack_sameSocket {nWritten : WriteResult} {rest : Option ClientRest}
    (called : client.ioBack nWritten = some (next, rest)) : SameSocket client next := by
  unfold ioBack at called
  split at called
  · obtain ⟨rfl, rfl⟩ := Prod.mk.inj (Option.some.inj called)
    exact sameSocket_silent rfl rfl rfl
  · obtain ⟨-, called⟩ := Option.ite_none_right_eq_some.mp called
    cases nWritten with
    | again =>
        obtain ⟨rfl, rfl⟩ := Prod.mk.inj (Option.some.inj called)
        exact sameSocket_silent rfl rfl rfl
    | error errno =>
        obtain ⟨rfl, rfl⟩ := Prod.mk.inj (Option.some.inj called)
        exact sameSocket_of_grown [_] rfl rfl rfl rfl
    | wrote count =>
        obtain ⟨fits, same⟩ := Option.dite_none_right_eq_some.mp called
        obtain ⟨rfl, rfl⟩ := Prod.mk.inj (Option.some.inj same)
        exact sameSocket_of_grown [_] rfl rfl rfl rfl

theorem asyncExec_sameSocket (called : client.asyncExec = some next) : SameSocket client next := by
  rcases asyncExec_cases called with ⟨_, _, -, -, rfl⟩ | ⟨_, _, -, -, rfl⟩
  · exact sameSocket_of_grown [_] rfl rfl rfl rfl
  · exact sameSocket_of_grown [_, _] rfl (List.append_assoc ..) rfl rfl

end Step

end TcpClient

namespace InterruptedClient

/-- The client's calls of `socket` and `close`. -/
abbrev calls (state : InterruptedClient) : List SocketCall :=
  TcpClient.socketCalls state.client.log

/-- Wherever `m_Socket` is closed, by `Stop` or `__Connect`, the last of the object's calls
is one of `socket`: no `Stop` has come since.  Or there is no number to close. -/
def SafeClose (state : InterruptedClient) : Label → Prop
  | .stop => justMade state.calls = true ∨ state.client.socket < 0
  | .startConnect _ | .reconnect _ => justMade state.calls = true ∨ state.client.socket ≤ 0
  | _ => True

section Step

variable {state next : InterruptedClient}

/-- A call that goes on. -/
theorem resume_cases {rest : ClientRest} {part : Option (TcpClient × Option ClientRest)}
    (taken : state.resume rest part = some next) :
    ∃ left, part = some (next.client, left) := by
  obtain ⟨-, taken⟩ := Option.ite_none_right_eq_some.mp taken
  obtain ⟨⟨client, left⟩, called, rfl⟩ := Option.map_eq_some_iff.mp taken
  exact ⟨left, called⟩

/-- **One step of the client**, whoever calls. -/
theorem owns_step {label : Label} (owns : state.client.Owns)
    (taken : state.step label = some next) :
    next.client.Owns ∧ (NoDoubleClose next.calls ↔ NoDoubleClose state.calls ∧
      state.SafeClose label) := by
  have quiet : TcpClient.SameSocket state.client next.client → next.client.Owns ∧
      (NoDoubleClose next.calls ↔ NoDoubleClose state.calls ∧ True) := fun same =>
    ⟨same.owns owns, by rw [calls, same.calls, and_true]⟩
  cases label with
  | startAsync IP Port =>
      obtain rfl := Option.some.inj taken
      exact quiet (TcpClient.sameSocket_silent rfl rfl rfl)
  | startNotify =>
      obtain ⟨left, same⟩ := resume_cases taken
      obtain ⟨same, -⟩ := Prod.mk.inj (Option.some.inj same)
      exact quiet (same ▸ TcpClient.sameSocket_silent rfl rfl rfl)
  | startConnect fd =>
      obtain ⟨left, called⟩ := resume_cases taken
      obtain ⟨client, started, same⟩ := Option.map_eq_some_iff.mp called
      obtain ⟨⟨reached, success⟩, connected, rfl⟩ := Option.map_eq_some_iff.mp started
      obtain ⟨same, -⟩ := Prod.mk.inj same
      have reachedOwns := owns.connect connected
      rw [calls, ← same]
      exact reachedOwns
  | stop =>
      obtain rfl := Option.some.inj taken
      exact owns.stop
  | send pData =>
      obtain rfl := Option.some.inj taken
      exact quiet (TcpClient.sameSocket_of_grown [_] rfl rfl rfl rfl)
  | asyncDispatch =>
      obtain ⟨client, called, rfl⟩ := Option.map_eq_some_iff.mp taken
      obtain ⟨-, same⟩ := Option.ite_none_right_eq_some.mp called
      obtain rfl := Option.some.inj same
      exact quiet (TcpClient.sameSocket_silent rfl rfl rfl)
  | asyncSwap =>
      obtain ⟨client, called, rfl⟩ := Option.map_eq_some_iff.mp taken
      obtain ⟨-, same⟩ := Option.ite_none_right_eq_some.mp called
      obtain rfl := Option.some.inj same
      exact quiet (TcpClient.sameSocket_silent rfl rfl rfl)
  | asyncExec =>
      obtain ⟨client, called, rfl⟩ := Option.map_eq_some_iff.mp taken
      exact quiet (TcpClient.asyncExec_sameSocket called)
  | ioFront revents nRead errno =>
      obtain ⟨⟨client, rest⟩, called, rfl⟩ := Option.map_eq_some_iff.mp taken
      exact quiet (TcpClient.ioFront_sameSocket called)
  | ioBack nWritten =>
      obtain ⟨left, called⟩ := resume_cases taken
      exact quiet (TcpClient.ioBack_sameSocket called)
  | reconnect fd =>
      obtain ⟨left, called⟩ := resume_cases taken
      obtain ⟨client, reconnected, same⟩ := Option.map_eq_some_iff.mp called
      obtain ⟨same, -⟩ := Prod.mk.inj same
      obtain ⟨success, connected⟩ := TcpClient.connect_of_reconnect reconnected
      exact owns.connect (same ▸ connected)
  | otherOpen fd =>
      obtain ⟨client, called, rfl⟩ := Option.map_eq_some_iff.mp taken
      obtain ⟨free, same⟩ := Option.ite_none_right_eq_some.mp called
      obtain rfl := Option.some.inj same
      exact ⟨owns.others (by simp [free.2]) nofun, (and_iff_left trivial).symm⟩
  | otherClose fd =>
      obtain ⟨client, called, rfl⟩ := Option.map_eq_some_iff.mp taken
      obtain ⟨other, same⟩ := Option.ite_none_right_eq_some.mp called
      obtain rfl := Option.some.inj same
      exact ⟨owns.others (by simp [other]) nofun, (and_iff_left trivial).symm⟩

end Step

end InterruptedClient

/-! ## Both classes -/

/-- **No number is closed twice exactly where `m_Socket` is closed right behind `socket`**, in
every run of a client whose functions are called at any moment, and of a server. -/
theorem noDoubleClose_iff {clientLabels : List InterruptedClient.Label} {state : InterruptedClient}
    (clientRuns : run InterruptedClient.step InterruptedClient.new clientLabels = some state)
    {socket : Int32} {serverLabels : List TcpListener.Label} {server : TcpListener}
    (serverRuns : run TcpListener.step (TcpListener.new socket) serverLabels = some server) :
    (NoDoubleClose state.calls ↔
      Along InterruptedClient.step InterruptedClient.SafeClose InterruptedClient.new clientLabels) ∧
    (NoDoubleClose server.calls ↔
      Along TcpListener.step TcpListener.SafeStop (TcpListener.new socket) serverLabels) := by
  constructor
  · have start : InterruptedClient.new.client.Owns := placed_nil 0
    have law := law_iff_along (I := fun state : InterruptedClient => state.client.Owns)
      (P := fun state : InterruptedClient => NoDoubleClose state.calls)
      (fun _ _ _ owns taken => (InterruptedClient.owns_step owns taken).1)
      (fun _ _ _ owns taken => (InterruptedClient.owns_step owns taken).2)
      clientLabels start clientRuns
    exact law.trans (and_iff_right noDoubleClose_nil)
  · have start : (TcpListener.new socket).Owns := placed_nil socket
    have law := law_iff_along (I := fun server : TcpListener => server.Owns)
      (P := fun server : TcpListener => NoDoubleClose server.calls)
      (fun _ _ _ owns taken => (TcpListener.Owns.step owns taken).1)
      (fun _ _ _ owns taken => (TcpListener.Owns.step owns taken).2)
      serverLabels start serverRuns
    exact law.trans (and_iff_right noDoubleClose_nil)

/-- A client that reconnects twice and is stopped, and started and stopped again; and a
server. -/
theorem noDoubleClose_once :
    ∃ state server, run InterruptedClient.step InterruptedClient.new
        [.startAsync 2130706433 8888, .startNotify, .startConnect 3,
          .ioFront ⟨false, true, false⟩ .eof 0, .reconnect 4,
          .ioFront ⟨true, false, false⟩ .again 9, .reconnect 3, .stop] = some state ∧
      run TcpListener.step (TcpListener.new 0) [.start 3 true, .stop] = some server ∧
      (NoDoubleClose state.calls ↔
        Along InterruptedClient.step InterruptedClient.SafeClose InterruptedClient.new
          [.startAsync 2130706433 8888, .startNotify, .startConnect 3,
            .ioFront ⟨false, true, false⟩ .eof 0, .reconnect 4,
            .ioFront ⟨true, false, false⟩ .again 9, .reconnect 3, .stop]) ∧
      (NoDoubleClose server.calls ↔ Along TcpListener.step TcpListener.SafeStop
        (TcpListener.new 0) [.start 3 true, .stop]) := by
  obtain ⟨state, clientRuns⟩ := Option.isSome_iff_exists.mp
    (show (run InterruptedClient.step InterruptedClient.new
      [.startAsync 2130706433 8888, .startNotify, .startConnect 3,
        .ioFront ⟨false, true, false⟩ .eof 0, .reconnect 4,
        .ioFront ⟨true, false, false⟩ .again 9, .reconnect 3, .stop]).isSome = true
      by decide +kernel)
  obtain ⟨server, serverRuns⟩ := Option.isSome_iff_exists.mp
    (show (run TcpListener.step (TcpListener.new 0) [.start 3 true, .stop]).isSome = true by
      decide +kernel)
  exact ⟨state, server, clientRuns, serverRuns, noDoubleClose_iff clientRuns serverRuns⟩

/-- The second `Stop` of a client closes what somebody else has opened. -/
theorem doubleClose_by_second_stop :
    ∃ last, run InterruptedClient.step InterruptedClient.new
        [.startAsync 2130706433 8888, .startNotify, .startConnect 3, .stop, .otherOpen 3,
          .stop] = some last ∧ ¬ NoDoubleClose last.calls := by
  obtain ⟨last, runs, calls⟩ : ∃ last, run InterruptedClient.step InterruptedClient.new
      [.startAsync 2130706433 8888, .startNotify, .startConnect 3, .stop, .otherOpen 3,
        .stop] = some last ∧ last.calls =
          [.socket 3, .close 3 (some (.socket 0)), .close 3 (some .other)] :=
    ⟨_, rfl, by decide +kernel⟩
  refine ⟨last, runs, fun law => ?_⟩
  rw [calls] at law
  obtain ⟨-, number, other⟩ := law [.socket 3, .close 3 (some (.socket 0))] 3 (some .other) [] rfl
    (by decide)
  cases other

/-- `OnDisconnected` calls `Stop`, and the callback goes on to `__Connect`. -/
theorem doubleClose_by_stop_in_handler :
    ∃ last, run InterruptedClient.step InterruptedClient.new
        [.startAsync 2130706433 8888, .startNotify, .startConnect 3,
          .ioFront ⟨false, true, false⟩ .eof 0, .stop, .otherOpen 3, .reconnect 4] = some last ∧
      ¬ NoDoubleClose last.calls := by
  obtain ⟨last, runs, calls⟩ : ∃ last, run InterruptedClient.step InterruptedClient.new
      [.startAsync 2130706433 8888, .startNotify, .startConnect 3,
        .ioFront ⟨false, true, false⟩ .eof 0, .stop, .otherOpen 3, .reconnect 4] = some last ∧
        last.calls = [.socket 3, .close 3 (some (.socket 0)), .close 3 (some .other),
          .socket 4] :=
    ⟨_, rfl, by decide +kernel⟩
  refine ⟨last, runs, fun law => ?_⟩
  rw [calls] at law
  obtain ⟨-, number, other⟩ := law [.socket 3, .close 3 (some (.socket 0))] 3 (some .other)
    [.socket 4] rfl (by decide)
  cases other

end ServerLib
