import ServerLib.Library.History
import ServerLib.TcpClientEffects

/-!
# Which connections the client announces

`ITcpClientDataHandle` (iclient.h) has five functions.  A handler that keeps state for a
connection needs the first, `OnConnected`, to know when to begin: data that comes over a
connection it was not told of is data of nothing.  The server keeps that order,
`CTcpServer::__Accept` calls `OnClientConnected` before the connection can deliver
anything, and the law for the client, `Announced`, is the same: on every connection
exactly one `OnConnected` before the first `OnDataReceived`, and no `OnDisconnected`
behind data without it.

A handler sees the connection as `m_SocketClient`, which every successful `__Connect`
sets.  So a call belongs to the last successful `__Connect` before it (`named`), whatever
has become of the socket since, and `eventsOn` is the part of a history that belongs to one
of them.

## No call of `OnConnected`

`told_of_step` goes through everything a step can report.  Data is reported where `recv`
returned some, failures are reported on the paths to `__Connect`, and `OnConnected` is
called on none of them: not by `Start`, not at the first event on the socket and not
after a reconnect.  What follows is `announced_iff`: a run keeps the law exactly as long
as `recv` returns nothing.
-/

namespace ServerLib

open Transition History

namespace TcpClient

/-! ## The law -/

/-- A call of `OnConnected`. -/
def isConnected : ClientEvent → Bool
  | .onConnected .. => true
  | _ => false

/-- A call of `OnDataReceived`. -/
def isDataReceived : ClientEvent → Bool
  | .onDataReceived .. => true
  | _ => false

/-- A call of `OnDisconnected`. -/
def isDisconnected : ClientEvent → Bool
  | .onDisconnected .. => true
  | _ => false

/-- What happens on one connection is in order: it is announced once, before its first
data. -/
structure AnnouncedFirst (events : List ClientEvent) : Prop where
  /-- Exactly one `OnConnected` comes before the first `OnDataReceived`. -/
  once : events.any isDataReceived = true →
    (events.takeWhile fun event => !isDataReceived event).countP isConnected = 1
  /-- No `OnDisconnected` comes behind data without it. -/
  ended : ∀ i (inside : i < events.length), isDisconnected events[i] = true →
    (events.take i).any isDataReceived = true → (events.take i).any isConnected = true

example : AnnouncedFirst [.onConnected ⟨2130706433, 8888, 3⟩,
    .onDataReceived ⟨2130706433, 8888, 3⟩ [7] (some (.socket 0)),
    .onDisconnected ⟨2130706433, 8888, 3⟩ 0] := ⟨by decide, by decide⟩

/-- The connection `m_SocketClient` names behind one more event.  A successful
`__Connect` is a socket on a descriptor above 0. -/
def name (connection : Option ℕ) : ClientEvent → Option ℕ
  | .opened number fd => if 0 < fd then some number else connection
  | _ => connection

/-- The connection `m_SocketClient` names behind a history. -/
def named (log : List ClientEvent) : Option ℕ := log.foldl name none

/-- What happens while `m_SocketClient` names the connection with this number. -/
def eventsOn (number : ℕ) (log : List ClientEvent) : List ClientEvent :=
  during name number none log

/-- **Connections are announced**, each before its data. -/
def Announced (log : List ClientEvent) : Prop := ∀ number, AnnouncedFirst (eventsOn number log)

/-- Without `OnConnected` the order is kept only where no data comes. -/
theorem announcedFirst_iff_of_unannounced {events : List ClientEvent}
    (unannounced : ∀ event ∈ events, isConnected event = false) :
    AnnouncedFirst events ↔ events.any isDataReceived = false := by
  constructor
  · intro first
    by_contra received
    have one := first.once (by simpa using received)
    have none : (events.takeWhile fun event => !isDataReceived event).countP isConnected = 0 :=
      List.countP_eq_zero.mpr fun event member =>
        Bool.eq_false_iff.mp (unannounced event (List.takeWhile_subset _ member))
    omega
  · intro silent
    refine ⟨fun received => ?_, fun i _ _ received => ?_⟩
    · rw [silent] at received
      cases received
    · obtain ⟨event, member, data⟩ := List.any_eq_true.mp received
      rw [List.any_eq_false] at silent
      exact absurd data (silent event (List.mem_of_mem_take member))

/-! ## What a step reports -/

/-- An event that neither announces a connection nor delivers data. -/
def IsSilent (event : ClientEvent) : Prop :=
  isConnected event = false ∧ isDataReceived event = false

theorem IsInner.isSilent {event : ClientEvent} (inner : IsInner event) : IsSilent event := by
  cases event <;> first | exact ⟨rfl, rfl⟩ | exact inner.elim

theorem IsIoFailure.isSilent {event : ClientEvent} (failure : IsIoFailure event) :
    IsSilent event := by
  cases event <;> first | exact ⟨rfl, rfl⟩ | exact failure.elim

/-- A history grows by these events, the bytes `recv` returned first. -/
inductive Told (client : TcpClient) : Bytes → TcpClient → Prop where
  | silent {next : TcpClient} (events : List ClientEvent) : (∀ event ∈ events, IsSilent event) →
      next.log = client.log ++ events → Told client [] next
  | data {pData : Bytes} {next : TcpClient} (source : Option Descriptor)
      (events : List ClientEvent) : (∀ event ∈ events, IsSilent event) →
      client.phase = .looping → pData ≠ [] →
      next.log = client.log ++ .onDataReceived client.socketClient pData source :: events →
      Told client pData next

section Step

variable {client next : TcpClient} {label : Label} {pData : Bytes}

theorem told_of_same (same : next.log = client.log) : Told client [] next :=
  .silent [] nofun (by rw [same, List.append_nil])

/-- A report on a path to `__Connect`, and the call of `__Connect`. -/
theorem reconnect_silent {told : TcpClient} {fd : Int32} (reported : IoReported client told)
    (failed : told.reconnect fd = some next) :
    ∃ events, (∀ event ∈ events, IsSilent event) ∧ next.log = client.log ++ events := by
  obtain ⟨success, connected⟩ := connect_of_reconnect failed
  obtain ⟨inner, quiet, grown⟩ := connect_inner connected
  obtain ⟨event, failure, logged⟩ : ∃ event, IsIoFailure event ∧
      told.log = client.log ++ [event] := by
    cases reported with
    | running event failure => exact ⟨event, failure, rfl⟩
    | stopped event failure => exact ⟨event, failure, rfl⟩
  refine ⟨event :: inner, fun later member => ?_, ?_⟩
  · rcases List.mem_cons.mp member with rfl | member
    · exact failure.isSilent
    · exact (quiet later member).isSilent
  · rw [grown, logged, List.append_assoc, List.singleton_append]

/-- **What a step tells the data handle**: no step announces a connection, and data is
delivered where `recv` returned it. -/
theorem told_of_step (taken : client.step label = some next) :
    Told client (recvData label) next := by
  cases stepped_of_step taken with
  | startAsync | startNotify | dispatched | swapped | otherOpen | otherClose =>
      exact told_of_same rfl
  | startConnect notified connected =>
      obtain ⟨inner, quiet, grown⟩ := connect_inner connected
      exact .silent inner (fun event member => (quiet event member).isSilent) grown
  | stop | send | pushed => exact .silent [_] (by simp [IsSilent, isConnected, isDataReceived]) rfl
  | refused =>
      exact .silent [_, _] (by simp [IsSilent, isConnected, isDataReceived])
        (List.append_assoc ..)
  | io idle called =>
      obtain ⟨-, after, received, behind⟩ := ioCallback_recv called
      -- behind the read the callback reports no data, on any path
      have rest : ∃ events, (∀ event ∈ events, IsSilent event) ∧
          next.log = after.log ++ events := by
        rcases behind with ⟨-, told, reported, failed⟩ | ⟨-, written⟩
        · exact reconnect_silent reported failed
        · obtain ⟨⟨inner, quiet, grown⟩, -, -⟩ := written.inner
          exact ⟨inner, fun event member => (quiet event member).isSilent, grown⟩
      obtain ⟨events, quiet, grown⟩ := rest
      generalize recvData _ = pData at received ⊢
      cases received with
      | nothing => exact .silent events quiet grown
      | data low high =>
          refine .data (client.owner client.io.fd) events quiet idle.1
            (List.ne_nil_of_length_pos low) ?_
          rw [grown, emit, List.append_assoc]
          rfl

end Step

/-! ## The invariant -/

theorem named_concat (log : List ClientEvent) (event : ClientEvent) :
    named (log ++ [event]) = name (named log) event := by
  unfold named
  rw [List.foldl_append]
  rfl

theorem eventsOn_append (number : ℕ) (log more : List ClientEvent) :
    eventsOn number (log ++ more) = eventsOn number log ++ during name number (named log) more :=
  during_append log more

theorem mem_of_mem_eventsOn {number : ℕ} {log : List ClientEvent} {event : ClientEvent}
    (member : event ∈ eventsOn number log) : event ∈ log :=
  (during_sublist log).subset member

/-- Once a `__Connect` was successful, `m_SocketClient` always names a connection. -/
theorem named_append_ne_none {log : List ClientEvent} (some : named log ≠ none)
    (more : List ClientEvent) : named (log ++ more) ≠ none := by
  induction more generalizing log with
  | nil => rwa [List.append_nil]
  | cons event rest ih =>
      rw [List.append_cons]
      refine ih ?_
      rw [named_concat]
      cases event with
      | opened number fd =>
          rw [name]
          split
          · exact Option.some_ne_none number
          · exact some
      | closed | onConnected | onDisconnected | onRecvError | onSendError | onDataReceived
      | written | sent | executed => exact some

/-- The history of a run, compared with what `recv` returned in it. -/
structure Heard (labels : List Label) (client : TcpClient) : Prop where
  /-- In its loop the client has a connection to name. -/
  named : client.phase = .looping → named client.log ≠ none
  unannounced : ∀ event ∈ client.log, isConnected event = false
  /-- Every byte `recv` returned was delivered, on some connection. -/
  received : (∃ number, (eventsOn number client.log).any isDataReceived = true) ↔
    ∃ label ∈ labels, recvData label ≠ []

section Run

variable {client next : TcpClient} {label : Label} {labels : List Label} {last : TcpClient}

theorem heard_new : Heard [] new where
  named := nofun
  unannounced := nofun
  received := by simp [eventsOn, new, during]

theorem Told.log_grows {pData : Bytes} (told : Told client pData next) :
    ∃ events, (∀ event ∈ events, isConnected event = false) ∧
      next.log = client.log ++ events := by
  cases told with
  | silent events quiet grown => exact ⟨events, fun event member => (quiet event member).1, grown⟩
  | data _ events quiet _ _ grown =>
      exact ⟨_, List.forall_mem_cons.mpr ⟨rfl, fun event member => (quiet event member).1⟩, grown⟩

/-- Where the client is in its loop, a `__Connect` was successful. -/
theorem named_step (looped : client.phase = .looping → named client.log ≠ none)
    (taken : client.step label = some next) : next.phase = .looping → named next.log ≠ none := by
  obtain ⟨events, -, grown⟩ := (told_of_step taken).log_grows
  have kept (looping : client.phase = .looping) : named next.log ≠ none :=
    grown ▸ named_append_ne_none (looped looping) events
  cases stepped_of_step taken with
  | startAsync | startNotify | stop => exact nofun
  | startConnect notified connected =>
      intro looping
      rcases connect_cases connected with ⟨-, rfl, -⟩ | ⟨-, rfl, -⟩ | ⟨positive, -, -, rfl⟩
      · cases looping
      · cases looping
      · show named (client.dropSocket.log ++ [.opened client.dropSocket.nextSocket _]) ≠ none
        rw [named_concat, name, if_pos positive]
        exact Option.some_ne_none _
  | send | dispatched | swapped | pushed | refused | otherOpen | otherClose => exact kept
  | io idle => exact fun _ => kept idle.1

/-- Data comes on the connection `m_SocketClient` names, and silent events bring none. -/
theorem Told.received {pData : Bytes} (told : Told client pData next)
    (looped : client.phase = .looping → TcpClient.named client.log ≠ none) :
    (∃ number, (eventsOn number next.log).any isDataReceived = true) ↔
      (∃ number, (eventsOn number client.log).any isDataReceived = true) ∨ pData ≠ [] := by
  cases told with
  | silent events quiet grown =>
      have none (number : ℕ) :
          (during name number (TcpClient.named client.log) events).any isDataReceived = false :=
        List.any_eq_false.mpr fun event member =>
          Bool.eq_false_iff.mp (quiet event ((during_sublist events).subset member)).2
      simp only [grown, eventsOn_append, List.any_append, none, Bool.or_false, ne_eq,
        not_true_eq_false, or_false]
  | data source events quiet looping nonempty grown =>
      obtain ⟨number, here⟩ := Option.ne_none_iff_exists'.mp (looped looping)
      refine iff_of_true ⟨number, List.any_eq_true.mpr
        ⟨.onDataReceived client.socketClient pData source, ?_, rfl⟩⟩ (Or.inr nonempty)
      rw [grown]
      exact mem_during_of_current here

theorem Heard.step (heard : Heard labels client) (taken : client.step label = some next) :
    Heard (labels ++ [label]) next where
  named := named_step heard.named taken
  unannounced := by
    obtain ⟨events, quiet, grown⟩ := (told_of_step taken).log_grows
    rw [grown]
    exact List.forall_mem_append.mpr ⟨heard.unannounced, quiet⟩
  received := by
    rw [(told_of_step taken).received heard.named, heard.received]
    simp [List.mem_append, or_and_right, exists_or]

theorem heard_of_run (runs : run step new labels = some last) : Heard labels last :=
  run_history (P := Heard) heard_new (fun _ _ _ _ heard taken => heard.step taken) labels runs

/-- **A run announces its connections exactly where `recv` returns nothing in it.**  The
law cannot be kept where data comes: `OnConnected` is never called. -/
theorem announced_iff (runs : run step new labels = some last) :
    Announced last.log ↔ ∀ label ∈ labels, recvData label = [] := by
  have heard := heard_of_run runs
  calc Announced last.log
      ↔ ∀ number, (eventsOn number last.log).any isDataReceived = false :=
        forall_congr' fun number => announcedFirst_iff_of_unannounced fun event member =>
          heard.unannounced event (mem_of_mem_eventsOn member)
    _ ↔ ¬ ∃ number, (eventsOn number last.log).any isDataReceived = true := by simp
    _ ↔ ¬ ∃ label ∈ labels, recvData label ≠ [] := not_congr heard.received
    _ ↔ ∀ label ∈ labels, recvData label = [] := by simp

/-- A peer that closes two connections without a byte. -/
theorem announced_iff_closed_twice :
    ∃ last, run step new [.startAsync 2130706433 8888, .startNotify, .startConnect 3,
        .io ⟨false, false, true⟩ .again .again 0 0, .io ⟨false, true, false⟩ .eof .again 0 4,
        .io ⟨false, true, true⟩ .eof .again 0 5] = some last ∧ Announced last.log := by
  obtain ⟨last, runs⟩ := Option.isSome_iff_exists.mp
    (show (run step new [.startAsync 2130706433 8888, .startNotify, .startConnect 3,
        .io ⟨false, false, true⟩ .again .again 0 0, .io ⟨false, true, false⟩ .eof .again 0 4,
        .io ⟨false, true, true⟩ .eof .again 0 5]).isSome = true by decide +kernel)
  exact ⟨last, runs, (announced_iff runs).mpr (by decide)⟩

/-- One byte and the end of the connection: the handler is told of data and of an end, and
never of a beginning. -/
theorem data_unannounced :
    ∃ last, run step new [.startAsync 2130706433 8888, .startNotify, .startConnect 3,
        .io ⟨false, true, false⟩ (.data [7]) .again 0 0,
        .io ⟨false, true, false⟩ .eof .again 0 4] = some last ∧
      eventsOn 0 last.log = [.onDataReceived ⟨2130706433, 8888, 3⟩ [7] (some (.socket 0)),
        .onDisconnected ⟨2130706433, 8888, 3⟩ 0, .closed 3 (some (.socket 0)), .opened 1 4] ∧
      ¬ Announced last.log := by
  obtain ⟨last, runs, here⟩ : ∃ last, run step new [.startAsync 2130706433 8888, .startNotify,
        .startConnect 3, .io ⟨false, true, false⟩ (.data [7]) .again 0 0,
        .io ⟨false, true, false⟩ .eof .again 0 4] = some last ∧
      eventsOn 0 last.log = [.onDataReceived ⟨2130706433, 8888, 3⟩ [7] (some (.socket 0)),
        .onDisconnected ⟨2130706433, 8888, 3⟩ 0, .closed 3 (some (.socket 0)), .opened 1 4] :=
    ⟨_, rfl, by decide +kernel⟩
  refine ⟨last, runs, here, fun announced => ?_⟩
  have first := announced 0
  rw [here] at first
  exact absurd (first.once rfl) (by decide)

end Run

end TcpClient

end ServerLib
