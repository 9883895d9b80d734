import Mathlib.Data.List.Infix
import ServerLib.ContentManager
import ServerLib.TcpClientConservation

/-!
# A backend of the TCP proxy

`CTcpProxyClient` (test/tcpproxy.cpp) is a `CTcpClient` with a data handle that frames
what comes back.  Its loop thread takes the steps of the client, and where the client
calls the data handle, it makes the call: `calls` are the calls a step of the client has
left to be made, in order, and until they are through the thread takes no other step.
`Send` is called from outside, by the thread of the server.

The peer is a part of the state, as far as it can be seen from here: how many of the
bytes written on the connection it has sent back (`echoed`), and how many of these `recv`
has returned (`received`).  It may send back a packet or any piece of one.  This is a
peer that echoes, over a connection that loses nothing; of a backend whose connection is
replaced it says nothing, and what is proved here is about backends that stay up.

`Relays` is the account of a backend: what went into it as calls of `Send`, and what of
it is still to come out as calls of `HandlePkt`.  Every step keeps it, as long as the
connection stays up and the write queue takes every buffer.
-/

namespace ServerLib

open Transition

/-! ## A client that is not disturbed -/

namespace TcpClient

/-- The connection stays up: the step is no `Stop`, and no callback that reconnects. -/
def Up (client : TcpClient) : Label → Prop
  | .io revents nRead nWritten _ _ => ¬ client.IoReconnects revents nRead nWritten
  | .stop => False
  | _ => True

/-- The step is no call of `__Send` that finds the write queue too long. -/
def HasRoom (client : TcpClient) : Label → Prop
  | .asyncExec => client.writeQueue.length ≤ writeQueueMaxSize
  | _ => True

instance (client : TcpClient) : (label : Label) → Decidable (client.Up label)
  | .io _ _ _ _ _ => inferInstanceAs (Decidable (¬ _))
  | .stop => inferInstanceAs (Decidable False)
  | .startAsync .. | .startNotify | .startConnect _ | .send _ | .asyncDispatch | .asyncSwap
  | .asyncExec | .otherOpen _ | .otherClose _ => inferInstanceAs (Decidable True)

instance (client : TcpClient) : (label : Label) → Decidable (client.HasRoom label)
  | .asyncExec => inferInstanceAs (Decidable (_ ≤ _))
  | .startAsync .. | .startNotify | .startConnect _ | .stop | .send _ | .asyncDispatch
  | .asyncSwap | .io _ _ _ _ _ | .otherOpen _ | .otherClose _ => inferInstanceAs (Decidable True)

/-- The calls of the data handle in a history. -/
def handleCalls (log : List ClientEvent) : List ClientEvent :=
  log.filter fun
    | .onConnected .. => true
    | .onDisconnected .. => true
    | .onRecvError .. => true
    | .onSendError .. => true
    | .onDataReceived .. => true
    | _ => false

/-- What a step of a client that is not disturbed leaves behind: the data handle is
called with the bytes that `recv` returned, and otherwise nobody is told. -/
inductive Undisturbed (client : TcpClient) (data : Bytes) (next : TcpClient) : Prop where
  | silent (inner : List ClientEvent) : (∀ event ∈ inner, IsInner event) → data = [] →
      next.log = client.log ++ inner → Undisturbed client data next
  | data (inner : List ClientEvent) (source : Option Descriptor) :
      (∀ event ∈ inner, IsInner event) → 1 ≤ data.length → data.length ≤ recvSize →
      client.phase = .looping →
      next.log = client.log ++ .onDataReceived client.socketClient data source :: inner →
      Undisturbed client data next

section Step

variable {client next : TcpClient} {data : Bytes}

theorem undisturbed_of_same (same : next.log = client.log) : Undisturbed client [] next :=
  .silent [] (fun _ member => absurd member List.not_mem_nil) rfl (by rw [same, List.append_nil])

/-- A callback that does not reconnect reads what it is told to, and goes on. -/
theorem ioCallback_of_stays {revents : Revents} {nRead : RecvResult} {nWritten : WriteResult}
    {errno fd : Int32} (stays : ¬ client.IoReconnects revents nRead nWritten)
    (called : client.ioCallback revents nRead nWritten errno fd = some next) :
    ∃ after, IoRecv client (recvData (.io revents nRead nWritten errno fd)) after ∧
      IoWritten after next := by
  obtain ⟨-, after, received, ⟨taken, -⟩ | ⟨-, written⟩⟩ := ioCallback_recv called
  · exact absurd taken stays
  · exact ⟨after, received, written⟩

/-- **A step of a client that is not disturbed.** -/
theorem undisturbed_of_step {label : Label} (up : client.Up label) (room : client.HasRoom label)
    (own : ∀ pData, label ≠ .send pData) (taken : client.step label = some next) :
    Undisturbed client (recvData label) next ∧ (client.phase = .looping →
      next.phase = .looping ∧ next.socketClient = client.socketClient) := by
  cases stepped_of_step taken with
  | send pData => exact absurd rfl (own pData)
  | stop => exact up.elim
  | startAsync IP Port outside =>
      exact ⟨undisturbed_of_same rfl, fun looping => by rw [outside] at looping; cases looping⟩
  | startNotify started =>
      exact ⟨undisturbed_of_same rfl, fun looping => by rw [started] at looping; cases looping⟩
  | startConnect notified connected =>
      obtain ⟨inner, quiet, grown⟩ := connect_inner connected
      exact ⟨.silent inner quiet rfl grown,
        fun looping => by rw [notified] at looping; cases looping⟩
  | dispatched | swapped | otherOpen | otherClose =>
      exact ⟨undisturbed_of_same rfl, fun looping => ⟨looping, rfl⟩⟩
  | pushed => exact ⟨.silent [_] (by simp [IsInner]) rfl rfl, fun looping => ⟨looping, rfl⟩⟩
  | refused due long => exact absurd room (Nat.not_le.mpr long)
  | io idle called =>
      obtain ⟨after, received, written⟩ := ioCallback_of_stays up called
      obtain ⟨⟨inner, quiet, grown⟩, phase, socketClient⟩ := written.inner
      generalize recvData _ = pData at received ⊢
      cases received with
      | nothing =>
          exact ⟨.silent inner quiet rfl grown, fun looping =>
            ⟨phase.trans looping, socketClient⟩⟩
      | data low high =>
          refine ⟨.data inner (client.owner client.io.fd) quiet low high idle.1 ?_, fun looping =>
            ⟨phase.trans looping, socketClient⟩⟩
          rw [grown, emit, List.append_assoc]
          rfl

/-- Inner events are no calls, of `Send` or of the data handle, and refuse none. -/
theorem accounts_of_inner {inner : List ClientEvent} (quiet : ∀ event ∈ inner, IsInner event)
    (log : List ClientEvent) :
    sends (log ++ inner) = sends log ∧ handleCalls inner = [] ∧
      (accepted log = executions log → accepted (log ++ inner) = executions (log ++ inner)) := by
  induction inner generalizing log with
  | nil => exact ⟨by rw [List.append_nil], rfl, fun same => by rw [List.append_nil, same]⟩
  | cons event rest ih =>
      have here : sends (log ++ [event]) = sends log ∧ handleCalls [event] = [] ∧
          (accepted log = executions log →
            accepted (log ++ [event]) = executions (log ++ [event])) := by
        have silent := quiet event List.mem_cons_self
        rw [accepted_append, executions_append, sends_append]
        cases event with
        | opened | closed | written | executed =>
            simp +contextual [sends, handleCalls, executions, accept]
        | onConnected | onDisconnected | onRecvError | onSendError | onDataReceived | sent =>
            exact silent.elim
      obtain ⟨send, call, message⟩ :=
        ih (fun later member => quiet later (List.mem_cons_of_mem _ member)) (log ++ [event])
      rw [List.append_cons]
      refine ⟨send.trans here.1, ?_, fun same => message (here.2.2 same)⟩
      rw [handleCalls, ← List.singleton_append, List.filter_append]
      exact List.append_eq_nil_iff.mpr ⟨here.2.1, call⟩

/-- The accounts behind a step of a client that is not disturbed. -/
theorem Undisturbed.accounts (undisturbed : Undisturbed client data next) :
    sends next.log = sends client.log ∧
      (accepted client.log = executions client.log → accepted next.log = executions next.log) ∧
      (data = [] ∧ handleCalls (next.log.drop client.log.length) = [] ∨
        data ≠ [] ∧ client.phase = .looping ∧ data.length ≤ recvSize ∧
          ∃ source, handleCalls (next.log.drop client.log.length) =
            [.onDataReceived client.socketClient data source]) := by
  cases undisturbed with
  | silent inner quiet none grown =>
      obtain ⟨send, call, message⟩ := accounts_of_inner quiet client.log
      rw [grown, List.drop_left]
      exact ⟨send, message, Or.inl ⟨none, call⟩⟩
  | data inner source quiet low high looping grown =>
      obtain ⟨send, call, message⟩ := accounts_of_inner quiet
        (client.log ++ [.onDataReceived client.socketClient data source])
      have received : sends (client.log ++ [.onDataReceived client.socketClient data source]) =
          sends client.log := by
        rw [sends_append]
        exact List.append_nil _
      rw [← List.append_cons, ← grown] at send message
      refine ⟨send.trans received, fun same => message ?_,
        Or.inr ⟨List.ne_nil_of_length_pos low, looping, high, source, ?_⟩⟩
      · rw [accepted_append, executions_append, ← same]
        exact (List.append_nil _).symm
      · rw [grown, List.drop_left, handleCalls, ← List.singleton_append, List.filter_append]
        exact congrArg (List.cons _) call

end Step

end TcpClient

/-! ## The backend -/

/-- `CTcpProxyClient`, with the calls of its data handle still to be made and how far
its peer and `recv` have come. -/
structure TcpProxyClient where
  tcpClient : TcpClient
  contentManager : ContentManager
  calls : List ClientEvent
  echoed : ℕ
  received : ℕ

namespace TcpProxyClient

/-- `CTcpProxyClient`, before its thread has called `Start`. -/
def new : TcpProxyClient where
  tcpClient := TcpClient.new
  contentManager := ContentManager.new
  calls := []
  echoed := 0
  received := 0

/-- What the peer has sent back and `recv` has not returned. -/
def unread (proxyClient : TcpProxyClient) : Bytes :=
  (proxyClient.tcpClient.delivered.take proxyClient.echoed).drop proxyClient.received

/-- The loop thread is in no call of the data handle. -/
abbrev Idle (proxyClient : TcpProxyClient) : Prop :=
  proxyClient.calls = [] ∧ proxyClient.contentManager.adding = none

/-- Who takes a step of the client: its loop thread, or the rest of the process.  `Send`
is called by the pool. -/
def MayStep (proxyClient : TcpProxyClient) : TcpClient.Label → Prop
  | .send _ => False
  | .otherOpen _ => True
  | .otherClose _ => True
  | _ => proxyClient.Idle

instance (proxyClient : TcpProxyClient) :
    (label : TcpClient.Label) → Decidable (proxyClient.MayStep label)
  | .send _ => inferInstanceAs (Decidable False)
  | .otherOpen _ | .otherClose _ => inferInstanceAs (Decidable True)
  | .startAsync .. | .startNotify | .startConnect _ | .stop | .asyncDispatch | .asyncSwap
  | .asyncExec | .io _ _ _ _ _ => inferInstanceAs (Decidable (_ ∧ _))

/-- A step of the client; `recv` returns the next bytes the peer has sent back. -/
def clientStep (proxyClient : TcpProxyClient) (label : TcpClient.Label) : Option TcpProxyClient :=
  if proxyClient.MayStep label ∧ TcpClient.recvData label <+: proxyClient.unread then
    (proxyClient.tcpClient.step label).map fun next =>
      { proxyClient with
        tcpClient := next
        calls := proxyClient.calls ++
          TcpClient.handleCalls (next.log.drop proxyClient.tcpClient.log.length)
        received := proxyClient.received + (TcpClient.recvData label).length }
  else
    none

/-- `Send(pData, nDataLen)`. -/
def send (proxyClient : TcpProxyClient) (pData : Bytes) : TcpProxyClient :=
  { proxyClient with tcpClient := proxyClient.tcpClient.send pData }

/-- The functions of `CTcpClientDataHandle`, `OnDataReceived` up to the loop of `Add`. -/
def dataHandle (proxyClient : TcpProxyClient) : ClientEvent → TcpProxyClient
  | .onDataReceived sClient pData _ =>
      { proxyClient with contentManager := proxyClient.contentManager.add sClient pData }
  | .onDisconnected sClient _ =>
      { proxyClient with contentManager := proxyClient.contentManager.remove sClient }
  | .onSendError sClient _ _ =>
      { proxyClient with contentManager := proxyClient.contentManager.remove sClient }
  | .onRecvError sClient _ =>
      { proxyClient with contentManager := proxyClient.contentManager.remove sClient }
  | _ => proxyClient

/-- The next call of the data handle is made. -/
def handle (proxyClient : TcpProxyClient) : Option TcpProxyClient :=
  match proxyClient.calls with
  | [] => none
  | call :: rest =>
      if proxyClient.contentManager.adding = none then
        some ({ proxyClient with calls := rest }.dataHandle call)
      else
        none

/-- One evaluation of the loop of `Add`, and the arguments of the call of
`g_pTcpServer->Send` in it, if there is one. -/
def addPass (proxyClient : TcpProxyClient) :
    Option (TcpProxyClient × Option (SocketClientData × Bytes)) :=
  proxyClient.contentManager.addPass.map fun passed =>
    ({ proxyClient with contentManager := passed.1 },
      passed.2.bind fun call => ContentManager.clientHandlePkt call.1 call.2)

/-- The peer sends back some of the bytes it has read. -/
def echo (proxyClient : TcpProxyClient) (count : ℕ) : Option TcpProxyClient :=
  if proxyClient.echoed + count ≤ proxyClient.tcpClient.delivered.length then
    some { proxyClient with echoed := proxyClient.echoed + count }
  else
    none

/-- Everything that went in has come out: the queues are empty, `recv` has returned
everything that was written, and the data handle is through with it. -/
structure Through (proxyClient : TcpProxyClient) : Prop where
  functions : proxyClient.tcpClient.functions = []
  batch : proxyClient.tcpClient.batch = []
  writeQueue : proxyClient.tcpClient.writeQueue = []
  returned : proxyClient.received = proxyClient.tcpClient.delivered.length
  idle : proxyClient.Idle

/-! ## What goes in and what is still to come out -/

/-- The packets of a list of payloads with their keys. -/
abbrev packets (items : List (SocketClientData × Bytes)) : Bytes :=
  (items.map tagged).flatMap encodePkt

/-- The data of the calls of `OnDataReceived` still to be made. -/
def callData (calls : List ClientEvent) : Bytes :=
  calls.flatMap fun
    | .onDataReceived _ pData _ => pData
    | _ => []

/-- **The account of a backend**: `pushed` went in, and `queue` is still to come out. -/
structure Relays (proxyClient : TcpProxyClient) (pushed queue : List (SocketClientData × Bytes)) :
    Prop where
  attached : proxyClient.tcpClient.Attached
  conserved : proxyClient.tcpClient.Conserved
  /-- No call of `__Send` was refused. -/
  accepted : TcpClient.accepted proxyClient.tcpClient.log =
    TcpClient.executions proxyClient.tcpClient.log
  sent : TcpClient.sends proxyClient.tcpClient.log = (pushed.map tagged).map encodePkt
  /-- Outside its loop the client has received nothing. -/
  outside : proxyClient.tcpClient.phase ≠ .looping →
    proxyClient.contentManager = ContentManager.new ∧ proxyClient.calls = [] ∧
      proxyClient.received = 0
  calls : proxyClient.calls = [] ∨ proxyClient.contentManager.adding = none ∧
    ∃ pData source, pData.length ≤ recvSize ∧
      proxyClient.calls = [.onDataReceived proxyClient.tcpClient.socketClient pData source]
  adding : ∀ sClient, proxyClient.contentManager.adding = some sClient →
    sClient = proxyClient.tcpClient.socketClient
  received_le : proxyClient.received ≤ (packets pushed).length
  /-- What is in the buffer, what the data handle is to be called with and what `recv` has
  not returned are the packets still to come out. -/
  holds : proxyClient.contentManager.Holds proxyClient.tcpClient.socketClient
    (callData proxyClient.calls ++ (packets pushed).drop proxyClient.received) (queue.map tagged)

section Keep

variable {proxyClient next : TcpProxyClient} {pushed queue : List (SocketClientData × Bytes)}

theorem relays_new : new.Relays [] [] where
  attached := TcpClient.attached_new
  conserved := TcpClient.conserved_new
  accepted := rfl
  sent := rfl
  outside _ := ⟨rfl, rfl, rfl⟩
  calls := Or.inl rfl
  adding := nofun
  received_le := Nat.le_refl 0
  holds := ContentManager.holds_new _

/-- What was written on the connection is a front of what went in, and all of it when
the queues are empty. -/
theorem Relays.delivered (relays : proxyClient.Relays pushed queue) :
    proxyClient.tcpClient.delivered ++ (unsent proxyClient.tcpClient.writeQueue ++
      ((proxyClient.tcpClient.batch ++ proxyClient.tcpClient.functions).map
        OutputBuffer.getDataPos).flatten) = packets pushed := by
  rw [← List.append_assoc, relays.conserved.bytes, relays.accepted, ← List.flatten_append,
    relays.conserved.calls, relays.sent, packets, List.flatMap_def]

/-- `recv` returns the next bytes of the packets. -/
theorem Relays.unread (relays : proxyClient.Relays pushed queue) {pData : Bytes}
    (isPrefix : pData <+: proxyClient.unread) :
    pData ++ (packets pushed).drop (proxyClient.received + pData.length) =
        (packets pushed).drop proxyClient.received ∧
      proxyClient.received + pData.length ≤ (packets pushed).length := by
  have front : proxyClient.tcpClient.delivered.take proxyClient.echoed <+: packets pushed :=
    (List.take_prefix _ _).trans ⟨_, relays.delivered⟩
  obtain ⟨more, same⟩ := isPrefix.trans (front.drop proxyClient.received)
  have length := congrArg List.length same
  have bound := relays.received_le
  rw [List.length_append, List.length_drop] at length
  refine ⟨?_, by omega⟩
  rw [← List.drop_drop, ← same, List.drop_left]

/-- A step in which `recv` returns bytes is a step of the loop thread. -/
theorem MayStep.idle {label : TcpClient.Label} (may : proxyClient.MayStep label)
    (reads : TcpClient.recvData label ≠ []) : proxyClient.Idle := by
  cases label with
  | io => exact may
  | startAsync | startNotify | startConnect | stop | send | asyncDispatch | asyncSwap
  | asyncExec | otherOpen | otherClose => exact absurd rfl reads

/-- **A step of the client keeps the account**, if it is not disturbed. -/
theorem Relays.clientStep (relays : proxyClient.Relays pushed queue) {label : TcpClient.Label}
    (up : proxyClient.tcpClient.Up label) (room : proxyClient.tcpClient.HasRoom label)
    (taken : proxyClient.clientStep label = some next) : next.Relays pushed queue := by
  obtain ⟨⟨may, isPrefix⟩, taken⟩ := Option.ite_none_right_eq_some.mp taken
  obtain ⟨client, stepped, rfl⟩ := Option.map_eq_some_iff.mp taken
  have own : ∀ pData, label ≠ .send pData := by
    rintro pData rfl
    exact may
  have reconnected : proxyClient.tcpClient.Reconnected label := by
    cases label with
    | io => exact fun reconnects => absurd reconnects up
    | startAsync | startNotify | startConnect | stop | send | asyncDispatch | asyncSwap
    | asyncExec | otherOpen | otherClose => trivial
  obtain ⟨undisturbed, loops⟩ := TcpClient.undisturbed_of_step up room own stepped
  obtain ⟨sends, message, calls⟩ := undisturbed.accounts
  obtain ⟨same, bound⟩ := relays.unread isPrefix
  by_cases looping : proxyClient.tcpClient.phase = .looping
  · obtain ⟨looping', sameKey⟩ := loops looping
    have kept : callData (proxyClient.calls ++
        TcpClient.handleCalls (client.log.drop proxyClient.tcpClient.log.length)) ++
          (packets pushed).drop (proxyClient.received + (TcpClient.recvData label).length) =
        callData proxyClient.calls ++ (packets pushed).drop proxyClient.received := by
      rcases calls with ⟨none, silent⟩ | ⟨nonempty, -, -, source, called⟩
      · rw [silent, none, List.append_nil]
        rfl
      · rw [called, (may.idle nonempty).1, ← same]
        simp [callData]
    refine ⟨relays.attached.step reconnected stepped, relays.conserved.step relays.attached stepped,
      message relays.accepted, sends.trans relays.sent, fun outside => absurd looping' outside, ?_,
      ?_, bound, ?_⟩
    · dsimp only
      rw [sameKey]
      rcases calls with ⟨-, silent⟩ | ⟨nonempty, -, high, source, called⟩
      · rw [silent, List.append_nil]
        exact relays.calls
      · rw [called, (may.idle nonempty).1]
        exact Or.inr ⟨(may.idle nonempty).2, _, source, high, rfl⟩
    · intro sClient adding
      exact (relays.adding sClient adding).trans sameKey.symm
    · dsimp only
      rw [kept, sameKey]
      exact relays.holds
  · obtain ⟨fresh, noCalls, unread⟩ := relays.outside looping
    obtain ⟨none, silent⟩ := calls.resolve_right fun reads => looping reads.2.1
    have unchanged : proxyClient.calls ++
        TcpClient.handleCalls (client.log.drop proxyClient.tcpClient.log.length) = [] ∧
        proxyClient.received + (TcpClient.recvData label).length = 0 := by
      rw [silent, none, noCalls, unread]
      exact ⟨rfl, rfl⟩
    refine ⟨relays.attached.step reconnected stepped, relays.conserved.step relays.attached stepped,
      message relays.accepted, sends.trans relays.sent, fun _ => ⟨fresh, unchanged⟩,
      Or.inl unchanged.1, fun sClient adding => ?_, bound, ?_⟩
    · dsimp only at adding
      rw [fresh] at adding
      cases adding
    · have holds := relays.holds
      rw [noCalls, unread, fresh] at holds
      dsimp only
      rw [unchanged.1, unchanged.2, fresh]
      exact holds.of_same nofun (by simp)

/-- A call of `Send` puts one more packet in. -/
theorem Relays.send (relays : proxyClient.Relays pushed queue)
    (item : SocketClientData × Bytes) :
    (proxyClient.send (encodePkt (tagged item))).Relays (pushed ++ [item]) (queue ++ [item]) := by
  have sends : TcpClient.sends (proxyClient.tcpClient.send (encodePkt (tagged item))).log =
      TcpClient.sends proxyClient.tcpClient.log ++ [encodePkt (tagged item)] :=
    TcpClient.sends_append ..
  have longer : packets (pushed ++ [item]) = packets pushed ++ encodePkt (tagged item) := by
    simp [packets]
  refine ⟨?_, relays.conserved.submitted _, ?_, ?_, relays.outside, relays.calls, relays.adding,
    ?_, ?_⟩
  · exact relays.attached.of_same ⟨rfl, rfl, rfl, rfl, rfl, rfl⟩
  · show TcpClient.accepted (_ ++ [_]) = TcpClient.executions (_ ++ [_])
    rw [TcpClient.accepted_append, TcpClient.executions_append, ← relays.accepted]
    exact (List.append_nil _).symm
  · rw [TcpProxyClient.send, sends, relays.sent, List.map_append, List.map_append]
    rfl
  · rw [longer, List.length_append]
    exact Nat.le_trans relays.received_le (Nat.le_add_right ..)
  · have carries := relays.holds.carries
    refine ⟨?_, relays.holds.small, relays.holds.behind⟩
    unfold Carries at carries ⊢
    show _ ++ (_ ++ (packets (pushed ++ [item])).drop proxyClient.received) = _
    rw [longer, List.drop_append_of_le_length relays.received_le, List.map_append,
      List.flatMap_append, ← carries]
    simp only [List.map_cons, List.map_nil, List.flatMap_singleton, List.append_assoc]
    rfl

theorem sendable_tagged (forwardable : ∀ item ∈ queue, Forwardable item.2) :
    ∀ message ∈ queue.map tagged, Sendable message := by
  intro message member
  obtain ⟨item, here, rfl⟩ := List.mem_map.mp member
  exact (forwardable item here).tagged

/-- A call of the data handle brings a chunk to the content manager. -/
theorem Relays.handle (relays : proxyClient.Relays pushed queue)
    (forwardable : ∀ item ∈ queue, Forwardable item.2)
    (taken : proxyClient.handle = some next) : next.Relays pushed queue := by
  unfold TcpProxyClient.handle at taken
  split at taken
  · cases taken
  · next call rest due =>
      obtain ⟨idle, same⟩ := Option.ite_none_right_eq_some.mp taken
      obtain rfl := Option.some.inj same
      rcases relays.calls with none | ⟨-, pData, source, high, calls⟩
      · rw [none] at due
        cases due
      · rw [calls] at due
        obtain ⟨rfl, rfl⟩ := List.cons.inj due
        have holds := relays.holds
        have chunk : callData [.onDataReceived proxyClient.tcpClient.socketClient pData source] =
            pData := List.append_nil _
        rw [calls, chunk] at holds
        refine ⟨relays.attached, relays.conserved, relays.accepted, relays.sent,
          fun outside => ?_, Or.inl rfl, fun sClient adding => ?_, relays.received_le,
          holds.add (sendable_tagged forwardable) idle high⟩
        · have none := (relays.outside outside).2.1
          rw [calls] at none
          cases none
        · exact (Option.some.inj adding).symm

/-- **One evaluation of the loop of `Add`** ends it, or brings out the next packet. -/
theorem Relays.addPass (relays : proxyClient.Relays pushed queue)
    (forwardable : ∀ item ∈ queue, Forwardable item.2)
    {call : Option (SocketClientData × Bytes)} (taken : proxyClient.addPass = some (next, call)) :
    call = none ∧ next.Relays pushed queue ∨
      ∃ item rest, queue = item :: rest ∧ call = some (item.1, encodePkt item.2) ∧
        next.Relays pushed rest := by
  obtain ⟨⟨manager, called⟩, passes, same⟩ := Option.map_eq_some_iff.mp taken
  obtain ⟨rfl, rfl⟩ := Prod.mk.inj same
  obtain ⟨sClient, adding, -⟩ := ContentManager.addPass_frame passes
  obtain rfl := relays.adding sClient adding
  have calls : proxyClient.calls = [] :=
    relays.calls.resolve_right fun due => by
      rw [adding] at due
      cases due.1
  have inside : proxyClient.tcpClient.phase = .looping := by
    by_contra outside
    rw [(relays.outside outside).1] at adding
    cases adding
  rcases relays.holds.addPass (sendable_tagged forwardable) adding passes with
    ⟨rfl, idle, holds⟩ | ⟨message, rest, messages, rfl, adding', holds⟩
  · refine Or.inl ⟨rfl, relays.attached, relays.conserved, relays.accepted, relays.sent,
      fun outside => absurd inside outside, Or.inl calls, fun sClient adding' => ?_,
      relays.received_le, holds⟩
    dsimp only at adding'
    rw [idle] at adding'
    cases adding'
  · obtain ⟨item, queue', rfl, rfl, rfl⟩ := List.map_eq_cons_iff.mp messages
    have call := ContentManager.clientHandlePkt_tagged (forwardable item List.mem_cons_self)
      proxyClient.tcpClient.socketClient
    refine Or.inr ⟨item, queue', rfl, call, relays.attached, relays.conserved, relays.accepted,
      relays.sent, fun outside => absurd inside outside, Or.inl calls, fun sClient adding'' => ?_,
      relays.received_le, holds⟩
    exact (Option.some.inj (adding'.symm.trans adding'')).symm

/-- What the peer sends back changes nothing here. -/
theorem Relays.echo (relays : proxyClient.Relays pushed queue) {count : ℕ}
    (taken : proxyClient.echo count = some next) : next.Relays pushed queue := by
  obtain ⟨-, same⟩ := Option.ite_none_right_eq_some.mp taken
  obtain rfl := Option.some.inj same
  exact { relays with }

/-- When a backend is through, nothing is still to come out. -/
theorem Relays.eq_nil (relays : proxyClient.Relays pushed queue)
    (forwardable : ∀ item ∈ queue, Forwardable item.2) (through : proxyClient.Through) :
    queue = [] := by
  have delivered := relays.delivered
  rw [through.functions, through.batch, through.writeQueue] at delivered
  have all : proxyClient.received = (packets pushed).length := by
    rw [through.returned, ← delivered]
    simp
  have holds := relays.holds
  rw [through.idle.1, all, List.drop_length] at holds
  exact List.map_eq_nil_iff.mp (holds.eq_nil (sendable_tagged forwardable) through.idle.2)

end Keep

end TcpProxyClient

end ServerLib
