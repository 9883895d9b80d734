import ServerLib.TcpProxy

/-!
# What the proxy passes back

`passed_prefix` is the result of the account of TcpProxy.lean: what the proxy passes back
to a client is a front of what the client sent, and all of it when everything was
processed.  It holds for every run in which the connections stay up and no call of
`__Send` finds its write queue longer than `WRITE_QUEUE_MAX_SIZE`.

The second condition is there because of what the client does otherwise.  `__Send`
drops the buffer it was given and reports `OnSendError`.  In the run of `lost_packet`
nothing else happens: everything was processed, and a packet is missing.

And the data handle removes what it has of the backend's stream.  But the connection is
still up, and its stream goes on: the next bytes are taken for the length of a packet and
the key of a client, where in truth they are the middle of a payload.  `fabricated_packet`
is a run in which a client writes this length and this key into its own payload, and the
proxy passes the rest of it to a client that has never sent anything.
-/

namespace ServerLib

open Transition FifoPool

namespace TcpProxy

/-- The conditions on a run. -/
abbrev Undropped (proxy : TcpProxy) (label : Label) : Prop :=
  proxy.StaysUp label ∧ proxy.HasRoom label

/-- **The proxy brings every packet back to the client that sent it.**  In every run of
any number of clients, with any sizes of chunks and in any order of the threads, a client
is passed a front of its own packets, in order and unchanged, all of them once everything
was processed, and no client is passed anything else. -/
theorem passed_prefix (concurrency : Int32) (payloads : SocketClientData → List Bytes)
    (forwardable : ∀ sClient, ∀ payload ∈ payloads sClient, Forwardable payload)
    (labels : List Label) {last : TcpProxy}
    (runs : run step (new concurrency payloads) labels = some last)
    (undropped : Along step Undropped (new concurrency payloads) labels) :
    (∀ sClient, last.passedTo sClient <+: (payloads sClient).map encodePkt) ∧
      (last.Processed → ∀ sClient, last.passedTo sClient = (payloads sClient).map encodePkt) ∧
      ∀ call ∈ last.passed, call.2 ∈ (payloads call.1).map encodePkt := by
  have represents : ∃ pool, last.Represents payloads pool :=
    run_invariant_along (I := fun proxy => ∃ pool, proxy.Represents payloads pool)
      (fun _ _ _ ⟨_, represents⟩ met taken =>
        represents_step represents forwardable met.1 met.2 taken)
      labels ⟨Pool.empty, represents_new concurrency⟩ undropped runs
  obtain ⟨pool, represents⟩ := represents
  refine ⟨represents.passedTo_prefix, represents.passedTo_all forwardable, fun call member => ?_⟩
  have mine : call.2 ∈ last.passedTo call.1 :=
    List.mem_map.mpr ⟨call, List.mem_filter.mpr ⟨member, decide_eq_true rfl⟩, rfl⟩
  exact (represents.passedTo_prefix call.1).subset mine

/-- The clients of the runs below; with one backend they share it. -/
def firstClient : SocketClientData := ⟨1, 2, 3⟩

/-- See `firstClient`. -/
def secondClient : SocketClientData := ⟨1, 2, 4⟩

/-- One packet of each client. -/
def onePacketEach (sClient : SocketClientData) : List Bytes :=
  if sClient = firstClient then [[7]] else if sClient = secondClient then [[8, 9]] else []

/-- The stream of the first client is read in two chunks, with the packet of the second
between them, and what the backend has written comes back in two chunks as well. -/
def thereAndBack : List Label :=
  [.received firstClient [1, 0, 0], .serverPass,
    .received secondClient (encodePkt [8, 9]), .serverPass, .serverPass,
    .received firstClient [0, 7], .serverPass, .serverPass,
    .client 0 (.startAsync 5 6), .client 0 .startNotify, .client 0 (.startConnect 8),
    .client 0 .asyncDispatch, .client 0 .asyncSwap, .client 0 .asyncExec, .client 0 .asyncExec,
    .client 0 (.io ⟨false, false, true⟩ .again (.wrote 16) 0 0),
    .client 0 (.io ⟨false, false, true⟩ .again (.wrote 15) 0 0), .echo 0 31,
    .client 0 (.io ⟨false, true, false⟩ (.data (([(secondClient, [8, 9]), (firstClient, [7])].map
      tagged).flatMap encodePkt |>.take 20)) .again 0 0),
    .handle 0, .clientPass 0, .clientPass 0,
    .client 0 (.io ⟨false, true, false⟩ (.data (([(secondClient, [8, 9]), (firstClient, [7])].map
      tagged).flatMap encodePkt |>.drop 20)) .again 0 0),
    .handle 0, .clientPass 0, .clientPass 0]

theorem forwardable_onePacketEach : ∀ sClient, ∀ payload ∈ onePacketEach sClient,
    Forwardable payload := by
  intro sClient payload member
  unfold onePacketEach at member
  split at member
  · rw [List.mem_singleton.mp member]
    decide
  · split at member
    · rw [List.mem_singleton.mp member]
      decide
    · cases member

theorem passed_onePacketEach :
    ∃ last, run step (new 1 onePacketEach) thereAndBack = some last ∧
      last.passed = [(secondClient, encodePkt [8, 9]), (firstClient, encodePkt [7])] ∧
      ((∀ sClient, last.passedTo sClient <+: (onePacketEach sClient).map encodePkt) ∧
        (last.Processed → ∀ sClient,
          last.passedTo sClient = (onePacketEach sClient).map encodePkt) ∧
        ∀ call ∈ last.passed, call.2 ∈ (onePacketEach call.1).map encodePkt) := by
  have passed : (run step (new 1 onePacketEach) thereAndBack).any (fun last => last.passed =
      [(secondClient, encodePkt [8, 9]), (firstClient, encodePkt [7])]) = true := by
    decide +kernel
  obtain ⟨last, runs, passed⟩ := (Option.any_eq_true ..).mp passed
  exact ⟨last, runs, of_decide_eq_true passed, passed_prefix 1 onePacketEach
    forwardable_onePacketEach thereAndBack runs (by decide +kernel)⟩

end TcpProxy

/-! ## A backend whose write queue fills up -/

namespace TcpClient

/-- What happens while nothing is written leaves what was written as it is. -/
theorem delivered_of_log {client next : TcpClient} {events : List ClientEvent}
    (made : next.nextSocket = client.nextSocket) (log : next.log = client.log ++ events)
    (silent : ∀ number, writtenOn number events = []) : next.delivered = client.delivered := by
  rw [delivered, made, log]
  refine List.flatMap_congr fun number _ => ?_
  rw [writtenOn_append, silent, List.append_nil]

/-- The first socket is the only one. -/
theorem delivered_of_one {client : TcpClient} (made : client.nextSocket = 1) :
    client.delivered = writtenOn 0 client.log := by
  rw [delivered, made, List.range_one, List.flatMap_singleton]

/-- A callback in which `recv` returns data does not reconnect. -/
theorem up_data (client : TcpClient) (pData : Bytes) :
    client.Up (.io ⟨false, true, false⟩ (.data pData) .again 0 0) := by
  rintro (error | ⟨-, ends⟩ | ⟨writes, -⟩)
  · cases error
  · cases ends
  · cases writes

/-- Nor does one in which `write` takes bytes. -/
theorem up_wrote (client : TcpClient) (count : ℕ) :
    client.Up (.io ⟨false, false, true⟩ .again (.wrote count) 0 0) := by
  rintro (error | ⟨reads, -⟩ | ⟨-, -, fails⟩)
  · cases error
  · cases reads
  · cases fails

/-- A watcher that is set to `EV_READ` is told of it. -/
theorem reported_set {io : IoWatcher} (active : io.active = true) {events : Interest}
    (reads : events.read = true) : Reported (io.set events) ⟨false, true, false⟩ :=
  ⟨active, Or.inr ⟨fun _ => reads, nofun⟩⟩

end TcpClient

namespace TcpProxyClient

/-- The client is up, on its first socket and in no callback.  The peer has sent back all
that was written, and `recv` can return `rest` of it.  So many functions have been
submitted, so many are in the batch, and so many buffers are in the write queue, each with
the bytes `pData`. -/
structure Waiting (proxyClient : TcpProxyClient) (rest pData : Bytes)
    (functions batch queued : ℕ) : Prop where
  echoed : proxyClient.echoed = proxyClient.tcpClient.delivered.length
  received_le : proxyClient.received ≤ proxyClient.tcpClient.delivered.length
  unread : proxyClient.tcpClient.delivered.drop proxyClient.received = rest
  idle : proxyClient.Idle
  looping : proxyClient.tcpClient.phase = .looping
  made : proxyClient.tcpClient.nextSocket = 1
  owner : proxyClient.tcpClient.owner proxyClient.tcpClient.io.fd = some (.socket 0)
  reading : Reported proxyClient.tcpClient.io ⟨false, true, false⟩
  writing : 0 < queued → Reported proxyClient.tcpClient.io ⟨false, false, true⟩
  active : proxyClient.tcpClient.async.active = true
  notified : 0 < functions → proxyClient.tcpClient.async.sent = true
  functions : proxyClient.tcpClient.functions = List.replicate functions (.new pData)
  batch : proxyClient.tcpClient.batch = List.replicate batch (.new pData)
  queued : proxyClient.tcpClient.writeQueue = List.replicate queued (.new pData)

instance (proxyClient : TcpProxyClient) (rest pData : Bytes) (functions batch queued : ℕ) :
    Decidable (proxyClient.Waiting rest pData functions batch queued) :=
  decidable_of_iff
    ((proxyClient.echoed = proxyClient.tcpClient.delivered.length ∧
        proxyClient.received ≤ proxyClient.tcpClient.delivered.length ∧
        proxyClient.tcpClient.delivered.drop proxyClient.received = rest) ∧
      (proxyClient.Idle ∧ proxyClient.tcpClient.phase = .looping ∧
        proxyClient.tcpClient.nextSocket = 1 ∧
        proxyClient.tcpClient.owner proxyClient.tcpClient.io.fd = some (.socket 0)) ∧
      (Reported proxyClient.tcpClient.io ⟨false, true, false⟩ ∧
        (0 < queued → Reported proxyClient.tcpClient.io ⟨false, false, true⟩) ∧
        proxyClient.tcpClient.async.active = true ∧
        (0 < functions → proxyClient.tcpClient.async.sent = true)) ∧
      proxyClient.tcpClient.functions = List.replicate functions (.new pData) ∧
        proxyClient.tcpClient.batch = List.replicate batch (.new pData) ∧
        proxyClient.tcpClient.writeQueue = List.replicate queued (.new pData))
    ⟨fun ⟨⟨echoed, received_le, unread⟩, ⟨idle, looping, made, owner⟩,
        ⟨reading, writing, active, notified⟩, functions, batch, queued⟩ =>
      ⟨echoed, received_le, unread, idle, looping, made, owner, reading, writing, active,
        notified, functions, batch, queued⟩,
      fun waiting => ⟨⟨waiting.echoed, waiting.received_le, waiting.unread⟩,
        ⟨waiting.idle, waiting.looping, waiting.made, waiting.owner⟩,
        ⟨waiting.reading, waiting.writing, waiting.active, waiting.notified⟩,
        waiting.functions, waiting.batch, waiting.queued⟩⟩

section Fill

variable {proxyClient : TcpProxyClient} {rest pData : Bytes} {functions batch queued : ℕ}

theorem Waiting.opened (waiting : proxyClient.Waiting rest pData functions batch queued) :
    proxyClient.tcpClient.Opened := by
  rw [TcpClient.Opened, waiting.owner]
  rfl

/-- `recv` can return what the peer has sent back. -/
theorem Waiting.unread_eq (waiting : proxyClient.Waiting rest pData functions batch queued) :
    proxyClient.unread = rest := by
  rw [TcpProxyClient.unread, waiting.echoed, List.take_length, waiting.unread]

theorem Waiting.send (waiting : proxyClient.Waiting rest pData functions batch queued) :
    (proxyClient.send pData).Waiting rest pData (functions + 1) batch queued := by
  have delivered : (proxyClient.send pData).tcpClient.delivered =
      proxyClient.tcpClient.delivered :=
    TcpClient.delivered_of_log rfl rfl fun _ => rfl
  refine ⟨?_, ?_, ?_, waiting.idle, waiting.looping, waiting.made, waiting.owner,
    waiting.reading, waiting.writing, waiting.active, fun _ => rfl, ?_, waiting.batch,
    waiting.queued⟩
  · rw [delivered]
    exact waiting.echoed
  · rw [delivered]
    exact waiting.received_le
  · rw [delivered]
    exact waiting.unread
  · show _ ++ [OutputBuffer.new pData] = _
    rw [waiting.functions, List.replicate_succ']

/-- A step in which nothing is received and the data handle is not called. -/
theorem clientStep_of_silent {label : TcpClient.Label} {next : TcpClient}
    {events : List ClientEvent} (idle : proxyClient.Idle) (may : proxyClient.MayStep label)
    (nothing : TcpClient.recvData label = [])
    (taken : proxyClient.tcpClient.step label = some next)
    (log : next.log = proxyClient.tcpClient.log ++ events)
    (silent : TcpClient.handleCalls events = []) :
    proxyClient.clientStep label = some { proxyClient with tcpClient := next } := by
  rw [clientStep, nothing, if_pos ⟨may, List.nil_prefix⟩, taken, Option.map_some, log,
    List.drop_left, silent, idle.1]
  rfl

/-- `__AsyncCallback` takes the functions that were submitted. -/
theorem Waiting.swap (waiting : proxyClient.Waiting rest pData (functions + 1) 0 queued) :
    ∃ middle next, proxyClient.clientStep .asyncDispatch = some middle ∧
      middle.clientStep .asyncSwap = some next ∧
      next.Waiting rest pData 0 (functions + 1) queued := by
  have dispatches := TcpClient.step_asyncDispatch ⟨waiting.looping, waiting.batch⟩
    waiting.active (waiting.notified (Nat.succ_pos _))
  have swaps : proxyClient.tcpClient.dispatched.step .asyncSwap =
      some proxyClient.tcpClient.dispatched.swapped :=
    TcpClient.step_asyncSwap ⟨waiting.looping, waiting.batch⟩ rfl
  refine ⟨_, _,
    clientStep_of_silent waiting.idle waiting.idle rfl dispatches (List.append_nil _).symm rfl,
    clientStep_of_silent waiting.idle waiting.idle rfl swaps (List.append_nil _).symm rfl, ?_⟩
  exact ⟨waiting.echoed, waiting.received_le, waiting.unread, waiting.idle, waiting.looping,
    waiting.made, waiting.owner, waiting.reading, waiting.writing, waiting.active, nofun, rfl,
    waiting.functions, waiting.queued⟩

/-- A function finds the write queue short enough, and pushes its buffer. -/
theorem Waiting.exec (waiting : proxyClient.Waiting rest pData functions (batch + 1) queued)
    (short : queued ≤ writeQueueMaxSize) :
    ∃ next, proxyClient.clientStep .asyncExec = some next ∧
      next.Waiting rest pData functions batch (queued + 1) := by
  have due : proxyClient.tcpClient.batch = .new pData :: List.replicate batch (.new pData) :=
    waiting.batch
  have length : proxyClient.tcpClient.writeQueue.length ≤ writeQueueMaxSize := by
    rwa [waiting.queued, List.length_replicate]
  let client :=
    { proxyClient.tcpClient.popped (.new pData) (List.replicate batch (.new pData)) with
      writeQueue := proxyClient.tcpClient.writeQueue ++ [OutputBuffer.new pData]
      io := proxyClient.tcpClient.io.set Interest.readWrite }
  have pushes : proxyClient.tcpClient.step .asyncExec = some client :=
    TcpClient.step_pushed due length
  have log : client.log = proxyClient.tcpClient.log ++ [.executed pData] := rfl
  have delivered : client.delivered = proxyClient.tcpClient.delivered :=
    TcpClient.delivered_of_log rfl log fun _ => rfl
  refine ⟨_, clientStep_of_silent waiting.idle waiting.idle rfl pushes log rfl, ?_, ?_, ?_,
    waiting.idle, waiting.looping, waiting.made, waiting.owner, ?_, fun _ => ?_, waiting.active,
    waiting.notified, waiting.functions, rfl, ?_⟩
  · exact waiting.echoed.trans (congrArg List.length delivered.symm)
  · exact waiting.received_le.trans_eq (congrArg List.length delivered.symm)
  · exact (congrArg _ delivered).trans waiting.unread
  · exact TcpClient.reported_set waiting.reading.1 rfl
  · exact ⟨waiting.reading.1, Or.inr ⟨nofun, fun _ => rfl⟩⟩
  · show _ ++ [OutputBuffer.new pData] = _
    rw [waiting.queued, List.replicate_succ']

/-- **A function finds the write queue too long.**  Its buffer is dropped, and with it
what the data handle had of the stream; the stream goes on. -/
theorem Waiting.refused (waiting : proxyClient.Waiting rest pData functions (batch + 1) queued)
    (long : writeQueueMaxSize < queued) :
    ∃ middle next, proxyClient.clientStep .asyncExec = some middle ∧ middle.handle = some next ∧
      next.Waiting rest pData functions batch queued ∧
      next.contentManager.requestOf next.tcpClient.socketClient = [] := by
  have due : proxyClient.tcpClient.batch = .new pData :: List.replicate batch (.new pData) :=
    waiting.batch
  have length : writeQueueMaxSize < proxyClient.tcpClient.writeQueue.length := by
    rwa [waiting.queued, List.length_replicate]
  let call : ClientEvent := .onSendError proxyClient.tcpClient.socketClient 0 (some pData)
  let client :=
    (proxyClient.tcpClient.popped (.new pData) (List.replicate batch (.new pData))).emit call
  have refuses : proxyClient.tcpClient.step .asyncExec = some client :=
    TcpClient.step_refused due length
  have log : client.log = proxyClient.tcpClient.log ++ [.executed pData, call] :=
    List.append_assoc ..
  have delivered : client.delivered = proxyClient.tcpClient.delivered :=
    TcpClient.delivered_of_log rfl log fun _ => rfl
  have stepped : proxyClient.clientStep .asyncExec =
      some { proxyClient with tcpClient := client, calls := [call] } := by
    rw [clientStep, if_pos ⟨waiting.idle, List.nil_prefix⟩, refuses, Option.map_some, log,
      List.drop_left, waiting.idle.1]
    rfl
  refine ⟨_, _, stepped, if_pos waiting.idle.2, ⟨?_, ?_, ?_, ⟨rfl, waiting.idle.2⟩,
    waiting.looping, waiting.made, waiting.owner, waiting.reading, waiting.writing,
    waiting.active, waiting.notified, waiting.functions, rfl, waiting.queued⟩, ?_⟩
  · exact waiting.echoed.trans (congrArg List.length delivered.symm)
  · exact waiting.received_le.trans_eq (congrArg List.length delivered.symm)
  · exact (congrArg _ delivered).trans waiting.unread
  · exact (ContentManager.requestOf_remove ..).trans (if_pos rfl)

/-- The first buffer of the write queue is written, and the peer sends it back. -/
theorem Waiting.write (waiting : proxyClient.Waiting rest pData functions 0 (queued + 1)) :
    ∃ middle next, proxyClient.clientStep
        (.io ⟨false, false, true⟩ .again (.wrote pData.length) 0 0) = some middle ∧
      middle.echo pData.length = some next ∧
      next.Waiting (rest ++ pData) pData functions 0 queued ∧
      next.contentManager = proxyClient.contentManager ∧
      next.tcpClient.socketClient = proxyClient.tcpClient.socketClient := by
  have due : proxyClient.tcpClient.writeQueue =
      .new pData :: List.replicate queued (.new pData) := waiting.queued
  have fits : pData.length ≤ (OutputBuffer.new pData).getBytes := Nat.le_refl _
  have all : advanceQueue (.new pData) pData.length fits (List.replicate queued (.new pData)) =
      List.replicate queued (.new pData) := if_pos (by simp [OutputBuffer.advance,
        OutputBuffer.getBytes])
  let client := proxyClient.tcpClient.advanced (.new pData)
    (List.replicate queued (.new pData)) pData.length fits
  have writes : proxyClient.tcpClient.step
      (.io ⟨false, false, true⟩ .again (.wrote pData.length) 0 0) = some client :=
    TcpClient.step_wrote ⟨waiting.looping, waiting.batch⟩ (waiting.writing (Nat.succ_pos _))
      waiting.opened due fits
  have log : client.log = proxyClient.tcpClient.log ++ [.written pData (some (.socket 0))] := by
    show _ ++ [ClientEvent.written (List.take pData.length pData) _] = _
    rw [List.take_length, waiting.owner]
  have made : client.nextSocket = 1 := waiting.made
  have delivered : client.delivered = proxyClient.tcpClient.delivered ++ pData := by
    rw [TcpClient.delivered_of_one waiting.made, TcpClient.delivered_of_one made, log,
      TcpClient.writtenOn_append]
    exact congrArg _ (List.append_nil pData)
  have length : client.delivered.length =
      proxyClient.tcpClient.delivered.length + pData.length := by
    rw [delivered, List.length_append]
  have echoes : proxyClient.echoed + pData.length = client.delivered.length := by
    rw [length, waiting.echoed]
  have queue : client.writeQueue = List.replicate queued (.new pData) := all
  have io : client.io = if client.writeQueue = [] then
      proxyClient.tcpClient.io.set Interest.readOnly else proxyClient.tcpClient.io := rfl
  refine ⟨_, _, clientStep_of_silent waiting.idle waiting.idle rfl writes log rfl,
    if_pos echoes.le, ⟨echoes, ?_, ?_, waiting.idle, waiting.looping, waiting.made, ?_, ?_,
      fun more => ?_, waiting.active, waiting.notified, waiting.functions, waiting.batch,
      queue⟩, rfl, rfl⟩
  · show proxyClient.received ≤ client.delivered.length
    rw [length]
    exact Nat.le_add_right_of_le waiting.received_le
  · show client.delivered.drop proxyClient.received = _
    rw [delivered, List.drop_append_of_le_length waiting.received_le, waiting.unread]
  · show proxyClient.tcpClient.owner client.io.fd = _
    rw [io]
    split <;> exact waiting.owner
  · show Reported client.io _
    rw [io]
    split
    · exact TcpClient.reported_set waiting.reading.1 rfl
    · exact waiting.reading
  · show Reported client.io _
    rw [io, if_neg]
    · exact waiting.writing (Nat.succ_pos _)
    · rw [queue, List.replicate_eq_nil_iff]
      exact more.ne'

/-- The client reads what its peer has sent back, and the data handle takes it; behind the
loop of `Add` it waits again. -/
theorem Waiting.read (waiting : proxyClient.Waiting rest pData functions 0 queued)
    (low : 1 ≤ rest.length) (high : rest.length ≤ recvSize) :
    ∃ middle next,
      proxyClient.clientStep (.io ⟨false, true, false⟩ (.data rest) .again 0 0) = some middle ∧
        middle.handle = some next ∧
        next.contentManager =
          proxyClient.contentManager.add proxyClient.tcpClient.socketClient rest ∧
        next.tcpClient.socketClient = proxyClient.tcpClient.socketClient ∧
        ∀ manager : ContentManager, manager.adding = none →
          { next with contentManager := manager }.Waiting [] pData functions 0 queued := by
  have front : rest <+: proxyClient.unread := by
    rw [waiting.unread_eq]
  have reads := TcpClient.step_data ⟨waiting.looping, waiting.batch⟩ waiting.reading
    waiting.opened low high
  let call : ClientEvent := .onDataReceived proxyClient.tcpClient.socketClient rest
    (proxyClient.tcpClient.owner proxyClient.tcpClient.io.fd)
  have delivered : (proxyClient.tcpClient.emit call).delivered =
      proxyClient.tcpClient.delivered :=
    TcpClient.delivered_of_log rfl rfl fun _ => rfl
  have stepped : proxyClient.clientStep (.io ⟨false, true, false⟩ (.data rest) .again 0 0) =
      some { proxyClient with
        tcpClient := proxyClient.tcpClient.emit call
        calls := [call]
        received := proxyClient.received + rest.length } := by
    rw [clientStep, if_pos ⟨waiting.idle, front⟩, reads, Option.map_some, TcpClient.emit,
      List.drop_left, waiting.idle.1]
    rfl
  have all : proxyClient.received + rest.length = proxyClient.tcpClient.delivered.length := by
    rw [← waiting.unread, List.length_drop]
    exact Nat.add_sub_cancel' waiting.received_le
  refine ⟨_, _, stepped, if_pos waiting.idle.2, rfl, rfl, fun manager adding =>
    ⟨?_, ?_, ?_, ⟨rfl, adding⟩, waiting.looping, waiting.made, waiting.owner, waiting.reading,
      waiting.writing, waiting.active, waiting.notified, waiting.functions, waiting.batch,
      waiting.queued⟩⟩
  · exact waiting.echoed.trans (congrArg List.length delivered.symm)
  · exact (all.trans (congrArg List.length delivered.symm)).le
  · show (proxyClient.tcpClient.emit call).delivered.drop (proxyClient.received + rest.length) = []
    rw [delivered, all, List.drop_length]

/-- A backend whose buffer starts with a packet passes it on, whoever has written it. -/
theorem addPass_of_encodePkt {item : SocketClientData × Bytes} {sClient : SocketClientData}
    (forwardable : Forwardable item.2)
    (adding : proxyClient.contentManager.adding = some sClient)
    (request : proxyClient.contentManager.requestOf sClient = encodePkt (tagged item)) :
    proxyClient.addPass = some ({ proxyClient with contentManager :=
        ⟨proxyClient.contentManager.userRequests.insert sClient [], some sClient⟩ },
      some (item.1, encodePkt item.2)) := by
  have sendable := forwardable.tagged
  have small : (encodePkt (tagged item) ++ []).length < 2147483648 := by
    have high := sendable.2
    unfold maxPayload at high
    rw [List.append_nil, encodePkt, List.length_append, length_intBytes]
    omega
  rw [← List.append_nil (encodePkt (tagged item))] at request
  have passes := ContentManager.addPass_of_encodePkt adding request sendable small
  rw [addPass, passes, Option.map_some, Option.bind_some,
    ContentManager.clientHandlePkt_tagged forwardable]

/-- The loop of `Add` ends where the buffer is empty. -/
theorem addPass_of_nil {sClient : SocketClientData}
    (adding : proxyClient.contentManager.adding = some sClient)
    (request : proxyClient.contentManager.requestOf sClient = []) :
    proxyClient.addPass = some ({ proxyClient with contentManager :=
      { proxyClient.contentManager with adding := none } }, none) := by
  rw [addPass, ContentManager.addPass_of_nil adding request]
  rfl

end Fill

end TcpProxyClient

/-! ## A refused packet -/

namespace TcpProxy

/-- A packet of the first client, the way a backend is sent it. -/
def forwarded : Bytes := encodePkt (tagged (firstClient, [7]))

/-- One more packet of the first client. -/
def onePacket : List Label := [.received firstClient (encodePkt [7]), .serverPass, .serverPass]

/-- So many packets of the first client that the write queue is full, and one is left to be
pushed. -/
def filling : List Label :=
  (List.replicate (writeQueueMaxSize + 2) onePacket).flatten ++
    [.client 0 .asyncDispatch, .client 0 .asyncSwap] ++
    (List.replicate (writeQueueMaxSize + 1) [.client 0 .asyncExec]).flatten

/-- The backend is called with the last one, and tells the data handle. -/
def refusing : List Label := [.client 0 .asyncExec, .handle 0]

/-- The first client has so many packets left to be read, and so many are in the backend,
which is about to read `rest`. -/
structure Filling (proxy : TcpProxy) (rest : Bytes) (frames functions batch queued : ℕ) :
    Prop where
  concurrency : proxy.concurrency = 1
  served : proxy.contentManager.adding = none
  waits : proxy.contentManager.requestOf firstClient = []
  unread : proxy.unread firstClient = (List.replicate frames [7]).flatMap encodePkt
  others : ∀ sClient, sClient ≠ firstClient → proxy.unread sClient = []
  passed : proxy.passed = []
  backend : (proxy.proxyClients 0).Waiting rest forwarded functions batch queued

section Run

variable {proxy : TcpProxy} {rest : Bytes} {frames functions batch queued : ℕ}

@[simp] theorem proxyClients_setClient (proxy : TcpProxy) (i : ℕ) (proxyClient : TcpProxyClient) :
    (proxy.setClient i proxyClient).proxyClients i = proxyClient :=
  Function.update_self ..

@[simp] theorem setClient_setClient (proxy : TcpProxy) (i : ℕ)
    (proxyClient proxyClient' : TcpProxyClient) :
    (proxy.setClient i proxyClient).setClient i proxyClient' = proxy.setClient i proxyClient' :=
  congrArg (fun proxyClients => { proxy with proxyClients := proxyClients })
    (Function.update_idem ..)

/-- One more packet goes to the backend. -/
theorem Filling.onePacket (filling : proxy.Filling rest (frames + 1) functions batch queued) :
    ∃ next, Leads step StaysUp proxy onePacket next ∧
      next.Filling rest frames (functions + 1) batch queued := by
  have stream : proxy.unread firstClient =
      encodePkt [7] ++ (List.replicate frames [7]).flatMap encodePkt := by
    rw [filling.unread, List.replicate_succ, List.flatMap_cons]
  let manager := proxy.contentManager.add firstClient (encodePkt [7])
  let manager' : ContentManager := ⟨manager.userRequests.insert firstClient [], some firstClient⟩
  let arrived : TcpProxy := { proxy with
    contentManager := manager
    unread := Function.update proxy.unread firstClient
      ((proxy.unread firstClient).drop (encodePkt [7]).length) }
  let sent : TcpProxy := { arrived with contentManager := manager' }.setClient 0
    ((proxy.proxyClients 0).send (ContentManager.serverHandlePkt firstClient [7]))
  have arrives : proxy.step (.received firstClient (encodePkt [7])) = some arrived :=
    if_pos ⟨filling.served, by decide, by decide, _, stream.symm⟩
  have request : manager.requestOf firstClient = encodePkt [7] ++ [] := by
    rw [ContentManager.requestOf_add, if_pos rfl, filling.waits]
    rfl
  have sends : arrived.step .serverPass = some sent := by
    have adding : manager.adding = some firstClient := rfl
    have passes := ContentManager.addPass_of_encodePkt adding request (by decide) (by decide)
    have here : index proxy.concurrency firstClient = some 0 := by
      rw [filling.concurrency]
      decide
    show arrived.serverPass = _
    rw [serverPass, show arrived.contentManager = manager from rfl, passes, Option.bind_some]
    show (index proxy.concurrency firstClient).map _ = _
    rw [here]
    rfl
  have empty : manager'.requestOf firstClient = [] :=
    (ContentManager.requestOf_insert ..).trans (if_pos rfl)
  have ends : sent.step .serverPass =
      some { sent with contentManager := { manager' with adding := none } } := by
    have adding : manager'.adding = some firstClient := rfl
    have passes := ContentManager.addPass_of_nil adding empty
    show sent.serverPass = _
    rw [serverPass, show sent.contentManager = manager' from rfl, passes]
    rfl
  have left : arrived.unread firstClient = (List.replicate frames [7]).flatMap encodePkt := by
    show Function.update proxy.unread firstClient
      ((proxy.unread firstClient).drop (encodePkt [7]).length) firstClient = _
    rw [Function.update_self, stream, List.drop_left]
  have others : ∀ sClient, sClient ≠ firstClient → arrived.unread sClient = [] :=
    fun sClient apart => (Function.update_of_ne apart ..).trans (filling.others sClient apart)
  have backend : (sent.proxyClients 0).Waiting rest forwarded (functions + 1) batch queued := by
    rw [show sent.proxyClients 0 = _ from proxyClients_setClient ..,
      ContentManager.serverHandlePkt_eq]
    exact filling.backend.send
  exact ⟨_, .cons arrives trivial (.cons sends trivial (.cons ends trivial (.nil _))),
    filling.concurrency, rfl, empty, left, others, filling.passed, backend⟩

theorem unread_of_received {sClient : SocketClientData} {pData : Bytes} {next : TcpProxy}
    (taken : proxy.received sClient pData = some next) :
    next.unread = Function.update proxy.unread sClient
      ((proxy.unread sClient).drop pData.length) := by
  obtain ⟨-, same⟩ := Option.ite_none_right_eq_some.mp taken
  obtain rfl := Option.some.inj same
  rfl

/-- Only the thread of the server reads the streams of the clients. -/
theorem unread_of_step {label : Label} {next : TcpProxy}
    (other : ∀ sClient pData, label ≠ .received sClient pData)
    (taken : proxy.step label = some next) : next.unread = proxy.unread := by
  cases label with
  | received sClient pData => exact absurd rfl (other sClient pData)
  | disconnected =>
      obtain ⟨-, same⟩ := Option.ite_none_right_eq_some.mp taken
      obtain rfl := Option.some.inj same
      rfl
  | serverPass =>
      obtain ⟨⟨manager, called⟩, -, taken⟩ := Option.bind_eq_some_iff.mp taken
      cases called with
      | none =>
          obtain rfl := Option.some.inj taken
          rfl
      | some call =>
          obtain ⟨i, -, rfl⟩ := Option.map_eq_some_iff.mp taken
          rfl
  | client | handle | echo =>
      obtain ⟨proxyClient, -, rfl⟩ := Option.map_eq_some_iff.mp taken
      rfl
  | clientPass =>
      obtain ⟨⟨proxyClient, call⟩, -, same⟩ := Option.map_eq_some_iff.mp taken
      cases call with
      | none | some =>
          obtain rfl := same
          rfl

theorem unread_of_run {labels : List Label} {last : TcpProxy}
    (others : ∀ label ∈ labels, ∀ sClient pData, label ≠ .received sClient pData)
    (runs : run step proxy labels = some last) : last.unread = proxy.unread :=
  run_invariant_along (I := fun state : TcpProxy => state.unread = proxy.unread)
    (C := fun _ label => ∀ sClient pData, label ≠ .received sClient pData)
    (fun _ _ _ same other taken => (unread_of_step other taken).trans same) labels rfl
    (along_of_labels labels (fun label member _ => others label member) proxy) runs

/-- A step of a backend is a step of the proxy. -/
theorem step_client {i : ℕ} {label : TcpClient.Label} {proxyClient : TcpProxyClient}
    (stepped : (proxy.proxyClients i).clientStep label = some proxyClient) :
    proxy.step (.client i label) = some (proxy.setClient i proxyClient) :=
  congrArg (Option.map (proxy.setClient i)) stepped

/-- And so is a call of its data handle. -/
theorem step_handle {i : ℕ} {proxyClient : TcpProxyClient}
    (handled : (proxy.proxyClients i).handle = some proxyClient) :
    proxy.step (.handle i) = some (proxy.setClient i proxyClient) :=
  congrArg (Option.map (proxy.setClient i)) handled

/-- And what its peer sends back. -/
theorem step_echo {i count : ℕ} {proxyClient : TcpProxyClient}
    (echoed : (proxy.proxyClients i).echo count = some proxyClient) :
    proxy.step (.echo i count) = some (proxy.setClient i proxyClient) :=
  congrArg (Option.map (proxy.setClient i)) echoed

/-- And what the loop of its `Add` passes on. -/
theorem step_clientPass {i : ℕ} {proxyClient : TcpProxyClient}
    {call : SocketClientData × Bytes}
    (passes : (proxy.proxyClients i).addPass = some (proxyClient, some call)) :
    proxy.step (.clientPass i) =
      some { proxy.setClient i proxyClient with passed := proxy.passed ++ [call] } := by
  show proxy.clientPass i = _
  rw [clientPass, passes]
  rfl

/-- Only the backend changed. -/
theorem Filling.setClient (filling : proxy.Filling rest frames functions batch queued)
    {functions' batch' queued' : ℕ} {proxyClient : TcpProxyClient}
    (waiting : proxyClient.Waiting rest forwarded functions' batch' queued') :
    (proxy.setClient 0 proxyClient).Filling rest frames functions' batch' queued' where
  concurrency := filling.concurrency
  served := filling.served
  waits := filling.waits
  unread := filling.unread
  others := filling.others
  passed := filling.passed
  backend := by rwa [proxyClients_setClient]

/-- The backend takes what was submitted. -/
theorem Filling.swap (filling : proxy.Filling rest frames (functions + 1) 0 queued) :
    ∃ next, Leads step StaysUp proxy [.client 0 .asyncDispatch, .client 0 .asyncSwap] next ∧
      next.Filling rest frames 0 (functions + 1) queued := by
  obtain ⟨middle, proxyClient, dispatched, swapped, waiting⟩ := filling.backend.swap
  rw [← proxyClients_setClient proxy 0 middle] at swapped
  have second := step_client swapped
  rw [setClient_setClient] at second
  exact ⟨_, .cons (step_client dispatched) trivial (.cons second trivial (.nil _)),
    filling.setClient waiting⟩

/-- The backend calls one function, and pushes one buffer. -/
theorem Filling.exec (filling : proxy.Filling rest frames functions (batch + 1) queued)
    (short : queued ≤ writeQueueMaxSize) :
    ∃ next, Leads step StaysUp proxy [.client 0 .asyncExec] next ∧
      next.Filling rest frames functions batch (queued + 1) := by
  obtain ⟨proxyClient, stepped, waiting⟩ := filling.backend.exec short
  exact ⟨_, .cons (step_client stepped) trivial (.nil _), filling.setClient waiting⟩

/-- All the packets go to the backend. -/
theorem Filling.fill (filling : proxy.Filling rest frames 0 batch queued) :
    ∃ next, Leads step StaysUp proxy (List.replicate frames TcpProxy.onePacket).flatten next ∧
      next.Filling rest 0 frames batch queued := by
  obtain ⟨next, leads, done, sum, filling⟩ := exists_leads_replicate
    (I := fun left (proxy : TcpProxy) => ∃ done, left + done = frames ∧
      proxy.Filling rest left done batch queued)
    (fun left proxy ⟨done, sum, filling⟩ => by
      obtain ⟨next, leads, filling⟩ := filling.onePacket
      exact ⟨next, leads, done + 1, by omega, filling⟩)
    frames ⟨0, rfl, filling⟩
  have all : done = frames := by omega
  exact ⟨next, leads, all ▸ filling⟩

/-- The functions of the batch are called, as many as the write queue has room for. -/
theorem Filling.execs {count : ℕ} (room : count ≤ writeQueueMaxSize + 1)
    (filling : proxy.Filling rest frames functions (batch + count) 0) :
    ∃ next, Leads step StaysUp proxy
        (List.replicate count [Label.client 0 .asyncExec]).flatten next ∧
      next.Filling rest frames functions batch count := by
  obtain ⟨next, leads, done, sum, filling⟩ := exists_leads_replicate
    (I := fun left (proxy : TcpProxy) => ∃ done, left + done = count ∧
      proxy.Filling rest frames functions (batch + left) done)
    (fun left proxy ⟨done, sum, filling⟩ => by
      obtain ⟨next, leads, filling⟩ := filling.exec (by omega)
      exact ⟨next, leads, done + 1, by omega, filling⟩)
    count ⟨0, rfl, filling⟩
  have all : done = count := by omega
  exact ⟨next, leads, all ▸ filling⟩

/-- The write queue is full, and a packet is left in the batch. -/
theorem Filling.full (filling : proxy.Filling rest (writeQueueMaxSize + 2) 0 0 0) :
    ∃ next, Leads step StaysUp proxy TcpProxy.filling next ∧
      next.Filling rest 0 0 1 (writeQueueMaxSize + 1) := by
  obtain ⟨filled, fills, filling⟩ := filling.fill
  obtain ⟨swapped, swaps, filling⟩ := filling.swap
  rw [show writeQueueMaxSize + 1 + 1 = 1 + (writeQueueMaxSize + 1) from Nat.add_comm ..] at filling
  obtain ⟨full, execs, filling⟩ := filling.execs (Nat.le_refl _)
  exact ⟨full, (fills.append swaps).append execs, filling⟩

/-- **The last function finds the queue too long.**  The packet is dropped, and so is what the
data handle had. -/
theorem Filling.refused (filling : proxy.Filling rest frames functions (batch + 1) queued)
    (long : writeQueueMaxSize < queued) :
    ∃ next, Leads step StaysUp proxy refusing next ∧
      next.Filling rest frames functions batch queued ∧
      (next.proxyClients 0).contentManager.requestOf
        (next.proxyClients 0).tcpClient.socketClient = [] := by
  obtain ⟨refused, emptied, stepped, handled, waiting, empty⟩ := filling.backend.refused long
  rw [← proxyClients_setClient proxy 0 refused] at handled
  have second := step_handle handled
  rw [setClient_setClient] at second
  refine ⟨_, .cons (step_client stepped) trivial (.cons second trivial (.nil _)),
    filling.setClient waiting, ?_⟩
  rwa [proxyClients_setClient]

/-! ### A lost packet -/

/-- The first client sends one packet more than the write queue takes, the second client
none. -/
def losing (sClient : SocketClientData) : List Bytes :=
  if sClient = firstClient then List.replicate (writeQueueMaxSize + 2) [7] else []

/-- The backend connects. -/
def connecting : List Label :=
  [.client 0 (.startAsync 5 6), .client 0 .startNotify, .client 0 (.startConnect 8)]

/-- A packet is written, comes back and is passed on. -/
def round : List Label :=
  [.client 0 (.io ⟨false, false, true⟩ .again (.wrote forwarded.length) 0 0),
    .echo 0 forwarded.length,
    .client 0 (.io ⟨false, true, false⟩ (.data forwarded) .again 0 0),
    .handle 0, .clientPass 0, .clientPass 0]

/-- The run: what the write queue has taken comes back, packet by packet. -/
def losingRun : List Label :=
  connecting ++ filling ++ refusing ++ (List.replicate (writeQueueMaxSize + 1) round).flatten

/-- What is left to be written, and what was passed on, come to so many packets; the proxy has
nothing else. -/
structure Draining (proxy : TcpProxy) (count queued : ℕ) : Prop where
  concurrency : proxy.concurrency = 1
  served : proxy.contentManager.adding = none
  unread : ∀ sClient, proxy.unread sClient = []
  backend : (proxy.proxyClients 0).Waiting [] forwarded 0 0 queued
  waits : (proxy.proxyClients 0).contentManager.requestOf
    (proxy.proxyClients 0).tcpClient.socketClient = []
  passed : proxy.passed.length + queued = count

/-- One packet comes back. -/
theorem Draining.round {count : ℕ} (draining : proxy.Draining count (queued + 1)) :
    ∃ next, Leads step StaysUp proxy round next ∧ next.Draining count queued := by
  obtain ⟨written, echoed, writes, echoes, waiting, same, key⟩ := draining.backend.write
  obtain ⟨read, handled, reads, handles, manager, key', waits⟩ :=
    waiting.read (by decide) (by decide)
  have forwardable : Forwardable (firstClient, [7]).2 := by decide
  have adding : handled.contentManager.adding = some echoed.tcpClient.socketClient := by
    rw [manager]
    rfl
  have request : handled.contentManager.requestOf echoed.tcpClient.socketClient =
      encodePkt (tagged (firstClient, [7])) := by
    rw [manager, ContentManager.requestOf_add, if_pos rfl, same, key, draining.waits]
    rfl
  have passes := TcpProxyClient.addPass_of_encodePkt forwardable adding request
  have empty : ∀ adding, ContentManager.requestOf
      ⟨handled.contentManager.userRequests.insert echoed.tcpClient.socketClient [], adding⟩
        echoed.tcpClient.socketClient = [] :=
    fun _ => (ContentManager.requestOf_insert ..).trans (if_pos rfl)
  let passing : TcpProxyClient := { handled with contentManager :=
    ⟨handled.contentManager.userRequests.insert echoed.tcpClient.socketClient [],
      some echoed.tcpClient.socketClient⟩ }
  let idle : TcpProxyClient := { passing with contentManager :=
    { passing.contentManager with adding := none } }
  have ends : passing.addPass = some (idle, none) := TcpProxyClient.addPass_of_nil rfl (empty _)
  rw [← proxyClients_setClient proxy 0 written] at echoes
  rw [← proxyClients_setClient proxy 0 echoed] at reads
  rw [← proxyClients_setClient proxy 0 read] at handles
  rw [← proxyClients_setClient proxy 0 handled] at passes
  have second := step_echo echoes
  have third := step_client reads
  have fourth := step_handle handles
  have fifth := step_clientPass passes
  rw [setClient_setClient] at second third fourth fifth
  let passed : TcpProxy := { proxy.setClient 0 passing with
    passed := proxy.passed ++ [(firstClient, encodePkt [7])] }
  have sixth : passed.step (.clientPass 0) = some (passed.setClient 0 idle) := by
    show passed.clientPass 0 = _
    rw [clientPass, show passed.proxyClients 0 = passing from proxyClients_setClient proxy 0 _,
      ends]
    rfl
  have wrote : (proxy.proxyClients 0).tcpClient.Up
      (.io ⟨false, false, true⟩ .again (.wrote forwarded.length) 0 0) := TcpClient.up_wrote _ _
  have received : ((proxy.setClient 0 echoed).proxyClients 0).tcpClient.Up
      (.io ⟨false, true, false⟩ (.data forwarded) .again 0 0) := TcpClient.up_data _ _
  refine ⟨passed.setClient 0 idle, .cons (step_client writes) wrote (.cons second trivial
    (.cons third received (.cons fourth trivial (.cons fifth trivial (.cons sixth trivial
      (.nil _)))))), draining.concurrency, draining.served, draining.unread, ?_, ?_, ?_⟩
  · rw [proxyClients_setClient]
    exact waits _ rfl
  · rw [proxyClients_setClient]
    show ContentManager.requestOf _ handled.tcpClient.socketClient = []
    rw [key']
    exact empty _
  · show (proxy.passed ++ [_]).length + queued = count
    rw [List.length_append, ← draining.passed, Nat.add_right_comm]
    rfl

/-- Everything that was queued comes back. -/
theorem Draining.all {count : ℕ} (draining : proxy.Draining count queued) :
    ∃ last, Leads step StaysUp proxy (List.replicate queued TcpProxy.round).flatten last ∧
      last.Draining count 0 :=
  exists_leads_replicate (I := fun left (proxy : TcpProxy) => proxy.Draining count left)
    (fun _ _ draining => draining.round) queued draining

theorem Draining.processed {count : ℕ} (draining : proxy.Draining count 0) :
    proxy.Processed where
  read := draining.unread
  served := draining.served
  through i below := by
    have one : (i : Int) < 1 := by
      rwa [draining.concurrency] at below
    obtain rfl : i = 0 := by omega
    have waiting := draining.backend
    refine ⟨waiting.functions, waiting.batch, waiting.queued, ?_, waiting.idle⟩
    exact Nat.le_antisymm waiting.received_le (List.drop_eq_nil_iff.mp waiting.unread)

end Run

theorem filling_of_connecting :
    ∃ proxy, Leads step StaysUp (new 1 losing) connecting proxy ∧
      proxy.Filling [] (writeQueueMaxSize + 2) 0 0 0 := by
  have reached : (run step (new 1 losing) connecting).any (fun proxy =>
      (proxy.concurrency = 1 ∧ proxy.contentManager.adding = none ∧
        proxy.contentManager.requestOf firstClient = [] ∧ proxy.passed = []) ∧
      (proxy.proxyClients 0).Waiting [] forwarded 0 0 0) = true := by
    decide +kernel
  obtain ⟨proxy, runs, reached⟩ := (Option.any_eq_true ..).mp reached
  obtain ⟨⟨concurrency, served, waits, passed⟩, backend⟩ := of_decide_eq_true reached
  have kept := unread_of_run (by simp [connecting]) runs
  refine ⟨proxy, ⟨runs, by decide +kernel⟩, concurrency, served, waits, ?_, ?_, passed, backend⟩
  · rw [kept]
    show (losing firstClient).flatMap encodePkt = _
    rw [losing, if_pos rfl]
  · intro sClient apart
    rw [kept]
    show (losing sClient).flatMap encodePkt = []
    rw [losing, if_neg apart]
    rfl

theorem forwardable_losing : ∀ sClient, ∀ payload ∈ losing sClient, Forwardable payload := by
  intro sClient payload member
  unfold losing at member
  split at member
  · rw [List.eq_of_mem_replicate member]
    decide
  · cases member

/-- **A packet that is lost.**  The connections stay up all the way, and in the end everything
was processed.  But the packet the write queue did not take was not passed back. -/
theorem lost_packet :
    (∀ sClient, ∀ payload ∈ losing sClient, Forwardable payload) ∧
      ∃ last, run step (new 1 losing) losingRun = some last ∧
        Along step StaysUp (new 1 losing) losingRun ∧ last.Processed ∧
        last.passedTo firstClient ≠ (losing firstClient).map encodePkt := by
  obtain ⟨connected, connects, filling⟩ := filling_of_connecting
  obtain ⟨full, fills, filling⟩ := filling.full
  obtain ⟨refused, refuses, filling, empty⟩ := filling.refused (Nat.lt_succ_self _)
  have unread : ∀ sClient, refused.unread sClient = [] := fun sClient => by
    by_cases here : sClient = firstClient
    · rw [here, filling.unread]
      rfl
    · exact filling.others sClient here
  have draining : refused.Draining (writeQueueMaxSize + 1) (writeQueueMaxSize + 1) :=
    ⟨filling.concurrency, filling.served, unread, filling.backend, empty, by
      rw [filling.passed, List.length_nil, Nat.zero_add]⟩
  obtain ⟨last, drains, draining⟩ := draining.all
  obtain ⟨runs, along⟩ := ((connects.append fills).append refuses).append drains
  refine ⟨forwardable_losing, last, runs, along, draining.processed, fun same => ?_⟩
  have few : (last.passedTo firstClient).length ≤ writeQueueMaxSize + 1 := by
    rw [passedTo, List.length_map, ← draining.passed]
    exact List.length_filter_le ..
  rw [same, List.length_map, losing, if_pos rfl, List.length_replicate] at few
  exact absurd few (Nat.not_succ_le_self _)

/-! ### A fabricated packet -/

/-- The packet that is fabricated: nine, for the second client. -/
def fabricated : SocketClientData × Bytes := (secondClient, [9])

/-- The first client sends the fabricated packet as a payload, the way a backend sends
it, and as many packets behind it as fill the write queue.  The second client sends
nothing. -/
def fabricating (sClient : SocketClientData) : List Bytes :=
  if sClient = firstClient then
    encodePkt (tagged fabricated) :: List.replicate (writeQueueMaxSize + 2) [7]
  else
    []

/-- The payload goes to the backend and comes back, and the backend has read the length
and the key in front of it. -/
def opening : List Label :=
  [.received firstClient (encodePkt (encodePkt (tagged fabricated))), .serverPass, .serverPass] ++
    connecting ++
    [.client 0 .asyncDispatch, .client 0 .asyncSwap, .client 0 .asyncExec,
    .client 0 (.io ⟨false, false, true⟩ .again (.wrote 29) 0 0), .echo 0 29,
    .client 0 (.io ⟨false, true, false⟩ (.data
      ((encodePkt (tagged (firstClient, encodePkt (tagged fabricated)))).take 14)) .again 0 0),
    .handle 0, .clientPass 0]

/-- The backend reads the rest of its stream. -/
def closing : List Label :=
  [.client 0 (.io ⟨false, true, false⟩ (.data (encodePkt (tagged fabricated))) .again 0 0),
    .handle 0, .clientPass 0]

/-- The run. -/
def fabricatingRun : List Label := opening ++ filling ++ refusing ++ closing

/-- What the backend reads behind a refused packet is passed on as it is. -/
theorem Filling.closing {proxy : TcpProxy} {frames functions queued : ℕ}
    (filling : proxy.Filling (encodePkt (tagged fabricated)) frames functions 0 queued)
    (empty : (proxy.proxyClients 0).contentManager.requestOf
      (proxy.proxyClients 0).tcpClient.socketClient = []) :
    ∃ last, Leads step StaysUp proxy closing last ∧
      last.passed = [(fabricated.1, encodePkt fabricated.2)] := by
  obtain ⟨read, added, reads, handles, manager, -, -⟩ :=
    filling.backend.read (by decide) (by decide)
  have request : added.contentManager.requestOf (proxy.proxyClients 0).tcpClient.socketClient =
      encodePkt (tagged fabricated) := by
    rw [manager, ContentManager.requestOf_add, if_pos rfl, empty]
    rfl
  have adding : added.contentManager.adding =
      some (proxy.proxyClients 0).tcpClient.socketClient := by
    rw [manager]
    rfl
  have forwardable : Forwardable fabricated.2 := by decide
  have passes := TcpProxyClient.addPass_of_encodePkt forwardable adding request
  rw [← proxyClients_setClient proxy 0 read] at handles
  rw [← proxyClients_setClient proxy 0 added] at passes
  have second := step_handle handles
  have third := step_clientPass passes
  rw [setClient_setClient] at second third
  have up : (proxy.proxyClients 0).tcpClient.Up
      (.io ⟨false, true, false⟩ (.data (encodePkt (tagged fabricated))) .again 0 0) :=
    TcpClient.up_data _ _
  refine ⟨_, .cons (step_client reads) up (.cons second trivial (.cons third trivial (.nil _))), ?_⟩
  show proxy.passed ++ [_] = _
  rw [filling.passed]
  rfl

theorem filling_of_opening :
    ∃ proxy, Leads step StaysUp (new 1 fabricating) opening proxy ∧
      proxy.Filling (encodePkt (tagged fabricated)) (writeQueueMaxSize + 2) 0 0 0 := by
  have reached : (run step (new 1 fabricating) opening).any (fun proxy =>
      (proxy.concurrency = 1 ∧ proxy.contentManager.adding = none ∧
        proxy.contentManager.requestOf firstClient = [] ∧ proxy.passed = []) ∧
      (proxy.proxyClients 0).Waiting (encodePkt (tagged fabricated)) forwarded 0 0 0) = true := by
    decide +kernel
  obtain ⟨proxy, runs, reached⟩ := (Option.any_eq_true ..).mp reached
  obtain ⟨⟨concurrency, served, waits, passed⟩, backend⟩ := of_decide_eq_true reached
  have along : Along step StaysUp (new 1 fabricating) opening := by decide +kernel
  obtain ⟨next, taken, behind⟩ := Option.bind_eq_some_iff.mp runs
  have kept := unread_of_run (by simp [connecting]) behind
  refine ⟨proxy, ⟨runs, along⟩, concurrency, served, waits, ?_, ?_, passed, backend⟩
  · have stream : (new 1 fabricating).unread firstClient =
        encodePkt (encodePkt (tagged fabricated)) ++
          (List.replicate (writeQueueMaxSize + 2) [7]).flatMap encodePkt := by
      show (fabricating firstClient).flatMap encodePkt = _
      rw [fabricating, if_pos rfl, List.flatMap_cons]
    rw [kept, unread_of_received taken, Function.update_self, stream, List.drop_left]
  · intro sClient apart
    rw [kept, unread_of_received taken, Function.update_of_ne apart]
    show (fabricating sClient).flatMap encodePkt = []
    rw [fabricating, if_neg apart]
    rfl

theorem forwardable_fabricating : ∀ sClient, ∀ payload ∈ fabricating sClient,
    Forwardable payload := by
  intro sClient payload member
  unfold fabricating at member
  split at member
  · rcases List.mem_cons.mp member with rfl | member
    · decide
    · rw [List.eq_of_mem_replicate member]
      decide
  · cases member

/-- **A packet nobody has sent.**  The connections stay up all the way, and in the end
the second client has been passed a packet.  There is none among its own, and none in
the proxy: the first client has written it into a payload. -/
theorem fabricated_packet :
    (∀ sClient, ∀ payload ∈ fabricating sClient, Forwardable payload) ∧
      ∃ last, run step (new 1 fabricating) fabricatingRun = some last ∧
        Along step StaysUp (new 1 fabricating) fabricatingRun ∧
        last.passed = [(secondClient, encodePkt [9])] ∧ fabricating secondClient = [] ∧
        ¬ last.passedTo secondClient <+: (fabricating secondClient).map encodePkt := by
  obtain ⟨opened, opens, filling⟩ := filling_of_opening
  obtain ⟨full, fills, filling⟩ := filling.full
  obtain ⟨refused, refuses, filling, empty⟩ := filling.refused (Nat.lt_succ_self _)
  obtain ⟨last, closes, passed⟩ := filling.closing empty
  obtain ⟨runs, along⟩ := ((opens.append fills).append refuses).append closes
  refine ⟨forwardable_fabricating, last, runs, along, passed, rfl, ?_⟩
  rw [passedTo, passed]
  decide

end TcpProxy

end ServerLib
