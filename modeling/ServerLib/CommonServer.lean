import ServerLib.PktHandleThread

/-!
# `CCommonServer`: framing per client, delivery directly or by threads

`CCommonServer` (commonserver.cpp) sits between the TCP server and the data
handle.  It keeps one buffer per client in `m_Contents`, runs the framing loop of
`ServerLib.Framer` on it, and passes each complete packet on in `__HandlePkt`:
straight to the data handle when no thread number was set, otherwise to the
queue of the packet thread a shared counter selects.  The four callbacks that
end a connection report it to the data handle and drop the buffer.

This module has the functions of the class and their behaviour call by call:
`call` is one call the TCP server makes, and a list of calls is a run.  What follows
for runs without packet threads is in `ServerLib.RoundTrip` and `ServerLib.Isolation`;
interleavings with packet threads are in `ServerLib.Dispatch`.

Each function returns the events it causes, in order.  `Event` lists what the
history of a server is made of: the calls of the data handle, and two internal
points (a chunk arriving, a packet framed) that the statements refer to.
-/

namespace ServerLib

open Incremental

/-- What happens at a server, in the order it happens.  `origin` is the history
variable of `PktData`. -/
inductive Event (H τ : Type) where
  /-- `m_pDataHandle->OnClientConnected(sClient)`. -/
  | onClientConnected (pDataHandle : Option H) (sClient : SocketClientData) (origin : τ)
  /-- `m_pDataHandle->OnClientDisconnected(sClient, nErrorCode)`. -/
  | onClientDisconnected (pDataHandle : Option H) (sClient : SocketClientData)
      (nErrorCode : Int32) (origin : τ)
  /-- `CCommonServer::OnClientDataReceived(sClient, pData, nDataLen)` is entered. -/
  | chunkReceived (sClient : SocketClientData) (pData : Bytes) (origin : τ)
  /-- `__HandlePkt` is called; `thread` is the index it selects, if it selects
  one. -/
  | handlePkt (thread : Option ℕ) (pktData : PktData τ)
  /-- `m_pDataHandle->OnClientDataReceived(…)` begins, in the loop thread or in a
  packet thread. -/
  | onClientDataReceived (thread : Option ℕ) (pDataHandle : Option H) (pktData : PktData τ)
  deriving DecidableEq, Repr

/-- `CCommonServer`, without the parts of `CTcpServer` it does not touch. -/
structure CommonServer (H τ : Type) where
  pDataHandle : Option H
  nThreadNum : Int32
  nCount : Int64
  threads : List (PktHandleThread H τ)
  contents : OrderedMap SocketClientData Bytes

namespace CommonServer

variable {H τ : Type}

/-! ## Construction and set-up -/

/-- `CCommonServer()`: no threads, no data handle yet. -/
def new : CommonServer H τ where
  pDataHandle := none
  nThreadNum := 0
  nCount := 0
  threads := []
  contents := ∅

/-- `SetDataHandle(pDataHandle)`. -/
def setDataHandle (server : CommonServer H τ) (pDataHandle : H) : CommonServer H τ :=
  { server with pDataHandle := some pDataHandle }

/-- `MAX_THREAD_NUM`. -/
def maxThreadNum : Int32 := 64

/-- `SetThreadNum(nThreadNum)`: out of range it does nothing, otherwise it
starts that many threads with the data handle of the moment. -/
def setThreadNum (server : CommonServer H τ) (nThreadNum : Int32) : CommonServer H τ :=
  if nThreadNum ≤ 0 ∨ nThreadNum > maxThreadNum then
    server
  else
    { server with
      nThreadNum := nThreadNum
      threads := List.replicate nThreadNum.toInt.toNat
        (PktHandleThread.init server.pDataHandle) }

/-! ## Framing and delivery -/

/-- `m_Contents[sClient]`: a client not in the map has an empty buffer. -/
def contentOf (server : CommonServer H τ) (sClient : SocketClientData) : Bytes :=
  (server.contents.find sClient).getD []

/-- The thread index `((unsigned int)m_nCount) % m_nThreadNum`. -/
def threadIndex (server : CommonServer H τ) : ℕ :=
  (server.nCount.toUInt64.toUInt32 % server.nThreadNum.toUInt32).toNat

/-- `__HandlePkt(sClient, pData, nDataLen)`.  `none` is an index outside the
array of threads. -/
def handlePkt (server : CommonServer H τ) (sClient : SocketClientData) (pData : Bytes)
    (origin : τ) : Option (CommonServer H τ × List (Event H τ)) :=
  let pktData : PktData τ := ⟨sClient, OutputBuffer.new pData, origin⟩
  if server.nThreadNum = 0 then
    some (server, [.handlePkt none pktData,
      .onClientDataReceived none server.pDataHandle pktData])
  else if server.threadIndex < server.threads.length then
    some ({ server with
        nCount := server.nCount + 1
        threads := server.threads.modify server.threadIndex (·.addPkt pktData) },
      [.handlePkt (some server.threadIndex) pktData])
  else
    none

/-- `__HandlePkt` for the packets of one call, one after the other. -/
def handlePkts (server : CommonServer H τ) (sClient : SocketClientData) (origin : τ) :
    List Bytes → Option (CommonServer H τ × List (Event H τ))
  | [] => some (server, [])
  | pkt :: pkts =>
      (server.handlePkt sClient pkt origin).bind fun first =>
        (first.1.handlePkts sClient origin pkts).map fun later =>
          (later.1, first.2 ++ later.2)

/-- `__AddContent(sClient, pData, nDataLen)`, run to its end; `none` is a call
that `substr` leaves by an exception. -/
def addContent (server : CommonServer H τ) (sClient : SocketClientData) (pData : Bytes)
    (origin : τ) : Option (CommonServer H τ × List (Event H τ)) :=
  match addLoop (server.contentOf sClient ++ pData) with
  | .returned pkts left =>
      (server.handlePkts sClient origin pkts).map fun handled =>
        ({ handled.1 with contents := handled.1.contents.insert sClient left }, handled.2)
  | .threw _ _ => none

/-- `__RemoveContent(sClient)`. -/
def removeContent (server : CommonServer H τ) (sClient : SocketClientData) :
    CommonServer H τ :=
  { server with contents := server.contents.erase sClient }

/-! ## The callbacks `CTcpServer` calls -/

/-- `OnClientDataReceived(sClient, pData, nDataLen)`. -/
def onClientDataReceived (server : CommonServer H τ) (sClient : SocketClientData)
    (pData : Bytes) (origin : τ) : Option (CommonServer H τ × List (Event H τ)) :=
  (server.addContent sClient pData origin).map fun added =>
    (added.1, .chunkReceived sClient pData origin :: added.2)

/-- The common shape of the four terminations: `CTcpServer`'s own override
reports to the data handle, then the partial frame is dropped. -/
def terminate (server : CommonServer H τ) (sClient : SocketClientData) (nErrorCode : Int32)
    (origin : τ) : CommonServer H τ × List (Event H τ) :=
  (server.removeContent sClient,
    [.onClientDisconnected server.pDataHandle sClient nErrorCode origin])

/-- `OnClientDisconnected(sClient, nErrorCode)`. -/
def onClientDisconnected (server : CommonServer H τ) (sClient : SocketClientData)
    (nErrorCode : Int32) (origin : τ) : CommonServer H τ × List (Event H τ) :=
  server.terminate sClient nErrorCode origin

/-- `OnClientRecvError(sClient, nErrorCode)`. -/
def onClientRecvError (server : CommonServer H τ) (sClient : SocketClientData)
    (nErrorCode : Int32) (origin : τ) : CommonServer H τ × List (Event H τ) :=
  server.terminate sClient nErrorCode origin

/-- `OnClientSendError(sClient, nErrorCode)`. -/
def onClientSendError (server : CommonServer H τ) (sClient : SocketClientData)
    (nErrorCode : Int32) (origin : τ) : CommonServer H τ × List (Event H τ) :=
  server.terminate sClient nErrorCode origin

/-- `OnClientTimeout(sClient)`: reported with error code 0. -/
def onClientTimeout (server : CommonServer H τ) (sClient : SocketClientData)
    (origin : τ) : CommonServer H τ × List (Event H τ) :=
  server.terminate sClient 0 origin

/-- The ways a connection ends. -/
inductive Termination where
  | disconnected (nErrorCode : Int32)
  | recvError (nErrorCode : Int32)
  | sendError (nErrorCode : Int32)
  | timeout
  deriving DecidableEq, Repr

/-- The callback of each way a connection ends. -/
def onTermination (server : CommonServer H τ) (sClient : SocketClientData) (origin : τ) :
    Termination → CommonServer H τ × List (Event H τ)
  | .disconnected nErrorCode => server.onClientDisconnected sClient nErrorCode origin
  | .recvError nErrorCode => server.onClientRecvError sClient nErrorCode origin
  | .sendError nErrorCode => server.onClientSendError sClient nErrorCode origin
  | .timeout => server.onClientTimeout sClient origin

/-- Every way a connection ends reports it once to the data handle and drops the
partial frame of that client, and does nothing else. -/
theorem onTermination_eq (server : CommonServer H τ) (sClient : SocketClientData) (origin : τ)
    (how : Termination) :
    ∃ nErrorCode, server.onTermination sClient origin how =
      server.terminate sClient nErrorCode origin := by
  cases how with
  | disconnected nErrorCode => exact ⟨nErrorCode, rfl⟩
  | recvError nErrorCode => exact ⟨nErrorCode, rfl⟩
  | sendError nErrorCode => exact ⟨nErrorCode, rfl⟩
  | timeout => exact ⟨0, rfl⟩

/-! ## Delivery without packet threads -/

section Direct

variable {server : CommonServer H τ} {sClient : SocketClientData} {origin : τ}

/-- The events of handing over packets directly. -/
def directEvents (server : CommonServer H τ) (sClient : SocketClientData) (origin : τ)
    (pkts : List Bytes) : List (Event H τ) :=
  pkts.flatMap fun pkt =>
    [.handlePkt none ⟨sClient, OutputBuffer.new pkt, origin⟩,
      .onClientDataReceived none server.pDataHandle ⟨sClient, OutputBuffer.new pkt, origin⟩]

theorem handlePkts_direct (direct : server.nThreadNum = 0) (pkts : List Bytes) :
    server.handlePkts sClient origin pkts =
      some (server, server.directEvents sClient origin pkts) := by
  induction pkts with
  | nil => rfl
  | cons pkt pkts ih => simp [handlePkts, handlePkt, direct, ih, directEvents]

/-- Without packet threads a call is the framing loop on the client's buffer. -/
theorem onClientDataReceived_direct (direct : server.nThreadNum = 0) {pData : Bytes}
    {pkts : List Bytes} {left : Bytes}
    (looped : addLoop (server.contentOf sClient ++ pData) = .returned pkts left) :
    server.onClientDataReceived sClient pData origin =
      some ({ server with contents := server.contents.insert sClient left },
        .chunkReceived sClient pData origin :: server.directEvents sClient origin pkts) := by
  simp [onClientDataReceived, addContent, looped, handlePkts_direct direct]

/-- A call that returned ran the framing loop to its end. -/
theorem addLoop_of_onClientDataReceived {pData : Bytes}
    {next : CommonServer H τ × List (Event H τ)}
    (called : server.onClientDataReceived sClient pData origin = some next) :
    ∃ pkts left, addLoop (server.contentOf sClient ++ pData) = .returned pkts left := by
  rw [onClientDataReceived, Option.map_eq_some_iff] at called
  obtain ⟨added, called, -⟩ := called
  unfold addContent at called
  split at called
  · next pkts left looped => exact ⟨pkts, left, looped⟩
  · cases called

end Direct

/-! ## Runs of calls -/

/-- The calls the TCP server makes. -/
inductive Call where
  | dataReceived (sClient : SocketClientData) (pData : Bytes)
  | terminated (sClient : SocketClientData) (how : Termination)
  deriving DecidableEq, Repr

/-- A server together with the events so far. -/
structure Run (H τ : Type) where
  server : CommonServer H τ
  log : List (Event H τ)

/-- A server with a data handle and nothing else set up, before any call. -/
def freshRun (pDataHandle : H) : Run H Unit where
  server := new.setDataHandle pDataHandle
  log := []

/-- One call, run to its end. -/
def call (run : Run H Unit) : Call → Option (Run H Unit)
  | .dataReceived sClient pData =>
      (run.server.onClientDataReceived sClient pData ()).map fun next =>
        ⟨next.1, run.log ++ next.2⟩
  | .terminated sClient how =>
      let next := run.server.onTermination sClient () how
      some ⟨next.1, run.log ++ next.2⟩

/-- Without packet threads a chunk is framed and delivered within the call. -/
theorem call_dataReceived_direct {run : Run H Unit} {sClient : SocketClientData}
    {pData : Bytes} {pkts : List Bytes} {left : Bytes} (direct : run.server.nThreadNum = 0)
    (looped : addLoop (run.server.contentOf sClient ++ pData) = .returned pkts left) :
    call run (.dataReceived sClient pData) =
      some ⟨{ run.server with contents := run.server.contents.insert sClient left },
        run.log ++ .chunkReceived sClient pData () ::
          run.server.directEvents sClient () pkts⟩ := by
  rw [call, onClientDataReceived_direct direct looped]
  rfl

/-- What the data handle was given: which handle, for which client, which
bytes. -/
def deliveries (log : List (Event H τ)) : List (Option H × SocketClientData × Bytes) :=
  log.filterMap fun
    | .onClientDataReceived _ pDataHandle pktData =>
        some (pDataHandle, pktData.sClient, pktData.bytes)
    | _ => none

@[simp] theorem deliveries_append (log log' : List (Event H τ)) :
    deliveries (log ++ log') = deliveries log ++ deliveries log' :=
  List.filterMap_append

@[simp] theorem deliveries_chunkReceived (sClient : SocketClientData) (pData : Bytes)
    (origin : τ) (log : List (Event H τ)) :
    deliveries (.chunkReceived sClient pData origin :: log) = deliveries log := rfl

@[simp] theorem deliveries_directEvents (server : CommonServer H τ)
    (sClient : SocketClientData) (origin : τ) (pkts : List Bytes) :
    deliveries (server.directEvents sClient origin pkts) =
      pkts.map fun pkt => (server.pDataHandle, sClient, pkt) := by
  induction pkts with
  | nil => rfl
  | cons pkt pkts ih =>
      rw [directEvents, List.flatMap_cons, deliveries_append, ← directEvents, ih]
      rfl

/-- Without packet threads a chunk on which the loop returned is delivered to the data
handle packet by packet, and the rest is kept for the client. -/
theorem call_returned {state : Run H Unit} {sClient : SocketClientData} {chunk : Bytes}
    {pkts : List Bytes} {left : Bytes} (direct : state.server.nThreadNum = 0)
    (looped : addLoop (state.server.contentOf sClient ++ chunk) = .returned pkts left) :
    ∃ next, call state (.dataReceived sClient chunk) = some next ∧
      next.server.nThreadNum = 0 ∧ next.server.pDataHandle = state.server.pDataHandle ∧
      next.server.contents.find sClient = some left ∧
      deliveries next.log = deliveries state.log ++
        pkts.map fun pkt => (state.server.pDataHandle, sClient, pkt) := by
  refine ⟨_, call_dataReceived_direct direct looped, direct, rfl, by simp, ?_⟩
  rw [deliveries_append, deliveries_chunkReceived, deliveries_directEvents]

end CommonServer

end ServerLib
