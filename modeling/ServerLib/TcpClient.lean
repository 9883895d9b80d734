import Mathlib.Logic.Function.Basic
import ServerLib.Library.Transition
import ServerLib.Watcher

/-!
# `CTcpClient`

The client (tcpclient.cpp) has one connection at a time and one loop thread, the
thread that called `Start`.  `Send`, from any thread, appends a bound function to
`m_Functions` under the lock and notifies `m_Async`; `__AsyncCallback` swaps the list
for an empty one and calls the functions, which push their buffers to `m_WriteQueue`;
the io callback writes the queue out.  Four paths of the io callback call `__Connect`,
which closes the descriptor, makes a new socket and starts `m_Io` on it.  The write
queue stays.

The model keeps what these paths read and write, and the kernel's table of
descriptors.

* `owner` says what a descriptor number refers to now: a socket this client made, by
  number, or something of the rest of the process, which opens and closes descriptors
  of its own at any time.
* `phase` says how far `Start` has come.  Its steps are steps of the model, so that
  calls of `Send` can come between them.  `Stop` comes when no callback is running
  (`InterruptedClient` has it come at any moment).
* the results of `socket`, `recv` and `write`, the bits libev reports and `errno` come
  with the label of a step.  A failed `connect` is seen later, by `recv` or `write`.
* an `ev::async` remembers that it was notified (`sent`), and the loop queues its
  callback at most once (`queued`).

A call of `Send` is one step.  Its critical section keeps other threads away from
`m_Functions`, and appending to the list commutes with everything the loop thread and
`Start` do to `m_Async`.
-/

namespace ServerLib

/-- `ev::async`: started; notified and not yet seen by the loop; its callback is about
to be invoked. -/
structure AsyncWatcher where
  active : Bool
  sent : Bool
  queued : Bool
  deriving DecidableEq, Repr

/-- `start()`: discards earlier notifications, unless it was started before. -/
def AsyncWatcher.start (async : AsyncWatcher) : AsyncWatcher :=
  if async.active then async else { async with active := true, sent := false }

/-- `send()`. -/
def AsyncWatcher.send (async : AsyncWatcher) : AsyncWatcher :=
  { async with sent := true }

/-- `stop()`, which also takes a queued callback back. -/
def AsyncWatcher.stop (async : AsyncWatcher) : AsyncWatcher :=
  { async with active := false, queued := false }

/-- What a descriptor number of the process refers to. -/
inductive Descriptor where
  /-- The socket the client's call of `socket` with this number returned. -/
  | socket (number : ℕ)
  /-- Something the rest of the process has opened. -/
  | other
  deriving DecidableEq, Repr

/-- How far `CTcpClient::Start` has come. -/
inductive StartPhase where
  /-- Not called, or returned. -/
  | outside
  /-- Behind `m_Async.start()`. -/
  | started
  /-- Behind `m_Async.send()`. -/
  | notified
  /-- In `m_Loop.loop()`. -/
  | looping
  deriving DecidableEq, Repr

/-- What happens at the client, in the order it happens. -/
inductive ClientEvent where
  /-- `socket` returned the descriptor `fd`, for the socket with this number. -/
  | opened (number : ℕ) (fd : Int32)
  /-- `close(fd)`, which ends what the number refers to. -/
  | closed (fd : Int32) (descriptor : Option Descriptor)
  /-- `m_pDataHandle->OnConnected(sClient)`. -/
  | onConnected (sClient : SocketClientData)
  /-- `m_pDataHandle->OnDisconnected(m_SocketClient, nErrorCode)`. -/
  | onDisconnected (sClient : SocketClientData) (nErrorCode : Int32)
  /-- `m_pDataHandle->OnRecvError(m_SocketClient, nErrorCode)`. -/
  | onRecvError (sClient : SocketClientData) (nErrorCode : Int32)
  /-- `m_pDataHandle->OnSendError(m_SocketClient, nErrorCode)`; `refused` is the data of
  the call of `Send` that found the write queue too long, where that is the reason. -/
  | onSendError (sClient : SocketClientData) (nErrorCode : Int32) (refused : Option Bytes)
  /-- `OnDataReceived(m_SocketClient, pData, nDataLen)` for bytes read from `source`. -/
  | onDataReceived (sClient : SocketClientData) (pData : Bytes) (source : Option Descriptor)
  /-- Bytes of the write queue taken by `target`. -/
  | written (pData : Bytes) (target : Option Descriptor)
  /-- `Send(pData, nDataLen)` was called. -/
  | sent (pData : Bytes)
  /-- Its function `__Send(pOutputBuffer)` was called. -/
  | executed (pData : Bytes)
  deriving DecidableEq, Repr

/-- `CTcpClient`, with the descriptors of its process and its history.  `batch` is what
is left of the list `__AsyncCallback` is working through. -/
structure TcpClient where
  IP : UInt32
  Port : UInt16
  socket : Int32
  socketClient : SocketClientData
  io : IoWatcher
  async : AsyncWatcher
  functions : List OutputBuffer
  batch : List OutputBuffer
  writeQueue : List OutputBuffer
  phase : StartPhase
  owner : Int32 → Option Descriptor
  nextSocket : ℕ
  log : List ClientEvent

namespace TcpClient

/-- `CTcpClient()`.  `m_IP`, `m_Port` and `m_SocketClient` have no value before `Start`
sets them, and are not read. -/
def new : TcpClient where
  IP := 0
  Port := 0
  socket := 0
  socketClient := ⟨0, 0, 0⟩
  io := ⟨-1, ⟨false, false⟩, false⟩
  async := ⟨false, false, false⟩
  functions := []
  batch := []
  writeQueue := []
  phase := .outside
  owner := fun _ => none
  nextSocket := 0
  log := []

/-- One more event. -/
def emit (client : TcpClient) (event : ClientEvent) : TcpClient :=
  { client with log := client.log ++ [event] }

/-- The system call `close(m_Socket)`. -/
def closeSocket (client : TcpClient) : TcpClient :=
  { client.emit (.closed client.socket (client.owner client.socket)) with
    owner := Function.update client.owner client.socket none }

/-! ### `__Connect` -/

/-- `if (m_Socket > 0)` in `__Connect`. -/
def dropSocket (client : TcpClient) : TcpClient :=
  if 0 < client.socket then { client.closeSocket with socket := 0 } else client

/-- `m_Socket = socket(…)`; the call returns -1 or a descriptor that was not open. -/
def makeSocket (client : TcpClient) (fd : Int32) : Option TcpClient :=
  if fd = -1 then
    some { client with socket := fd }
  else if 0 ≤ fd ∧ client.owner fd = none then
    some { client.emit (.opened client.nextSocket fd) with
      socket := fd
      owner := Function.update client.owner fd (some (.socket client.nextSocket))
      nextSocket := client.nextSocket + 1 }
  else
    none

/-- `__Connect()` and the value it returns; `fd` is the result of `socket`. -/
def connect (client : TcpClient) (fd : Int32) : Option (TcpClient × Bool) :=
  (client.dropSocket.makeSocket fd).map fun made =>
    if made.socket ≤ 0 then
      (made, false)
    else
      ({ made with
          socketClient := ⟨made.IP, made.Port, made.socket⟩
          io := ⟨made.socket, Interest.readWrite, true⟩ }, true)

/-- `__Connect()` where its value is not used. -/
def reconnect (client : TcpClient) (fd : Int32) : Option TcpClient :=
  (client.connect fd).map Prod.fst

/-! ### The callbacks -/

/-- `__Send(pOutputBuffer)`. -/
def execSend (client : TcpClient) (pOutputBuffer : OutputBuffer) : TcpClient :=
  if client.writeQueue.length > writeQueueMaxSize then
    client.emit (.onSendError client.socketClient 0 (some pOutputBuffer.getDataPos))
  else
    { client with
      writeQueue := client.writeQueue ++ [pOutputBuffer]
      io := client.io.set Interest.readWrite }

/-- libev stops a watcher before it reports `EV_ERROR` for it. -/
def unwatched (client : TcpClient) : TcpClient :=
  { client with io := { client.io with active := false } }

/-- `__ErrorCallback()`. -/
def errorCallback (client : TcpClient) (errno fd : Int32) : Option TcpClient :=
  (client.emit (.onDisconnected client.socketClient errno)).reconnect fd

/-- The descriptor of the watcher is open. -/
abbrev Opened (client : TcpClient) : Prop := (client.owner client.io.fd).isSome = true

/-- The `EV_READ` branch of `__IoCallback`, and whether the callback goes on behind
it. -/
def ioRead (client : TcpClient) (nRead : RecvResult) (fd : Int32) : Option (TcpClient × Bool) :=
  if nRead.Possible client.Opened then
    match nRead with
    | .eof =>
        ((client.emit (.onDisconnected client.socketClient 0)).reconnect fd).map
          fun next => (next, false)
    | .again => some (client, true)
    | .error errno =>
        ((client.emit (.onRecvError client.socketClient errno)).reconnect fd).map
          fun next => (next, false)
    | .data pData =>
        some (client.emit
          (.onDataReceived client.socketClient pData (client.owner client.io.fd)), true)
  else
    none

/-- The `EV_WRITE` branch of `__IoCallback`. -/
def ioWrite (client : TcpClient) (nWritten : WriteResult) (fd : Int32) : Option TcpClient :=
  match client.writeQueue with
  | [] => some { client with io := client.io.set Interest.readOnly }
  | pBuffer :: rest =>
      if nWritten.Possible client.Opened pBuffer.getBytes then
        match nWritten with
        | .again => some client
        | .error errno =>
            (client.emit (.onSendError client.socketClient errno none)).reconnect fd
        | .wrote count =>
            if fits : count ≤ pBuffer.getBytes then
              some ({ client with
                writeQueue := advanceQueue pBuffer count fits rest
                io := if advanceQueue pBuffer count fits rest = [] then
                    client.io.set Interest.readOnly
                  else
                    client.io }.emit
                (.written (pBuffer.getDataPos.take count) (client.owner client.io.fd)))
            else
              none
      else
        none

/-- `__IoCallback(watcher, revents)`. -/
def ioCallback (client : TcpClient) (revents : Revents) (nRead : RecvResult)
    (nWritten : WriteResult) (errno fd : Int32) : Option TcpClient :=
  if Reported client.io revents then
    if revents.error then
      client.unwatched.errorCallback errno fd
    else
      (if revents.read then client.ioRead nRead fd else some (client, true)).bind fun afterRead =>
        match afterRead with
        | (client, false) => some client
        | (client, true) => if revents.write then client.ioWrite nWritten fd else some client
  else
    none

/-! ### The functions of the client -/

/-- `Send(pData, nDataLen)`, one critical section. -/
def send (client : TcpClient) (pData : Bytes) : TcpClient :=
  { client.emit (.sent pData) with
    functions := client.functions ++ [OutputBuffer.new pData]
    async := client.async.send }

/-- The loop has seen the notification and queues `__AsyncCallback`. -/
def asyncDispatch (client : TcpClient) : Option TcpClient :=
  if client.async.active = true ∧ client.async.sent = true then
    some { client with async := { client.async with sent := false, queued := true } }
  else
    none

/-- `__AsyncCallback` is invoked: `functions.swap(m_Functions)`. -/
def asyncSwap (client : TcpClient) : Option TcpClient :=
  if client.async.queued = true then
    some { client with
      async := { client.async with queued := false }
      functions := []
      batch := client.functions }
  else
    none

/-- `functions[i]()` in `__AsyncCallback`, that is `__Send(pOutputBuffer)`. -/
def asyncExec (client : TcpClient) : Option TcpClient :=
  match client.batch with
  | [] => none
  | pOutputBuffer :: rest =>
      some ({ client.emit (.executed pOutputBuffer.getDataPos) with batch := rest }.execSend
        pOutputBuffer)

/-- `Start(IP, Port)`, up to `m_Async.start()`. -/
def startAsync (client : TcpClient) (IP : UInt32) (Port : UInt16) : TcpClient :=
  { client with
    IP := IP
    Port := Port
    async := client.async.start
    phase := .started }

/-- `Start`: `m_Async.send()`. -/
def startNotify (client : TcpClient) : TcpClient :=
  { client with async := client.async.send, phase := .notified }

/-- `Start`: `__Connect()`, and on into the loop, or back to the caller. -/
def startConnect (client : TcpClient) (fd : Int32) : Option TcpClient :=
  (client.connect fd).map fun connected =>
    { connected.1 with phase := if connected.2 then .looping else .outside }

/-- `Stop()`; a loop that is running returns. -/
def stop (client : TcpClient) : TcpClient :=
  { client.closeSocket with
    io := { client.io with active := false }
    async := client.async.stop
    phase := .outside }

/-! ### Runs -/

/-- Who moves, and what the environment answers. -/
inductive Label where
  | startAsync (IP : UInt32) (Port : UInt16)
  | startNotify
  | startConnect (fd : Int32)
  | stop
  | send (pData : Bytes)
  | asyncDispatch
  | asyncSwap
  | asyncExec
  | io (revents : Revents) (nRead : RecvResult) (nWritten : WriteResult) (errno fd : Int32)
  /-- The rest of the process opens a descriptor. -/
  | otherOpen (fd : Int32)
  /-- The rest of the process closes a descriptor of its own. -/
  | otherClose (fd : Int32)
  deriving DecidableEq, Repr

/-- The loop thread waits in `m_Loop.loop()` and is in no callback. -/
abbrev Idle (client : TcpClient) : Prop := client.phase = .looping ∧ client.batch = []

/-- One step. -/
def step (client : TcpClient) : Label → Option TcpClient
  | .startAsync IP Port =>
      if client.phase = .outside then some (client.startAsync IP Port) else none
  | .startNotify => if client.phase = .started then some client.startNotify else none
  | .startConnect fd => if client.phase = .notified then client.startConnect fd else none
  | .stop =>
      if client.phase = .outside ∨ client.Idle then some client.stop else none
  | .send pData => some (client.send pData)
  | .asyncDispatch => if client.Idle then client.asyncDispatch else none
  | .asyncSwap => if client.Idle then client.asyncSwap else none
  | .asyncExec => client.asyncExec
  | .io revents nRead nWritten errno fd =>
      if client.Idle then client.ioCallback revents nRead nWritten errno fd else none
  | .otherOpen fd =>
      if 0 ≤ fd ∧ client.owner fd = none then
        some { client with owner := Function.update client.owner fd (some .other) }
      else
        none
  | .otherClose fd =>
      if client.owner fd = some .other then
        some { client with owner := Function.update client.owner fd none }
      else
        none

end TcpClient

end ServerLib
