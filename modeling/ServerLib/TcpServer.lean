import ServerLib.Library.Transition
import ServerLib.SocketInfoManager
import ServerLib.Watcher

/-!
# `CTcpServer` and its connections

The server (tcpserver.cpp) runs in one loop thread, driven by libev.  A
`CTcpConnection` is a heap object owned by the registry: when its entry goes, the
object is destroyed, which closes its descriptor and stops its watchers.  Data to
send crosses three queues: `Send`, from any thread, appends a bound function to
`m_Functions` under the lock; `__AsyncCallback` swaps that list for an empty one
and calls the functions one after the other; each pushes its buffer to the write
queue of the connection, which the io callback writes out as the socket takes it.

The model keeps what these paths read and write.

* `heap` holds the connection objects by number; the registry stores numbers where
  the source stores shared pointers.
* `owner` is the kernel's table of the descriptors this server has accepted: which
  accepted socket a descriptor number refers to now.  A number that was closed can
  be accepted again, and then refers to the new socket.
* the results of `accept`, `recv` and `write`, the bits libev reports, `errno` and
  the clock come with the label of a step.  `recv` and `write` return data or take
  bytes only where the descriptor is open.
* libev calls a callback of an active watcher only, and reports the events it was
  set to, or an error.

`log` is the history: what the handler is told, what is read and written on which
socket, what is closed.  An operation on a key without a channel in the registry
has no defined result, and the step is `none`.
-/

namespace ServerLib

/-! ## Connections -/

/-- `CTcpConnection`, without the pointer to its server.  `timer` is the interval
`m_Timer` was started with. -/
structure TcpConnection where
  socketClient : SocketClientData
  socket : Int32
  io : IoWatcher
  timer : Int32
  writeQueue : List OutputBuffer
  nLasttime : Int32
  deriving DecidableEq, Repr

/-- `CTcpConnection(pTcpServer, sClient)`. -/
def TcpConnection.new (sClient : SocketClientData) (nTimeout now : Int32) : TcpConnection where
  socketClient := sClient
  socket := sClient.Socket
  io := ⟨sClient.Socket, Interest.readOnly, true⟩
  timer := nTimeout
  writeQueue := []
  nLasttime := now

/-- `TCP_CONNECTION_TIMEOUT`. -/
def tcpConnectionTimeout : Int32 := 600

/-! ## What the environment answers -/

/-- What `accept` on the listening socket comes to. -/
inductive AcceptResult where
  /-- `EV_ERROR` on the listening watcher. -/
  | watcherError
  /-- A negative descriptor. -/
  | failed
  | client (IP : UInt32) (Port : UInt16) (client_fd : Int32)
  deriving DecidableEq, Repr

/-! ## The server -/

/-- What happens at the server, in the order it happens. -/
inductive TcpEvent where
  /-- `accept` returned the descriptor `sClient.Socket` for connection `conn`. -/
  | accepted (conn : ℕ) (sClient : SocketClientData)
  /-- `close(fd)` by connection object `conn`, which ends the accepted socket the number
  refers to. -/
  | closed (conn : ℕ) (fd : Int32) (socket : Option ℕ)
  /-- `m_pDataHandle->OnClientConnected(sClient)`. -/
  | onClientConnected (sClient : SocketClientData)
  /-- `m_pDataHandle->OnClientDisconnected(sClient, nErrorCode)`. -/
  | onClientDisconnected (sClient : SocketClientData) (nErrorCode : Int32)
  /-- `OnClientDataReceived(sClient, pData, nDataLen)` for bytes that connection
  object `conn` read from the accepted socket `source`. -/
  | onClientDataReceived (conn : ℕ) (sClient : SocketClientData) (pData : Bytes)
      (source : Option ℕ)
  /-- Bytes of connection object `conn` taken by the accepted socket `target`. -/
  | written (conn : ℕ) (pData : Bytes) (target : Option ℕ)
  /-- `Send(sClient, pData, nDataLen)` was called. -/
  | sent (sClient : SocketClientData) (pData : Bytes)
  /-- Its function `__Send(sClient, pOutputBuffer)` was called. -/
  | executed (sClient : SocketClientData) (pData : Bytes)
  deriving DecidableEq, Repr

/-- `CTcpServer`, with its connection objects, the descriptors it accepted and its
history.  `batch` is what is left of the list `__AsyncCallback` is working
through. -/
structure TcpServer where
  socketInfoManager : SocketInfoManager ℕ
  nTimeout : Int32
  functions : List (SocketClientData × OutputBuffer)
  batch : List (SocketClientData × OutputBuffer)
  heap : ℕ → Option TcpConnection
  nextConn : ℕ
  owner : Int32 → Option ℕ
  log : List TcpEvent

namespace TcpServer

/-- `CTcpServer()`, after `SetConnectionTimeout(nTimeout)`. -/
def new (nTimeout : Int32) : TcpServer where
  socketInfoManager := SocketInfoManager.new
  nTimeout := nTimeout
  functions := []
  batch := []
  heap := fun _ => none
  nextConn := 0
  owner := fun _ => none
  log := []

/-- One more event. -/
def emit (server : TcpServer) (event : TcpEvent) : TcpServer :=
  { server with log := server.log ++ [event] }

/-- A field of a connection object is assigned. -/
def setConn (server : TcpServer) (conn : ℕ) (connection : TcpConnection) : TcpServer :=
  { server with heap := Function.update server.heap conn (some connection) }

/-! ### Closing and destroying a connection -/

/-- `CTcpConnection::Close()`. -/
def close (server : TcpServer) (conn : ℕ) (connection : TcpConnection) : TcpServer :=
  if 0 < connection.socket then
    { (server.setConn conn { connection with socket := 0 }).emit
        (.closed conn connection.socket (server.owner connection.socket)) with
      owner := Function.update server.owner connection.socket none }
  else
    server

/-- `~CTcpConnection()`: `Close()`, then both watchers are stopped. -/
def destroy (server : TcpServer) (conn : ℕ) : TcpServer :=
  match server.heap conn with
  | none => server
  | some connection =>
      { server.close conn connection with
        heap := Function.update (server.close conn connection).heap conn none }

/-- `m_SocketInfoManager.Remove(sClient)`: the entry held the last pointer to its
connection, which is destroyed. -/
def removeConn (server : TcpServer) (sClient : SocketClientData) : Option TcpServer :=
  (server.socketInfoManager.remove sClient).map fun manager =>
    match server.socketInfoManager.lookup sClient with
    | none => { server with socketInfoManager := manager }
    | some conn => { server with socketInfoManager := manager }.destroy conn

/-! ### The callbacks of a connection -/

/-- The common shape of the four terminations: report, then remove. -/
def terminate (server : TcpServer) (sClient : SocketClientData) (nErrorCode : Int32) :
    Option TcpServer :=
  (server.emit (.onClientDisconnected sClient nErrorCode)).removeConn sClient

/-- `OnClientDisconnected(sClient, nErrorCode)`. -/
def onClientDisconnected (server : TcpServer) (sClient : SocketClientData)
    (nErrorCode : Int32) : Option TcpServer :=
  server.terminate sClient nErrorCode

/-- `OnClientRecvError(sClient, nErrorCode)`. -/
def onClientRecvError (server : TcpServer) (sClient : SocketClientData)
    (nErrorCode : Int32) : Option TcpServer :=
  server.terminate sClient nErrorCode

/-- `OnClientSendError(sClient, nErrorCode)`. -/
def onClientSendError (server : TcpServer) (sClient : SocketClientData)
    (nErrorCode : Int32) : Option TcpServer :=
  server.terminate sClient nErrorCode

/-- `OnClientTimeout(sClient)`: reported with error code 0. -/
def onClientTimeout (server : TcpServer) (sClient : SocketClientData) : Option TcpServer :=
  server.terminate sClient 0

/-- `CTcpConnection::Send(pOutputBuffer)`. -/
def connSend (server : TcpServer) (conn : ℕ) (connection : TcpConnection)
    (pOutputBuffer : OutputBuffer) : Option TcpServer :=
  if connection.writeQueue.length > writeQueueMaxSize then
    server.onClientSendError connection.socketClient 0
  else
    some (server.setConn conn { connection with
      writeQueue := connection.writeQueue ++ [pOutputBuffer]
      io := connection.io.set Interest.readWrite })

/-- `CTcpConnection::__ErrorCallback()`. -/
def errorCallback (server : TcpServer) (connection : TcpConnection) (errno : Int32) :
    Option TcpServer :=
  server.onClientDisconnected connection.socketClient errno

/-- The descriptor of a connection's watcher is open. -/
abbrev Opened (server : TcpServer) (connection : TcpConnection) : Prop :=
  (server.owner connection.io.fd).isSome = true

/-- The `EV_READ` branch of `CTcpConnection::__IoCallback`, and whether the callback
goes on behind it. -/
def ioRead (server : TcpServer) (conn : ℕ) (connection : TcpConnection) (nRead : RecvResult)
    (now : Int32) : Option (TcpServer × Bool) :=
  if nRead.Possible (server.Opened connection) then
    match nRead with
    | .eof => (server.onClientDisconnected connection.socketClient 0).map fun next => (next, false)
    | .again => some (server, true)
    | .error errno =>
        (server.onClientRecvError connection.socketClient errno).map fun next => (next, false)
    | .data pData =>
        some ((server.setConn conn { connection with nLasttime := now }).emit
          (.onClientDataReceived conn connection.socketClient pData
            (server.owner connection.io.fd)), true)
  else
    none

/-- The `EV_WRITE` branch of `CTcpConnection::__IoCallback`. -/
def ioWrite (server : TcpServer) (conn : ℕ) (connection : TcpConnection)
    (nWritten : WriteResult) (now : Int32) : Option TcpServer :=
  match connection.writeQueue with
  | [] =>
      some (server.setConn conn { connection with io := connection.io.set Interest.readOnly })
  | pBuffer :: rest =>
      if nWritten.Possible (server.Opened connection) pBuffer.getBytes then
        match nWritten with
        | .again => some server
        | .error errno => server.onClientSendError connection.socketClient errno
        | .wrote count =>
            if fits : count ≤ pBuffer.getBytes then
              some ((server.setConn conn { connection with
                nLasttime := now
                writeQueue := advanceQueue pBuffer count fits rest
                io := if advanceQueue pBuffer count fits rest = [] then
                    connection.io.set Interest.readOnly
                  else
                    connection.io }).emit
                (.written conn (pBuffer.getDataPos.take count) (server.owner connection.io.fd)))
            else
              none
      else
        none

/-- `CTcpConnection::__IoCallback(watcher, revents)` of connection object `conn`. -/
def ioCallback (server : TcpServer) (conn : ℕ) (revents : Revents) (nRead : RecvResult)
    (nWritten : WriteResult) (errno now : Int32) : Option TcpServer :=
  match server.heap conn with
  | none => none
  | some connection =>
      if Reported connection.io revents then
        if revents.error then
          server.errorCallback connection errno
        else
          (if revents.read then server.ioRead conn connection nRead now
            else some (server, true)).bind fun afterRead =>
              match afterRead with
              | (server, false) => some server
              | (server, true) =>
                  if revents.write then
                    (server.heap conn).bind fun connection =>
                      server.ioWrite conn connection nWritten now
                  else
                    some server
      else
        none

/-- `CTcpConnection::__TimerCallback(watcher, revents)` of connection object `conn`;
`error` is the bit `EV_ERROR`, without it the timer has fired. -/
def timerCallback (server : TcpServer) (conn : ℕ) (error : Bool) (errno now : Int32) :
    Option TcpServer :=
  match server.heap conn with
  | none => none
  | some connection =>
      if error then
        server.errorCallback connection errno
      else if now - connection.nLasttime ≥ tcpConnectionTimeout then
        server.onClientTimeout connection.socketClient
      else
        some server

/-! ### The functions of the server -/

/-- `__Accept(watcher, revents)`.  A descriptor `accept` returns was not open; the
object of an entry the registry overwrites is destroyed. -/
def accept (server : TcpServer) (now : Int32) : AcceptResult → Option TcpServer
  | .watcherError => some server
  | .failed => some server
  | .client IP Port client_fd =>
      if 0 ≤ client_fd ∧ server.owner client_fd = none then
        let sClient : SocketClientData := ⟨IP, Port, client_fd⟩
        let conn := server.nextConn
        let created := { (server.setConn conn (TcpConnection.new sClient server.nTimeout now)).emit
            (.accepted conn sClient) with
          nextConn := conn + 1
          owner := Function.update server.owner client_fd (some conn) }
        (server.socketInfoManager.add sClient conn).map fun manager =>
          let added := { created with socketInfoManager := manager }
          (match server.socketInfoManager.lookup sClient with
            | none => added
            | some overwritten => added.destroy overwritten).emit (.onClientConnected sClient)
      else
        none

/-- `Send(sClient, pData, nDataLen)`, one critical section. -/
def send (server : TcpServer) (sClient : SocketClientData) (pData : Bytes) : TcpServer :=
  { server.emit (.sent sClient pData) with
    functions := server.functions ++ [(sClient, OutputBuffer.new pData)] }

/-- `functions.swap(m_Functions)` in `__AsyncCallback`, one critical section. -/
def asyncSwap (server : TcpServer) : TcpServer :=
  { server with functions := [], batch := server.functions }

/-- `functions[i]()` in `__AsyncCallback`, that is `__Send(sClient, pOutputBuffer)`. -/
def asyncExec (server : TcpServer) : Option TcpServer :=
  match server.batch with
  | [] => none
  | (sClient, pOutputBuffer) :: rest =>
      let called := { server.emit (.executed sClient pOutputBuffer.getDataPos) with batch := rest }
      (called.socketInfoManager.get sClient).bind fun pTcpConnection =>
        match pTcpConnection with
        | none => some called
        | some conn =>
            (called.heap conn).bind fun connection =>
              called.connSend conn connection pOutputBuffer

/-- `CloseClient(sClient)`. -/
def closeClient (server : TcpServer) (sClient : SocketClientData) : Option TcpServer :=
  (server.socketInfoManager.get sClient).bind fun pTcpConnection =>
    match pTcpConnection with
    | none => some server
    | some conn => (server.heap conn).map fun connection => server.close conn connection

/-! ### Runs -/

/-- Who moves, and what the environment answers. -/
inductive Label where
  | accept (result : AcceptResult) (now : Int32)
  | io (conn : ℕ) (revents : Revents) (nRead : RecvResult) (nWritten : WriteResult)
      (errno now : Int32)
  | timer (conn : ℕ) (error : Bool) (errno now : Int32)
  | asyncSwap
  | asyncExec
  | send (sClient : SocketClientData) (pData : Bytes)
  | closeClient (sClient : SocketClientData)
  deriving DecidableEq, Repr

/-- One step.  The loop thread calls no other callback while it is inside
`__AsyncCallback`; `Send` and `CloseClient` can come at any moment. -/
def step (server : TcpServer) : Label → Option TcpServer
  | .accept result now => if server.batch = [] then server.accept now result else none
  | .io conn revents nRead nWritten errno now =>
      if server.batch = [] then server.ioCallback conn revents nRead nWritten errno now else none
  | .timer conn error errno now =>
      if server.batch = [] then server.timerCallback conn error errno now else none
  | .asyncSwap => if server.batch = [] then some server.asyncSwap else none
  | .asyncExec => server.asyncExec
  | .send sClient pData => some (server.send sClient pData)
  | .closeClient sClient => server.closeClient sClient

end TcpServer

end ServerLib
