import ServerLib.Watcher

/-!
# The UDP endpoints: `CUdpServer` and `CUdpClient`

Both classes (udpserver.cpp, udpclient.cpp) are one socket without a queue: `Send`
hands a datagram to `sendto` where the socket is open, and `__ReadCallback` takes one
datagram off the socket and passes it to the data handler.

The one thing that can happen to the bytes happens in the callback.  `recvfrom` is
given a buffer of 1500 bytes, and what a datagram has beyond the buffer is lost
without an error.  The two callbacks are the same code, so `readDatagram` is written
once and each class has its own name for it.

Addresses and ports are in host order throughout: `htonl` on the way out and `ntohl`
on the way in are each other's inverse.
-/

namespace ServerLib

/-- A datagram with the address of its other end: where it came from, or where it is
sent to. -/
structure Datagram where
  IP : UInt32
  Port : UInt16
  data : Bytes
  deriving DecidableEq, Repr

/-- `sizeof(szBuffer)` of the two read callbacks. -/
def szBufferSize : ℕ := 1500

/-- `recvfrom` with room for `size` bytes, on a socket at which a datagram waits. -/
def recvfrom (size : ℕ) (waiting : Datagram) : Datagram :=
  { waiting with data := waiting.data.take size }

/-- The arguments `__ReadCallback` calls `OnDataReceived` with, if it does.  Nothing
waiting is the result -1 of `recvfrom`. -/
def readDatagram (revents : Revents) (waiting : Option Datagram) : Option Datagram :=
  if revents.error then
    none
  else
    match waiting with
    | none => none
    | some datagram =>
        let received := recvfrom szBufferSize datagram
        if 0 < received.data.length then some received else none

/-- A datagram that is not empty is passed on up to the size of the buffer. -/
theorem readDatagram_some {revents : Revents} (fine : revents.error = false)
    {datagram : Datagram} (some_data : 0 < datagram.data.length) :
    readDatagram revents (some datagram) =
      some { datagram with data := datagram.data.take szBufferSize } := by
  have some_received : 0 < (recvfrom szBufferSize datagram).data.length := by
    rw [recvfrom, List.length_take]
    exact Nat.lt_min.mpr ⟨by decide, some_data⟩
  rw [readDatagram, if_neg (by rw [fine]; decide)]
  exact if_pos some_received

/-! ## `CUdpServer` -/

/-- `CUdpServer`. -/
structure UdpServer where
  socket : Int32
  deriving DecidableEq, Repr

namespace UdpServer

/-- `Send(IP, Port, pData, nDataLen)`: the datagram given to `sendto`, if it is
called. -/
def send (server : UdpServer) (IP : UInt32) (Port : UInt16) (pData : Bytes) : Option Datagram :=
  if server.socket > 0 then some ⟨IP, Port, pData⟩ else none

/-- `__ReadCallback(watcher, revents)`. -/
def readCallback (revents : Revents) (waiting : Option Datagram) : Option Datagram :=
  readDatagram revents waiting

end UdpServer

/-! ## `CUdpClient` -/

/-- `CUdpClient`: the address every datagram is sent to, and the socket. -/
structure UdpClient where
  IP : UInt32
  Port : UInt16
  socket : Int32
  deriving DecidableEq, Repr

namespace UdpClient

/-- `Send(pData, nDataLen)`: the datagram given to `sendto`, if it is called. -/
def send (client : UdpClient) (pData : Bytes) : Option Datagram :=
  if client.socket > 0 then some ⟨client.IP, client.Port, pData⟩ else none

/-- `__ReadCallback(watcher, revents)`. -/
def readCallback (revents : Revents) (waiting : Option Datagram) : Option Datagram :=
  readDatagram revents waiting

end UdpClient

end ServerLib
