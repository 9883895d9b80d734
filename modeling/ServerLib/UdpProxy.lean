import ServerLib.ProxyData
import ServerLib.Udp

/-!
# The UDP proxy

test/udpproxy.cpp puts a pool of UDP clients behind a UDP server.  A request is
rewritten on the way to the target: the sender's address goes in behind the length
field, and the length grows by its six bytes.  The target answers to the socket the
request came from, and the reply is rewritten back: the address is taken out again,
tells where the reply goes, and the length shrinks by ten less the four of the field.
The proxy keeps nothing between the two, so what one request becomes is a function,
`roundTrip`, of the request alone.

## Where the two rewrites meet

They are inverse to each other, but there is a buffer between them.  The reply is six
bytes longer than the request and is read through the same 1500 bytes, so a request of
more than 1494 bytes comes back without its end.  Nothing tells: the length field of
the reply is computed afresh from what was read, and is right again.

`roundTrip_eq` is what comes back at every length, and `roundTrip_eq_self_iff` the
exact condition under which it is what was sent.
-/

namespace ServerLib

namespace UdpProxy

/-! ## The rewrites -/

/-- `CUdpServerDataHandle::OnDataReceived(IP, Port, pData, nDataLen)`: the arguments it
calls `g_pUdpProxyClientPool->Send` with, if it does. -/
def serverOnDataReceived (IP : UInt32) (Port : UInt16) (pData : Bytes) : Option Datagram :=
  if pData.length ≤ 4 then
    none
  else
    let nPktLen := Int32.ofNat pData.length - 4 + 6
    some ⟨IP, Port, intBytes nPktLen ++ unsignedBytes IP ++ unsignedShortBytes Port ++
      pData.drop 4⟩

/-- `CUdpClientDataHandle::OnDataReceived(IP, Port, pData, nDataLen)`: the arguments it
calls `g_pUdpServer->Send` with, if it does.  The address it was called with is
overwritten. -/
def clientOnDataReceived (_IP : UInt32) (_Port : UInt16) (pData : Bytes) : Option Datagram :=
  if pData.length ≤ 10 then
    none
  else
    let nPktLen := Int32.ofNat pData.length - 10
    some ⟨readUnsigned (pData.drop 4), readUnsignedShort (pData.drop 8),
      intBytes nPktLen ++ pData.drop 10⟩

end UdpProxy

/-! ## The pool -/

/-- `CUdpProxyClientPool` after `Init()`: as many clients as `concurrency` says, and
`concurrency` is a number of elements an array can have. -/
structure UdpProxyClientPool where
  concurrency : Int32
  udpProxyClients : List UdpClient
  concurrency_pos : 0 < concurrency.toInt
  length_eq : (udpProxyClients.length : Int) = concurrency.toInt

namespace UdpProxyClientPool

/-- `__Hash(IP, Port)`: an unsigned remainder, returned as an `int`. -/
def hash (pool : UdpProxyClientPool) (IP : UInt32) (Port : UInt16) : Int32 :=
  ((IP + Port.toUInt32) % pool.concurrency.toUInt32).toInt32

/-- The client a request is sent through. -/
def client (pool : UdpProxyClientPool) (IP : UInt32) (Port : UInt16) : Option UdpClient :=
  element pool.udpProxyClients (pool.hash IP Port)

/-- `Send(IP, Port, pData, nDataLen)`: the datagram the client gives to `sendto`, if
there is a client and its socket is open. -/
def send (pool : UdpProxyClientPool) (IP : UInt32) (Port : UInt16) (pData : Bytes) :
    Option Datagram :=
  (pool.client IP Port).bind fun client => client.send pData

/-- The hash of every address is an index of the array. -/
theorem hash_bounds (pool : UdpProxyClientPool) (IP : UInt32) (Port : UInt16) :
    0 ≤ (pool.hash IP Port).toInt ∧ (pool.hash IP Port).toInt < pool.concurrency.toInt := by
  have pos := pool.concurrency_pos
  have below := pool.concurrency.toInt_lt
  have size := toNat_toUInt32 (n := pool.concurrency) (by omega)
  have small : ((IP + Port.toUInt32) % pool.concurrency.toUInt32).toNat <
      pool.concurrency.toUInt32.toNat := by
    rw [UInt32.toNat_mod]
    exact Nat.mod_lt _ (by omega)
  rw [hash, toInt_toInt32 (by omega)]
  omega

/-- Every address has a client. -/
theorem exists_client (pool : UdpProxyClientPool) (IP : UInt32) (Port : UInt16) :
    ∃ client, pool.client IP Port = some client := by
  obtain ⟨nonneg, inside⟩ := pool.hash_bounds IP Port
  exact exists_element nonneg (by rw [pool.length_eq]; exact inside)

end UdpProxyClientPool

/-! ## The round trip -/

/-- The proxy: `g_pUdpServer` and `g_pUdpProxyClientPool`. -/
structure UdpProxy where
  server : UdpServer
  pool : UdpProxyClientPool

namespace UdpProxy

/-- Every socket of the proxy is open. -/
structure Up (proxy : UdpProxy) : Prop where
  server : 0 < proxy.server.socket
  clients : ∀ client ∈ proxy.pool.udpProxyClients, 0 < client.socket

/-- The events of a callback that has a datagram to read. -/
def readable : Revents := ⟨false, true, false⟩

/-- The request a datagram becomes: read by the server, rewritten, and sent to the
target by a client of the pool. -/
def request (proxy : UdpProxy) (datagram : Datagram) : Option Datagram :=
  (UdpServer.readCallback readable (some datagram)).bind fun received =>
    (serverOnDataReceived received.IP received.Port received.data).bind fun call =>
      proxy.pool.send call.IP call.Port call.data

/-- The reply a datagram from the target becomes: read by the client, rewritten back,
and sent by the server. -/
def reply (proxy : UdpProxy) (datagram : Datagram) : Option Datagram :=
  (UdpClient.readCallback readable (some datagram)).bind fun received =>
    (clientOnDataReceived received.IP received.Port received.data).bind fun call =>
      proxy.server.send call.IP call.Port call.data

/-- **The way there and back**, where the target returns what it is sent: a datagram
sent to an address comes back from that address with the same bytes. -/
def roundTrip (proxy : UdpProxy) (datagram : Datagram) : Option Datagram :=
  (proxy.request datagram).bind fun echoed => proxy.reply echoed

/-- A request is the datagram with the sender's address put in. -/
theorem request_eq (proxy : UdpProxy) (up : proxy.Up) (datagram : Datagram)
    (low : 5 ≤ datagram.data.length) (high : datagram.data.length ≤ 1500) :
    ∃ target : UdpClient, proxy.request datagram = some ⟨target.IP, target.Port,
      intBytes (Int32.ofNat datagram.data.length - 4 + 6) ++ unsignedBytes datagram.IP ++
        unsignedShortBytes datagram.Port ++ datagram.data.drop 4⟩ := by
  obtain ⟨client, found⟩ := proxy.pool.exists_client datagram.IP datagram.Port
  have opened : client.socket > 0 := up.clients client (element_mem found)
  have whole : datagram.data.take szBufferSize = datagram.data := List.take_of_length_le high
  refine ⟨client, ?_⟩
  rw [request, UdpServer.readCallback, readDatagram_some rfl (by omega), Option.bind_some, whole]
  dsimp only
  rw [serverOnDataReceived, if_neg (by omega), Option.bind_some]
  dsimp only
  rw [UdpProxyClientPool.send, found, Option.bind_some, UdpClient.send, if_pos opened]

/-- A reply goes to the address inside it, as far as it was read. -/
theorem reply_eq (proxy : UdpProxy) (up : proxy.Up) (IP : UInt32) (Port : UInt16)
    (sender : Datagram) (header payload : Bytes) (header_length : header.length = 4)
    (some_payload : 0 < payload.length) :
    proxy.reply ⟨IP, Port, header ++ unsignedBytes sender.IP ++
        unsignedShortBytes sender.Port ++ payload⟩ =
      some ⟨sender.IP, sender.Port,
        intBytes (Int32.ofNat (payload.take 1490).length) ++ payload.take 1490⟩ := by
  -- The buffer holds the ten bytes in front of the payload and 1490 bytes of it.
  have read : (header ++ unsignedBytes sender.IP ++ unsignedShortBytes sender.Port ++
      payload).take szBufferSize = header ++ (unsignedBytes sender.IP ++
        (unsignedShortBytes sender.Port ++ payload.take 1490)) := by
    have whole : header.take 1500 = header := List.take_of_length_le (by omega)
    have address : (unsignedBytes sender.IP).take 1496 = unsignedBytes sender.IP :=
      List.take_of_length_le (by simp)
    have port : (unsignedShortBytes sender.Port).take 1492 = unsignedShortBytes sender.Port :=
      List.take_of_length_le (by simp)
    simp [List.take_append, header_length, szBufferSize, whole, address, port]
  have length : (header ++ (unsignedBytes sender.IP ++
      (unsignedShortBytes sender.Port ++ payload.take 1490))).length =
        10 + (payload.take 1490).length := by
    simp only [List.length_append, header_length, length_unsignedBytes,
      length_unsignedShortBytes]
    omega
  have some_read : 0 < (payload.take 1490).length := by
    rw [List.length_take]
    omega
  rw [reply, UdpClient.readCallback, readDatagram_some rfl (by simp [header_length]),
    Option.bind_some,
    read, clientOnDataReceived, length, if_neg (by omega), Option.bind_some]
  have address : (header ++ (unsignedBytes sender.IP ++ (unsignedShortBytes sender.Port ++
      payload.take 1490))).drop 4 =
        unsignedBytes sender.IP ++ (unsignedShortBytes sender.Port ++ payload.take 1490) := by
    rw [← header_length, List.drop_left]
  have port : (header ++ (unsignedBytes sender.IP ++ (unsignedShortBytes sender.Port ++
      payload.take 1490))).drop 8 = unsignedShortBytes sender.Port ++ payload.take 1490 := by
    rw [show 8 = 4 + 4 from rfl, ← List.drop_drop, address]
    exact List.drop_left' (length_unsignedBytes sender.IP)
  have rest : (header ++ (unsignedBytes sender.IP ++ (unsignedShortBytes sender.Port ++
      payload.take 1490))).drop 10 = payload.take 1490 := by
    rw [show 10 = 8 + 2 from rfl, ← List.drop_drop, port]
    exact List.drop_left' (length_unsignedShortBytes sender.Port)
  have shorter : Int32.ofNat (10 + (payload.take 1490).length) - 10 =
      Int32.ofNat (payload.take 1490).length := by
    rw [Int32.ofNat_add, Int32.add_comm]
    exact Int32.add_sub_cancel _ _
  rw [address, port, rest, shorter, readUnsigned_append, readUnsignedShort_append,
    UdpServer.send, if_pos up.server]

/-- **What comes back**, at every length: the payload as far as the buffer of the
client holds it, behind a length that says so. -/
theorem roundTrip_eq (proxy : UdpProxy) (up : proxy.Up) (datagram : Datagram)
    (low : 5 ≤ datagram.data.length) (high : datagram.data.length ≤ 1500) :
    proxy.roundTrip datagram = some ⟨datagram.IP, datagram.Port,
      intBytes (Int32.ofNat ((datagram.data.drop 4).take 1490).length) ++
        (datagram.data.drop 4).take 1490⟩ := by
  obtain ⟨target, sent⟩ := proxy.request_eq up datagram low high
  rw [roundTrip, sent, Option.bind_some]
  refine proxy.reply_eq up target.IP target.Port datagram _ _ (length_intBytes _) ?_
  rw [List.length_drop]
  omega

/-- **The proxy returns a datagram as it was exactly up to 1494 bytes.** -/
theorem roundTrip_eq_self_iff (proxy : UdpProxy) (up : proxy.Up) (datagram : Datagram)
    (low : 5 ≤ datagram.data.length) (high : datagram.data.length ≤ 1500)
    (header : datagram.data.take 4 = intBytes (Int32.ofNat (datagram.data.length - 4))) :
    proxy.roundTrip datagram = some datagram ↔ datagram.data.length ≤ 1494 := by
  rw [proxy.roundTrip_eq up datagram low high]
  constructor
  · intro same
    have data := congrArg (fun reply => reply.data.length) (Option.some.inj same)
    simp only [List.length_append, length_intBytes, List.length_take, List.length_drop] at data
    omega
  · intro short
    have whole : (datagram.data.drop 4).take 1490 = datagram.data.drop 4 :=
      List.take_of_length_le (by rw [List.length_drop]; omega)
    rw [whole, List.length_drop, ← header, List.take_append_drop]

/-- One client in the pool, and a datagram of five bytes. -/
theorem roundTrip_one_byte :
    roundTrip ⟨⟨3⟩, ⟨1, [⟨2130706433, 8888, 4⟩], by decide, by decide⟩⟩
        ⟨167772161, 40000, [1, 0, 0, 0, 7]⟩ = some ⟨167772161, 40000, [1, 0, 0, 0, 7]⟩ ↔
      [1, 0, 0, 0, 7].length ≤ 1494 :=
  roundTrip_eq_self_iff ⟨⟨3⟩, ⟨1, [⟨2130706433, 8888, 4⟩], by decide, by decide⟩⟩
    ⟨by decide, by decide⟩ ⟨167772161, 40000, [1, 0, 0, 0, 7]⟩ (by decide) (by decide) (by decide)

/-- A datagram of 1495 bytes comes back one byte short. -/
theorem roundTrip_cut_short :
    ¬ ∀ (proxy : UdpProxy) (datagram : Datagram), proxy.Up →
      5 ≤ datagram.data.length → datagram.data.length ≤ 1500 →
      datagram.data.take 4 = intBytes (Int32.ofNat (datagram.data.length - 4)) →
      proxy.roundTrip datagram = some datagram := by
  intro claim
  have size : (intBytes 1491 ++ List.replicate 1491 (7 : Byte)).length = 1495 := by
    rw [List.length_append, length_intBytes, List.length_replicate]
  have up : Up ⟨⟨3⟩, ⟨1, [⟨2130706433, 8888, 4⟩], by decide, by decide⟩⟩ := ⟨by decide, by decide⟩
  have same := claim _ ⟨167772161, 40000, intBytes 1491 ++ List.replicate 1491 7⟩ up
    (by rw [size]; decide) (by rw [size]; decide) (by rw [size]; rfl)
  rw [roundTrip_eq _ up _ (by rw [size]; decide) (by rw [size]; decide)] at same
  have shorter := congrArg (fun reply => reply.data.length) (Option.some.inj same)
  simp only [List.length_append, length_intBytes, List.length_take, List.length_drop,
    List.length_replicate] at shorter
  omega

end UdpProxy

end ServerLib
