import ServerLib.Library.Transition
import ServerLib.UdpProxy

/-!
# The UDP proxy between its senders and an echo server

Any number of senders, the proxy (test/udpproxy.cpp), the echo server (test/udpechoserver.cpp)
as its target, and UDP in between, which loses datagrams, delivers them twice and in another
order.  A datagram that was sent once may therefore be read at any later time, any number of
times: the four lists only grow, and a read takes any element of its list.

The proxy keeps nothing about a request.  That a reply finds its way to the sender of the
request, and to nobody else, rests on the ten bytes in front of the payload alone, through
three buffers of 1500 bytes.  `Traced` says what is on its way: every request at the target is
one the proxy made of a sender's datagram, and every reply at the proxy and at the senders
goes back to one of these.
-/

namespace ServerLib

open Transition

namespace UdpEchoServer

/-- `CUdpServerDataHandle::OnDataReceived(IP, Port, pData, nLen)` of test/udpechoserver.cpp: the
arguments it calls `g_pUdpServer->Send` with. -/
def onDataReceived (IP : UInt32) (Port : UInt16) (pData : Bytes) : Datagram := ⟨IP, Port, pData⟩

/-- What the echo server sends for a datagram it reads. -/
def echo (server : UdpServer) (datagram : Datagram) : Option Datagram :=
  (UdpServer.readCallback UdpProxy.readable (some datagram)).bind fun received =>
    let call := onDataReceived received.IP received.Port received.data
    server.send call.IP call.Port call.data

end UdpEchoServer

/-- What was sent so far: by the senders, by the clients of the pool, to them by the target,
and by the server of the proxy. -/
structure UdpNetwork where
  toProxy : List Datagram
  toTarget : List (Int32 × Bytes)
  toClient : List (Int32 × Bytes)
  toSender : List Datagram
  deriving DecidableEq, Repr

namespace UdpNetwork

/-- Nothing was sent. -/
def start : UdpNetwork := ⟨[], [], [], []⟩

/-- Who reads which datagram. -/
inductive Label where
  /-- A sender sends; the address is its own. -/
  | send (datagram : Datagram)
  /-- The server of the proxy reads. -/
  | request (datagram : Datagram)
  /-- The target reads what a client of the pool has sent, from the address that client's
  socket was given. -/
  | echo (client : Int32) (IP : UInt32) (Port : UInt16) (data : Bytes)
  /-- A client of the pool reads. -/
  | reply (client : Int32) (IP : UInt32) (Port : UInt16) (data : Bytes)
  deriving DecidableEq, Repr

/-- One step.  A read that nothing is sent for is a step that changes nothing. -/
def step (proxy : UdpProxy) (target : UdpServer) (net : UdpNetwork) : Label → Option UdpNetwork
  | .send datagram => some { net with toProxy := net.toProxy ++ [datagram] }
  | .request datagram =>
      if datagram ∈ net.toProxy then
        some { net with
          toTarget := net.toTarget ++ ((proxy.request datagram).map fun request =>
            (proxy.pool.hash datagram.IP datagram.Port, request.data)).toList }
      else
        none
  | .echo client IP Port data =>
      if (client, data) ∈ net.toTarget then
        some { net with
          toClient := net.toClient ++ ((UdpEchoServer.echo target ⟨IP, Port, data⟩).map
            fun echoed => (client, echoed.data)).toList }
      else
        none
  | .reply client IP Port data =>
      if (client, data) ∈ net.toClient then
        some { net with toSender := net.toSender ++ (proxy.reply ⟨IP, Port, data⟩).toList }
      else
        none

/-! ## What a datagram becomes -/

/-- As much of a payload as comes back: what the buffer holds behind ten bytes. -/
def payload (datagram : Datagram) : Bytes := (datagram.data.drop 4).take 1490

/-- The reply to a datagram. -/
def returned (datagram : Datagram) : Datagram :=
  ⟨datagram.IP, datagram.Port,
    intBytes (Int32.ofNat (payload datagram).length) ++ payload datagram⟩

/-- A request the proxy made of a datagram: four bytes, the sender's address, and the
payload. -/
def IsRequest (datagram : Datagram) (data : Bytes) : Prop :=
  ∃ header more : Bytes, header.length = 4 ∧ 0 < more.length ∧
    more.take 1490 = payload datagram ∧
    data = header ++ unsignedBytes datagram.IP ++ unsignedShortBytes datagram.Port ++ more

variable {proxy : UdpProxy} {target : UdpServer} {net next : UdpNetwork} {datagram : Datagram}
  {data : Bytes}

/-- A datagram is read as far as the buffer goes. -/
theorem readCallback_some {received : Datagram}
    (read : UdpServer.readCallback UdpProxy.readable (some datagram) = some received) :
    received = { datagram with data := datagram.data.take szBufferSize } := by
  rw [UdpServer.readCallback, readDatagram] at read
  obtain ⟨-, read⟩ := Option.ite_none_left_eq_some.mp read
  obtain ⟨-, same⟩ := Option.ite_none_right_eq_some.mp read
  exact (Option.some.inj same).symm

/-- The ten bytes in front of the payload are in every buffer, and 1490 bytes behind them. -/
theorem take_request {header : Bytes} (header_length : header.length = 4) (sender : Datagram)
    (more : Bytes) :
    (header ++ unsignedBytes sender.IP ++ unsignedShortBytes sender.Port ++ more).take
        szBufferSize =
      header ++ unsignedBytes sender.IP ++ unsignedShortBytes sender.Port ++ more.take 1490 := by
  have length : (header ++ unsignedBytes sender.IP ++ unsignedShortBytes sender.Port).length =
      10 := by
    simp [header_length]
  rw [List.take_append, length, List.take_of_length_le (by rw [length]; decide)]
  rfl

theorem isRequest_of_request {request : Datagram} (sent : proxy.request datagram = some request) :
    5 ≤ datagram.data.length ∧ IsRequest datagram request.data := by
  obtain ⟨received, read, called⟩ := Option.bind_eq_some_iff.mp sent
  obtain rfl := readCallback_some read
  obtain ⟨call, rewritten, called⟩ := Option.bind_eq_some_iff.mp called
  obtain ⟨long, same⟩ := Option.ite_none_left_eq_some.mp rewritten
  obtain rfl := Option.some.inj same
  obtain ⟨client, -, called⟩ := Option.bind_eq_some_iff.mp called
  obtain ⟨-, same⟩ := Option.ite_none_right_eq_some.mp called
  obtain rfl := Option.some.inj same
  dsimp only at long
  rw [List.length_take] at long
  refine ⟨by omega, intBytes _, _, length_intBytes _, ?_, ?_, rfl⟩
  · rw [List.length_drop, List.length_take]
    omega
  · rw [List.drop_take, List.take_take]
    rfl

theorem exists_request (up : proxy.Up) (long : 5 ≤ datagram.data.length) :
    ∃ request, proxy.request datagram = some request := by
  obtain ⟨client, found⟩ := proxy.pool.exists_client datagram.IP datagram.Port
  have isOpen : client.socket > 0 := up.clients client (element_mem found)
  have long' : ¬ (datagram.data.take szBufferSize).length ≤ 4 := by
    rw [List.length_take, szBufferSize]
    omega
  rw [UdpProxy.request, UdpServer.readCallback, readDatagram_some rfl (by omega), Option.bind_some,
    UdpProxy.serverOnDataReceived, if_neg long', Option.bind_some]
  dsimp only
  rw [UdpProxyClientPool.send, found, Option.bind_some, UdpClient.send, if_pos isOpen]
  exact ⟨_, rfl⟩

theorem exists_echo (isOpen : 0 < target.socket) (isRequest : IsRequest datagram data)
    (IP : UInt32) (Port : UInt16) :
    ∃ echoed, UdpEchoServer.echo target ⟨IP, Port, data⟩ = some echoed := by
  obtain ⟨header, more, header_length, some_more, -, rfl⟩ := isRequest
  rw [UdpEchoServer.echo, UdpServer.readCallback, readDatagram_some rfl (by simp), Option.bind_some]
  exact ⟨_, if_pos isOpen⟩

theorem IsRequest.echo (isRequest : IsRequest datagram data) {IP : UInt32} {Port : UInt16}
    {echoed : Datagram} (sent : UdpEchoServer.echo target ⟨IP, Port, data⟩ = some echoed) :
    IsRequest datagram echoed.data := by
  obtain ⟨header, more, header_length, some_more, whole, rfl⟩ := isRequest
  obtain ⟨received, read, called⟩ := Option.bind_eq_some_iff.mp sent
  obtain rfl := readCallback_some read
  obtain ⟨-, same⟩ := Option.ite_none_right_eq_some.mp called
  obtain rfl := Option.some.inj same
  refine ⟨header, more.take 1490, header_length, ?_, ?_, take_request header_length datagram more⟩
  · rw [List.length_take]
    omega
  · rw [List.take_take, min_self, whole]

/-- **A reply goes back to the sender of the request**, with the payload of its datagram. -/
theorem IsRequest.reply (up : proxy.Up) (isRequest : IsRequest datagram data) (IP : UInt32)
    (Port : UInt16) : proxy.reply ⟨IP, Port, data⟩ = some (returned datagram) := by
  obtain ⟨header, more, header_length, some_more, whole, rfl⟩ := isRequest
  rw [proxy.reply_eq up IP Port datagram header more header_length some_more, whole]
  rfl

/-! ## What is on its way -/

/-- Everything behind the proxy comes from a datagram at the proxy. -/
structure Traced (net : UdpNetwork) : Prop where
  toTarget : ∀ entry ∈ net.toTarget, ∃ datagram ∈ net.toProxy,
    5 ≤ datagram.data.length ∧ IsRequest datagram entry.2
  toClient : ∀ entry ∈ net.toClient, ∃ datagram ∈ net.toProxy,
    5 ≤ datagram.data.length ∧ IsRequest datagram entry.2
  toSender : ∀ reply ∈ net.toSender, ∃ datagram ∈ net.toProxy,
    5 ≤ datagram.data.length ∧ reply = returned datagram

theorem traced_start : start.Traced := ⟨nofun, nofun, nofun⟩

/-- **Every step keeps it.** -/
theorem Traced.step (up : proxy.Up) (traced : net.Traced) {label : Label}
    (taken : net.step proxy target label = some next) : next.Traced := by
  cases label with
  | send datagram =>
      obtain rfl := Option.some.inj taken
      have grown : ∀ {P : Datagram → Prop}, (∃ datagram ∈ net.toProxy, P datagram) →
          ∃ other ∈ net.toProxy ++ [datagram], P other := fun ⟨other, member, holds⟩ =>
        ⟨other, List.mem_append_left _ member, holds⟩
      exact ⟨fun entry member => grown (traced.toTarget entry member),
        fun entry member => grown (traced.toClient entry member),
        fun reply member => grown (traced.toSender reply member)⟩
  | request datagram =>
      obtain ⟨member, same⟩ := Option.ite_none_right_eq_some.mp taken
      obtain rfl := Option.some.inj same
      refine ⟨fun entry sent => ?_, traced.toClient, traced.toSender⟩
      rcases List.mem_append.mp sent with before | new
      · exact traced.toTarget entry before
      · obtain ⟨request, made, rfl⟩ := Option.map_eq_some_iff.mp (Option.mem_toList.mp new)
        exact ⟨datagram, member, isRequest_of_request made⟩
  | echo client IP Port data =>
      obtain ⟨member, same⟩ := Option.ite_none_right_eq_some.mp taken
      obtain rfl := Option.some.inj same
      refine ⟨traced.toTarget, fun entry sent => ?_, traced.toSender⟩
      rcases List.mem_append.mp sent with before | new
      · exact traced.toClient entry before
      · obtain ⟨echoed, made, rfl⟩ := Option.map_eq_some_iff.mp (Option.mem_toList.mp new)
        obtain ⟨datagram, origin, long, isRequest⟩ := traced.toTarget _ member
        exact ⟨datagram, origin, long, isRequest.echo made⟩
  | reply client IP Port data =>
      obtain ⟨member, same⟩ := Option.ite_none_right_eq_some.mp taken
      obtain rfl := Option.some.inj same
      refine ⟨traced.toTarget, traced.toClient, fun reply sent => ?_⟩
      rcases List.mem_append.mp sent with before | new
      · exact traced.toSender reply before
      · obtain ⟨datagram, origin, long, isRequest⟩ := traced.toClient _ member
        rw [isRequest.reply up, Option.toList_some, List.mem_singleton] at new
        exact ⟨datagram, origin, long, new⟩

/-- The three reads by which a datagram comes back. -/
theorem step_request (member : datagram ∈ net.toProxy) {request : Datagram}
    (made : proxy.request datagram = some request) :
    net.step proxy target (.request datagram) = some { net with
      toTarget := net.toTarget ++
        [(proxy.pool.hash datagram.IP datagram.Port, request.data)] } := by
  rw [step, if_pos member, made]
  rfl

theorem step_echo {client : Int32} (member : (client, data) ∈ net.toTarget) {IP : UInt32}
    {Port : UInt16} {echoed : Datagram}
    (made : UdpEchoServer.echo target ⟨IP, Port, data⟩ = some echoed) :
    net.step proxy target (.echo client IP Port data) =
      some { net with toClient := net.toClient ++ [(client, echoed.data)] } := by
  rw [step, if_pos member, made]
  rfl

theorem step_reply {client : Int32} (member : (client, data) ∈ net.toClient) {IP : UInt32}
    {Port : UInt16} {reply : Datagram} (made : proxy.reply ⟨IP, Port, data⟩ = some reply) :
    net.step proxy target (.reply client IP Port data) =
      some { net with toSender := net.toSender ++ [reply] } := by
  rw [step, if_pos member, made]
  rfl

variable {labels : List Label} {last : UdpNetwork}

/-- **The proxy returns datagrams to their senders and to nobody else.**  In every run of the
senders, the proxy, the echo server and a network that loses, repeats and reorders datagrams:
what is sent back to an address is the payload of a datagram that was sent from this address,
as far as the buffers hold it and behind its length; and every datagram with a payload that
was sent can still come back. -/
theorem replies_of_run (up : proxy.Up) (isOpen : 0 < target.socket)
    (runs : run (step proxy target) start labels = some last) :
    (∀ reply ∈ last.toSender, ∃ datagram ∈ last.toProxy,
      5 ≤ datagram.data.length ∧ reply = returned datagram) ∧
    ∀ datagram ∈ last.toProxy, 5 ≤ datagram.data.length →
      ∃ more final, run (step proxy target) last more = some final ∧
        returned datagram ∈ final.toSender := by
  have traced : last.Traced :=
    run_invariant (fun _ _ _ traced taken => Traced.step up traced taken) labels traced_start runs
  refine ⟨traced.toSender, fun datagram member long => ?_⟩
  obtain ⟨request, made⟩ := exists_request up long
  have isRequest := (isRequest_of_request made).2
  obtain ⟨echoed, echoes⟩ := exists_echo isOpen isRequest 0 0
  have replied := (isRequest.echo echoes).reply up 0 0
  refine ⟨[.request datagram, .echo (proxy.pool.hash datagram.IP datagram.Port) 0 0 request.data,
    .reply (proxy.pool.hash datagram.IP datagram.Port) 0 0 echoed.data],
    { last with
      toTarget := last.toTarget ++ [(proxy.pool.hash datagram.IP datagram.Port, request.data)]
      toClient := last.toClient ++ [(proxy.pool.hash datagram.IP datagram.Port, echoed.data)]
      toSender := last.toSender ++ [returned datagram] }, ?_, ?_⟩
  · rw [run_cons, step_request member made, Option.bind_some, run_cons,
      step_echo (List.mem_append_right _ (List.mem_singleton_self _)) echoes, Option.bind_some,
      run_cons, step_reply (List.mem_append_right _ (List.mem_singleton_self _)) replied,
      Option.bind_some, run_nil]
  · exact List.mem_append_right _ (List.mem_singleton_self _)

/-- A sender's datagram with one byte, read twice. -/
theorem replies_of_run_twice :
    ∃ last, run (step ⟨⟨3⟩, ⟨1, [⟨2130706433, 8888, 4⟩], by decide, by decide⟩⟩ ⟨5⟩) start
        [.send ⟨167772161, 40000, [1, 0, 0, 0, 7]⟩, .send ⟨167772162, 50000, [1, 0, 0, 0, 8]⟩,
          .request ⟨167772161, 40000, [1, 0, 0, 0, 7]⟩,
          .request ⟨167772161, 40000, [1, 0, 0, 0, 7]⟩,
          .echo 0 1 2 [7, 0, 0, 0, 1, 0, 0, 10, 64, 156, 7],
          .reply 0 2130706433 8888 [7, 0, 0, 0, 1, 0, 0, 10, 64, 156, 7]] = some last ∧
      (∀ reply ∈ last.toSender, ∃ datagram ∈ last.toProxy,
        5 ≤ datagram.data.length ∧ reply = returned datagram) ∧
      ∀ datagram ∈ last.toProxy, 5 ≤ datagram.data.length →
        ∃ more final, run (step ⟨⟨3⟩, ⟨1, [⟨2130706433, 8888, 4⟩], by decide, by decide⟩⟩ ⟨5⟩)
          last more = some final ∧ returned datagram ∈ final.toSender := by
  obtain ⟨last, runs⟩ := Option.isSome_iff_exists.mp
    (show (run (step ⟨⟨3⟩, ⟨1, [⟨2130706433, 8888, 4⟩], by decide, by decide⟩⟩ ⟨5⟩) start
        [.send ⟨167772161, 40000, [1, 0, 0, 0, 7]⟩, .send ⟨167772162, 50000, [1, 0, 0, 0, 8]⟩,
          .request ⟨167772161, 40000, [1, 0, 0, 0, 7]⟩,
          .request ⟨167772161, 40000, [1, 0, 0, 0, 7]⟩,
          .echo 0 1 2 [7, 0, 0, 0, 1, 0, 0, 10, 64, 156, 7],
          .reply 0 2130706433 8888 [7, 0, 0, 0, 1, 0, 0, 10, 64, 156, 7]]).isSome = true by
      decide +kernel)
  exact ⟨last, runs, replies_of_run ⟨by decide, by decide⟩ (by decide) runs⟩

end UdpNetwork

end ServerLib
