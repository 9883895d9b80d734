import ServerLib.Library.Turns
import ServerLib.PacketEchoNetwork
import ServerLib.TestNetwork

/-!
# The test clients against the packet echo server

test/tcpproxytest.cpp sends packets, and test/tcpcommonechoserver.cpp answers packets with four
threads, in any order.  The test clients do not tell one answer from another by anything but
its length.  They get the right ones nevertheless, whatever the number of threads is, because a
client sends a request only when it has the answer to the one before.  So there is at most one
packet of a connection between the server's framing and its `Send`, and whichever thread has
it, that is the next answer.

`Asked` is the half of the clients: their requests are packets.  `InTurn` is the invariant the
two programs keep together, for the connections of clients that have not failed: what was
answered is a front of what was framed.  It draws on the law of the connections in the other
direction than `ServerLib.TestNetwork`: what the *client* has received so far bounds what the
*server* has left to do (`few_left`).
-/

namespace ServerLib

open Transition

/-! ## The requests are packets -/

/-- A number in decimal is short. -/
theorem length_szSeq_le {n : ℕ} (fits : n < 2147483648) : (szSeq n).length ≤ 10 := by
  rw [szSeq, List.length_map]
  exact (Nat.length_toDigits_le_iff (by decide) (by decide)).mpr (by omega)

/-- The requests of test/tcpproxytest.cpp, which numbers them with an `int`, are packets. -/
theorem TcpProxyTest.isPacket_request {total : ℕ} (fits : total < 2147483648) :
    IsPacket (request total) := by
  have short := length_szSeq_le fits
  refine ⟨testdata ++ szSeq total, ⟨?_, ?_⟩, ?_⟩
  · rw [List.length_append]
    exact Nat.le_add_right_of_le (by decide)
  · rw [List.length_append, show testdata.length = 10 from rfl]
    unfold maxPayload
    omega
  · rw [encodePkt, List.length_append]
    rfl

namespace TestClient

/-- What the clients have sent, or are sending, are packets. -/
structure Asked (test : TestClient) : Prop where
  asked : ∀ {number readbuf writebuf}, .succeeded number readbuf writebuf ∈ test.log →
    IsPacket writebuf
  asking : ∀ client ∈ test.clients, client.writebuf = [] ∨ IsPacket client.writebuf

section Step

variable {request : ℕ → Bytes} {test next : TestClient} {number : ℕ} {client : TestConnection}
  {requests concurrency : ℕ}

theorem asked_new (requests concurrency : ℕ) : (new requests concurrency).Asked := ⟨nofun, nofun⟩

/-- A client has moved, and what was logged of it is no success with anything but a packet. -/
theorem Asked.of_grown (asked : test.Asked) {changed : TestConnection} {events : List TestEvent}
    (grown : next.log = test.log ++ events) (set : next.clients = test.clients.set number changed)
    (right : ∀ {number readbuf writebuf}, .succeeded number readbuf writebuf ∈ events →
      IsPacket writebuf)
    (mine : changed.writebuf = [] ∨ IsPacket changed.writebuf) : next.Asked where
  asked member := by
    rw [grown] at member
    exact (List.mem_append.mp member).elim asked.asked right
  asking client member := by
    rw [set] at member
    exact (List.mem_or_eq_of_mem_set member).elim (asked.asking client) fun same => same ▸ mine

theorem Asked.effect (asked : test.Asked) (packet : IsPacket (request test.total))
    (found : test.clients[number]? = some client)
    (effect : Effect request test number client next) : next.Asked := by
  have before := asked.asking client (List.mem_of_getElem? found)
  have filled : (filled request test client).writebuf = [] ∨
      IsPacket (TestClient.filled request test client).writebuf := by
    unfold TestClient.filled
    split
    · exact Or.inr packet
    · exact before
  cases effect with
  | quiet => exact asked
  | failed => exact asked.of_grown rfl rfl (by simp) (Or.inl rfl)
  | received => exact asked.of_grown rfl rfl (by simp) before
  | answered pData some equal =>
      -- as many bytes as were received, so there are some
      have sent : IsPacket client.writebuf := before.resolve_left fun empty => by
        rw [empty, List.length_nil, List.length_eq_zero_iff, List.append_eq_nil_iff] at equal
        exact some equal.2
      refine asked.of_grown (List.append_assoc _ _ _) rfl (fun member => ?_) (Or.inl rfl)
      simp only [List.mem_append, List.mem_singleton, reduceCtorEq, TestEvent.succeeded.injEq,
        false_or] at member
      exact member.2.2 ▸ sent
  | filled => exact asked.of_grown (List.append_nil _).symm rfl nofun filled
  | wrote => exact asked.of_grown rfl rfl (by simp) filled

/-- **The requests stay packets**, where `main` was called with numbers that make them so. -/
theorem Asked.step {label : Label} (asked : test.Asked)
    (accounted : Accounted requests concurrency test) (some_client : 0 < concurrency)
    (enough : concurrency ≤ requests) (packets : ∀ total ≤ requests, IsPacket (request total))
    (taken : test.step request label = some next) : next.Asked := by
  cases label with
  | init fd =>
      obtain ⟨-, same⟩ := Option.ite_none_right_eq_some.mp taken
      obtain rfl := Option.some.inj same
      unfold TestClient.init
      split
      · exact ⟨asked.asked, asked.asking⟩
      · refine ⟨asked.asked, fun client member => ?_⟩
        rcases List.mem_append.mp member with member | member
        · exact asked.asking client member
        · exact Or.inl (List.mem_singleton.mp member ▸ rfl)
  | loop =>
      obtain ⟨-, same⟩ := Option.ite_none_right_eq_some.mp taken
      exact Option.some.inj same ▸ ⟨asked.asked, asked.asking⟩
  | io number revents nRead nWritten =>
      obtain ⟨looping, called⟩ := Option.ite_none_right_eq_some.mp taken
      obtain ⟨client, found, -, effect⟩ := ioCallback_effect
        (fun client found => accounted.one client (List.mem_of_getElem? found)) called
      exact asked.effect (packets _ (accounted.total_le some_client enough looping)) found effect

/-- Clients stay, and so does what was logged. -/
theorem step_grown {label : Label} (accounted : Accounted requests concurrency test)
    (taken : test.step request label = some next) :
    test.clients.length ≤ next.clients.length ∧ test.log <+: next.log := by
  cases label with
  | init fd =>
      obtain ⟨-, same⟩ := Option.ite_none_right_eq_some.mp taken
      obtain rfl := Option.some.inj same
      unfold TestClient.init
      split
      · exact ⟨Nat.le_refl _, List.prefix_rfl⟩
      · exact ⟨(List.prefix_append _ _).length_le, List.prefix_rfl⟩
  | loop =>
      obtain ⟨-, same⟩ := Option.ite_none_right_eq_some.mp taken
      exact Option.some.inj same ▸ ⟨Nat.le_refl _, List.prefix_rfl⟩
  | io number revents nRead nWritten =>
      obtain ⟨-, called⟩ := Option.ite_none_right_eq_some.mp taken
      obtain ⟨client, -, -, effect⟩ := ioCallback_effect
        (fun client found => accounted.one client (List.mem_of_getElem? found)) called
      have set : ∀ changed : TestConnection,
          test.clients.length ≤ (test.clients.set number changed).length :=
        fun _ => (List.length_set ..).ge
      cases effect with
      | quiet => exact ⟨Nat.le_refl _, List.prefix_rfl⟩
      | filled => exact ⟨set _, List.prefix_rfl⟩
      | failed | received | wrote => exact ⟨set _, List.prefix_append _ _⟩
      | answered => exact ⟨set _, (List.prefix_append _ _).trans (List.prefix_append _ _)⟩

/-- Up to its first failure, a client has been answered with its requests, which were packets,
and has written these and a part of one more. -/
theorem Asked.packets_written (asked : test.Asked) (answered : test.Answered)
    (found : test.clients[number]? = some client) (unfailed : .failed number ∉ test.log) :
    ∃ pkts, (∀ pkt ∈ pkts, IsPacket pkt) ∧ answers number test.log <+: pkts ∧
      pkts.length ≤ (answers number test.log).length + 1 ∧
      writtenOn number test.log <+: pkts.flatten := by
  have done : ∀ pkt ∈ answers number test.log, IsPacket pkt := by
    intro pkt member
    obtain ⟨event, logged, isAnswer⟩ := List.mem_filterMap.mp member
    cases event with
    | succeeded source readbuf writebuf =>
        obtain ⟨rfl, same⟩ := Option.ite_none_right_eq_some.mp isAnswer
        obtain rfl := Option.some.inj same
        have own := answered.own ((beforeFailure_eq_self unfailed).symm ▸ logged)
        exact own ▸ asked.asked logged
    | _ => cases isAnswer
  obtain ⟨-, written, -⟩ := answered.answering found unfailed
  rw [written]
  rcases asked.asking client (List.mem_of_getElem? found) with empty | isPacket
  · refine ⟨_, done, List.prefix_rfl, Nat.le_succ _, ?_⟩
    rw [empty, List.take_nil, List.append_nil]
  · refine ⟨answers number test.log ++ [client.writebuf], fun pkt member => ?_,
      List.prefix_append _ _, by rw [List.length_append, List.length_singleton], ?_⟩
    · rcases List.mem_append.mp member with member | member
      · exact done pkt member
      · exact List.mem_singleton.mp member ▸ isPacket
    · rw [List.flatten_append, List.flatten_singleton, List.prefix_append_right_inj]
      exact List.take_prefix _ _

end Step

end TestClient

namespace TestPacketNetwork

/-- A test program and the packet echo server. -/
def pair (request : ℕ → Bytes) :
    Network.Pair TestClient TestClient.Label CommonEchoServer CommonEchoServer.Label Byte where
  caller := TestNetwork.testSide request
  callee := PacketEchoNetwork.packetSide
  opened test := test.clients.length
  accepts := PacketEchoNetwork.acceptsClient
  next state := state.whole.tcp.nextConn
  heard test := TestClient.sources test.log
  received_eq_nil := @TestNetwork.received_eq_nil request

/-- Before anything was started. -/
def start (requests concurrency : ℕ) (nThreadNum nTimeout : Int32) :
    Network.Net TestClient CommonEchoServer :=
  ⟨TestClient.new requests concurrency, CommonEchoServer.start nThreadNum nTimeout, []⟩

/-- A key is accepted only where nothing of it is under way. -/
abbrev Fresh : Network.Net TestClient CommonEchoServer →
    Network.Label TestClient.Label CommonEchoServer.Label → Prop :=
  Network.Pair.Both (fun _ _ => True) CommonEchoServer.Fresh

/-- What the two programs and the network keep. -/
structure InTurn (request : ℕ → Bytes) (requests concurrency : ℕ) (nThreadNum nTimeout : Int32)
    (net : Network.Net TestClient CommonEchoServer) : Prop where
  carries : (pair request).Carries net
  accounted : TestClient.Accounted requests concurrency net.caller
  answered : net.caller.Answered
  asked : net.caller.Asked
  answers : net.callee.Answers nThreadNum nTimeout
  linked : ∀ link ∈ net.links, link.1 < net.caller.clients.length
  /-- For a client that has not failed the server answers packets in the order in which it
  framed them. -/
  turns : ∀ link ∈ net.links, .failed link.1 ∉ net.caller.log →
    net.callee.answersOn link.2 <+: System.framedFrom link.2 net.callee.whole.common.log

section Net

variable {request : ℕ → Bytes} {requests concurrency : ℕ} {nThreadNum nTimeout : Int32}
  {net after : Network.Net TestClient CommonEchoServer}
  {label : Network.Label TestClient.Label CommonEchoServer.Label}

theorem inTurn_start (request : ℕ → Bytes) (requests concurrency : ℕ)
    (nThreadNum nTimeout : Int32) : InTurn request requests concurrency nThreadNum nTimeout
      (start requests concurrency nThreadNum nTimeout) where
  carries := ⟨nofun, nofun⟩
  accounted := TestClient.accounted_new requests concurrency
  answered := TestClient.answered_new requests concurrency
  asked := TestClient.asked_new requests concurrency
  answers := CommonEchoServer.answers_start nThreadNum nTimeout
  linked := nofun
  turns := nofun

/-- The server has framed, on the connection of a client that has not failed, a front of the
client's requests, and there is at most one of these that the client has no answer to. -/
theorem InTurn.framed (inTurn : InTurn request requests concurrency nThreadNum nTimeout net)
    (low : 0 ≤ nThreadNum) (high : nThreadNum ≤ CommonServer.maxThreadNum) {link : ℕ × ℕ}
    (linked : link ∈ net.links) (unfailed : .failed link.1 ∉ net.caller.log) :
    (System.framedFrom link.2 net.callee.whole.common.log).flatten <+:
        (TcpServer.readOn link.2 net.callee.whole.tcp.log).flatten ∧
      (System.framedFrom link.2 net.callee.whole.common.log).length ≤
        (net.callee.answersOn link.2).length + 1 := by
  obtain ⟨pkts, packets, done, one, written⟩ := inTurn.asked.packets_written inTurn.answered
    (List.getElem?_eq_getElem (inTurn.linked link linked)) unfailed
  obtain ⟨arrived, sent⟩ := inTurn.carries.1 link linked
  obtain ⟨⟨among, bytes⟩, -⟩ := inTurn.answers.packets_of_sent low high packets (sent.trans written)
  obtain ⟨read, -⟩ := inTurn.answered.answering
    (List.getElem?_eq_getElem (inTurn.linked link linked)) unfailed
  -- what the client has received holds all its answers
  have received : (TestClient.answers link.1 net.caller.log).flatten <+:
      (net.callee.answersOn link.2).flatten := by
    refine List.IsPrefix.trans ?_ (arrived.trans (inTurn.answers.front link.2))
    show _ <+: TestClient.readOn link.1 net.caller.log
    rw [read]
    exact List.prefix_append _ _
  exact ⟨bytes, Turns.few_of_returned (fun pkt member => (packets pkt member).ne_nil) done one among
    (inTurn.turns link linked unfailed) received⟩

/-- So what the server has written there is the front of what it has read. -/
theorem InTurn.mirrored (inTurn : InTurn request requests concurrency nThreadNum nTimeout net)
    (low : 0 ≤ nThreadNum) (high : nThreadNum ≤ CommonServer.maxThreadNum) {link : ℕ × ℕ}
    (linked : link ∈ net.links) (unfailed : .failed link.1 ∉ net.caller.log) :
    Sessions.writtenOn link.2 net.callee.whole.tcp.history <+:
      (TcpServer.readOn link.2 net.callee.whole.tcp.log).flatten :=
  ((inTurn.answers.front link.2).trans (inTurn.turns link linked unfailed).flatten).trans
    (inTurn.framed low high linked unfailed).1

/-- And what a client that has not failed has received is the front of what it has written. -/
theorem InTurn.returned (inTurn : InTurn request requests concurrency nThreadNum nTimeout net)
    (low : 0 ≤ nThreadNum) (high : nThreadNum ≤ CommonServer.maxThreadNum) (number : ℕ)
    (unfailed : .failed number ∉ net.caller.log) :
    TestClient.readOn number net.caller.log <+: TestClient.writtenOn number net.caller.log := by
  by_cases heard : number ∈ TestClient.sources net.caller.log
  · obtain ⟨conn, linked, arrived, sent⟩ := inTurn.carries.ends heard
    exact (arrived.trans (inTurn.mirrored low high linked unfailed)).trans sent
  · rw [TestClient.readOn_eq_nil heard]
    exact List.nil_prefix

/-- **One step.**  The server's next answer is to the only packet it has left. -/
theorem InTurn.step (inTurn : InTurn request requests concurrency nThreadNum nTimeout net)
    (low : 0 ≤ nThreadNum) (high : nThreadNum ≤ CommonServer.maxThreadNum)
    (some_client : 0 < concurrency) (enough : concurrency ≤ requests)
    (packets : ∀ total ≤ requests, IsPacket (request total)) (fresh : Fresh net label)
    (taken : (pair request).step net label = some after) :
    InTurn request requests concurrency nThreadNum nTimeout after := by
  obtain ⟨carries, ⟨move, -, moved, same, sameLinks⟩ | ⟨move, own, moved, same, links⟩⟩ :=
    Network.Pair.step_cases taken
  · obtain ⟨stay, grown⟩ := TestClient.step_grown inTurn.accounted moved
    have before : ∀ {number}, .failed number ∉ after.caller.log →
        .failed number ∉ net.caller.log :=
      fun unfailed failed => unfailed (grown.subset failed)
    -- the server has not moved, and what it has written it has read
    have returned : ∀ number, .failed number ∉ after.caller.log →
        TestClient.readOn number after.caller.log <+:
          TestClient.writtenOn number after.caller.log := by
      intro number unfailed
      by_cases heard : number ∈ TestClient.sources after.caller.log
      · obtain ⟨conn, linked, arrived, sent⟩ := carries.ends heard
        refine (arrived.trans ?_).trans sent
        rw [same]
        exact inTurn.mirrored low high (sameLinks ▸ linked) (before unfailed)
      · rw [TestClient.readOn_eq_nil heard]
        exact List.nil_prefix
    refine ⟨carries, inTurn.accounted.step moved,
      inTurn.answered.step inTurn.accounted returned moved,
      inTurn.asked.step inTurn.accounted some_client enough packets moved, same ▸ inTurn.answers,
      fun link linked => ?_, fun link linked unfailed => ?_⟩
    · exact (inTurn.linked link (sameLinks ▸ linked)).trans_le stay
    · rw [same]
      exact inTurn.turns link (sameLinks ▸ linked) (before unfailed)
  · have answers := inTurn.answers.step low high (fresh.2 move own) moved
    refine ⟨carries, same ▸ inTurn.accounted, same ▸ inTurn.answered, same ▸ inTurn.asked, answers,
      fun link linked => ?_, fun link linked unfailed => ?_⟩
    · rw [same]
      rcases links link linked with linked | ⟨opened, -⟩
      · exact inTurn.linked link linked
      · exact opened
    · rw [same] at unfailed
      have packets := inTurn.answers.packets_step low high moved link.2
      rcases links link linked with linked | ⟨-, next⟩
      · have turns := inTurn.turns link linked unfailed
        rcases packets with ⟨sameAnswers, framed⟩ | ⟨⟨pkt, answer⟩, sameFramed⟩
        · exact sameAnswers ▸ turns.trans framed
        · -- the packet is the only one there is left
          have few := (inTurn.framed low high linked unfailed).2
          have once := answers.once link.2
          rw [answer, sameFramed] at once ⊢
          exact Turns.in_turn turns few once ▸ List.prefix_rfl
      · -- nothing was framed there, and so nothing is answered
        have none := inTurn.answers.framedFrom_eq_nil next.ge
        have nothing : after.callee.answersOn link.2 = [] := by
          rcases packets with ⟨sameAnswers, -⟩ | ⟨-, sameFramed⟩
          · have once := inTurn.answers.once link.2
            rw [none, List.subperm_nil] at once
            exact sameAnswers.trans once
          · have once := answers.once link.2
            rwa [sameFramed, none, List.subperm_nil] at once
        rw [nothing]
        exact List.nil_prefix

end Net

variable {requests concurrency : ℕ} {nThreadNum nTimeout : Int32}
  {labels : List (Network.Label TestClient.Label CommonEchoServer.Label)}
  {last : Network.Net TestClient CommonEchoServer}

/-- **Whatever the number of threads, a client that waits for each answer gets the right one.**
In every run of test/tcpproxytest.cpp, with numbers that are `int`s and at least as many
requests as clients, against the packet echo server with any number of threads, in which a key
is accepted only where nothing of it is under way: up to a client's first failure, what it
counts as a success is its own request, and what it has read of an answer is the front of its
request. -/
theorem answers_in_turn (low : 0 ≤ nThreadNum) (high : nThreadNum ≤ CommonServer.maxThreadNum)
    (some_client : 0 < concurrency) (enough : concurrency ≤ requests)
    (fits : requests < 2147483648)
    (fresh : Along (pair TcpProxyTest.request).step Fresh
      (start requests concurrency nThreadNum nTimeout) labels)
    (runs : run (pair TcpProxyTest.request).step
      (start requests concurrency nThreadNum nTimeout) labels = some last) (number : ℕ) :
    (∀ readbuf writebuf, .succeeded number readbuf writebuf ∈
        TestClient.beforeFailure number last.caller.log → readbuf = writebuf) ∧
      ∀ client ∈ last.caller.clients[number]?, .failed number ∉ last.caller.log →
        client.readbuf <+: client.writebuf := by
  have inTurn : InTurn TcpProxyTest.request requests concurrency nThreadNum nTimeout last :=
    run_invariant_along (fun _ _ _ inTurn fresh taken => inTurn.step low high some_client enough
      (fun total below => TcpProxyTest.isPacket_request (below.trans_lt fits)) fresh taken) labels
      (inTurn_start TcpProxyTest.request requests concurrency nThreadNum nTimeout) fresh runs
  refine ⟨fun _ _ member => inTurn.answered.own member, fun client found unfailed => ?_⟩
  exact (inTurn.answered.answering found unfailed).readbuf_front
    (inTurn.returned low high number unfailed)

/-- The first client sends its next request, of 15 bytes, which thread `i` answers. -/
def answeredBy (i : ℕ) (request : Bytes) :
    List (Network.Label TestClient.Label CommonEchoServer.Label) :=
  [.caller (.io 0 ⟨false, false, true⟩ (.nothing true) (.got 15)),
    .callee (.server (.ioFront 0 ⟨false, true, false⟩ (.data request) 0 0)),
    .callee (.server .pass), .callee (.server .pass)] ++
  List.replicate 6 (.callee (.server (.handlePkt i))) ++
  [.callee (.handle (some i)), .callee (.server .asyncSwap), .callee (.server .asyncExec),
    .callee (.server (.ioFront 0 ⟨false, false, true⟩ .again 0 0)),
    .callee (.server (.ioBack (.wrote 15) 0)),
    .caller (.io 0 ⟨false, true, false⟩ (.got request) (.nothing true))]

/-- Two requests, the first answered by the first thread and the second by the second. -/
theorem answers_in_turn_two_threads :
    ∃ last, run (pair TcpProxyTest.request).step (start 2 1 4 600)
        ([.caller (.init 3), .caller .loop, .accept 0 (.server (.accept (.client 1 2 5) 0))] ++
          answeredBy 0 (TcpProxyTest.request 0) ++ answeredBy 1 (TcpProxyTest.request 1)) =
        some last ∧
      (∀ readbuf writebuf, .succeeded 0 readbuf writebuf ∈
          TestClient.beforeFailure 0 last.caller.log → readbuf = writebuf) ∧
        ∀ client ∈ last.caller.clients[0]?, .failed 0 ∉ last.caller.log →
          client.readbuf <+: client.writebuf := by
  obtain ⟨last, runs⟩ := Option.isSome_iff_exists.mp
    (show (run (pair TcpProxyTest.request).step (start 2 1 4 600)
        ([.caller (.init 3), .caller .loop, .accept 0 (.server (.accept (.client 1 2 5) 0))] ++
          answeredBy 0 (TcpProxyTest.request 0) ++
          answeredBy 1 (TcpProxyTest.request 1))).isSome = true by decide +kernel)
  exact ⟨last, runs, answers_in_turn (by decide) (by decide) (by decide) (by decide) (by decide)
    (by decide +kernel) runs 0⟩

end TestPacketNetwork

end ServerLib
