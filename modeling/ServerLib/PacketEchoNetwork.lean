import ServerLib.EchoNetwork
import ServerLib.EchoedPackets

/-!
# A client of the packet echo server

`CTcpClient` and the packet echo server of `ServerLib.CommonEchoServer`, as a `Network.Pair`
like that of `ServerLib.EchoNetwork`.  The messages of the client are packets.  The server has
up to 64 packet threads, each of which answers the packets it was given, so that the answers to
two packets of one client may change places, and a packet may be answered long after a later
one or never.

What is left is `packets_back`: the client receives whole packets, each of them one that it
sent and none twice.  With one thread, or none, they come in the order in which they were sent.
-/

namespace ServerLib

open Transition

namespace PacketEchoNetwork

/-- The packet echo server, with what was read and written on each accepted connection. -/
def packetSide : Network.Side CommonEchoServer CommonEchoServer.Label Byte where
  step := CommonEchoServer.step
  received conn state := (TcpServer.readOn conn state.whole.tcp.log).flatten
  sent conn state := Sessions.writtenOn conn state.whole.tcp.history

/-- `accept` returns a client. -/
def acceptsClient : CommonEchoServer.Label → Bool
  | .server (.accept (.client ..) _) => true
  | _ => false

/-- A client and the packet echo server. -/
def pair : Network.Pair TcpClient TcpClient.Label CommonEchoServer CommonEchoServer.Label Byte where
  caller := EchoNetwork.clientSide
  callee := packetSide
  opened client := client.nextSocket
  accepts := acceptsClient
  next state := state.whole.tcp.nextConn
  heard client := TcpClient.sources client.log
  received_eq_nil := @EchoNetwork.received_eq_nil

/-- Before anything was started. -/
def start (nThreadNum nTimeout : Int32) : Network.Net TcpClient CommonEchoServer :=
  ⟨TcpClient.new, CommonEchoServer.start nThreadNum nTimeout, []⟩

theorem carries_start (nThreadNum nTimeout : Int32) :
    pair.Carries (start nThreadNum nTimeout) := ⟨nofun, nofun⟩

/-- A key is accepted only where nothing of it is under way, and the client does not fail to
get a socket in a reconnect. -/
abbrev FreshReconnected : Network.Net TcpClient CommonEchoServer →
    Network.Label TcpClient.Label CommonEchoServer.Label → Prop :=
  Network.Pair.Both TcpClient.Reconnected CommonEchoServer.Fresh

variable {nThreadNum nTimeout : Int32}
  {labels : List (Network.Label TcpClient.Label CommonEchoServer.Label)}
  {last : Network.Net TcpClient CommonEchoServer}

/-- **A client of the packet echo server gets its packets back, each at most once.**  For every
thread number and every run of the client, the server, the network and any other clients, in
which a key is accepted only where nothing of it is under way and no reconnect is without a
socket: as long as the client has made one socket, and its messages are packets, what it has
received is the front of some of its messages, none of them twice.  With at most one thread it
is a front of them, in the order of the lock. -/
theorem packets_back (low : 0 ≤ nThreadNum) (high : nThreadNum ≤ CommonServer.maxThreadNum)
    (along : Along pair.step FreshReconnected (start nThreadNum nTimeout) labels)
    (runs : run pair.step (start nThreadNum nTimeout) labels = some last)
    (once : last.caller.nextSocket = 1)
    (packets : ∀ message ∈ TcpClient.accepted last.caller.log, IsPacket message) :
    ∃ answers : List Bytes, answers.Subperm (TcpClient.accepted last.caller.log) ∧
      (nThreadNum ≤ 1 → answers <+: TcpClient.accepted last.caller.log) ∧
      TcpClient.readOn 0 last.caller.log <+: answers.flatten := by
  obtain ⟨carries, attached, conserved, answers⟩ := run_invariant_along
    (I := fun net => pair.Carries net ∧ net.caller.Attached ∧ net.caller.Conserved ∧
      net.callee.Answers nThreadNum nTimeout)
    (fun _ _ _ holds met taken => by
      obtain ⟨-, attached, conserved, answers⟩ := holds
      obtain ⟨carries, ⟨move, own, moved, same, -⟩ | ⟨move, own, moved, same, -⟩⟩ :=
        Network.Pair.step_cases taken
      · exact ⟨carries, attached.step (met.1 move own) moved, conserved.step attached moved,
          same ▸ answers⟩
      · exact ⟨carries, same ▸ attached, same ▸ conserved,
          answers.step low high (met.2 move own) moved⟩)
    labels ⟨carries_start nThreadNum nTimeout, TcpClient.attached_new, TcpClient.conserved_new,
      CommonEchoServer.answers_start nThreadNum nTimeout⟩ along runs
  have written : TcpClient.writtenOn 0 last.caller.log <+:
      (TcpClient.accepted last.caller.log).flatten := by
    have delivered : last.caller.delivered = TcpClient.writtenOn 0 last.caller.log := by
      rw [TcpClient.delivered, once]
      exact List.append_nil _
    rw [← conserved.bytes, delivered]
    exact List.prefix_append _ _
  by_cases heard : 0 ∈ TcpClient.sources last.caller.log
  · obtain ⟨conn, -, arrived, sent⟩ := carries.ends heard
    obtain ⟨⟨framed, -⟩, among, inOrder⟩ :=
      answers.packets_of_sent low high packets (sent.trans written)
    exact ⟨last.callee.answersOn conn, among.trans framed.sublist.subperm,
      fun few => (inOrder few).trans framed, arrived.trans (answers.front conn)⟩
  · rw [TcpClient.readOn_eq_nil heard]
    exact ⟨[], List.nil_subperm, fun _ => List.nil_prefix, List.nil_prefix⟩

/-- Two threads, of which the second one answers first. -/
theorem packets_back_two_threads :
    ∃ last, run pair.step (start 2 600) [.caller (.startAsync 2130706433 8888),
        .caller .startNotify, .caller (.startConnect 3),
        .accept 0 (.server (.accept (.client 1 2 5) 0)), .caller (.send [1, 0, 0, 0, 7]),
        .caller (.send [1, 0, 0, 0, 8]), .caller .asyncDispatch, .caller .asyncSwap,
        .caller .asyncExec, .caller .asyncExec,
        .caller (.io ⟨false, false, true⟩ .again (.wrote 5) 0 0),
        .caller (.io ⟨false, false, true⟩ .again (.wrote 5) 0 0),
        .callee (.server (.ioFront 0 ⟨false, true, false⟩
          (.data [1, 0, 0, 0, 7, 1, 0, 0, 0, 8]) 0 0)),
        .callee (.server .pass), .callee (.server .pass), .callee (.server .pass),
        .callee (.server (.handlePkt 1)), .callee (.server (.handlePkt 1)),
        .callee (.server (.handlePkt 1)), .callee (.server (.handlePkt 1)),
        .callee (.server (.handlePkt 1)), .callee (.server (.handlePkt 1)),
        .callee (.handle (some 1)), .callee (.server .asyncSwap), .callee (.server .asyncExec),
        .callee (.server (.ioFront 0 ⟨false, false, true⟩ .again 0 0)),
        .callee (.server (.ioBack (.wrote 5) 0)),
        .caller (.io ⟨false, true, false⟩ (.data [1, 0, 0, 0, 8]) .again 0 0)] = some last ∧
      ∃ answers : List Bytes, answers.Subperm (TcpClient.accepted last.caller.log) ∧
        ((2 : Int32) ≤ 1 → answers <+: TcpClient.accepted last.caller.log) ∧
        TcpClient.readOn 0 last.caller.log <+: answers.flatten := by
  obtain ⟨last, runs, once, packets⟩ : ∃ last, run pair.step (start 2 600)
      [.caller (.startAsync 2130706433 8888),
        .caller .startNotify, .caller (.startConnect 3),
        .accept 0 (.server (.accept (.client 1 2 5) 0)), .caller (.send [1, 0, 0, 0, 7]),
        .caller (.send [1, 0, 0, 0, 8]), .caller .asyncDispatch, .caller .asyncSwap,
        .caller .asyncExec, .caller .asyncExec,
        .caller (.io ⟨false, false, true⟩ .again (.wrote 5) 0 0),
        .caller (.io ⟨false, false, true⟩ .again (.wrote 5) 0 0),
        .callee (.server (.ioFront 0 ⟨false, true, false⟩
          (.data [1, 0, 0, 0, 7, 1, 0, 0, 0, 8]) 0 0)),
        .callee (.server .pass), .callee (.server .pass), .callee (.server .pass),
        .callee (.server (.handlePkt 1)), .callee (.server (.handlePkt 1)),
        .callee (.server (.handlePkt 1)), .callee (.server (.handlePkt 1)),
        .callee (.server (.handlePkt 1)), .callee (.server (.handlePkt 1)),
        .callee (.handle (some 1)), .callee (.server .asyncSwap), .callee (.server .asyncExec),
        .callee (.server (.ioFront 0 ⟨false, false, true⟩ .again 0 0)),
        .callee (.server (.ioBack (.wrote 5) 0)),
        .caller (.io ⟨false, true, false⟩ (.data [1, 0, 0, 0, 8]) .again 0 0)] = some last ∧
      last.caller.nextSocket = 1 ∧
      ∀ message ∈ TcpClient.accepted last.caller.log, IsPacket message :=
    ⟨_, rfl, by decide +kernel, by decide +kernel⟩
  exact ⟨last, runs, packets_back (by decide) (by decide) (by decide +kernel) runs once packets⟩

end PacketEchoNetwork

end ServerLib
