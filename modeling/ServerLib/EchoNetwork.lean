import ServerLib.EchoServer
import ServerLib.TcpClientConservation
import ServerLib.Library.Network

/-!
# A client of the echo server

`CTcpClient` and the echo server, each with its own loop, threads and queues, and TCP
between them.  What comes back to the data handle of the client has gone through
`m_Functions`, a batch and a write queue twice, has been cut into other pieces at every
`write` and `recv`, and was on its way with whatever other clients send.  The client may
reconnect at any time, and the server may lose it at any time.

The two programs are the ones the other modules are about, put side by side as a
`Network.Pair`: what `recv` has returned at one end of a connection is the front of what was
written at the other end.  That is all TCP promises; when a byte arrives, and whether it ever
does, is left open.  The other connections of the server are connections of other clients,
and anything may be read on them.

What carries the result is a law of the server for every connection it ever accepted, open
or not: it has written on a connection only what it has read there, in order (`Mirrors`).
Where the client never reconnects, its own account of messages (`Conserved`) makes a law
about messages of the law about bytes (`messages_back`).
-/

namespace ServerLib

open Transition

namespace TcpClient

/-- The bytes `recv` returned on one socket. -/
def readOn (number : ℕ) (log : List ClientEvent) : Bytes :=
  log.flatMap fun
    | .onDataReceived _ pData (some (.socket source)) => if source = number then pData else []
    | _ => []

/-- The sockets on which `recv` returned data. -/
def sources (log : List ClientEvent) : List ℕ :=
  log.filterMap fun
    | .onDataReceived _ _ (some (.socket source)) => some source
    | _ => none

theorem readOn_eq_nil {number : ℕ} {log : List ClientEvent} (silent : number ∉ sources log) :
    readOn number log = [] := by
  refine List.flatMap_eq_nil_iff.mpr fun event member => ?_
  cases event with
  | onDataReceived sClient pData source =>
      cases source with
      | none => rfl
      | some descriptor =>
          cases descriptor with
          | other => rfl
          | socket source =>
              refine if_neg ?_
              rintro rfl
              exact silent (List.mem_filterMap.mpr ⟨_, member, rfl⟩)
  | _ => rfl

end TcpClient

namespace EchoNetwork

/-- The echo server, with what was read and written on each accepted connection. -/
def echoSide : Network.Side TcpServer TcpServer.Label Byte where
  step := EchoServer.step
  received conn server := (TcpServer.readOn conn server.log).flatten
  sent conn server := Sessions.writtenOn conn server.history

/-- `accept` returns a client. -/
def acceptsClient : TcpServer.Label → Bool
  | .accept (.client ..) _ => true
  | _ => false

/-- A client, with what was read and written on each of its sockets. -/
def clientSide : Network.Side TcpClient TcpClient.Label Byte where
  step := TcpClient.step
  received number client := TcpClient.readOn number client.log
  sent number client := TcpClient.writtenOn number client.log

theorem received_eq_nil {number : ℕ} {client : TcpClient}
    (silent : number ∉ TcpClient.sources client.log) : clientSide.received number client = [] :=
  TcpClient.readOn_eq_nil silent

/-- A client and the echo server.  Every socket of the client is a connection. -/
def pair : Network.Pair TcpClient TcpClient.Label TcpServer TcpServer.Label Byte where
  caller := clientSide
  callee := echoSide
  opened client := client.nextSocket
  accepts := acceptsClient
  next server := server.nextConn
  heard client := TcpClient.sources client.log
  received_eq_nil := @received_eq_nil

/-- Before anything was started. -/
def start (nTimeout : Int32) : Network.Net TcpClient TcpServer :=
  ⟨TcpClient.new, TcpServer.new nTimeout, []⟩

theorem carries_start (nTimeout : Int32) : pair.Carries (start nTimeout) := ⟨nofun, nofun⟩

/-- A key is accepted only where nothing waits for it. -/
abbrev Fresh : Network.Net TcpClient TcpServer →
    Network.Label TcpClient.Label TcpServer.Label → Prop :=
  Network.Pair.Both (fun _ _ => True) EchoServer.Fresh

/-- Moreover, the client does not fail to get a socket in a reconnect. -/
abbrev FreshReconnected : Network.Net TcpClient TcpServer →
    Network.Label TcpClient.Label TcpServer.Label → Prop :=
  Network.Pair.Both TcpClient.Reconnected EchoServer.Fresh

variable {nTimeout : Int32} {labels : List (Network.Label TcpClient.Label TcpServer.Label)}
  {last : Network.Net TcpClient TcpServer}

/-- **A client of the echo server gets back what it sent, from end to end.**  In every state
of every run of the client, the server, the network and any other clients, in which a key is
accepted only where nothing waits for it: what the client has received on each of its sockets
is the front of the bytes it has written on that socket. -/
theorem own_bytes_back (fresh : Along pair.step Fresh (start nTimeout) labels)
    (runs : run pair.step (start nTimeout) labels = some last) (number : ℕ) :
    TcpClient.readOn number last.caller.log <+: TcpClient.writtenOn number last.caller.log := by
  obtain ⟨-, -, back⟩ := Network.Pair.comes_back_of_run (D := EchoServer.Fresh) (I := fun _ => True)
    (J := EchoServer.Mirrors)
    (fun _ mirrors => EchoServer.Mirrors.front mirrors) (fun _ _ _ _ _ _ _ => trivial)
    (fun _ _ _ mirrors fresh taken => EchoServer.Mirrors.step mirrors fresh taken)
    (carries_start nTimeout) trivial (EchoServer.mirrors_new nTimeout) fresh runs
  exact back number

/-- A client whose message is written in two pieces and comes back in two pieces, with
another client at the same server. -/
theorem own_bytes_back_two_clients :
    ∃ last, run pair.step (start 600) [.caller (.startAsync 2130706433 8888), .caller .startNotify,
        .caller (.startConnect 3), .callee (.accept (.client 3 4 6) 0),
        .accept 0 (.accept (.client 1 2 5) 0), .caller (.send [7, 8, 9]),
        .caller .asyncDispatch, .caller .asyncSwap, .caller .asyncExec,
        .caller (.io ⟨false, false, true⟩ .again (.wrote 2) 0 0),
        .callee (.io 0 ⟨false, true, false⟩ (.data [4]) .again 0 0),
        .callee (.io 1 ⟨false, true, false⟩ (.data [7, 8]) .again 0 0), .callee .asyncSwap,
        .callee .asyncExec, .callee .asyncExec,
        .callee (.io 1 ⟨false, false, true⟩ .again (.wrote 1) 0 0),
        .caller (.io ⟨false, true, true⟩ (.data [7]) (.wrote 1) 0 0)] = some last ∧
      TcpClient.readOn 0 last.caller.log <+: TcpClient.writtenOn 0 last.caller.log := by
  obtain ⟨last, runs⟩ := Option.isSome_iff_exists.mp
    (show (run pair.step (start 600) [.caller (.startAsync 2130706433 8888), .caller .startNotify,
        .caller (.startConnect 3), .callee (.accept (.client 3 4 6) 0),
        .accept 0 (.accept (.client 1 2 5) 0), .caller (.send [7, 8, 9]),
        .caller .asyncDispatch, .caller .asyncSwap, .caller .asyncExec,
        .caller (.io ⟨false, false, true⟩ .again (.wrote 2) 0 0),
        .callee (.io 0 ⟨false, true, false⟩ (.data [4]) .again 0 0),
        .callee (.io 1 ⟨false, true, false⟩ (.data [7, 8]) .again 0 0), .callee .asyncSwap,
        .callee .asyncExec, .callee .asyncExec,
        .callee (.io 1 ⟨false, false, true⟩ .again (.wrote 1) 0 0),
        .caller (.io ⟨false, true, true⟩ (.data [7]) (.wrote 1) 0 0)]).isSome = true
      by decide +kernel)
  exact ⟨last, runs, own_bytes_back (by decide +kernel) runs 0⟩

/-- **Until it reconnects, the client gets its messages back.**  In every such run in which no
reconnect of the client is without a socket: as long as it has made one socket, what it has
received is the front of its messages, in the order of the lock, without those that were
refused. -/
theorem messages_back (along : Along pair.step FreshReconnected (start nTimeout) labels)
    (runs : run pair.step (start nTimeout) labels = some last) (once : last.caller.nextSocket = 1) :
    TcpClient.readOn 0 last.caller.log <+: (TcpClient.accepted last.caller.log).flatten := by
  obtain ⟨⟨-, conserved⟩, -, back⟩ := Network.Pair.comes_back_of_run (D := EchoServer.Fresh)
    (I := fun client : TcpClient => client.Attached ∧ client.Conserved) (J := EchoServer.Mirrors)
    (fun _ mirrors => EchoServer.Mirrors.front mirrors)
    (fun _ _ _ holds met taken _ => ⟨holds.1.step met taken, holds.2.step holds.1 taken⟩)
    (fun _ _ _ mirrors fresh taken => EchoServer.Mirrors.step mirrors fresh taken)
    (carries_start nTimeout) ⟨TcpClient.attached_new, TcpClient.conserved_new⟩
    (EchoServer.mirrors_new nTimeout) along runs
  have delivered : last.caller.delivered = TcpClient.writtenOn 0 last.caller.log := by
    rw [TcpClient.delivered, once]
    exact List.append_nil _
  rw [← conserved.bytes, delivered]
  exact (back 0).trans (List.prefix_append _ _)

/-- Two messages, of which one and a half are back. -/
theorem messages_back_two_messages :
    ∃ last, run pair.step (start 600) [.caller (.send [7, 8]),
        .caller (.startAsync 2130706433 8888), .caller .startNotify, .caller (.startConnect 3),
        .accept 0 (.accept (.client 1 2 5) 0), .caller (.send [9, 10]),
        .caller .asyncDispatch, .caller .asyncSwap, .caller .asyncExec, .caller .asyncExec,
        .caller (.io ⟨false, false, true⟩ .again (.wrote 2) 0 0),
        .caller (.io ⟨false, false, true⟩ .again (.wrote 1) 0 0),
        .callee (.io 0 ⟨false, true, false⟩ (.data [7, 8, 9]) .again 0 0), .callee .asyncSwap,
        .callee .asyncExec, .callee (.io 0 ⟨false, false, true⟩ .again (.wrote 3) 0 0),
        .caller (.io ⟨false, true, false⟩ (.data [7, 8, 9]) .again 0 0)] = some last ∧
      TcpClient.readOn 0 last.caller.log <+: (TcpClient.accepted last.caller.log).flatten := by
  obtain ⟨last, runs, once⟩ : ∃ last, run pair.step (start 600) [.caller (.send [7, 8]),
        .caller (.startAsync 2130706433 8888), .caller .startNotify, .caller (.startConnect 3),
        .accept 0 (.accept (.client 1 2 5) 0), .caller (.send [9, 10]),
        .caller .asyncDispatch, .caller .asyncSwap, .caller .asyncExec, .caller .asyncExec,
        .caller (.io ⟨false, false, true⟩ .again (.wrote 2) 0 0),
        .caller (.io ⟨false, false, true⟩ .again (.wrote 1) 0 0),
        .callee (.io 0 ⟨false, true, false⟩ (.data [7, 8, 9]) .again 0 0), .callee .asyncSwap,
        .callee .asyncExec, .callee (.io 0 ⟨false, false, true⟩ .again (.wrote 3) 0 0),
        .caller (.io ⟨false, true, false⟩ (.data [7, 8, 9]) .again 0 0)] = some last ∧
      last.caller.nextSocket = 1 := ⟨_, rfl, by decide +kernel⟩
  exact ⟨last, runs, messages_back (by decide +kernel) runs once⟩

end EchoNetwork

end ServerLib
