import Mathlib.Data.List.Perm.Subperm
import ServerLib.CommonEchoServer
import ServerLib.Segmentation

/-!
# What the packet echo server writes on a connection

`ServerLib.CommonEchoServer` says what comes back to the connection that has a key.  A client
at the other end of a network needs to know it of its own connection, registered or not, and
in its own terms: of the packets it sent, and not of what `received` makes of chunks.

`Answers` is the first half, an invariant over all connections the server ever accepted.  What
is written on one is the front of the packets answered for it, since a connection that has
ended is written on no more.  The second half is a fact about streams: a front of the packets a
client may send is framed as a front of these packets, wherever it is cut into chunks that fit
`szBuffer` (`received_front_of_packets`).  That the chunks do fit is what `recv` promises, and
is followed through the server as `FitsBuffer`.

`Answers.packets_of_sent` puts the halves together: what the server writes on a connection is
the front of some of the packets sent there, each at most once, in the order in which they were
answered.
-/

namespace ServerLib

open Incremental Transition Sessions FifoPool

/-! ## Streams of packets -/

/-- A packet a client may send. -/
def IsPacket (pkt : Bytes) : Prop := ∃ payload, Sendable payload ∧ encodePkt payload = pkt

instance (pkt : Bytes) : Decidable (IsPacket pkt) :=
  decidable_of_iff (Sendable (pkt.drop 4) ∧ encodePkt (pkt.drop 4) = pkt) (by
    refine ⟨fun both => ⟨_, both⟩, ?_⟩
    rintro ⟨payload, sendable, rfl⟩
    have header : (encodePkt payload).drop 4 = payload := List.drop_left' (length_intBytes _)
    exact ⟨header.symm ▸ sendable, congrArg encodePkt header⟩)

section Streams

variable {chunks pkts : List Bytes}

theorem IsPacket.ne_nil {pkt : Bytes} (isPacket : IsPacket pkt) : pkt ≠ [] := by
  obtain ⟨payload, -, rfl⟩ := isPacket
  refine List.ne_nil_of_length_pos ?_
  rw [length_encodePkt]
  omega

theorem exists_payloads (packets : ∀ pkt ∈ pkts, IsPacket pkt) :
    ∃ payloads : List Bytes,
      (∀ payload ∈ payloads, Sendable payload) ∧ payloads.map encodePkt = pkts := by
  induction pkts with
  | nil => exact ⟨[], nofun, rfl⟩
  | cons pkt pkts ih =>
      obtain ⟨payload, sendable, rfl⟩ := packets pkt List.mem_cons_self
      obtain ⟨payloads, later, rfl⟩ := ih fun pkt member =>
        packets pkt (List.mem_cons_of_mem _ member)
      exact ⟨payload :: payloads, List.forall_mem_cons.mpr ⟨sendable, later⟩, rfl⟩

/-- What the scanner takes off a buffer and what it leaves are the buffer. -/
theorem flatten_drain (stream : Bytes) :
    (frameScanner.drain stream).1.flatten ++ (frameScanner.drain stream).2 = stream := by
  induction total : stream.length using Nat.strongRecOn generalizing stream with
  | ind size ih =>
      cases found : frameScanner.scan stream with
      | none => rw [Scanner.drain_of_none found, List.flatten_nil, List.nil_append]
      | some entry =>
          obtain ⟨item, rest⟩ := entry
          have behind := ih rest.length (total ▸ frameScanner.scan_shorter found) rest rfl
          obtain ⟨-, rfl, rfl⟩ := scan_eq_some_iff.mp found
          rw [Scanner.drain_of_some found, List.flatten_cons, List.append_assoc, behind,
            List.take_append_drop]

/-- **However it is cut, a front of packets is framed as a front of them.** -/
theorem received_front_of_packets
    (bounded : ∀ chunk ∈ chunks, 1 ≤ chunk.length ∧ chunk.length ≤ recvSize)
    (packets : ∀ pkt ∈ pkts, IsPacket pkt) (front : chunks.flatten <+: pkts.flatten) :
    (received [] chunks).pkts <+: pkts ∧ (received [] chunks).pkts.flatten <+: chunks.flatten := by
  obtain ⟨payloads, sendable, rfl⟩ := exists_payloads packets
  obtain ⟨more, whole⟩ := front
  have nothing : Regular [] := fun start here long =>
    absurd long (Nat.not_lt.mpr (here.length_le.trans (Nat.zero_le 4)))
  have regular : Regular chunks.flatten := by
    have all := regular_encoded nothing payloads sendable
    rw [List.append_nil, List.flatMap_def, ← whole] at all
    exact all.of_append
  have roomy : Roomy ([] ++ chunks.flatten) := fun start here long => by
    have value := (regular start here long).2
    unfold maxPayload at value
    omega
  have agreeable : Agreeable ([] ++ chunks.flatten) := fun start here long => by
    have value := (regular start here (by omega)).1
    omega
  have drained : frameScanner.drain (payloads.flatMap encodePkt ++ []) =
      (payloads.map encodePkt, []) :=
    Scanner.drain_encoded (scan_eq_none_iff.mpr waits_nil.incomplete) payloads
      fun payload member => scan_encodePkt (sendable payload member)
  rw [List.append_nil, List.flatMap_def, ← whole, Scanner.drain_append] at drained
  rw [(received_roomy chunks waits_nil roomy bounded).2 agreeable, List.nil_append]
  exact ⟨⟨_, congrArg Prod.fst drained⟩, ⟨_, flatten_drain chunks.flatten⟩⟩

end Streams

/-! ## What `recv` returned fits `szBuffer` -/

/-- Data that `recv` returned is not empty, and fits `szBuffer`. -/
def FitsBuffer : TcpEvent → Prop
  | .onClientDataReceived _ _ pData _ => 1 ≤ pData.length ∧ pData.length ≤ recvSize
  | _ => True

namespace TcpServer

/-- All that was read on any connection fits. -/
def Fits (server : TcpServer) : Prop := ∀ event ∈ server.log, FitsBuffer event

variable {server next : TcpServer} {conn : ℕ} {connection : TcpConnection}

theorem Fits.of_grown (fits : server.Fits) {event : TcpEvent}
    (grown : next.log = server.log ++ [event]) (here : FitsBuffer event) : next.Fits := by
  intro other member
  rw [grown] at member
  rcases List.mem_append.mp member with member | member
  · exact fits other member
  · exact List.mem_singleton.mp member ▸ here

theorem Fits.close (fits : server.Fits) (conn : ℕ) (connection : TcpConnection) :
    (server.close conn connection).Fits := by
  unfold TcpServer.close
  split
  · exact fits.of_grown rfl trivial
  · exact fits

theorem Fits.destroy (fits : server.Fits) (conn : ℕ) : (server.destroy conn).Fits := by
  unfold TcpServer.destroy
  split
  · exact fits
  · exact fits.close conn _

theorem Fits.terminate (fits : server.Fits) {sClient : SocketClientData} {nErrorCode : Int32}
    (called : server.terminate sClient nErrorCode = some next) : next.Fits := by
  obtain ⟨manager, -, rfl⟩ := Option.map_eq_some_iff.mp called
  have reported : (server.emit (.onClientDisconnected sClient nErrorCode)).Fits :=
    fits.of_grown rfl trivial
  split
  · exact reported
  · exact Fits.destroy (by exact reported) _

theorem Fits.ioFront (fits : server.Fits) {revents : Revents} {nRead : RecvResult}
    {errno now : Int32} {writing : Option ℕ}
    (called : server.ioFront conn revents nRead errno now = some (next, writing)) :
    next.Fits := by
  unfold TcpServer.ioFront at called
  split at called
  · cases called
  · obtain ⟨-, called⟩ := Option.ite_none_right_eq_some.mp called
    split at called
    · obtain ⟨after, ended, same⟩ := Option.map_eq_some_iff.mp called
      exact (Prod.mk.inj same).1 ▸ fits.terminate ended
    · obtain ⟨⟨after, goesOn⟩, read, same⟩ := Option.map_eq_some_iff.mp called
      obtain ⟨rfl, -⟩ := Prod.mk.inj same
      split at read
      · obtain ⟨possible, read⟩ := Option.ite_none_right_eq_some.mp read
        cases nRead with
        | eof =>
            obtain ⟨_, ended, same⟩ := Option.map_eq_some_iff.mp read
            exact (Prod.mk.inj same).1 ▸ fits.terminate ended
        | again => exact (Prod.mk.inj (Option.some.inj read)).1 ▸ fits
        | error errno =>
            obtain ⟨_, ended, same⟩ := Option.map_eq_some_iff.mp read
            exact (Prod.mk.inj same).1 ▸ fits.terminate ended
        | data pData =>
            exact (Prod.mk.inj (Option.some.inj read)).1 ▸ fits.of_grown rfl possible.2
      · exact (Prod.mk.inj (Option.some.inj read)).1 ▸ fits

theorem Fits.ioBack (fits : server.Fits) {nWritten : WriteResult} {now : Int32}
    (called : server.ioBack conn nWritten now = some next) : next.Fits := by
  obtain ⟨connection, -, called⟩ := Option.bind_eq_some_iff.mp called
  unfold ioWrite at called
  split at called
  · exact Option.some.inj called ▸ fits
  · obtain ⟨-, called⟩ := Option.ite_none_right_eq_some.mp called
    cases nWritten with
    | again => exact Option.some.inj called ▸ fits
    | error errno => exact fits.terminate called
    | wrote count =>
        obtain ⟨_, same⟩ := Option.dite_none_right_eq_some.mp called
        exact Option.some.inj same ▸ fits.of_grown rfl trivial

theorem Fits.accept (fits : server.Fits) {now : Int32} {result : AcceptResult}
    (called : server.accept now result = some next) : next.Fits := by
  cases result with
  | watcherError => exact Option.some.inj called ▸ fits
  | failed => exact Option.some.inj called ▸ fits
  | client IP Port client_fd =>
      obtain ⟨-, called⟩ := Option.ite_none_right_eq_some.mp called
      obtain ⟨manager, -, rfl⟩ := Option.map_eq_some_iff.mp called
      have accepted : (server.emit (.accepted server.nextConn ⟨IP, Port, client_fd⟩)).Fits :=
        fits.of_grown rfl trivial
      refine Fits.of_grown ?_ rfl trivial
      split
      · exact accepted
      · exact Fits.destroy (by exact accepted) _

theorem Fits.asyncExec (fits : server.Fits) (called : server.asyncExec = some next) :
    next.Fits := by
  unfold TcpServer.asyncExec at called
  split at called
  · cases called
  · next sClient pOutputBuffer rest queued =>
      have executed : (server.emit (.executed sClient pOutputBuffer.getDataPos)).Fits :=
        fits.of_grown rfl trivial
      obtain ⟨pTcpConnection, -, called⟩ := Option.bind_eq_some_iff.mp called
      split at called
      · exact Option.some.inj called ▸ executed
      · obtain ⟨connection, -, called⟩ := Option.bind_eq_some_iff.mp called
        unfold connSend at called
        split at called
        · exact Fits.terminate (by exact executed) called
        · exact Option.some.inj called ▸ executed

theorem Fits.closeClient (fits : server.Fits) {sClient : SocketClientData}
    (called : server.closeClient sClient = some next) : next.Fits := by
  obtain ⟨pTcpConnection, -, called⟩ := Option.bind_eq_some_iff.mp called
  cases pTcpConnection with
  | none => exact Option.some.inj called ▸ fits
  | some conn =>
      obtain ⟨connection, -, rfl⟩ := Option.map_eq_some_iff.mp called
      exact fits.close conn connection

/-- What `recv` returns fits in every step. -/
theorem Fits.step (fits : server.Fits) {label : Label} (taken : server.step label = some next) :
    next.Fits := by
  have idle : ∀ {result : Option TcpServer}, (if server.batch = [] then result else none) =
      some next → result = some next :=
    fun taken => (Option.ite_none_right_eq_some.mp taken).2
  cases label with
  | accept result now => exact fits.accept (idle taken)
  | io conn revents nRead nWritten errno now =>
      have called := idle taken
      rw [ioCallback_eq] at called
      obtain ⟨⟨middle, writing⟩, read, called⟩ := Option.bind_eq_some_iff.mp called
      cases writing with
      | none => exact Option.some.inj called ▸ fits.ioFront read
      | some writer => exact (fits.ioFront read).ioBack called
  | timer conn error errno now =>
      have called := idle taken
      unfold timerCallback at called
      split at called
      · cases called
      · split at called
        · exact fits.terminate called
        · split at called
          · exact fits.terminate called
          · exact Option.some.inj called ▸ fits
  | asyncSwap => exact Option.some.inj (idle taken) ▸ fits
  | asyncExec => exact fits.asyncExec taken
  | send sClient pData => exact Option.some.inj taken ▸ fits.of_grown rfl trivial
  | closeClient sClient => exact fits.closeClient taken

/-- Each chunk read on a connection fits. -/
theorem Fits.bounded (fits : server.Fits) (conn : ℕ) :
    ∀ chunk ∈ readOn conn server.log, 1 ≤ chunk.length ∧ chunk.length ≤ recvSize := by
  intro chunk member
  obtain ⟨event, logged, read⟩ := List.mem_filterMap.mp member
  cases event with
  | onClientDataReceived other sClient pData source =>
      obtain ⟨-, same⟩ := Option.ite_none_right_eq_some.mp read
      exact Option.some.inj same ▸ fits _ logged
  | _ => cases read

end TcpServer

theorem WholeServer.fits_of_run {H : Type} (pDataHandle : H) {nThreadNum nTimeout : Int32}
    {labels : List WholeServer.Label} {last : WholeServer H}
    (runs : run WholeServer.step (WholeServer.start pDataHandle nThreadNum nTimeout) labels =
      some last) : last.tcp.Fits := by
  refine run_invariant (I := fun state : WholeServer H => state.tcp.Fits) ?_ labels
    (fun _ member => absurd member List.not_mem_nil) runs
  intro state label next fits taken
  unfold WholeServer.step at taken
  split at taken
  · obtain ⟨common, -, rfl⟩ := Option.map_eq_some_iff.mp taken
    exact fits
  · obtain ⟨⟨tcp, writing⟩, called, taken⟩ := Option.bind_eq_some_iff.mp taken
    obtain ⟨common, -, rfl⟩ := Option.map_eq_some_iff.mp taken
    have outside : ∀ {label : TcpServer.Label}, state.called label = some (tcp, writing) →
        tcp.Fits := by
      intro label called
      obtain ⟨-, called⟩ := Option.ite_none_right_eq_some.mp called
      obtain ⟨_, stepped, same⟩ := Option.map_eq_some_iff.mp called
      exact (Prod.mk.inj same).1 ▸ fits.step stepped
    cases label with
    | accept | timer | asyncSwap | asyncExec => exact outside called
    | ioFront => exact fits.ioFront (Option.ite_none_right_eq_some.mp called).2
    | ioBack nWritten now =>
        dsimp only [WholeServer.callback] at called
        split at called
        · obtain ⟨_, wrote, same⟩ := Option.map_eq_some_iff.mp called
          exact (Prod.mk.inj same).1 ▸ fits.ioBack wrote
        · cases called
    | send sClient pData =>
        exact (Prod.mk.inj (Option.some.inj called)).1 ▸ fits.of_grown rfl trivial
    | closeClient sClient =>
        obtain ⟨_, closed, same⟩ := Option.map_eq_some_iff.mp called
        exact (Prod.mk.inj same).1 ▸ TcpServer.Fits.closeClient fits closed
    | pass | handlePkt | stop => cases called

/-! ## The answers to one connection -/

namespace CommonEchoServer

/-- The packets answered for a connection, in the order of the calls of `Send`. -/
def answersOn (conn : ℕ) (state : CommonEchoServer) : List Bytes :=
  (ofClass (System.fromConn conn) state.answered).map PktData.bytes

/-- No entry of the two lists, and no packet a thread has in hand, is for the key that is
accepted. -/
def Fresh (state : CommonEchoServer) : Label → Prop
  | .server (.accept (.client IP Port client_fd) _) =>
      (∀ entry ∈ state.whole.tcp.batch ++ state.whole.tcp.functions,
          entry.1 ≠ ⟨IP, Port, client_fd⟩) ∧
        ∀ i < state.whole.common.server.threads.length, ∀ pktData ∈ state.underWay (some i),
          pktData.sClient ≠ ⟨IP, Port, client_fd⟩
  | _ => True

instance (state : CommonEchoServer) : (label : Label) → Decidable (state.Fresh label)
  | .server (.accept (.client _ _ _) _) =>
      inferInstanceAs (Decidable ((∀ entry ∈ _, _ ≠ _) ∧ ∀ i < _, ∀ pktData ∈ _, _ ≠ _))
  | .server (.accept .watcherError _) | .server (.accept .failed _) | .server (.ioFront ..)
  | .server (.ioBack ..) | .server (.timer ..) | .server .asyncSwap | .server .asyncExec
  | .server (.send ..) | .server (.closeClient _) | .server .pass | .server (.handlePkt _)
  | .server (.stop _) | .handle _ => inferInstanceAs (Decidable True)

variable {nThreadNum nTimeout : Int32} {state next : CommonEchoServer} {label : Label}

theorem Fresh.freshKey (fresh : state.Fresh label) (sClient : SocketClientData) :
    state.FreshKey sClient label := by
  cases label with
  | server move =>
      cases move with
      | accept result now =>
          cases result with
          | client IP Port client_fd => exact fun own => own ▸ fresh
          | watcherError => trivial
          | failed => trivial
      | _ => trivial
  | handle thread => trivial

/-- What the server has written on a connection, still open or not, is the front of what it
has answered there. -/
structure Answers (nThreadNum nTimeout : Int32) (state : CommonEchoServer) : Prop where
  reached : state.Reached nThreadNum nTimeout
  echoing : ∀ sClient, Echoing sClient state
  front : ∀ conn, writtenOn conn state.whole.tcp.history <+: (state.answersOn conn).flatten

theorem answers_start (nThreadNum nTimeout : Int32) :
    Answers nThreadNum nTimeout (start nThreadNum nTimeout) where
  reached := ⟨[], rfl, fun _ => List.not_mem_nil⟩
  echoing sClient := echoing_start sClient nThreadNum nTimeout
  front _ := List.prefix_rfl

/-- A packet is answered only once it was framed, and at most once. -/
theorem Answers.once (answers : state.Answers nThreadNum nTimeout) (conn : ℕ) :
    (state.answersOn conn).Subperm (System.framedFrom conn state.whole.common.log) := by
  obtain ⟨some, permuted, within⟩ :=
    (Pool.popped_subperm (answers.echoing ⟨0, 0, 0⟩).conserved).filter (System.fromConn conn)
  exact ⟨some.map PktData.bytes, permuted.map _, within.map _⟩

/-- A step of the program writes on a connection only where it leaves it there. -/
theorem Answers.written_step (answers : state.Answers nThreadNum nTimeout) (low : 0 ≤ nThreadNum)
    (high : nThreadNum ≤ CommonServer.maxThreadNum) (taken : state.step label = some next)
    (conn : ℕ) :
    writtenOn conn next.whole.tcp.history = writtenOn conn state.whole.tcp.history ∨
      next.whole.tcp.heap conn ≠ none := by
  obtain ⟨layered, numbered, config, -⟩ := answers.reached.facts low high
  rcases step_cases taken with
    ⟨move, rfl, notSend, notClose, free, whole, took, rfl⟩ | ⟨thread, pktData, rfl, here, rfl⟩
  · rcases packets_cases layered numbered config notSend notClose free took with
      ⟨-, effect, -, -⟩ | ⟨_, _, sameTcp, -, -⟩
    · show writtenOn conn whole.tcp.history = _ ∨ whole.tcp.heap conn ≠ none
      generalize whole.tcp = tcp at effect
      cases effect with
      | refl => exact Or.inl rfl
      | single effect => exact TcpServer.written_of_effect layered.owned conn effect
    · exact Or.inl (congrArg (fun tcp => writtenOn conn (TcpServer.history tcp)) sameTcp)
  · exact Or.inl (TcpServer.writtenOn_of_grown rfl (by simp [TcpServer.keyEvent, writtenOn]))

/-- Nothing was framed on a connection that is still to come. -/
theorem Answers.framedFrom_eq_nil (answers : state.Answers nThreadNum nTimeout) {conn : ℕ}
    (later : state.whole.tcp.nextConn ≤ conn) :
    System.framedFrom conn state.whole.common.log = [] := by
  refine List.map_eq_nil_iff.mpr (List.filter_eq_nil_iff.mpr fun pktData member own => ?_)
  obtain ⟨entry, framed, rfl⟩ := List.mem_map.mp member
  have known := ((answers.echoing ⟨0, 0, 0⟩).keyed entry framed).1
  have same : entry.2.origin = conn := of_decide_eq_true own
  omega

/-- A step of the server answers nothing, and takes no packet back that was framed; a call of
`Send` answers one packet. -/
theorem Answers.packets_step (answers : state.Answers nThreadNum nTimeout) (low : 0 ≤ nThreadNum)
    (high : nThreadNum ≤ CommonServer.maxThreadNum) (taken : state.step label = some next)
    (conn : ℕ) :
    next.answersOn conn = state.answersOn conn ∧
        System.framedFrom conn state.whole.common.log <+:
          System.framedFrom conn next.whole.common.log ∨
      (∃ pkt, next.answersOn conn = state.answersOn conn ++ [pkt]) ∧
        System.framedFrom conn next.whole.common.log =
          System.framedFrom conn state.whole.common.log := by
  obtain ⟨layered, numbered, config, -⟩ := answers.reached.facts low high
  rcases step_cases taken with
    ⟨move, rfl, notSend, notClose, free, whole, took, rfl⟩ | ⟨thread, pktData, rfl, here, rfl⟩
  · refine Or.inl ⟨rfl, ?_⟩
    have grown : System.dispatches state.whole.common.log <+:
        System.dispatches whole.common.log := by
      rcases packets_cases layered numbered config notSend notClose free took with
        ⟨same, -⟩ | ⟨thread, pktData, -, -, pushed⟩
      · have unchanged : System.dispatches whole.common.log =
            System.dispatches state.whole.common.log := congrArg Pool.pushed same
        exact unchanged ▸ List.prefix_rfl
      · exact ⟨[(thread, pktData)], (congrArg Pool.pushed pushed).symm⟩
    exact ((grown.map Prod.snd).filter _).map _
  · by_cases own : System.fromConn conn pktData = true
    · refine Or.inr ⟨⟨pktData.bytes, ?_⟩, rfl⟩
      simp [answersOn, handled, own]
    · refine Or.inl ⟨?_, List.prefix_rfl⟩
      simp [answersOn, handled, own]

theorem Answers.step (answers : state.Answers nThreadNum nTimeout) (low : 0 ≤ nThreadNum)
    (high : nThreadNum ≤ CommonServer.maxThreadNum) (fresh : state.Fresh label)
    (taken : state.step label = some next) : next.Answers nThreadNum nTimeout := by
  have reached := answers.reached.step taken
  have echoing := fun sClient => (answers.echoing sClient).step answers.reached low high
    (fresh.freshKey sClient) taken
  refine ⟨reached, echoing, fun conn => ?_⟩
  cases alive : next.whole.tcp.heap conn with
  | none =>
      rw [(answers.written_step low high taken conn).resolve_right (absurd alive)]
      refine (answers.front conn).trans (List.IsPrefix.flatten ?_)
      rcases answers.packets_step low high taken conn with ⟨same, -⟩ | ⟨⟨pkt, same⟩, -⟩
      · rw [same]
      · exact same ▸ List.prefix_append _ _
  | some connection =>
      -- a connection that is there is registered, and its account is balanced
      have mine := (reached.facts low high).1.owned.conn_owned alive
      obtain ⟨connection', alive', -, account⟩ :=
        (echoing connection.socketClient).kept.account mine.registered
      rw [answersOn, ← (echoing connection.socketClient).echoed mine.registered, ← account,
        List.append_assoc]
      exact List.prefix_append _ _

/-- **What the server writes on a connection, in terms of what is sent there.**  As long as
what it reads there is the front of packets, it frames a front of these packets, and answers
some of them, each at most once; with at most one thread, a front of them. -/
theorem Answers.packets_of_sent (answers : state.Answers nThreadNum nTimeout)
    (low : 0 ≤ nThreadNum) (high : nThreadNum ≤ CommonServer.maxThreadNum) {conn : ℕ}
    {pkts : List Bytes} (packets : ∀ pkt ∈ pkts, IsPacket pkt)
    (sent : (TcpServer.readOn conn state.whole.tcp.log).flatten <+: pkts.flatten) :
    (System.framedFrom conn state.whole.common.log <+: pkts ∧
        (System.framedFrom conn state.whole.common.log).flatten <+:
          (TcpServer.readOn conn state.whole.tcp.log).flatten) ∧
      (state.answersOn conn).Subperm (System.framedFrom conn state.whole.common.log) ∧
      (nThreadNum ≤ 1 →
        state.answersOn conn <+: System.framedFrom conn state.whole.common.log) := by
  obtain ⟨moves, runs, -⟩ := answers.reached
  have front := answers.reached.framed_front low high conn
  obtain ⟨among, bytes⟩ :=
    received_front_of_packets ((WholeServer.fits_of_run () runs).bounded conn) packets sent
  refine ⟨⟨front.trans among, front.flatten.trans bytes⟩, answers.once conn, fun few => ?_⟩
  obtain ⟨thread, single⟩ := answers.reached.single low few
  have inOrder : state.answered.map Prod.snd <+:
      (System.dispatches state.whole.common.log).map Prod.snd :=
    Pool.popped_prefix_of_single (answers.echoing ⟨0, 0, 0⟩).conserved single
  exact (inOrder.filter _).map _

end CommonEchoServer

end ServerLib
