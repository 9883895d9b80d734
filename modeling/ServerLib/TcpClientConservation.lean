import Mathlib.Data.List.Basic
import ServerLib.MessageBoundaries
import ServerLib.TcpClientWatcher

/-!
# Bytes across reconnects

Message boundaries do not survive a reconnect, but no byte is lost by one: `__Connect`
replaces the socket and the watcher and leaves the write queue alone, with the position
inside its front buffer.  So the connections of a client, read one behind the other,
carry one stream, and the stream is the data of the calls of `Send` in the order of the
lock.  A call that finds the queue too long is taken back at once, with a report.

`Conserved` is this account, of bytes and of calls, together with what keeps the bytes
moving: while something is queued, the watcher asks for `EV_WRITE`.

## What is load-bearing

That bytes are written on the socket made last, and on nothing else.  This is
`Attached`, the invariant of the runs in which every reconnect gets a socket; elsewhere
`write` may go to whatever took over the number.
-/

namespace ServerLib

open Transition

namespace TcpClient

/-! ## The account -/

/-- The data of the calls of `__Send`, in the order they were made. -/
def executions (log : List ClientEvent) : List Bytes :=
  log.filterMap fun
    | .executed pData => some pData
    | _ => none

/-- One more event: a call of `__Send` adds its message, and the report that the queue
was too long takes it back. -/
def accept (messages : List Bytes) : ClientEvent → List Bytes
  | .executed pData => messages ++ [pData]
  | .onSendError _ _ (some _) => messages.dropLast
  | _ => messages

/-- The messages of the calls of `__Send` that were not refused. -/
def accepted (log : List ClientEvent) : List Bytes := log.foldl accept []

/-- The bytes written on the sockets of the client, one socket behind the other. -/
def delivered (client : TcpClient) : Bytes :=
  (List.range client.nextSocket).flatMap fun number => writtenOn number client.log

/-- **The account of the send path.** -/
structure Conserved (client : TcpClient) : Prop where
  /-- What was written and what is queued are the messages that were not refused. -/
  bytes : client.delivered ++ unsent client.writeQueue = (accepted client.log).flatten
  /-- The calls executed, the rest of the batch and `m_Functions` are all calls. -/
  calls : executions client.log ++
    (client.batch ++ client.functions).map OutputBuffer.getDataPos = sends client.log
  /-- Where something is queued, the watcher asks for `EV_WRITE`. -/
  interest : client.writeQueue ≠ [] → client.io.events.write = true
  /-- Nothing is written on a socket before it is made. -/
  fresh : ∀ {number}, client.nextSocket ≤ number → writtenOn number client.log = []

theorem conserved_new : new.Conserved where
  bytes := rfl
  calls := rfl
  interest nonempty := absurd rfl nonempty
  fresh _ := rfl

@[simp] theorem executions_append (log more : List ClientEvent) :
    executions (log ++ more) = executions log ++ executions more :=
  List.filterMap_append

theorem accepted_append (log more : List ClientEvent) :
    accepted (log ++ more) = more.foldl accept (accepted log) :=
  List.foldl_append

/-! ## What is not accounted for -/

/-- An event that is neither a call, nor a report about one, nor bytes taken. -/
def IsQuiet : ClientEvent → Prop
  | .opened .. => True
  | .closed .. => True
  | .onConnected .. => True
  | .onDisconnected .. => True
  | .onRecvError .. => True
  | .onDataReceived .. => True
  | .onSendError _ _ refused => refused = none
  | .written .. => False
  | .sent .. => False
  | .executed .. => False

theorem IsIoFailure.isQuiet {event : ClientEvent} (failure : IsIoFailure event) :
    IsQuiet event := by
  cases event <;> first | exact trivial | exact failure

/-- Quiet events change no account. -/
theorem accounts_of_quiet {events : List ClientEvent} (quiet : ∀ event ∈ events, IsQuiet event)
    (log : List ClientEvent) :
    sends (log ++ events) = sends log ∧ executions (log ++ events) = executions log ∧
      accepted (log ++ events) = accepted log ∧
      ∀ number, writtenOn number (log ++ events) = writtenOn number log := by
  induction events generalizing log with
  | nil => simp
  | cons event rest ih =>
      have here : sends (log ++ [event]) = sends log ∧
          executions (log ++ [event]) = executions log ∧ accepted (log ++ [event]) = accepted log ∧
          ∀ number, writtenOn number (log ++ [event]) = writtenOn number log := by
        have silent := quiet event List.mem_cons_self
        rw [accepted_append]
        cases event with
        | onSendError sClient nErrorCode refused =>
            obtain rfl : refused = none := silent
            simp [sends, executions, accept, writtenOn]
        | written | sent | executed => exact silent.elim
        | opened | closed | onConnected | onDisconnected | onRecvError | onDataReceived =>
            simp [sends, executions, accept, writtenOn]
      obtain ⟨send, execution, message, bytes⟩ :=
        ih (fun later member => quiet later (List.mem_cons_of_mem _ member)) (log ++ [event])
      rw [List.append_cons]
      exact ⟨send.trans here.1, execution.trans here.2.1, message.trans here.2.2.1,
        fun number => (bytes number).trans (here.2.2.2 number)⟩

/-- Sockets on which nothing was written add nothing. -/
theorem flatMap_range_of_fresh {count more : ℕ} {bytes : ℕ → Bytes} (fewer : count ≤ more)
    (fresh : ∀ number, count ≤ number → bytes number = []) :
    (List.range more).flatMap bytes = (List.range count).flatMap bytes := by
  obtain ⟨extra, rfl⟩ := Nat.exists_eq_add_of_le fewer
  rw [List.range_add, List.flatMap_append, List.flatMap_map]
  have none : (List.range extra).flatMap (fun number => bytes (count + number)) = [] := by
    rw [List.flatMap_eq_nil_iff]
    intro number _
    exact fresh _ (Nat.le_add_right ..)
  rw [none, List.append_nil]

section Keep

variable {client next : TcpClient}

/-- Where no event is accounted for and the queues stay, so does the account. -/
theorem Conserved.of_quiet (conserved : client.Conserved) (events : List ClientEvent)
    (quiet : ∀ event ∈ events, IsQuiet event) (grown : next.log = client.log ++ events)
    (made : client.nextSocket ≤ next.nextSocket)
    (sameQueue : next.writeQueue = client.writeQueue)
    (sameCalls : next.batch ++ next.functions = client.batch ++ client.functions)
    (interest : client.writeQueue ≠ [] → next.io.events.write = true) :
    next.Conserved := by
  obtain ⟨send, execution, message, bytes⟩ := accounts_of_quiet quiet client.log
  rw [← grown] at send execution message bytes
  have sameDelivered : next.delivered = client.delivered := by
    unfold delivered
    rw [funext bytes]
    exact flatMap_range_of_fresh made fun number large => conserved.fresh large
  constructor
  · rw [sameDelivered, sameQueue, message]
    exact conserved.bytes
  · rw [execution, sameCalls, send]
    exact conserved.calls
  · rw [sameQueue]
    exact interest
  · intro number large
    rw [bytes]
    exact conserved.fresh (Nat.le_trans made large)

/-! ## The effects on the account -/

/-- A call of `Send` is one more call, behind all others. -/
theorem Conserved.submitted (conserved : client.Conserved) (pData : Bytes) :
    (client.send pData).Conserved where
  bytes := by
    have same : accepted (client.log ++ [.sent pData]) = accepted client.log := accepted_append ..
    have sameBytes : ∀ number, writtenOn number (client.log ++ [.sent pData]) =
        writtenOn number client.log := by
      intro number
      rw [writtenOn_append]
      exact List.append_nil _
    show (List.range _).flatMap (fun number => writtenOn number (client.log ++ [.sent pData])) ++
      _ = (accepted (client.log ++ [.sent pData])).flatten
    rw [same, funext sameBytes]
    exact conserved.bytes
  calls := by
    show executions (client.log ++ [.sent pData]) ++ (client.batch ++
      (client.functions ++ [OutputBuffer.new pData])).map OutputBuffer.getDataPos =
        sends (client.log ++ [.sent pData])
    rw [sends_append, ← conserved.calls]
    simp [executions, sends]
  interest := conserved.interest
  fresh large := by
    show writtenOn _ (client.log ++ [.sent pData]) = []
    rw [writtenOn_append, conserved.fresh large]
    rfl

/-- A function that is called and pushes its buffer moves it to the write queue. -/
theorem Conserved.queued (conserved : client.Conserved) {pOutputBuffer : OutputBuffer}
    {rest : List OutputBuffer} (batch : client.batch = pOutputBuffer :: rest) :
    ({ client.popped pOutputBuffer rest with
      writeQueue := client.writeQueue ++ [pOutputBuffer]
      io := client.io.set Interest.readWrite } : TcpClient).Conserved where
  bytes := by
    show (List.range client.nextSocket).flatMap (fun number =>
        writtenOn number (client.log ++ [.executed pOutputBuffer.getDataPos])) ++
      unsent (client.writeQueue ++ [pOutputBuffer]) =
        (accepted (client.log ++ [.executed pOutputBuffer.getDataPos])).flatten
    have message : accepted (client.log ++ [.executed pOutputBuffer.getDataPos]) =
        accepted client.log ++ [pOutputBuffer.getDataPos] := accepted_append ..
    have sameBytes : ∀ number, writtenOn number (client.log ++
        [.executed pOutputBuffer.getDataPos]) = writtenOn number client.log := by
      intro number
      rw [writtenOn_append]
      exact List.append_nil _
    rw [message, funext sameBytes, unsent_append, ← List.append_assoc, List.flatten_append,
      ← conserved.bytes]
    simp [unsent, delivered]
  calls := by
    show executions (client.log ++ [.executed pOutputBuffer.getDataPos]) ++
      (rest ++ client.functions).map OutputBuffer.getDataPos =
        sends (client.log ++ [.executed pOutputBuffer.getDataPos])
    have calls := conserved.calls
    rw [batch] at calls
    rw [sends_append, ← calls]
    simp [executions, sends]
  interest _ := rfl
  fresh large := by
    show writtenOn _ (client.log ++ [.executed pOutputBuffer.getDataPos]) = []
    rw [writtenOn_append, conserved.fresh large]
    rfl

/-- A function that is called and refused changes neither side. -/
theorem Conserved.refused (conserved : client.Conserved) {pOutputBuffer : OutputBuffer}
    {rest : List OutputBuffer} (batch : client.batch = pOutputBuffer :: rest) :
    ((client.popped pOutputBuffer rest).emit
      (.onSendError client.socketClient 0 (some pOutputBuffer.getDataPos))).Conserved := by
  -- the message that the first event adds is the one the second takes back
  have grown : ((client.popped pOutputBuffer rest).emit
      (.onSendError client.socketClient 0 (some pOutputBuffer.getDataPos))).log =
        client.log ++ [.executed pOutputBuffer.getDataPos,
          .onSendError client.socketClient 0 (some pOutputBuffer.getDataPos)] :=
    List.append_assoc ..
  have message : accepted (client.log ++ [.executed pOutputBuffer.getDataPos,
      .onSendError client.socketClient 0 (some pOutputBuffer.getDataPos)]) =
        accepted client.log := by
    rw [accepted_append]
    exact List.dropLast_concat
  have sameBytes : ∀ number, writtenOn number (client.log ++
      [.executed pOutputBuffer.getDataPos,
        .onSendError client.socketClient 0 (some pOutputBuffer.getDataPos)]) =
        writtenOn number client.log := by
    intro number
    rw [writtenOn_append]
    exact List.append_nil _
  constructor
  · rw [delivered, grown, message, funext sameBytes]
    exact conserved.bytes
  · have calls := conserved.calls
    rw [batch] at calls
    rw [grown, sends_append, ← calls]
    simp [executions, sends, emit, popped]
  · exact conserved.interest
  · intro number large
    rw [grown, sameBytes]
    exact conserved.fresh large

/-- **A `write` on the socket made last** moves bytes from the queue to the end of the
stream. -/
theorem Conserved.wrote (conserved : client.Conserved) {pBuffer : OutputBuffer}
    {rest : List OutputBuffer} {count number : ℕ} (fits : count ≤ pBuffer.getBytes)
    (queue : client.writeQueue = pBuffer :: rest) (latest : client.nextSocket = number + 1)
    (owned : client.owner client.io.fd = some (.socket number)) :
    (client.advanced pBuffer rest count fits).Conserved := by
  have grown : (client.advanced pBuffer rest count fits).log = client.log ++
      [.written (pBuffer.getDataPos.take count) (some (.socket number))] := by
    rw [← owned]
    rfl
  have here : writtenOn number (client.log ++
      [.written (pBuffer.getDataPos.take count) (some (.socket number))]) =
        writtenOn number client.log ++ pBuffer.getDataPos.take count := by
    rw [writtenOn_written, if_pos rfl]
  have elsewhere : ∀ other, other ≠ number → writtenOn other (client.log ++
      [.written (pBuffer.getDataPos.take count) (some (.socket number))]) =
        writtenOn other client.log := by
    intro other apart
    rw [writtenOn_written, if_neg (by simpa using apart.symm), List.append_nil]
  have delivered_eq : (client.advanced pBuffer rest count fits).delivered =
      client.delivered ++ pBuffer.getDataPos.take count := by
    show (List.range client.nextSocket).flatMap _ = (List.range client.nextSocket).flatMap _ ++ _
    rw [grown, latest, List.range_succ, List.flatMap_append, List.flatMap_append,
      List.flatMap_singleton, List.flatMap_singleton, here, List.append_assoc]
    refine congrArg (fun bytes : Bytes => bytes ++ _) (List.flatMap_congr fun other earlier => ?_)
    exact elsewhere other (Nat.ne_of_lt (List.mem_range.mp earlier))
  constructor
  · have message : accepted (client.advanced pBuffer rest count fits).log =
        accepted client.log := by
      rw [grown]
      exact accepted_append ..
    rw [delivered_eq, message, ← conserved.bytes, List.append_assoc, queue]
    exact congrArg _ (take_append_unsent_advanceQueue fits rest)
  · rw [grown, sends_append, executions_append]
    simpa [executions, sends, advanced, emit] using conserved.calls
  · intro nonempty
    have left : advanceQueue pBuffer count fits rest ≠ [] := nonempty
    show (ite _ _ client.io).events.write = true
    rw [if_neg left]
    exact conserved.interest (by simp [queue])
  · intro other large
    have apart : number < other := by
      have large : client.nextSocket ≤ other := large
      omega
    rw [grown, elsewhere other (Nat.ne_of_gt apart)]
    exact conserved.fresh (by omega)

/-- `__Connect` leaves the account as it is, whatever `socket` returns. -/
theorem Conserved.connect (conserved : client.Conserved) {fd : Int32} {success : Bool}
    (called : client.connect fd = some (next, success)) : next.Conserved := by
  have dropped : client.dropSocket.Conserved := by
    unfold dropSocket
    split
    · exact conserved.of_quiet [_] (by simp [IsQuiet]) rfl (Nat.le_refl _) rfl rfl
        conserved.interest
    · exact conserved
  have made : (client.dropSocket.made fd).Conserved :=
    dropped.of_quiet [_] (by simp [IsQuiet]) rfl (Nat.le_succ _) rfl rfl dropped.interest
  rcases connect_cases called with ⟨-, -, rfl⟩ | ⟨-, -, -, rfl⟩ | ⟨-, -, -, rfl⟩
  · exact dropped.of_quiet [] nofun (List.append_nil _).symm (Nat.le_refl _) rfl rfl
      dropped.interest
  · exact made
  · exact made.of_quiet [] nofun (List.append_nil _).symm (Nat.le_refl _) rfl rfl fun _ => rfl

theorem Conserved.read (conserved : client.Conserved) (read : IoRead client next) :
    next.Conserved := by
  cases read with
  | nothing => exact conserved
  | data pData =>
      exact conserved.of_quiet [_] (by simp [IsQuiet]) rfl (Nat.le_refl _) rfl rfl
        conserved.interest

theorem Conserved.reported (conserved : client.Conserved) (reported : IoReported client next) :
    next.Conserved := by
  cases reported with
  | running event failure | stopped event failure =>
      exact conserved.of_quiet [event] (by simpa using failure.isQuiet) rfl (Nat.le_refl _) rfl rfl
        conserved.interest

theorem Conserved.written (conserved : client.Conserved) (attached : client.Attached)
    (active : client.io.active = true) (written : IoWritten client next) : next.Conserved := by
  cases written with
  | nothing => exact conserved
  | idle empty =>
      exact conserved.of_quiet [] nofun (List.append_nil _).symm (Nat.le_refl _) rfl rfl
        fun nonempty => absurd empty nonempty
  | wrote fits queue =>
      obtain ⟨watches, -, number, latest, owned⟩ := attached.watched active
      exact conserved.wrote fits queue latest (watches ▸ owned)

/-- **Every step keeps the account where the watcher is attached.** -/
theorem Conserved.step (conserved : client.Conserved) (attached : client.Attached)
    {label : Label} (taken : client.step label = some next) : next.Conserved := by
  have same : client.log = client.log ++ [] := (List.append_nil _).symm
  cases stepped_of_step taken with
  | startAsync | startNotify | dispatched | otherOpen | otherClose =>
      exact conserved.of_quiet [] nofun same (Nat.le_refl _) rfl rfl conserved.interest
  | startConnect notified connected =>
      have reached := conserved.connect connected
      exact reached.of_quiet [] nofun (List.append_nil _).symm (Nat.le_refl _) rfl rfl
        reached.interest
  | stop =>
      exact conserved.of_quiet [_] (by simp [IsQuiet]) rfl (Nat.le_refl _) rfl rfl
        conserved.interest
  | send pData => exact conserved.submitted pData
  | swapped idle =>
      refine conserved.of_quiet [] nofun same (Nat.le_refl _) rfl ?_ conserved.interest
      show client.functions ++ [] = client.batch ++ client.functions
      rw [idle.2, List.append_nil, List.nil_append]
  | pushed due => exact conserved.queued due
  | refused due => exact conserved.refused due
  | io idle called =>
      obtain ⟨active, after, read, ⟨-, told, reported, failed⟩ | ⟨-, written⟩⟩ :=
        ioCallback_cases called
      · obtain ⟨success, connected⟩ := connect_of_reconnect failed
        exact ((conserved.read read).reported reported).connect connected
      · exact (conserved.read read).written (attached.of_same read.sameWatch)
          (read.sameWatch.active.trans active) written

end Keep

/-- **No byte is lost or doubled by a reconnect.**  In every run in which every
reconnect gets a socket, the connections carry the messages that were not refused, in
the order of the lock, up to what is still queued. -/
theorem conserved_of_reconnected {labels : List Label} {last : TcpClient}
    (along : Along step Reconnected new labels) (runs : run step new labels = some last) :
    last.Conserved := by
  refine And.right (run_invariant_along (I := fun client => client.Attached ∧ client.Conserved)
    (fun client label next holds reconnected taken => ?_) labels
    ⟨attached_new, conserved_new⟩ along runs)
  exact ⟨holds.1.step reconnected taken, holds.2.step holds.1 taken⟩

/-- A message of three bytes, one of them written before the peer closes and two after
the reconnect. -/
theorem conserved_across_reconnect :
    ∃ last, run step new [.startAsync 2130706433 8888, .startNotify, .startConnect 3,
      .send [7, 8, 9], .asyncDispatch, .asyncSwap, .asyncExec,
      .io ⟨false, false, true⟩ .again (.wrote 1) 0 0, .io ⟨false, true, false⟩ .eof .again 0 4,
      .io ⟨false, false, true⟩ .again (.wrote 2) 0 0] = some last ∧ last.Conserved := by
  obtain ⟨last, runs⟩ := Option.isSome_iff_exists.mp
    (show (run step new [.startAsync 2130706433 8888, .startNotify, .startConnect 3,
      .send [7, 8, 9], .asyncDispatch, .asyncSwap, .asyncExec,
      .io ⟨false, false, true⟩ .again (.wrote 1) 0 0, .io ⟨false, true, false⟩ .eof .again 0 4,
      .io ⟨false, false, true⟩ .again (.wrote 2) 0 0]).isSome = true by decide +kernel)
  exact ⟨last, runs, conserved_of_reconnected (by decide +kernel) runs⟩

end TcpClient

end ServerLib
