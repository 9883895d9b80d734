import ServerLib.TcpClient

/-!
# What a step of the client can do

`Stepped` says of each label what a step with it finds and where it leads; the laws of the
client are proved by cases on it.  `Effect` lists, once, everything a step of `CTcpClient`
does to the state, as `TcpServerEffects` does for the server.  A step is a short sequence
of effects, in every state: the client has no registry that could disagree with its
watcher.

The effect that matters is `connected`, one call of `__Connect`.  Where the properties
of the client hold under a condition, it is a condition on the state in which
`__Connect` is called, or on what `socket` returns there.  `Ready` is such a condition,
on the write queue and the result of `socket`; `Prepared` says it of a step, in the
state before the step: `IoReconnects` reads off the arguments of `__IoCallback` whether
one of its four paths to `__Connect` will be taken.
-/

namespace ServerLib

open Transition

@[simp] theorem AsyncWatcher.active_start (async : AsyncWatcher) :
    async.start.active = true := by
  unfold AsyncWatcher.start
  split
  · next active => exact active
  · rfl

namespace TcpClient

/-! ## `__Connect` -/

/-- The client after `socket` returned the descriptor `fd`. -/
def made (client : TcpClient) (fd : Int32) : TcpClient :=
  { client.emit (.opened client.nextSocket fd) with
    socket := fd
    owner := Function.update client.owner fd (some (.socket client.nextSocket))
    nextSocket := client.nextSocket + 1 }

/-- The client after `m_Io` was started on its socket. -/
def watching (client : TcpClient) : TcpClient :=
  { client with
    socketClient := ⟨client.IP, client.Port, client.socket⟩
    io := ⟨client.socket, Interest.readWrite, true⟩ }

section Step

variable {Ready : List OutputBuffer → Int32 → Prop} {client next : TcpClient} {fd : Int32}

/-- **What a call of `__Connect` can do.**  No socket, a socket on descriptor 0, which
counts as none, or a socket with the watcher on it. -/
theorem connect_cases {success : Bool} (called : client.connect fd = some (next, success)) :
    fd = -1 ∧ success = false ∧ next = { client.dropSocket with socket := -1 } ∨
    fd = 0 ∧ success = false ∧ client.dropSocket.owner fd = none ∧
      next = client.dropSocket.made fd ∨
    0 < fd ∧ success = true ∧ client.dropSocket.owner fd = none ∧
      next = (client.dropSocket.made fd).watching := by
  obtain ⟨made, called, same⟩ := Option.map_eq_some_iff.mp called
  unfold makeSocket at called
  split at called
  · next failed =>
      cases called
      subst failed
      rw [if_pos (show (-1 : Int32) ≤ 0 by decide), Prod.mk.injEq] at same
      exact Or.inl ⟨rfl, same.2.symm, same.1.symm⟩
  · split at called
    · next free =>
        cases called
        by_cases zero : fd ≤ 0
        · rw [if_pos zero, Prod.mk.injEq] at same
          exact Or.inr (Or.inl ⟨Int32.le_antisymm zero free.1, same.2.symm, free.2,
            same.1.symm⟩)
        · rw [if_neg zero, Prod.mk.injEq] at same
          exact Or.inr (Or.inr ⟨Int32.not_le.mp zero, same.2.symm, free.2, same.1.symm⟩)
    · cases called

theorem connect_of_reconnect (called : client.reconnect fd = some next) :
    ∃ success, client.connect fd = some (next, success) := by
  obtain ⟨⟨reached, success⟩, connected, rfl⟩ := Option.map_eq_some_iff.mp called
  exact ⟨success, connected⟩

@[simp] theorem dropSocket_writeQueue (client : TcpClient) :
    client.dropSocket.writeQueue = client.writeQueue := by
  unfold dropSocket
  split <;> rfl

/-! ## `__IoCallback` -/

/-- A report on one of the four paths of the io callback to `__Connect`. -/
def IsIoFailure : ClientEvent → Prop
  | .onDisconnected _ _ => True
  | .onRecvError _ _ => True
  | .onSendError _ _ refused => refused = none
  | _ => False

/-- What one of the four paths does before `__Connect`: the report, and in front of it, for
`EV_ERROR`, what libev has done to the watcher. -/
inductive IoReported (client : TcpClient) : TcpClient → Prop where
  | running (event : ClientEvent) : IsIoFailure event → IoReported client (client.emit event)
  | stopped (event : ClientEvent) : IsIoFailure event →
      IoReported client (client.unwatched.emit event)

/-- A call of `__IoCallback` with these arguments takes one of its four paths to
`__Connect`. -/
abbrev IoReconnects (client : TcpClient) (revents : Revents) (nRead : RecvResult)
    (nWritten : WriteResult) : Prop :=
  revents.error = true ∨ revents.read = true ∧ nRead.ends = true ∨
    revents.write = true ∧ client.writeQueue ≠ [] ∧ nWritten.fails = true

/-- The client after a `write` took `count` bytes of the front buffer. -/
def advanced (client : TcpClient) (pBuffer : OutputBuffer) (rest : List OutputBuffer)
    (count : ℕ) (fits : count ≤ pBuffer.getBytes) : TcpClient :=
  { client with
    writeQueue := advanceQueue pBuffer count fits rest
    io := if advanceQueue pBuffer count fits rest = [] then
        client.io.set Interest.readOnly
      else
        client.io }.emit
    (.written (pBuffer.getDataPos.take count) (client.owner client.io.fd))

/-- What the callback has read, where it goes on behind that. -/
inductive IoRead (client : TcpClient) : TcpClient → Prop where
  | nothing : IoRead client client
  | data (pData : Bytes) : client.Opened → IoRead client (client.emit
      (.onDataReceived client.socketClient pData (client.owner client.io.fd)))

/-- The bytes `recv` returns in a step. -/
def recvData : Label → Bytes
  | .io revents (.data pData) _ _ _ =>
      if revents.error = false ∧ revents.read = true then pData else []
  | _ => []

/-- What the callback has read, where `recv` returned these bytes. -/
inductive IoRecv (client : TcpClient) : Bytes → TcpClient → Prop where
  | nothing : IoRecv client [] client
  | data {pData : Bytes} : 1 ≤ pData.length → pData.length ≤ 4096 → client.Opened →
      IoRecv client pData (client.emit
        (.onDataReceived client.socketClient pData (client.owner client.io.fd)))

/-- What the callback does behind that, where it does not reconnect. -/
inductive IoWritten (client : TcpClient) : TcpClient → Prop where
  | nothing : IoWritten client client
  | idle : client.writeQueue = [] →
      IoWritten client { client with io := client.io.set Interest.readOnly }
  | wrote {pBuffer : OutputBuffer} {rest : List OutputBuffer} {count : ℕ}
      (fits : count ≤ pBuffer.getBytes) : client.writeQueue = pBuffer :: rest → client.Opened →
      IoWritten client (client.advanced pBuffer rest count fits)

theorem IoReported.writeQueue_eq {after : TcpClient} (reported : IoReported client after) :
    after.writeQueue = client.writeQueue := by
  cases reported <;> rfl

theorem IoRead.writeQueue_eq {after : TcpClient} (read : IoRead client after) :
    after.writeQueue = client.writeQueue := by
  cases read <;> rfl

theorem IoRecv.read {pData : Bytes} {after : TcpClient} (received : IoRecv client pData after) :
    IoRead client after := by
  cases received with
  | nothing => exact .nothing
  | data _ _ opened => exact .data pData opened

section Read

variable {revents : Revents} {nRead : RecvResult} {nWritten : WriteResult} {errno : Int32}

/-- `recv` is not called for an error, nor without `EV_READ`, and returns no bytes where it
ends the connection. -/
theorem recvData_eq_nil
    (nothing : revents.error = true ∨ revents.read = false ∨ nRead.ends = true) :
    recvData (.io revents nRead nWritten errno fd) = [] := by
  cases nRead with
  | data pData =>
      refine if_neg fun both => ?_
      rcases nothing with error | unasked | ends
      · exact Bool.false_ne_true (both.1.symm.trans error)
      · exact Bool.false_ne_true (unasked.symm.trans both.2)
      · cases ends
  | eof | again | error => rfl

/-- The read branch ends the callback with a report and a reconnect, or lets it go on. -/
theorem ioRead_cases {goesOn : Bool} (fine : revents.error = false) (asked : revents.read = true)
    (called : client.ioRead nRead fd = some (next, goesOn)) :
    nRead.ends = true ∧ goesOn = false ∧
        (∃ told, IoReported client told ∧ told.reconnect fd = some next) ∨
      nRead.ends = false ∧ goesOn = true ∧
        IoRecv client (recvData (.io revents nRead nWritten errno fd)) next := by
  obtain ⟨possible, called⟩ := Option.ite_none_right_eq_some.mp called
  cases nRead with
  | eof =>
      obtain ⟨after, reconnected, same⟩ := Option.map_eq_some_iff.mp called
      obtain ⟨rfl, rfl⟩ := Prod.mk.inj same
      exact Or.inl ⟨rfl, rfl, _, .running (.onDisconnected _ _) trivial, reconnected⟩
  | again =>
      obtain ⟨rfl, rfl⟩ := Prod.mk.inj (Option.some.inj called)
      exact Or.inr ⟨rfl, rfl, .nothing⟩
  | error errno =>
      obtain ⟨after, reconnected, same⟩ := Option.map_eq_some_iff.mp called
      obtain ⟨rfl, rfl⟩ := Prod.mk.inj same
      exact Or.inl ⟨rfl, rfl, _, .running (.onRecvError _ _) trivial, reconnected⟩
  | data pData =>
      obtain ⟨rfl, rfl⟩ := Prod.mk.inj (Option.some.inj called)
      have all : recvData (.io revents (.data pData) nWritten errno fd) = pData :=
        if_pos ⟨fine, asked⟩
      exact Or.inr ⟨rfl, rfl, all.symm ▸ .data possible.2.1 possible.2.2 possible.1⟩

end Read

/-- The write branch reports an error and reconnects, or does not. -/
theorem ioWrite_cases {nWritten : WriteResult} (called : client.ioWrite nWritten fd = some next) :
    (client.writeQueue ≠ [] ∧ nWritten.fails = true) ∧
        (∃ told, IoReported client told ∧ told.reconnect fd = some next) ∨
      ¬ (client.writeQueue ≠ [] ∧ nWritten.fails = true) ∧ IoWritten client next := by
  unfold ioWrite at called
  split at called
  · next empty =>
      obtain rfl := Option.some.inj called
      exact Or.inr ⟨fun fails => fails.1 empty, .idle empty⟩
  · next pBuffer rest queue =>
      obtain ⟨possible, called⟩ := Option.ite_none_right_eq_some.mp called
      cases nWritten with
      | again =>
          obtain rfl := Option.some.inj called
          exact Or.inr ⟨fun fails => Bool.false_ne_true fails.2, .nothing⟩
      | error errno =>
          have nonempty : client.writeQueue ≠ [] := by simp [queue]
          exact Or.inl
            ⟨⟨nonempty, rfl⟩, _, .running (.onSendError _ errno none) rfl, called⟩
      | wrote count =>
          obtain ⟨fits, same⟩ := Option.dite_none_right_eq_some.mp called
          obtain rfl := Option.some.inj same
          exact Or.inr ⟨fun fails => Bool.false_ne_true fails.2, .wrote fits queue possible.1⟩

/-- **What a call of `__IoCallback` can do**, with the bytes `recv` returns in it.  It may
read, and then it either reports a failure and calls `__Connect`, on the four paths, or it
writes what it can. -/
theorem ioCallback_recv {revents : Revents} {nRead : RecvResult} {nWritten : WriteResult}
    {errno : Int32} (called : client.ioCallback revents nRead nWritten errno fd = some next) :
    client.io.active = true ∧
      ∃ after, IoRecv client (recvData (.io revents nRead nWritten errno fd)) after ∧
        (client.IoReconnects revents nRead nWritten ∧
            (∃ told, IoReported after told ∧ told.reconnect fd = some next) ∨
          ¬ client.IoReconnects revents nRead nWritten ∧ IoWritten after next) := by
  obtain ⟨reported, called⟩ := Option.ite_none_right_eq_some.mp called
  refine ⟨reported.1, ?_⟩
  split at called
  · next error =>
      rw [recvData_eq_nil (Or.inl error)]
      exact ⟨client, .nothing,
        Or.inl ⟨Or.inl error, _, .stopped (.onDisconnected _ errno) trivial, called⟩⟩
  · next fine =>
      obtain ⟨⟨after, goesOn⟩, read, behind⟩ := Option.bind_eq_some_iff.mp called
      have reading : (revents.read = true ∧ nRead.ends = true) ∧ goesOn = false ∧
            (∃ told, IoReported client told ∧ told.reconnect fd = some after) ∨
          ¬ (revents.read = true ∧ nRead.ends = true) ∧ goesOn = true ∧
            IoRecv client (recvData (.io revents nRead nWritten errno fd)) after := by
        split at read
        · next asked =>
            rcases ioRead_cases (Bool.eq_false_iff.mpr fine) asked read with
              ⟨ends, stays, failed⟩ | ⟨lasts, goes, done⟩
            · exact Or.inl ⟨⟨asked, ends⟩, stays, failed⟩
            · exact Or.inr ⟨fun ends => by simp [lasts] at ends, goes, done⟩
        · next unasked =>
            obtain ⟨rfl, rfl⟩ := Prod.mk.inj (Option.some.inj read)
            rw [recvData_eq_nil (Or.inr (Or.inl (Bool.eq_false_iff.mpr unasked)))]
            exact Or.inr ⟨fun ends => unasked ends.1, rfl, .nothing⟩
      rcases reading with ⟨ends, rfl, failed⟩ | ⟨lasts, rfl, done⟩
      · obtain rfl := Option.some.inj behind
        rw [recvData_eq_nil (Or.inr (Or.inr ends.2))]
        exact ⟨client, .nothing, Or.inl ⟨Or.inr (Or.inl ends), failed⟩⟩
      · refine ⟨after, done, ?_⟩
        dsimp only at behind
        -- the write branch finds the queue as it was
        have decided : client.IoReconnects revents nRead nWritten ↔
            revents.write = true ∧ after.writeQueue ≠ [] ∧ nWritten.fails = true := by
          rw [done.read.writeQueue_eq]
          exact ⟨fun taken => (taken.resolve_left fine).resolve_left lasts,
            fun writes => Or.inr (Or.inr writes)⟩
        rw [decided]
        split at behind
        · next asked =>
            rcases ioWrite_cases behind with ⟨fails, failed⟩ | ⟨works, wrote⟩
            · exact Or.inl ⟨⟨asked, fails⟩, failed⟩
            · exact Or.inr ⟨fun fails => works fails.2, wrote⟩
        · next unasked =>
            obtain rfl := Option.some.inj behind
            exact Or.inr ⟨fun fails => unasked fails.1, .nothing⟩

/-- The same where it does not matter what was read. -/
theorem ioCallback_cases {revents : Revents} {nRead : RecvResult} {nWritten : WriteResult}
    {errno : Int32} (called : client.ioCallback revents nRead nWritten errno fd = some next) :
    client.io.active = true ∧ ∃ after, IoRead client after ∧
      (client.IoReconnects revents nRead nWritten ∧
          (∃ told, IoReported after told ∧ told.reconnect fd = some next) ∨
        ¬ client.IoReconnects revents nRead nWritten ∧ IoWritten after next) := by
  obtain ⟨active, after, received, behind⟩ := ioCallback_recv called
  exact ⟨active, after, received.read, behind⟩

/-! ## `__AsyncCallback` -/

/-- The next function of the batch was called. -/
def popped (client : TcpClient) (pOutputBuffer : OutputBuffer) (rest : List OutputBuffer) :
    TcpClient :=
  { client.emit (.executed pOutputBuffer.getDataPos) with batch := rest }

/-- **What the next function of the batch can do**: push its buffer, or find the write
queue too long. -/
theorem asyncExec_cases (called : client.asyncExec = some next) :
    (∃ pOutputBuffer rest, client.batch = pOutputBuffer :: rest ∧
        client.writeQueue.length ≤ writeQueueMaxSize ∧
        next = { client.popped pOutputBuffer rest with
          writeQueue := client.writeQueue ++ [pOutputBuffer]
          io := client.io.set Interest.readWrite }) ∨
      ∃ pOutputBuffer rest, client.batch = pOutputBuffer :: rest ∧
        writeQueueMaxSize < client.writeQueue.length ∧
        next = (client.popped pOutputBuffer rest).emit
          (.onSendError client.socketClient 0 (some pOutputBuffer.getDataPos)) := by
  unfold asyncExec at called
  split at called
  · cases called
  · next pOutputBuffer rest batch =>
      obtain rfl := Option.some.inj called
      unfold execSend
      split
      · next long => exact Or.inr ⟨pOutputBuffer, rest, batch, long, rfl⟩
      · next short => exact Or.inl ⟨pOutputBuffer, rest, batch, Nat.not_lt.mp short, rfl⟩

/-! ## Steps that are possible -/

section Possible

variable {pOutputBuffer : OutputBuffer} {rest : List OutputBuffer}

/-- The notification was seen. -/
def dispatched (client : TcpClient) : TcpClient :=
  { client with async := { client.async with sent := false, queued := true } }

/-- The callback has taken over the whole list. -/
def swapped (client : TcpClient) : TcpClient :=
  { client with
    async := { client.async with queued := false }
    functions := []
    batch := client.functions }

theorem step_asyncDispatch (idle : client.Idle) (active : client.async.active = true)
    (sent : client.async.sent = true) : client.step .asyncDispatch = some client.dispatched :=
  (if_pos idle).trans (if_pos ⟨active, sent⟩)

theorem step_asyncSwap (idle : client.Idle) (queued : client.async.queued = true) :
    client.step .asyncSwap = some client.swapped :=
  (if_pos idle).trans (if_pos queued)

theorem step_asyncExec (due : client.batch = pOutputBuffer :: rest) :
    client.step .asyncExec = some ((client.popped pOutputBuffer rest).execSend pOutputBuffer) := by
  show client.asyncExec = _
  unfold asyncExec
  rw [due]
  rfl

/-- A call of `__Send` that finds room in the write queue. -/
theorem step_pushed (due : client.batch = pOutputBuffer :: rest)
    (short : client.writeQueue.length ≤ writeQueueMaxSize) :
    client.step .asyncExec = some { client.popped pOutputBuffer rest with
      writeQueue := client.writeQueue ++ [pOutputBuffer]
      io := client.io.set Interest.readWrite } :=
  (step_asyncExec due).trans (congrArg some (if_neg (Nat.not_lt.mpr short)))

/-- A call of `__Send` that finds the write queue too long. -/
theorem step_refused (due : client.batch = pOutputBuffer :: rest)
    (long : writeQueueMaxSize < client.writeQueue.length) :
    client.step .asyncExec = some ((client.popped pOutputBuffer rest).emit
      (.onSendError client.socketClient 0 (some pOutputBuffer.getDataPos))) :=
  (step_asyncExec due).trans (congrArg some (if_pos long))

/-- `recv` returns data, and that is all the callback is told. -/
theorem step_data {pData : Bytes} (idle : client.Idle)
    (reported : Reported client.io ⟨false, true, false⟩) (opened : client.Opened)
    (low : 1 ≤ pData.length) (high : pData.length ≤ 4096) :
    client.step (.io ⟨false, true, false⟩ (.data pData) .again 0 0) = some (client.emit
      (.onDataReceived client.socketClient pData (client.owner client.io.fd))) := by
  refine (if_pos idle).trans ?_
  unfold ioCallback ioRead
  rw [if_pos reported, if_neg Bool.false_ne_true, if_pos rfl, if_pos ⟨opened, low, high⟩]
  rfl

/-- `write` takes the first buffer of the write queue, and that is all the callback is told. -/
theorem step_wrote {count : ℕ} (idle : client.Idle)
    (reported : Reported client.io ⟨false, false, true⟩) (opened : client.Opened)
    (due : client.writeQueue = pOutputBuffer :: rest) (fits : count ≤ pOutputBuffer.getBytes) :
    client.step (.io ⟨false, false, true⟩ .again (.wrote count) 0 0) =
      some (client.advanced pOutputBuffer rest count fits) := by
  have written : client.ioWrite (.wrote count) 0 =
      some (client.advanced pOutputBuffer rest count fits) := by
    unfold ioWrite
    rw [due]
    exact (if_pos ⟨opened, fits⟩).trans (dif_pos fits)
  exact (if_pos idle).trans ((if_pos reported).trans written)

end Possible

/-- **What a step does**, with what it finds: a case for each label, and two for a call of
`__Send`. -/
inductive Stepped (client : TcpClient) : Label → TcpClient → Prop where
  | startAsync (IP : UInt32) (Port : UInt16) : client.phase = .outside →
      Stepped client (.startAsync IP Port) (client.startAsync IP Port)
  | startNotify : client.phase = .started → Stepped client .startNotify client.startNotify
  | startConnect {fd : Int32} {reached : TcpClient} {success : Bool} :
      client.phase = .notified → client.connect fd = some (reached, success) →
      Stepped client (.startConnect fd)
        { reached with phase := if success then .looping else .outside }
  | stop : client.phase = .outside ∨ client.Idle → Stepped client .stop client.stop
  | send (pData : Bytes) : Stepped client (.send pData) (client.send pData)
  | dispatched : client.Idle → client.async.active = true → client.async.sent = true →
      Stepped client .asyncDispatch client.dispatched
  | swapped : client.Idle → client.async.queued = true →
      Stepped client .asyncSwap client.swapped
  | pushed {pOutputBuffer : OutputBuffer} {rest : List OutputBuffer} :
      client.batch = pOutputBuffer :: rest → client.writeQueue.length ≤ writeQueueMaxSize →
      Stepped client .asyncExec { client.popped pOutputBuffer rest with
        writeQueue := client.writeQueue ++ [pOutputBuffer]
        io := client.io.set Interest.readWrite }
  | refused {pOutputBuffer : OutputBuffer} {rest : List OutputBuffer} :
      client.batch = pOutputBuffer :: rest → writeQueueMaxSize < client.writeQueue.length →
      Stepped client .asyncExec ((client.popped pOutputBuffer rest).emit
        (.onSendError client.socketClient 0 (some pOutputBuffer.getDataPos)))
  | io {revents : Revents} {nRead : RecvResult} {nWritten : WriteResult} {errno fd : Int32}
      {next : TcpClient} : client.Idle →
      client.ioCallback revents nRead nWritten errno fd = some next →
      Stepped client (.io revents nRead nWritten errno fd) next
  | otherOpen {fd : Int32} : client.owner fd = none → Stepped client (.otherOpen fd)
      { client with owner := Function.update client.owner fd (some .other) }
  | otherClose {fd : Int32} : client.owner fd = some .other → Stepped client (.otherClose fd)
      { client with owner := Function.update client.owner fd none }

theorem stepped_of_step {label : Label} (taken : client.step label = some next) :
    Stepped client label next := by
  cases label with
  | startAsync IP Port =>
      obtain ⟨outside, same⟩ := Option.ite_none_right_eq_some.mp taken
      obtain rfl := Option.some.inj same
      exact .startAsync IP Port outside
  | startNotify =>
      obtain ⟨started, same⟩ := Option.ite_none_right_eq_some.mp taken
      obtain rfl := Option.some.inj same
      exact .startNotify started
  | startConnect fd =>
      obtain ⟨notified, called⟩ := Option.ite_none_right_eq_some.mp taken
      obtain ⟨⟨reached, success⟩, connected, rfl⟩ := Option.map_eq_some_iff.mp called
      exact .startConnect notified connected
  | stop =>
      obtain ⟨allowed, same⟩ := Option.ite_none_right_eq_some.mp taken
      obtain rfl := Option.some.inj same
      exact .stop allowed
  | send pData =>
      obtain rfl := Option.some.inj taken
      exact .send pData
  | asyncDispatch =>
      obtain ⟨idle, called⟩ := Option.ite_none_right_eq_some.mp taken
      obtain ⟨⟨active, sent⟩, same⟩ := Option.ite_none_right_eq_some.mp called
      obtain rfl := Option.some.inj same
      exact .dispatched idle active sent
  | asyncSwap =>
      obtain ⟨idle, called⟩ := Option.ite_none_right_eq_some.mp taken
      obtain ⟨queued, same⟩ := Option.ite_none_right_eq_some.mp called
      obtain rfl := Option.some.inj same
      exact .swapped idle queued
  | asyncExec =>
      rcases asyncExec_cases taken with ⟨pOutputBuffer, rest, due, short, rfl⟩ |
        ⟨pOutputBuffer, rest, due, long, rfl⟩
      · exact .pushed due short
      · exact .refused due long
  | io revents nRead nWritten errno fd =>
      obtain ⟨idle, called⟩ := Option.ite_none_right_eq_some.mp taken
      exact .io idle called
  | otherOpen fd =>
      obtain ⟨⟨-, free⟩, same⟩ := Option.ite_none_right_eq_some.mp taken
      obtain rfl := Option.some.inj same
      exact .otherOpen free
  | otherClose fd =>
      obtain ⟨other, same⟩ := Option.ite_none_right_eq_some.mp taken
      obtain rfl := Option.some.inj same
      exact .otherClose other

/-! ## What a step adds to the history -/

/-- An event that nobody is told of and that is no call of `Send`. -/
def IsInner : ClientEvent → Prop
  | .opened .. => True
  | .closed .. => True
  | .written .. => True
  | .executed .. => True
  | _ => False

theorem IoWritten.inner (written : IoWritten client next) :
    (∃ inner, (∀ event ∈ inner, IsInner event) ∧ next.log = client.log ++ inner) ∧
      next.phase = client.phase ∧ next.socketClient = client.socketClient := by
  cases written with
  | nothing => exact ⟨⟨[], nofun, (List.append_nil _).symm⟩, rfl, rfl⟩
  | idle => exact ⟨⟨[], nofun, (List.append_nil _).symm⟩, rfl, rfl⟩
  | wrote => exact ⟨⟨[_], by simp [IsInner], rfl⟩, rfl, rfl⟩

theorem connect_inner {fd : Int32} {success : Bool}
    (connected : client.connect fd = some (next, success)) :
    ∃ inner, (∀ event ∈ inner, IsInner event) ∧ next.log = client.log ++ inner := by
  have dropped : ∃ inner, (∀ event ∈ inner, IsInner event) ∧
      client.dropSocket.log = client.log ++ inner := by
    unfold dropSocket
    split
    · exact ⟨[_], by simp [IsInner], rfl⟩
    · exact ⟨[], nofun, (List.append_nil _).symm⟩
  obtain ⟨inner, quiet, grown⟩ := dropped
  have made : (client.dropSocket.made fd).log =
      client.log ++ (inner ++ [.opened client.dropSocket.nextSocket fd]) := by
    rw [← List.append_assoc, ← grown]
    rfl
  have quiet' : ∀ event ∈ inner ++ [.opened client.dropSocket.nextSocket fd], IsInner event := by
    intro event member
    rcases List.mem_append.mp member with before | last
    · exact quiet event before
    · obtain rfl := List.mem_singleton.mp last
      trivial
  rcases connect_cases connected with ⟨-, -, rfl⟩ | ⟨-, -, -, rfl⟩ | ⟨-, -, -, rfl⟩
  · exact ⟨inner, quiet, grown⟩
  · exact ⟨_, quiet', made⟩
  · exact ⟨_, quiet', made⟩

/-! ## Effects -/

/-- A report to the handler from the io callback. -/
def IsReport : ClientEvent → Prop
  | .onDisconnected _ _ => True
  | .onRecvError _ _ => True
  | .onSendError _ _ refused => refused = none
  | .onDataReceived _ _ _ => True
  | _ => False

/-- The things a step does, one at a time. -/
inductive Effect (Ready : List OutputBuffer → Int32 → Prop) (client : TcpClient) :
    TcpClient → Prop where
  | control (IP : UInt32) (Port : UInt16) (async : AsyncWatcher) (phase : StartPhase) :
      Effect Ready client { client with IP := IP, Port := Port, async := async, phase := phase }
  | reported {event : ClientEvent} : IsReport event → Effect Ready client (client.emit event)
  | unwatched : Effect Ready client client.unwatched
  | connected {next : TcpClient} {fd : Int32} {success : Bool} :
      Ready client.writeQueue fd → client.connect fd = some (next, success) →
      Effect Ready client next
  | idle : client.writeQueue = [] →
      Effect Ready client { client with io := client.io.set Interest.readOnly }
  | wrote {pBuffer : OutputBuffer} {rest : List OutputBuffer} {count : ℕ}
      (fits : count ≤ pBuffer.getBytes) : client.writeQueue = pBuffer :: rest →
      Effect Ready client ({ client with
        writeQueue := advanceQueue pBuffer count fits rest
        io := if advanceQueue pBuffer count fits rest = [] then
            client.io.set Interest.readOnly
          else
            client.io }.emit
        (.written (pBuffer.getDataPos.take count) (client.owner client.io.fd)))
  | submitted (pData : Bytes) : Effect Ready client (client.send pData)
  | swapped (async : AsyncWatcher) : client.batch = [] →
      Effect Ready client { client with
        async := async
        functions := []
        batch := client.functions }
  | queued {pOutputBuffer : OutputBuffer} {rest : List OutputBuffer} :
      client.batch = pOutputBuffer :: rest →
      Effect Ready client { client.popped pOutputBuffer rest with
        writeQueue := client.writeQueue ++ [pOutputBuffer]
        io := client.io.set Interest.readWrite }
  | refused {pOutputBuffer : OutputBuffer} {rest : List OutputBuffer} :
      client.batch = pOutputBuffer :: rest →
      Effect Ready client ((client.popped pOutputBuffer rest).emit
        (.onSendError client.socketClient 0 (some pOutputBuffer.getDataPos)))
  | stopped : Effect Ready client client.stop
  | others {fd : Int32} {descriptor : Option Descriptor} :
      (∀ number, client.owner fd ≠ some (.socket number)) →
      (∀ number, descriptor ≠ some (.socket number)) →
      Effect Ready client { client with owner := Function.update client.owner fd descriptor }

/-! ## Steps are sequences of effects -/

/-- Where the step calls `__Connect`, the client is ready for it. -/
def Prepared (Ready : List OutputBuffer → Int32 → Prop) (client : TcpClient) : Label → Prop
  | .startConnect fd => Ready client.writeQueue fd
  | .io revents nRead nWritten _ fd =>
      client.IoReconnects revents nRead nWritten → Ready client.writeQueue fd
  | _ => True

instance [∀ queue fd, Decidable (Ready queue fd)] (client : TcpClient) :
    (label : Label) → Decidable (client.Prepared Ready label)
  | .startConnect fd => inferInstanceAs (Decidable (Ready client.writeQueue fd))
  | .io _ _ _ _ fd => inferInstanceAs (Decidable (_ → Ready client.writeQueue fd))
  | .startAsync .. | .startNotify | .stop | .send _ | .asyncDispatch | .asyncSwap | .asyncExec
  | .otherOpen _ | .otherClose _ => inferInstanceAs (Decidable True)

theorem IsIoFailure.isReport {event : ClientEvent} (failure : IsIoFailure event) :
    IsReport event := by
  cases event <;> first | exact trivial | exact failure

theorem IoRead.effects {after : TcpClient} (read : IoRead client after) :
    Relation.ReflTransGen (Effect Ready) client after := by
  cases read with
  | nothing => exact .refl
  | data pData => exact .single (.reported trivial)

theorem IoReported.effects {after : TcpClient} (reported : IoReported client after) :
    Relation.ReflTransGen (Effect Ready) client after := by
  cases reported with
  | running event failure => exact .single (.reported failure.isReport)
  | stopped event failure => exact .head .unwatched (.single (.reported failure.isReport))

theorem IoWritten.effects (written : IoWritten client next) :
    Relation.ReflTransGen (Effect Ready) client next := by
  cases written with
  | nothing => exact .refl
  | idle empty => exact .single (.idle empty)
  | wrote fits queue => exact .single (.wrote fits queue)

theorem ioCallback_effects {revents : Revents} {nRead : RecvResult} {nWritten : WriteResult}
    {errno : Int32}
    (ready : client.IoReconnects revents nRead nWritten → Ready client.writeQueue fd)
    (called : client.ioCallback revents nRead nWritten errno fd = some next) :
    Relation.ReflTransGen (Effect Ready) client next := by
  obtain ⟨-, after, read, ⟨taken, told, reported, failed⟩ | ⟨-, written⟩⟩ :=
    ioCallback_cases called
  · -- a report, then `__Connect`: what the four paths have in common
    obtain ⟨success, connected⟩ := connect_of_reconnect failed
    have prepared : Ready told.writeQueue fd := by
      rw [reported.writeQueue_eq, read.writeQueue_eq]
      exact ready taken
    exact read.effects.trans (reported.effects.trans (.single (.connected prepared connected)))
  · exact read.effects.trans written.effects

/-- **A step is a sequence of effects.** -/
theorem step_effects {label : Label} (prepared : client.Prepared Ready label)
    (taken : client.step label = some next) :
    Relation.ReflTransGen (Effect Ready) client next := by
  cases stepped_of_step taken with
  | startAsync | startNotify | dispatched => exact .single (.control _ _ _ _)
  | startConnect notified connected =>
      exact .head (.connected prepared connected) (.single (.control _ _ _ _))
  | stop => exact .single .stopped
  | send pData => exact .single (.submitted pData)
  | swapped idle => exact .single (.swapped _ idle.2)
  | pushed due => exact .single (.queued due)
  | refused due => exact .single (.refused due)
  | io idle called => exact ioCallback_effects prepared called
  | otherOpen free => exact .single (.others (by simp [free]) nofun)
  | otherClose other => exact .single (.others (by simp [other]) nofun)

end Step

/-- **The run rule for effects.**  What holds at the start and is kept by every effect
holds in every state of every run whose calls of `__Connect` are prepared. -/
theorem run_effects {Ready : List OutputBuffer → Int32 → Prop} {I : TcpClient → Prop}
    (start : I new) (kept : ∀ client next, I client → Effect Ready client next → I next)
    {labels : List Label} {last : TcpClient}
    (prepared : Along step (Prepared Ready) new labels)
    (runs : run step new labels = some last) : I last :=
  run_invariant_effects (fun _ _ _ _ prepared taken => step_effects prepared taken) kept labels
    start prepared runs

end TcpClient

end ServerLib
