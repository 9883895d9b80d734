import ServerLib.TcpClientEffects

/-!
# Do message boundaries survive a reconnect?

The peer of a `CTcpClient` reads frames, and starts afresh on every connection.  So
what the client writes on one connection should be whole messages in the order of
`Send`, the last one possibly cut short: `Framed`.

`CTcpClient` keeps the write queue across a reconnect, and `__Connect` leaves `m_nPos`
of the front buffer where it is.  If the old connection has taken a part of that
message, the new one starts in its middle: `notFramed_after_partial_write` is such a
run.  (The way in is careful about this: the proxy's handler drops the partial frame
of a connection that is gone.)

`framed_of_unbegun` says that this is the only way it can happen.  In every run in
which the front buffer has nothing written whenever `__Connect` is called, every
connection carries whole messages.  The invariant is `Framing`: what the current
connection has carried is whole messages followed by the written part of the front
buffer, and those messages, then the queue, then the batch, then `m_Functions` are a
part of what was sent, in order.
-/

namespace ServerLib

open Transition

namespace TcpClient

/-! ## What the history says -/

/-- The data of the calls of `Send`, in the order of the lock. -/
def sends (log : List ClientEvent) : List Bytes :=
  log.filterMap fun
    | .sent pData => some pData
    | _ => none

/-- The bytes written on one socket. -/
def writtenOn (number : ℕ) (log : List ClientEvent) : Bytes :=
  log.flatMap fun
    | .written pData (some (.socket target)) => if target = number then pData else []
    | _ => []

@[simp] theorem sends_append (log more : List ClientEvent) :
    sends (log ++ more) = sends log ++ sends more :=
  List.filterMap_append

@[simp] theorem writtenOn_append (number : ℕ) (log more : List ClientEvent) :
    writtenOn number (log ++ more) = writtenOn number log ++ writtenOn number more :=
  List.flatMap_append

/-- Bytes that were taken count for the socket that took them. -/
theorem writtenOn_written (number : ℕ) (log : List ClientEvent) (pData : Bytes)
    (target : Option Descriptor) :
    writtenOn number (log ++ [.written pData target]) =
      writtenOn number log ++ if target = some (.socket number) then pData else [] := by
  rw [writtenOn_append]
  cases target with
  | none => simp [writtenOn]
  | some descriptor => cases descriptor <;> simp [writtenOn]

/-- A stream that consists of whole messages in order, the last one possibly cut
short. -/
def Framed (messages : List Bytes) (stream : Bytes) : Prop :=
  ∃ whole : List Bytes, whole.Sublist messages ∧ stream <+: whole.flatten

theorem Framed.mono {messages more : List Bytes} {stream : Bytes}
    (framed : Framed messages stream) : Framed (messages ++ more) stream := by
  obtain ⟨whole, sublist, isPrefix⟩ := framed
  exact ⟨whole, sublist.trans (List.sublist_append_left _ _), isPrefix⟩

/-! ## The invariant -/

/-- The part of the front buffer that was written. -/
def begun : List OutputBuffer → Bytes
  | [] => []
  | pBuffer :: _ => pBuffer.szData.take pBuffer.nPos

theorem begun_eq_nil {queue : List OutputBuffer}
    (unbegun : ∀ pBuffer ∈ queue.head?, pBuffer.nPos = 0) : begun queue = [] := by
  cases queue with
  | nil => rfl
  | cons pBuffer rest => rw [begun, unbegun pBuffer rfl, List.take_zero]

/-- The buffers on their way, from the front of the write queue to the last call of
`Send`. -/
def underway (client : TcpClient) : List OutputBuffer :=
  client.writeQueue ++ (client.batch ++ client.functions)

/-- Every connection carries whole messages, and the current one will. -/
structure Framing (client : TcpClient) : Prop where
  owner_lt : ∀ {fd number}, client.owner fd = some (.socket number) → number < client.nextSocket
  fresh : ∀ {number}, client.nextSocket ≤ number → writtenOn number client.log = []
  framed : ∀ number, Framed (sends client.log) (writtenOn number client.log)
  /-- Only the front of the write queue was begun. -/
  unbegun : ∀ pBuffer ∈ client.writeQueue.tail ++ (client.batch ++ client.functions),
    pBuffer.nPos = 0
  /-- What the watched socket carries: whole messages, then what was begun.  The
  buffers underway come behind them. -/
  stream : ∃ done : List Bytes,
    (done ++ client.underway.map OutputBuffer.szData).Sublist (sends client.log) ∧
    ∀ number, client.owner client.io.fd = some (.socket number) →
      writtenOn number client.log = done.flatten ++ begun client.writeQueue

theorem framing_new : new.Framing where
  owner_lt := nofun
  fresh _ := rfl
  framed _ := ⟨[], List.Sublist.refl _, List.prefix_refl _⟩
  unbegun := nofun
  stream := ⟨[], List.Sublist.refl _, nofun⟩

/-- A stream of whole messages and what was begun of the next one is framed. -/
theorem framed_of_begun {messages done rest : List Bytes} {queue : List OutputBuffer}
    (sublist : (done ++ (queue.map OutputBuffer.szData ++ rest)).Sublist messages) :
    Framed messages (done.flatten ++ begun queue) := by
  cases queue with
  | nil =>
      have same : done.flatten ++ begun [] = done.flatten := List.append_nil _
      exact ⟨done, (List.sublist_append_left _ _).trans sublist, [], (List.append_nil _).trans same⟩
  | cons pBuffer queue =>
      refine ⟨done ++ [pBuffer.szData], List.Sublist.trans ?_ sublist, ?_⟩
      · exact List.Sublist.append_left (List.sublist_append_left [pBuffer.szData] _) done
      · rw [List.flatten_append, List.flatten_singleton]
        exact (List.prefix_append_right_inj _).mpr (List.take_prefix _ _)

/-- A front buffer that is done is one more whole message; otherwise it is begun a bit
more. -/
theorem begun_advanceQueue {pBuffer : OutputBuffer} {rest : List OutputBuffer} {count : ℕ}
    (fits : count ≤ pBuffer.getBytes) (unbegun : ∀ pBuffer ∈ rest, pBuffer.nPos = 0)
    (done : List Bytes) :
    ∃ done', done'.flatten ++ begun (advanceQueue pBuffer count fits rest) =
        done.flatten ++ begun (pBuffer :: rest) ++ pBuffer.getDataPos.take count ∧
      done' ++ (advanceQueue pBuffer count fits rest).map OutputBuffer.szData =
        done ++ (pBuffer :: rest).map OutputBuffer.szData := by
  have carried : begun (pBuffer :: rest) ++ pBuffer.getDataPos.take count =
      pBuffer.szData.take (pBuffer.nPos + count) :=
    (List.take_add ..).symm
  rw [List.append_assoc, carried]
  unfold advanceQueue
  split
  · next finished =>
      have all : pBuffer.szData.length ≤ pBuffer.nPos + count := by
        have := pBuffer.nPos_le
        simp only [OutputBuffer.getBytes, OutputBuffer.advance] at finished
        omega
      refine ⟨done ++ [pBuffer.szData], ?_, by simp⟩
      rw [begun_eq_nil fun front member => unbegun front (List.mem_of_head? member),
        List.take_of_length_le all, List.flatten_append, List.flatten_singleton, List.append_nil]
  · exact ⟨done, rfl, rfl⟩

theorem mem_of_mem_tail_advanceQueue {pBuffer buffer : OutputBuffer} {rest : List OutputBuffer}
    {count : ℕ} {fits : count ≤ pBuffer.getBytes}
    (member : buffer ∈ (advanceQueue pBuffer count fits rest).tail) : buffer ∈ rest := by
  unfold advanceQueue at member
  split at member
  · exact List.mem_of_mem_tail member
  · exact member

section Step

variable {client next : TcpClient}

/-- Nothing was sent or written on a socket, and the buffers underway became no more:
the rest of the state may change where it does not turn the watcher to a socket. -/
theorem Framing.of_same (framing : client.Framing) (events : List ClientEvent)
    (grown : next.log = client.log ++ events) (noSend : sends events = [])
    (noWrite : ∀ number, writtenOn number events = [])
    (sameBegun : begun next.writeQueue = begun client.writeQueue)
    (unbegun : ∀ pBuffer ∈ next.writeQueue.tail ++ (next.batch ++ next.functions),
      pBuffer.nPos = 0)
    (fewer : next.underway.Sublist client.underway)
    (sameNext : next.nextSocket = client.nextSocket) (sameFd : next.io.fd = client.io.fd)
    (sameOwner : ∀ fd number, next.owner fd = some (.socket number) →
      client.owner fd = some (.socket number)) : next.Framing := by
  have sameSends : sends next.log = sends client.log := by
    rw [grown, sends_append, noSend, List.append_nil]
  have sameWritten : ∀ number, writtenOn number next.log = writtenOn number client.log := by
    intro number
    rw [grown, writtenOn_append, noWrite, List.append_nil]
  obtain ⟨done, sublist, carried⟩ := framing.stream
  refine ⟨fun {fd number} owns => ?_, fun large => ?_, fun number => ?_, unbegun, done, ?_,
    fun number watched => ?_⟩
  · rw [sameNext]
    exact framing.owner_lt (sameOwner fd number owns)
  · rw [sameWritten]
    exact framing.fresh (sameNext ▸ large)
  · rw [sameSends, sameWritten]
    exact framing.framed number
  · rw [sameSends]
    exact (List.Sublist.append_left (fewer.map _) done).trans sublist
  · rw [sameWritten, sameBegun]
    rw [sameFd] at watched
    exact carried number (sameOwner _ number watched)

/-- A call of `Send` adds a message behind all others. -/
theorem Framing.submitted (framing : client.Framing) (pData : Bytes) :
    (client.send pData).Framing := by
  have sameSends : sends (client.send pData).log = sends client.log ++ [pData] :=
    sends_append ..
  have sameWritten : ∀ number, writtenOn number (client.send pData).log =
      writtenOn number client.log := by
    intro number
    show writtenOn number (client.log ++ [.sent pData]) = _
    rw [writtenOn_append]
    exact List.append_nil _
  obtain ⟨done, sublist, carried⟩ := framing.stream
  refine ⟨framing.owner_lt, fun large => ?_, fun number => ?_, fun pBuffer member => ?_, done, ?_,
    fun number watched => ?_⟩
  · rw [sameWritten]
    exact framing.fresh large
  · rw [sameSends, sameWritten]
    exact (framing.framed number).mono
  · have split : pBuffer ∈ client.writeQueue.tail ++ (client.batch ++ client.functions) ∨
        pBuffer = OutputBuffer.new pData := by
      simpa [send, emit, or_assoc] using member
    rcases split with old | rfl
    · exact framing.unbegun pBuffer old
    · rfl
  · rw [sameSends]
    have behind : (client.send pData).underway = client.underway ++ [OutputBuffer.new pData] := by
      simp [underway, send, emit]
    rw [behind, List.map_append, ← List.append_assoc]
    exact sublist.append (List.Sublist.refl _)
  · rw [sameWritten]
    exact carried number watched

/-- A `write` moves the front message along the stream of the watched socket. -/
theorem Framing.wrote (framing : client.Framing) {pBuffer : OutputBuffer}
    {rest : List OutputBuffer} {count : ℕ} (fits : count ≤ pBuffer.getBytes)
    (queue : client.writeQueue = pBuffer :: rest) {io : IoWatcher} (sameFd : io.fd = client.io.fd) :
    ({ client with writeQueue := advanceQueue pBuffer count fits rest, io := io }.emit
      (.written (pBuffer.getDataPos.take count) (client.owner client.io.fd))).Framing := by
  obtain ⟨done, sublist, carried⟩ := framing.stream
  have unbegun := framing.unbegun
  rw [queue, List.tail_cons] at unbegun
  obtain ⟨done', moved, same⟩ := begun_advanceQueue fits
    (fun buffer member => unbegun buffer (List.mem_append_left _ member)) done
  have sublist' : (done' ++ ((advanceQueue pBuffer count fits rest).map OutputBuffer.szData ++
      (client.batch ++ client.functions).map OutputBuffer.szData)).Sublist (sends client.log) := by
    rw [← List.append_assoc, same, ← queue, List.append_assoc, ← List.map_append]
    exact sublist
  have sameSends : sends (client.log ++ [.written (pBuffer.getDataPos.take count)
      (client.owner client.io.fd)]) = sends client.log := by
    rw [sends_append]
    exact List.append_nil _
  -- the watched socket, if the number refers to one, carries more; the others do not
  have here : ∀ number, client.owner client.io.fd = some (.socket number) →
      writtenOn number (client.log ++ [.written (pBuffer.getDataPos.take count)
        (client.owner client.io.fd)]) =
      done'.flatten ++ begun (advanceQueue pBuffer count fits rest) := by
    intro number watched
    rw [writtenOn_written, if_pos watched, carried number watched, moved, queue]
  have elsewhere : ∀ number, client.owner client.io.fd ≠ some (.socket number) →
      writtenOn number (client.log ++ [.written (pBuffer.getDataPos.take count)
        (client.owner client.io.fd)]) = writtenOn number client.log := by
    intro number other
    rw [writtenOn_written, if_neg other, List.append_nil]
  refine ⟨framing.owner_lt, fun {number} large => ?_, fun number => ?_, fun buffer member => ?_,
    done', ?_, fun number watched => ?_⟩
  · refine (elsewhere number fun watched => ?_).trans (framing.fresh large)
    exact absurd (framing.owner_lt watched) (Nat.not_lt.mpr large)
  · show Framed (sends (client.log ++ [_])) (writtenOn number (client.log ++ [_]))
    rw [sameSends]
    by_cases watched : client.owner client.io.fd = some (.socket number)
    · rw [here number watched]
      exact framed_of_begun sublist'
    · rw [elsewhere number watched]
      exact framing.framed number
  · rcases List.mem_append.mp member with front | behind
    · exact unbegun buffer (List.mem_append_left _ (mem_of_mem_tail_advanceQueue front))
    · exact unbegun buffer (List.mem_append_right _ behind)
  · show (done' ++ (advanceQueue pBuffer count fits rest ++
      (client.batch ++ client.functions)).map OutputBuffer.szData).Sublist
        (sends (client.log ++ [_]))
    rw [sameSends, List.map_append]
    exact sublist'
  · have watched' : client.owner io.fd = some (.socket number) := watched
    rw [sameFd] at watched'
    exact here number watched'

/-- A function of the batch that pushes its buffer moves it from one queue to the
next. -/
theorem Framing.queued (framing : client.Framing) {pOutputBuffer : OutputBuffer}
    {rest : List OutputBuffer} (batch : client.batch = pOutputBuffer :: rest) :
    ({ client.popped pOutputBuffer rest with
      writeQueue := client.writeQueue ++ [pOutputBuffer]
      io := client.io.set Interest.readWrite } : TcpClient).Framing := by
  have unbegun := framing.unbegun
  rw [batch] at unbegun
  have whole : pOutputBuffer.nPos = 0 := unbegun pOutputBuffer (by simp)
  refine framing.of_same [_] rfl rfl (fun _ => rfl) ?_ ?_ ?_ rfl rfl fun _ _ owns => owns
  · show begun (client.writeQueue ++ [pOutputBuffer]) = begun client.writeQueue
    cases client.writeQueue with
    | nil => simp [begun, whole]
    | cons pBuffer queue => rfl
  · -- behind an empty queue the buffer comes to the front, else to the tail
    intro buffer member
    have tail : (client.writeQueue ++ [pOutputBuffer]).tail.Sublist
        (client.writeQueue.tail ++ [pOutputBuffer]) := by
      cases client.writeQueue with
      | nil => exact List.nil_sublist _
      | cons pBuffer queue => exact List.Sublist.refl _
    apply unbegun buffer
    rw [List.cons_append, List.append_cons]
    exact (tail.append (List.Sublist.refl _)).subset member
  · simp [underway, popped, emit, batch]

/-- A function of the batch that finds the queue too long drops its message. -/
theorem Framing.refused (framing : client.Framing) {pOutputBuffer : OutputBuffer}
    {rest : List OutputBuffer} (batch : client.batch = pOutputBuffer :: rest) :
    ((client.popped pOutputBuffer rest).emit
      (.onSendError client.socketClient 0 (some pOutputBuffer.getDataPos))).Framing := by
  have unbegun := framing.unbegun
  rw [batch] at unbegun
  refine framing.of_same [_, _] (List.append_assoc ..) rfl (fun _ => rfl) rfl ?_ ?_ rfl rfl
    fun _ _ owns => owns
  · intro buffer member
    apply unbegun buffer
    refine List.mem_append.mpr ((List.mem_append.mp member).imp id ?_)
    exact List.mem_cons_of_mem _
  · show (client.writeQueue ++ (rest ++ client.functions)).Sublist
      (client.writeQueue ++ (client.batch ++ client.functions))
    rw [batch]
    exact List.Sublist.append_left (List.sublist_cons_self _ _) _

/-- What the client closes is gone from the table; the rest of the state stays. -/
theorem Framing.closed (framing : client.Framing) (socket : Int32) (io : IoWatcher)
    (sameFd : io.fd = client.io.fd) (async : AsyncWatcher) (phase : StartPhase) :
    ({ client.closeSocket with socket := socket, io := io, async := async, phase := phase } :
      TcpClient).Framing := by
  refine framing.of_same [_] rfl rfl (fun _ => rfl) rfl framing.unbegun (List.Sublist.refl _) rfl
    sameFd fun fd number owns => ?_
  rcases update_eq_some_iff.mp owns with ⟨-, gone⟩ | ⟨-, owns⟩
  · cases gone
  · exact owns

theorem Framing.dropSocket (framing : client.Framing) : client.dropSocket.Framing := by
  unfold TcpClient.dropSocket
  split
  · exact framing.closed 0 client.io rfl client.async client.phase
  · exact framing

/-- A new socket has nothing written; if the watcher turns to it, a new stream begins. -/
theorem Framing.made (framing : client.Framing) (unbegun : begun client.writeQueue = [])
    (fd : Int32) (sClient : SocketClientData) {io : IoWatcher}
    (watches : io.fd = fd ∨ io.fd = client.io.fd) :
    ({ client.made fd with socketClient := sClient, io := io } : TcpClient).Framing := by
  have sameSends : sends (client.made fd).log = sends client.log := by
    show sends (client.log ++ [_]) = _
    rw [sends_append]
    exact List.append_nil _
  have sameWritten : ∀ number, writtenOn number (client.made fd).log =
      writtenOn number client.log := by
    intro number
    show writtenOn number (client.log ++ [_]) = _
    rw [writtenOn_append]
    exact List.append_nil _
  obtain ⟨done, sublist, carried⟩ := framing.stream
  refine ⟨fun {other number} owns => ?_, fun {number} large => ?_, fun number => ?_,
    framing.unbegun, ?_⟩
  · rcases update_eq_some_iff.mp owns with ⟨-, new⟩ | ⟨-, old⟩
    · cases new
      exact Nat.lt_succ_self _
    · exact Nat.lt_succ_of_lt (framing.owner_lt old)
  · exact (sameWritten number).trans (framing.fresh (Nat.le_of_succ_le large))
  · show Framed (sends (client.made fd).log) (writtenOn number (client.made fd).log)
    rw [sameSends, sameWritten]
    exact framing.framed number
  · by_cases turned : io.fd = fd
    · refine ⟨[], ?_, fun number watched => ?_⟩
      · rw [List.nil_append]
        exact (sameSends ▸ (List.sublist_append_right done _).trans sublist)
      · rcases update_eq_some_iff.mp watched with ⟨-, new⟩ | ⟨other, -⟩
        · cases new
          refine (sameWritten _).trans ((framing.fresh (Nat.le_refl _)).trans ?_)
          exact unbegun.symm
        · exact absurd turned other
    · refine ⟨done, sameSends ▸ sublist, fun number watched => ?_⟩
      rcases update_eq_some_iff.mp watched with ⟨same, -⟩ | ⟨-, old⟩
      · exact absurd same turned
      · refine (sameWritten number).trans (carried number ?_)
        rwa [← watches.resolve_left turned]

/-- A call of `__Connect` keeps the messages whole where the front buffer was not
begun. -/
theorem Framing.connected (framing : client.Framing) {fd : Int32} {success : Bool}
    (unbegun : begun client.writeQueue = [])
    (called : client.connect fd = some (next, success)) : next.Framing := by
  have dropped := framing.dropSocket
  have unbegun' : begun client.dropSocket.writeQueue = [] := by
    rw [dropSocket_writeQueue, unbegun]
  rcases connect_cases called with ⟨-, -, rfl⟩ | ⟨-, -, -, rfl⟩ | ⟨-, -, -, rfl⟩
  · exact dropped.of_same [] (List.append_nil _).symm rfl (fun _ => rfl) rfl dropped.unbegun
      (List.Sublist.refl _) rfl rfl fun _ _ owns => owns
  · exact dropped.made unbegun' fd _ (Or.inr rfl)
  · exact dropped.made unbegun' fd _ (Or.inl rfl)

/-- **Every effect keeps the messages whole**, where `__Connect` is called with a front
buffer that was not begun. -/
theorem Framing.effect (framing : client.Framing)
    (effect : Effect (fun queue _ => ∀ pBuffer ∈ queue.head?, pBuffer.nPos = 0) client next) :
    next.Framing := by
  cases effect with
  | control | unwatched =>
      exact framing.of_same [] (List.append_nil _).symm rfl (fun _ => rfl) rfl framing.unbegun
        (List.Sublist.refl _) rfl rfl fun _ _ owns => owns
  | @reported event report =>
      refine framing.of_same [event] rfl ?_ ?_ rfl framing.unbegun (List.Sublist.refl _) rfl rfl
        fun _ _ owns => owns
      · cases event <;> first | rfl | exact absurd report id
      · intro number
        cases event <;> first | rfl | exact absurd report id
  | connected ready called => exact framing.connected (begun_eq_nil ready) called
  | idle empty =>
      exact framing.of_same [] (List.append_nil _).symm rfl (fun _ => rfl) rfl framing.unbegun
        (List.Sublist.refl _) rfl rfl fun _ _ owns => owns
  | wrote fits queue =>
      refine framing.wrote fits queue ?_
      split <;> rfl
  | submitted pData => exact framing.submitted pData
  | swapped async empty =>
      refine framing.of_same [] (List.append_nil _).symm rfl (fun _ => rfl) rfl ?_ ?_ rfl rfl
        fun _ _ owns => owns
      · simpa [empty] using framing.unbegun
      · simp [underway, empty]
  | queued batch => exact framing.queued batch
  | refused batch => exact framing.refused batch
  | stopped =>
      exact framing.closed client.socket { client.io with active := false } rfl client.async.stop
        .outside
  | @others fd descriptor free notSocket =>
      refine framing.of_same [] (List.append_nil _).symm rfl (fun _ => rfl) rfl framing.unbegun
        (List.Sublist.refl _) rfl rfl fun other number owns => ?_
      rcases update_eq_some_iff.mp owns with ⟨-, new⟩ | ⟨-, old⟩
      · exact absurd new (notSocket number)
      · exact old

end Step

/-! ## Boundaries survive unless a message was begun -/

/-- **Message boundaries survive reconnects, where no message is begun when
`__Connect` is called.**  In every state of every such run, what was written on each
connection is whole messages in the order of `Send`, the last one possibly cut
short. -/
theorem framed_of_unbegun {labels : List Label} {last : TcpClient}
    (unbegun : Along step (Prepared fun queue _ => ∀ pBuffer ∈ queue.head?, pBuffer.nPos = 0)
      new labels)
    (runs : run step new labels = some last) (number : ℕ) :
    Framed (sends last.log) (writtenOn number last.log) :=
  (run_effects framing_new (fun _ _ framing effect => framing.effect effect) unbegun runs).framed
    number

/-- Two messages are sent, the first is written in two pieces, then the peer closes;
the second one is written on the next connection. -/
theorem framed_of_whole_message :
    ∃ last, run step new [.startAsync 1 2, .startNotify, .startConnect 5, .send [1, 2, 3],
        .send [4], .asyncDispatch, .asyncSwap, .asyncExec, .asyncExec,
        .io ⟨false, false, true⟩ .again (.wrote 1) 0 0,
        .io ⟨false, false, true⟩ .again (.wrote 2) 0 0,
        .io ⟨false, true, false⟩ .eof .again 0 5,
        .io ⟨false, false, true⟩ .again (.wrote 1) 0 0] = some last ∧
      Framed (sends last.log) (writtenOn 1 last.log) := by
  obtain ⟨last, runs⟩ := Option.isSome_iff_exists.mp
    (show (run step new [.startAsync 1 2, .startNotify, .startConnect 5, .send [1, 2, 3],
        .send [4], .asyncDispatch, .asyncSwap, .asyncExec, .asyncExec,
        .io ⟨false, false, true⟩ .again (.wrote 1) 0 0,
        .io ⟨false, false, true⟩ .again (.wrote 2) 0 0,
        .io ⟨false, true, false⟩ .eof .again 0 5,
        .io ⟨false, false, true⟩ .again (.wrote 1) 0 0]).isSome = true by decide +kernel)
  exact ⟨last, runs, framed_of_unbegun (by decide +kernel) runs 1⟩

/-- The first connection takes one byte of a message of three; the second one begins
with the other two. -/
theorem notFramed_after_partial_write :
    ¬ ∀ (labels : List Label) (last : TcpClient), run step new labels = some last →
      ∀ number, Framed (sends last.log) (writtenOn number last.log) := by
  intro claim
  obtain ⟨last, runs, sent, carried⟩ : ∃ last, run step new [.startAsync 1 2, .startNotify,
      .startConnect 5, .send [1, 2, 3], .asyncDispatch, .asyncSwap, .asyncExec,
      .io ⟨false, false, true⟩ .again (.wrote 1) 0 0,
      .io ⟨false, true, false⟩ .eof .again 0 5,
      .io ⟨false, false, true⟩ .again (.wrote 2) 0 0] = some last ∧
      sends last.log = [[1, 2, 3]] ∧ writtenOn 1 last.log = [2, 3] :=
    ⟨_, rfl, by decide +kernel, by decide +kernel⟩
  obtain ⟨whole, sublist, isPrefix⟩ := claim _ last runs 1
  rw [sent] at sublist
  rw [carried] at isPrefix
  cases sublist with
  | cons _ none =>
      rw [List.sublist_nil.mp none] at isPrefix
      exact absurd isPrefix (by decide)
  | cons_cons _ none =>
      rw [List.sublist_nil.mp none] at isPrefix
      exact absurd isPrefix (by decide)

end TcpClient

end ServerLib
