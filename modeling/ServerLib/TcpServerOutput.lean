import ServerLib.Library.Progress
import ServerLib.TcpServerSessions

/-!
# Output gets out

What is unsent on a connection waits for its socket and for nothing else.  C code that
writes as far as the socket takes it can go wrong in two ways that no account of bytes
shows: it may stop asking for `EV_WRITE` while bytes wait, or a call may come and go
without a byte or a buffer less.  The first is excluded by the `interest` of `Owned`; this
module is about the second.

Each `write` in `__IoCallback` (tcpserver.cpp) is for the front buffer of the queue, and the
buffer goes once it is empty.  So a queue with `n` unsent bytes in `k` buffers is written
out by `n + k` calls of `write` that do not fail, however few bytes each of them takes and
whatever is sent in the meantime (`written_of_run`).  One call for each byte would not be
enough: a buffer without bytes, which `Send` with length 0 makes, takes a call to go.

`Flow` says what one effect does to a queue and to the bytes written, and `Promised` that
the bytes unsent at some moment are still the next to be written.
-/

namespace ServerLib

open Transition Sessions

/-! ## Calls of `write` for a queue -/

/-- The calls of `write` that are enough to get `need` bytes out of a queue, where each
takes a byte or finds a buffer without any. -/
def writesFor (need : ℕ) : List OutputBuffer → ℕ
  | [] => 0
  | pBuffer :: rest =>
      if need = 0 then 0 else pBuffer.getBytes + 1 + writesFor (need - pBuffer.getBytes) rest

@[simp] theorem writesFor_zero (queue : List OutputBuffer) : writesFor 0 queue = 0 := by
  cases queue with
  | nil => rfl
  | cons pBuffer rest => rfl

theorem writesFor_cons {need : ℕ} (positive : 0 < need) (pBuffer : OutputBuffer)
    (rest : List OutputBuffer) :
    writesFor need (pBuffer :: rest) =
      pBuffer.getBytes + 1 + writesFor (need - pBuffer.getBytes) rest :=
  if_neg (Nat.ne_of_gt positive)

theorem writesFor_pos {need : ℕ} (positive : 0 < need) {queue : List OutputBuffer}
    (nonempty : queue ≠ []) : 0 < writesFor need queue := by
  obtain ⟨pBuffer, rest, rfl⟩ := List.exists_cons_of_ne_nil nonempty
  rw [writesFor_cons positive]
  omega

theorem writesFor_le (need : ℕ) (queue : List OutputBuffer) :
    writesFor need queue ≤ (unsent queue).length + queue.length := by
  induction queue generalizing need with
  | nil => exact le_rfl
  | cons pBuffer rest ih =>
      rcases Nat.eq_zero_or_pos need with rfl | positive
      · exact (writesFor_zero _).trans_le (Nat.zero_le _)
      · have later := ih (need - pBuffer.getBytes)
        rw [writesFor_cons positive, unsent_cons, List.length_append, pBuffer.length_getDataPos,
          List.length_cons]
        omega

/-- What is queued behind the bytes in question does not matter. -/
theorem writesFor_append {need : ℕ} {queue : List OutputBuffer}
    (enough : need ≤ (unsent queue).length) (more : List OutputBuffer) :
    writesFor need (queue ++ more) = writesFor need queue := by
  induction queue generalizing need with
  | nil =>
      obtain rfl := Nat.le_zero.mp enough
      rw [List.nil_append, writesFor_zero, writesFor_zero]
  | cons pBuffer rest ih =>
      rcases Nat.eq_zero_or_pos need with rfl | positive
      · rw [writesFor_zero, writesFor_zero]
      · rw [unsent_cons, List.length_append, pBuffer.length_getDataPos] at enough
        rw [List.cons_append, writesFor_cons positive, writesFor_cons positive, ih (by omega)]

/-- A call pays for each byte it takes, and once more where it empties its buffer. -/
theorem writesFor_advanceQueue {count : ℕ} (need : ℕ) {pBuffer : OutputBuffer}
    (fits : count ≤ pBuffer.getBytes) (rest : List OutputBuffer) :
    writesFor (need - count) (advanceQueue pBuffer count fits rest) ≤
        writesFor need (pBuffer :: rest) ∧
      (0 < need → (count = 0 → pBuffer.getBytes = 0) →
        writesFor (need - count) (advanceQueue pBuffer count fits rest) <
          writesFor need (pBuffer :: rest)) := by
  have left : (pBuffer.advance count fits).getBytes = pBuffer.getBytes - count := by
    simp only [OutputBuffer.getBytes, OutputBuffer.advance]
    omega
  rcases Nat.eq_zero_or_pos need with rfl | positive
  · rw [Nat.zero_sub, writesFor_zero]
    exact ⟨Nat.zero_le _, fun impossible => absurd impossible (lt_irrefl 0)⟩
  rw [writesFor_cons positive]
  unfold advanceQueue
  split
  · next done =>
      have all : count = pBuffer.getBytes := by omega
      rw [all]
      omega
  · next more =>
      rcases Nat.eq_zero_or_pos (need - count) with none | positive'
      · rw [none, writesFor_zero]
        omega
      · have same : need - count - (pBuffer.getBytes - count) = need - pBuffer.getBytes := by omega
        rw [writesFor_cons positive', left, same]
        omega

namespace TcpServer

variable {Allowed : Int32 → Prop} {server next : TcpServer} {conn : ℕ}
  {connection : TcpConnection} {label : Label}

/-! ## What happens to a queue -/

/-- What a piece of a step does to a connection with the given queue: it is gone, something
was queued behind, or a `write` took bytes from its front. -/
inductive Flow (conn : ℕ) (queue : List OutputBuffer) (server next : TcpServer) : Prop where
  | gone : next.heap conn = none → Flow conn queue server next
  | kept {connection : TcpConnection} (more : List OutputBuffer) :
      next.heap conn = some connection → connection.writeQueue = queue ++ more →
      writtenOn conn next.history = writtenOn conn server.history → Flow conn queue server next
  | wrote {connection : TcpConnection} {pBuffer : OutputBuffer} {rest : List OutputBuffer}
      {count : ℕ} (fits : count ≤ pBuffer.getBytes) : queue = pBuffer :: rest →
      next.heap conn = some connection →
      connection.writeQueue = advanceQueue pBuffer count fits rest →
      writtenOn conn next.history =
        writtenOn conn server.history ++ pBuffer.getDataPos.take count →
      Flow conn queue server next

/-- A connection that keeps its queue, in a step that writes nothing on it. -/
theorem Flow.of_same (changed : TcpConnection) (alive : next.heap conn = some changed)
    (sameQueue : changed.writeQueue = connection.writeQueue)
    (sameWritten : writtenOn conn next.history = writtenOn conn server.history) :
    Flow conn connection.writeQueue server next :=
  .kept [] alive (sameQueue.trans (List.append_nil _).symm) sameWritten

theorem writtenOn_of_grown {events : List TcpEvent} (grown : next.log = server.log ++ events)
    (silent : writtenOn conn (events.filterMap keyEvent) = []) :
    writtenOn conn next.history = writtenOn conn server.history := by
  rw [history, grown, List.filterMap_append, writtenOn_append, silent, List.append_nil]
  rfl

/-- Whatever an effect does to another connection, this one keeps its queue. -/
theorem flow_of_ended (alive : server.heap conn = some connection) (other : ℕ)
    (connection' : TcpConnection) (nErrorCode : Int32) (manager : SocketInfoManager ℕ) :
    Flow conn connection.writeQueue server (server.ended other connection' nErrorCode manager) := by
  by_cases own : conn = other
  · subst own
    exact .gone (by simp [TcpServer.ended])
  · refine .of_same connection (by simpa [TcpServer.ended, own] using alive) rfl ?_
    refine writtenOn_of_grown rfl ?_
    split <;> simp [keyEvent, writtenOn]

/-- **What an effect does to a queue.** -/
theorem flow_of_effect (owned : server.Owned) (alive : server.heap conn = some connection)
    (effect : Effect Allowed server next) : Flow conn connection.writeQueue server next := by
  -- an object that gets a new value is this one, or this one stays
  have changed : ∀ {other : ℕ} {connection' : TcpConnection} (after : TcpConnection),
      server.heap other = some connection' →
      conn = other ∧ connection' = connection ∧
          (server.setConn other after).heap conn = some after ∨
        conn ≠ other ∧ (server.setConn other after).heap conn = some connection := by
    intro other connection' after alive'
    by_cases own : conn = other
    · subst own
      rw [alive, Option.some_inj] at alive'
      exact Or.inl ⟨rfl, alive'.symm, by simp [setConn]⟩
    · exact Or.inr ⟨own, by simpa [setConn, own] using alive⟩
  cases effect with
  | @opened sClient manager now _ _ free fresh added =>
      have apart : conn ≠ server.nextConn := Nat.ne_of_lt (owned.conn_lt alive)
      refine .of_same connection (by simpa [opened, apart] using alive) rfl ?_
      exact writtenOn_of_grown rfl (by simp [keyEvent, writtenOn])
  | @ended other connection' manager nErrorCode alive' removed =>
      exact flow_of_ended alive other connection' nErrorCode manager
  | @received other connection' pData now alive' =>
      have silent : writtenOn conn ((server.setConn other { connection' with
          nLasttime := now }).emit (.onClientDataReceived other connection'.socketClient pData
            (server.owner connection'.io.fd))).history = writtenOn conn server.history :=
        writtenOn_of_grown rfl (by simp [keyEvent, writtenOn])
      rcases changed { connection' with nLasttime := now } alive' with
        ⟨-, rfl, alive''⟩ | ⟨-, alive''⟩
      · exact .of_same _ alive'' rfl silent
      · exact .of_same _ alive'' rfl silent
  | @idle other connection' alive' empty =>
      rcases changed { connection' with io := connection'.io.set Interest.readOnly } alive' with
        ⟨-, rfl, alive''⟩ | ⟨-, alive''⟩
      · exact .of_same _ alive'' rfl rfl
      · exact .of_same _ alive'' rfl rfl
  | @wrote other connection' pBuffer rest count fits now alive' queue =>
      have mine := owned.conn_owned alive'
      rcases changed { connection' with
          nLasttime := now
          writeQueue := advanceQueue pBuffer count fits rest
          io := if advanceQueue pBuffer count fits rest = [] then
              connection'.io.set Interest.readOnly
            else
              connection'.io } alive' with ⟨rfl, rfl, alive''⟩ | ⟨apart, alive''⟩
      · refine .wrote fits queue alive'' rfl ?_
        simp [history, emit, setConn, keyEvent, mine.fd_eq, mine.owns, writtenOn]
      · refine .of_same _ alive'' rfl (writtenOn_of_grown rfl ?_)
        simp [keyEvent, mine.fd_eq, mine.owns, writtenOn, Ne.symm apart]
  | submitted sClient pData =>
      exact .of_same connection alive rfl
        (writtenOn_of_grown rfl (by simp [keyEvent, writtenOn]))
  | swapped empty => exact .of_same connection alive rfl rfl
  | missed batch unknown =>
      exact .of_same connection alive rfl
        (writtenOn_of_grown rfl (by simp [keyEvent, writtenOn]))
  | @queued pOutputBuffer rest other connection' batch alive' =>
      have silent : writtenOn conn (server.popped connection'.socketClient pOutputBuffer
          rest).history = writtenOn conn server.history :=
        writtenOn_of_grown rfl (by simp [keyEvent, writtenOn])
      rcases changed { connection' with
          writeQueue := connection'.writeQueue ++ [pOutputBuffer]
          io := connection'.io.set Interest.readWrite } alive' with
        ⟨-, rfl, alive''⟩ | ⟨-, alive''⟩
      · exact .kept [pOutputBuffer] alive'' rfl silent
      · exact .of_same _ alive'' rfl silent
  | @refused pOutputBuffer rest other connection' manager batch alive' removed =>
      have silent : writtenOn conn (server.popped connection'.socketClient pOutputBuffer
          rest).history = writtenOn conn server.history :=
        writtenOn_of_grown rfl (by simp [keyEvent, writtenOn])
      have stays : (server.popped connection'.socketClient pOutputBuffer rest).heap conn =
          some connection := alive
      cases flow_of_ended stays other connection' 0 manager with
      | gone ended => exact .gone ended
      | kept more alive'' queue written => exact .kept more alive'' queue (written.trans silent)
      | wrote fits queue alive'' queue' written =>
          exact .wrote fits queue alive'' queue' (silent ▸ written)

/-! ## The calls that are still to come -/

/-- The bytes `promise` are the first to be written on the connection, as long as it is
there. -/
structure Promised (conn : ℕ) (promise : Bytes) (server : TcpServer) : Prop where
  owned : server.Owned
  accepted : conn < server.nextConn
  ahead : ∀ {connection}, server.heap conn = some connection →
    promise <+: writtenOn conn server.history ++ unsent connection.writeQueue

/-- The calls of `write` that are enough for the rest of the promise; none where the
connection is gone. -/
def callsFor (conn : ℕ) (promise : Bytes) (server : TcpServer) : ℕ :=
  match server.heap conn with
  | none => 0
  | some connection =>
      writesFor (promise.length - (writtenOn conn server.history).length) connection.writeQueue

theorem callsFor_gone {promise : Bytes} (gone : server.heap conn = none) :
    callsFor conn promise server = 0 := by
  rw [callsFor, gone]

theorem callsFor_eq {promise : Bytes} (alive : server.heap conn = some connection) :
    callsFor conn promise server =
      writesFor (promise.length - (writtenOn conn server.history).length)
        connection.writeQueue := by
  rw [callsFor, alive]

/-- A connection that is gone stays gone. -/
theorem gone_of_effect (accepted : conn < server.nextConn) (gone : server.heap conn = none)
    (effect : Effect Allowed server next) :
    conn < next.nextConn ∧ next.heap conn = none := by
  have apart : ∀ {other : ℕ} {connection' : TcpConnection}, server.heap other = some connection' →
      conn ≠ other := by
    rintro other connection' alive rfl
    rw [gone] at alive
    cases alive
  cases effect with
  | opened =>
      exact ⟨Nat.lt_succ_of_lt accepted, by simpa [opened, Nat.ne_of_lt accepted] using gone⟩
  | ended _ alive => exact ⟨accepted, by simpa [TcpServer.ended, apart alive] using gone⟩
  | received _ _ alive => exact ⟨accepted, by simpa [emit, setConn, apart alive] using gone⟩
  | idle alive => exact ⟨accepted, by simpa [setConn, apart alive] using gone⟩
  | wrote _ _ alive => exact ⟨accepted, by simpa [emit, setConn, apart alive] using gone⟩
  | submitted | swapped | missed => exact ⟨accepted, gone⟩
  | queued _ alive => exact ⟨accepted, by simpa [popped, emit, setConn, apart alive] using gone⟩
  | refused _ alive =>
      exact ⟨accepted, by simpa [popped, emit, TcpServer.ended, apart alive] using gone⟩

theorem nextConn_le_of_effect (effect : Effect Allowed server next) :
    server.nextConn ≤ next.nextConn := by
  cases effect with
  | opened => exact Nat.le_succ _
  | _ => exact le_rfl

/-- **An effect keeps the promise, and costs no call.** -/
theorem Promised.effect {promise : Bytes} (promised : server.Promised conn promise)
    (effect : Effect Allowed server next) :
    next.Promised conn promise ∧ callsFor conn promise next ≤ callsFor conn promise server := by
  have owned := promised.owned.effect effect
  have accepted := promised.accepted.trans_le (nextConn_le_of_effect effect)
  cases here : server.heap conn with
  | none =>
      have gone := (gone_of_effect promised.accepted here effect).2
      refine ⟨⟨owned, accepted, fun alive => ?_⟩, (callsFor_gone gone).trans_le (Nat.zero_le _)⟩
      rw [gone] at alive
      cases alive
  | some connection =>
      have ahead := promised.ahead here
      rw [callsFor_eq here]
      cases flow_of_effect promised.owned here effect with
      | gone gone =>
          refine ⟨⟨owned, accepted, fun alive => ?_⟩, (callsFor_gone gone).trans_le (Nat.zero_le _)⟩
          rw [gone] at alive
          cases alive
      | kept more alive queue written =>
          refine ⟨⟨owned, accepted, fun alive' => ?_⟩, ?_⟩
          · rw [alive, Option.some_inj] at alive'
            rw [← alive', queue, written, unsent_append, ← List.append_assoc]
            exact ahead.trans (List.prefix_append _ _)
          · have enough := ahead.length_le
            rw [List.length_append] at enough
            rw [callsFor_eq alive, queue, written, writesFor_append (by omega)]
      | @wrote connection' pBuffer rest count fits front alive queue written =>
          refine ⟨⟨owned, accepted, fun alive' => ?_⟩, ?_⟩
          · rw [alive, Option.some_inj] at alive'
            rw [← alive', queue, written, List.append_assoc,
              take_append_unsent_advanceQueue fits rest, ← front]
            exact ahead
          · have short : (pBuffer.getDataPos.take count).length = count := by
              rw [List.length_take, pBuffer.length_getDataPos, Nat.min_eq_left fits]
            rw [callsFor_eq alive, queue, written, List.length_append, short, front,
              ← Nat.sub_sub]
            exact (writesFor_advanceQueue _ fits rest).1

theorem Promised.step {promise : Bytes} (promised : server.Promised conn promise)
    (undisturbed : server.Undisturbed Allowed label) (taken : server.step label = some next) :
    next.Promised conn promise ∧ callsFor conn promise next ≤ callsFor conn promise server := by
  have effects := step_effects promised.owned undisturbed taken
  clear taken
  induction effects with
  | refl => exact ⟨promised, le_rfl⟩
  | tail _ effect ih =>
      obtain ⟨kept, fewer⟩ := ih.1.effect effect
      exact ⟨kept, fewer.trans ih.2⟩

/-! ## Writing -/

/-- A `write` for the connection that does not fail. -/
def writes (conn : ℕ) : Label → Bool
  | .io other revents _ (.wrote _) _ _ => other = conn && revents.write && !revents.error
  | _ => false

/-- `write` takes no byte of the connection's front buffer only where the buffer has none. -/
def Takes (conn : ℕ) (server : TcpServer) : Label → Prop
  | .io other _ _ (.wrote count) _ _ => other = conn → count = 0 →
      ∀ connection ∈ server.heap conn, ∀ pBuffer ∈ connection.writeQueue.head?,
        pBuffer.getBytes = 0
  | _ => True

instance (conn : ℕ) (server : TcpServer) : (label : Label) → Decidable (server.Takes conn label)
  | .io _ _ _ (.wrote _) _ _ =>
      inferInstanceAs (Decidable (_ → _ → ∀ connection ∈ _, ∀ pBuffer ∈ _, _ = _))
  | .io _ _ _ .again _ _ | .io _ _ _ (.error _) _ _ | .accept .. | .timer .. | .asyncSwap
  | .asyncExec | .send .. | .closeClient _ => inferInstanceAs (Decidable True)

/-- The `EV_READ` branch ends the connection, or leaves its queue as it is. -/
theorem ioRead_output (owned : server.Owned) (alive : server.heap conn = some connection)
    {nRead : RecvResult} {now : Int32} {goesOn : Bool}
    (called : server.ioRead conn connection nRead now = some (next, goesOn)) :
    goesOn = false ∧ next.heap conn = none ∨
      goesOn = true ∧ next.Owned ∧ ∃ after, next.heap conn = some after ∧
        after.writeQueue = connection.writeQueue ∧
        writtenOn conn next.history = writtenOn conn server.history := by
  obtain ⟨-, called⟩ := Option.ite_none_right_eq_some.mp called
  have gone : ∀ {nErrorCode : Int32} {after : TcpServer},
      server.terminate connection.socketClient nErrorCode = some after →
      after.heap conn = none := by
    intro nErrorCode after terminated
    obtain ⟨manager, -, rfl⟩ := terminate_eq owned alive terminated
    simp [TcpServer.ended]
  cases nRead with
  | eof =>
      obtain ⟨after, terminated, same⟩ := Option.map_eq_some_iff.mp called
      obtain ⟨rfl, rfl⟩ := Prod.mk.inj same
      exact Or.inl ⟨rfl, gone terminated⟩
  | again =>
      obtain ⟨rfl, rfl⟩ := Prod.mk.inj (Option.some.inj called)
      exact Or.inr ⟨rfl, owned, connection, alive, rfl, rfl⟩
  | error errno =>
      obtain ⟨after, terminated, same⟩ := Option.map_eq_some_iff.mp called
      obtain ⟨rfl, rfl⟩ := Prod.mk.inj same
      exact Or.inl ⟨rfl, gone terminated⟩
  | data pData =>
      obtain ⟨rfl, rfl⟩ := Prod.mk.inj (Option.some.inj called)
      have received : Effect (fun _ => True) server _ := .received pData now alive
      refine Or.inr ⟨rfl, owned.effect received, _, Function.update_self .., rfl, ?_⟩
      exact writtenOn_of_grown rfl (by simp [keyEvent, writtenOn])

/-- The `EV_WRITE` branch with a `write` that does not fail. -/
theorem ioWrite_output {promise : Bytes} (owned : server.Owned)
    (alive : server.heap conn = some connection) {count : ℕ} {now : Int32}
    (takes : count = 0 → ∀ pBuffer ∈ connection.writeQueue.head?, pBuffer.getBytes = 0)
    (called : server.ioWrite conn connection (.wrote count) now = some next) :
    callsFor conn promise server = 0 ∨
      callsFor conn promise next < callsFor conn promise server := by
  have mine := owned.conn_owned alive
  unfold ioWrite at called
  split at called
  · next empty => exact Or.inl (by rw [callsFor_eq alive, empty, writesFor])
  · next pBuffer rest queue =>
      obtain ⟨-, called⟩ := Option.ite_none_right_eq_some.mp called
      obtain ⟨fits, same⟩ := Option.dite_none_right_eq_some.mp called
      obtain rfl := Option.some.inj same
      have short : (pBuffer.getDataPos.take count).length = count := by
        rw [List.length_take, pBuffer.length_getDataPos, Nat.min_eq_left fits]
      rw [callsFor_eq alive, callsFor_eq (Function.update_self ..), queue]
      have written : writtenOn conn ((server.setConn conn { connection with
            nLasttime := now
            writeQueue := advanceQueue pBuffer count fits rest
            io := if advanceQueue pBuffer count fits rest = [] then
                connection.io.set Interest.readOnly
              else
                connection.io }).emit
          (.written conn (pBuffer.getDataPos.take count) (server.owner connection.io.fd))).history =
          writtenOn conn server.history ++ pBuffer.getDataPos.take count := by
        simp [history, emit, setConn, keyEvent, mine.fd_eq, mine.owns, writtenOn]
      rw [written, List.length_append, short, ← Nat.sub_sub]
      rcases Nat.eq_zero_or_pos
        (promise.length - (writtenOn conn server.history).length) with none | positive
      · exact Or.inl (by rw [none, writesFor_zero])
      · exact Or.inr ((writesFor_advanceQueue _ fits rest).2 positive
          fun zero => takes zero pBuffer (by rw [queue]; rfl))

/-- **Each `write` that does not fail is one call less**, until the promise is kept. -/
theorem callsFor_writes {promise : Bytes} (promised : server.Promised conn promise)
    (takes : server.Takes conn label) (own : writes conn label = true)
    (taken : server.step label = some next) :
    callsFor conn promise server = 0 ∨
      callsFor conn promise next < callsFor conn promise server := by
  unfold writes at own
  split at own
  · next other revents nRead count errno now =>
      simp only [Bool.and_eq_true, decide_eq_true_eq, Bool.not_eq_true'] at own
      obtain ⟨⟨rfl, write⟩, noError⟩ := own
      have called := (Option.ite_none_right_eq_some.mp taken).2
      unfold ioCallback at called
      split at called
      · cases called
      · next connection alive =>
          have takes' := takes rfl
          obtain ⟨-, called⟩ := Option.ite_none_right_eq_some.mp called
          rw [if_neg (by simp [noError])] at called
          obtain ⟨⟨middle, goesOn⟩, read, behind⟩ := Option.bind_eq_some_iff.mp called
          have reading : goesOn = false ∧ middle.heap other = none ∨
              goesOn = true ∧ middle.Owned ∧ ∃ after, middle.heap other = some after ∧
                after.writeQueue = connection.writeQueue ∧
                writtenOn other middle.history = writtenOn other server.history := by
            split at read
            · exact ioRead_output promised.owned alive read
            · obtain ⟨rfl, rfl⟩ := Prod.mk.inj (Option.some.inj read)
              exact Or.inr ⟨rfl, promised.owned, connection, alive, rfl, rfl⟩
          rcases reading with ⟨rfl, gone⟩ | ⟨rfl, owned, after, alive', queue, written⟩
          · obtain rfl := Option.some.inj behind
            rw [callsFor_gone gone]
            exact (Nat.eq_zero_or_pos _)
          · dsimp only at behind
            rw [if_pos write, alive', Option.bind_some] at behind
            have same : callsFor other promise middle = callsFor other promise server := by
              rw [callsFor_eq alive', callsFor_eq alive, queue, written]
            rw [← same]
            refine ioWrite_output owned alive' (fun zero pBuffer front => ?_) behind
            exact takes' zero connection alive pBuffer (queue ▸ front)
  · cases own

theorem pays_to_write (conn : ℕ) (promise : Bytes) :
    Pays step
      (fun server label => server.Undisturbed (fun _ => True) label ∧ server.Takes conn label)
      (Promised conn promise) (fun server => callsFor conn promise server = 0) (writes conn)
      (callsFor conn promise) where
  kept promised met taken := (promised.step met.1 taken).1
  stays promised met taken none := Nat.le_zero.mp (none ▸ (promised.step met.1 taken).2)
  lowered promised met taken missed own :=
    Or.inr ((callsFor_writes promised met.2 own taken).resolve_left missed)
  held promised met taken _ _ := Or.inr (promised.step met.1 taken).2

/-- **What is unsent is written.**  In every run without a `CloseClient` that closes a
registered connection: as many calls of `write` on a connection as its queue has unsent bytes
and buffers, none of which fails, write out all that was unsent, in order, if the connection
is still there; whatever else the clients, the threads and the kernel do. -/
theorem written_of_run {nTimeout : Int32} {front back : List Label} {middle last : TcpServer}
    {after : TcpConnection}
    (undisturbed : Along step (Undisturbed fun _ => True) (new nTimeout) (front ++ back))
    (reached : run step (new nTimeout) front = some middle)
    (runs : run step middle back = some last) (takes : Along step (Takes conn) middle back)
    (alive : middle.heap conn = some connection) (stays : last.heap conn = some after)
    (often : (unsent connection.writeQueue).length + connection.writeQueue.length ≤
      back.countP (writes conn)) :
    writtenOn conn middle.history ++ unsent connection.writeQueue <+:
      writtenOn conn last.history := by
  obtain ⟨calm, calmBack⟩ := along_append.mp undisturbed
  obtain ⟨owned, -, -, -⟩ := run_laws calm reached
  -- from here on the bytes unsent now are ahead of everything else
  have promised : middle.Promised conn
      (writtenOn conn middle.history ++ unsent connection.writeQueue) :=
    ⟨owned, owned.conn_lt alive, fun alive' => by
      rw [alive, Option.some_inj] at alive'
      rw [alive']⟩
  have along := (calmBack middle reached).and takes
  have kept := run_invariant_along
    (fun _ _ _ promised met taken => (pays_to_write conn _).kept promised met taken) back promised
    along runs
  have none := (pays_to_write conn _).goal_of_le_countP
    (fun server _ missed => Nat.pos_of_ne_zero missed) promised along runs
    ((callsFor_eq alive).trans_le (writesFor_le _ _) |>.trans often)
  have ahead := kept.ahead stays
  rw [callsFor_eq stays] at none
  -- nothing is missing, or nothing is left to write
  rcases Nat.eq_zero_or_pos ((writtenOn conn middle.history ++
    unsent connection.writeQueue).length - (writtenOn conn last.history).length) with all | missing
  · exact List.prefix_of_prefix_length_le ahead (List.prefix_append _ _) (by omega)
  · have empty : after.writeQueue = [] := by
      by_contra nonempty
      exact absurd none (Nat.ne_of_gt (writesFor_pos missing nonempty))
    rwa [empty, unsent_nil, List.append_nil] at ahead

/-- A connection with three bytes in two buffers, one of them without any; two of the calls
take a byte, and more is sent in between. -/
theorem written_of_run_short_writes :
    ∃ middle last, run step (new 600) [.accept (.client 1 2 5) 0, .send ⟨1, 2, 5⟩ [],
        .send ⟨1, 2, 5⟩ [1, 2, 3], .asyncSwap, .asyncExec, .asyncExec] = some middle ∧
      run step middle [.io 0 ⟨false, true, true⟩ (.data [9]) (.wrote 0) 0 0,
        .send ⟨1, 2, 5⟩ [4], .asyncSwap, .asyncExec, .io 0 ⟨false, false, true⟩ .again .again 0 0,
        .io 0 ⟨false, false, true⟩ .again (.wrote 1) 0 0,
        .io 0 ⟨false, false, true⟩ .again (.wrote 1) 0 0,
        .io 0 ⟨false, false, true⟩ .again (.wrote 1) 0 0,
        .io 0 ⟨false, false, true⟩ .again (.wrote 1) 0 0] = some last ∧
      writtenOn 0 middle.history ++ [1, 2, 3] <+: writtenOn 0 last.history := by
  obtain ⟨middle, reached, alive⟩ : ∃ middle, run step (new 600) [.accept (.client 1 2 5) 0,
        .send ⟨1, 2, 5⟩ [], .send ⟨1, 2, 5⟩ [1, 2, 3], .asyncSwap, .asyncExec,
        .asyncExec] = some middle ∧
      middle.heap 0 = some { TcpConnection.new ⟨1, 2, 5⟩ 600 0 with
        io := ⟨5, Interest.readWrite, true⟩
        writeQueue := [OutputBuffer.new [], OutputBuffer.new [1, 2, 3]] } :=
    ⟨_, rfl, by decide +kernel⟩
  obtain ⟨last, runs, stays⟩ : ∃ last, run step (new 600) ([.accept (.client 1 2 5) 0,
        .send ⟨1, 2, 5⟩ [], .send ⟨1, 2, 5⟩ [1, 2, 3], .asyncSwap, .asyncExec, .asyncExec] ++
        [.io 0 ⟨false, true, true⟩ (.data [9]) (.wrote 0) 0 0,
          .send ⟨1, 2, 5⟩ [4], .asyncSwap, .asyncExec,
          .io 0 ⟨false, false, true⟩ .again .again 0 0,
          .io 0 ⟨false, false, true⟩ .again (.wrote 1) 0 0,
          .io 0 ⟨false, false, true⟩ .again (.wrote 1) 0 0,
          .io 0 ⟨false, false, true⟩ .again (.wrote 1) 0 0,
          .io 0 ⟨false, false, true⟩ .again (.wrote 1) 0 0]) = some last ∧
      (last.heap 0).isSome = true := ⟨_, rfl, by decide +kernel⟩
  obtain ⟨after, stays⟩ := Option.isSome_iff_exists.mp stays
  rw [run_append, reached, Option.bind_some] at runs
  refine ⟨middle, last, reached, runs, written_of_run
    (undisturbed_of_labels (by simp) (fun _ _ _ _ _ => trivial) _) reached runs ?_ alive stays
    (by decide)⟩
  exact (along_append.mp (show Along step (Takes 0) (new 600) (_ ++ _) by decide +kernel)).2
    middle reached

end TcpServer

end ServerLib
