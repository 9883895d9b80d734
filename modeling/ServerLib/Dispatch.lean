import ServerLib.CommonServer
import ServerLib.Library.FifoPool

/-!
# The server with packet threads

The loop thread frames and dispatches, up to 64 packet threads deliver, and
nothing orders the threads among themselves.  `System` is the server with one
`CPktHandleThread` per thread, and `step` moves one party at a time:

* the loop thread accepts a client, takes in a chunk, makes one pass of the loop
  of `__AddContent`, or runs one of the four callbacks that end a connection;
* a packet thread makes one action of `HandlePkt`, which includes waking up for
  no reason;
* a thread is told to stop.

An interleaving is a list of labels.  While the loop thread is inside
`__AddContent` (`adding`), it has no other move, but the packet threads do.

The abstract model is the `Pool` of the queue library: a dispatch is a push, the
beginning of a delivery is a pop, and a direct delivery is a push and a pop on
the queue `none`, which belongs to no thread.  `step_refines` says that every step
of the system is a run of the pool, and `dispatch_exactly_once` takes what the
pool promises back to the code.

`origin` numbers the connections in the order they were accepted.  It is a
history variable: it tells two connections with the same key apart, and no
function of the server looks at it.
-/

namespace ServerLib

open Transition FifoPool

namespace CommonServer

variable {H τ : Type}

/-- `strData = …` for the `strData` that is a reference to `m_Contents[sClient]`. -/
def setContent (server : CommonServer H τ) (sClient : SocketClientData) (strData : Bytes) :
    CommonServer H τ :=
  { server with contents := server.contents.insert sClient strData }

/-- `m_Threads[i] = …`, for an action of thread `i`. -/
def setThread (server : CommonServer H τ) (i : ℕ) (thread : PktHandleThread H τ) :
    CommonServer H τ :=
  { server with threads := server.threads.set i thread }

/-- What a thread still has to deliver; a direct delivery waits nowhere. -/
def pendingAt (server : CommonServer H τ) : Option ℕ → List (PktData τ)
  | none => []
  | some i => (server.threads[i]?.map PktHandleThread.pending).getD []

/-- Both ways `__HandlePkt` can go: straight to the data handle, or to the queue
of a thread that exists. -/
theorem handlePkt_cases {server : CommonServer H τ} {sClient : SocketClientData} {pData : Bytes}
    {origin : τ} {handled : CommonServer H τ × List (Event H τ)}
    (called : server.handlePkt sClient pData origin = some handled) :
    (server.nThreadNum = 0 ∧ handled = (server,
      [.handlePkt none ⟨sClient, OutputBuffer.new pData, origin⟩,
        .onClientDataReceived none server.pDataHandle
          ⟨sClient, OutputBuffer.new pData, origin⟩])) ∨
    (server.nThreadNum ≠ 0 ∧ ∃ thread, server.threads[server.threadIndex]? = some thread ∧
      handled = ({ server.setThread server.threadIndex
          (thread.addPkt ⟨sClient, OutputBuffer.new pData, origin⟩) with
            nCount := server.nCount + 1 },
        [.handlePkt (some server.threadIndex) ⟨sClient, OutputBuffer.new pData, origin⟩])) := by
  unfold handlePkt at called
  split at called
  · next direct =>
      cases called
      exact Or.inl ⟨direct, rfl⟩
  · next threaded =>
      split at called
      · next inside =>
          cases called
          refine Or.inr ⟨threaded, _, List.getElem?_eq_getElem inside, ?_⟩
          rw [setThread, List.modify_eq_set_get]
          rfl
      · cases called

/-- The index is below the number of threads, whatever the counter has wrapped
to. -/
theorem threadIndex_lt (server : CommonServer H τ) (threaded : 0 < server.nThreadNum.toInt) :
    server.threadIndex < server.nThreadNum.toInt.toNat := by
  have value : server.nThreadNum.toUInt32.toNat = server.nThreadNum.toInt.toNat := by
    have bound := server.nThreadNum.toUInt32.toNat_lt
    have same := BitVec.toInt_eq_toNat_cond server.nThreadNum.toBitVec
    change server.nThreadNum.toInt = _ at same
    change server.nThreadNum.toBitVec.toNat = _
    split at same <;> omega
  unfold threadIndex
  rw [UInt32.toNat_mod, value]
  exact Nat.mod_lt _ (by omega)

theorem pendingAt_setThread {server : CommonServer H τ} {i : ℕ}
    {before thread : PktHandleThread H τ} (here : server.threads[i]? = some before)
    (j : Option ℕ) :
    (server.setThread i thread).pendingAt j =
      if j = some i then thread.pending else server.pendingAt j := by
  have inside : i < server.threads.length := (List.getElem?_eq_some_iff.mp here).1
  cases j with
  | none => simp [pendingAt]
  | some j =>
      simp only [pendingAt, setThread, List.getElem?_set, Option.some.injEq]
      by_cases same : i = j
      · subst same
        simp [inside]
      · simp [same, Ne.symm same]

/-- Threads that have just been started have nothing to deliver. -/
theorem pendingAt_of_init {server : CommonServer H τ} {pDataHandle : Option H} {n : ℕ}
    (threads : server.threads = List.replicate n (PktHandleThread.init pDataHandle))
    (i : Option ℕ) : server.pendingAt i = [] := by
  cases i with
  | none => rfl
  | some i =>
      simp only [pendingAt, threads, List.getElem?_replicate]
      split <;> rfl

/-- `SetThreadNum` was called with `nThreadNum`, and every thread counts its queue
correctly. -/
structure Config (nThreadNum : Int32) (server : CommonServer H τ) : Prop where
  same_num : server.nThreadNum = nThreadNum
  threads_length : server.threads.length = nThreadNum.toInt.toNat
  sound : ∀ {i : ℕ} {thread : PktHandleThread H τ},
    server.threads[i]? = some thread → thread.Sound

namespace Config

variable {nThreadNum : Int32} {server : CommonServer H τ}

theorem of_init (pDataHandle : Option H) (same : server.nThreadNum = nThreadNum)
    (threads : server.threads =
      List.replicate nThreadNum.toInt.toNat (PktHandleThread.init pDataHandle)) :
    server.Config nThreadNum where
  same_num := same
  threads_length := by rw [threads, List.length_replicate]
  sound := by
    intro i thread here
    rw [threads, List.getElem?_replicate] at here
    split at here
    · cases here
      exact PktHandleThread.sound_init _
    · cases here

theorem setContent (config : server.Config nThreadNum) (sClient : SocketClientData)
    (strData : Bytes) : (server.setContent sClient strData).Config nThreadNum :=
  ⟨config.same_num, config.threads_length, config.sound⟩

theorem removeContent (config : server.Config nThreadNum) (sClient : SocketClientData) :
    (server.removeContent sClient).Config nThreadNum :=
  ⟨config.same_num, config.threads_length, config.sound⟩

theorem setThread (config : server.Config nThreadNum) {i : ℕ} {thread : PktHandleThread H τ}
    (sound : thread.Sound) : (server.setThread i thread).Config nThreadNum := by
  refine ⟨config.same_num, (List.length_set ..).trans config.threads_length, ?_⟩
  intro j other here
  simp only [CommonServer.setThread, List.getElem?_set] at here
  split at here
  · split at here
    · cases here
      exact sound
    · cases here
  · exact config.sound here

theorem handlePkt (config : server.Config nThreadNum) {sClient : SocketClientData}
    {pData : Bytes} {origin : τ} {handled : CommonServer H τ × List (Event H τ)}
    (called : server.handlePkt sClient pData origin = some handled) :
    handled.1.Config nThreadNum := by
  rcases handlePkt_cases called with ⟨-, rfl⟩ | ⟨-, thread, here, rfl⟩
  · exact config
  · have moved := config.setThread (i := server.threadIndex)
      ((config.sound here).addPkt ⟨sClient, OutputBuffer.new pData, origin⟩)
    exact ⟨moved.same_num, moved.threads_length, moved.sound⟩

/-- Without threads nothing waits. -/
theorem pendingAt_direct (config : server.Config nThreadNum) (direct : server.nThreadNum = 0)
    (i : Option ℕ) : server.pendingAt i = [] := by
  have none : server.threads = [] := by
    rw [← List.length_eq_zero_iff, config.threads_length, ← config.same_num, direct]
    rfl
  cases i with
  | none => rfl
  | some i => simp [pendingAt, none]

end Config

end CommonServer

/-! ## The system -/

/-- The server, the loop thread's place in it and the history. -/
structure System (H : Type) where
  server : CommonServer H ℕ
  /-- The client and connection whose `__AddContent` loop the loop thread is in. -/
  adding : Option (SocketClientData × ℕ)
  /-- The connection registered under a key. -/
  live : SocketClientData → Option ℕ
  nextConn : ℕ
  log : List (Event H ℕ)

/-- Who moves, and what the network brings. -/
inductive Label where
  /-- `CTcpServer::__Accept` accepts a client. -/
  | connected (sClient : SocketClientData)
  /-- `OnClientDataReceived(sClient, pData, nDataLen)`, up to the first evaluation
  of the loop condition. -/
  | dataReceived (sClient : SocketClientData) (pData : Bytes)
  /-- One pass of the loop of `__AddContent`. -/
  | pass
  /-- One of the four callbacks that end a connection. -/
  | terminated (sClient : SocketClientData) (how : CommonServer.Termination)
  /-- One action of the body of packet thread `i`. -/
  | handlePkt (i : ℕ)
  /-- `m_Threads[i].Stop()`. -/
  | stop (i : ℕ)
  deriving DecidableEq, Repr

/-- The packet with which a packet thread's action begins a delivery, as an event. -/
def deliveryEvents {H : Type} (i : ℕ) (pDataHandle : Option H) :
    Option (PktData ℕ) → List (Event H ℕ)
  | none => []
  | some pktData => [.onClientDataReceived (some i) pDataHandle pktData]

namespace System

variable {H : Type}

/-- A server with `SetDataHandle` and `SetThreadNum` called, before any client. -/
def start (pDataHandle : H) (nThreadNum : Int32) : System H where
  server := (CommonServer.new.setDataHandle pDataHandle).setThreadNum nThreadNum
  adding := none
  live := fun _ => none
  nextConn := 0
  log := []

/-- One pass of the loop of `__AddContent`.  `none` is an exception. -/
def addContentPass (state : System H) (sClient : SocketClientData) (origin : ℕ) :
    Option (System H) :=
  match ServerLib.pass (state.server.contentOf sClient) with
  | .done => some { state with adding := none }
  | .abnormal =>
      some { state with server := state.server.setContent sClient [], adding := none }
  | .incomplete => some { state with adding := none }
  | .handle nDataLen =>
      match substr (state.server.contentOf sClient) (sizeT nDataLen) with
      | none => none
      | some rest =>
          (state.server.handlePkt sClient
            ((state.server.contentOf sClient).take (sizeT nDataLen)) origin).map fun handled =>
              { state with
                server := handled.1.setContent sClient rest
                log := state.log ++ handled.2 }

/-- One move of one party; `none` where the party has no such move. -/
def step (state : System H) : Label → Option (System H)
  | .connected sClient =>
      match state.adding, state.live sClient with
      | none, none =>
          some { state with
            live := Function.update state.live sClient (some state.nextConn)
            nextConn := state.nextConn + 1
            log := state.log ++
              [.onClientConnected state.server.pDataHandle sClient state.nextConn] }
      | _, _ => none
  | .dataReceived sClient pData =>
      match state.adding, state.live sClient with
      | none, some origin =>
          some { state with
            server := state.server.setContent sClient (state.server.contentOf sClient ++ pData)
            adding := some (sClient, origin)
            log := state.log ++ [.chunkReceived sClient pData origin] }
      | _, _ => none
  | .pass =>
      match state.adding with
      | none => none
      | some (sClient, origin) => state.addContentPass sClient origin
  | .terminated sClient how =>
      match state.adding, state.live sClient with
      | none, some origin =>
          some { state with
            server := (state.server.onTermination sClient origin how).1
            live := Function.update state.live sClient none
            log := state.log ++ (state.server.onTermination sClient origin how).2 }
      | _, _ => none
  | .handlePkt i =>
      match state.server.threads[i]? with
      | none => none
      | some thread =>
          thread.handlePkt.map fun moved =>
            { state with
              server := state.server.setThread i moved.1
              log := state.log ++ deliveryEvents i thread.pDataHandle moved.2 }
  | .stop i =>
      match state.server.threads[i]? with
      | none => none
      | some thread => some { state with server := state.server.setThread i thread.stop }

/-! ## What each step can do -/

section Inversion

variable {state next : System H} {sClient : SocketClientData}

theorem step_connected_cases (taken : state.step (.connected sClient) = some next) :
    state.adding = none ∧ state.live sClient = none ∧
      next = { state with
        live := Function.update state.live sClient (some state.nextConn)
        nextConn := state.nextConn + 1
        log := state.log ++
          [.onClientConnected state.server.pDataHandle sClient state.nextConn] } := by
  simp only [step] at taken
  split at taken
  · next idle fresh =>
      cases taken
      exact ⟨idle, fresh, rfl⟩
  · cases taken

theorem step_dataReceived_cases {pData : Bytes}
    (taken : state.step (.dataReceived sClient pData) = some next) :
    ∃ origin, state.adding = none ∧ state.live sClient = some origin ∧
      next = { state with
        server := state.server.setContent sClient (state.server.contentOf sClient ++ pData)
        adding := some (sClient, origin)
        log := state.log ++ [.chunkReceived sClient pData origin] } := by
  simp only [step] at taken
  split at taken
  · next origin idle registered =>
      cases taken
      exact ⟨origin, idle, registered, rfl⟩
  · cases taken

/-- A pass leaves the loop, or hands one packet on and cuts it off. -/
theorem step_pass_cases (taken : state.step .pass = some next) :
    ∃ sClient origin, state.adding = some (sClient, origin) ∧
      ((ServerLib.pass (state.server.contentOf sClient) = .done ∨
          ServerLib.pass (state.server.contentOf sClient) = .incomplete) ∧
        next = { state with adding := none } ∨
      ServerLib.pass (state.server.contentOf sClient) = .abnormal ∧
        next = { state with server := state.server.setContent sClient [], adding := none } ∨
      ∃ nDataLen rest handled,
        ServerLib.pass (state.server.contentOf sClient) = .handle nDataLen ∧
        substr (state.server.contentOf sClient) (sizeT nDataLen) = some rest ∧
        state.server.handlePkt sClient
          ((state.server.contentOf sClient).take (sizeT nDataLen)) origin = some handled ∧
        next = { state with
          server := handled.1.setContent sClient rest
          log := state.log ++ handled.2 }) := by
  simp only [step] at taken
  split at taken
  · cases taken
  · next sClient origin inside =>
      refine ⟨sClient, origin, inside, ?_⟩
      unfold addContentPass at taken
      split at taken
      · next found =>
          cases taken
          exact Or.inl ⟨Or.inl found, rfl⟩
      · next found =>
          cases taken
          exact Or.inr (Or.inl ⟨found, rfl⟩)
      · next found =>
          cases taken
          exact Or.inl ⟨Or.inr found, rfl⟩
      · next nDataLen found =>
          split at taken
          · cases taken
          · next rest cut =>
              obtain ⟨handled, called, rfl⟩ := Option.map_eq_some_iff.mp taken
              exact Or.inr (Or.inr ⟨nDataLen, rest, handled, found, cut, called, rfl⟩)

theorem step_terminated_cases {how : CommonServer.Termination}
    (taken : state.step (.terminated sClient how) = some next) :
    ∃ origin nErrorCode, state.adding = none ∧ state.live sClient = some origin ∧
      next = { state with
        server := state.server.removeContent sClient
        live := Function.update state.live sClient none
        log := state.log ++
          [.onClientDisconnected state.server.pDataHandle sClient nErrorCode origin] } := by
  simp only [step] at taken
  split at taken
  · next origin idle registered =>
      obtain ⟨nErrorCode, same⟩ := CommonServer.onTermination_eq state.server sClient origin how
      rw [same] at taken
      cases taken
      exact ⟨origin, nErrorCode, idle, registered, rfl⟩
  · cases taken

theorem step_handlePkt_cases {i : ℕ} (taken : state.step (.handlePkt i) = some next) :
    ∃ thread moved, state.server.threads[i]? = some thread ∧ thread.handlePkt = some moved ∧
      next = { state with
        server := state.server.setThread i moved.1
        log := state.log ++ deliveryEvents i thread.pDataHandle moved.2 } := by
  simp only [step] at taken
  split at taken
  · cases taken
  · next thread here =>
      obtain ⟨moved, acted, rfl⟩ := Option.map_eq_some_iff.mp taken
      exact ⟨thread, moved, here, acted, rfl⟩

theorem step_stop_cases {i : ℕ} (taken : state.step (.stop i) = some next) :
    ∃ thread, state.server.threads[i]? = some thread ∧
      next = { state with server := state.server.setThread i thread.stop } := by
  simp only [step] at taken
  split at taken
  · cases taken
  · next thread here =>
      cases taken
      exact ⟨thread, here, rfl⟩

end Inversion

/-- The configuration of the threads survives every step. -/
theorem config_step {nThreadNum : Int32} {state next : System H} {label : Label}
    (config : state.server.Config nThreadNum) (taken : state.step label = some next) :
    next.server.Config nThreadNum := by
  cases label with
  | connected sClient =>
      obtain ⟨-, -, rfl⟩ := step_connected_cases taken
      exact config
  | dataReceived sClient pData =>
      obtain ⟨origin, -, -, rfl⟩ := step_dataReceived_cases taken
      exact config.setContent sClient _
  | pass =>
      obtain ⟨sClient, origin, -, ⟨-, rfl⟩ | ⟨-, rfl⟩ | ⟨_, rest, handled, -, -, called, rfl⟩⟩ :=
        step_pass_cases taken
      · exact config
      · exact config.setContent sClient []
      · exact (config.handlePkt called).setContent sClient rest
  | terminated sClient how =>
      obtain ⟨origin, nErrorCode, -, -, rfl⟩ := step_terminated_cases taken
      exact config.removeContent sClient
  | handlePkt i =>
      obtain ⟨thread, moved, here, acted, rfl⟩ := step_handlePkt_cases taken
      exact config.setThread ((config.sound here).handlePkt acted)
  | stop i =>
      obtain ⟨thread, here, rfl⟩ := step_stop_cases taken
      exact config.setThread (config.sound here).stop

theorem config_start (pDataHandle : H) {nThreadNum : Int32} (low : 0 ≤ nThreadNum)
    (high : nThreadNum ≤ CommonServer.maxThreadNum) :
    (start pDataHandle nThreadNum).server.Config nThreadNum := by
  have zero : (0 : Int32).toInt = 0 := rfl
  simp only [start, CommonServer.setThreadNum]
  split
  · next outside =>
      have none : nThreadNum = 0 := by
        rw [Int32.le_iff_toInt_le] at low high
        rw [Int32.le_iff_toInt_le, gt_iff_lt, Int32.lt_iff_toInt_lt] at outside
        apply Int32.toInt_inj.mp
        omega
      subst none
      exact CommonServer.Config.of_init none rfl rfl
  · exact CommonServer.Config.of_init (some pDataHandle) rfl rfl

/-! ## The system refines a pool of queues -/

/-- The calls of `__HandlePkt`, with the thread each selects. -/
def dispatches (log : List (Event H ℕ)) : List (Option ℕ × PktData ℕ) :=
  log.filterMap fun
    | .handlePkt thread pktData => some (thread, pktData)
    | _ => none

/-- The deliveries that have begun, with the thread each is made by. -/
def beginnings (log : List (Event H ℕ)) : List (Option ℕ × PktData ℕ) :=
  log.filterMap fun
    | .onClientDataReceived thread _ pktData => some (thread, pktData)
    | _ => none

@[simp] theorem dispatches_append (log log' : List (Event H ℕ)) :
    dispatches (log ++ log') = dispatches log ++ dispatches log' :=
  List.filterMap_append

@[simp] theorem beginnings_append (log log' : List (Event H ℕ)) :
    beginnings (log ++ log') = beginnings log ++ beginnings log' :=
  List.filterMap_append

/-- The pool a system stands for. -/
def pool (state : System H) : Pool (Option ℕ) (PktData ℕ) where
  queue := state.server.pendingAt
  pushed := dispatches state.log
  popped := beginnings state.log

/-- A step that changes neither what is pending nor the calls and deliveries. -/
theorem pool_eq {state next : System H}
    (pending : ∀ i, next.server.pendingAt i = state.server.pendingAt i)
    (pushed : dispatches next.log = dispatches state.log)
    (popped : beginnings next.log = beginnings state.log) : next.pool = state.pool :=
  Pool.ext (funext pending) pushed popped

/-- What a step does to the pool: nothing, a push where the loop thread dispatches
a packet of the client it is at, a push and a pop on the queue of no thread, or a
pop by a packet thread. -/
theorem pool_step_cases {nThreadNum : Int32} {state next : System H} {label : Label}
    (config : state.server.Config nThreadNum) (taken : state.step label = some next) :
    next.pool = state.pool ∨
    (∃ pktData nDataLen, label = .pass ∧
      state.adding = some (pktData.sClient, pktData.origin) ∧
      ServerLib.pass (state.server.contentOf pktData.sClient) = .handle nDataLen ∧
      (state.server.nThreadNum = 0 ∧
          next.pool = (state.pool.pushTo none pktData).popFrom none pktData [] ∨
        state.server.nThreadNum ≠ 0 ∧
          next.pool = state.pool.pushTo (some state.server.threadIndex) pktData)) ∨
    (∃ i pktData rest, label = .handlePkt i ∧ state.pool.queue (some i) = pktData :: rest ∧
      next.pool = state.pool.popFrom (some i) pktData rest) := by
  cases label with
  | connected sClient =>
      obtain ⟨-, -, rfl⟩ := step_connected_cases taken
      exact Or.inl (pool_eq (fun _ => rfl) (by simp [dispatches]) (by simp [beginnings]))
  | dataReceived sClient pData =>
      obtain ⟨origin, -, -, rfl⟩ := step_dataReceived_cases taken
      exact Or.inl (pool_eq (fun _ => rfl) (by simp [dispatches]) (by simp [beginnings]))
  | pass =>
      obtain ⟨sClient, origin, inside, ⟨-, rfl⟩ | ⟨-, rfl⟩ |
        ⟨nDataLen, rest, handled, found, -, called, rfl⟩⟩ := step_pass_cases taken
      · exact Or.inl rfl
      · exact Or.inl rfl
      · refine Or.inr (Or.inl ⟨⟨sClient, OutputBuffer.new
          ((state.server.contentOf sClient).take (sizeT nDataLen)), origin⟩, nDataLen, rfl,
          inside, found, ?_⟩)
        rcases CommonServer.handlePkt_cases called with
          ⟨direct, rfl⟩ | ⟨threaded, thread, here, rfl⟩
        · -- pushed and popped at once: the queue of no thread stays empty
          refine Or.inl ⟨direct, Pool.ext (funext fun i => ?_) ?_ ?_⟩
          · show state.server.pendingAt i = _
            rw [Pool.queue_popFrom, Pool.queue_pushTo]
            split
            · exact config.pendingAt_direct direct i
            · rfl
          · exact dispatches_append state.log _
          · exact beginnings_append state.log _
        · refine Or.inr ⟨threaded, Pool.ext (funext fun i => ?_) ?_ ?_⟩
          · show (state.server.setThread _ _).pendingAt i = _
            rw [CommonServer.pendingAt_setThread here, Pool.queue_pushTo,
              PktHandleThread.pending_addPkt]
            split
            · next same => simp [pool, CommonServer.pendingAt, here]
            · rfl
          · exact dispatches_append state.log _
          · simp [pool, beginnings]
  | terminated sClient how =>
      obtain ⟨origin, nErrorCode, -, -, rfl⟩ := step_terminated_cases taken
      exact Or.inl (pool_eq (fun _ => rfl) (by simp [dispatches]) (by simp [beginnings]))
  | handlePkt i =>
      obtain ⟨thread, ⟨moved, delivered⟩, here, acted, rfl⟩ := step_handlePkt_cases taken
      -- what a thread has in hand is still pending
      have conserved := PktHandleThread.pending_handlePkt acted
      have queued : state.pool.queue (some i) = thread.pending := by
        simp [pool, CommonServer.pendingAt, here]
      cases delivered with
      | none =>
          refine Or.inl (pool_eq (fun j => ?_) (by simp [deliveryEvents])
            (by simp [deliveryEvents]))
          show (state.server.setThread i moved).pendingAt j = state.server.pendingAt j
          rw [CommonServer.pendingAt_setThread here]
          split
          · next same =>
              rw [same]
              exact conserved.symm.trans queued.symm
          · rfl
      | some pktData =>
          refine Or.inr (Or.inr ⟨i, pktData, moved.pending, rfl, queued.trans conserved,
            Pool.ext (funext fun j => ?_) ?_ ?_⟩)
          · show (state.server.setThread i moved).pendingAt j = _
            rw [CommonServer.pendingAt_setThread here, Pool.queue_popFrom]
            rfl
          · simp [pool, dispatches, deliveryEvents]
          · exact beginnings_append state.log _
  | stop i =>
      obtain ⟨thread, here, rfl⟩ := step_stop_cases taken
      refine Or.inl (pool_eq (fun j => ?_) rfl rfl)
      show (state.server.setThread i thread.stop).pendingAt j = state.server.pendingAt j
      rw [CommonServer.pendingAt_setThread here, PktHandleThread.pending_stop]
      split
      · next same => simp [same, CommonServer.pendingAt, here]
      · rfl

theorem pool_start (pDataHandle : H) (nThreadNum : Int32) :
    (start pDataHandle nThreadNum).pool = Pool.empty := by
  refine Pool.ext (funext fun i => ?_) rfl rfl
  show (CommonServer.setThreadNum _ nThreadNum).pendingAt i = []
  unfold CommonServer.setThreadNum
  split
  · cases i <;> rfl
  · exact CommonServer.pendingAt_of_init rfl i

/-- The packet is one of the client's. -/
def ofClient (sClient : SocketClientData) (pktData : PktData ℕ) : Bool :=
  pktData.sClient = sClient

/-- The client a pass of the loop would call `__HandlePkt` for. -/
def dispatching (state : System H) : Option SocketClientData :=
  match state.adding with
  | none => none
  | some (sClient, _) =>
      match ServerLib.pass (state.server.contentOf sClient) with
      | .handle _ => some sClient
      | _ => none

/-- If this step calls `__HandlePkt` for the client, no thread other than the one
selected still has to deliver a packet of the client. -/
def AloneAtDispatch (sClient : SocketClientData) (state : System H) : Label → Prop
  | .pass => state.dispatching = some sClient →
      ∀ i < state.server.threads.length, i ≠ state.server.threadIndex →
        ∀ pktData ∈ state.server.pendingAt (some i), pktData.sClient ≠ sClient
  | _ => True

instance (sClient : SocketClientData) (state : System H) :
    (label : Label) → Decidable (state.AloneAtDispatch sClient label)
  | .pass => inferInstanceAs (Decidable (_ → ∀ i < _, _ → ∀ pktData ∈ _, _ ≠ _))
  | .connected _ | .dataReceived _ _ | .terminated _ _ | .handlePkt _ | .stop _ =>
      inferInstanceAs (Decidable True)

theorem dispatching_eq {state : System H} {sClient : SocketClientData} {origin : ℕ}
    {nDataLen : Int32} (inside : state.adding = some (sClient, origin))
    (found : ServerLib.pass (state.server.contentOf sClient) = .handle nDataLen) :
    state.dispatching = some sClient := by
  simp only [dispatching, inside, found]

/-- **Refinement.**  Every step of the system is a run of the pool, and a client's
condition on the dispatches of the system is the pool's condition on its pushes. -/
theorem step_refines {nThreadNum : Int32} {state next : System H} {label : Label}
    (config : state.server.Config nThreadNum) (taken : state.step label = some next) :
    ∃ actions, run Pool.step state.pool actions = some next.pool ∧
      ∀ sClient, state.AloneAtDispatch sClient label →
        Along Pool.step (Pool.AloneAtPush (ofClient sClient)) state.pool actions := by
  rcases pool_step_cases config taken with same | ⟨pktData, nDataLen, rfl, inside, found, pushed⟩ |
    ⟨i, pktData, rest, rfl, queued, popped⟩
  · exact ⟨[], by rw [same, run_nil], fun _ _ => trivial⟩
  · rcases pushed with ⟨direct, pushed⟩ | ⟨threaded, pushed⟩
    · have front : (state.pool.pushTo none pktData).queue none = [pktData] := by
        simp [pool, CommonServer.pendingAt]
      refine ⟨[.push none pktData, .pop none], ?_, fun sClient _ => ⟨?_, fun next' _ => ?_⟩⟩
      · rw [run_cons, Pool.step, Option.bind_some, run_cons, Pool.step_pop front,
          Option.bind_some, run_nil, pushed]
      · -- without threads no queue holds anything
        intro _ j _ other member
        have none : state.pool.queue j = [] := config.pendingAt_direct direct j
        rw [none] at member
        cases member
      · exact ⟨trivial, fun _ _ => trivial⟩
    · refine ⟨[.push (some state.server.threadIndex) pktData], ?_,
        fun sClient alone => ⟨?_, fun _ _ => trivial⟩⟩
      · rw [run_cons, Pool.step, Option.bind_some, run_nil, pushed]
      · intro belongs j apart other member
        have mine : pktData.sClient = sClient := by simpa [ofClient] using belongs
        subst mine
        cases j with
        | none => cases member
        | some j =>
            have inRange : j < state.server.threads.length := by
              by_contra outside
              have nowhere : state.pool.queue (some j) = [] := by
                simp [pool, CommonServer.pendingAt, Nat.not_lt.mp outside]
              rw [nowhere] at member
              cases member
            have foreign := alone (dispatching_eq inside found) j inRange
              (fun same => apart (congrArg some same)) other member
            simpa [ofClient] using foreign
  · refine ⟨[.pop (some i)], ?_, fun _ _ => ⟨trivial, fun _ _ => trivial⟩⟩
    rw [run_cons, Pool.step_pop queued, Option.bind_some, run_nil, popped]

/-- Every run of the system is a run of the pool. -/
theorem run_refines_of_config {nThreadNum : Int32} {state last : System H} {labels : List Label}
    (config : state.server.Config nThreadNum) (runs : run step state labels = some last) :
    ∃ actions, run Pool.step state.pool actions = some last.pool := by
  obtain ⟨actions, reached, -⟩ := run_refines (C := fun _ _ => True) (D := fun _ _ => True)
    (fun _ _ _ config _ taken => config_step config taken)
    (fun _ _ _ config _ taken =>
      (step_refines config taken).imp fun actions refined =>
        ⟨refined.1, along_of_forall (fun _ _ => trivial) _ actions⟩)
    labels config (along_of_forall (fun _ _ => trivial) _ labels) runs
  exact ⟨actions, reached⟩

theorem run_refines_pool {pDataHandle : H} {nThreadNum : Int32} (low : 0 ≤ nThreadNum)
    (high : nThreadNum ≤ CommonServer.maxThreadNum) {labels : List Label} {last : System H}
    (runs : run step (start pDataHandle nThreadNum) labels = some last) :
    ∃ actions, run Pool.step Pool.empty actions = some last.pool :=
  pool_start pDataHandle nThreadNum ▸ run_refines_of_config (config_start pDataHandle low high) runs

/-! ## Dispatch is exactly-once -/

/-- Every call of `__HandlePkt` selects a thread below `n`. -/
theorem dispatches_step {nThreadNum : Int32} {state next : System H} {label : Label}
    (config : state.server.Config nThreadNum) (threaded : 0 < nThreadNum.toInt)
    (named : ∀ entry ∈ dispatches state.log, ∃ i < nThreadNum.toInt.toNat, entry.1 = some i)
    (taken : state.step label = some next) :
    ∀ entry ∈ dispatches next.log, ∃ i < nThreadNum.toInt.toNat, entry.1 = some i := by
  have index := CommonServer.threadIndex_lt state.server
    (config.same_num ▸ threaded)
  rw [config.same_num] at index
  rcases pool_step_cases config taken with same | ⟨pktData, nDataLen, -, -, -, pushed⟩ |
    ⟨i, pktData, rest, -, -, popped⟩
  · have unchanged : dispatches next.log = dispatches state.log :=
      congrArg Pool.pushed same
    rwa [unchanged]
  · rcases pushed with ⟨direct, -⟩ | ⟨-, pushed⟩
    · rw [← config.same_num, direct] at threaded
      cases threaded
    · have grown : dispatches next.log =
          dispatches state.log ++ [(some state.server.threadIndex, pktData)] :=
        congrArg Pool.pushed pushed
      intro entry member
      rw [grown, List.mem_append, List.mem_singleton] at member
      rcases member with member | rfl
      · exact named entry member
      · exact ⟨_, index, rfl⟩
  · have unchanged : dispatches next.log = dispatches state.log :=
      congrArg Pool.pushed popped
    rwa [unchanged]

/-- Where a packet can be, with `n` threads: delivered directly, or with one of them. -/
def places (n : ℕ) : List (Option ℕ) := none :: (List.range n).map some

theorem nodup_places (n : ℕ) : (places n).Nodup :=
  List.nodup_cons.mpr ⟨by simp, List.Nodup.map (Option.some_injective ℕ) List.nodup_range⟩

/-- Every packet was dispatched to a place, for every thread number. -/
theorem dispatched_of_run {pDataHandle : H} {nThreadNum : Int32} (low : 0 ≤ nThreadNum)
    (high : nThreadNum ≤ CommonServer.maxThreadNum) {labels : List Label} {last : System H}
    (runs : run step (start pDataHandle nThreadNum) labels = some last) :
    ∀ entry ∈ dispatches last.log, entry.1 ∈ places nThreadNum.toInt.toNat := by
  refine (run_invariant (I := fun state : System H => state.server.Config nThreadNum ∧
    ∀ entry ∈ dispatches state.log, entry.1 ∈ places nThreadNum.toInt.toNat) ?_ labels
    ⟨config_start pDataHandle low high, fun _ member => by cases member⟩ runs).2
  rintro state label next ⟨config, named⟩ taken
  refine ⟨config_step config taken, ?_⟩
  rcases pool_step_cases config taken with same | ⟨pktData, nDataLen, -, -, -, pushed⟩ |
    ⟨i, pktData, rest, -, -, popped⟩
  · have unchanged : dispatches next.log = dispatches state.log := congrArg Pool.pushed same
    rwa [unchanged]
  · obtain ⟨place, known, grown⟩ : ∃ place ∈ places nThreadNum.toInt.toNat,
        dispatches next.log = dispatches state.log ++ [(place, pktData)] := by
      rcases pushed with ⟨-, pushed⟩ | ⟨threaded, pushed⟩
      · exact ⟨none, List.mem_cons_self, congrArg Pool.pushed pushed⟩
      · rw [config.same_num] at threaded
        have positive : 0 < nThreadNum.toInt :=
          Int32.lt_iff_toInt_lt.mp (Int32.lt_of_le_of_ne low threaded.symm)
        have index := CommonServer.threadIndex_lt state.server (config.same_num ▸ positive)
        rw [config.same_num] at index
        exact ⟨_, List.mem_cons_of_mem _ (List.mem_map_of_mem (List.mem_range.mpr index)),
          congrArg Pool.pushed pushed⟩
    intro entry member
    rw [grown, List.mem_append, List.mem_singleton] at member
    rcases member with member | rfl
    · exact named entry member
    · exact known
  · have unchanged : dispatches next.log = dispatches state.log := congrArg Pool.pushed popped
    rwa [unchanged]

/-- What is in all places together is what the threads still have to deliver. -/
theorem flatMap_pendingAt (server : CommonServer H ℕ) :
    (places server.threads.length).flatMap server.pendingAt =
      server.threads.flatMap PktHandleThread.pending := by
  have everywhere : ∀ threads : List (PktHandleThread H ℕ),
      (List.range threads.length).flatMap (fun i =>
        (threads[i]?.map PktHandleThread.pending).getD []) =
          threads.flatMap PktHandleThread.pending := by
    intro threads
    induction threads with
    | nil => rfl
    | cons thread rest ih =>
        rw [List.length_cons, List.range_succ_eq_map, List.flatMap_cons, List.flatMap_map,
          List.flatMap_cons]
        exact congrArg (thread.pending ++ ·) ih
  rw [places, List.flatMap_cons, List.flatMap_map]
  exact everywhere server.threads

/-- **Nothing is lost and nothing is delivered twice**: what was delivered and what the
threads still have to deliver is, in some order, what was dispatched. -/
theorem dispatched_perm_of_run {pDataHandle : H} {nThreadNum : Int32} (low : 0 ≤ nThreadNum)
    (high : nThreadNum ≤ CommonServer.maxThreadNum) {labels : List Label} {last : System H}
    (runs : run step (start pDataHandle nThreadNum) labels = some last) :
    ((dispatches last.log).map Prod.snd).Perm ((beginnings last.log).map Prod.snd ++
      last.server.threads.flatMap PktHandleThread.pending) := by
  have config : last.server.Config nThreadNum :=
    run_invariant (fun _ _ _ config taken => config_step config taken) labels
      (config_start pDataHandle low high) runs
  obtain ⟨actions, reached⟩ := run_refines_pool low high runs
  have perm := Pool.pushed_perm_append (Pool.run_conserved reached)
    (nodup_places nThreadNum.toInt.toNat) (dispatched_of_run low high runs)
  rw [← config.threads_length] at perm
  rw [← flatMap_pendingAt]
  exact perm

/-- What exactly-once dispatch to `n` threads means in one state. -/
structure ExactlyOnce (n : ℕ) (state : System H) : Prop where
  /-- The index the next dispatch selects is below `n`. -/
  index_lt : state.server.threadIndex < n
  /-- So was the index of every dispatch made. -/
  dispatched_lt : ∀ entry ∈ dispatches state.log, ∃ i < n, entry.1 = some i
  /-- A thread about to call `front` and `pop` has a packet to take. -/
  front_exists : ∀ (i : ℕ) (thread : PktHandleThread H ℕ) (nSize : Int32),
    state.server.threads[i]? = some thread → thread.pc = .take nSize → thread.pktQueue ≠ []
  /-- Delivered, in hand and queued: together what was dispatched to the thread, in
  order. -/
  conserved : ∀ (i : ℕ) (thread : PktHandleThread H ℕ),
    state.server.threads[i]? = some thread →
    itemsAt (some i) (beginnings state.log) ++ thread.inHand ++ thread.pktQueue =
      itemsAt (some i) (dispatches state.log)
  /-- Over all threads, the framed packets are only redistributed. -/
  one_place : ((dispatches state.log).map Prod.snd).Perm
    ((List.range n).flatMap fun i =>
      itemsAt (some i) (beginnings state.log) ++ state.server.pendingAt (some i))

/-- **Dispatch to packet threads is exactly-once.**  For every thread number from 1
to 64 and every interleaving, in every state reached: the index selected is below
the thread number, no thread reads the front of an empty queue, and what each
thread delivered, has in hand and has queued is what was dispatched to it. -/
theorem dispatch_exactly_once (pDataHandle : H) {nThreadNum : Int32} (low : 0 < nThreadNum)
    (high : nThreadNum ≤ CommonServer.maxThreadNum) {labels : List Label} {last : System H}
    (runs : run step (start pDataHandle nThreadNum) labels = some last) :
    last.ExactlyOnce nThreadNum.toInt.toNat := by
  have threaded : 0 < nThreadNum.toInt := Int32.lt_iff_toInt_lt.mp low
  have start := config_start pDataHandle (Int32.le_of_lt low) high
  obtain ⟨config, named⟩ := run_invariant
    (I := fun state : System H => state.server.Config nThreadNum ∧
      ∀ entry ∈ dispatches state.log, ∃ i < nThreadNum.toInt.toNat, entry.1 = some i)
    (fun _ _ _ holds taken => ⟨config_step holds.1 taken,
      dispatches_step holds.1 threaded holds.2 taken⟩)
    labels ⟨start, fun _ member => by cases member⟩ runs
  obtain ⟨actions, reached⟩ := run_refines_pool (Int32.le_of_lt low) high runs
  have conserved := Pool.run_conserved reached
  refine ⟨?_, named, fun i thread nSize here => (config.sound here).pktQueue_ne_nil, ?_, ?_⟩
  · have index := CommonServer.threadIndex_lt last.server
      (config.same_num ▸ threaded)
    rwa [config.same_num] at index
  · intro i thread here
    have queue := conserved (some i)
    simp only [pool, CommonServer.pendingAt, here, Option.map_some, Option.getD_some,
      PktHandleThread.pending] at queue
    rwa [List.append_assoc]
  · have indices : ((List.range nThreadNum.toInt.toNat).map some).Nodup :=
      List.Nodup.map (Option.some_injective ℕ) List.nodup_range
    have perm := Pool.pushed_perm conserved indices (by
      intro entry member
      obtain ⟨i, inside, same⟩ := named entry member
      rw [same]
      exact List.mem_map_of_mem (List.mem_range.mpr inside))
    rwa [List.flatMap_map] at perm

/-- Two threads, a packet for each; the first is delivered, the second waits, and a
thread is stopped. -/
theorem dispatch_exactly_once_two_threads :
    ∃ last, run step (start () 2) [.connected ⟨1, 2, 5⟩,
        .dataReceived ⟨1, 2, 5⟩ [1, 0, 0, 0, 7, 1, 0, 0, 0, 8], .pass, .handlePkt 0, .pass, .pass,
        .handlePkt 0, .handlePkt 0, .handlePkt 0, .handlePkt 0, .handlePkt 0, .stop 1] =
          some last ∧ last.ExactlyOnce 2 := by
  obtain ⟨last, runs⟩ := Option.isSome_iff_exists.mp
    (show (run step (start () 2) [.connected ⟨1, 2, 5⟩,
        .dataReceived ⟨1, 2, 5⟩ [1, 0, 0, 0, 7, 1, 0, 0, 0, 8], .pass, .handlePkt 0, .pass, .pass,
        .handlePkt 0, .handlePkt 0, .handlePkt 0, .handlePkt 0, .handlePkt 0,
        .stop 1]).isSome = true by decide +kernel)
  exact ⟨last, runs, dispatch_exactly_once () (by decide) (by decide) runs⟩

end System

end ServerLib
