import ServerLib.EchoServer

/-!
# The echo server with packet threads

The second echo server (test/tcpcommonechoserver.cpp) is a `CCommonServer` whose data handle
gives every packet it is called with back to `Send`.  A packet now passes through the
framing of `__AddContent` and the queue of one of up to 64 threads before `Send` takes it,
and only then through everything `ServerLib.EchoServer` has.  The data handle runs in the
thread that called it, the loop thread or a packet thread, and that thread goes on only
when `Send` is done; `calling` is the packet each thread's data handle is at.

`Echo` is what comes back: written, then unsent, then waiting for the key are the packets
*answered* for the connection, in the order of the calls of `Send`; each of them is one of
the packets in the bytes of the connection, at most once; with at most one thread they are
in the order of the bytes.

As in `ServerLib.EchoServer` the key is what is load-bearing, and here a packet keeps its
key for longer: `FreshKey` says that a key is accepted only where no packet of it is with a
thread and nothing waits for it.  What draws on it is the field `own` of the invariant
`Echoing`: what is under way for the key belongs to the connection that has the key.
-/

namespace ServerLib

open Transition Sessions FifoPool

/-- A packet is given to one of the threads there are, or to none where there are none. -/
theorem System.thread_of_run {H : Type} (pDataHandle : H) {nThreadNum : Int32}
    (low : 0 ≤ nThreadNum) (high : nThreadNum ≤ CommonServer.maxThreadNum)
    {labels : List Label} {last : System H}
    (runs : run System.step (System.start pDataHandle nThreadNum) labels = some last) :
    ∀ entry ∈ System.dispatches last.log, entry.1 = none ∧ nThreadNum = 0 ∨
      ∃ i < nThreadNum.toInt.toNat, entry.1 = some i := by
  have zero : (0 : Int32).toInt = 0 := rfl
  rw [Int32.le_iff_toInt_le, zero] at low
  refine (run_invariant (I := fun state : System H => state.server.Config nThreadNum ∧
    ∀ entry ∈ System.dispatches state.log, entry.1 = none ∧ nThreadNum = 0 ∨
      ∃ i < nThreadNum.toInt.toNat, entry.1 = some i) ?_ labels
    ⟨System.config_start pDataHandle (Int32.le_iff_toInt_le.mpr low) high, fun _ member =>
      absurd member List.not_mem_nil⟩ runs).2
  rintro state label next ⟨config, named⟩ taken
  refine ⟨System.config_step config taken, fun entry member => ?_⟩
  rcases System.pool_step_cases config taken with same | ⟨pktData, _, -, -, -, pushed⟩ |
    ⟨_, _, _, -, -, popped⟩
  · have unchanged : System.dispatches next.log = System.dispatches state.log :=
      congrArg Pool.pushed same
    exact named entry (unchanged ▸ member)
  · rcases pushed with ⟨direct, pushed⟩ | ⟨threaded, pushed⟩
    · have grown : System.dispatches next.log = System.dispatches state.log ++ [(none, pktData)] :=
        congrArg Pool.pushed pushed
      rw [grown, List.mem_append, List.mem_singleton] at member
      rcases member with member | rfl
      · exact named entry member
      · exact Or.inl ⟨rfl, config.same_num ▸ direct⟩
    · have grown : System.dispatches next.log =
          System.dispatches state.log ++ [(some state.server.threadIndex, pktData)] :=
        congrArg Pool.pushed pushed
      rw [grown, List.mem_append, List.mem_singleton] at member
      rcases member with member | rfl
      · exact named entry member
      · rw [config.same_num] at threaded
        have nonzero : nThreadNum.toInt ≠ 0 := fun none => threaded (Int32.toInt_inj.mp none)
        have below := CommonServer.threadIndex_lt state.server
          (by rw [config.same_num]; omega)
        exact Or.inr ⟨_, config.same_num ▸ below, rfl⟩
  · have unchanged : System.dispatches next.log = System.dispatches state.log :=
      congrArg Pool.pushed popped
    exact named entry (unchanged ▸ member)

/-- The program: its server, the packet the data handle of each thread is at, and the
packets given to `Send`, with the thread that did. -/
structure CommonEchoServer where
  whole : WholeServer Unit
  calling : Option ℕ → Option (PktData ℕ)
  answered : List (Option ℕ × PktData ℕ)

namespace CommonEchoServer

/-- The server was set up and started. -/
def start (nThreadNum nTimeout : Int32) : CommonEchoServer where
  whole := WholeServer.start () nThreadNum nTimeout
  calling := fun _ => none
  answered := []

/-- A step of the server, or the call of `Send` by the data handle of a thread. -/
inductive Label where
  | server (label : WholeServer.Label)
  | handle (thread : Option ℕ)
  deriving DecidableEq, Repr

/-- The thread a step of the server is made by: packet thread `i` or the loop thread. -/
def threadOf : WholeServer.Label → Option ℕ
  | .handlePkt i => some i
  | _ => none

/-- The deliveries that began are calls of the data handle. -/
def began (state : CommonEchoServer) (whole : WholeServer Unit) : CommonEchoServer where
  whole := whole
  calling := ((System.beginnings whole.common.log).drop
    (System.beginnings state.whole.common.log).length).foldl
      (fun calling entry => Function.update calling entry.1 (some entry.2)) state.calling
  answered := state.answered

/-- The data handle of a thread called `g_pTcpServer->Send(sClient, pData, nLen)` with the
packet it was at, and returned. -/
def handled (state : CommonEchoServer) (thread : Option ℕ) (pktData : PktData ℕ) :
    CommonEchoServer where
  whole := { state.whole with tcp := state.whole.tcp.send pktData.sClient pktData.bytes }
  calling := Function.update state.calling thread none
  answered := state.answered ++ [(thread, pktData)]

/-- One step.  A thread whose data handle was called makes no other step until the call is
over; `Send`, `CloseClient` and `Stop` are called by nobody else. -/
def step (state : CommonEchoServer) : Label → Option CommonEchoServer
  | .server (.send _ _) => none
  | .server (.closeClient _) => none
  | .server (.stop _) => none
  | .server label =>
      if state.calling (threadOf label) = none then (state.whole.step label).map state.began
      else none
  | .handle thread => (state.calling thread).map (state.handled thread)

/-- The packets that a thread, or its data handle, still has in hand. -/
def underWay (state : CommonEchoServer) (thread : Option ℕ) : List (PktData ℕ) :=
  (state.calling thread).toList ++ state.whole.common.server.pendingAt thread

/-- Where the key is accepted, nothing waits for it and no packet of it is with a thread. -/
def FreshKey (sClient : SocketClientData) (state : CommonEchoServer) : Label → Prop
  | .server (.accept (.client IP Port client_fd) _) =>
      (⟨IP, Port, client_fd⟩ : SocketClientData) = sClient →
        (∀ entry ∈ state.whole.tcp.batch ++ state.whole.tcp.functions, entry.1 ≠ sClient) ∧
          ∀ i < state.whole.common.server.threads.length, ∀ pktData ∈ state.underWay (some i),
            pktData.sClient ≠ sClient
  | _ => True

instance (sClient : SocketClientData) (state : CommonEchoServer) :
    (label : Label) → Decidable (state.FreshKey sClient label)
  | .server (.accept (.client _ _ _) _) =>
      inferInstanceAs (Decidable (_ → (∀ entry ∈ _, _ ≠ _) ∧ ∀ i < _, ∀ pktData ∈ _, _ ≠ _))
  | .server (.accept .watcherError _) | .server (.accept .failed _) | .server (.ioFront ..)
  | .server (.ioBack ..) | .server (.timer ..) | .server .asyncSwap | .server .asyncExec
  | .server (.send ..) | .server (.closeClient _) | .server .pass | .server (.handlePkt _)
  | .server (.stop _) | .handle _ => inferInstanceAs (Decidable True)

/-! ## The packets as a pool -/

/-- The packets that were framed, those that are under way and those that were answered,
as a pool of one queue for each thread. -/
def pool (state : CommonEchoServer) : Pool (Option ℕ) (PktData ℕ) where
  queue := state.underWay
  pushed := System.dispatches state.whole.common.log
  popped := state.answered

variable {state next : CommonEchoServer} {whole : WholeServer Unit}

/-- Nothing happened to the packets. -/
theorem pool_began_of_same (same : whole.common.pool = state.whole.common.pool) :
    (state.began whole).pool = state.pool ∧ (state.began whole).calling = state.calling := by
  have popped : System.beginnings whole.common.log =
      System.beginnings state.whole.common.log := congrArg Pool.popped same
  have queue : whole.common.server.pendingAt = state.whole.common.server.pendingAt :=
    congrArg Pool.queue same
  have calling : (state.began whole).calling = state.calling := by
    simp [began, popped]
  have dispatched : System.dispatches whole.common.log =
      System.dispatches state.whole.common.log := congrArg Pool.pushed same
  refine ⟨Pool.ext (funext fun thread => ?_) dispatched rfl, calling⟩
  show ((state.began whole).calling thread).toList ++ whole.common.server.pendingAt thread = _
  rw [calling, queue]
  rfl

/-- A packet was given to a thread. -/
theorem pool_began_of_push {thread : Option ℕ} {pktData : PktData ℕ}
    (pushed : whole.common.pool = state.whole.common.pool.pushTo thread pktData) :
    (state.began whole).pool = state.pool.pushTo thread pktData := by
  have popped : System.beginnings whole.common.log =
      System.beginnings state.whole.common.log := congrArg Pool.popped pushed
  have calling : (state.began whole).calling = state.calling := by
    simp [began, popped]
  have dispatched : System.dispatches whole.common.log =
      System.dispatches state.whole.common.log ++ [(thread, pktData)] :=
    congrArg Pool.pushed pushed
  refine Pool.ext (funext fun other => ?_) dispatched rfl
  have queue : whole.common.server.pendingAt other = _ :=
    congrFun (congrArg Pool.queue pushed) other
  show ((state.began whole).calling other).toList ++ whole.common.server.pendingAt other = _
  rw [calling, queue, Pool.queue_pushTo, Pool.queue_pushTo]
  split
  · next same => simp [same, pool, underWay, System.pool]
  · rfl

/-- A packet thread's data handle was called: the packet is still under way. -/
theorem pool_began_of_pop {thread : Option ℕ} {pktData : PktData ℕ} {rest : List (PktData ℕ)}
    (free : state.calling thread = none)
    (queued : state.whole.common.pool.queue thread = pktData :: rest)
    (popped : whole.common.pool = state.whole.common.pool.popFrom thread pktData rest) :
    (state.began whole).pool = state.pool := by
  have grown : System.beginnings whole.common.log =
      System.beginnings state.whole.common.log ++ [(thread, pktData)] :=
    congrArg Pool.popped popped
  have calling : (state.began whole).calling =
      Function.update state.calling thread (some pktData) := by
    simp [began, grown]
  have dispatched : System.dispatches whole.common.log =
      System.dispatches state.whole.common.log := congrArg Pool.pushed popped
  refine Pool.ext (funext fun other => ?_) dispatched rfl
  have queue : whole.common.server.pendingAt other = _ :=
    congrFun (congrArg Pool.queue popped) other
  show ((state.began whole).calling other).toList ++ whole.common.server.pendingAt other = _
  rw [calling, queue, Pool.queue_popFrom]
  by_cases same : other = thread
  · subst same
    have before : state.pool.queue other = pktData :: rest := by
      simp only [pool, underWay, free, Option.toList_none, List.nil_append]
      exact queued
    simp [before]
  · simp [same, pool, underWay, System.pool]

/-- The loop thread's data handle was called with a packet it had just framed. -/
theorem pool_began_of_direct {pktData : PktData ℕ} (free : state.calling none = none)
    (handled : whole.common.pool =
      (state.whole.common.pool.pushTo none pktData).popFrom none pktData []) :
    (state.began whole).pool = state.pool.pushTo none pktData := by
  have grown : System.beginnings whole.common.log =
      System.beginnings state.whole.common.log ++ [(none, pktData)] :=
    congrArg Pool.popped handled
  have calling : (state.began whole).calling =
      Function.update state.calling none (some pktData) := by
    simp [began, grown]
  have dispatched : System.dispatches whole.common.log =
      System.dispatches state.whole.common.log ++ [(none, pktData)] :=
    congrArg Pool.pushed handled
  refine Pool.ext (funext fun other => ?_) dispatched rfl
  have queue : whole.common.server.pendingAt other = _ :=
    congrFun (congrArg Pool.queue handled) other
  show ((state.began whole).calling other).toList ++ whole.common.server.pendingAt other = _
  rw [calling, queue, Pool.queue_popFrom]
  cases other with
  | none => simp [pool, underWay, free, CommonServer.pendingAt]
  | some i => simp [pool, underWay, System.pool]

/-! ## What a step can do -/

/-- A step of the server by a thread that is in no data handle, or the end of a call. -/
theorem step_cases {label : Label} (taken : state.step label = some next) :
    (∃ move, label = .server move ∧ (∀ sClient pData, move ≠ .send sClient pData) ∧
        (∀ sClient, move ≠ .closeClient sClient) ∧ state.calling (threadOf move) = none ∧
        ∃ whole, state.whole.step move = some whole ∧ next = state.began whole) ∨
      ∃ thread pktData, label = .handle thread ∧ state.calling thread = some pktData ∧
        next = state.handled thread pktData := by
  have server : ∀ {move : WholeServer.Label}, (∀ sClient pData, move ≠ .send sClient pData) →
      (∀ sClient, move ≠ .closeClient sClient) →
      (if state.calling (threadOf move) = none then (state.whole.step move).map state.began
        else none) = some next →
      label = .server move → ∃ move, label = .server move ∧
        (∀ sClient pData, move ≠ .send sClient pData) ∧
        (∀ sClient, move ≠ .closeClient sClient) ∧ state.calling (threadOf move) = none ∧
        ∃ whole, state.whole.step move = some whole ∧ next = state.began whole := by
    intro move notSend notClose taken same
    obtain ⟨free, taken⟩ := Option.ite_none_right_eq_some.mp taken
    obtain ⟨whole, took, rfl⟩ := Option.map_eq_some_iff.mp taken
    exact ⟨move, same, notSend, notClose, free, whole, took, rfl⟩
  cases label with
  | server move =>
      cases move with
      | send sClient pData => cases taken
      | closeClient sClient => cases taken
      | stop i => cases taken
      | accept result now => exact Or.inl (server (by simp) (by simp) taken rfl)
      | ioFront conn revents nRead errno now => exact Or.inl (server (by simp) (by simp) taken rfl)
      | ioBack nWritten now => exact Or.inl (server (by simp) (by simp) taken rfl)
      | timer conn error errno now => exact Or.inl (server (by simp) (by simp) taken rfl)
      | asyncSwap => exact Or.inl (server (by simp) (by simp) taken rfl)
      | asyncExec => exact Or.inl (server (by simp) (by simp) taken rfl)
      | pass => exact Or.inl (server (by simp) (by simp) taken rfl)
      | handlePkt i => exact Or.inl (server (by simp) (by simp) taken rfl)
  | handle thread =>
      obtain ⟨pktData, here, rfl⟩ := Option.map_eq_some_iff.mp taken
      exact Or.inr ⟨thread, pktData, rfl, here, rfl⟩

/-- The server of the program was reached by a run of its own. -/
def Reached (nThreadNum nTimeout : Int32) (state : CommonEchoServer) : Prop :=
  ∃ moves, run WholeServer.step (WholeServer.start () nThreadNum nTimeout) moves =
    some state.whole ∧ ∀ sClient, .closeClient sClient ∉ moves

section Runs

variable {nThreadNum nTimeout : Int32} {sClient : SocketClientData} {label : Label}

theorem Reached.step (reached : state.Reached nThreadNum nTimeout)
    (taken : state.step label = some next) : next.Reached nThreadNum nTimeout := by
  obtain ⟨moves, runs, noClose⟩ := reached
  rcases step_cases taken with
    ⟨move, -, -, notClose, -, whole, took, rfl⟩ | ⟨thread, pktData, -, -, rfl⟩
  · refine ⟨moves ++ [move], run_concat_eq_some.mpr ⟨_, runs, took⟩, fun key member => ?_⟩
    rcases List.mem_append.mp member with member | member
    · exact noClose key member
    · exact notClose key (List.mem_singleton.mp member).symm
  · refine ⟨moves ++ [.send pktData.sClient pktData.bytes],
      run_concat_eq_some.mpr ⟨_, runs, WholeServer.step_send ..⟩, fun key member => ?_⟩
    exact noClose key ((List.mem_append.mp member).resolve_right (by simp))

/-- What holds of the server of the program. -/
theorem Reached.facts (reached : state.Reached nThreadNum nTimeout) (low : 0 ≤ nThreadNum)
    (high : nThreadNum ≤ CommonServer.maxThreadNum) :
    state.whole.Layered ∧ state.whole.common.Numbered ∧
      state.whole.common.server.Config nThreadNum ∧
      ∀ entry ∈ System.dispatches state.whole.common.log, entry.1 = none ∧ nThreadNum = 0 ∨
        ∃ i < nThreadNum.toInt.toNat, entry.1 = some i := by
  obtain ⟨moves, runs, noClose⟩ := reached
  have undisturbed := WholeServer.undisturbed_of_labels noClose
    (WholeServer.start () nThreadNum nTimeout)
  have layered := WholeServer.layered_of_run () undisturbed runs
  obtain ⟨labels, upper⟩ := WholeServer.common_of_run () undisturbed runs
  exact ⟨layered, (System.invariants_of_run () upper).1,
    run_invariant (fun _ _ _ config taken => System.config_step config taken) labels
      (System.config_start () low high) upper, System.thread_of_run () low high upper⟩

/-- The moves of the upper layer are made by the threads they are about. -/
theorem threadOf_own {move : WholeServer.Label} {own : ServerLib.Label}
    (mine : WholeServer.own move = some own) :
    (own = .pass → threadOf move = none) ∧ ∀ i, own = .handlePkt i → threadOf move = some i := by
  cases move with
  | pass =>
      cases mine
      exact ⟨fun _ => rfl, nofun⟩
  | handlePkt i =>
      cases mine
      exact ⟨nofun, fun j same => congrArg some (ServerLib.Label.handlePkt.inj same)⟩
  | stop i =>
      cases mine
      exact ⟨nofun, nofun⟩
  | _ => cases mine

/-- What was framed on a connection are packets in the bytes read on its socket. -/
theorem Reached.framed_front (reached : state.Reached nThreadNum nTimeout) (low : 0 ≤ nThreadNum)
    (high : nThreadNum ≤ CommonServer.maxThreadNum) (conn : ℕ) :
    System.framedFrom conn state.whole.common.log <+:
      (received [] (TcpServer.readOn conn state.whole.tcp.log)).pkts := by
  obtain ⟨moves, runs, noClose⟩ := reached
  have undisturbed := WholeServer.undisturbed_of_labels noClose
    (WholeServer.start () nThreadNum nTimeout)
  have layered := WholeServer.layered_of_run () undisturbed runs
  obtain ⟨labels, upper⟩ := WholeServer.common_of_run () undisturbed runs
  obtain ⟨numbered, framed, -⟩ := System.invariants_of_run () upper
  exact (layered.framesOfSocket numbered (framed conn)
    (System.dispatched_perm_of_run low high upper)).framed_front

/-- With at most one thread, every packet is given to the same one. -/
theorem Reached.single (reached : state.Reached nThreadNum nTimeout) (low : 0 ≤ nThreadNum)
    (few : nThreadNum ≤ 1) :
    ∃ thread, ∀ entry ∈ System.dispatches state.whole.common.log, entry.1 = thread := by
  obtain ⟨-, -, -, named⟩ := reached.facts low (Int32.le_trans few (by decide))
  have one : (1 : Int32).toInt = 1 := rfl
  rw [Int32.le_iff_toInt_le, one] at few
  by_cases direct : nThreadNum = 0
  · refine ⟨none, fun entry member => ?_⟩
    rcases named entry member with ⟨nowhere, -⟩ | ⟨i, below, -⟩
    · exact nowhere
    · rw [direct] at below
      cases below
  · refine ⟨some 0, fun entry member => ?_⟩
    rcases named entry member with ⟨-, none⟩ | ⟨i, below, same⟩
    · exact absurd none direct
    · rw [same, show i = 0 by omega]

/-- What a step of the server does to the packets: nothing, or a packet of the connection
the loop thread is at is given to a thread, and nothing else happens. -/
theorem packets_cases {move : WholeServer.Label} (layered : state.whole.Layered)
    (numbered : state.whole.common.Numbered)
    (config : state.whole.common.server.Config nThreadNum)
    (notSend : ∀ sClient pData, move ≠ .send sClient pData)
    (notClose : ∀ sClient, move ≠ .closeClient sClient)
    (free : state.calling (threadOf move) = none) (took : state.whole.step move = some whole) :
    ((state.began whole).pool = state.pool ∧
        Relation.ReflGen (TcpServer.Effect fun _ => True) state.whole.tcp whole.tcp ∧
        (∀ other pData, whole.tcp ≠ state.whole.tcp.send other pData) ∧
        ∀ {key conn}, whole.tcp.socketInfoManager.lookup key = some conn →
          state.whole.tcp.socketInfoManager.lookup key = some conn ∨
            ∃ now, move = .accept (.client key.IP key.Port key.Socket) now) ∨
      (∃ thread pktData, whole.tcp = state.whole.tcp ∧
        state.whole.common.live pktData.sClient = some pktData.origin ∧
        (state.began whole).pool = state.pool.pushTo thread pktData) := by
  have undisturbed : state.whole.Undisturbed move := by
    cases move with
    | closeClient sClient => exact absurd rfl (notClose sClient)
    | _ => trivial
  unfold WholeServer.step at took
  split at took
  · next own mine =>
      obtain ⟨common, taken, rfl⟩ := Option.map_eq_some_iff.mp took
      have noSend : ∀ other pData, state.whole.tcp ≠ state.whole.tcp.send other pData :=
        TcpServer.ne_send (Or.inl rfl)
      rcases System.pool_step_cases config taken with same |
        ⟨pktData, nDataLen, rfl, inside, -, pushed⟩ | ⟨i, pktData, rest, rfl, queued, popped⟩
      · exact Or.inl ⟨(pool_began_of_same same).1, .refl, noSend, Or.inl⟩
      · rw [(threadOf_own mine).1 rfl] at free
        rcases pushed with ⟨-, direct⟩ | ⟨-, pushed⟩
        · exact Or.inr ⟨none, pktData, rfl, numbered.adding_live inside,
            pool_began_of_direct free direct⟩
        · exact Or.inr ⟨_, pktData, rfl, numbered.adding_live inside,
            pool_began_of_push pushed⟩
      · rw [(threadOf_own mine).2 i rfl] at free
        exact Or.inl ⟨pool_began_of_pop free queued popped, .refl, noSend, Or.inl⟩
  · next foreign =>
      obtain ⟨⟨tcp, writing⟩, called, taken⟩ := Option.bind_eq_some_iff.mp took
      obtain ⟨common, answers, rfl⟩ := Option.map_eq_some_iff.mp taken
      obtain ⟨noSend, registered⟩ := WholeServer.callback_intake notSend called
      have effect : Relation.ReflGen (TcpServer.Effect fun _ => True) state.whole.tcp tcp := by
        rcases WholeServer.callback_cases layered.owned undisturbed called with
          ⟨-, rfl | ⟨other, pData, rfl⟩⟩ | ⟨-, effect, -⟩
        · exact .refl
        · exact .single (.submitted other pData)
        · exact effect
      have same : common.pool = state.whole.common.pool :=
        WholeServer.pool_calls config (layered.upward effect).2 answers
      exact Or.inl ⟨(pool_began_of_same same).1, effect, TcpServer.ne_send noSend, registered⟩

/-! ## What comes back -/

/-- What the packets under way and the packets answered say about the key. -/
structure Echoing (sClient : SocketClientData) (state : CommonEchoServer) : Prop where
  kept : state.whole.tcp.Kept sClient
  conserved : state.pool.Conserved
  /-- A packet belongs to the connection that had its key when it was framed. -/
  keyed : ∀ entry ∈ state.pool.pushed, entry.2.origin < state.whole.tcp.nextConn ∧
    ∀ key, state.whole.tcp.socketInfoManager.lookup key = some entry.2.origin →
      key = entry.2.sClient
  /-- What is under way for the key belongs to the connection that has the key. -/
  own : ∀ thread, ∀ pktData ∈ state.pool.queue thread, pktData.sClient = sClient →
    ∀ conn, state.whole.tcp.socketInfoManager.lookup sClient = some conn → pktData.origin = conn
  /-- What was submitted for the key is what was answered for its connection. -/
  echoed : ∀ {conn}, state.whole.tcp.socketInfoManager.lookup sClient = some conn →
    submittedSince sClient state.whole.tcp.history =
      ((ofClass (System.fromConn conn) state.answered).map PktData.bytes).flatten

theorem echoing_start (sClient : SocketClientData) (nThreadNum nTimeout : Int32) :
    Echoing sClient (start nThreadNum nTimeout) := by
  have empty : (start nThreadNum nTimeout).pool = Pool.empty := by
    refine Eq.trans (Pool.ext (funext fun thread => ?_) rfl rfl)
      (System.pool_start () nThreadNum)
    rfl
  refine ⟨TcpServer.kept_new sClient nTimeout, empty ▸ Pool.conserved_empty, ?_, ?_, ?_⟩
  · intro entry member
    rw [empty] at member
    cases member
  · intro thread pktData member
    rw [empty] at member
    cases member
  · intro conn registered
    simp [start, WholeServer.start, TcpServer.new] at registered

/-- Packets that are under way were framed. -/
theorem Echoing.framed (echoing : Echoing sClient state) {thread : Option ℕ}
    {pktData : PktData ℕ} (member : pktData ∈ state.pool.queue thread) :
    (thread, pktData) ∈ state.pool.pushed := by
  rw [← mem_itemsAt, ← echoing.conserved thread]
  exact List.mem_append_right _ member

/-- Packets that were answered were framed. -/
theorem Echoing.answered_framed (echoing : Echoing sClient state)
    {entry : Option ℕ × PktData ℕ} (member : entry ∈ state.answered) :
    entry ∈ state.pool.pushed := by
  rw [← Prod.mk.eta (p := entry), ← mem_itemsAt, ← echoing.conserved entry.1]
  exact List.mem_append_left _ (mem_itemsAt.mpr member)

/-- The data handle of a thread gave its packet to `Send`. -/
theorem Echoing.handle (echoing : Echoing sClient state) {thread : Option ℕ}
    {pktData : PktData ℕ} (here : state.calling thread = some pktData) :
    Echoing sClient (state.handled thread pktData) := by
  have front : state.pool.queue thread =
      pktData :: state.whole.common.server.pendingAt thread := by
    simp [pool, underWay, here]
  have popped : (state.handled thread pktData).pool =
      state.pool.popFrom thread pktData (state.whole.common.server.pendingAt thread) := by
    refine Pool.ext (funext fun other => ?_) rfl rfl
    rw [Pool.queue_popFrom]
    by_cases same : other = thread
    · simp [pool, underWay, handled, same]
    · simp [pool, underWay, handled, same]
  refine ⟨echoing.kept.send _ _, ?_, ?_, ?_, fun {conn} registered => ?_⟩
  · rw [popped]
    exact echoing.conserved.step (Pool.step_pop front)
  · rw [popped]
    exact echoing.keyed
  · rw [popped]
    intro other pktData' member
    rw [Pool.queue_popFrom] at member
    split at member
    · next same => exact echoing.own thread pktData' (front ▸ List.mem_cons_of_mem _ member)
    · exact echoing.own other pktData' member
  · have known : state.whole.tcp.socketInfoManager.lookup sClient = some conn := registered
    have mine := echoing.framed (front ▸ List.mem_cons_self : pktData ∈ state.pool.queue thread)
    have log : (state.whole.tcp.send pktData.sClient pktData.bytes).log =
        state.whole.tcp.log ++ [.sent pktData.sClient pktData.bytes] := rfl
    show submittedSince sClient (state.whole.tcp.send _ _).history = _
    have answered : (state.handled thread pktData).answered =
        state.answered ++ [(thread, pktData)] := rfl
    rw [TcpServer.history_of_grown log, submittedSince_append, echoing.echoed known, answered,
      ofClass_concat]
    by_cases own : pktData.sClient = sClient
    · -- a packet under way for the key is one of the connection's
      have same := echoing.own thread pktData (front ▸ List.mem_cons_self) own conn known
      simp [TcpServer.keyEvent, submittedStep, System.fromConn, own, same]
    · have apart : pktData.origin ≠ conn := by
        rintro rfl
        exact own ((echoing.keyed _ mine).2 sClient known).symm
      simp [TcpServer.keyEvent, submittedStep, System.fromConn, own, apart]

/-- A packet of a registered connection was given to a thread. -/
theorem Echoing.push (echoing : Echoing sClient state) (layered : state.whole.Layered)
    (numbered : state.whole.common.Numbered) {thread : Option ℕ} {pktData : PktData ℕ}
    (sameTcp : whole.tcp = state.whole.tcp)
    (registered : state.whole.common.live pktData.sClient = some pktData.origin)
    (pushed : (state.began whole).pool = state.pool.pushTo thread pktData) :
    Echoing sClient (state.began whole) := by
  have known : state.whole.tcp.socketInfoManager.lookup pktData.sClient = some pktData.origin := by
    rw [← layered.live_eq, registered]
  have tcp : (state.began whole).whole.tcp = state.whole.tcp := sameTcp
  refine ⟨tcp ▸ echoing.kept, ?_, ?_, ?_, ?_⟩
  · have taken : state.pool.step (.push thread pktData) =
        some (state.pool.pushTo thread pktData) := rfl
    rw [pushed]
    exact echoing.conserved.step taken
  · rw [pushed, tcp]
    intro entry member
    rcases List.mem_append.mp member with member | member
    · exact echoing.keyed entry member
    · obtain rfl := List.mem_singleton.mp member
      refine ⟨layered.nextConn_eq ▸ numbered.live_lt registered, fun key registered' => ?_⟩
      rw [← layered.live_eq] at registered'
      exact numbered.live_inj registered' registered
  · rw [pushed, tcp]
    intro other pktData' member own conn registered'
    rw [Pool.queue_pushTo] at member
    split at member
    · rcases List.mem_append.mp member with member | member
      · exact echoing.own thread pktData' member own conn registered'
      · obtain rfl := List.mem_singleton.mp member
        rw [← own, known, Option.some_inj] at registered'
        exact registered'
    · exact echoing.own other pktData' member own conn registered'
  · rw [tcp]
    exact echoing.echoed

/-- A callback of the TCP server, which is no call of `Send`. -/
theorem Echoing.callback (echoing : Echoing sClient state)
    (same : (state.began whole).pool = state.pool)
    (effect : Relation.ReflGen (TcpServer.Effect fun _ => True) state.whole.tcp whole.tcp)
    (notSend : ∀ other pData, whole.tcp ≠ state.whole.tcp.send other pData)
    (fresh : state.whole.tcp.socketInfoManager.lookup sClient = none →
      whole.tcp.socketInfoManager.lookup sClient ≠ none →
      outputFor sClient state.whole.tcp.pending = [] ∧
        ∀ thread, ∀ pktData ∈ state.pool.queue thread, pktData.sClient ≠ sClient) :
    Echoing sClient (state.began whole) := by
  obtain ⟨kept, upward⟩ : whole.tcp.Kept sClient ∧
      TcpServer.Upward state.whole.tcp whole.tcp := by
    generalize whole.tcp = tcp at effect fresh ⊢
    cases effect with
    | refl => exact ⟨echoing.kept, .quiet (TcpServer.calls_self _) rfl rfl (fun _ => rfl)
        fun _ => rfl⟩
    | single effect =>
        exact ⟨echoing.kept.effect effect fun unknown known => (fresh unknown known).1,
          effect.upward echoing.kept.owned⟩
  have conserved : (state.began whole).pool.Conserved := same ▸ echoing.conserved
  -- where no key was registered, the entries are old ones
  have shrunk : whole.tcp.nextConn = state.whole.tcp.nextConn →
      (∀ key conn, whole.tcp.socketInfoManager.lookup key = some conn →
        state.whole.tcp.socketInfoManager.lookup key = some conn) →
      submittedSince sClient whole.tcp.history = submittedSince sClient state.whole.tcp.history →
      Echoing sClient (state.began whole) := by
    intro sameNext old sameSubmitted
    refine ⟨kept, conserved, ?_, ?_, fun {conn} registered => ?_⟩
    · rw [same]
      intro entry member
      obtain ⟨small, mine⟩ := echoing.keyed entry member
      exact ⟨sameNext.symm ▸ small, fun key registered => mine key (old key _ registered)⟩
    · rw [same]
      exact fun thread pktData member own conn registered =>
        echoing.own thread pktData member own conn (old sClient conn registered)
    · show submittedSince sClient whole.tcp.history = _
      rw [sameSubmitted]
      exact echoing.echoed (old sClient conn registered)
  cases upward with
  | submitted other pData sent => exact absurd sent (notSend other pData)
  | quiet none sameLookup sameNext sameRead sameSubmitted =>
      exact shrunk sameNext (fun key conn registered => sameLookup ▸ registered)
        (sameSubmitted sClient)
  | terminated key conn nErrorCode one registered gone sameNext sameRead sameSubmitted =>
      refine shrunk sameNext (fun other conn' registered' => ?_) (sameSubmitted sClient)
      rw [gone] at registered'
      exact ((update_eq_some_iff.mp registered').resolve_left fun ended => nomatch ended.2).2
  | dataReceived key conn pData one registered sameLookup sameNext read sameSubmitted =>
      exact shrunk sameNext (fun key conn registered => sameLookup ▸ registered)
        (sameSubmitted sClient)
  | connected key one unknown grown nextConn sameRead submitted =>
      have old : ∀ {other conn}, whole.tcp.socketInfoManager.lookup other = some conn →
          other = key ∧ conn = state.whole.tcp.nextConn ∨
            other ≠ key ∧ state.whole.tcp.socketInfoManager.lookup other = some conn := by
        intro other conn registered
        rw [grown] at registered
        exact (update_eq_some_iff.mp registered).imp
          (fun mine => ⟨mine.1, (Option.some.inj mine.2).symm⟩) id
      have small : ∀ entry ∈ state.pool.pushed, entry.2.origin < state.whole.tcp.nextConn :=
        fun entry member => (echoing.keyed entry member).1
      refine ⟨kept, conserved, ?_, ?_, fun {conn} registered => ?_⟩
      · rw [same]
        intro entry member
        obtain ⟨below, mine⟩ := echoing.keyed entry member
        refine ⟨?_, fun other registered => ?_⟩
        · show _ < whole.tcp.nextConn
          rw [nextConn]
          exact Nat.lt_succ_of_lt below
        · rcases old registered with ⟨-, new⟩ | ⟨-, registered⟩
          · exact absurd new (Nat.ne_of_lt below)
          · exact mine other registered
      · rw [same]
        intro thread pktData member own conn registered
        rcases old registered with ⟨rfl, -⟩ | ⟨-, registered⟩
        · -- the key was accepted, so nothing of it is under way
          have known : whole.tcp.socketInfoManager.lookup sClient ≠ none := by
            rw [show whole.tcp.socketInfoManager.lookup sClient = some conn from registered]
            exact Option.some_ne_none _
          exact absurd own ((fresh unknown known).2 thread pktData member)
        · exact echoing.own thread pktData member own conn registered
      · show submittedSince sClient whole.tcp.history = _
        rw [submitted]
        rcases old registered with ⟨rfl, rfl⟩ | ⟨apart, registered⟩
        · -- a new connection, of which nothing was answered
          have none : ofClass (System.fromConn state.whole.tcp.nextConn) state.answered = [] := by
            refine List.filter_eq_nil_iff.mpr fun pktData member => ?_
            obtain ⟨entry, answered, rfl⟩ := List.mem_map.mp member
            have below := small entry (echoing.answered_framed answered)
            simpa [System.fromConn] using Nat.ne_of_lt below
          rw [if_pos rfl]
          show [] = ((ofClass (System.fromConn state.whole.tcp.nextConn) state.answered).map
            PktData.bytes).flatten
          rw [none]
          rfl
        · rw [if_neg (Ne.symm apart)]
          exact echoing.echoed registered

/-- **What the packets say about the key survives every step.** -/
theorem Echoing.step (echoing : Echoing sClient state)
    (reached : state.Reached nThreadNum nTimeout) (low : 0 ≤ nThreadNum)
    (high : nThreadNum ≤ CommonServer.maxThreadNum) (freshKey : state.FreshKey sClient label)
    (taken : state.step label = some next) : Echoing sClient next := by
  obtain ⟨layered, numbered, config, named⟩ := reached.facts low high
  rcases step_cases taken with
    ⟨move, rfl, notSend, notClose, free, whole, took, rfl⟩ | ⟨thread, pktData, rfl, here, rfl⟩
  · rcases packets_cases layered numbered config notSend notClose free took with
      ⟨same, effect, noSend, registered⟩ | ⟨thread, pktData, sameTcp, registered, pushed⟩
    · refine echoing.callback same effect noSend fun unknown known => ?_
      obtain ⟨conn, known⟩ := Option.ne_none_iff_exists'.mp known
      rcases registered known with old | ⟨now, rfl⟩
      · rw [old] at unknown
        cases unknown
      · obtain ⟨waiting, packets⟩ := freshKey rfl
        refine ⟨outputFor_eq_nil fun entry member => ?_, fun thread pktData member => ?_⟩
        · obtain ⟨output, waits, rfl⟩ := List.mem_map.mp member
          exact waiting output waits
        · cases thread with
          | none =>
              -- the loop thread, which accepts, is in no data handle
              have idle : state.calling none = none := free
              have empty : state.pool.queue none = [] := by
                simp [pool, underWay, idle, CommonServer.pendingAt]
              rw [empty] at member
              cases member
          | some i =>
              rcases named _ (echoing.framed member) with ⟨nowhere, -⟩ | ⟨j, below, same⟩
              · cases nowhere
              · cases same
                exact packets i (config.threads_length ▸ below) pktData member
    · exact echoing.push layered numbered sameTcp registered pushed
  · exact echoing.handle here

/-- What comes back to the connection `conn`, which has the key. -/
structure Echo (sClient : SocketClientData) (conn : ℕ) (state : CommonEchoServer) : Prop where
  /-- Written, unsent and waiting, in this order: the packets answered for the connection,
  in the order of the calls of `Send`. -/
  account : ∃ connection, state.whole.tcp.heap conn = some connection ∧
    connection.socketClient = sClient ∧
    writtenOn conn state.whole.tcp.history ++ unsent connection.writeQueue ++
      outputFor sClient state.whole.tcp.pending =
        ((ofClass (System.fromConn conn) state.answered).map PktData.bytes).flatten
  /-- A packet that is answered was framed on the connection, and is answered once. -/
  once : (ofClass (System.fromConn conn) state.answered).Subperm
    (ofClass (System.fromConn conn) (System.dispatches state.whole.common.log))
  /-- What was framed are packets in the bytes read on the connection's socket. -/
  framed_front : System.framedFrom conn state.whole.common.log <+:
    (received [] (TcpServer.readOn conn state.whole.tcp.log)).pkts

variable {labels : List Label} {last : CommonEchoServer} {conn : ℕ}

/-- What holds along a run in which the key is accepted only where it is fresh. -/
theorem echoing_of_run (low : 0 ≤ nThreadNum) (high : nThreadNum ≤ CommonServer.maxThreadNum)
    (fresh : Along CommonEchoServer.step (FreshKey sClient) (start nThreadNum nTimeout) labels)
    (runs : run CommonEchoServer.step (start nThreadNum nTimeout) labels = some last) :
    last.Reached nThreadNum nTimeout ∧ Echoing sClient last :=
  run_invariant_along (I := fun state => state.Reached nThreadNum nTimeout ∧ Echoing sClient state)
    (fun _ _ _ holds fresh taken =>
      ⟨holds.1.step taken, holds.2.step holds.1 low high fresh taken⟩)
    labels ⟨⟨[], rfl, fun _ => List.not_mem_nil⟩, echoing_start sClient nThreadNum nTimeout⟩
    fresh runs

/-- **Every packet comes back to the client that sent it, at most once.**  For every thread
number and every interleaving in which the key is accepted only where nothing of it is under
way: what is on its way back to the connection registered under the key are the packets
answered for it, each of which is a packet in the bytes read on its socket. -/
theorem packet_echo_of_run (low : 0 ≤ nThreadNum) (high : nThreadNum ≤ CommonServer.maxThreadNum)
    (sClient : SocketClientData)
    (fresh : Along CommonEchoServer.step (FreshKey sClient) (start nThreadNum nTimeout) labels)
    (runs : run CommonEchoServer.step (start nThreadNum nTimeout) labels = some last)
    (registered : last.whole.tcp.socketInfoManager.lookup sClient = some conn) :
    last.Echo sClient conn := by
  obtain ⟨reached, echoing⟩ := echoing_of_run low high fresh runs
  obtain ⟨connection, alive, sameKey, account⟩ := echoing.kept.account registered
  exact ⟨⟨connection, alive, sameKey, account.trans (echoing.echoed registered)⟩,
    (Pool.popped_subperm echoing.conserved).filter _, reached.framed_front low high conn⟩

/-- Two clients and two threads.  The first client's packets are answered in the wrong
order; the first answer is being written while the second client's packet is under way. -/
theorem packet_echo_of_run_two_threads :
    ∃ last, run CommonEchoServer.step (start 2 600) [.server (.accept (.client 1 2 5) 0),
        .server (.accept (.client 3 4 6) 0),
        .server (.ioFront 0 ⟨false, true, false⟩ (.data [1, 0, 0, 0, 7, 1, 0, 0, 0, 8]) 0 0),
        .server .pass, .server .pass, .server .pass,
        .server (.handlePkt 1), .server (.handlePkt 1), .server (.handlePkt 1),
        .server (.handlePkt 1), .server (.handlePkt 1), .server (.handlePkt 1), .handle (some 1),
        .server (.ioFront 1 ⟨false, true, false⟩ (.data [1, 0, 0, 0, 9]) 0 0), .server .pass,
        .server .pass, .server .asyncSwap, .server .asyncExec,
        .server (.ioFront 0 ⟨false, false, true⟩ .again 0 0),
        .server (.ioBack (.wrote 3) 0)] = some last ∧ last.Echo ⟨1, 2, 5⟩ 0 := by
  obtain ⟨last, runs, registered⟩ : ∃ last, run CommonEchoServer.step (start 2 600)
      [.server (.accept (.client 1 2 5) 0), .server (.accept (.client 3 4 6) 0),
        .server (.ioFront 0 ⟨false, true, false⟩ (.data [1, 0, 0, 0, 7, 1, 0, 0, 0, 8]) 0 0),
        .server .pass, .server .pass, .server .pass,
        .server (.handlePkt 1), .server (.handlePkt 1), .server (.handlePkt 1),
        .server (.handlePkt 1), .server (.handlePkt 1), .server (.handlePkt 1), .handle (some 1),
        .server (.ioFront 1 ⟨false, true, false⟩ (.data [1, 0, 0, 0, 9]) 0 0), .server .pass,
        .server .pass, .server .asyncSwap, .server .asyncExec,
        .server (.ioFront 0 ⟨false, false, true⟩ .again 0 0),
        .server (.ioBack (.wrote 3) 0)] = some last ∧
      last.whole.tcp.socketInfoManager.lookup ⟨1, 2, 5⟩ = some 0 := ⟨_, rfl, by decide +kernel⟩
  exact ⟨last, runs, packet_echo_of_run (by decide) (by decide) ⟨1, 2, 5⟩ (by decide +kernel) runs
    registered⟩

/-- **With at most one thread the packets come back in order.**  The bytes on their way back
to the connection are the front of the packets in the bytes read on its socket. -/
theorem echo_in_order (low : 0 ≤ nThreadNum) (few : nThreadNum ≤ 1) (sClient : SocketClientData)
    (fresh : Along CommonEchoServer.step (FreshKey sClient) (start nThreadNum nTimeout) labels)
    (runs : run CommonEchoServer.step (start nThreadNum nTimeout) labels = some last)
    (registered : last.whole.tcp.socketInfoManager.lookup sClient = some conn) :
    ∃ connection, last.whole.tcp.heap conn = some connection ∧
      connection.socketClient = sClient ∧
      writtenOn conn last.whole.tcp.history ++ unsent connection.writeQueue ++
          outputFor sClient last.whole.tcp.pending <+:
        (received [] (TcpServer.readOn conn last.whole.tcp.log)).pkts.flatten := by
  have high : nThreadNum ≤ CommonServer.maxThreadNum := Int32.le_trans few (by decide)
  obtain ⟨reached, echoing⟩ := echoing_of_run low high fresh runs
  obtain ⟨connection, alive, sameKey, account⟩ := echoing.kept.account registered
  refine ⟨connection, alive, sameKey, ?_⟩
  rw [account, echoing.echoed registered]
  obtain ⟨thread, single⟩ := reached.single low few
  have inOrder : last.answered.map Prod.snd <+:
      (System.dispatches last.whole.common.log).map Prod.snd :=
    Pool.popped_prefix_of_single echoing.conserved single
  have framed : (ofClass (System.fromConn conn) last.answered).map PktData.bytes <+:
      (received [] (TcpServer.readOn conn last.whole.tcp.log)).pkts :=
    ((inOrder.filter _).map _).trans (reached.framed_front low high conn)
  exact framed.flatten

/-- One thread, which is at the second packet of a client when the first is on its way
back. -/
theorem echo_in_order_one_thread :
    ∃ last connection, run CommonEchoServer.step (start 1 600)
        [.server (.accept (.client 1 2 5) 0),
        .server (.ioFront 0 ⟨false, true, false⟩ (.data [1, 0, 0, 0, 7, 1, 0, 0, 0, 8]) 0 0),
        .server .pass, .server .pass, .server .pass,
        .server (.handlePkt 0), .server (.handlePkt 0), .server (.handlePkt 0),
        .server (.handlePkt 0), .server (.handlePkt 0), .server (.handlePkt 0), .handle (some 0),
        .server .asyncSwap, .server (.handlePkt 0), .server (.handlePkt 0), .server .asyncExec,
        .server (.handlePkt 0)] = some last ∧
      last.whole.tcp.heap 0 = some connection ∧ connection.socketClient = ⟨1, 2, 5⟩ ∧
      writtenOn 0 last.whole.tcp.history ++ unsent connection.writeQueue ++
          outputFor ⟨1, 2, 5⟩ last.whole.tcp.pending <+:
        (received [] (TcpServer.readOn 0 last.whole.tcp.log)).pkts.flatten := by
  obtain ⟨last, runs, registered⟩ : ∃ last, run CommonEchoServer.step (start 1 600)
      [.server (.accept (.client 1 2 5) 0),
        .server (.ioFront 0 ⟨false, true, false⟩ (.data [1, 0, 0, 0, 7, 1, 0, 0, 0, 8]) 0 0),
        .server .pass, .server .pass, .server .pass,
        .server (.handlePkt 0), .server (.handlePkt 0), .server (.handlePkt 0),
        .server (.handlePkt 0), .server (.handlePkt 0), .server (.handlePkt 0), .handle (some 0),
        .server .asyncSwap, .server (.handlePkt 0), .server (.handlePkt 0), .server .asyncExec,
        .server (.handlePkt 0)] = some last ∧
      last.whole.tcp.socketInfoManager.lookup ⟨1, 2, 5⟩ = some 0 := ⟨_, rfl, by decide +kernel⟩
  obtain ⟨connection, alive, sameKey, inOrder⟩ :=
    echo_in_order (by decide) (by decide) ⟨1, 2, 5⟩ (by decide +kernel) runs registered
  exact ⟨last, connection, runs, alive, sameKey, inOrder⟩

end Runs

end CommonEchoServer

end ServerLib
