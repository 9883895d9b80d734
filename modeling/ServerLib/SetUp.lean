import ServerLib.Dispatch

/-!
# Set-up: which data handle a packet reaches

Before `Start` a `CCommonServer` (commonserver.cpp) is set up with `SetDataHandle` and
`SetThreadNum`.  `ICommonServer` asks for no order of the two, and either can be called
again.  `setUp` is the server behind any list of such calls.

There are two ways to the data handle.  The loop thread reads `m_pDataHandle` when it
makes a call: for `OnClientConnected`, `OnClientDisconnected`, and in `__HandlePkt` for
`OnClientDataReceived` where there are no threads.  A packet thread calls the handle that
`Init` was given, and that is the value `m_pDataHandle` had in the call of `SetThreadNum`
that started it.  So the handle of the last `SetDataHandle` gets the connections
(`lastHandle`), and what gets the packets is the last handle set before the last
`SetThreadNum` that started threads (`beforeThreads`).  Where none was set there, the
threads call a pointer that has no value.

`deliversTo_iff` says when the two are the same, and when two orders of the same calls
lead to the same handle.  One order that works is that of tcpcommonechoserver.cpp,
`SetDataHandle` first; `System.start` is that order.

A packet thread runs from the moment `SetThreadNum` has started it.  Until `Start` its
queue is empty, and what it does with an empty queue commutes with the calls of the
set-up, so a run may have these actions first thing behind `started`.  Threads that a
later `SetThreadNum` replaces keep running, but nothing is ever put in their queues.
-/

namespace ServerLib

open Transition FifoPool

/-- A call that sets a server up. -/
inductive SetUpCall (H : Type) where
  | setDataHandle (pDataHandle : H)
  | setThreadNum (nThreadNum : Int32)
  deriving DecidableEq, Repr

namespace SetUpCall

variable {H : Type}

/-- The call starts packet threads: it is a `SetThreadNum` with a number in range. -/
def startsThreads : SetUpCall H → Bool
  | .setDataHandle _ => false
  | .setThreadNum nThreadNum => decide (0 < nThreadNum ∧ nThreadNum ≤ CommonServer.maxThreadNum)

/-- The arguments of the calls of `SetDataHandle`, in order. -/
def dataHandles (calls : List (SetUpCall H)) : List H :=
  calls.filterMap fun
    | .setDataHandle pDataHandle => some pDataHandle
    | .setThreadNum _ => none

/-- The arguments of the calls of `SetThreadNum`, in order. -/
def threadNums (calls : List (SetUpCall H)) : List Int32 :=
  calls.filterMap fun
    | .setDataHandle _ => none
    | .setThreadNum nThreadNum => some nThreadNum

/-- The calls are the same, and those of each kind come in the same order. -/
def SameButOrder (calls calls' : List (SetUpCall H)) : Prop :=
  dataHandles calls = dataHandles calls' ∧ threadNums calls = threadNums calls'

/-- The data handle of the last `SetDataHandle`. -/
def lastHandle (calls : List (SetUpCall H)) : Option H := (dataHandles calls).getLast?

/-- The calls before the last one that starts packet threads; `none` where no call
does. -/
def beforeThreads : List (SetUpCall H) → Option (List (SetUpCall H))
  | [] => none
  | call :: rest =>
      match beforeThreads rest with
      | some front => some (call :: front)
      | none => if call.startsThreads then some [] else none

example : beforeThreads [.setDataHandle 1, .setThreadNum 4, .setThreadNum 65, .setDataHandle 2] =
    some [.setDataHandle 1] := by decide

/-- The data handle set when the last packet threads were started, or set last where none
were. -/
def deliveryHandle (calls : List (SetUpCall H)) : Option H :=
  lastHandle ((beforeThreads calls).getD calls)

@[simp] theorem lastHandle_setDataHandle (calls : List (SetUpCall H)) (pDataHandle : H) :
    lastHandle (calls ++ [.setDataHandle pDataHandle]) = some pDataHandle := by
  simp [lastHandle, dataHandles]

@[simp] theorem lastHandle_setThreadNum (calls : List (SetUpCall H)) (nThreadNum : Int32) :
    lastHandle (calls ++ [.setThreadNum nThreadNum]) = lastHandle calls := by
  simp [lastHandle, dataHandles]

theorem beforeThreads_concat (calls : List (SetUpCall H)) (call : SetUpCall H) :
    beforeThreads (calls ++ [call]) =
      if call.startsThreads then some calls else beforeThreads calls := by
  induction calls with
  | nil => rfl
  | cons first rest ih =>
      rw [List.cons_append, beforeThreads, ih]
      cases call.startsThreads with
      | true => rfl
      | false => rfl

theorem beforeThreads_setDataHandle (calls : List (SetUpCall H)) (pDataHandle : H) :
    beforeThreads (calls ++ [.setDataHandle pDataHandle]) = beforeThreads calls :=
  beforeThreads_concat calls _

theorem beforeThreads_in_range (calls : List (SetUpCall H)) {nThreadNum : Int32}
    (starts : 0 < nThreadNum ∧ nThreadNum ≤ CommonServer.maxThreadNum) :
    beforeThreads (calls ++ [.setThreadNum nThreadNum]) = some calls :=
  (beforeThreads_concat calls _).trans (if_pos (decide_eq_true starts))

theorem beforeThreads_out_of_range (calls : List (SetUpCall H)) {nThreadNum : Int32}
    (outside : ¬ (0 < nThreadNum ∧ nThreadNum ≤ CommonServer.maxThreadNum)) :
    beforeThreads (calls ++ [.setThreadNum nThreadNum]) = beforeThreads calls :=
  (beforeThreads_concat calls _).trans (if_neg fun starts => outside (of_decide_eq_true starts))

theorem deliveryHandle_of_none {calls : List (SetUpCall H)} (direct : beforeThreads calls = none) :
    deliveryHandle calls = lastHandle calls := by
  rw [deliveryHandle, direct, Option.getD_none]

theorem deliveryHandle_of_some {calls front : List (SetUpCall H)}
    (threaded : beforeThreads calls = some front) : deliveryHandle calls = lastHandle front := by
  rw [deliveryHandle, threaded, Option.getD_some]

/-- Whether threads are started does not depend on the order. -/
theorem beforeThreads_eq_none_iff {calls : List (SetUpCall H)} :
    beforeThreads calls = none ↔ ∀ nThreadNum ∈ threadNums calls,
      ¬ (0 < nThreadNum ∧ nThreadNum ≤ CommonServer.maxThreadNum) := by
  induction calls using List.reverseRecOn with
  | nil => simp [beforeThreads, threadNums]
  | append_singleton calls call ih =>
      cases call with
      | setDataHandle pDataHandle =>
          have same : threadNums (calls ++ [.setDataHandle pDataHandle]) = threadNums calls := by
            simp [threadNums]
          rw [beforeThreads_setDataHandle, same]
          exact ih
      | setThreadNum nThreadNum =>
          have more : threadNums (calls ++ [.setThreadNum nThreadNum]) =
              threadNums calls ++ [nThreadNum] := by simp [threadNums]
          rw [more, List.forall_mem_append, List.forall_mem_singleton]
          by_cases starts : 0 < nThreadNum ∧ nThreadNum ≤ CommonServer.maxThreadNum
          · rw [beforeThreads_in_range calls starts]
            exact iff_of_false nofun fun none => none.2 starts
          · rw [beforeThreads_out_of_range calls starts, ih]
            exact (and_iff_left starts).symm

/-- Two orders of the same calls lead to one handle if they do where threads are
started. -/
theorem deliveryHandle_agree_iff {calls calls' : List (SetUpCall H)} {pDataHandle : H}
    (given : lastHandle calls = some pDataHandle) (same : SameButOrder calls calls') :
    (∃ handle, deliveryHandle calls = some handle ∧ deliveryHandle calls' = some handle) ↔
      ∀ front ∈ beforeThreads calls, ∀ front' ∈ beforeThreads calls',
        ∃ handle, lastHandle front = some handle ∧ lastHandle front' = some handle := by
  have together : beforeThreads calls = none ↔ beforeThreads calls' = none := by
    rw [beforeThreads_eq_none_iff, beforeThreads_eq_none_iff, same.2]
  cases threads : beforeThreads calls with
  | none =>
      have threads' := together.mp threads
      have last : lastHandle calls = lastHandle calls' := congrArg List.getLast? same.1
      rw [deliveryHandle_of_none threads, deliveryHandle_of_none threads']
      exact iff_of_true ⟨pDataHandle, given, last ▸ given⟩ nofun
  | some front =>
      obtain ⟨front', threads'⟩ := Option.ne_none_iff_exists'.mp
        (fun none => Option.some_ne_none front (threads.symm.trans (together.mpr none)))
      rw [deliveryHandle_of_some threads, deliveryHandle_of_some threads', threads']
      simp

end SetUpCall

namespace CommonServer

open SetUpCall

variable {H τ : Type}

/-- One call of the set-up. -/
def setUpCall (server : CommonServer H τ) : SetUpCall H → CommonServer H τ
  | .setDataHandle pDataHandle => server.setDataHandle pDataHandle
  | .setThreadNum nThreadNum => server.setThreadNum nThreadNum

/-- The server behind these calls. -/
def setUp (calls : List (SetUpCall H)) : CommonServer H τ := calls.foldl setUpCall new

theorem setUp_concat (calls : List (SetUpCall H)) (call : SetUpCall H) :
    (setUp (calls ++ [call]) : CommonServer H τ) = (setUp calls).setUpCall call :=
  List.foldl_append

/-- A server before its first client, with threads that all have the same handle. -/
def ready (pDataHandle threadHandle : Option H) (nThreadNum : Int32) : CommonServer H τ where
  pDataHandle := pDataHandle
  nThreadNum := nThreadNum
  nCount := 0
  threads := List.replicate nThreadNum.toInt.toNat (PktHandleThread.init threadHandle)
  contents := ∅

/-- **What the set-up leaves behind**: no threads, or threads with the handle of the moment
they were started. -/
theorem setUp_eq (calls : List (SetUpCall H)) :
    ∃ nThreadNum, (setUp calls : CommonServer H τ) =
        ready (lastHandle calls) (deliveryHandle calls) nThreadNum ∧
      (beforeThreads calls = none ∧ nThreadNum = 0 ∨
        beforeThreads calls ≠ none ∧ 0 < nThreadNum) := by
  induction calls using List.reverseRecOn with
  | nil => exact ⟨0, rfl, Or.inl ⟨rfl, rfl⟩⟩
  | append_singleton calls call ih =>
      obtain ⟨before, same, count⟩ := ih
      rw [setUp_concat, same]
      cases call with
      | setDataHandle pDataHandle =>
          have unchanged := beforeThreads_setDataHandle calls pDataHandle
          rw [lastHandle_setDataHandle, unchanged]
          refine ⟨before, ?_, count⟩
          rcases count with ⟨direct, rfl⟩ | ⟨threaded, -⟩
          · -- no thread has copied a handle
            rfl
          · obtain ⟨front, started⟩ := Option.ne_none_iff_exists'.mp threaded
            rw [deliveryHandle_of_some started, deliveryHandle_of_some (unchanged.trans started)]
            rfl
      | setThreadNum nThreadNum =>
          rw [lastHandle_setThreadNum]
          by_cases starts : 0 < nThreadNum ∧ nThreadNum ≤ maxThreadNum
          · have now := beforeThreads_in_range calls starts
            rw [deliveryHandle_of_some now, now]
            refine ⟨nThreadNum, if_neg fun outside => ?_, Or.inr ⟨nofun, starts.1⟩⟩
            rcases outside with low | high
            · exact Int32.not_le.mpr starts.1 low
            · exact Int32.not_lt.mpr starts.2 high
          · have unchanged := beforeThreads_out_of_range calls starts
            have outside : nThreadNum ≤ 0 ∨ nThreadNum > maxThreadNum := by
              rw [not_and_or, Int32.not_lt, Int32.not_le] at starts
              exact starts
            rw [unchanged]
            refine ⟨before, (if_pos outside).trans ?_, count⟩
            rcases count with ⟨direct, rfl⟩ | ⟨threaded, -⟩
            · rw [deliveryHandle_of_none direct, deliveryHandle_of_none (unchanged.trans direct),
                lastHandle_setThreadNum]
            · obtain ⟨front, started⟩ := Option.ne_none_iff_exists'.mp threaded
              rw [deliveryHandle_of_some started, deliveryHandle_of_some (unchanged.trans started)]

/-! ## Who is called -/

/-- The loop thread calls one handle and the packet threads another; without threads there
is no other. -/
structure Bound (pDataHandle threadHandle : Option H) (server : CommonServer H τ) : Prop where
  own : server.pDataHandle = pDataHandle
  direct : server.nThreadNum = 0 → pDataHandle = threadHandle
  threads : ∀ thread ∈ server.threads, thread.pDataHandle = threadHandle

/-- The event is no call of another handle: packets go to `threadHandle`, everything else
to `pDataHandle`. -/
def Names (pDataHandle threadHandle : Option H) : Event H τ → Prop
  | .onClientConnected handle _ _ => handle = pDataHandle
  | .onClientDisconnected handle _ _ _ => handle = pDataHandle
  | .onClientDataReceived _ handle _ => handle = threadHandle
  | .chunkReceived .. => True
  | .handlePkt .. => True

namespace Bound

variable {pDataHandle threadHandle : Option H} {server : CommonServer H τ}

theorem setContent (bound : server.Bound pDataHandle threadHandle) (sClient : SocketClientData)
    (strData : Bytes) : (server.setContent sClient strData).Bound pDataHandle threadHandle :=
  ⟨bound.own, bound.direct, bound.threads⟩

theorem removeContent (bound : server.Bound pDataHandle threadHandle)
    (sClient : SocketClientData) :
    (server.removeContent sClient).Bound pDataHandle threadHandle :=
  ⟨bound.own, bound.direct, bound.threads⟩

theorem setThread (bound : server.Bound pDataHandle threadHandle) (i : ℕ)
    {thread : PktHandleThread H τ} (same : thread.pDataHandle = threadHandle) :
    (server.setThread i thread).Bound pDataHandle threadHandle := by
  refine ⟨bound.own, bound.direct, fun other member => ?_⟩
  rcases List.mem_or_eq_of_mem_set member with before | rfl
  · exact bound.threads other before
  · exact same

theorem handlePkt (bound : server.Bound pDataHandle threadHandle) {sClient : SocketClientData}
    {pData : Bytes} {origin : τ} {handled : CommonServer H τ × List (Event H τ)}
    (called : server.handlePkt sClient pData origin = some handled) :
    handled.1.Bound pDataHandle threadHandle ∧
      ∀ event ∈ handled.2, Names pDataHandle threadHandle event := by
  rcases handlePkt_cases called with ⟨direct, rfl⟩ | ⟨-, thread, here, rfl⟩
  · refine ⟨bound, fun event member => ?_⟩
    simp only [List.mem_cons, List.not_mem_nil, or_false] at member
    rcases member with rfl | rfl
    · trivial
    · exact bound.own.trans (bound.direct direct)
  · have same : (thread.addPkt ⟨sClient, OutputBuffer.new pData, origin⟩).pDataHandle =
        threadHandle := bound.threads thread (List.mem_of_getElem? here)
    have moved := bound.setThread server.threadIndex same
    refine ⟨⟨moved.own, moved.direct, moved.threads⟩, fun event member => ?_⟩
    obtain rfl := List.mem_singleton.mp member
    trivial

end Bound

theorem bound_ready {pDataHandle threadHandle : Option H} {nThreadNum : Int32}
    (direct : nThreadNum = 0 → pDataHandle = threadHandle) :
    (ready pDataHandle threadHandle nThreadNum : CommonServer H τ).Bound pDataHandle
      threadHandle :=
  ⟨rfl, direct, fun _ member => by rw [List.eq_of_mem_replicate member]; rfl⟩

end CommonServer

namespace System

open SetUpCall

variable {H : Type}

/-- The server behind its set-up, when `Start` is called. -/
def started (calls : List (SetUpCall H)) : System H where
  server := CommonServer.setUp calls
  adding := none
  live := fun _ => none
  nextConn := 0
  log := []

/-- `SetDataHandle` and then `SetThreadNum`, once each. -/
example (pDataHandle : H) (nThreadNum : Int32) :
    started [.setDataHandle pDataHandle, .setThreadNum nThreadNum] = start pDataHandle nThreadNum :=
  rfl

/-- What the server calls, and has called, for a handle of its own and one of its threads. -/
structure Bound (pDataHandle threadHandle : Option H) (state : System H) : Prop where
  server : state.server.Bound pDataHandle threadHandle
  named : ∀ event ∈ state.log, CommonServer.Names pDataHandle threadHandle event

namespace Bound

variable {pDataHandle threadHandle : Option H} {state next : System H}

/-- A step that reports nothing about another handle. -/
theorem grow (bound : state.Bound pDataHandle threadHandle)
    (server : next.server.Bound pDataHandle threadHandle) {events : List (Event H ℕ)}
    (grown : next.log = state.log ++ events)
    (named : ∀ event ∈ events, CommonServer.Names pDataHandle threadHandle event) :
    next.Bound pDataHandle threadHandle := by
  refine ⟨server, fun event member => ?_⟩
  rw [grown] at member
  rcases List.mem_append.mp member with before | now
  · exact bound.named event before
  · exact named event now

/-- **No step changes whom the server calls.** -/
theorem step (bound : state.Bound pDataHandle threadHandle) {label : Label}
    (taken : state.step label = some next) : next.Bound pDataHandle threadHandle := by
  cases label with
  | connected sClient =>
      obtain ⟨-, -, rfl⟩ := step_connected_cases taken
      refine bound.grow bound.server rfl fun event member => ?_
      obtain rfl := List.mem_singleton.mp member
      exact bound.server.own
  | dataReceived sClient pData =>
      obtain ⟨origin, -, -, rfl⟩ := step_dataReceived_cases taken
      refine bound.grow (bound.server.setContent ..) rfl fun event member => ?_
      obtain rfl := List.mem_singleton.mp member
      trivial
  | pass =>
      obtain ⟨sClient, origin, -, ⟨-, rfl⟩ | ⟨-, rfl⟩ | ⟨_, rest, handled, -, -, called, rfl⟩⟩ :=
        step_pass_cases taken
      · exact ⟨bound.server, bound.named⟩
      · exact ⟨bound.server.setContent .., bound.named⟩
      · obtain ⟨server, named⟩ := bound.server.handlePkt called
        exact bound.grow (server.setContent ..) rfl named
  | terminated sClient how =>
      obtain ⟨origin, nErrorCode, -, -, rfl⟩ := step_terminated_cases taken
      refine bound.grow (bound.server.removeContent _) rfl fun event member => ?_
      obtain rfl := List.mem_singleton.mp member
      exact bound.server.own
  | handlePkt i =>
      obtain ⟨thread, ⟨moved, delivered⟩, here, acted, rfl⟩ := step_handlePkt_cases taken
      have same := bound.server.threads thread (List.mem_of_getElem? here)
      have kept := (PktHandleThread.pDataHandle_handlePkt acted).trans same
      refine bound.grow (bound.server.setThread i kept) rfl fun event member => ?_
      cases delivered with
      | none => cases member
      | some pktData =>
          obtain rfl := List.mem_singleton.mp member
          exact same
  | stop i =>
      obtain ⟨thread, here, rfl⟩ := step_stop_cases taken
      have same := bound.server.threads thread (List.mem_of_getElem? here)
      exact ⟨bound.server.setThread i ((PktHandleThread.pDataHandle_stop thread).trans same),
        bound.named⟩

end Bound

/-- In every run behind a set-up the connections go to the handle set last and the packets
to the one the threads were started with. -/
theorem bound_of_run {calls : List (SetUpCall H)} {labels : List Label} {last : System H}
    (runs : run step (started calls) labels = some last) :
    last.Bound (lastHandle calls) (deliveryHandle calls) := by
  refine run_invariant (fun _ _ _ bound taken => Bound.step bound taken) labels
    ⟨?_, fun _ member => absurd member List.not_mem_nil⟩ runs
  obtain ⟨nThreadNum, same, count⟩ := CommonServer.setUp_eq (τ := ℕ) calls
  rw [started, same]
  refine CommonServer.bound_ready fun zero => ?_
  rcases count with ⟨direct, -⟩ | ⟨-, positive⟩
  · exact (deliveryHandle_of_none direct).symm
  · rw [zero] at positive
    cases positive

/-- The threads of a server behind its set-up count correctly, and have nothing to do. -/
theorem config_started (calls : List (SetUpCall H)) :
    (started calls).server.Config (started calls).server.nThreadNum ∧
      (started calls).pool = Pool.empty := by
  obtain ⟨nThreadNum, same, -⟩ := CommonServer.setUp_eq (τ := ℕ) calls
  refine ⟨?_, Pool.ext (funext fun i => ?_) rfl rfl⟩
  · rw [started, same]
    exact CommonServer.Config.of_init _ rfl rfl
  · show (CommonServer.setUp calls).pendingAt i = []
    rw [same]
    exact CommonServer.pendingAt_of_init rfl i

/-! ## A packet is accepted and delivered -/

section FirstPacket

variable {state : System H} {sClient : SocketClientData} {origin : ℕ}

/-- A pass that hands a packet on. -/
theorem step_pass_handle {nDataLen : Int32} {rest : Bytes}
    {handled : CommonServer H ℕ × List (Event H ℕ)}
    (inside : state.adding = some (sClient, origin))
    (found : ServerLib.pass (state.server.contentOf sClient) = .handle nDataLen)
    (cut : substr (state.server.contentOf sClient) (sizeT nDataLen) = some rest)
    (called : state.server.handlePkt sClient
      ((state.server.contentOf sClient).take (sizeT nDataLen)) origin = some handled) :
    state.step .pass = some { state with
      server := handled.1.setContent sClient rest
      log := state.log ++ handled.2 } := by
  simp only [step, inside, addContentPass, found, cut, called, Option.map_some]

/-- The first client sends one packet, and `__HandlePkt` is called for it. -/
theorem run_first_packet {pDataHandle threadHandle : Option H} {nThreadNum : Int32}
    {handled : CommonServer H ℕ × List (Event H ℕ)}
    (called : ((CommonServer.ready pDataHandle threadHandle nThreadNum).setContent ⟨1, 2, 5⟩
      [1, 0, 0, 0, 7]).handlePkt ⟨1, 2, 5⟩ [1, 0, 0, 0, 7] 0 = some handled) :
    ∃ last, run step ⟨CommonServer.ready pDataHandle threadHandle nThreadNum, none,
        fun _ => none, 0, []⟩ [.connected ⟨1, 2, 5⟩,
          .dataReceived ⟨1, 2, 5⟩ [1, 0, 0, 0, 7], .pass] = some last ∧
      last.server.threads = handled.1.threads ∧ handled.2 ⊆ last.log := by
  obtain ⟨arrived, arrives, inside, buffer, same⟩ : ∃ arrived,
      run step ⟨CommonServer.ready pDataHandle threadHandle nThreadNum, none, fun _ => none, 0,
        []⟩ [.connected ⟨1, 2, 5⟩, .dataReceived ⟨1, 2, 5⟩ [1, 0, 0, 0, 7]] = some arrived ∧
      arrived.adding = some (⟨1, 2, 5⟩, 0) ∧
      arrived.server.contentOf ⟨1, 2, 5⟩ = [1, 0, 0, 0, 7] ∧
      arrived.server = (CommonServer.ready pDataHandle threadHandle nThreadNum).setContent
        ⟨1, 2, 5⟩ [1, 0, 0, 0, 7] := ⟨_, rfl, rfl, rfl, rfl⟩
  have found : ServerLib.pass (arrived.server.contentOf ⟨1, 2, 5⟩) = .handle 5 := buffer ▸ rfl
  have cut : substr (arrived.server.contentOf ⟨1, 2, 5⟩) (sizeT 5) = some [] := buffer ▸ rfl
  have handles : arrived.server.handlePkt ⟨1, 2, 5⟩
      ((arrived.server.contentOf ⟨1, 2, 5⟩).take (sizeT 5)) 0 = some handled := by
    rw [buffer, same]
    exact called
  have passed := step_pass_handle inside found cut handles
  exact ⟨_, run_concat_eq_some.mpr ⟨arrived, arrives, passed⟩, rfl,
    List.subset_append_right _ _⟩

/-- The first packet goes to the first thread. -/
theorem handlePkt_first {pDataHandle threadHandle : Option H} {nThreadNum : Int32}
    (positive : 0 < nThreadNum) (sClient : SocketClientData) (strData pData : Bytes)
    (origin : ℕ) :
    ∃ handled rest, ((CommonServer.ready pDataHandle threadHandle nThreadNum).setContent sClient
        strData).handlePkt sClient pData origin = some handled ∧
      handled.1.threads = (PktHandleThread.init threadHandle).addPkt
        ⟨sClient, OutputBuffer.new pData, origin⟩ :: rest := by
  obtain ⟨more, many⟩ : ∃ more, nThreadNum.toInt.toNat = more + 1 := by
    have counted : 0 < nThreadNum.toInt := Int32.lt_iff_toInt_lt.mp positive
    exact Nat.exists_eq_add_one.mpr (by omega)
  have threads : ((CommonServer.ready pDataHandle threadHandle nThreadNum).setContent sClient
      strData : CommonServer H ℕ).threads =
        PktHandleThread.init threadHandle :: List.replicate more (.init threadHandle) := by
    show List.replicate nThreadNum.toInt.toNat _ = _
    rw [many]
    rfl
  have first : ((CommonServer.ready pDataHandle threadHandle nThreadNum).setContent sClient
      strData : CommonServer H ℕ).threadIndex = 0 :=
    congrArg UInt32.toNat UInt32.zero_mod
  have threaded : ¬ nThreadNum = 0 := fun zero => by
    rw [zero] at positive
    cases positive
  refine ⟨_, List.replicate more (.init threadHandle), (if_neg threaded).trans (if_pos ?_), ?_⟩
  · rw [first, threads]
    exact Nat.succ_pos _
  · show List.modify _ _ _ = _
    rw [first, threads]
    rfl

/-- A thread that has just been started delivers its first packet in six actions. -/
theorem run_first_delivery {pDataHandle : Option H} {pktData : PktData ℕ}
    {rest : List (PktHandleThread H ℕ)}
    (here : state.server.threads = (PktHandleThread.init pDataHandle).addPkt pktData :: rest) :
    ∃ last, run step state (List.replicate 6 (.handlePkt 0)) = some last ∧
      .onClientDataReceived (some 0) pDataHandle pktData ∈ last.log := by
  obtain ⟨⟨_, _, _, threads, _⟩, _, _, _, _⟩ := state
  obtain rfl : threads = _ := here
  exact ⟨_, rfl, List.mem_append_right _ (List.mem_singleton.mpr rfl)⟩

/-- Behind every set-up there is a run that delivers a packet. -/
theorem exists_delivery (calls : List (SetUpCall H)) :
    ∃ labels last thread pktData, run step (started calls) labels = some last ∧
      .onClientDataReceived thread (deliveryHandle calls) pktData ∈ last.log := by
  obtain ⟨nThreadNum, same, count⟩ := CommonServer.setUp_eq (τ := ℕ) calls
  have start : started calls = ⟨CommonServer.ready (lastHandle calls) (deliveryHandle calls)
      nThreadNum, none, fun _ => none, 0, []⟩ := by rw [started, same]
  rw [start]
  rcases count with ⟨direct, rfl⟩ | ⟨-, positive⟩
  · obtain ⟨last, runs, -, events⟩ := run_first_packet (if_pos rfl)
    refine ⟨_, last, none, ⟨⟨1, 2, 5⟩, OutputBuffer.new [1, 0, 0, 0, 7], 0⟩, runs, events ?_⟩
    rw [deliveryHandle_of_none direct]
    exact List.mem_cons_of_mem _ (List.mem_singleton.mpr rfl)
  · obtain ⟨handled, rest, called, threads⟩ := handlePkt_first positive ⟨1, 2, 5⟩
      [1, 0, 0, 0, 7] [1, 0, 0, 0, 7] 0
    obtain ⟨middle, runs, queued, -⟩ := run_first_packet called
    obtain ⟨last, delivers, delivered⟩ := run_first_delivery (queued.trans threads)
    refine ⟨[.connected ⟨1, 2, 5⟩, .dataReceived ⟨1, 2, 5⟩ [1, 0, 0, 0, 7], .pass] ++
      List.replicate 6 (.handlePkt 0), last, some 0, _, ?_, delivered⟩
    rw [run_append, runs, Option.bind_some, delivers]

end FirstPacket

/-! ## Which orders are right -/

/-- Everything goes to one data handle: connections, and the packets that were accepted. -/
structure DeliversTo (pDataHandle : H) (state : System H) : Prop where
  connected : ∀ {handle sClient origin},
    .onClientConnected handle sClient origin ∈ state.log → handle = some pDataHandle
  disconnected : ∀ {handle sClient nErrorCode origin},
    .onClientDisconnected handle sClient nErrorCode origin ∈ state.log →
      handle = some pDataHandle
  delivered : ∀ {thread handle pktData},
    .onClientDataReceived thread handle pktData ∈ state.log → handle = some pDataHandle
  /-- A packet that is not delivered waits for a thread that will deliver it there. -/
  accepted : ∀ {thread pktData}, .handlePkt thread pktData ∈ state.log →
    .onClientDataReceived thread (some pDataHandle) pktData ∈ state.log ∨
      ∃ i worker, thread = some i ∧ state.server.threads[i]? = some worker ∧
        worker.pDataHandle = some pDataHandle ∧ pktData ∈ worker.pending

/-- Whatever clients and threads do behind the two set-ups, packets go to one handle, and
it is one that was set. -/
def SameDelivery (calls calls' : List (SetUpCall H)) : Prop :=
  ∀ {labels labels' last last'}, run step (started calls) labels = some last →
    run step (started calls') labels' = some last' →
    ∀ {thread thread' handle handle' pktData pktData'},
      .onClientDataReceived thread handle pktData ∈ last.log →
      .onClientDataReceived thread' handle' pktData' ∈ last'.log →
      ∃ pDataHandle, handle = some pDataHandle ∧ handle' = some pDataHandle

/-- A packet that was accepted is delivered or waits. -/
theorem delivered_or_pending {calls : List (SetUpCall H)} {labels : List Label}
    {last : System H} (runs : run step (started calls) labels = some last) {thread : Option ℕ}
    {pktData : PktData ℕ} (accepted : .handlePkt thread pktData ∈ last.log) :
    (∃ handle, .onClientDataReceived thread handle pktData ∈ last.log) ∨
      ∃ i worker, thread = some i ∧ last.server.threads[i]? = some worker ∧
        pktData ∈ worker.pending := by
  obtain ⟨config, empty⟩ := config_started calls
  obtain ⟨actions, reached⟩ := run_refines_of_config config runs
  rw [empty] at reached
  have conserved := Pool.run_conserved reached thread
  have dispatched : (thread, pktData) ∈ dispatches last.log :=
    List.mem_filterMap.mpr ⟨_, accepted, rfl⟩
  have kept : pktData ∈ itemsAt thread (beginnings last.log) ++ last.server.pendingAt thread := by
    rw [show itemsAt thread (beginnings last.log) ++ last.server.pendingAt thread =
      itemsAt thread (dispatches last.log) from conserved]
    exact mem_itemsAt.mpr dispatched
  rcases List.mem_append.mp kept with begun | waits
  · obtain ⟨event, member, same⟩ := List.mem_filterMap.mp (mem_itemsAt.mp begun)
    cases event with
    | onClientDataReceived _ handle _ =>
        cases same
        exact Or.inl ⟨handle, member⟩
    | onClientConnected | onClientDisconnected | chunkReceived | handlePkt => cases same
  · cases thread with
    | none => cases waits
    | some i =>
        rw [CommonServer.pendingAt] at waits
        cases here : last.server.threads[i]? with
        | none =>
            rw [here] at waits
            cases waits
        | some worker =>
            rw [here] at waits
            exact Or.inr ⟨i, worker, rfl, here, waits⟩

/-- Where the two handles are one, everything goes to it. -/
theorem deliversTo_of_run {calls : List (SetUpCall H)} {pDataHandle : H} {labels : List Label}
    {last : System H} (given : lastHandle calls = some pDataHandle)
    (same : deliveryHandle calls = some pDataHandle)
    (runs : run step (started calls) labels = some last) : last.DeliversTo pDataHandle := by
  have bound := bound_of_run runs
  rw [given, same] at bound
  have delivered {thread handle pktData}
      (member : .onClientDataReceived thread handle pktData ∈ last.log) :
      handle = some pDataHandle :=
    bound.named (.onClientDataReceived thread handle pktData) member
  refine ⟨fun {handle sClient origin} member =>
      bound.named (.onClientConnected handle sClient origin) member,
    fun {handle sClient nErrorCode origin} member =>
      bound.named (.onClientDisconnected handle sClient nErrorCode origin) member,
    delivered, fun accepted => ?_⟩
  rcases delivered_or_pending runs accepted with ⟨handle, member⟩ | ⟨i, worker, rfl, here, waits⟩
  · rw [delivered member] at member
    exact Or.inl member
  · exact Or.inr ⟨i, worker, rfl, here,
      bound.server.threads worker (List.mem_of_getElem? here), waits⟩

/-- **When the order of the set-up does not matter.**  Everything goes to the handle given
last exactly where that handle was set already when packet threads were last started, if
they were; and two orders of the same calls deliver to one handle exactly where the same
handle was set at that moment in both. -/
theorem deliversTo_iff {calls : List (SetUpCall H)} {pDataHandle : H}
    (given : lastHandle calls = some pDataHandle) :
    ((∀ labels last, run step (started calls) labels = some last →
        last.DeliversTo pDataHandle) ↔
      ∀ front ∈ beforeThreads calls, lastHandle front = some pDataHandle) ∧
    ∀ calls', SameButOrder calls calls' → (SameDelivery calls calls' ↔
      ∀ front ∈ beforeThreads calls, ∀ front' ∈ beforeThreads calls',
        ∃ handle, lastHandle front = some handle ∧ lastHandle front' = some handle) := by
  refine ⟨⟨fun delivers front threaded => ?_, fun early labels last runs => ?_⟩,
    fun calls' reordered => ?_⟩
  · obtain ⟨labels, last, thread, pktData, runs, member⟩ := exists_delivery calls
    rw [← deliveryHandle_of_some threaded]
    exact (delivers labels last runs).delivered member
  · refine deliversTo_of_run given ?_ runs
    cases threads : beforeThreads calls with
    | none => exact (deliveryHandle_of_none threads).trans given
    | some front => exact (deliveryHandle_of_some threads).trans (early front threads)
  · rw [← deliveryHandle_agree_iff given reordered]
    constructor
    · intro delivers
      obtain ⟨labels, last, thread, pktData, runs, member⟩ := exists_delivery calls
      obtain ⟨labels', last', thread', pktData', runs', member'⟩ := exists_delivery calls'
      exact delivers runs runs' member member'
    · rintro ⟨one, here, there⟩ labels labels' last last' runs runs' thread thread' handle handle'
        _ _ member member'
      have first : handle = deliveryHandle calls :=
        (bound_of_run runs).named (.onClientDataReceived thread handle _) member
      have second : handle' = deliveryHandle calls' :=
        (bound_of_run runs').named (.onClientDataReceived thread' handle' _) member'
      exact ⟨one, first.trans here, second.trans there⟩

/-- The order of tcpcommonechoserver.cpp, and the handle set once more. -/
theorem deliversTo_iff_handle_first :
    lastHandle [.setDataHandle 7, .setThreadNum 4, .setThreadNum 0, .setDataHandle 7] = some 7 ∧
      (∀ labels last, run step (started [.setDataHandle 7, .setThreadNum 4, .setThreadNum 0,
        .setDataHandle 7]) labels = some last → last.DeliversTo 7) :=
  ⟨rfl, (deliversTo_iff rfl).1.mpr (by decide)⟩

/-- The handle is set again behind `SetThreadNum`: the new one is told of the client, the
old one gets its packet.  With `SetThreadNum` last the new one gets it. -/
theorem set_up_order_matters :
    lastHandle [.setDataHandle 1, .setThreadNum 1, .setDataHandle 2] = some 2 ∧
    ¬ (∀ labels last, run step (started [.setDataHandle 1, .setThreadNum 1, .setDataHandle 2])
      labels = some last → last.DeliversTo 2) ∧
    SameButOrder [.setDataHandle 1, .setThreadNum 1, .setDataHandle 2]
      [.setDataHandle 1, .setDataHandle 2, .setThreadNum 1] ∧
    ¬ SameDelivery [.setDataHandle 1, .setThreadNum 1, .setDataHandle 2]
      [.setDataHandle 1, .setDataHandle 2, .setThreadNum 1] := by
  obtain ⟨last, runs, member⟩ := (Option.any_eq_true ..).mp
    (show (run step (started [.setDataHandle 1, .setThreadNum 1, .setDataHandle 2])
        [.connected ⟨1, 2, 5⟩, .dataReceived ⟨1, 2, 5⟩ [1, 0, 0, 0, 7], .pass, .handlePkt 0,
          .handlePkt 0, .handlePkt 0, .handlePkt 0, .handlePkt 0, .handlePkt 0]).any (fun last =>
      .onClientDataReceived (some 0) (some 1) ⟨⟨1, 2, 5⟩, OutputBuffer.new [1, 0, 0, 0, 7], 0⟩ ∈
        last.log) = true by decide +kernel)
  obtain ⟨last', runs', member'⟩ := (Option.any_eq_true ..).mp
    (show (run step (started [.setDataHandle 1, .setDataHandle 2, .setThreadNum 1])
        [.connected ⟨1, 2, 5⟩, .dataReceived ⟨1, 2, 5⟩ [1, 0, 0, 0, 7], .pass, .handlePkt 0,
          .handlePkt 0, .handlePkt 0, .handlePkt 0, .handlePkt 0, .handlePkt 0]).any (fun last =>
      .onClientDataReceived (some 0) (some 2) ⟨⟨1, 2, 5⟩, OutputBuffer.new [1, 0, 0, 0, 7], 0⟩ ∈
        last.log) = true by decide +kernel)
  refine ⟨rfl, fun delivers => ?_, ⟨rfl, rfl⟩, fun same => ?_⟩
  · exact absurd ((delivers _ last runs).delivered (of_decide_eq_true member)) (by decide)
  · obtain ⟨one, first, second⟩ :=
      same runs runs' (of_decide_eq_true member) (of_decide_eq_true member')
    exact absurd (first.trans second.symm) (by decide)

end System

end ServerLib
