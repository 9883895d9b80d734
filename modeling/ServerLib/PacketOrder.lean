import ServerLib.Dispatch

/-!
# In which order a client's packets reach the data handle

`framesOf` is what the framing loop makes of a client's byte stream: the chunks
received for the client, run through `addLoop` one after the other, with the
buffer dropped at every disconnect.  Without packet threads these are the packets
delivered, in that order.

With packet threads the framing is the same (`framed_step`: at every moment the
packets dispatched so far, followed by those the loop is about to cut off, are the
packets of the stream), but a packet waits in the queue of whichever thread the
shared counter selected.  Two packets of one client can be in two queues, and the
threads are not ordered: `not_always_in_order` is an interleaving in which the
second packet is delivered first.

`begun_prefix_frames` is the exact proviso.  As long as no packet of the client is
dispatched while a thread other than the selected one still has to deliver one,
the deliveries begin in stream order.  With no thread or one thread there is no
other thread, and the order holds in every run (`begun_prefix_frames_of_le_one`).
-/

namespace ServerLib

open Transition FifoPool

namespace CommonServer

variable {H τ : Type}

@[simp] theorem contentOf_setContent (server : CommonServer H τ)
    (sClient other : SocketClientData) (strData : Bytes) :
    (server.setContent sClient strData).contentOf other =
      if sClient = other then strData else server.contentOf other := by
  unfold contentOf setContent
  rw [OrderedMap.find_insert]
  split <;> rfl

@[simp] theorem contentOf_removeContent (server : CommonServer H τ)
    (sClient other : SocketClientData) :
    (server.removeContent sClient).contentOf other =
      if sClient = other then [] else server.contentOf other := by
  unfold contentOf removeContent
  rw [OrderedMap.find_erase]
  split <;> rfl

@[simp] theorem contentOf_setThread (server : CommonServer H τ) (i : ℕ)
    (thread : PktHandleThread H τ) (sClient : SocketClientData) :
    (server.setThread i thread).contentOf sClient = server.contentOf sClient := rfl

end CommonServer

namespace System

variable {H : Type}

/-! ## The packets of a client's stream -/

/-- What one event adds to the packets of a client's stream and to the bytes kept
for it; nothing is kept behind an exception. -/
def streamStep (sClient : SocketClientData) (framed : List Bytes × Option Bytes) :
    Event H ℕ → List Bytes × Option Bytes
  | .chunkReceived key pData _ =>
      match framed with
      | (pkts, some kept) =>
          if key = sClient then
            (pkts ++ (addLoop (kept ++ pData)).pkts, (addLoop (kept ++ pData)).kept)
          else
            framed
      | (_, none) => framed
  | .onClientDisconnected _ key _ _ => if key = sClient then (framed.1, some []) else framed
  | _ => framed

/-- A client's stream, framed as by a server without packet threads. -/
def stream (sClient : SocketClientData) (log : List (Event H ℕ)) : List Bytes × Option Bytes :=
  log.foldl (streamStep sClient) ([], some [])

/-- The packets framed from the client's byte stream, in stream order. -/
def framesOf (sClient : SocketClientData) (log : List (Event H ℕ)) : List Bytes :=
  (stream sClient log).1

/-- The packets of the client that were dispatched, in order. -/
def dispatchedOf (sClient : SocketClientData) (log : List (Event H ℕ)) : List Bytes :=
  (ofClass (ofClient sClient) (dispatches log)).map PktData.bytes

/-- The packets of the client whose delivery has begun, in order. -/
def begunOf (sClient : SocketClientData) (log : List (Event H ℕ)) : List Bytes :=
  (ofClass (ofClient sClient) (beginnings log)).map PktData.bytes

/-- What the loop of `__AddContent` will still do with the client's buffer. -/
def ahead (state : System H) (sClient : SocketClientData) : AddOutcome :=
  if state.adding.map Prod.fst = some sClient then
    addLoop (state.server.contentOf sClient)
  else
    .returned [] (state.server.contentOf sClient)

/-- The packets dispatched so far, and those the loop is about to cut off, are the
packets of the stream; what the loop will keep is what the stream keeps. -/
def Framed (sClient : SocketClientData) (state : System H) : Prop :=
  stream sClient state.log =
    (dispatchedOf sClient state.log ++ (state.ahead sClient).pkts, (state.ahead sClient).kept)

theorem stream_concat (sClient : SocketClientData) (log : List (Event H ℕ))
    (event : Event H ℕ) :
    stream sClient (log ++ [event]) = streamStep sClient (stream sClient log) event :=
  List.foldl_concat ..

@[simp] theorem dispatchedOf_append (sClient : SocketClientData) (log log' : List (Event H ℕ)) :
    dispatchedOf sClient (log ++ log') =
      dispatchedOf sClient log ++ dispatchedOf sClient log' := by
  simp [dispatchedOf, ofClass]

/-- The events of `__HandlePkt` add one packet to its client's dispatches, and
leave every stream and every buffer alone. -/
theorem handlePkt_effect {server : CommonServer H ℕ} {key : SocketClientData} {pData : Bytes}
    {origin : ℕ} {handled : CommonServer H ℕ × List (Event H ℕ)}
    (called : server.handlePkt key pData origin = some handled)
    (sClient : SocketClientData) (log : List (Event H ℕ)) :
    handled.1.contentOf sClient = server.contentOf sClient ∧
      stream sClient (log ++ handled.2) = stream sClient log ∧
      dispatchedOf sClient (log ++ handled.2) =
        dispatchedOf sClient log ++ if key = sClient then [pData] else [] := by
  have one : ∀ thread : Option ℕ, ofClass (ofClient sClient)
      [(thread, (⟨key, OutputBuffer.new pData, origin⟩ : PktData ℕ))] =
        if key = sClient then [⟨key, OutputBuffer.new pData, origin⟩] else [] := by
    intro thread
    by_cases own : key = sClient <;> simp [ofClass, ofClient, own]
  have bytes : ∀ thread : Option ℕ, (ofClass (ofClient sClient)
      [(thread, (⟨key, OutputBuffer.new pData, origin⟩ : PktData ℕ))]).map PktData.bytes =
        if key = sClient then [pData] else [] := by
    intro thread
    rw [one]
    split <;> rfl
  rcases CommonServer.handlePkt_cases called with ⟨-, rfl⟩ | ⟨-, thread, -, rfl⟩
  · refine ⟨rfl, ?_, ?_⟩
    · simp [stream, streamStep]
    · rw [dispatchedOf_append]
      exact congrArg _ (bytes none)
  · refine ⟨rfl, ?_, ?_⟩
    · simp [stream, streamStep]
    · rw [dispatchedOf_append]
      exact congrArg _ (bytes _)

theorem ahead_idle {state : System H} (idle : state.adding = none)
    (sClient : SocketClientData) :
    state.ahead sClient = .returned [] (state.server.contentOf sClient) := by
  simp [ahead, idle]

/-- A step of another party, or of the loop thread at another client, changes
nothing about the client. -/
theorem Framed.of_same {sClient : SocketClientData} {state next : System H}
    (framed : state.Framed sClient)
    (sameStream : stream sClient next.log = stream sClient state.log)
    (sameDispatched : dispatchedOf sClient next.log = dispatchedOf sClient state.log)
    (sameAhead : next.ahead sClient = state.ahead sClient) : next.Framed sClient := by
  rw [Framed, sameStream, sameDispatched, sameAhead]
  exact framed

/-- **Framing is the same with packet threads.**  Every step keeps the packets
dispatched and still to be cut off equal to the packets of the stream. -/
theorem framed_step {sClient : SocketClientData} {state next : System H} {label : Label}
    (framed : state.Framed sClient) (taken : state.step label = some next) :
    next.Framed sClient := by
  cases label with
  | connected key =>
      obtain ⟨-, -, rfl⟩ := step_connected_cases taken
      exact framed.of_same (stream_concat ..) (by simp [dispatchedOf, dispatches, ofClass]) rfl
  | dataReceived key pData =>
      obtain ⟨origin, idle, -, rfl⟩ := step_dataReceived_cases taken
      have before : stream sClient state.log = _ := framed
      rw [ahead_idle idle] at before
      by_cases own : key = sClient
      · subst own
        -- the loop is about to work on the kept bytes and the chunk
        simp only [Framed, stream_concat, before, streamStep, AddOutcome.kept, AddOutcome.pkts]
        simp [ahead, dispatchedOf, dispatches, ofClass]
      · refine framed.of_same ?_ (by simp [dispatchedOf, dispatches, ofClass]) ?_
        · simp [stream_concat, before, streamStep, own, AddOutcome.kept]
        · rw [ahead_idle idle]
          simp [ahead, own]
  | pass =>
      obtain ⟨key, origin, inside, step⟩ := step_pass_cases taken
      have before : stream sClient state.log = _ := framed
      by_cases own : key = sClient
      · subst own
        have here : state.ahead key = addLoop (state.server.contentOf key) := by
          simp [ahead, inside]
        rw [here] at before
        -- the pass that is made now was the first one still ahead
        rcases step with ⟨leaves, rfl⟩ | ⟨found, rfl⟩ | ⟨_, rest, handled, found, cut, called, rfl⟩
        · rw [addLoop_of_leave leaves] at before
          exact before
        · rw [addLoop_of_abnormal found] at before
          rw [Framed, ahead_idle rfl]
          simpa using before
        · obtain ⟨-, sameStream, grown⟩ := handlePkt_effect called key state.log
          rw [addLoop_of_handle found cut] at before
          have after : (⟨handled.1.setContent key rest, state.adding, state.live, state.nextConn,
              state.log ++ handled.2⟩ : System H).ahead key = addLoop rest := by
            simp [ahead, inside]
          rw [Framed, sameStream, grown, after, before]
          simp
      · rcases step with ⟨leaves, rfl⟩ | ⟨found, rfl⟩ | ⟨_, rest, handled, found, cut, called, rfl⟩
        · exact framed.of_same rfl rfl (by simp [ahead, inside, own])
        · exact framed.of_same rfl rfl (by simp [ahead, inside, own])
        · obtain ⟨sameContent, sameStream, grown⟩ := handlePkt_effect called sClient state.log
          refine framed.of_same sameStream (by simpa [own] using grown) ?_
          simp [ahead, inside, own, sameContent]
  | terminated key how =>
      obtain ⟨origin, nErrorCode, idle, -, rfl⟩ := step_terminated_cases taken
      have before : stream sClient state.log = _ := framed
      rw [ahead_idle idle] at before
      have sameDispatched : dispatchedOf sClient (state.log ++
          [.onClientDisconnected state.server.pDataHandle key nErrorCode origin]) =
          dispatchedOf sClient state.log := by simp [dispatchedOf, dispatches, ofClass]
      by_cases own : key = sClient
      · subst own
        rw [Framed, stream_concat, before, sameDispatched]
        simp [ahead, idle, streamStep, AddOutcome.kept, AddOutcome.pkts]
      · refine framed.of_same ?_ sameDispatched ?_
        · rw [stream_concat]
          simp [streamStep, own]
        · simp [ahead, idle, own]
  | handlePkt i =>
      obtain ⟨thread, ⟨moved, delivered⟩, here, -, rfl⟩ := step_handlePkt_cases taken
      cases delivered with
      | none => exact framed.of_same (by simp [deliveryEvents]) (by simp [deliveryEvents]) rfl
      | some pktData =>
          exact framed.of_same (stream_concat ..)
            (by simp [deliveryEvents, dispatchedOf, dispatches, ofClass]) rfl
  | stop i =>
      obtain ⟨thread, here, rfl⟩ := step_stop_cases taken
      exact framed.of_same rfl rfl rfl

theorem framed_start (pDataHandle : H) (nThreadNum : Int32) (sClient : SocketClientData) :
    (start pDataHandle nThreadNum).Framed sClient := by
  rw [Framed, ahead_idle rfl]
  simp only [start, CommonServer.setThreadNum]
  split <;> rfl

/-! ## Order at the data handle -/

section Order

variable {nThreadNum : Int32} {labels : List Label} {last : System H}

/-- **Order, with its proviso.**  In every run in which no packet of the client is
dispatched while a thread other than the selected one still has to deliver one,
the deliveries for the client begin in the order of its stream. -/
theorem begun_prefix_frames (pDataHandle : H) (low : 0 ≤ nThreadNum)
    (high : nThreadNum ≤ CommonServer.maxThreadNum) (sClient : SocketClientData)
    (alone : Along step (AloneAtDispatch sClient) (start pDataHandle nThreadNum) labels)
    (runs : run step (start pDataHandle nThreadNum) labels = some last) :
    begunOf sClient last.log <+: framesOf sClient last.log := by
  obtain ⟨actions, reached, pushesAlone⟩ := run_refines
    (fun _ _ _ config _ taken => config_step config taken)
    (fun _ _ _ config alone taken =>
      (step_refines config taken).imp fun _ refined => ⟨refined.1, refined.2 sClient alone⟩)
    labels (config_start pDataHandle low high) alone runs
  rw [pool_start] at reached pushesAlone
  have inOrder : begunOf sClient last.log <+: dispatchedOf sClient last.log :=
    (Pool.popped_prefix_pushed pushesAlone reached).map PktData.bytes
  have framed : last.Framed sClient :=
    run_invariant (fun _ _ _ framed taken => framed_step framed taken) labels
      (framed_start pDataHandle nThreadNum sClient) runs
  rw [framesOf, framed]
  exact inOrder.trans (List.prefix_append _ _)

/-- Two threads; the second packet of the client arrives when the first is
delivered. -/
theorem begun_prefix_frames_two_threads :
    ∃ last, run step (start () 2) [.connected ⟨1, 2, 5⟩,
        .dataReceived ⟨1, 2, 5⟩ [1, 0, 0, 0, 7], .pass, .pass, .handlePkt 0, .handlePkt 0,
        .handlePkt 0, .handlePkt 0, .handlePkt 0, .handlePkt 0,
        .dataReceived ⟨1, 2, 5⟩ [1, 0, 0, 0, 8], .pass] = some last ∧
      begunOf ⟨1, 2, 5⟩ last.log <+: framesOf ⟨1, 2, 5⟩ last.log := by
  refine ⟨_, rfl, ?_⟩
  have runs : run step (start () 2) [.connected ⟨1, 2, 5⟩,
      .dataReceived ⟨1, 2, 5⟩ [1, 0, 0, 0, 7], .pass, .pass, .handlePkt 0, .handlePkt 0,
      .handlePkt 0, .handlePkt 0, .handlePkt 0, .handlePkt 0,
      .dataReceived ⟨1, 2, 5⟩ [1, 0, 0, 0, 8], .pass] = some _ := rfl
  exact begun_prefix_frames () (by decide) (by decide) ⟨1, 2, 5⟩ (by decide +kernel) runs

/-- **With at most one thread the order holds in every run**: there is no other
thread to hold a packet. -/
theorem begun_prefix_frames_of_le_one (pDataHandle : H) (low : 0 ≤ nThreadNum)
    (few : nThreadNum ≤ 1) (sClient : SocketClientData)
    (runs : run step (start pDataHandle nThreadNum) labels = some last) :
    begunOf sClient last.log <+: framesOf sClient last.log := by
  have high : nThreadNum ≤ CommonServer.maxThreadNum := Int32.le_trans few (by decide)
  refine begun_prefix_frames pDataHandle low high sClient ?_ runs
  refine along_of_invariant (fun _ _ _ config taken => config_step config taken) ?_ labels
    (config_start pDataHandle low high)
  intro state label config
  cases label with
  | pass =>
      intro _ i inside apart
      have one : (1 : Int32).toInt = 1 := rfl
      rw [config.threads_length] at inside
      rw [Int32.le_iff_toInt_le, one] at few
      have index := CommonServer.threadIndex_lt state.server
        (by rw [config.same_num]; omega)
      rw [config.same_num] at index
      omega
  | connected _ | dataReceived _ _ | terminated _ _ | handlePkt _ | stop _ => trivial

end Order

/-- Two threads, two packets of one client in one chunk: the second packet goes to
thread 1, which delivers it before thread 0 has begun. -/
theorem not_always_in_order :
    ¬ ∀ (nThreadNum : Int32), 0 < nThreadNum → nThreadNum ≤ CommonServer.maxThreadNum →
      ∀ (labels : List Label) (last : System Unit),
        run step (start () nThreadNum) labels = some last →
        ∀ sClient, begunOf sClient last.log <+: framesOf sClient last.log := by
  intro claim
  obtain ⟨last, runs, begun, frames⟩ : ∃ last, run step (start () 2) [.connected ⟨1, 2, 5⟩,
      .dataReceived ⟨1, 2, 5⟩ [1, 0, 0, 0, 7, 1, 0, 0, 0, 8], .pass, .pass, .pass,
      .handlePkt 1, .handlePkt 1, .handlePkt 1, .handlePkt 1, .handlePkt 1, .handlePkt 1] =
        some last ∧ begunOf ⟨1, 2, 5⟩ last.log = [[1, 0, 0, 0, 8]] ∧
      framesOf ⟨1, 2, 5⟩ last.log = [[1, 0, 0, 0, 7], [1, 0, 0, 0, 8]] :=
    ⟨_, rfl, by decide +kernel, by decide +kernel⟩
  have inOrder := claim 2 (by decide) (by decide) _ last runs ⟨1, 2, 5⟩
  rw [begun, frames] at inOrder
  revert inOrder
  decide

end System

end ServerLib
