import ServerLib.CommonServer

/-!
# Clients and successive connections do not influence each other

All clients share one map of buffers, and a key can be used again once its
connection has ended.  `clients_isolated` compares a run of any length with the
*solo run* of one client: the run that starts from the empty map and contains
only that client's chunks since its last termination.  The packets delivered for
the client since then, and the bytes kept for it, are the same in both.

The simulation is `Mirrors`: it relates the state of the full run to the state of
the solo run, and every call keeps it.  A chunk of the client moves both runs, a
termination of the client restarts the solo run, and every other call leaves the
client's entry of the map and its deliveries alone — which is where it matters
that the map tells two keys apart whenever one field differs.
-/

namespace ServerLib

open Transition CommonServer

variable {H : Type}

/-- What one call adds to the client's chunks: a termination starts afresh. -/
def ownStep (sClient : SocketClientData) (chunks : List Bytes) : Call → List Bytes
  | .dataReceived key pData => if key = sClient then chunks ++ [pData] else chunks
  | .terminated key _ => if key = sClient then [] else chunks

/-- The client's chunks since its last termination, in order. -/
def ownChunks (sClient : SocketClientData) (calls : List Call) : List Bytes :=
  calls.foldl (ownStep sClient) []

/-- What one event adds to the client's deliveries: a disconnect starts afresh. -/
def deliveredStep (sClient : SocketClientData)
    (delivered : List (Option H × SocketClientData × Bytes)) :
    Event H Unit → List (Option H × SocketClientData × Bytes)
  | .onClientDisconnected _ key _ _ => if key = sClient then [] else delivered
  | .onClientDataReceived _ pDataHandle pktData =>
      if pktData.sClient = sClient then
        delivered ++ [(pDataHandle, pktData.sClient, pktData.bytes)]
      else
        delivered
  | _ => delivered

/-- What the data handle was given for the client since it was last told that the
client disconnected. -/
def deliveredSince (sClient : SocketClientData) (log : List (Event H Unit)) :
    List (Option H × SocketClientData × Bytes) :=
  log.foldl (deliveredStep sClient) []

/-- The condition on the environment: a chunk that arrives meets no length field
above `INT_MAX - 4` at a frame start, in a buffer below two gibibytes. -/
def ChunkFits (state : Run H Unit) : Call → Prop
  | .dataReceived sClient pData => HeadersFit (state.server.contentOf sClient ++ pData)
  | .terminated _ _ => True

instance (state : Run H Unit) : (label : Call) → Decidable (ChunkFits state label)
  | .dataReceived _ _ => inferInstanceAs (Decidable (HeadersFit _))
  | .terminated _ _ => inferInstanceAs (Decidable True)

/-- The bounds as they are usually put, on every length field and on the whole
buffer, are enough. -/
theorem headersFit_of_bounds {buffer : Bytes}
    (fields : ∀ start, frameScanner.Cursor buffer start → 4 < start.length →
      (readInt start).toInt ≤ 2147483643)
    (size : buffer.length < 2147483648) : HeadersFit buffer :=
  fun start here long _ => ⟨fields start here long, Nat.lt_of_le_of_lt here.length_le size⟩

@[simp] theorem ownChunks_dataReceived (sClient key : SocketClientData) (calls : List Call)
    (pData : Bytes) :
    ownChunks sClient (calls ++ [.dataReceived key pData]) =
      if key = sClient then ownChunks sClient calls ++ [pData] else ownChunks sClient calls := by
  simp [ownChunks, ownStep]

@[simp] theorem ownChunks_terminated (sClient key : SocketClientData) (calls : List Call)
    (how : Termination) :
    ownChunks sClient (calls ++ [.terminated key how]) =
      if key = sClient then [] else ownChunks sClient calls := by
  simp [ownChunks, ownStep]

@[simp] theorem deliveredSince_disconnected (sClient key : SocketClientData)
    (log : List (Event H Unit)) (pDataHandle : Option H) (nErrorCode : Int32) :
    deliveredSince sClient (log ++ [.onClientDisconnected pDataHandle key nErrorCode ()]) =
      if key = sClient then [] else deliveredSince sClient log := by
  simp [deliveredSince, deliveredStep]

/-- A call that delivers packets of a client adds them to what that client was
given, and to no other client's. -/
theorem deliveredSince_directEvents (sClient key : SocketClientData)
    (server : CommonServer H Unit) (pkts : List Bytes) :
    ∀ log : List (Event H Unit),
      deliveredSince sClient (log ++ server.directEvents key () pkts) =
        if key = sClient then
          deliveredSince sClient log ++ pkts.map fun pkt => (server.pDataHandle, key, pkt)
        else
          deliveredSince sClient log := by
  induction pkts with
  | nil => simp [directEvents]
  | cons pkt pkts ih =>
      intro log
      have first : deliveredSince sClient (log ++
          [.handlePkt none ⟨key, OutputBuffer.new pkt, ()⟩,
            .onClientDataReceived none server.pDataHandle ⟨key, OutputBuffer.new pkt, ()⟩]) =
          if key = sClient then deliveredSince sClient log ++ [(server.pDataHandle, key, pkt)]
          else deliveredSince sClient log := by
        simp [deliveredSince, deliveredStep, PktData.bytes]
      rw [directEvents, List.flatMap_cons, ← List.append_assoc, ← directEvents, ih, first]
      split <;> simp

@[simp] theorem deliveredSince_chunkReceived (sClient key : SocketClientData)
    (log : List (Event H Unit)) (pData : Bytes) :
    deliveredSince sClient (log ++ [.chunkReceived key pData ()]) =
      deliveredSince sClient log := by
  simp [deliveredSince, deliveredStep]

/-- The solo run has the client's entry of the map, and has delivered what the
full run delivered since the client's last termination. -/
structure Mirrors (pDataHandle : H) (sClient : SocketClientData) (full solo : Run H Unit) :
    Prop where
  full_direct : full.server.nThreadNum = 0
  solo_direct : solo.server.nThreadNum = 0
  full_handle : full.server.pDataHandle = some pDataHandle
  solo_handle : solo.server.pDataHandle = some pDataHandle
  same_content : full.server.contents.find sClient = solo.server.contents.find sClient
  same_delivered : deliveredSince sClient full.log = deliveries solo.log

namespace Mirrors

variable {pDataHandle : H} {sClient key : SocketClientData} {full solo next : Run H Unit}

theorem fresh (pDataHandle : H) (sClient : SocketClientData) :
    Mirrors pDataHandle sClient (freshRun pDataHandle) (freshRun pDataHandle) :=
  ⟨rfl, rfl, rfl, rfl, rfl, rfl⟩

/-- A chunk of the client itself moves both runs. -/
theorem own_chunk (mirrors : Mirrors pDataHandle sClient full solo) {pData : Bytes}
    (called : call full (.dataReceived sClient pData) = some next) :
    ∃ solo', call solo (.dataReceived sClient pData) = some solo' ∧
      Mirrors pDataHandle sClient next solo' := by
  obtain ⟨after, received, -⟩ := Option.map_eq_some_iff.mp called
  obtain ⟨pkts, left, looped⟩ := addLoop_of_onClientDataReceived received
  have same : full.server.contentOf sClient = solo.server.contentOf sClient := by
    rw [contentOf, contentOf, mirrors.same_content]
  have looped' := looped
  rw [same] at looped'
  rw [call_dataReceived_direct mirrors.full_direct looped, Option.some_inj] at called
  refine ⟨_, call_dataReceived_direct mirrors.solo_direct looped', ?_⟩
  subst called
  refine ⟨mirrors.full_direct, mirrors.solo_direct, mirrors.full_handle, mirrors.solo_handle,
    by simp, ?_⟩
  rw [List.append_cons, deliveredSince_directEvents, if_pos rfl, deliveredSince_chunkReceived,
    mirrors.same_delivered, deliveries_append, deliveries_chunkReceived,
    deliveries_directEvents, mirrors.full_handle, mirrors.solo_handle]

/-- A chunk of another client moves the full run alone. -/
theorem other_chunk (mirrors : Mirrors pDataHandle sClient full solo) (other : key ≠ sClient)
    {pData : Bytes} (called : call full (.dataReceived key pData) = some next) :
    Mirrors pDataHandle sClient next solo := by
  obtain ⟨after, received, -⟩ := Option.map_eq_some_iff.mp called
  obtain ⟨pkts, left, looped⟩ := addLoop_of_onClientDataReceived received
  rw [call_dataReceived_direct mirrors.full_direct looped, Option.some_inj] at called
  subst called
  refine ⟨mirrors.full_direct, mirrors.solo_direct, mirrors.full_handle, mirrors.solo_handle,
    ?_, ?_⟩
  · rw [OrderedMap.find_insert, if_neg other, mirrors.same_content]
  · rw [List.append_cons, deliveredSince_directEvents, if_neg other,
      deliveredSince_chunkReceived, mirrors.same_delivered]

/-- A termination of the client restarts the solo run, whichever of the four
callbacks reports it. -/
theorem own_termination (mirrors : Mirrors pDataHandle sClient full solo) {how : Termination}
    (called : call full (.terminated sClient how) = some next) :
    Mirrors pDataHandle sClient next (freshRun pDataHandle) := by
  obtain ⟨nErrorCode, same⟩ := onTermination_eq full.server sClient () how
  rw [call, same, Option.some_inj] at called
  subst called
  refine ⟨mirrors.full_direct, rfl, mirrors.full_handle, rfl, ?_, ?_⟩
  · simp [terminate, removeContent, freshRun, setDataHandle, new]
  · rw [terminate, deliveredSince_disconnected, if_pos rfl]
    rfl

theorem other_termination (mirrors : Mirrors pDataHandle sClient full solo)
    (other : key ≠ sClient) {how : Termination}
    (called : call full (.terminated key how) = some next) :
    Mirrors pDataHandle sClient next solo := by
  obtain ⟨nErrorCode, same⟩ := onTermination_eq full.server key () how
  rw [call, same, Option.some_inj] at called
  subst called
  refine ⟨mirrors.full_direct, mirrors.solo_direct, mirrors.full_handle, mirrors.solo_handle,
    ?_, ?_⟩
  · rw [terminate, removeContent, OrderedMap.find_erase, if_neg other, mirrors.same_content]
  · rw [terminate, deliveredSince_disconnected, if_neg other, mirrors.same_delivered]

end Mirrors

/-- **The simulation.**  Wherever a run of calls ends, the solo run of a client
exists and mirrors it. -/
theorem exists_solo_mirrors (pDataHandle : H) (sClient : SocketClientData) (calls : List Call)
    {last : Run H Unit} (runs : run call (freshRun pDataHandle) calls = some last) :
    ∃ solo, run call (freshRun pDataHandle)
        ((ownChunks sClient calls).map (.dataReceived sClient)) = some solo ∧
      Mirrors pDataHandle sClient last solo := by
  refine run_history (P := fun calls last => ∃ solo, run call (freshRun pDataHandle)
      ((ownChunks sClient calls).map (.dataReceived sClient)) = some solo ∧
        Mirrors pDataHandle sClient last solo)
    ⟨_, rfl, Mirrors.fresh pDataHandle sClient⟩ ?_ calls runs
  rintro calls (⟨key, pData⟩ | ⟨key, how⟩) middle last ⟨solo, soloRuns, mirrors⟩ called
  · by_cases own : key = sClient
    · subst own
      obtain ⟨solo', soloCalled, mirrors'⟩ := mirrors.own_chunk called
      refine ⟨solo', ?_, mirrors'⟩
      rw [ownChunks_dataReceived, if_pos rfl, List.map_append]
      exact run_concat_eq_some.mpr ⟨solo, soloRuns, soloCalled⟩
    · refine ⟨solo, ?_, mirrors.other_chunk own called⟩
      rwa [ownChunks_dataReceived, if_neg own]
  · by_cases own : key = sClient
    · subst own
      refine ⟨freshRun pDataHandle, ?_, mirrors.own_termination called⟩
      rw [ownChunks_terminated, if_pos rfl]
      rfl
    · refine ⟨solo, ?_, mirrors.other_termination own called⟩
      rwa [ownChunks_terminated, if_neg own]

/-- A chunk that fits is framed and delivered; the call returns. -/
theorem call_of_chunkFits {state : Run H Unit} {label : Call}
    (direct : state.server.nThreadNum = 0) (fits : ChunkFits state label) :
    ∃ next, call state label = some next := by
  cases label with
  | dataReceived sClient pData =>
      exact ⟨_, call_dataReceived_direct direct (addLoop_eq_drain fits)⟩
  | terminated sClient how => exact ⟨_, rfl⟩

theorem nThreadNum_call {state next : Run H Unit} {label : Call}
    (direct : state.server.nThreadNum = 0) (called : call state label = some next) :
    next.server.nThreadNum = 0 := by
  cases label with
  | dataReceived sClient pData =>
      obtain ⟨after, received, -⟩ := Option.map_eq_some_iff.mp called
      obtain ⟨pkts, left, looped⟩ := addLoop_of_onClientDataReceived received
      rw [call_dataReceived_direct direct looped, Option.some_inj] at called
      subst called
      exact direct
  | terminated sClient how =>
      obtain ⟨nErrorCode, same⟩ := onTermination_eq state.server sClient () how
      rw [call, same, Option.some_inj] at called
      subst called
      exact direct

/-- **Clients and successive connections are isolated in the framer.**  For every
sequence of the five calls over any keys in which every chunk fits, the run and
the solo run of any client both return, and since the client's last termination
the same packets were delivered for it and the same bytes are kept for it. -/
theorem clients_isolated (pDataHandle : H) (calls : List Call) (sClient : SocketClientData)
    (fits : Along call ChunkFits (freshRun pDataHandle) calls) :
    ∃ last solo, run call (freshRun pDataHandle) calls = some last ∧
      run call (freshRun pDataHandle)
        ((ownChunks sClient calls).map (.dataReceived sClient)) = some solo ∧
      deliveredSince sClient last.log = deliveries solo.log ∧
      last.server.contents.find sClient = solo.server.contents.find sClient := by
  obtain ⟨last, runs⟩ := exists_run_along (I := fun state => state.server.nThreadNum = 0)
    (fun _ _ _ direct _ called => nThreadNum_call direct called)
    (fun _ _ direct fits => call_of_chunkFits direct fits) calls rfl fits
  obtain ⟨solo, soloRuns, mirrors⟩ := exists_solo_mirrors pDataHandle sClient calls runs
  exact ⟨last, solo, runs, soloRuns, mirrors.same_delivered, mirrors.same_content⟩

/-- Two clients that differ in the port only; the first one's key is used again
after a timeout in the middle of a packet. -/
theorem clients_isolated_reconnect :
    ∃ last solo, run call (freshRun ()) [.dataReceived ⟨1, 2, 5⟩ [3, 0, 0, 0, 7],
        .dataReceived ⟨1, 3, 5⟩ [1, 0], .terminated ⟨1, 2, 5⟩ .timeout,
        .dataReceived ⟨1, 2, 5⟩ [1, 0, 0, 0, 9, 2], .dataReceived ⟨1, 3, 5⟩ [0, 0, 8]] =
          some last ∧
      run call (freshRun ()) ([[1, 0, 0, 0, 9, 2]].map (.dataReceived ⟨1, 2, 5⟩)) = some solo ∧
      deliveredSince ⟨1, 2, 5⟩ last.log = deliveries solo.log ∧
      last.server.contents.find ⟨1, 2, 5⟩ = solo.server.contents.find ⟨1, 2, 5⟩ :=
  clients_isolated () _ ⟨1, 2, 5⟩ (by decide +kernel)

end ServerLib
