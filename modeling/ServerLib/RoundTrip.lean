import ServerLib.CommonServer

/-!
# Framing survives the network

A client sends packets as a length followed by that many bytes (the test client
in test/tcpproxytest.cpp does it in `__WriteCallback`).  TCP delivers the bytes in
order but cuts them wherever it likes, and `CTcpConnection::__IoCallback` passes
on what one `recv` of at most 4096 bytes returned.

`framing_round_trip`: for every list of packets, every proper prefix of one more
packet behind them and every way of cutting the bytes into chunks, the data
handle is given exactly those packets, and the server keeps exactly the prefix.

The proof carries one invariant from chunk to chunk.  `Regular` says that every
length field at a frame start of the kept bytes *followed by all bytes still to
come* is one the sender may use; it is closed under taking fronts of the stream
and under moving to a later frame start, so what the library proves about
`feed` applies at every call.
-/

namespace ServerLib

open Incremental CommonServer

/-- The longest payload for which the kept bytes and one more chunk together stay
below `INT_MAX`. -/
def maxPayload : ℕ := 2147479547

/-- `recv(watcher.fd, szBuffer, sizeof(szBuffer), 0)` returns at most this many
bytes. -/
def recvSize : ℕ := 4096

/-- A packet as a client sends it. -/
def encodePkt (payload : Bytes) : Bytes :=
  intBytes (Int32.ofNat payload.length) ++ payload

/-- A payload a client may send. -/
def Sendable (payload : Bytes) : Prop := 1 ≤ payload.length ∧ payload.length ≤ maxPayload

instance (payload : Bytes) : Decidable (Sendable payload) :=
  inferInstanceAs (Decidable (_ ∧ _))

theorem length_encodePkt (payload : Bytes) :
    (encodePkt payload).length = payload.length + 4 := by
  rw [encodePkt, List.length_append, length_intBytes]
  omega

theorem readInt_encodePkt {payload : Bytes} (sendable : Sendable payload) (more : Bytes) :
    (readInt (encodePkt payload ++ more)).toInt = payload.length := by
  rw [encodePkt, List.append_assoc, readInt_append (by simp), readInt_intBytes]
  obtain ⟨-, small⟩ := sendable
  unfold maxPayload at small
  exact toInt_ofNat_of_lt (by omega)

/-- The scanner finds an encoded packet at the front, and takes exactly it. -/
theorem scan_encodePkt {payload : Bytes} (sendable : Sendable payload) (more : Bytes) :
    frameScanner.scan (encodePkt payload ++ more) = some (encodePkt payload, more) := by
  have length := length_encodePkt payload
  have value := readInt_encodePkt sendable more
  have frame : frameLength (encodePkt payload ++ more) = (encodePkt payload).length := by
    unfold frameLength
    omega
  have complete : FrameAt (encodePkt payload ++ more) := by
    unfold FrameAt
    rw [List.length_append]
    have := sendable.1
    omega
  rw [scan_of_frameAt complete, frame, List.take_left, List.drop_left]

/-! ## Streams whose length fields are all sendable -/

/-- Every length field met at a frame start is the length of a payload a client
may send. -/
def Regular (buffer : Bytes) : Prop :=
  ∀ start, frameScanner.Cursor buffer start → 4 < start.length →
    1 ≤ (readInt start).toInt ∧ (readInt start).toInt ≤ maxPayload

namespace Regular

variable {buffer start : Bytes}

/-- A front of a regular stream is regular. -/
theorem of_append {more : Bytes} (regular : Regular (buffer ++ more)) : Regular buffer := by
  intro start here long
  have value := regular (start ++ more) (here.append more)
    (by rw [List.length_append]; omega)
  rwa [readInt_append (by omega)] at value

/-- From a later frame start on, a regular stream is regular. -/
theorem of_cursor (regular : Regular buffer) (here : frameScanner.Cursor buffer start) :
    Regular start :=
  fun later there => regular later (here.trans there)

theorem headersFit (regular : Regular buffer) (small : buffer.length < 2147483648) :
    HeadersFit buffer := by
  intro start here long _
  have value := regular start here long
  unfold maxPayload at value
  have := here.length_le
  omega

/-- A regular buffer has no length field that makes the loop clear it. -/
theorem settle_eq (regular : Regular buffer) : settle buffer = buffer := by
  unfold settle
  split
  · next bad =>
      have := (regular buffer .start bad.1).1
      omega
  · rfl

/-- A regular buffer in which the scanner waits is below the size at which one
more chunk could reach `INT_MAX`. -/
theorem length_lt (regular : Regular buffer) (waits : frameScanner.scan buffer = none) :
    buffer.length < maxPayload + 4 := by
  unfold maxPayload
  by_cases long : 4 < buffer.length
  · have value := regular buffer .start long
    have incomplete := scan_eq_none_iff.mp waits
    unfold FrameAt at incomplete
    unfold maxPayload at value
    omega
  · omega

end Regular

/-- A proper prefix of a packet is no packet, and is regular. -/
theorem regular_of_prefix {payload tail : Bytes} (sendable : Sendable payload)
    (cut : tail <+: encodePkt payload) (proper : tail ≠ encodePkt payload) :
    frameScanner.scan tail = none ∧ Regular tail := by
  obtain ⟨more, whole⟩ := cut
  have short : tail.length < payload.length + 4 := by
    rw [← length_encodePkt, ← whole, List.length_append]
    have : more ≠ [] := by
      rintro rfl
      exact proper (by simpa using whole)
    have := List.length_pos_of_ne_nil this
    omega
  have value : 4 < tail.length → (readInt tail).toInt = payload.length := by
    intro long
    have whole' := readInt_encodePkt sendable []
    rwa [List.append_nil, ← whole, readInt_append (by omega)] at whole'
  have waits : frameScanner.scan tail = none := by
    rw [scan_eq_none_iff]
    rintro ⟨long, -, complete⟩
    rw [value long] at complete
    omega
  refine ⟨waits, fun start here long => ?_⟩
  rcases here.eq_or_behind with rfl | ⟨item, rest, found, -⟩
  · rw [value long]
    obtain ⟨low, high⟩ := sendable
    omega
  · rw [waits] at found
    cases found

/-- Packets in front of a regular stream make a regular stream. -/
theorem regular_encoded {tail : Bytes} (regular : Regular tail) :
    ∀ payloads : List Bytes, (∀ payload ∈ payloads, Sendable payload) →
      Regular (payloads.flatMap encodePkt ++ tail) := by
  intro payloads
  induction payloads with
  | nil => exact fun _ => regular
  | cons payload payloads ih =>
      intro sendable start here long
      have first := sendable payload (by simp)
      rw [List.flatMap_cons, List.append_assoc] at here
      rcases here.eq_or_behind with rfl | ⟨item, rest, found, later⟩
      · rw [readInt_encodePkt first]
        obtain ⟨low, high⟩ := first
        omega
      · rw [scan_encodePkt first] at found
        cases found
        exact ih (fun payload member => sendable payload (List.mem_cons_of_mem _ member))
          start later long

/-! ## The server over a list of chunks -/

section Chunks

variable {H : Type} {sClient : SocketClientData}

/-- One chunk on a regular stream: the server delivers what the scanner takes off
the kept bytes and the chunk, and keeps what the scanner leaves. -/
theorem call_chunk {state : Run H Unit} {chunk : Bytes} (direct : state.server.nThreadNum = 0)
    (regular : Regular (state.server.contentOf sClient ++ chunk))
    (small : (state.server.contentOf sClient ++ chunk).length < 2147483648) :
    ∃ next, call state (.dataReceived sClient chunk) = some next ∧
      next.server.nThreadNum = 0 ∧ next.server.pDataHandle = state.server.pDataHandle ∧
      next.server.contents.find sClient =
        some (frameScanner.drain (state.server.contentOf sClient ++ chunk)).2 ∧
      deliveries next.log = deliveries state.log ++
        (frameScanner.drain (state.server.contentOf sClient ++ chunk)).1.map
          fun pkt => (state.server.pDataHandle, sClient, pkt) := by
  have looped := addLoop_eq_drain (regular.headersFit small)
  have left := regular.of_cursor (Scanner.cursor_drain_snd _)
  rw [left.settle_eq] at looped
  exact call_returned direct looped

/-- **A list of chunks on a regular stream.**  The induction is on the chunks; the
invariant is that the kept bytes followed by everything still to come are
regular, and that no whole packet is kept. -/
theorem calls_chunks (chunks : List Bytes) :
    ∀ {state : Run H Unit}, state.server.nThreadNum = 0 →
      frameScanner.scan (state.server.contentOf sClient) = none →
      Regular (state.server.contentOf sClient ++ chunks.flatten) →
      (∀ chunk ∈ chunks, chunk.length ≤ recvSize) →
      ∃ last, Transition.run call state (chunks.map (Call.dataReceived sClient)) = some last ∧
        deliveries last.log = deliveries state.log ++
          (frameScanner.feed (state.server.contentOf sClient) chunks).1.map
            (fun pkt => (state.server.pDataHandle, sClient, pkt)) ∧
        last.server.contents.find sClient =
          if chunks = [] then state.server.contents.find sClient
          else some (frameScanner.feed (state.server.contentOf sClient) chunks).2 := by
  induction chunks with
  | nil =>
      intro state _ _ _ _
      exact ⟨state, rfl, by simp [Scanner.feed], by simp⟩
  | cons chunk later ih =>
      intro state direct waits regular bounded
      rw [List.flatten_cons, ← List.append_assoc] at regular
      have here : Regular (state.server.contentOf sClient ++ chunk) := regular.of_append
      -- less than one packet is kept, so one more chunk does not reach `INT_MAX`
      have small : (state.server.contentOf sClient ++ chunk).length < 2147483648 := by
        have kept := (here.of_append).length_lt waits
        have size := bounded chunk (by simp)
        unfold maxPayload at kept
        unfold recvSize at size
        rw [List.length_append]
        omega
      obtain ⟨next, called, direct', sameHandle, kept, delivered⟩ := call_chunk direct here small
      have content : next.server.contentOf sClient =
          (frameScanner.drain (state.server.contentOf sClient ++ chunk)).2 := by
        rw [contentOf, kept]
        rfl
      obtain ⟨last, runs, delivered', kept'⟩ := ih direct'
        (by rw [content]; exact Scanner.scan_drain_snd _)
        (by
          rw [content]
          exact regular.of_cursor ((Scanner.cursor_drain_snd _).append _))
        (fun chunk member => bounded chunk (List.mem_cons_of_mem _ member))
      refine ⟨last, ?_, ?_, ?_⟩
      · rw [List.map_cons, Transition.run_cons, called, Option.bind_some, runs]
      · rw [delivered', delivered, content, sameHandle, Scanner.feed, List.map_append,
          List.append_assoc]
      · rw [kept', content, kept, if_neg (List.cons_ne_nil chunk later), Scanner.feed]
        split
        · next none => rw [none, Scanner.feed]
        · rfl

/-- **The framing round trip.**  Whatever way the bytes of the packets and of a
proper prefix of one more packet are cut into chunks, the data handle is given
exactly the packets, in order, each once and with its header, and the server
keeps exactly the prefix for the client. -/
theorem framing_round_trip {state : Run H Unit} {payloads : List Bytes} {payload tail : Bytes}
    {chunks : List Bytes} (direct : state.server.nThreadNum = 0)
    (absent : state.server.contents.find sClient = none)
    (sendable : ∀ payload ∈ payloads, Sendable payload) (further : Sendable payload)
    (cut : tail <+: encodePkt payload) (proper : tail ≠ encodePkt payload)
    (bytes : chunks.flatten = payloads.flatMap encodePkt ++ tail)
    (bounded : ∀ chunk ∈ chunks, 1 ≤ chunk.length ∧ chunk.length ≤ recvSize) :
    ∃ last, Transition.run call state (chunks.map (Call.dataReceived sClient)) = some last ∧
      deliveries last.log = deliveries state.log ++
        payloads.map (fun payload => (state.server.pDataHandle, sClient, encodePkt payload)) ∧
      last.server.contents.find sClient = if chunks = [] then none else some tail := by
  obtain ⟨waits, regular⟩ := regular_of_prefix further cut proper
  have empty : state.server.contentOf sClient = [] := by
    rw [contentOf, absent]
    rfl
  have start : frameScanner.scan (state.server.contentOf sClient) = none := by
    rw [empty]
    rfl
  have stream : frameScanner.feed (state.server.contentOf sClient) chunks =
      (payloads.map encodePkt, tail) := by
    rw [Scanner.feed_eq_drain chunks start, empty, List.nil_append, bytes]
    exact Scanner.drain_encoded waits payloads
      fun payload member more => scan_encodePkt (sendable payload member) more
  obtain ⟨last, runs, delivered, kept⟩ := calls_chunks chunks direct start
    (by
      rw [empty, List.nil_append, bytes]
      exact regular_encoded regular payloads sendable)
    (fun chunk member => (bounded chunk member).2)
  refine ⟨last, runs, ?_, ?_⟩
  · rw [delivered, stream, List.map_map]
    rfl
  · rw [kept, stream, absent]

/-- Two packets and half a header, cut inside both headers. -/
theorem framing_round_trip_two_packets :
    ∃ last, Transition.run call (freshRun ())
        ([[2, 0, 0], [0, 7, 8, 1, 0, 0, 0], [9, 3, 0]].map (Call.dataReceived ⟨1, 2, 5⟩)) =
          some last ∧
      deliveries last.log =
        [(some (), ⟨1, 2, 5⟩, [2, 0, 0, 0, 7, 8]), (some (), ⟨1, 2, 5⟩, [1, 0, 0, 0, 9])] ∧
      last.server.contents.find ⟨1, 2, 5⟩ = some [3, 0] :=
  @framing_round_trip Unit ⟨1, 2, 5⟩ (freshRun ()) [[7, 8], [9]] [1, 2, 3] [3, 0]
    [[2, 0, 0], [0, 7, 8, 1, 0, 0, 0], [9, 3, 0]] rfl (OrderedMap.find_empty _) (by decide)
    (by decide) ⟨[0, 0, 1, 2, 3], rfl⟩ (by decide) rfl (by decide)

end Chunks

end ServerLib
