import ServerLib.RoundTrip

/-!
# What a stream means, and where it was cut

`__AddContent` sees a client's stream in the chunks that `recv` returned.  As long as
every length field is positive the framing does not depend on the chunks: that is
`ServerLib.RoundTrip`.  A length field that is zero or negative makes the loop clear
the buffer and stop.  The buffer then holds as much of the stream as happens to have
arrived, five bytes of the frame or more, and what comes behind it is read as the start
of a frame.

`received` is the outcome of a list of chunks.  `received_iff` has the two sides of it,
for every stream whose length fields leave room for one more chunk below `INT_MAX`:

* in front of the first such length field nothing depends on the chunks, and a call
  hands over the same packets in the same order;
* all ways to cut the stream have the same outcome exactly if no such field has two
  bytes behind it or more.

The second half needs two cuts with different outcomes.  They are not written down: the
loop can be made to clear five bytes or six, and `not_settled` shows by induction that
no stream has, under all cuts, the outcome of the stream without its first byte.
`Opening` is what the induction splits on: what the loop can be made to do first.
-/

namespace ServerLib

open Incremental

/-! ## Chunks of one client -/

/-- The outcome of a call behind one that handed over `front`. -/
def AddOutcome.afterPkts (front : List Bytes) : AddOutcome → AddOutcome
  | returned pkts strData => returned (front ++ pkts) strData
  | threw pkts strData => threw (front ++ pkts) strData

/-- The calls of `__AddContent` for one client, one chunk after the other; none comes
behind a call that `substr` leaves by an exception. -/
def received : Bytes → List Bytes → AddOutcome
  | strData, [] => .returned [] strData
  | strData, chunk :: later =>
      match addLoop (strData ++ chunk) with
      | .returned pkts left => (received left later).afterPkts pkts
      | .threw pkts left => .threw pkts left

/-- A way the network can cut a stream. -/
structure CutOf (stream : Bytes) (chunks : List Bytes) : Prop where
  bytes : chunks.flatten = stream
  bounded : ∀ chunk ∈ chunks, 1 ≤ chunk.length ∧ chunk.length ≤ recvSize

/-- The length fields at frame starts leave room for one more chunk: a frame that is not
complete and 4096 bytes are at most `INT_MAX` bytes together. -/
def Roomy (stream : Bytes) : Prop :=
  ∀ start, frameScanner.Cursor stream start → 4 < start.length →
    (readInt start).toInt ≤ 2147479548

/-- No length field at a frame start that is zero or negative has two bytes behind it. -/
def Agreeable (stream : Bytes) : Prop :=
  ∀ start, frameScanner.Cursor stream start → 6 ≤ start.length → 0 < (readInt start).toInt

section Outcomes

variable {strData chunk left rest stream pkt : Bytes} {chunks later pkts : List Bytes}

@[simp] theorem pkts_afterPkts (front : List Bytes) (outcome : AddOutcome) :
    (outcome.afterPkts front).pkts = front ++ outcome.pkts := by
  cases outcome <;> rfl

@[simp] theorem afterPkts_nil (outcome : AddOutcome) : outcome.afterPkts [] = outcome := by
  cases outcome <;> rfl

theorem afterPkts_singleton (pkt : Bytes) (outcome : AddOutcome) :
    outcome.afterPkts [pkt] = outcome.afterPkt pkt := by
  cases outcome <;> rfl

theorem afterPkt_inj {pkt' : Bytes} {outcome other : AddOutcome}
    (same : outcome.afterPkt pkt = other.afterPkt pkt') : pkt = pkt' ∧ outcome = other := by
  cases outcome <;> cases other <;> simp_all [AddOutcome.afterPkt]

theorem afterPkt_ne_returned {outcome : AddOutcome} :
    outcome.afterPkt pkt ≠ .returned [] left := by
  cases outcome <;> simp [AddOutcome.afterPkt]

theorem afterPkt_ne_threw {outcome : AddOutcome} : outcome.afterPkt pkt ≠ .threw [] left := by
  cases outcome <;> simp [AddOutcome.afterPkt]

theorem received_of_returned (looped : addLoop (strData ++ chunk) = .returned pkts left) :
    received strData (chunk :: later) = (received left later).afterPkts pkts := by
  rw [received, looped]

theorem CutOf.cons (cut : CutOf rest later)
    (bounded : 1 ≤ chunk.length ∧ chunk.length ≤ recvSize) :
    CutOf (chunk ++ rest) (chunk :: later) where
  bytes := by rw [List.flatten_cons, cut.bytes]
  bounded other member := by
    rcases List.mem_cons.mp member with rfl | member
    · exact bounded
    · exact cut.bounded other member

/-- A stream cut into its bytes. -/
def singles (stream : Bytes) : List Bytes := stream.map fun byte => [byte]

/-- Single bytes in front of a cut. -/
theorem CutOf.singles_append (cut : CutOf rest later) (front : Bytes) :
    CutOf (front ++ rest) (singles front ++ later) := by
  induction front with
  | nil => exact cut
  | cons byte front ih =>
      have bounded : 1 ≤ [byte].length ∧ [byte].length ≤ recvSize := by
        unfold recvSize
        simp
      exact ih.cons bounded

theorem cutOf_singles (stream : Bytes) : CutOf stream (singles stream) := by
  have nothing : CutOf [] [] := ⟨rfl, fun _ member => absurd member List.not_mem_nil⟩
  simpa using nothing.singles_append stream

/-! ## The server's map of contents -/

/-- **The outcome is the one of `CCommonServer`**: where the chunks of a client are
received without an exception, a server without packet threads has been called with
each, has given the data handle the packets, and keeps the rest. -/
theorem calls_received {H : Type} {sClient : SocketClientData} (chunks : List Bytes) :
    ∀ {state : CommonServer.Run H Unit} {pkts : List Bytes} {left : Bytes},
      state.server.nThreadNum = 0 →
      received (state.server.contentOf sClient) chunks = .returned pkts left →
      ∃ last, Transition.run CommonServer.call state
          (chunks.map (CommonServer.Call.dataReceived sClient)) = some last ∧
        CommonServer.deliveries last.log = CommonServer.deliveries state.log ++
          pkts.map (fun pkt => (state.server.pDataHandle, sClient, pkt)) ∧
        last.server.contentOf sClient = left := by
  induction chunks with
  | nil =>
      intro state pkts left _ outcome
      obtain ⟨rfl, rfl⟩ := AddOutcome.returned.inj outcome
      exact ⟨state, rfl, (List.append_nil _).symm, rfl⟩
  | cons chunk later ih =>
      intro state pkts left direct outcome
      cases looped : addLoop (state.server.contentOf sClient ++ chunk) with
      | threw first thrown =>
          rw [received, looped] at outcome
          cases outcome
      | returned first kept =>
          rw [received_of_returned looped] at outcome
          cases ends : received kept later with
          | threw more thrown =>
              rw [ends] at outcome
              cases outcome
          | returned more kept' =>
              rw [ends] at outcome
              obtain ⟨rfl, rfl⟩ := AddOutcome.returned.inj outcome
              obtain ⟨next, called, direct', sameHandle, content, delivered⟩ :=
                CommonServer.call_returned direct looped
              have content' : next.server.contentOf sClient = kept := by
                rw [CommonServer.contentOf, content]
                rfl
              obtain ⟨last, runs, delivered', left⟩ := ih direct' (content'.symm ▸ ends)
              refine ⟨last, ?_, ?_, left⟩
              · rw [List.map_cons, Transition.run_cons, called, Option.bind_some, runs]
              · rw [delivered', delivered, sameHandle, List.map_append, List.append_assoc]

/-! ## In front of the first abnormal length field -/

/-- The loop leaves such a buffer as it is: no frame is complete, and no length field
makes it clear the buffer. -/
structure Waits (strData : Bytes) : Prop where
  incomplete : ¬ FrameAt strData
  positive : 4 < strData.length → 0 < (readInt strData).toInt

theorem Waits.settle_eq (waits : Waits strData) : settle strData = strData := by
  unfold settle
  split
  · next bad =>
      have := waits.positive bad.1
      omega
  · rfl

theorem waits_nil : Waits [] :=
  ⟨fun frame => absurd frame.1 (by decide), fun long => absurd long (by decide)⟩

/-- Where the loop stops, it waits or clears the buffer. -/
theorem waits_or_abnormal (incomplete : ¬ FrameAt strData) :
    Waits strData ∨ 4 < strData.length ∧ (readInt strData).toInt ≤ 0 := by
  by_cases bad : 4 < strData.length ∧ (readInt strData).toInt ≤ 0
  · exact Or.inr bad
  · exact Or.inl ⟨incomplete, fun long => by omega⟩

theorem Roomy.of_cursor (roomy : Roomy stream) (here : frameScanner.Cursor stream rest) :
    Roomy rest :=
  fun start there => roomy start (here.trans there)

theorem Roomy.of_append {more : Bytes} (roomy : Roomy (stream ++ more)) : Roomy stream := by
  intro start here long
  have value := roomy (start ++ more) (here.append more) (by rw [List.length_append]; omega)
  rwa [readInt_append (by omega)] at value

theorem Roomy.headersFit (roomy : Roomy stream) (small : stream.length < 2147483648) :
    HeadersFit stream := by
  intro start here long _
  have value := roomy start here long
  have := here.length_le
  omega

/-- One more chunk behind a buffer in which the loop waits does not reach `INT_MAX`. -/
theorem Roomy.length_lt (roomy : Roomy (strData ++ chunk)) (waits : Waits strData)
    (bounded : chunk.length ≤ recvSize) : (strData ++ chunk).length < 2147483648 := by
  unfold recvSize at bounded
  rw [List.length_append]
  by_cases long : 4 < strData.length
  · have value := roomy.of_append strData .start long
    have positive := waits.positive long
    have incomplete := waits.incomplete
    unfold FrameAt at incomplete
    omega
  · omega

/-- **In front of the first abnormal length field nothing depends on the chunks**, and
behind it nothing does if there is at most one byte.  The induction is on the chunks. -/
theorem received_roomy (chunks : List Bytes) :
    ∀ {strData : Bytes}, Waits strData → Roomy (strData ++ chunks.flatten) →
      (∀ chunk ∈ chunks, 1 ≤ chunk.length ∧ chunk.length ≤ recvSize) →
      (frameScanner.drain (strData ++ chunks.flatten)).1 <+: (received strData chunks).pkts ∧
        (Agreeable (strData ++ chunks.flatten) →
          received strData chunks =
            .returned (frameScanner.drain (strData ++ chunks.flatten)).1
              (settle (frameScanner.drain (strData ++ chunks.flatten)).2)) := by
  induction chunks with
  | nil =>
      intro strData waits _ _
      have stops := Scanner.drain_of_none (scan_eq_none_iff.mpr waits.incomplete)
      rw [List.flatten_nil, List.append_nil, stops, waits.settle_eq]
      exact ⟨List.nil_prefix, fun _ => rfl⟩
  | cons chunk later ih =>
      intro strData waits roomy bounded
      rw [List.flatten_cons, ← List.append_assoc] at roomy ⊢
      have small := roomy.of_append.length_lt waits (bounded chunk List.mem_cons_self).2
      have looped := addLoop_eq_drain (roomy.of_append.headersFit small)
      have stopped := scan_eq_none_iff.mp (Scanner.scan_drain_snd (strData ++ chunk))
      have bounded' := fun other member => bounded other (List.mem_cons_of_mem chunk member)
      have behind : frameScanner.Cursor (strData ++ chunk ++ later.flatten)
          ((frameScanner.drain (strData ++ chunk)).2 ++ later.flatten) :=
        (Scanner.cursor_drain_snd _).append _
      rw [received_of_returned looped, pkts_afterPkts, Scanner.drain_append]
      generalize (frameScanner.drain (strData ++ chunk)).2 = left at stopped behind ⊢
      rcases waits_or_abnormal stopped with waits' | ⟨long, bad⟩
      · obtain ⟨front, outcome⟩ := ih waits' (roomy.of_cursor behind) bounded'
        rw [waits'.settle_eq]
        refine ⟨(List.prefix_append_right_inj _).mpr front, fun agreeable => ?_⟩
        rw [outcome fun start there => agreeable start (behind.trans there)]
        rfl
      · -- the rest of the stream comes behind the abnormal length field
        have bad' : (readInt (left ++ later.flatten)).toInt ≤ 0 := by
          rwa [readInt_append (by omega)]
        have stops : ¬ FrameAt (left ++ later.flatten) := fun frame => by
          have := frame.2.1
          omega
        rw [Scanner.drain_of_none (scan_eq_none_iff.mpr stops), List.append_nil]
        refine ⟨List.prefix_append _ _, fun agreeable => ?_⟩
        have short : later.flatten.length + left.length < 6 := by
          by_contra large
          have := agreeable _ behind (by rw [List.length_append]; omega)
          omega
        have none : later = [] := by
          cases later with
          | nil => rfl
          | cons next others =>
              have := (bounded' next List.mem_cons_self).1
              rw [List.flatten_cons, List.length_append] at short
              omega
        subst none
        rw [List.flatten_nil, List.append_nil, settle, if_pos ⟨long, bad⟩]
        exact congrArg₂ AddOutcome.returned (List.append_nil _) rfl

/-! ## Two cuts with different outcomes -/

/-- All cuts of a stream have one outcome. -/
def Settled (stream : Bytes) (outcome : AddOutcome) : Prop :=
  ∀ chunks, CutOf stream chunks → received [] chunks = outcome

/-- What a stream with one outcome begins with. -/
inductive Opening : Bytes → AddOutcome → Prop where
  /-- It is a front of a frame, and stays in the buffer. -/
  | waits (stream : Bytes) : Opening stream (.returned [] stream)
  /-- It is an abnormal length field and one byte, and is cleared. -/
  | clears {stream : Bytes} (five : stream.length = 5) : Opening stream (.returned [] [])
  /-- It is an abnormal length field and more, of which five bytes can be cleared, or
  six. -/
  | clearsMore {stream : Bytes} {outcome : AddOutcome} (more : 6 ≤ stream.length)
      (five : Settled (stream.drop 5) outcome) (six : Settled (stream.drop 6) outcome) :
      Opening stream outcome
  /-- It is a frame, which is handed over. -/
  | frame {pkt rest : Bytes} {outcome : AddOutcome} (nonempty : 0 < pkt.length)
      (behind : Settled rest outcome) : Opening (pkt ++ rest) (outcome.afterPkt pkt)
  /-- It is a length field with which `nPktLen + 4` overflows. -/
  | throws {stream : Bytes} (overflow : 2147483643 < (readInt stream).toInt) :
      Opening stream (.threw [] (stream.take 5))

/-- Bytes that arrive one by one while the loop leaves the buffer as it is. -/
theorem received_singles (back : Bytes) :
    ∀ {front : Bytes},
      (∀ middle, middle <+: back → addLoop (front ++ middle) = .returned [] (front ++ middle)) →
      received front (singles back ++ later) = received (front ++ back) later := by
  induction back with
  | nil =>
      intro front _
      rw [List.append_nil]
      rfl
  | cons byte back ih =>
      intro front stays
      have first := stays [byte] (List.prefix_append [byte] back)
      have cut : singles (byte :: back) ++ later = [byte] :: (singles back ++ later) := rfl
      rw [cut, received_of_returned first, afterPkts_nil, ih fun middle isPrefix => ?_,
        List.append_assoc]
      · rfl
      · have longer := stays (byte :: middle) ((List.prefix_cons_inj byte).mpr isPrefix)
        rwa [List.append_cons] at longer

/-- The loop waits at every front of a frame. -/
theorem addLoop_of_prefix {front : Bytes} (isPrefix : front <+: stream)
    (regular : 4 < stream.length →
      0 < (readInt stream).toInt ∧ (readInt stream).toInt ≤ 2147483643 ∧
        (front.length : Int) < (readInt stream).toInt + 4) :
    addLoop front = .returned [] front := by
  obtain ⟨more, rfl⟩ := isPrefix
  have value : 4 < front.length → (readInt front).toInt ≤ 2147483643 ∧
      0 < (readInt front).toInt ∧ (front.length : Int) < (readInt front).toInt + 4 := by
    intro long
    obtain ⟨positive, fits, short⟩ := regular (by rw [List.length_append]; omega)
    rw [readInt_append (by omega)] at positive fits short
    exact ⟨fits, positive, short⟩
  have waits : Waits front :=
    ⟨fun frame => by have := value frame.1; have := frame.2.2; omega, fun long => (value long).2.1⟩
  have fits : HeaderFits front := fun long _ => by
    have := value long
    omega
  rw [addLoop_of_not_frameAt fits waits.incomplete, waits.settle_eq]

/-- An abnormal length field clears the buffer. -/
theorem addLoop_of_nonpos (long : 4 < strData.length) (bad : (readInt strData).toInt ≤ 0) :
    addLoop strData = .returned [] [] := by
  have stops : ¬ FrameAt strData := fun frame => by
    have := frame.2.1
    omega
  have fits : HeaderFits strData := fun _ positive => by omega
  rw [addLoop_of_not_frameAt fits stops, settle, if_pos ⟨long, bad⟩]

/-- A length field above `INT_MAX - 4` makes `substr` throw. -/
theorem addLoop_of_overflow (five : strData.length = 5)
    (overflow : 2147483643 < (readInt strData).toInt) :
    addLoop strData = .threw [] strData := by
  have bound := (readInt strData).toInt_lt
  have sum := toInt_add_four (show 0 < (readInt strData).toInt by omega)
  rw [if_neg (by omega)] at sum
  have size := toInt_ofNat_of_lt (show strData.length < 2147483648 by omega)
  refine addLoop_of_throws
    (pass_eq_handle_iff.mpr ⟨by omega, by omega, rfl, by omega⟩) (if_neg ?_)
  unfold sizeT
  omega

/-- The first bytes of a stream, while the loop leaves the buffer as it is. -/
theorem received_start (waiting : ∀ front, front <+: stream → addLoop front = .returned [] front) :
    received [] (singles stream ++ later) = received stream later :=
  received_singles stream waiting

theorem readInt_take {size : ℕ} (four : 4 ≤ size) (long : 4 ≤ stream.length) :
    readInt (stream.take size) = readInt stream := by
  conv_rhs => rw [← List.take_append_drop size stream]
  exact (readInt_append (by rw [List.length_take]; omega) _).symm

/-- The frame at the front of a stream, on its own. -/
theorem FrameAt.take (frame : FrameAt stream) :
    FrameAt (stream.take (frameLength stream)) ∧
      (stream.take (frameLength stream)).length = frameLength stream ∧
      readInt (stream.take (frameLength stream)) = readInt stream := by
  obtain ⟨low, high⟩ := frame.frameLength_le
  have length : (stream.take (frameLength stream)).length = frameLength stream :=
    List.length_take_of_le high
  have value : readInt (stream.take (frameLength stream)) = readInt stream :=
    readInt_take (by omega) (by omega)
  refine ⟨⟨by omega, value ▸ frame.2.1, ?_⟩, length, value⟩
  rw [value, length, frameLength]
  omega

/-- A frame that arrives byte by byte is handed over with its last byte. -/
theorem received_frame (frame : FrameAt pkt) (whole : (readInt pkt).toInt + 4 = pkt.length)
    (fits : (readInt pkt).toInt ≤ 2147483643) :
    received [] (singles pkt ++ later) = (received [] later).afterPkt pkt := by
  have length : frameLength pkt = pkt.length := by
    unfold frameLength
    omega
  have taken : addLoop pkt = .returned [pkt] [] := by
    have empty : addLoop [] = .returned [] [] := addLoop_of_leave (Or.inl rfl)
    rw [addLoop_of_frameAt (fun _ _ => by omega) frame, length, List.drop_length, empty,
      List.take_length]
    rfl
  obtain rfl | ⟨front, byte, rfl⟩ := List.eq_nil_or_concat' pkt
  · exact absurd frame.1 (Nat.not_lt_zero 4)
  · have positive := frame.2.1
    rw [List.length_append, List.length_singleton] at whole
    have waiting : ∀ middle, middle <+: front → addLoop middle = .returned [] middle := by
      intro middle isPrefix
      have short := isPrefix.length_le
      exact addLoop_of_prefix (isPrefix.trans (List.prefix_append front [byte]))
        fun _ => by omega
    have cut : singles (front ++ [byte]) ++ later = singles front ++ [byte] :: later := by
      simp [singles]
    rw [cut, received_start waiting, received_of_returned taken, afterPkts_singleton]

/-- A cut whose first chunk is five or six bytes. -/
theorem CutOf.of_drop {size : ℕ} (cut : CutOf (stream.drop size) later)
    (five : 5 ≤ size) (six : size ≤ 6) (enough : size ≤ stream.length) :
    CutOf stream (stream.take size :: later) := by
  have bounded : 1 ≤ (stream.take size).length ∧ (stream.take size).length ≤ recvSize := by
    rw [List.length_take_of_le enough]
    unfold recvSize
    omega
  simpa using cut.cons bounded

section Openings

variable {outcome : AddOutcome}

/-- Where the loop would wait at the end of the stream, it waits all the time. -/
theorem Settled.waits (settled : Settled stream outcome)
    (regular : 4 < stream.length → 0 < (readInt stream).toInt ∧
      (readInt stream).toInt ≤ 2147483643 ∧ (stream.length : Int) < (readInt stream).toInt + 4) :
    Opening stream outcome := by
  have waiting : ∀ front, front <+: stream → addLoop front = .returned [] front := by
    intro front isPrefix
    have short := isPrefix.length_le
    refine addLoop_of_prefix isPrefix fun long => ?_
    have := regular long
    omega
  rw [← settled _ (cutOf_singles stream), ← List.append_nil (singles stream),
    received_start waiting]
  exact .waits stream

/-- Of a stream with an abnormal length field five bytes can be cleared, or six. -/
theorem Settled.cleared (settled : Settled stream outcome) {size : ℕ} (five : 5 ≤ size)
    (six : size ≤ 6) (enough : size ≤ stream.length) (bad : (readInt stream).toInt ≤ 0) :
    Settled (stream.drop size) outcome := by
  intro chunks cut
  have clears : addLoop ([] ++ stream.take size) = .returned [] [] := by
    refine addLoop_of_nonpos ?_ ?_
    · rw [List.nil_append, List.length_take_of_le enough]
      omega
    · rwa [List.nil_append, readInt_take (by omega) (by omega)]
  rw [← settled _ (cut.of_drop five six enough), received_of_returned clears, afterPkts_nil]

theorem Settled.abnormal (settled : Settled stream outcome) (long : 4 < stream.length)
    (bad : (readInt stream).toInt ≤ 0) : Opening stream outcome := by
  have five := settled.cleared (Nat.le_refl 5) (Nat.le_succ 5) long bad
  by_cases more : 6 ≤ stream.length
  · exact .clearsMore more five (settled.cleared (Nat.le_succ 5) (Nat.le_refl 6) more bad)
  · have length : stream.length = 5 := by omega
    have nothing : CutOf (stream.drop 5) [] :=
      ⟨(List.drop_eq_nil_of_le (Nat.le_of_eq length)).symm, fun _ member => nomatch member⟩
    rw [← five [] nothing]
    exact .clears length

/-- Behind its first frame a stream with one outcome has one outcome. -/
theorem Settled.behind (settled : Settled stream outcome) (frame : FrameAt stream)
    (fits : (readInt stream).toInt ≤ 2147483643) :
    ∃ rest, Settled (stream.drop (frameLength stream)) rest ∧
      rest.afterPkt (stream.take (frameLength stream)) = outcome := by
  obtain ⟨frame', length, same⟩ := frame.take
  have positive := frame.2.1
  have whole : (readInt (stream.take (frameLength stream))).toInt + 4 =
      (stream.take (frameLength stream)).length := by
    rw [same, length, frameLength]
    omega
  have here : ∀ chunks, CutOf (stream.drop (frameLength stream)) chunks →
      (received [] chunks).afterPkt (stream.take (frameLength stream)) = outcome := by
    intro chunks cut
    have longer := cut.singles_append (stream.take (frameLength stream))
    rw [List.take_append_drop] at longer
    rw [← settled _ longer, received_frame frame' whole (same ▸ fits)]
  have first := here _ (cutOf_singles _)
  exact ⟨_, fun chunks cut => (afterPkt_inj ((here chunks cut).trans first.symm)).2, first⟩

theorem Settled.frame (settled : Settled stream outcome) (frame : FrameAt stream)
    (fits : (readInt stream).toInt ≤ 2147483643) : Opening stream outcome := by
  obtain ⟨rest, behind, first⟩ := settled.behind frame fits
  have opening := Opening.frame (Nat.zero_lt_of_lt frame.take.1.1) behind
  rwa [List.take_append_drop, first] at opening

theorem Settled.overflow (settled : Settled stream outcome) (long : 4 < stream.length)
    (overflow : 2147483643 < (readInt stream).toInt) : Opening stream outcome := by
  have five : (stream.take 5).length = 5 := List.length_take_of_le long
  have thrown : addLoop ([] ++ stream.take 5) = .threw [] (stream.take 5) :=
    addLoop_of_overflow five (by rwa [List.nil_append, readInt_take (by omega) (by omega)])
  have cut := (cutOf_singles (stream.drop 5)).of_drop (Nat.le_refl 5) (Nat.le_succ 5) long
  rw [← settled _ cut, received, thrown]
  exact .throws overflow

/-- Every stream with one outcome begins in one of these ways. -/
theorem Settled.opening (settled : Settled stream outcome) : Opening stream outcome := by
  by_cases long : 4 < stream.length
  · rcases Int.lt_or_le 0 (readInt stream).toInt with positive | bad
    · rcases Int.lt_or_le 2147483643 (readInt stream).toInt with overflow | fits
      · exact settled.overflow long overflow
      · by_cases complete : (readInt stream).toInt + 4 ≤ stream.length
        · exact settled.frame ⟨long, positive, complete⟩ fits
        · exact settled.waits fun _ => ⟨positive, fits, by omega⟩
    · exact settled.abnormal long bad
  · exact settled.waits fun long' => absurd long' long

end Openings

/-- The first five bytes of a stream that overflows are not those of the stream without
its first byte: they would be five times the same. -/
theorem take_ne_of_overflow {byte : Byte}
    (overflow : 2147483643 < (readInt (byte :: stream)).toInt) :
    (byte :: stream).take 5 ≠ stream.take 5 := by
  intro same
  have next : ∀ i < 5, (byte :: stream).getD i 0 = stream.getD i 0 := by
    intro i small
    have here := congrArg (fun bytes => bytes.getD i 0) same
    simpa only [List.getD_eq_getElem?_getD, List.getElem?_take_of_lt small] using here
  have second : (byte :: stream).getD 1 0 = byte := (next 0 (by omega)).symm
  have third : (byte :: stream).getD 2 0 = byte := (next 1 (by omega)).symm.trans second
  have fourth : (byte :: stream).getD 3 0 = byte := (next 2 (by omega)).symm.trans third
  rw [readInt, second, third, fourth, List.getD_cons_zero, Int32.toInt_ofNat', Int.bmod_def,
    Int32.size] at overflow
  have bound := byte.toNat_lt
  norm_num at overflow
  have word : ((byte.toNat : Int) + 256 * byte.toNat + 65536 * byte.toNat +
      16777216 * byte.toNat) % 4294967296 = 16843009 * byte.toNat := by omega
  rw [word] at overflow
  split at overflow <;> omega

/-- **No stream has, under all cuts, the outcome of the stream without its first byte.**
The induction is on the length.  Either the outcomes begin differently, or both begin
with the same frame, or one of the two can be cleared by five bytes or six. -/
theorem not_settled {byte : Byte} {outcome : AddOutcome}
    (whole : Settled (byte :: stream) outcome) (tail : Settled stream outcome) : False := by
  induction total : stream.length using Nat.strongRecOn generalizing byte stream outcome with
  | ind size ih =>
      have cleared {bytes : Bytes} {outcome : AddOutcome} (more : 6 ≤ bytes.length)
          (short : bytes.length ≤ size + 1) (five : Settled (bytes.drop 5) outcome)
          (six : Settled (bytes.drop 6) outcome) : False := by
        rw [List.drop_eq_getElem_cons more] at five
        exact ih (bytes.drop 6).length (by rw [List.length_drop]; omega) five six rfl
      have first := whole.opening
      have length : (byte :: stream).length = size + 1 := by rw [List.length_cons, total]
      generalize longer : byte :: stream = long at first length
      generalize agree : outcome = other at first
      cases first with
      | clearsMore more five six => exact cleared more (Nat.le_of_eq length) five six
      | waits =>
          cases tail.opening with
          | clearsMore more five six => exact cleared more (by omega) five six
          | waits =>
              obtain ⟨-, rfl⟩ := AddOutcome.returned.inj agree
              omega
          | clears =>
              obtain ⟨-, rfl⟩ := AddOutcome.returned.inj agree
              cases longer
          | frame => exact afterPkt_ne_returned agree
          | throws => cases agree
      | clears five =>
          cases tail.opening with
          | clearsMore more five six => exact cleared more (by omega) five six
          | waits =>
              obtain ⟨-, rfl⟩ := AddOutcome.returned.inj agree
              rw [List.length_nil] at total
              omega
          | clears five' => omega
          | frame => exact afterPkt_ne_returned agree
          | throws => cases agree
      | @frame pkt rest _ nonempty behind =>
          cases tail.opening with
          | clearsMore more five six => exact cleared more (by omega) five six
          | waits => exact afterPkt_ne_returned agree.symm
          | clears => exact afterPkt_ne_returned agree.symm
          | @frame pkt' rest' _ nonempty' behind' =>
              -- the same frame, and behind it the same case again
              obtain ⟨rfl, rfl⟩ := afterPkt_inj agree
              cases rest with
              | nil =>
                  rw [List.append_nil] at length
                  rw [List.length_append] at total
                  omega
              | cons byte' rest =>
                  rw [← List.cons_append, List.append_cons] at longer
                  obtain ⟨-, rfl⟩ := List.append_inj longer (by simp)
                  exact ih rest'.length (by rw [← total, List.length_append]; omega)
                    behind behind' rfl
          | throws => exact afterPkt_ne_threw agree.symm
      | throws overflow =>
          cases tail.opening with
          | clearsMore more five six => exact cleared more (by omega) five six
          | waits => cases agree
          | clears => cases agree
          | frame => exact afterPkt_ne_threw agree
          | throws =>
              obtain ⟨-, same⟩ := AddOutcome.threw.inj agree
              exact take_ne_of_overflow (longer.symm ▸ overflow) (longer ▸ same.symm)

/-- From every frame start on a stream with one outcome has one outcome. -/
theorem Settled.of_cursor {outcome : AddOutcome} (settled : Settled stream outcome)
    (roomy : Roomy stream) (here : frameScanner.Cursor stream rest) :
    ∃ outcome', Settled rest outcome' := by
  induction here with
  | start => exact ⟨outcome, settled⟩
  | next before found ih =>
      obtain ⟨outcome', settled'⟩ := ih
      obtain ⟨frame, -, rfl⟩ := scan_eq_some_iff.mp found
      have fits := roomy _ before frame.1
      obtain ⟨behind, settled'', -⟩ := settled'.behind frame (by omega)
      exact ⟨behind, settled''⟩

/-- **What the chunks decide.**  In front of the first zero or negative length field at a
frame start a client's stream means the same however it is cut.  All cuts of it have the
same outcome exactly if no such field has two bytes behind it or more. -/
theorem received_iff (stream : Bytes) (roomy : Roomy stream) :
    (∀ chunks, CutOf stream chunks →
      (frameScanner.drain stream).1 <+: (received [] chunks).pkts) ∧
    ((∀ chunks chunks', CutOf stream chunks → CutOf stream chunks' →
      received [] chunks = received [] chunks') ↔ Agreeable stream) := by
  have outcomes {chunks : List Bytes} (cut : CutOf stream chunks) :=
    received_roomy chunks waits_nil (by rw [List.nil_append, cut.bytes]; exact roomy) cut.bounded
  simp only [List.nil_append] at outcomes
  refine ⟨fun chunks cut => cut.bytes ▸ (outcomes cut).1, fun same start here more => ?_,
    fun agreeable chunks chunks' cut cut' => ?_⟩
  · have settled : Settled stream (received [] (singles stream)) :=
      fun chunks cut => same chunks _ cut (cutOf_singles stream)
    obtain ⟨outcome, settled'⟩ := settled.of_cursor roomy here
    by_contra bad
    have five := settled'.cleared (Nat.le_refl 5) (Nat.le_succ 5) (by omega) (by omega)
    have six := settled'.cleared (Nat.le_succ 5) (Nat.le_refl 6) more (by omega)
    rw [List.drop_eq_getElem_cons more] at five
    exact not_settled five six
  · have first := (outcomes cut).2 (cut.bytes ▸ agreeable)
    have second := (outcomes cut').2 (cut'.bytes ▸ agreeable)
    rw [first, second, cut.bytes, cut'.bytes]

end Outcomes

/-- A packet, then a length field that is zero, and one byte behind it. -/
def zeroAtEnd : Bytes := [1, 0, 0, 0, 7, 0, 0, 0, 0, 9]

theorem received_zeroAtEnd :
    received [] [[1, 0, 0, 0, 7, 0, 0], [0, 0, 9]] = received [] [zeroAtEnd] := by
  have roomy : Roomy zeroAtEnd := by unfold Roomy; decide +kernel
  have agreeable : Agreeable zeroAtEnd := by unfold Agreeable; decide +kernel
  exact (received_iff zeroAtEnd roomy).2.mpr agreeable _ _ ⟨rfl, by decide⟩ ⟨rfl, by decide⟩

/-- A zero length field with six bytes behind it: a packet is handed over, or nothing. -/
theorem received_depends_on_chunks :
    ¬ ∀ stream : Bytes, (∀ start, frameScanner.Cursor stream start → 4 < start.length →
        (readInt start).toInt ≤ 2147483643) →
      ∀ chunks chunks', CutOf stream chunks → CutOf stream chunks' →
        received [] chunks = received [] chunks' := by
  intro claim
  have same := claim [0, 0, 0, 0, 7, 1, 0, 0, 0, 9] (by decide +kernel)
    [[0, 0, 0, 0, 7], [1, 0, 0, 0, 9]] [[0, 0, 0, 0, 7, 1, 0, 0, 0, 9]]
    ⟨rfl, by decide⟩ ⟨rfl, by decide⟩
  revert same
  decide +kernel

end ServerLib
