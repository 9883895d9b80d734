import Mathlib.Tactic.Linarith
import ServerLib.Library.Incremental
import ServerLib.Library.Transition
import ServerLib.Socket

/-!
# The framing loop of `CCommonServer::__AddContent`

Packets arrive as a four-byte little-endian length followed by that many payload
bytes.  `__AddContent` appends each received chunk to the client's buffer and
then takes packets off the front in a loop (commonserver.cpp):

```
while (strData.size() > 4) {
    int nPktLen = *(int*)&strData[0];
    if (nPktLen <= 0) { strData.clear(); break; }
    if ((int)strData.size() >= (nPktLen + 4)) {
        __HandlePkt(sClient, strData.c_str(), nPktLen + 4);
        strData = strData.substr(nPktLen+4);
    } else break;
}
```

The length is chosen by the peer over the whole range of `int`, so the loop is
modelled with the machine arithmetic it has: `nPktLen + 4` and
`(int)strData.size()` are 32-bit operations, and the position given to `substr`
is the sum converted to `size_t`.  `substr` throws when the position lies past
the end; an exception leaves the call.

* `pass` is one evaluation of the loop condition and body, up to and including
  the arguments of `__HandlePkt`;
* `addLoop` is the loop, with the packets handed over and the way the call ends;
* `frameScanner` is the same framing in exact arithmetic, as an instance of the
  scanner library, and `Cursor` positions of it are the frame starts of a buffer.

`HeadersFit` says that no length field above `INT_MAX - 4` is met at a frame
start, and that the buffer is below two gibibytes where a length is compared
with it.  On such a buffer the machine arithmetic is exact, the loop is the
library's `drain` (`addLoop_eq_drain`), and every obligation of the call is met;
`callSafe_iff_headersFit` shows the condition is also necessary.
-/

namespace ServerLib

open Incremental

/-! ## Reading and writing an `int` -/

/-- `*(int*)p`: the first four bytes, little-endian two's complement. -/
def readInt (p : Bytes) : Int32 :=
  Int32.ofNat ((p.getD 0 0).toNat + 256 * (p.getD 1 0).toNat +
    65536 * (p.getD 2 0).toNat + 16777216 * (p.getD 3 0).toNat)

/-- The four bytes `(char*)&n .. (char*)&n + 4`. -/
def intBytes (n : Int32) : Bytes :=
  let word := n.toUInt32.toNat
  [UInt8.ofNat word, UInt8.ofNat (word / 256), UInt8.ofNat (word / 65536),
    UInt8.ofNat (word / 16777216)]

/-- The conversion of an `int` to a 64-bit `size_t`. -/
def sizeT (n : Int32) : ℕ := (n.toInt % 18446744073709551616).toNat

@[simp] theorem length_intBytes (n : Int32) : (intBytes n).length = 4 := rfl

/-- Only the first four bytes are read. -/
theorem readInt_append {p : Bytes} (long : 4 ≤ p.length) (more : Bytes) :
    readInt (p ++ more) = readInt p := by
  have same : ∀ i < 4, (p ++ more).getD i 0 = p.getD i 0 := by
    intro i small
    simp only [List.getD_eq_getElem?_getD]
    rw [List.getElem?_append_left (by omega)]
  simp only [readInt, same 0 (by omega), same 1 (by omega), same 2 (by omega),
    same 3 (by omega)]

theorem readInt_intBytes (n : Int32) : readInt (intBytes n) = n := by
  have digits : ∀ word : ℕ, word < 4294967296 →
      word % 256 + 256 * (word / 256 % 256) + 65536 * (word / 65536 % 256) +
        16777216 * (word / 16777216 % 256) = word := by
    intro word bound
    omega
  have back : Int32.ofNat n.toUInt32.toNat = n := by
    apply Int32.toInt_inj.mp
    rw [Int32.toInt_ofNat']
    exact (BitVec.toInt_eq_toNat_bmod n.toBitVec).symm
  simp only [readInt, intBytes, List.getD_cons_zero, List.getD_cons_succ,
    UInt8.toNat_ofNat', Nat.reducePow]
  rw [digits _ n.toUInt32.toNat_lt, back]

/-- A non-negative `int` keeps its value as a `size_t`. -/
theorem sizeT_of_nonneg {n : Int32} (nonneg : 0 ≤ n.toInt) : sizeT n = n.toInt.toNat := by
  have := n.toInt_lt
  unfold sizeT
  rw [Int.emod_eq_of_lt nonneg (by omega)]

/-- The sum `nPktLen + 4` as the machine computes it: exact up to `INT_MAX - 4`,
and negative beyond. -/
theorem toInt_add_four {n : Int32} (pos : 0 < n.toInt) :
    (n + 4).toInt =
      if n.toInt ≤ 2147483643 then n.toInt + 4 else n.toInt + 4 - 4294967296 := by
  have bound := n.toInt_lt
  have four : (4 : Int32).toInt = 4 := rfl
  rw [Int32.toInt_add, four, Int.bmod_def]
  norm_num
  split <;> split <;> omega

/-- The cast `(int)strData.size()` never exceeds the size. -/
theorem toInt_ofNat_le (size : ℕ) : (Int32.ofNat size).toInt ≤ size := by
  rw [Int32.toInt_ofNat', Int.bmod_def, Int32.size]
  norm_num
  split <;> omega

theorem toInt_ofNat_of_lt {size : ℕ} (small : size < 2147483648) :
    (Int32.ofNat size).toInt = size :=
  Int32.toInt_ofNat_of_lt (by norm_num; exact small)

/-- The cast keeps the value only below two gibibytes. -/
theorem toInt_ofNat_eq_iff {size : ℕ} :
    (Int32.ofNat size).toInt = size ↔ size < 2147483648 := by
  refine ⟨fun exact => ?_, toInt_ofNat_of_lt⟩
  have := (Int32.ofNat size).toInt_lt
  omega

/-! ## The loop -/

/-- One evaluation of the loop condition and of the body's tests. -/
inductive Pass where
  /-- `strData.size() > 4` fails: the loop ends. -/
  | done
  /-- A length field that is not positive: `strData.clear(); break`. -/
  | abnormal
  /-- The packet is not complete yet: `break`. -/
  | incomplete
  /-- `__HandlePkt(sClient, strData.c_str(), nDataLen)`, then
  `strData = strData.substr(nDataLen)`. -/
  | handle (nDataLen : Int32)
  deriving DecidableEq, Repr

/-- The tests of one pass through the loop of `__AddContent`. -/
def pass (strData : Bytes) : Pass :=
  if strData.length > 4 then
    let nPktLen := readInt strData
    if nPktLen ≤ 0 then
      .abnormal
    else if Int32.ofNat strData.length ≥ nPktLen + 4 then
      .handle (nPktLen + 4)
    else
      .incomplete
  else
    .done

/-- `strData.substr(pos)`; `none` is the `std::out_of_range` it throws. -/
def substr (strData : Bytes) (pos : ℕ) : Option Bytes :=
  if pos ≤ strData.length then some (strData.drop pos) else none

/-- How a call ends: the packets handed to `__HandlePkt` in order, and the
buffer left behind — or the buffer `substr` threw on. -/
inductive AddOutcome where
  | returned (pkts : List Bytes) (strData : Bytes)
  | threw (pkts : List Bytes) (strData : Bytes)
  deriving DecidableEq, Repr

namespace AddOutcome

/-- The buffer a call leaves behind, if it returns. -/
def kept : AddOutcome → Option Bytes
  | returned _ strData => some strData
  | threw _ _ => none

/-- The packets handed over, however the call ended. -/
def pkts : AddOutcome → List Bytes
  | returned pkts _ => pkts
  | threw pkts _ => pkts

/-- The outcome of a call that handed over `pkt` first. -/
def afterPkt (pkt : Bytes) : AddOutcome → AddOutcome
  | returned pkts strData => returned (pkt :: pkts) strData
  | threw pkts strData => threw (pkt :: pkts) strData

@[simp] theorem pkts_afterPkt (pkt : Bytes) (outcome : AddOutcome) :
    (outcome.afterPkt pkt).pkts = pkt :: outcome.pkts := by
  cases outcome <;> rfl

@[simp] theorem kept_afterPkt (pkt : Bytes) (outcome : AddOutcome) :
    (outcome.afterPkt pkt).kept = outcome.kept := by
  cases outcome <;> rfl

end AddOutcome

theorem pass_eq_handle_iff {strData : Bytes} {nDataLen : Int32} :
    pass strData = .handle nDataLen ↔
      4 < strData.length ∧ 0 < (readInt strData).toInt ∧
        nDataLen = readInt strData + 4 ∧
        (readInt strData + 4).toInt ≤ (Int32.ofNat strData.length).toInt := by
  have zero : (0 : Int32).toInt = 0 := rfl
  unfold pass
  simp only [ge_iff_le, Int32.le_iff_toInt_le, zero]
  constructor
  · intro taken
    split at taken
    · next long =>
        split at taken
        · cases taken
        · next positive =>
            split at taken
            · next complete =>
                cases taken
                exact ⟨long, by omega, rfl, complete⟩
            · cases taken
    · cases taken
  · rintro ⟨long, positive, rfl, complete⟩
    rw [if_pos long, if_neg (by omega), if_pos complete]

/-- The position given to `substr` is never zero, so a pass that goes on makes
the buffer shorter. -/
theorem length_substr_lt {strData rest : Bytes} {nDataLen : Int32}
    (taken : pass strData = .handle nDataLen)
    (cut : substr strData (sizeT nDataLen) = some rest) : rest.length < strData.length := by
  obtain ⟨long, positive, rfl, -⟩ := pass_eq_handle_iff.mp taken
  have sum := toInt_add_four positive
  have bound := (readInt strData).toInt_lt
  have moved : 0 < sizeT (readInt strData + 4) := by
    unfold sizeT
    split at sum <;> omega
  unfold substr at cut
  split at cut
  · cases cut
    rw [List.length_drop]
    omega
  · cases cut

/-- The loop of `__AddContent` on the buffer after the insertion. -/
def addLoop (strData : Bytes) : AddOutcome :=
  match _taken : pass strData with
  | .done => .returned [] strData
  | .abnormal => .returned [] []
  | .incomplete => .returned [] strData
  | .handle nDataLen =>
      match _cut : substr strData (sizeT nDataLen) with
      | none => .threw [] strData
      | some rest => (addLoop rest).afterPkt (strData.take (sizeT nDataLen))
termination_by strData.length
decreasing_by exact length_substr_lt _taken _cut

/-- The loop ends at a buffer that is too short or not complete yet. -/
theorem addLoop_of_leave {strData : Bytes}
    (leaves : pass strData = .done ∨ pass strData = .incomplete) :
    addLoop strData = .returned [] strData := by
  rw [addLoop]
  split
  · rfl
  · next found => simp [found] at leaves
  · rfl
  · next found => simp [found] at leaves

/-- The loop drops a buffer with a length field that is not positive. -/
theorem addLoop_of_abnormal {strData : Bytes} (found : pass strData = .abnormal) :
    addLoop strData = .returned [] [] := by
  rw [addLoop]
  split
  · next other => rw [found] at other; cases other
  · rfl
  · next other => rw [found] at other; cases other
  · next other => rw [found] at other; cases other

/-- The loop hands one packet over and goes on behind it. -/
theorem addLoop_of_handle {strData rest : Bytes} {nDataLen : Int32}
    (found : pass strData = .handle nDataLen)
    (cut : substr strData (sizeT nDataLen) = some rest) :
    addLoop strData = (addLoop rest).afterPkt (strData.take (sizeT nDataLen)) := by
  rw [addLoop]
  split
  · next other => rw [found] at other; cases other
  · next other => rw [found] at other; cases other
  · next other => rw [found] at other; cases other
  · next other =>
      rw [found] at other
      cases other
      split
      · next threw => rw [cut] at threw; cases threw
      · next cut' =>
          rw [cut, Option.some_inj] at cut'
          rw [cut']

/-- The loop is left by the exception of `substr`. -/
theorem addLoop_of_throws {strData : Bytes} {nDataLen : Int32}
    (found : pass strData = .handle nDataLen) (cut : substr strData (sizeT nDataLen) = none) :
    addLoop strData = .threw [] strData := by
  rw [addLoop]
  split
  · next other => rw [found] at other; cases other
  · next other => rw [found] at other; cases other
  · next other => rw [found] at other; cases other
  · next other =>
      rw [found] at other
      cases other
      split
      · rfl
      · next returned => rw [cut] at returned; cases returned

/-- The buffers at which one call evaluates the loop condition. -/
inductive LoopHead (strData : Bytes) : Bytes → Prop where
  | enter : LoopHead strData strData
  | again {head rest : Bytes} {nDataLen : Int32} : LoopHead strData head →
      pass head = .handle nDataLen → substr head (sizeT nDataLen) = some rest →
      LoopHead strData rest

/-- One received chunk: insert it at the end of the kept bytes and run the loop.
`none` is a call that did not return. -/
def receive (strData chunk : Bytes) : Option Bytes :=
  match addLoop (strData ++ chunk) with
  | .returned _ left => some left
  | .threw _ _ => none

/-! ## The same framing in exact arithmetic -/

/-- A frame is complete when its length is positive and all of it is there. -/
def FrameAt (buffer : Bytes) : Prop :=
  4 < buffer.length ∧ 0 < (readInt buffer).toInt ∧
    (readInt buffer).toInt + 4 ≤ buffer.length

instance (buffer : Bytes) : Decidable (FrameAt buffer) :=
  inferInstanceAs (Decidable (_ ∧ _ ∧ _))

/-- The length of the frame at the front of a buffer, header included. -/
def frameLength (buffer : Bytes) : ℕ := ((readInt buffer).toInt + 4).toNat

theorem FrameAt.append {buffer : Bytes} (frame : FrameAt buffer) (more : Bytes) :
    FrameAt (buffer ++ more) := by
  obtain ⟨long, positive, complete⟩ := frame
  rw [FrameAt, readInt_append (by omega), List.length_append]
  exact ⟨by omega, positive, by omega⟩

theorem FrameAt.frameLength_le {buffer : Bytes} (frame : FrameAt buffer) :
    4 < frameLength buffer ∧ frameLength buffer ≤ buffer.length := by
  obtain ⟨long, positive, complete⟩ := frame
  unfold frameLength
  omega

/-- The framing of the protocol as a scanner: cut one whole frame off the front,
header included. -/
def frameScanner : Scanner Byte Bytes where
  scan buffer :=
    if FrameAt buffer then
      some (buffer.take (frameLength buffer), buffer.drop (frameLength buffer))
    else
      none
  scan_shorter := by
    intro buffer item rest found
    split at found
    · next frame =>
        have := frame.frameLength_le
        cases found
        rw [List.length_drop]
        omega
    · cases found
  scan_extend := by
    intro buffer item rest more found
    split at found
    · next frame =>
        obtain ⟨-, fits⟩ := frame.frameLength_le
        have same : frameLength (buffer ++ more) = frameLength buffer := by
          unfold frameLength
          rw [readInt_append (by have := frame.1; omega)]
        cases found
        rw [if_pos (frame.append more), same, List.take_append_of_le_length fits,
          List.drop_append_of_le_length fits]
    · cases found

theorem scan_of_frameAt {buffer : Bytes} (frame : FrameAt buffer) :
    frameScanner.scan buffer =
      some (buffer.take (frameLength buffer), buffer.drop (frameLength buffer)) :=
  if_pos frame

theorem scan_eq_none_iff {buffer : Bytes} :
    frameScanner.scan buffer = none ↔ ¬ FrameAt buffer := by
  by_cases frame : FrameAt buffer
  · simp [scan_of_frameAt frame, frame]
  · simp [frameScanner, frame]

theorem scan_eq_some_iff {buffer item rest : Bytes} :
    frameScanner.scan buffer = some (item, rest) ↔
      FrameAt buffer ∧ item = buffer.take (frameLength buffer) ∧
        rest = buffer.drop (frameLength buffer) := by
  by_cases frame : FrameAt buffer
  · simp [scan_of_frameAt frame, frame, eq_comm]
  · simp [scan_eq_none_iff.mpr frame, frame]

/-! ## When the machine arithmetic is exact -/

/-- The length field at the front of a buffer, where the loop reads one and it
is positive, is at most `INT_MAX - 4`, and the size it is compared with is at
most `INT_MAX`. -/
def HeaderFits (buffer : Bytes) : Prop :=
  4 < buffer.length → 0 < (readInt buffer).toInt →
    (readInt buffer).toInt ≤ 2147483643 ∧ buffer.length < 2147483648

instance (buffer : Bytes) : Decidable (HeaderFits buffer) :=
  inferInstanceAs (Decidable (_ → _ → _ ∧ _))

/-- Every length field met at a frame start of the buffer fits. -/
def HeadersFit (buffer : Bytes) : Prop :=
  ∀ start, frameScanner.Cursor buffer start → HeaderFits start

instance (buffer : Bytes) : Decidable (HeadersFit buffer) :=
  inferInstanceAs (Decidable (∀ start, frameScanner.Cursor buffer start → HeaderFits start))

/-- Where the header fits, the test of the loop is the exact one, and the call
of `__HandlePkt` and of `substr` get the exact length of the frame. -/
theorem HeaderFits.pass_eq_handle_iff {buffer : Bytes} (fits : HeaderFits buffer)
    {nDataLen : Int32} :
    pass buffer = .handle nDataLen ↔
      FrameAt buffer ∧ nDataLen = readInt buffer + 4 := by
  rw [ServerLib.pass_eq_handle_iff, FrameAt]
  constructor
  · rintro ⟨long, positive, same, complete⟩
    obtain ⟨small, below⟩ := fits long positive
    rw [toInt_add_four positive, if_pos small, toInt_ofNat_of_lt below] at complete
    exact ⟨⟨long, positive, complete⟩, same⟩
  · rintro ⟨⟨long, positive, complete⟩, same⟩
    obtain ⟨small, below⟩ := fits long positive
    refine ⟨long, positive, same, ?_⟩
    rwa [toInt_add_four positive, if_pos small, toInt_ofNat_of_lt below]

theorem HeaderFits.sizeT_eq {buffer : Bytes} (fits : HeaderFits buffer)
    (frame : FrameAt buffer) :
    (readInt buffer + 4).toInt = (readInt buffer).toInt + 4 ∧
      sizeT (readInt buffer + 4) = frameLength buffer := by
  obtain ⟨long, positive, -⟩ := frame
  have sum := toInt_add_four positive
  rw [if_pos (fits long positive).1] at sum
  refine ⟨sum, ?_⟩
  rw [sizeT_of_nonneg (by omega), sum, frameLength]

theorem HeaderFits.substr_eq {buffer : Bytes} (fits : HeaderFits buffer)
    (frame : FrameAt buffer) :
    substr buffer (sizeT (readInt buffer + 4)) = some (buffer.drop (frameLength buffer)) := by
  rw [(fits.sizeT_eq frame).2, substr, if_pos frame.frameLength_le.2]

theorem HeadersFit.start {buffer : Bytes} (fit : HeadersFit buffer) : HeaderFits buffer :=
  fit buffer .start

/-- Behind a frame the headers still fit. -/
theorem HeadersFit.drop_frame {buffer : Bytes} (fit : HeadersFit buffer)
    (frame : FrameAt buffer) : HeadersFit (buffer.drop (frameLength buffer)) :=
  fun start here => fit start
    ((Scanner.Cursor.start.next (scan_of_frameAt frame)).trans here)

/-! ## The obligations of one call -/

/-- What one evaluation of the loop must meet at the buffer `strData`. -/
structure PassSafe (strData : Bytes) : Prop where
  /-- The sum `nPktLen + 4` does not overflow, wherever it is evaluated. -/
  sum_exact : 4 < strData.length → 0 < (readInt strData).toInt →
    (readInt strData + 4).toInt = (readInt strData).toInt + 4
  /-- The cast `(int)strData.size()` does not truncate, wherever it is
  evaluated. -/
  size_exact : 4 < strData.length → 0 < (readInt strData).toInt →
    (Int32.ofNat strData.length).toInt = strData.length
  /-- `__HandlePkt` is called with a length from 5 to the size of the buffer. -/
  length_ok : ∀ nDataLen, pass strData = .handle nDataLen →
    5 ≤ nDataLen.toInt ∧ nDataLen.toInt ≤ strData.length
  /-- The position given to `substr` is within the buffer. -/
  position_ok : ∀ nDataLen, pass strData = .handle nDataLen →
    sizeT nDataLen ≤ strData.length
  /-- A pass that does not leave the loop makes the buffer strictly shorter. -/
  shrinks : ∀ nDataLen rest, pass strData = .handle nDataLen →
    substr strData (sizeT nDataLen) = some rest → rest.length < strData.length

/-- What one call must meet: every pass of its loop is safe, and it returns. -/
structure CallSafe (strData : Bytes) : Prop where
  passes : ∀ head, LoopHead strData head → PassSafe head
  returns : ∃ pkts left, addLoop strData = .returned pkts left

theorem HeaderFits.passSafe {buffer : Bytes} (fits : HeaderFits buffer) : PassSafe buffer where
  sum_exact long positive := by
    rw [toInt_add_four positive, if_pos (fits long positive).1]
  size_exact long positive := toInt_ofNat_of_lt (fits long positive).2
  length_ok nDataLen taken := by
    obtain ⟨frame, rfl⟩ := fits.pass_eq_handle_iff.mp taken
    rw [(fits.sizeT_eq frame).1]
    exact ⟨by have := frame.2.1; omega, frame.2.2⟩
  position_ok nDataLen taken := by
    obtain ⟨frame, rfl⟩ := fits.pass_eq_handle_iff.mp taken
    rw [(fits.sizeT_eq frame).2]
    exact frame.frameLength_le.2
  shrinks nDataLen rest := length_substr_lt

theorem PassSafe.headerFits {buffer : Bytes} (safe : PassSafe buffer) : HeaderFits buffer := by
  intro long positive
  have sum := safe.sum_exact long positive
  rw [toInt_add_four positive] at sum
  refine ⟨?_, toInt_ofNat_eq_iff.mp (safe.size_exact long positive)⟩
  split at sum <;> omega

/-- On a buffer whose headers fit, the loop passes through frame starts only. -/
theorem LoopHead.cursor {strData head : Bytes} (fit : HeadersFit strData)
    (reached : LoopHead strData head) : frameScanner.Cursor strData head := by
  induction reached with
  | enter => exact .start
  | again _ taken cut ih =>
      have fits := fit _ ih
      obtain ⟨frame, rfl⟩ := fits.pass_eq_handle_iff.mp taken
      rw [fits.substr_eq frame, Option.some_inj] at cut
      exact ih.next (cut ▸ scan_of_frameAt frame)

/-- When every pass is safe, the loop passes through every frame start. -/
theorem loopHead_of_cursor {strData start : Bytes}
    (safe : ∀ head, LoopHead strData head → PassSafe head)
    (here : frameScanner.Cursor strData start) : LoopHead strData start := by
  induction here with
  | start => exact .enter
  | next _ found ih =>
      have fits := (safe _ ih).headerFits
      obtain ⟨frame, -, rfl⟩ := scan_eq_some_iff.mp found
      exact ih.again (fits.pass_eq_handle_iff.mpr ⟨frame, rfl⟩) (fits.substr_eq frame)

/-! ## The loop is the scanner's loop -/

/-- What the loop leaves in the buffer it stops at: nothing, when it stops at a
length field that is not positive. -/
def settle (strData : Bytes) : Bytes :=
  if 4 < strData.length ∧ (readInt strData).toInt ≤ 0 then [] else strData

theorem addLoop_of_not_frameAt {strData : Bytes} (fits : HeaderFits strData)
    (waits : ¬ FrameAt strData) : addLoop strData = .returned [] (settle strData) := by
  have zero : (0 : Int32).toInt = 0 := rfl
  -- of the three ways to leave the loop only `abnormal` clears the buffer
  cases found : pass strData with
  | done =>
      have short : ¬ 4 < strData.length := by
        intro long
        simp only [pass, gt_iff_lt, long, if_true] at found
        split at found
        · cases found
        · split at found <;> cases found
      rw [addLoop_of_leave (Or.inl found), settle, if_neg fun bad => short bad.1]
  | abnormal =>
      have bad : 4 < strData.length ∧ (readInt strData).toInt ≤ 0 := by
        simp only [pass, gt_iff_lt, Int32.le_iff_toInt_le, zero] at found
        split at found
        · next long =>
            split at found
            · next nonpos => exact ⟨long, nonpos⟩
            · split at found <;> cases found
        · cases found
      rw [addLoop_of_abnormal found, settle, if_pos bad]
  | incomplete =>
      have good : ¬ (4 < strData.length ∧ (readInt strData).toInt ≤ 0) := by
        rintro ⟨long, nonpos⟩
        simp [pass, gt_iff_lt, Int32.le_iff_toInt_le, zero, long, nonpos] at found
      rw [addLoop_of_leave (Or.inr found), settle, if_neg good]
  | handle nDataLen => exact absurd (fits.pass_eq_handle_iff.mp found).1 waits

theorem addLoop_of_frameAt {strData : Bytes} (fits : HeaderFits strData)
    (frame : FrameAt strData) :
    addLoop strData = (addLoop (strData.drop (frameLength strData))).afterPkt
      (strData.take (frameLength strData)) := by
  rw [addLoop_of_handle (fits.pass_eq_handle_iff.mpr ⟨frame, rfl⟩) (fits.substr_eq frame),
    (fits.sizeT_eq frame).2]

/-- **The loop is the scanner's loop.**  When the headers of the buffer fit, the
call returns, hands over exactly the frames `drain` takes off, and keeps what
`drain` leaves — except at a length field that is not positive, where it keeps
nothing. -/
theorem addLoop_eq_drain {strData : Bytes} (fit : HeadersFit strData) :
    addLoop strData =
      .returned (frameScanner.drain strData).1 (settle (frameScanner.drain strData).2) := by
  induction total : strData.length using Nat.strongRecOn generalizing strData with
  | ind size ih =>
      by_cases frame : FrameAt strData
      · have shorter : (strData.drop (frameLength strData)).length < size := by
          have := frame.frameLength_le
          rw [List.length_drop]
          omega
        rw [addLoop_of_frameAt fit.start frame, ih _ shorter (fit.drop_frame frame) rfl,
          Scanner.drain_of_some (scan_of_frameAt frame)]
        rfl
      · rw [addLoop_of_not_frameAt fit.start frame,
          Scanner.drain_of_none (scan_eq_none_iff.mpr frame)]

/-- **One call is safe exactly when the headers of its buffer fit.** -/
theorem callSafe_iff_headersFit {strData : Bytes} :
    CallSafe strData ↔ HeadersFit strData := by
  constructor
  · intro safe start here
    exact (safe.passes _ (loopHead_of_cursor safe.passes here)).headerFits
  · intro fit
    exact ⟨fun head reached => (fit head (reached.cursor fit)).passSafe,
      _, _, addLoop_eq_drain fit⟩

/-! ## Whole runs of one client's chunks -/

/-- **A client's run is safe exactly as long as no length field above
`INT_MAX - 4` is met.**  For every list of chunks, starting from the empty
buffer: every call of the run meets all its obligations if and only if at every
call the headers of the kept bytes followed by the chunk fit. -/
theorem receive_safe_iff_headersFit (chunks : List Bytes) :
    Transition.Along receive (fun strData chunk => CallSafe (strData ++ chunk)) [] chunks ↔
      Transition.Along receive (fun strData chunk => HeadersFit (strData ++ chunk)) [] chunks :=
  Transition.along_congr fun _ _ => callSafe_iff_headersFit

/-- A single chunk of five bytes, the length field `INT_MAX`: the sum
`nPktLen + 4` overflows. -/
theorem receive_unsafe_at_intMax :
    ¬ ∀ chunks : List Bytes, (∀ chunk ∈ chunks, 1 ≤ chunk.length ∧ chunk.length ≤ 4096) →
      Transition.Along receive (fun strData chunk => CallSafe (strData ++ chunk)) [] chunks := by
  intro claim
  have safe := (claim [[255, 255, 255, 127, 0]] (by decide)).1
  have exact := (safe.passes _ .enter).sum_exact (by decide) (by decide)
  revert exact
  decide

end ServerLib
