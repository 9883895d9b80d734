import ServerLib.Library.OrderedMap

/-!
# Client keys and output buffers

The two plain data types every component shares.

* `SocketClientData` (isocket.h) identifies a client by its address, its port
  and the descriptor number its connection was accepted on.  It is the key of
  every registry in the library, through the hand-written `operator<`.  The
  comparison is translated branch by branch, and `SocketClientData` is then
  shown to meet the contract `StrictOrder` asks of a map order: two keys are one
  key for `std::map` exactly when all three fields agree.
* `OutputBuffer` (outputbuffer.h) is a copy of the bytes of one message together
  with the position up to which they have been written.  The position never
  passes the end, and the structure carries that as a field.
-/

namespace ServerLib

/-- One `char` of a buffer. -/
abbrev Byte := UInt8

/-- The contents of a `std::string` or of a `char` array. -/
abbrev Bytes := List Byte

/-! ## `SocketClientData_t` -/

/-- `SocketClientData_t`: address and port of the peer in host order, and the
descriptor the connection was accepted on. -/
structure SocketClientData where
  IP : UInt32
  Port : UInt16
  Socket : Int32
  deriving DecidableEq, Repr

namespace SocketClientData

/-- `SocketClientData_t::operator<`. -/
def less (self info : SocketClientData) : Bool :=
  if self.IP < info.IP then
    true
  else if self.IP = info.IP then
    if self.Port < info.Port then
      true
    else if self.Port = info.Port then
      decide (self.Socket < info.Socket)
    else
      false
  else
    false

/-- `SocketClientData_t::operator==`. -/
def equal (self info : SocketClientData) : Bool :=
  self.IP = info.IP && self.Port = info.Port && self.Socket = info.Socket

/-- `operator<` is the lexicographic order of the three fields. -/
theorem less_iff {a b : SocketClientData} :
    a.less b = true ↔ a.IP < b.IP ∨ a.IP = b.IP ∧ (a.Port < b.Port ∨
      a.Port = b.Port ∧ a.Socket < b.Socket) := by
  unfold less
  split
  · next below => simp [below]
  · next notBelow =>
      split
      · next sameIP =>
          split
          · next below => simp [sameIP, below]
          · next notBelow' =>
              split
              · next samePort => simp [sameIP, samePort]
              · next otherPort => simp [sameIP, notBelow', otherPort]
      · next otherIP => simp [notBelow, otherIP]

/-- `operator==` is equality of keys. -/
theorem equal_iff {a b : SocketClientData} : a.equal b = true ↔ a = b := by
  cases a
  cases b
  simp [equal, and_assoc]

theorem less_irrefl (a : SocketClientData) : a.less a = false := by
  rw [Bool.eq_false_iff, ne_eq, less_iff]
  simp [UInt32.lt_irrefl, UInt16.lt_irrefl, Int32.lt_irrefl]

theorem less_trans {a b c : SocketClientData} (first : a.less b = true)
    (second : b.less c = true) : a.less c = true := by
  rw [less_iff] at first second ⊢
  rcases first with first | ⟨ip, first | ⟨port, first⟩⟩ <;>
    rcases second with second | ⟨ip', second | ⟨port', second⟩⟩
  · exact Or.inl (UInt32.lt_trans first second)
  · exact Or.inl (ip' ▸ first)
  · exact Or.inl (ip' ▸ first)
  · exact Or.inl (ip ▸ second)
  · exact Or.inr ⟨ip.trans ip', Or.inl (UInt16.lt_trans first second)⟩
  · exact Or.inr ⟨ip.trans ip', Or.inl (port' ▸ first)⟩
  · exact Or.inl (ip ▸ second)
  · exact Or.inr ⟨ip.trans ip', Or.inl (port ▸ second)⟩
  · exact Or.inr ⟨ip.trans ip', Or.inr ⟨port.trans port', Int32.lt_trans first second⟩⟩

/-- **Keys that `operator<` cannot tell apart agree in all three fields.** -/
theorem eq_of_incomparable {a b : SocketClientData} (notBelow : a.less b = false)
    (notAbove : b.less a = false) : a = b := by
  rw [Bool.eq_false_iff, ne_eq, less_iff] at notBelow notAbove
  push Not at notBelow notAbove
  obtain ⟨ip, rest⟩ := notBelow
  obtain ⟨ip', rest'⟩ := notAbove
  have sameIP : a.IP = b.IP :=
    UInt32.le_antisymm (UInt32.not_lt.mp ip') (UInt32.not_lt.mp ip)
  obtain ⟨port, socket⟩ := rest sameIP
  obtain ⟨port', socket'⟩ := rest' sameIP.symm
  have samePort : a.Port = b.Port :=
    UInt16.le_antisymm (UInt16.not_lt.mp port') (UInt16.not_lt.mp port)
  have sameSocket : a.Socket = b.Socket :=
    Int32.le_antisymm (Int32.not_lt.mp (socket' samePort.symm))
      (Int32.not_lt.mp (socket samePort))
  cases a
  cases b
  simp_all

instance : StrictOrder SocketClientData where
  less := less
  less_irrefl := less_irrefl
  less_trans := less_trans
  eq_of_incomparable := eq_of_incomparable

/-- Two keys that differ in one field only are ordered, one way or the other. -/
example : less ⟨1, 2, 3⟩ ⟨1, 2, 4⟩ = true ∧ less ⟨1, 2, 4⟩ ⟨1, 2, 3⟩ = false := by decide

end SocketClientData

/-! ## `COutputBuffer` -/

/-- `COutputBuffer`: the bytes of one message and how many of them have been
written. -/
structure OutputBuffer where
  szData : Bytes
  nPos : ℕ
  /-- Nothing is written past the end. -/
  nPos_le : nPos ≤ szData.length
  deriving DecidableEq, Repr

namespace OutputBuffer

/-- `COutputBuffer(szBytes, nBytes)`: copy the bytes, nothing written yet. -/
def new (szBytes : Bytes) : OutputBuffer where
  szData := szBytes
  nPos := 0
  nPos_le := Nat.zero_le _

/-- `GetDataPos()`, read up to the end of the buffer: the bytes not yet
written. -/
def getDataPos (buffer : OutputBuffer) : Bytes := buffer.szData.drop buffer.nPos

/-- `GetBytes()`: how many bytes are not yet written. -/
def getBytes (buffer : OutputBuffer) : ℕ := buffer.szData.length - buffer.nPos

/-- `pBuffer->m_nPos += nWritten`, for a count `write` can return. -/
def advance (buffer : OutputBuffer) (nWritten : ℕ) (fits : nWritten ≤ buffer.getBytes) :
    OutputBuffer where
  szData := buffer.szData
  nPos := buffer.nPos + nWritten
  nPos_le := by
    have := buffer.nPos_le
    unfold getBytes at fits
    omega

@[simp] theorem szData_new (szBytes : Bytes) : (new szBytes).szData = szBytes := rfl

@[simp] theorem getDataPos_new (szBytes : Bytes) : (new szBytes).getDataPos = szBytes := rfl

theorem length_getDataPos (buffer : OutputBuffer) :
    buffer.getDataPos.length = buffer.getBytes := by
  simp [getDataPos, getBytes]

theorem getDataPos_advance (buffer : OutputBuffer) {nWritten : ℕ}
    (fits : nWritten ≤ buffer.getBytes) :
    (buffer.advance nWritten fits).getDataPos = buffer.getDataPos.drop nWritten := by
  simp [getDataPos, advance]

/-- What a `write` took, followed by what it left, is what it was offered. -/
theorem take_append_getDataPos_advance (buffer : OutputBuffer) {nWritten : ℕ}
    (fits : nWritten ≤ buffer.getBytes) :
    buffer.getDataPos.take nWritten ++ (buffer.advance nWritten fits).getDataPos =
      buffer.getDataPos := by
  rw [getDataPos_advance, List.take_append_drop]

theorem getDataPos_eq_nil {buffer : OutputBuffer} (done : buffer.getBytes = 0) :
    buffer.getDataPos = [] :=
  List.eq_nil_of_length_eq_zero (buffer.length_getDataPos.trans done)

end OutputBuffer

/-- The bytes a queue of output buffers still has to write. -/
def unsent (queue : List OutputBuffer) : Bytes := queue.flatMap OutputBuffer.getDataPos

@[simp] theorem unsent_nil : unsent [] = [] := rfl

@[simp] theorem unsent_cons (buffer : OutputBuffer) (queue : List OutputBuffer) :
    unsent (buffer :: queue) = buffer.getDataPos ++ unsent queue := rfl

@[simp] theorem unsent_append (queue queue' : List OutputBuffer) :
    unsent (queue ++ queue') = unsent queue ++ unsent queue' :=
  List.flatMap_append

end ServerLib
