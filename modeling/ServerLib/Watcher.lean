import ServerLib.Socket

/-!
# Sockets and their watchers

What `CTcpConnection` and `CTcpClient` have in common: an `ev::io` that watches a
descriptor number, the results `recv` and `write` can have on it, and a queue of
output buffers that is written front first, as far as the socket takes it.

A watcher watches a number, not a socket.  Whether the number is open, and which
socket it refers to, is known to the kernel only; `Possible` is what follows for the
results of a call.
-/

namespace ServerLib

/-! ## `ev::io` -/

/-- A set of `ev::READ` and `ev::WRITE`. -/
structure Interest where
  read : Bool
  write : Bool
  deriving DecidableEq, Repr

/-- `ev::READ`. -/
def Interest.readOnly : Interest := ⟨true, false⟩

/-- `ev::READ|ev::WRITE`. -/
def Interest.readWrite : Interest := ⟨true, true⟩

/-- `ev::io`: the descriptor number it watches, for which events. -/
structure IoWatcher where
  fd : Int32
  events : Interest
  active : Bool
  deriving DecidableEq, Repr

/-- `set(events)`, which leaves an active watcher active on its descriptor. -/
def IoWatcher.set (io : IoWatcher) (events : Interest) : IoWatcher :=
  { io with events := events }

/-- The bits libev reports to an io callback. -/
structure Revents where
  error : Bool
  read : Bool
  write : Bool
  deriving DecidableEq, Repr

/-- libev reports an error, or events the watcher was set to. -/
def Reported (io : IoWatcher) (revents : Revents) : Prop :=
  io.active = true ∧ (revents.error = true ∨
    (revents.read = true → io.events.read = true) ∧
      (revents.write = true → io.events.write = true))

instance (io : IoWatcher) (revents : Revents) : Decidable (Reported io revents) :=
  inferInstanceAs (Decidable (_ ∧ (_ ∨ _ ∧ _)))

/-! ## `recv` and `write` -/

/-- What `recv` returns. -/
inductive RecvResult where
  | eof
  /-- `EAGAIN`. -/
  | again
  /-- Any other error. -/
  | error (errno : Int32)
  | data (pData : Bytes)
  deriving DecidableEq, Repr

/-- An end of the stream, or an error other than `EAGAIN`. -/
def RecvResult.ends : RecvResult → Bool
  | .eof => true
  | .error _ => true
  | .again => false
  | .data _ => false

/-- What `write` returns. -/
inductive WriteResult where
  /-- `EAGAIN`. -/
  | again
  /-- Any other error. -/
  | error (errno : Int32)
  | wrote (nWritten : ℕ)
  deriving DecidableEq, Repr

/-- An error other than `EAGAIN`. -/
def WriteResult.fails : WriteResult → Bool
  | .error _ => true
  | .again => false
  | .wrote _ => false

/-- `recv` into `char szBuffer[4096]` reports data, an end or `EAGAIN` on an open
descriptor only. -/
def RecvResult.Possible (opened : Prop) : RecvResult → Prop
  | .eof => opened
  | .again => opened
  | .error _ => True
  | .data pData => opened ∧ 1 ≤ pData.length ∧ pData.length ≤ 4096

/-- `write` of `nBytes` bytes takes some of them, or reports `EAGAIN`, on an open
descriptor only. -/
def WriteResult.Possible (opened : Prop) (nBytes : ℕ) : WriteResult → Prop
  | .again => opened
  | .error _ => True
  | .wrote nWritten => opened ∧ nWritten ≤ nBytes

instance (opened : Prop) [Decidable opened] :
    (result : RecvResult) → Decidable (result.Possible opened)
  | .eof => inferInstanceAs (Decidable opened)
  | .again => inferInstanceAs (Decidable opened)
  | .error _ => inferInstanceAs (Decidable True)
  | .data _ => inferInstanceAs (Decidable (opened ∧ _ ∧ _))

instance (opened : Prop) [Decidable opened] (nBytes : ℕ) :
    (result : WriteResult) → Decidable (result.Possible opened nBytes)
  | .again => inferInstanceAs (Decidable opened)
  | .error _ => inferInstanceAs (Decidable True)
  | .wrote _ => inferInstanceAs (Decidable (opened ∧ _))

/-! ## The write queue -/

/-- `WRITE_QUEUE_MAX_SIZE`. -/
def writeQueueMaxSize : ℕ := 1000000

/-- The front buffer after a `write`, in front of the rest of the queue unless it
is done: `m_nPos += nWritten`, and `pop` at the end of the buffer. -/
def advanceQueue (pBuffer : OutputBuffer) (nWritten : ℕ) (fits : nWritten ≤ pBuffer.getBytes)
    (rest : List OutputBuffer) : List OutputBuffer :=
  if (pBuffer.advance nWritten fits).getBytes = 0 then rest
  else pBuffer.advance nWritten fits :: rest

/-- What a `write` took, followed by what is left of the queue, is the queue. -/
theorem take_append_unsent_advanceQueue {pBuffer : OutputBuffer} {count : ℕ}
    (fits : count ≤ pBuffer.getBytes) (rest : List OutputBuffer) :
    pBuffer.getDataPos.take count ++ unsent (advanceQueue pBuffer count fits rest) =
      unsent (pBuffer :: rest) := by
  have split : pBuffer.getDataPos.take count ++ (pBuffer.advance count fits).getDataPos =
      pBuffer.getDataPos := pBuffer.take_append_getDataPos_advance fits
  unfold advanceQueue
  split
  · next done =>
      rw [OutputBuffer.getDataPos_eq_nil done, List.append_nil] at split
      rw [split, unsent_cons]
  · rw [unsent_cons, ← List.append_assoc, split, unsent_cons]

end ServerLib
