import Mathlib.Tactic.Linarith
import ServerLib.Framer

/-!
# A packet thread: `CPktHandleThread`

With worker threads configured, complete packets are not delivered by the loop
thread but pushed to the queue of one `CPktHandleThread` (commonserver.cpp).
The thread's body `HandlePkt` is a loop over three critical sections:

* read the size of the queue into the local `nSize`;
* while that size is zero, wait on the condition variable for at most a second
  and read the size again;
* pop `nSize` packets, each under the lock, and call the data handle for each
  one outside it.

Everything another thread can observe happens inside a critical section or is a
read of `m_bThreadRun`, so `step` makes one such action at a time.  The wait
releases the lock: `.waiting` is the thread asleep inside
`pthread_cond_timedwait`, and its next step is the wake-up — by a signal, by the
timeout or spuriously, at any time.

`front()` on an empty queue has no defined result, so `step` has none there.
`Sound` is the fact that it never comes to that: `nSize` never exceeds the
number of packets queued, because only this thread removes any.
-/

namespace ServerLib

/-- `PktData_t`: a packet waiting for its delivery.

`origin` is a history variable, it is not in the source: it says where the
packet was framed, and no function of the model branches on it.  At `τ := Unit`
the type is the source's pair. -/
structure PktData (τ : Type) where
  sClient : SocketClientData
  pOutputBuffer : OutputBuffer
  origin : τ
  deriving DecidableEq, Repr

/-- The bytes the data handle is given for a packet: `GetDataPos()` with the
length `GetBytes()`. -/
def PktData.bytes {τ : Type} (pktData : PktData τ) : Bytes :=
  pktData.pOutputBuffer.getDataPos

/-- Where the body of `HandlePkt` stands, with the value of `nSize` where it is
still used. -/
inductive HandlePktPc (τ : Type) where
  /-- `while (m_bThreadRun)`. -/
  | loopTest
  /-- `lock; nSize = m_PktQueue.size(); unlock`. -/
  | readSize
  /-- `while ((nSize == 0) && m_bThreadRun)`. -/
  | waitTest (nSize : Int32)
  /-- `lock; … pthread_cond_timedwait(…)`, up to the release of the lock. -/
  | waitLock
  /-- Asleep in `pthread_cond_timedwait`; next: `nSize = m_PktQueue.size();
  unlock`. -/
  | waiting
  /-- `while (nSize-- > 0)`. -/
  | drainTest (nSize : Int32)
  /-- `lock; PktData = m_PktQueue.front(); m_PktQueue.pop(); unlock`. -/
  | take (nSize : Int32)
  /-- `m_pDataHandle->OnClientDataReceived(PktData…)`. -/
  | deliver (nSize : Int32) (pktData : PktData τ)
  /-- `pthread_exit(NULL)`. -/
  | exited
  deriving DecidableEq, Repr

/-- `CPktHandleThread`, with the control state of its thread. -/
structure PktHandleThread (H τ : Type) where
  pDataHandle : Option H
  bThreadRun : Bool
  pktQueue : List (PktData τ)
  pc : HandlePktPc τ
  deriving DecidableEq, Repr

namespace PktHandleThread

variable {H τ : Type}

/-- `Init(pDataHandle)`: the handle is copied and the thread started. -/
def init (pDataHandle : Option H) : PktHandleThread H τ where
  pDataHandle := pDataHandle
  bThreadRun := true
  pktQueue := []
  pc := .loopTest

/-- `Stop()`, up to the `pthread_join` that waits for the thread to leave its
loop. -/
def stop (thread : PktHandleThread H τ) : PktHandleThread H τ :=
  if thread.bThreadRun then { thread with bThreadRun := false } else thread

/-- `AddPkt(PktData)`, one critical section. -/
def addPkt (thread : PktHandleThread H τ) (pktData : PktData τ) : PktHandleThread H τ :=
  { thread with pktQueue := thread.pktQueue ++ [pktData] }

/-- One action of the thread body `HandlePkt`, with the packet whose
`OnClientDataReceived` call begins in it. -/
def handlePkt (thread : PktHandleThread H τ) :
    Option (PktHandleThread H τ × Option (PktData τ)) :=
  match thread.pc with
  | .loopTest =>
      some ({ thread with pc := if thread.bThreadRun then .readSize else .exited }, none)
  | .readSize =>
      some ({ thread with pc := .waitTest (Int32.ofNat thread.pktQueue.length) }, none)
  | .waitTest nSize =>
      some ({ thread with
        pc := if nSize = 0 ∧ thread.bThreadRun then .waitLock else .drainTest nSize }, none)
  | .waitLock => some ({ thread with pc := .waiting }, none)
  | .waiting =>
      some ({ thread with pc := .waitTest (Int32.ofNat thread.pktQueue.length) }, none)
  | .drainTest nSize =>
      some ({ thread with pc := if 0 < nSize then .take (nSize - 1) else .loopTest }, none)
  | .take nSize =>
      match thread.pktQueue with
      | [] => none
      | pktData :: rest =>
          some ({ thread with pktQueue := rest, pc := .deliver nSize pktData }, none)
  | .deliver nSize pktData => some ({ thread with pc := .drainTest nSize }, some pktData)
  | .exited => none

/-- The packet the thread has popped and not yet delivered. -/
def inHand (thread : PktHandleThread H τ) : List (PktData τ) :=
  match thread.pc with
  | .deliver _ pktData => [pktData]
  | _ => []

/-- The packets the thread still has to deliver, in order. -/
def pending (thread : PktHandleThread H τ) : List (PktData τ) :=
  thread.inHand ++ thread.pktQueue

@[simp] theorem pending_init (pDataHandle : Option H) :
    (init pDataHandle : PktHandleThread H τ).pending = [] := rfl

@[simp] theorem pending_addPkt (thread : PktHandleThread H τ) (pktData : PktData τ) :
    (thread.addPkt pktData).pending = thread.pending ++ [pktData] := by
  simp [pending, addPkt, inHand]

@[simp] theorem pc_stop (thread : PktHandleThread H τ) : thread.stop.pc = thread.pc := by
  unfold stop
  split <;> rfl

@[simp] theorem pktQueue_stop (thread : PktHandleThread H τ) :
    thread.stop.pktQueue = thread.pktQueue := by
  unfold stop
  split <;> rfl

@[simp] theorem pending_stop (thread : PktHandleThread H τ) :
    thread.stop.pending = thread.pending := by
  simp [pending, inHand]

@[simp] theorem pDataHandle_stop (thread : PktHandleThread H τ) :
    thread.stop.pDataHandle = thread.pDataHandle := by
  unfold stop
  split <;> rfl

/-- The thread keeps the handle it was started with. -/
theorem pDataHandle_handlePkt {thread next : PktHandleThread H τ}
    {delivered : Option (PktData τ)} (moved : thread.handlePkt = some (next, delivered)) :
    next.pDataHandle = thread.pDataHandle := by
  unfold handlePkt at moved
  split at moved
  case h_7 =>
    split at moved
    · cases moved
    · cases moved
      rfl
  case h_9 => cases moved
  all_goals
    cases moved
    rfl

/-- **An action of the thread moves packets, it never makes or loses one**: the
packet it delivers, followed by what is still pending, is what was pending
before. -/
theorem pending_handlePkt {thread next : PktHandleThread H τ}
    {delivered : Option (PktData τ)} (moved : thread.handlePkt = some (next, delivered)) :
    thread.pending = delivered.toList ++ next.pending := by
  unfold handlePkt at moved
  split at moved
  · next here =>
      cases moved
      simp only [pending, inHand, here]
      cases thread.bThreadRun <;> rfl
  · next here =>
      cases moved
      simp [pending, inHand, here]
  · next nSize here =>
      cases moved
      simp only [pending, inHand, here]
      by_cases asleep : nSize = 0 ∧ thread.bThreadRun = true
      · rw [if_pos asleep]
        rfl
      · rw [if_neg asleep]
        rfl
  · next here =>
      cases moved
      simp [pending, inHand, here]
  · next here =>
      cases moved
      simp [pending, inHand, here]
  · next nSize here =>
      cases moved
      simp only [pending, inHand, here]
      by_cases more : 0 < nSize
      · rw [if_pos more]
        rfl
      · rw [if_neg more]
        rfl
  · next here =>
      split at moved
      · cases moved
      · next queued =>
          cases moved
          simp [pending, inHand, here, queued]
  · next here =>
      cases moved
      simp [pending, inHand, here]
  · cases moved

/-- `nSize` never exceeds the number of packets queued. -/
def Sound (thread : PktHandleThread H τ) : Prop :=
  match thread.pc with
  | .waitTest nSize => nSize.toInt ≤ thread.pktQueue.length
  | .drainTest nSize => nSize.toInt ≤ thread.pktQueue.length
  | .take nSize => 0 ≤ nSize.toInt ∧ nSize.toInt < thread.pktQueue.length
  | .deliver nSize _ => nSize.toInt ≤ thread.pktQueue.length
  | _ => True

theorem sound_init (pDataHandle : Option H) : (init pDataHandle : PktHandleThread H τ).Sound :=
  trivial

theorem Sound.addPkt {thread : PktHandleThread H τ} (sound : thread.Sound)
    (pktData : PktData τ) : (thread.addPkt pktData).Sound := by
  unfold Sound at sound ⊢
  simp only [PktHandleThread.addPkt, List.length_append, List.length_singleton]
  split at sound <;> simp_all <;> omega

theorem Sound.stop {thread : PktHandleThread H τ} (sound : thread.Sound) :
    thread.stop.Sound := by
  unfold Sound at sound ⊢
  simpa using sound

/-- The decrement of a positive count is exact. -/
theorem toInt_sub_one {nSize : Int32} (positive : 0 < nSize) :
    (nSize - 1).toInt = nSize.toInt - 1 := by
  have bound := nSize.toInt_lt
  have zero : (0 : Int32).toInt = 0 := rfl
  have one : (1 : Int32).toInt = 1 := rfl
  rw [Int32.lt_iff_toInt_lt, zero] at positive
  rw [Int32.toInt_sub, one]
  exact Int.bmod_eq_of_le (by norm_num; omega) (by norm_num; omega)

/-- Every action of the thread keeps the count within the queue. -/
theorem Sound.handlePkt {thread next : PktHandleThread H τ}
    {delivered : Option (PktData τ)} (sound : thread.Sound)
    (moved : thread.handlePkt = some (next, delivered)) : next.Sound := by
  unfold PktHandleThread.handlePkt at moved
  split at moved
  · cases moved
    unfold Sound
    cases thread.bThreadRun <;> trivial
  · cases moved
    exact toInt_ofNat_le _
  · next nSize here =>
      cases moved
      simp only [Sound, here] at sound
      unfold Sound
      by_cases asleep : nSize = 0 ∧ thread.bThreadRun = true
      · simp [asleep]
      · simpa [asleep] using sound
  · cases moved
    trivial
  · cases moved
    exact toInt_ofNat_le _
  · next nSize here =>
      cases moved
      simp only [Sound, here] at sound
      unfold Sound
      by_cases more : 0 < nSize
      · have zero : (0 : Int32).toInt = 0 := rfl
        have positive := more
        rw [Int32.lt_iff_toInt_lt, zero] at positive
        simp only [more, if_true, toInt_sub_one more]
        omega
      · simp [more]
  · next nSize here =>
      simp only [Sound, here] at sound
      split at moved
      · cases moved
      · next pktData rest queued =>
          cases moved
          simp only [queued, List.length_cons] at sound
          change nSize.toInt ≤ rest.length
          omega
  · next nSize pktData here =>
      cases moved
      simp only [Sound, here] at sound
      exact sound
  · cases moved

/-- **A sound thread never reads the front of an empty queue.** -/
theorem Sound.pktQueue_ne_nil {thread : PktHandleThread H τ} (sound : thread.Sound)
    {nSize : Int32} (here : thread.pc = .take nSize) : thread.pktQueue ≠ [] := by
  simp only [Sound, here] at sound
  intro empty
  rw [empty, List.length_nil] at sound
  omega

end PktHandleThread

end ServerLib
