import ServerLib.Dispatch
import ServerLib.Library.Progress

/-!
# A packet thread gets on

Nothing in `HandlePkt` (commonserver.cpp) waits for good: the wait on the condition
variable ends after a second at the latest, and `while (nSize-- > 0)` pops what was
counted.  Two things follow for every interleaving with the loop thread and the other
packet threads.

* `stop_joins` — after `Stop()` the thread comes to `pthread_exit` by its own moves, so
  that the `pthread_join` of `Stop()` returns: where its queue never holds more than
  `bound` packets it needs no more than `3 * bound + 5` of them, and until it has exited
  it always has one.  The queue may be filled all the while; what the thread has counted
  is the one batch it still delivers.
* `delivered_of_run` — while the thread runs, seven of its moves for each packet that is
  pending are enough to begin the delivery of them all.  The count is exact in that a
  thread that looked at its queue just before the packet came makes seven: it leaves the
  loop over the batch, tests `m_bThreadRun`, reads the size, tests it, enters the loop,
  pops and delivers.

The second needs the queue to stay below `2^31` packets.  The size is read into an `int`,
and from there on the count is negative: the thread neither waits nor delivers.
-/

namespace ServerLib

open Transition FifoPool

namespace PktHandleThread

variable {H τ : Type} {thread next : PktHandleThread H τ} {delivered : Option (PktData τ)}

/-! ## The moves a thread has -/

/-- A thread that counts its queue correctly has a move until it has exited. -/
theorem Sound.exists_handlePkt (sound : thread.Sound) (inside : thread.pc ≠ .exited) :
    ∃ moved, thread.handlePkt = some moved := by
  rw [← Option.isSome_iff_exists]
  cases here : thread.pc with
  | take nSize =>
      obtain ⟨pktData, rest, queued⟩ := List.exists_cons_of_ne_nil (sound.pktQueue_ne_nil here)
      simp [PktHandleThread.handlePkt, here, queued]
  | exited => exact absurd here inside
  | loopTest | readSize | waitTest | waitLock | waiting | drainTest | deliver =>
      simp [PktHandleThread.handlePkt, here]

/-- What one move of the thread is, case by case. -/
theorem handlePkt_cases (moved : thread.handlePkt = some (next, delivered)) :
    (thread.pc = .loopTest ∧ delivered = none ∧
        next = { thread with pc := if thread.bThreadRun then .readSize else .exited }) ∨
    ((thread.pc = .readSize ∨ thread.pc = .waiting) ∧ delivered = none ∧
        next = { thread with pc := .waitTest (Int32.ofNat thread.pktQueue.length) }) ∨
    (∃ nSize, thread.pc = .waitTest nSize ∧ delivered = none ∧ next = { thread with
        pc := if nSize = 0 ∧ thread.bThreadRun then .waitLock else .drainTest nSize }) ∨
    (thread.pc = .waitLock ∧ delivered = none ∧ next = { thread with pc := .waiting }) ∨
    (∃ nSize, thread.pc = .drainTest nSize ∧ delivered = none ∧ next = { thread with
        pc := if 0 < nSize then .take (nSize - 1) else .loopTest }) ∨
    (∃ nSize pktData rest, thread.pc = .take nSize ∧ delivered = none ∧
        thread.pktQueue = pktData :: rest ∧
        next = { thread with pktQueue := rest, pc := .deliver nSize pktData }) ∨
    ∃ nSize pktData, thread.pc = .deliver nSize pktData ∧ delivered = some pktData ∧
        next = { thread with pc := .drainTest nSize } := by
  unfold handlePkt at moved
  split at moved
  case h_7 nSize here =>
    split at moved
    · cases moved
    · next pktData rest queued =>
        cases moved
        exact .inr (.inr (.inr (.inr (.inr (.inl ⟨nSize, pktData, rest, here, rfl, queued, rfl⟩)))))
  case h_9 => cases moved
  all_goals
    next here =>
      cases moved
      simp [here]

/-! ## The way out -/

/-- The moves that a thread that was told to stop has before it, where its queue holds at
most `bound` packets whenever it looks. -/
def movesToExit (bound : ℕ) (thread : PktHandleThread H τ) : ℕ :=
  match thread.pc with
  | .loopTest => 1
  | .readSize | .waiting => 3 * bound + 4
  | .waitTest nSize => 3 * nSize.toInt.toNat + 3
  | .waitLock => 3 * bound + 5
  | .drainTest nSize => 3 * nSize.toInt.toNat + 2
  | .take nSize => 3 * nSize.toInt.toNat + 4
  | .deliver nSize _ => 3 * nSize.toInt.toNat + 3
  | .exited => 0

theorem movesToExit_le {bound : ℕ} (sound : thread.Sound)
    (short : thread.pktQueue.length ≤ bound) : thread.movesToExit bound ≤ 3 * bound + 5 := by
  unfold Sound at sound
  unfold movesToExit
  cases here : thread.pc with
  | waitTest nSize | drainTest nSize | take nSize | deliver nSize =>
      simp only [here] at sound ⊢
      omega
  | loopTest | readSize | waitLock | waiting | exited =>
      dsimp only
      omega

theorem movesToExit_handlePkt {bound : ℕ} (stopped : thread.bThreadRun = false)
    (short : thread.pktQueue.length ≤ bound)
    (moved : thread.handlePkt = some (next, delivered)) :
    next.movesToExit bound < thread.movesToExit bound := by
  have counted := toInt_ofNat_le thread.pktQueue.length
  rcases handlePkt_cases moved with ⟨here, -, rfl⟩ | ⟨here | here, -, rfl⟩ | ⟨nSize, here, -, rfl⟩ |
    ⟨here, -, rfl⟩ | ⟨nSize, here, -, rfl⟩ | ⟨nSize, pktData, rest, here, -, queued, rfl⟩ |
    ⟨nSize, pktData, here, -, rfl⟩
  · simp [movesToExit, here, stopped]
  · simp only [movesToExit, here]
    omega
  · simp only [movesToExit, here]
    omega
  · simp [movesToExit, here, stopped]
  · simp [movesToExit, here]
  · by_cases more : 0 < nSize
    · have less := toInt_sub_one more
      have positive := Int32.lt_iff_toInt_lt.mp more
      rw [show (0 : Int32).toInt = 0 from rfl] at positive
      simp only [movesToExit, here, if_pos more, less]
      omega
    · simp only [movesToExit, here, if_neg more]
      omega
  · simp [movesToExit, here]
  · simp [movesToExit, here]

/-! ## The way to the next delivery -/

/-- The moves that a thread with something to deliver has before it up to the delivery. -/
def movesToDeliver (thread : PktHandleThread H τ) : ℕ :=
  match thread.pc with
  | .deliver _ _ => 1
  | .take _ => 2
  | .drainTest nSize => if 0 < nSize then 3 else 7
  | .waitTest nSize => if nSize = 0 then 7 else 4
  | .readSize | .waiting => 5
  | .loopTest | .waitLock => 6
  | .exited => 7

theorem movesToDeliver_pos (thread : PktHandleThread H τ) : 0 < thread.movesToDeliver := by
  unfold movesToDeliver
  split <;> (try split) <;> omega

theorem movesToDeliver_le (thread : PktHandleThread H τ) : thread.movesToDeliver ≤ 7 := by
  unfold movesToDeliver
  split <;> (try split) <;> omega

/-- A thread that was not told to stop, and that read no negative size. -/
structure Working (thread : PktHandleThread H τ) : Prop where
  running : thread.bThreadRun = true
  inside : thread.pc ≠ .exited
  counted : ∀ {nSize}, thread.pc = .waitTest nSize → 0 ≤ nSize.toInt

theorem working_init (pDataHandle : Option H) :
    (init pDataHandle : PktHandleThread H τ).Working := ⟨rfl, nofun, nofun⟩

theorem Working.addPkt (working : thread.Working) (pktData : PktData τ) :
    (thread.addPkt pktData).Working :=
  ⟨working.running, working.inside, working.counted⟩

/-- The size of a short queue is read as it is. -/
theorem Working.handlePkt (working : thread.Working)
    (short : thread.pktQueue.length < 2147483648)
    (moved : thread.handlePkt = some (next, delivered)) : next.Working := by
  have size := toInt_ofNat_of_lt short
  rcases handlePkt_cases moved with ⟨-, -, rfl⟩ | ⟨-, -, rfl⟩ | ⟨nSize, -, -, rfl⟩ | ⟨-, -, rfl⟩ |
    ⟨nSize, -, -, rfl⟩ | ⟨nSize, pktData, rest, -, -, -, rfl⟩ | ⟨nSize, pktData, -, -, rfl⟩
  · exact ⟨working.running, by simp [working.running], by simp [working.running]⟩
  · refine ⟨working.running, nofun, fun same => ?_⟩
    rw [← HandlePktPc.waitTest.inj same, size]
    omega
  · by_cases asleep : nSize = 0 ∧ thread.bThreadRun = true
    · exact ⟨working.running, by simp [asleep], by simp [asleep]⟩
    · exact ⟨working.running, by simp [asleep], by simp [asleep]⟩
  · exact ⟨working.running, nofun, nofun⟩
  · by_cases more : 0 < nSize
    · exact ⟨working.running, by simp [more], by simp [more]⟩
    · exact ⟨working.running, by simp [more], by simp [more]⟩
  · exact ⟨working.running, nofun, nofun⟩
  · exact ⟨working.running, nofun, nofun⟩

/-- A move that delivers nothing is one move less, as long as something is pending. -/
theorem movesToDeliver_handlePkt (working : thread.Working)
    (short : thread.pktQueue.length < 2147483648) (some_pending : thread.pending ≠ [])
    (moved : thread.handlePkt = some (next, none)) :
    next.movesToDeliver < thread.movesToDeliver := by
  have size := toInt_ofNat_of_lt short
  rcases handlePkt_cases moved with ⟨here, -, rfl⟩ | ⟨looks, -, rfl⟩ | ⟨nSize, here, -, rfl⟩ |
    ⟨here, -, rfl⟩ | ⟨nSize, here, -, rfl⟩ | ⟨nSize, pktData, rest, here, -, -, rfl⟩ |
    ⟨nSize, pktData, -, none_some, -⟩
  · simp [movesToDeliver, here, working.running]
  · -- nothing is in hand here, so the size that is read is not zero
    have queued : thread.pktQueue ≠ [] := by
      rcases looks with here | here <;> simpa [pending, inHand, here] using some_pending
    have positive := List.length_pos_iff.mpr queued
    have nonzero : Int32.ofNat thread.pktQueue.length ≠ 0 := by
      intro zero
      rw [zero, show (0 : Int32).toInt = 0 from rfl] at size
      omega
    rcases looks with here | here <;> simp [movesToDeliver, here, nonzero]
  · by_cases zero : nSize = 0
    · simp [movesToDeliver, here, zero, working.running]
    · have more : 0 < nSize := by
        have counted := working.counted here
        rw [Int32.lt_iff_toInt_lt, show (0 : Int32).toInt = 0 from rfl]
        refine lt_of_le_of_ne counted fun same => zero (Int32.toInt_inj.mp same.symm)
      simp [movesToDeliver, here, zero, more]
  · simp [movesToDeliver, here]
  · by_cases more : 0 < nSize
    · simp [movesToDeliver, here, more]
    · simp [movesToDeliver, here, more]
  · simp [movesToDeliver, here]
  · cases none_some

end PktHandleThread

namespace System

variable {H : Type} {nThreadNum : Int32} {state next : System H} {label : Label} {i : ℕ}

/-- A number that is read off one packet thread. -/
def atThread (state : System H) (i : ℕ) (f : PktHandleThread H ℕ → ℕ) : ℕ :=
  (state.server.threads[i]?.map f).getD 0

theorem atThread_eq {thread : PktHandleThread H ℕ} (here : state.server.threads[i]? = some thread)
    (f : PktHandleThread H ℕ → ℕ) : state.atThread i f = f thread := by
  rw [atThread, here, Option.map_some, Option.getD_some]

/-- The packets in the queue of thread `i`. -/
def queued (state : System H) (i : ℕ) : ℕ :=
  state.atThread i fun thread => thread.pktQueue.length

/-- What a step does to thread `i`: its own move, its `Stop`, at most an `AddPkt`. -/
theorem step_thread_cases {thread : PktHandleThread H ℕ}
    (here : state.server.threads[i]? = some thread) (taken : state.step label = some next) :
    ∃ after, next.server.threads[i]? = some after ∧
      ((label = .handlePkt i ∧ ∃ delivered, thread.handlePkt = some (after, delivered)) ∨
        (label = .stop i ∧ after = thread.stop) ∨
        (label ≠ .handlePkt i ∧ label ≠ .stop i ∧
          (after = thread ∨ ∃ pktData, after = thread.addPkt pktData))) := by
  have inside : i < state.server.threads.length := (List.getElem?_eq_some_iff.mp here).1
  cases label with
  | connected sClient =>
      obtain ⟨-, -, rfl⟩ := step_connected_cases taken
      exact ⟨thread, here, .inr (.inr ⟨by simp, by simp, .inl rfl⟩)⟩
  | dataReceived sClient pData =>
      obtain ⟨origin, -, -, rfl⟩ := step_dataReceived_cases taken
      exact ⟨thread, here, .inr (.inr ⟨by simp, by simp, .inl rfl⟩)⟩
  | terminated sClient how =>
      obtain ⟨origin, nErrorCode, -, -, rfl⟩ := step_terminated_cases taken
      exact ⟨thread, here, .inr (.inr ⟨by simp, by simp, .inl rfl⟩)⟩
  | pass =>
      obtain ⟨sClient, origin, -, ⟨-, rfl⟩ | ⟨-, rfl⟩ |
        ⟨nDataLen, rest, handled, -, -, called, rfl⟩⟩ := step_pass_cases taken
      · exact ⟨thread, here, .inr (.inr ⟨by simp, by simp, .inl rfl⟩)⟩
      · exact ⟨thread, here, .inr (.inr ⟨by simp, by simp, .inl rfl⟩)⟩
      · rcases CommonServer.handlePkt_cases called with ⟨-, rfl⟩ | ⟨-, chosen, there, rfl⟩
        · exact ⟨thread, here, .inr (.inr ⟨by simp, by simp, .inl rfl⟩)⟩
        · by_cases same : state.server.threadIndex = i
          · obtain rfl : chosen = thread := by
              rw [same, here, Option.some_inj] at there
              exact there.symm
            refine ⟨chosen.addPkt ⟨sClient, OutputBuffer.new
              ((state.server.contentOf sClient).take (sizeT nDataLen)), origin⟩, ?_,
              .inr (.inr ⟨by simp, by simp, .inr ⟨_, rfl⟩⟩)⟩
            simp [CommonServer.setContent, CommonServer.setThread, same, inside]
          · exact ⟨thread, by simp [CommonServer.setContent, CommonServer.setThread, same, here],
              .inr (.inr ⟨by simp, by simp, .inl rfl⟩)⟩
  | handlePkt j =>
      obtain ⟨other, ⟨moved, delivered⟩, there, acted, rfl⟩ := step_handlePkt_cases taken
      by_cases same : j = i
      · subst same
        rw [here, Option.some_inj] at there
        subst there
        exact ⟨moved, by simp [CommonServer.setThread, inside], .inl ⟨rfl, delivered, acted⟩⟩
      · exact ⟨thread, by simp [CommonServer.setThread, same, here],
          .inr (.inr ⟨by simpa using same, by simp, .inl rfl⟩)⟩
  | stop j =>
      obtain ⟨other, there, rfl⟩ := step_stop_cases taken
      by_cases same : j = i
      · subst same
        rw [here, Option.some_inj] at there
        subst there
        exact ⟨_, by simp [CommonServer.setThread, inside], .inr (.inl ⟨rfl, rfl⟩)⟩
      · exact ⟨thread, by simp [CommonServer.setThread, same, here],
          .inr (.inr ⟨by simp, by simpa using same, .inl rfl⟩)⟩

/-! ## `Stop()` returns -/

/-- Thread `i` counts its queue correctly and was told to stop. -/
def Stopping (i : ℕ) (state : System H) : Prop :=
  ∃ thread, state.server.threads[i]? = some thread ∧ thread.Sound ∧ thread.bThreadRun = false

theorem bThreadRun_stop {τ : Type} (thread : PktHandleThread H τ) :
    thread.stop.bThreadRun = false := by
  unfold PktHandleThread.stop
  split
  · rfl
  · next stopped => simpa using stopped

/-- The thread's own moves lead it to its exit, and no other step leads it back. -/
theorem pays_to_exit (i bound : ℕ) :
    Pays step (fun state _ => state.queued i ≤ bound) (Stopping (H := H) i) (fun _ => False)
      (fun label => label = .handlePkt i)
      (fun state => state.atThread i (PktHandleThread.movesToExit bound)) where
  kept := by
    rintro state label next ⟨thread, here, sound, stopped⟩ - taken
    obtain ⟨after, there, ⟨-, delivered, moved⟩ | ⟨-, rfl⟩ | ⟨-, -, rfl | ⟨pktData, rfl⟩⟩⟩ :=
      step_thread_cases here taken
    · refine ⟨after, there, sound.handlePkt moved, ?_⟩
      rcases PktHandleThread.handlePkt_cases moved with ⟨-, -, rfl⟩ | ⟨-, -, rfl⟩ |
        ⟨_, -, -, rfl⟩ | ⟨-, -, rfl⟩ | ⟨_, -, -, rfl⟩ | ⟨_, _, _, -, -, -, rfl⟩ |
        ⟨_, _, -, -, rfl⟩ <;> exact stopped
    · exact ⟨_, there, sound.stop, bThreadRun_stop thread⟩
    · exact ⟨_, there, sound, stopped⟩
    · exact ⟨_, there, sound.addPkt pktData, stopped⟩
  stays _ _ _ reached := reached
  lowered := by
    rintro state label next ⟨thread, here, -, stopped⟩ short taken - own
    obtain rfl := of_decide_eq_true own
    rw [queued, atThread_eq here] at short
    obtain ⟨after, there, ⟨-, delivered, moved⟩ | ⟨impossible, -⟩ | ⟨other, -⟩⟩ :=
      step_thread_cases here taken
    · rw [atThread_eq here, atThread_eq there]
      exact Or.inr (PktHandleThread.movesToExit_handlePkt stopped short moved)
    · cases impossible
    · exact absurd rfl other
  held := by
    rintro state label next ⟨thread, here, -, -⟩ - taken - other
    obtain ⟨after, there, ⟨own, -⟩ | ⟨-, rfl⟩ | ⟨-, -, rfl | ⟨pktData, rfl⟩⟩⟩ :=
      step_thread_cases here taken
    · exact absurd own (of_decide_eq_false other)
    · rw [atThread_eq here, atThread_eq there]
      simp [PktHandleThread.movesToExit]
    · rw [atThread_eq here, atThread_eq there]
      simp
    · rw [atThread_eq here, atThread_eq there]
      exact Or.inr le_rfl

/-- **`Stop()` returns.**  For every thread number, every interleaving and every moment of
the call: after `Stop()` a thread whose queue never holds more than `bound` packets makes at
most `3 * bound + 5` moves, and until it has exited it has one. -/
theorem stop_joins (pDataHandle : H) (low : 0 ≤ nThreadNum)
    (high : nThreadNum ≤ CommonServer.maxThreadNum) {front back : List Label} (bound : ℕ)
    (short : Along step (fun state _ => state.queued i ≤ bound) (start pDataHandle nThreadNum)
      (front ++ .stop i :: back)) {last : System H}
    (runs : run step (start pDataHandle nThreadNum) (front ++ .stop i :: back) = some last) :
    back.countP (fun label => label = .handlePkt i) ≤ 3 * bound + 5 ∧
      ∃ thread, last.server.threads[i]? = some thread ∧
        (thread.pc = .exited ∨ ∃ next, last.step (.handlePkt i) = some next) := by
  rw [run_append, Option.bind_eq_some_iff] at runs
  obtain ⟨before, reached, runs⟩ := runs
  rw [run_cons, Option.bind_eq_some_iff] at runs
  obtain ⟨halted, taken, runs⟩ := runs
  have config := run_invariant (fun _ _ _ config taken => config_step config taken) front
    (config_start pDataHandle low high) reached
  obtain ⟨here, later⟩ := (along_append.mp short).2 before reached
  obtain ⟨thread, there, same⟩ := step_stop_cases taken
  have inside : i < before.server.threads.length := (List.getElem?_eq_some_iff.mp there).1
  have after : halted.server.threads[i]? = some thread.stop := by
    simp [same, CommonServer.setThread, inside]
  have sound := (config.sound there).stop
  have along := later _ taken
  have stopping : Stopping i halted := ⟨_, after, sound, bThreadRun_stop thread⟩
  constructor
  · rcases (pays_to_exit i bound).countP_le back stopping along runs with impossible | paid
    · exact impossible.elim
    · rw [queued, atThread_eq there, ← PktHandleThread.pktQueue_stop] at here
      rw [atThread_eq after] at paid
      have worth := PktHandleThread.movesToExit_le sound here
      omega
  · obtain ⟨thread, there, sound, -⟩ := run_invariant_along
      (fun _ _ _ holds met taken => (pays_to_exit i bound).kept holds met taken) back stopping
      along runs
    refine ⟨thread, there, Classical.or_iff_not_imp_left.mpr fun inside => ?_⟩
    obtain ⟨moved, acted⟩ := sound.exists_handlePkt inside
    exact Option.isSome_iff_exists.mp (by simp [step, there, acted])

/-- A thread that is stopped while it sleeps: the packet that wakes it is its last. -/
theorem stop_joins_asleep :
    ∃ last, run step (start () 1) ([.connected ⟨1, 2, 5⟩, .handlePkt 0, .handlePkt 0, .handlePkt 0,
        .handlePkt 0] ++ .stop 0 :: [.dataReceived ⟨1, 2, 5⟩ [1, 0, 0, 0, 7], .pass, .handlePkt 0,
        .pass, .handlePkt 0, .handlePkt 0, .handlePkt 0, .handlePkt 0, .handlePkt 0,
        .handlePkt 0]) = some last ∧
      [Label.dataReceived ⟨1, 2, 5⟩ [1, 0, 0, 0, 7], .pass, .handlePkt 0,
        .pass, .handlePkt 0, .handlePkt 0, .handlePkt 0, .handlePkt 0, .handlePkt 0,
        .handlePkt 0].countP (fun label => label = .handlePkt 0) ≤ 3 * 1 + 5 ∧
      ∃ thread, last.server.threads[0]? = some thread ∧
        (thread.pc = .exited ∨ ∃ next, last.step (.handlePkt 0) = some next) := by
  obtain ⟨last, runs⟩ := Option.isSome_iff_exists.mp
    (show (run step (start () 1) ([.connected ⟨1, 2, 5⟩, .handlePkt 0, .handlePkt 0, .handlePkt 0,
        .handlePkt 0] ++ .stop 0 :: [.dataReceived ⟨1, 2, 5⟩ [1, 0, 0, 0, 7], .pass, .handlePkt 0,
        .pass, .handlePkt 0, .handlePkt 0, .handlePkt 0, .handlePkt 0, .handlePkt 0,
        .handlePkt 0])).isSome = true by decide +kernel)
  exact ⟨last, runs, stop_joins () (by decide) (by decide) 1 (by decide +kernel) runs⟩

/-! ## What is pending is delivered -/

/-- The deliveries thread `i` has begun. -/
def begunAt (i : ℕ) (state : System H) : List (PktData ℕ) :=
  itemsAt (some i) (beginnings state.log)

/-- Thread `i` is not told to stop, and its queue is shorter than an `int` can count. -/
def LeftToWork (i : ℕ) (state : System H) (label : Label) : Prop :=
  label ≠ .stop i ∧ state.queued i < 2147483648

instance (i : ℕ) (state : System H) (label : Label) : Decidable (state.LeftToWork i label) :=
  inferInstanceAs (Decidable (_ ∧ _))

/-- What a step does to the deliveries of thread `i`, and to what was dispatched to it. -/
theorem begunAt_step (config : state.server.Config nThreadNum)
    (taken : state.step label = some next) :
    (begunAt i next = begunAt i state ∨
      ∃ pktData, label = .handlePkt i ∧ begunAt i next = begunAt i state ++ [pktData]) ∧
    itemsAt (some i) (dispatches state.log) <+: itemsAt (some i) (dispatches next.log) := by
  rcases pool_step_cases config taken with same | ⟨pktData, nDataLen, -, -, -, pushed⟩ |
    ⟨j, pktData, rest, rfl, -, popped⟩
  · have begun : beginnings next.log = beginnings state.log := congrArg Pool.popped same
    have framed : dispatches next.log = dispatches state.log := congrArg Pool.pushed same
    exact ⟨Or.inl (congrArg (itemsAt (some i)) begun), framed ▸ List.prefix_rfl⟩
  · rcases pushed with ⟨-, pushed⟩ | ⟨-, pushed⟩
    · have begun : beginnings next.log = beginnings state.log ++ [(none, pktData)] :=
        congrArg Pool.popped pushed
      have framed : dispatches next.log = dispatches state.log ++ [(none, pktData)] :=
        congrArg Pool.pushed pushed
      refine ⟨Or.inl ?_, ?_⟩
      · simp [begunAt, begun]
      · simp [framed]
    · have begun : beginnings next.log = beginnings state.log := congrArg Pool.popped pushed
      have framed : dispatches next.log =
          dispatches state.log ++ [(some state.server.threadIndex, pktData)] :=
        congrArg Pool.pushed pushed
      refine ⟨Or.inl (congrArg (itemsAt (some i)) begun), ?_⟩
      rw [framed, itemsAt_concat]
      exact List.prefix_append _ _
  · have begun : beginnings next.log = beginnings state.log ++ [(some j, pktData)] :=
      congrArg Pool.popped popped
    have framed : dispatches next.log = dispatches state.log := congrArg Pool.pushed popped
    refine ⟨?_, framed ▸ List.prefix_rfl⟩
    rw [begunAt, begun, itemsAt_concat]
    by_cases same : j = i
    · subst same
      exact Or.inr ⟨pktData, rfl, by simp [begunAt]⟩
    · exact Or.inl (by simp [begunAt, same])

/-- The move of thread `i` itself: it begins the delivery it has come to. -/
theorem begunAt_handlePkt {thread after : PktHandleThread H ℕ} {delivered : Option (PktData ℕ)}
    (here : state.server.threads[i]? = some thread)
    (moved : thread.handlePkt = some (after, delivered))
    (taken : state.step (.handlePkt i) = some next) :
    begunAt i next = begunAt i state ++ delivered.toList := by
  obtain ⟨thread', moved', there, acted, rfl⟩ := step_handlePkt_cases taken
  rw [here, Option.some_inj] at there
  subst there
  rw [moved, Option.some_inj] at acted
  subst acted
  cases delivered with
  | none => simp [begunAt, deliveryEvents]
  | some pktData => simp [begunAt, deliveryEvents, beginnings, itemsAt]

/-- The pool keeps its promise, and thread `i` works, with `target` packets dispatched to
it. -/
structure Promised (nThreadNum : Int32) (i target : ℕ) (state : System H) : Prop where
  config : state.server.Config nThreadNum
  conserved : state.pool.Conserved
  working : ∃ thread, state.server.threads[i]? = some thread ∧ thread.Working
  dispatched : target ≤ (itemsAt (some i) (dispatches state.log)).length

/-- A thread that has not begun what was promised has something pending. -/
theorem Promised.pending_ne_nil {target : ℕ} (promised : state.Promised nThreadNum i target)
    (missed : ¬ target ≤ (begunAt i state).length) {thread : PktHandleThread H ℕ}
    (here : state.server.threads[i]? = some thread) : thread.pending ≠ [] := by
  intro empty
  have conserved := promised.conserved (some i)
  have none : state.pool.queue (some i) = [] := by
    simp [pool, CommonServer.pendingAt, here, empty]
  rw [none, List.append_nil] at conserved
  have begun : begunAt i state = itemsAt (some i) (dispatches state.log) := conserved
  exact missed (begun ▸ promised.dispatched)

theorem Promised.step {target : ℕ} (promised : state.Promised nThreadNum i target)
    (left : state.LeftToWork i label) (taken : state.step label = some next) :
    next.Promised nThreadNum i target := by
  obtain ⟨thread, here, working⟩ := promised.working
  obtain ⟨actions, runs, -⟩ := step_refines promised.config taken
  refine ⟨config_step promised.config taken,
    run_invariant (fun _ _ _ conserved taken => Pool.Conserved.step conserved taken) actions
      promised.conserved runs, ?_,
    promised.dispatched.trans (begunAt_step promised.config taken).2.length_le⟩
  obtain ⟨after, there, ⟨-, delivered, moved⟩ | ⟨stopped, -⟩ | ⟨-, -, rfl | ⟨pktData, rfl⟩⟩⟩ :=
    step_thread_cases here taken
  · have short := left.2
    rw [queued, atThread_eq here] at short
    exact ⟨after, there, working.handlePkt short moved⟩
  · exact absurd stopped left.1
  · exact ⟨_, there, working⟩
  · exact ⟨_, there, working.addPkt pktData⟩

/-- The moves that are enough for thread `i` to begin its delivery number `target`. -/
def movesToTarget (i target : ℕ) (state : System H) : ℕ :=
  7 * (target - (begunAt i state).length - 1) + state.atThread i PktHandleThread.movesToDeliver

theorem pays_to_deliver (nThreadNum : Int32) (i target : ℕ) :
    Pays step (LeftToWork (H := H) i) (Promised nThreadNum i target)
      (fun state => target ≤ (begunAt i state).length) (fun label => label = .handlePkt i)
      (movesToTarget i target) where
  kept promised left taken := promised.step left taken
  stays := by
    rintro state label next promised - taken reached
    rcases (begunAt_step promised.config taken).1 with same | ⟨pktData, -, more⟩
    · rwa [same]
    · rw [more, List.length_append]
      omega
  lowered := by
    rintro state label next promised ⟨-, short⟩ taken missed own
    obtain rfl := of_decide_eq_true own
    obtain ⟨thread, here, working⟩ := promised.working
    rw [queued, atThread_eq here] at short
    obtain ⟨after, there, ⟨-, delivered, moved⟩ | ⟨impossible, -⟩ | ⟨other, -⟩⟩ :=
      step_thread_cases here taken
    · have begun := begunAt_handlePkt here moved taken
      rw [movesToTarget, movesToTarget, begun, atThread_eq here, atThread_eq there]
      cases delivered with
      | none =>
          have less := PktHandleThread.movesToDeliver_handlePkt working short
            (promised.pending_ne_nil missed here) moved
          rw [Option.toList_none, List.append_nil]
          exact Or.inr (by omega)
      | some pktData =>
          -- the next delivery takes seven moves at the most
          have before := PktHandleThread.movesToDeliver_pos thread
          have ahead := PktHandleThread.movesToDeliver_le after
          rw [Option.toList_some, List.length_append, List.length_singleton]
          omega
    · cases impossible
    · exact absurd rfl other
  held := by
    rintro state label next promised left taken - other
    obtain ⟨thread, here, -⟩ := promised.working
    have foreign : label ≠ .handlePkt i := of_decide_eq_false other
    have same : begunAt i next = begunAt i state := by
      rcases (begunAt_step promised.config taken).1 with same | ⟨pktData, own, -⟩
      · exact same
      · exact absurd own foreign
    obtain ⟨after, there, ⟨own, -⟩ | ⟨stopped, -⟩ | ⟨-, -, rfl | ⟨pktData, rfl⟩⟩⟩ :=
      step_thread_cases here taken
    · exact absurd own foreign
    · exact absurd stopped left.1
    · rw [movesToTarget, movesToTarget, same, atThread_eq here, atThread_eq there]
      exact Or.inr le_rfl
    · rw [movesToTarget, movesToTarget, same, atThread_eq here, atThread_eq there]
      exact Or.inr le_rfl

theorem promised_start (pDataHandle : H) (low : 0 ≤ nThreadNum)
    (high : nThreadNum ≤ CommonServer.maxThreadNum) {thread : PktHandleThread H ℕ}
    (here : (start pDataHandle nThreadNum).server.threads[i]? = some thread) :
    (start pDataHandle nThreadNum).Promised nThreadNum i 0 where
  config := config_start pDataHandle low high
  conserved := pool_start pDataHandle nThreadNum ▸ Pool.conserved_empty
  working := by
    refine ⟨thread, here, ?_⟩
    simp only [start, CommonServer.setThreadNum] at here
    split at here
    · cases here
    · obtain ⟨-, rfl⟩ := List.getElem?_eq_some_iff.mp here
      simpa using PktHandleThread.working_init _
  dispatched := Nat.zero_le _

/-- **What is pending at a thread is delivered.**  For every thread of every thread number
and every interleaving in which the thread is not stopped: after seven of its moves for each
packet that was pending, the deliveries of them all have begun, in order. -/
theorem delivered_of_run (pDataHandle : H) (high : nThreadNum ≤ CommonServer.maxThreadNum)
    (inside : i < nThreadNum.toInt.toNat) {front back : List Label} {middle last : System H}
    (left : Along step (LeftToWork i) (start pDataHandle nThreadNum) (front ++ back))
    (reached : run step (start pDataHandle nThreadNum) front = some middle)
    (runs : run step middle back = some last)
    (often : 7 * (middle.server.pendingAt (some i)).length ≤
      back.countP fun label => label = .handlePkt i) :
    begunAt i middle ++ middle.server.pendingAt (some i) <+: begunAt i last := by
  have low : 0 ≤ nThreadNum := by
    rw [Int32.le_iff_toInt_le, show (0 : Int32).toInt = 0 from rfl]
    omega
  have config := config_start pDataHandle low high
  obtain ⟨leftFront, leftBack⟩ := along_append.mp left
  have there := List.getElem?_eq_getElem (config.threads_length ▸ inside)
  have promised := run_invariant_along (fun _ _ _ promised left taken => promised.step left taken)
    front (promised_start pDataHandle low high there) leftFront reached
  -- the packets that were dispatched to the thread by then, in order
  have conserved : begunAt i middle ++ middle.server.pendingAt (some i) =
      itemsAt (some i) (dispatches middle.log) := promised.conserved (some i)
  have promise : middle.Promised nThreadNum i
      (itemsAt (some i) (dispatches middle.log)).length :=
    ⟨promised.config, promised.conserved, promised.working, le_rfl⟩
  have pays := pays_to_deliver (H := H) nThreadNum i
    (itemsAt (some i) (dispatches middle.log)).length
  have kept : (itemsAt (some i) (dispatches middle.log)) <+:
      itemsAt (some i) (dispatches last.log) :=
    (run_invariant (I := fun state : System H => state.server.Config nThreadNum ∧
        itemsAt (some i) (dispatches middle.log) <+: itemsAt (some i) (dispatches state.log))
      (fun _ _ _ holds taken => ⟨config_step holds.1 taken,
        holds.2.trans (begunAt_step holds.1 taken).2⟩)
      back ⟨promised.config, List.prefix_rfl⟩ runs).2
  have there : (itemsAt (some i) (dispatches middle.log)).length ≤ (begunAt i last).length := by
    have lengths := congrArg List.length conserved
    rw [List.length_append] at lengths
    rcases Nat.eq_zero_or_pos (middle.server.pendingAt (some i)).length with none | waits
    · exact pays.goal_of_run back promise (leftBack middle reached) runs (by omega)
    · refine pays.goal_of_le_countP (fun state promised _ => ?_) promise (leftBack middle reached)
        runs ?_
      · obtain ⟨thread, here, -⟩ := promised.working
        have positive := PktHandleThread.movesToDeliver_pos thread
        rw [movesToTarget, atThread_eq here]
        omega
      · obtain ⟨thread, here, -⟩ := promised.working
        have ahead := PktHandleThread.movesToDeliver_le thread
        rw [movesToTarget, atThread_eq here]
        omega
  have conservedLast := (run_invariant_along
    (fun _ _ _ promised left taken => promised.step left taken) back promise
    (leftBack middle reached) runs).conserved (some i)
  rw [conserved]
  exact List.prefix_of_prefix_length_le kept (conservedLast ▸ List.prefix_append _ _) there

/-- Two packets come while the thread looks at its empty queue; in between a third comes,
for which nothing is promised. -/
theorem delivered_of_run_late :
    ∃ middle last, run step (start () 1) [.connected ⟨1, 2, 5⟩, .handlePkt 0, .handlePkt 0,
        .dataReceived ⟨1, 2, 5⟩ [1, 0, 0, 0, 7, 1, 0, 0, 0, 8], .pass, .pass] = some middle ∧
      run step middle ([.pass, .dataReceived ⟨1, 2, 5⟩ [1, 0, 0, 0, 9], .pass] ++
        List.replicate 14 (.handlePkt 0)) = some last ∧
      begunAt 0 middle ++ middle.server.pendingAt (some 0) <+: begunAt 0 last := by
  obtain ⟨middle, reached, pending⟩ : ∃ middle, run step (start () 1) [.connected ⟨1, 2, 5⟩,
        .handlePkt 0, .handlePkt 0, .dataReceived ⟨1, 2, 5⟩ [1, 0, 0, 0, 7, 1, 0, 0, 0, 8],
        .pass, .pass] = some middle ∧ (middle.server.pendingAt (some 0)).length = 2 :=
    ⟨_, rfl, by decide +kernel⟩
  obtain ⟨last, runs⟩ := Option.isSome_iff_exists.mp
    (show (run step (start () 1) ([.connected ⟨1, 2, 5⟩, .handlePkt 0, .handlePkt 0,
        .dataReceived ⟨1, 2, 5⟩ [1, 0, 0, 0, 7, 1, 0, 0, 0, 8], .pass, .pass] ++
        ([.pass, .dataReceived ⟨1, 2, 5⟩ [1, 0, 0, 0, 9], .pass] ++
          List.replicate 14 (.handlePkt 0)))).isSome = true by decide +kernel)
  rw [run_append, reached, Option.bind_some] at runs
  exact ⟨middle, last, reached, runs, delivered_of_run () (by decide) (by decide)
    (by decide +kernel) reached runs (by rw [pending]; decide)⟩

end System

end ServerLib
