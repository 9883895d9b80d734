import ServerLib.Dispatch

/-!
# Packets and the end of their connection

The loop thread reports the end of a connection to the data handle itself, while
the connection's packets may still wait in the queues of packet threads, which a
termination does not visit.  `not_always_quiet` is an interleaving with one thread
in which a packet is delivered after the disconnect, and even after the same key
has been connected again.

`quiet_of_settled` is the exact proviso.  As long as every termination finds the
packets of its connection delivered, no delivery for a connection begins after its
disconnect.  Without packet threads nothing ever waits, and the law holds in every
run (`quiet_without_threads`).

The invariant is `Confined`: the connections still registered are the ones not
ended, each under one key, and only their packets are pending.
-/

namespace ServerLib

open Transition

namespace System

variable {H : Type}

/-- The connection was reported disconnected. -/
def Ended (origin : ℕ) (log : List (Event H ℕ)) : Prop :=
  ∃ pDataHandle sClient nErrorCode,
    .onClientDisconnected pDataHandle sClient nErrorCode origin ∈ log

/-- Not a delivery of a packet behind the disconnect of the connection it was
framed from. -/
def NotAfterEnd : Event H ℕ → Event H ℕ → Prop
  | .onClientDisconnected _ _ _ origin, .onClientDataReceived _ _ pktData =>
      pktData.origin ≠ origin
  | _, _ => True

/-- No delivery begins after the disconnect of the connection its packet was
framed from. -/
def Quiet (log : List (Event H ℕ)) : Prop := log.Pairwise NotAfterEnd

/-- A connection that ends has no packet with a thread. -/
def SettledAtTermination (state : System H) : Label → Prop
  | .terminated sClient _ =>
      ∀ i < state.server.threads.length, ∀ pktData ∈ state.server.pendingAt (some i),
        state.live sClient ≠ some pktData.origin
  | _ => True

instance (state : System H) : (label : Label) → Decidable (state.SettledAtTermination label)
  | .terminated _ _ => inferInstanceAs (Decidable (∀ i < _, ∀ pktData ∈ _, _ ≠ _))
  | .connected _ | .dataReceived _ _ | .pass | .handlePkt _ | .stop _ =>
      inferInstanceAs (Decidable True)

theorem ended_append {origin : ℕ} {log log' : List (Event H ℕ)} :
    Ended origin (log ++ log') ↔ Ended origin log ∨ Ended origin log' := by
  simp only [Ended, List.mem_append, exists_or]

/-- A delivery keeps the history quiet when its connection has not ended. -/
theorem Quiet.concat_delivery {log : List (Event H ℕ)} (quiet : Quiet log)
    {thread : Option ℕ} {pDataHandle : Option H} {pktData : PktData ℕ}
    (open' : ¬ Ended pktData.origin log) :
    Quiet (log ++ [.onClientDataReceived thread pDataHandle pktData]) := by
  refine List.pairwise_append.mpr ⟨quiet, List.pairwise_singleton _ _, ?_⟩
  intro earlier member later last
  rw [List.mem_singleton] at last
  subst last
  cases earlier with
  | onClientDisconnected handle sClient nErrorCode origin =>
      intro same
      exact open' ⟨handle, sClient, nErrorCode, same ▸ member⟩
  | _ => trivial

/-- Every other event keeps it quiet. -/
theorem Quiet.concat {log : List (Event H ℕ)} (quiet : Quiet log) {event : Event H ℕ}
    (other : ∀ thread pDataHandle pktData,
      event ≠ .onClientDataReceived thread pDataHandle pktData) : Quiet (log ++ [event]) := by
  refine List.pairwise_append.mpr ⟨quiet, List.pairwise_singleton _ _, ?_⟩
  intro earlier member later last
  rw [List.mem_singleton] at last
  subst last
  cases later with
  | onClientDataReceived thread pDataHandle pktData => exact absurd rfl (other _ _ _)
  | _ => cases earlier <;> trivial

/-- The connections registered have not ended, and only their packets are
pending. -/
structure Confined (state : System H) : Prop where
  live_lt : ∀ {sClient origin}, state.live sClient = some origin → origin < state.nextConn
  live_inj : ∀ {sClient sClient' origin}, state.live sClient = some origin →
    state.live sClient' = some origin → sClient = sClient'
  live_open : ∀ {sClient origin}, state.live sClient = some origin → ¬ Ended origin state.log
  ended_lt : ∀ {origin}, Ended origin state.log → origin < state.nextConn
  adding_live : ∀ {sClient origin}, state.adding = some (sClient, origin) →
    state.live sClient = some origin
  pending_open : ∀ i, ∀ pktData ∈ state.server.pendingAt i, ¬ Ended pktData.origin state.log
  quiet : Quiet state.log

namespace Confined

variable {state next : System H} {sClient : SocketClientData}

theorem start (pDataHandle : H) (nThreadNum : Int32) :
    (System.start pDataHandle nThreadNum).Confined := by
  have nowhere : ∀ i, (System.start pDataHandle nThreadNum).server.pendingAt i = [] :=
    congrFun (congrArg FifoPool.Pool.queue (pool_start pDataHandle nThreadNum))
  refine ⟨nofun, nofun, nofun, ?_, nofun, fun i pktData member => ?_, List.Pairwise.nil⟩
  · rintro origin ⟨_, _, _, member⟩
    cases member
  · rw [nowhere i] at member
    cases member

/-- What a step must leave alone for the registered connections to stay as they
are: only the history grows, by events that end nothing. -/
theorem of_same (confined : state.Confined) (sameLive : next.live = state.live)
    (sameConn : next.nextConn = state.nextConn)
    (sameEnded : ∀ origin, Ended origin next.log ↔ Ended origin state.log)
    (adding_live : ∀ {sClient origin}, next.adding = some (sClient, origin) →
      state.live sClient = some origin)
    (pending_open : ∀ i, ∀ pktData ∈ next.server.pendingAt i, ¬ Ended pktData.origin state.log)
    (quiet : Quiet next.log) : next.Confined where
  live_lt live := by
    rw [sameConn]
    exact confined.live_lt (sameLive ▸ live)
  live_inj live live' := confined.live_inj (sameLive ▸ live) (sameLive ▸ live')
  live_open live ended :=
    confined.live_open (sameLive ▸ live) ((sameEnded _).mp ended)
  ended_lt ended := by
    rw [sameConn]
    exact confined.ended_lt ((sameEnded _).mp ended)
  adding_live inside := by
    rw [sameLive]
    exact adding_live inside
  pending_open i pktData member ended := pending_open i pktData member ((sameEnded _).mp ended)
  quiet := quiet

/-- A new connection gets a number no ended connection had. -/
theorem connected (confined : state.Confined)
    (taken : state.step (.connected sClient) = some next) : next.Confined := by
  obtain ⟨idle, fresh, rfl⟩ := step_connected_cases taken
  have sameEnded : ∀ origin, Ended origin (state.log ++
      [.onClientConnected state.server.pDataHandle sClient state.nextConn]) ↔
        Ended origin state.log := by
    intro origin
    simp [Ended]
  -- registered now: the new number under the key, or what was registered before
  have live_cases : ∀ {key origin},
      Function.update state.live sClient (some state.nextConn) key = some origin →
        key = sClient ∧ origin = state.nextConn ∨
          key ≠ sClient ∧ state.live key = some origin := by
    intro key origin live
    refine (Transition.update_eq_some_iff.mp live).imp (fun mine => ⟨mine.1, ?_⟩) id
    exact (Option.some.inj mine.2).symm
  refine ⟨fun live => ?_, fun live live' => ?_, fun live ended => ?_, fun ended => ?_,
    fun inside => ?_, fun i pktData member ended => ?_, confined.quiet.concat (by simp)⟩
  · rcases live_cases live with ⟨-, rfl⟩ | ⟨-, live⟩
    · exact Nat.lt_succ_self _
    · exact Nat.lt_succ_of_lt (confined.live_lt live)
  · rcases live_cases live with ⟨own, same⟩ | ⟨-, registered⟩ <;>
      rcases live_cases live' with ⟨own', same'⟩ | ⟨-, registered'⟩
    · rw [own, own']
    · exact absurd (confined.live_lt registered') (by omega)
    · exact absurd (confined.live_lt registered) (by omega)
    · exact confined.live_inj registered registered'
  · rw [sameEnded] at ended
    rcases live_cases live with ⟨-, rfl⟩ | ⟨-, live⟩
    · exact Nat.lt_irrefl _ (confined.ended_lt ended)
    · exact confined.live_open live ended
  · exact Nat.lt_succ_of_lt (confined.ended_lt ((sameEnded _).mp ended))
  · rw [idle] at inside
    cases inside
  · exact confined.pending_open i pktData member ((sameEnded _).mp ended)

/-- A termination that finds its connection's packets delivered. -/
theorem terminated (confined : state.Confined) {how : CommonServer.Termination}
    (settled : state.SettledAtTermination (.terminated sClient how))
    (taken : state.step (.terminated sClient how) = some next) : next.Confined := by
  obtain ⟨origin, nErrorCode, idle, registered, rfl⟩ := step_terminated_cases taken
  have ended_cases : ∀ {other}, Ended other (state.log ++
      [.onClientDisconnected state.server.pDataHandle sClient nErrorCode origin]) →
        Ended other state.log ∨ other = origin := by
    intro other ended
    rcases ended_append.mp ended with ended | ⟨_, _, _, member⟩
    · exact Or.inl ended
    · cases List.mem_singleton.mp member
      exact Or.inr rfl
  have live_cases : ∀ {key other}, Function.update state.live sClient none key = some other →
      key ≠ sClient ∧ state.live key = some other := by
    intro key other live
    exact (Transition.update_eq_some_iff.mp live).resolve_left fun mine => nomatch mine.2
  refine ⟨fun live => confined.live_lt (live_cases live).2, fun live live' =>
    confined.live_inj (live_cases live).2 (live_cases live').2, fun live ended => ?_,
    fun ended => ?_, fun inside => ?_, fun i pktData member ended => ?_,
    confined.quiet.concat (by simp)⟩
  · rcases ended_cases ended with ended | rfl
    · exact confined.live_open (live_cases live).2 ended
    · exact (live_cases live).1 (confined.live_inj (live_cases live).2 registered)
  · rcases ended_cases ended with ended | rfl
    · exact confined.ended_lt ended
    · exact confined.live_lt registered
  · rw [idle] at inside
    cases inside
  · rcases ended_cases ended with ended | same
    · exact confined.pending_open i pktData member ended
    · -- a packet of the connection that ends: the proviso says there is none
      cases i with
      | none => cases member
      | some i =>
          have inRange : i < state.server.threads.length := by
            by_contra outside
            have nowhere : state.server.pendingAt (some i) = [] := by
              simp [CommonServer.pendingAt, Nat.not_lt.mp outside]
            have member' : pktData ∈ state.server.pendingAt (some i) := member
            rw [nowhere] at member'
            cases member'
          exact settled i inRange pktData member (same ▸ registered)

/-- **The step lemma.**  Every step keeps the invariant, a termination under the
proviso that its connection's packets are delivered. -/
theorem step (confined : state.Confined) {label : Label}
    (settled : state.SettledAtTermination label) (taken : state.step label = some next) :
    next.Confined := by
  cases label with
  | connected key => exact confined.connected taken
  | terminated key how => exact confined.terminated settled taken
  | dataReceived key pData =>
      obtain ⟨origin, -, registered, rfl⟩ := step_dataReceived_cases taken
      refine confined.of_same rfl rfl (by simp [Ended]) ?_ confined.pending_open
        (confined.quiet.concat (by simp))
      intro sClient other inside
      cases inside
      exact registered
  | pass =>
      obtain ⟨key, origin, inside, ⟨-, rfl⟩ | ⟨-, rfl⟩ |
        ⟨_, rest, handled, found, -, called, rfl⟩⟩ :=
        step_pass_cases taken
      · exact confined.of_same rfl rfl (fun _ => Iff.rfl) nofun confined.pending_open
          confined.quiet
      · exact confined.of_same rfl rfl (fun _ => Iff.rfl) nofun confined.pending_open
          confined.quiet
      · -- the packet belongs to the connection the loop is at, which is registered
        have notEnded := confined.live_open (confined.adding_live inside)
        rcases CommonServer.handlePkt_cases called with ⟨-, rfl⟩ | ⟨-, thread, here, rfl⟩
        · refine confined.of_same rfl rfl (by simp [Ended]) confined.adding_live
            confined.pending_open ?_
          show Quiet (_ ++ [_, _])
          rw [List.append_cons]
          refine (confined.quiet.concat (by simp)).concat_delivery ?_
          simpa [Ended] using notEnded
        · refine confined.of_same rfl rfl (by simp [Ended]) confined.adding_live ?_
            (confined.quiet.concat (by simp))
          intro i pktData member
          have member' : pktData ∈ (state.server.setThread _ _).pendingAt i := member
          rw [CommonServer.pendingAt_setThread here, PktHandleThread.pending_addPkt] at member'
          split at member'
          · rcases List.mem_append.mp member' with member' | member'
            · exact confined.pending_open (some state.server.threadIndex) pktData
                (by simpa [CommonServer.pendingAt, here] using member')
            · rw [List.mem_singleton] at member'
              exact member' ▸ notEnded
          · exact confined.pending_open i pktData member'
  | handlePkt i =>
      obtain ⟨thread, ⟨moved, delivered⟩, here, acted, rfl⟩ := step_handlePkt_cases taken
      have conserved := PktHandleThread.pending_handlePkt acted
      have mine : ∀ pktData ∈ thread.pending, ¬ Ended pktData.origin state.log :=
        fun pktData member => confined.pending_open (some i) pktData
          (by simpa [CommonServer.pendingAt, here] using member)
      have pending_open : ∀ j, ∀ pktData ∈ (state.server.setThread i moved).pendingAt j,
          ¬ Ended pktData.origin state.log := by
        intro j pktData member
        rw [CommonServer.pendingAt_setThread here] at member
        split at member
        · exact mine pktData (conserved ▸ List.mem_append_right _ member)
        · exact confined.pending_open j pktData member
      cases delivered with
      | none =>
          exact confined.of_same rfl rfl (by simp [deliveryEvents]) confined.adding_live
            pending_open (by simpa [deliveryEvents] using confined.quiet)
      | some pktData =>
          exact confined.of_same rfl rfl (by simp [deliveryEvents, Ended]) confined.adding_live
            pending_open (confined.quiet.concat_delivery
              (mine pktData (conserved ▸ List.mem_append_left _ List.mem_cons_self)))
  | stop i =>
      obtain ⟨thread, here, rfl⟩ := step_stop_cases taken
      refine confined.of_same rfl rfl (fun _ => Iff.rfl) confined.adding_live ?_ confined.quiet
      intro j pktData member
      have member' : pktData ∈ (state.server.setThread i thread.stop).pendingAt j := member
      rw [CommonServer.pendingAt_setThread here, PktHandleThread.pending_stop] at member'
      split at member'
      · exact confined.pending_open (some i) pktData
          (by simpa [CommonServer.pendingAt, here] using member')
      · exact confined.pending_open j pktData member'

end Confined

/-! ## No delivery behind the disconnect -/

section Runs

variable {nThreadNum : Int32} {labels : List Label} {last : System H}

/-- **The law, with its proviso.**  For every thread number and every interleaving in
which each termination finds the packets of its connection
delivered: no delivery begins after the disconnect of the connection its packet
was framed from. -/
theorem quiet_of_settled (pDataHandle : H)
    (settled : Along step SettledAtTermination (start pDataHandle nThreadNum) labels)
    (runs : run step (start pDataHandle nThreadNum) labels = some last) : Quiet last.log := by
  have confined : last.Confined :=
    run_invariant_along (fun _ _ _ confined settled taken => confined.step settled taken)
      labels (Confined.start pDataHandle nThreadNum) settled runs
  exact confined.quiet

/-- One thread; the packet is delivered before its connection ends. -/
theorem quiet_of_settled_one_thread :
    ∃ last, run step (start () 1) [.connected ⟨1, 2, 5⟩,
        .dataReceived ⟨1, 2, 5⟩ [1, 0, 0, 0, 7], .pass, .pass, .handlePkt 0, .handlePkt 0,
        .handlePkt 0, .handlePkt 0, .handlePkt 0, .handlePkt 0,
        .terminated ⟨1, 2, 5⟩ .timeout] = some last ∧ Quiet last.log := by
  refine ⟨_, rfl, ?_⟩
  have runs : run step (start () 1) [.connected ⟨1, 2, 5⟩,
      .dataReceived ⟨1, 2, 5⟩ [1, 0, 0, 0, 7], .pass, .pass, .handlePkt 0, .handlePkt 0,
      .handlePkt 0, .handlePkt 0, .handlePkt 0, .handlePkt 0,
      .terminated ⟨1, 2, 5⟩ .timeout] = some _ := rfl
  exact quiet_of_settled () (by decide +kernel) runs

/-- **Without packet threads the law holds in every run.** -/
theorem quiet_without_threads (pDataHandle : H)
    (runs : run step (start pDataHandle 0) labels = some last) : Quiet last.log := by
  refine quiet_of_settled pDataHandle ?_ runs
  refine along_of_invariant (fun _ _ _ config taken => config_step config taken) ?_ labels
    (config_start pDataHandle (show (0 : Int32) ≤ 0 by decide) (by decide))
  intro state label config
  cases label with
  | terminated sClient how =>
      intro i inRange
      rw [config.threads_length] at inRange
      cases inRange
  | connected _ | dataReceived _ _ | pass | handlePkt _ | stop _ => trivial

/-- One thread; the client disconnects with its packet queued, the same key
connects again, and then the packet is delivered. -/
theorem not_always_quiet :
    ¬ ∀ (nThreadNum : Int32), 0 ≤ nThreadNum → nThreadNum ≤ CommonServer.maxThreadNum →
      ∀ (labels : List Label) (last : System Unit),
        run step (start () nThreadNum) labels = some last → Quiet last.log := by
  intro claim
  have quiet := claim 1 (by decide) (by decide) [.connected ⟨1, 2, 5⟩,
    .dataReceived ⟨1, 2, 5⟩ [1, 0, 0, 0, 7], .pass, .pass, .terminated ⟨1, 2, 5⟩ (.disconnected 0),
    .connected ⟨1, 2, 5⟩, .handlePkt 0, .handlePkt 0, .handlePkt 0, .handlePkt 0, .handlePkt 0,
    .handlePkt 0] _ rfl
  have apart : NotAfterEnd (H := Unit) (.onClientDisconnected (some ()) ⟨1, 2, 5⟩ 0 0)
      (.onClientDataReceived (some 0) (some ()) ⟨⟨1, 2, 5⟩, OutputBuffer.new [1, 0, 0, 0, 7], 0⟩) :=
    List.pairwise_iff_getElem.mp quiet 3 5 (by decide +kernel) (by decide +kernel) (by decide)
  exact apart rfl

end Runs

end System

end ServerLib
