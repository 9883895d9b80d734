import ServerLib.PacketOrder
import ServerLib.Segmentation

/-!
# The packets of one connection

`PacketOrder` follows a key, which can be connected again and again.  This module
follows one connection, by its number, from its first chunk on and past its end: what
`__AddContent` makes of its chunks is `received`, the calls for one client of
`ServerLib.Segmentation`, and nothing that happens to any other connection, to a packet
thread or to the key afterwards changes that.

* `FramedFrom`: the packets dispatched from the connection, then what the loop of
  `__AddContent` will still do with its buffer, are what its chunks come to.
* `Numbered`: the registered keys have different numbers below `nextConn`, the loop is at
  a registered key, and `m_Contents` has no entry for any other key.  It carries the proof,
  since a new connection must not find bytes of an old one.
* `Drained`: outside the loop no buffer holds a packet that the loop would hand over.  The
  loop compares lengths as 32-bit numbers; a buffer below two gibibytes then holds no
  complete packet at all (`NothingWithheld`).

They hold in every state of every run of the system (`framing_of_run`).
-/

namespace ServerLib

open Transition FifoPool

theorem afterPkts_afterPkts (front back : List Bytes) (outcome : AddOutcome) :
    (outcome.afterPkts back).afterPkts front = outcome.afterPkts (front ++ back) := by
  cases outcome with
  | returned pkts strData => exact congrArg₂ AddOutcome.returned (List.append_assoc ..).symm rfl
  | threw pkts strData => exact congrArg₂ AddOutcome.threw (List.append_assoc ..).symm rfl

theorem afterPkts_afterPkt (front : List Bytes) (pkt : Bytes) (outcome : AddOutcome) :
    (outcome.afterPkt pkt).afterPkts front = outcome.afterPkts (front ++ [pkt]) := by
  rw [← afterPkts_singleton, afterPkts_afterPkts]

/-- One more call behind calls that returned. -/
theorem received_concat (chunks : List Bytes) (chunk : Bytes) :
    ∀ {strData : Bytes} {pkts : List Bytes} {left : Bytes},
      received strData chunks = .returned pkts left →
      received strData (chunks ++ [chunk]) = (addLoop (left ++ chunk)).afterPkts pkts := by
  induction chunks with
  | nil =>
      intro strData pkts left outcome
      obtain ⟨rfl, rfl⟩ := AddOutcome.returned.inj outcome
      rw [List.nil_append, received, afterPkts_nil]
      cases addLoop (strData ++ chunk) with
      | returned pkts left => exact congrArg₂ AddOutcome.returned (List.append_nil _) rfl
      | threw pkts left => rfl
  | cons first later ih =>
      intro strData pkts left outcome
      cases looped : addLoop (strData ++ first) with
      | threw more thrown =>
          rw [received, looped] at outcome
          cases outcome
      | returned more kept =>
          rw [received_of_returned looped] at outcome
          cases ends : received kept later with
          | threw others thrown =>
              rw [ends] at outcome
              cases outcome
          | returned others kept' =>
              rw [ends] at outcome
              obtain ⟨rfl, rfl⟩ := AddOutcome.returned.inj outcome
              rw [List.cons_append, received_of_returned looped, ih ends, afterPkts_afterPkts]

namespace System

variable {H : Type}

/-! ## What the history says of a connection -/

/-- The chunks that arrived on a connection. -/
def chunksFrom (origin : ℕ) (log : List (Event H ℕ)) : List Bytes :=
  log.filterMap fun
    | .chunkReceived _ pData other => if other = origin then some pData else none
    | _ => none

/-- The packet was framed on the connection. -/
def fromConn (origin : ℕ) (pktData : PktData ℕ) : Bool :=
  pktData.origin = origin

/-- The packets that were framed on a connection, in the order of the calls of
`__HandlePkt`. -/
def framedFrom (origin : ℕ) (log : List (Event H ℕ)) : List Bytes :=
  (ofClass (fromConn origin) (dispatches log)).map PktData.bytes

@[simp] theorem chunksFrom_append (origin : ℕ) (log log' : List (Event H ℕ)) :
    chunksFrom origin (log ++ log') = chunksFrom origin log ++ chunksFrom origin log' :=
  List.filterMap_append

@[simp] theorem framedFrom_append (origin : ℕ) (log log' : List (Event H ℕ)) :
    framedFrom origin (log ++ log') = framedFrom origin log ++ framedFrom origin log' := by
  simp [framedFrom, ofClass]

@[simp] theorem chunksFrom_singleton (origin : ℕ) (event : Event H ℕ) :
    chunksFrom origin [event] = match event with
      | .chunkReceived _ pData other => if other = origin then [pData] else []
      | _ => [] := by
  cases event with
  | chunkReceived sClient pData other =>
      by_cases own : other = origin <;> simp [chunksFrom, own]
  | _ => rfl

@[simp] theorem framedFrom_singleton (origin : ℕ) (event : Event H ℕ) :
    framedFrom origin [event] = match event with
      | .handlePkt _ pktData => if pktData.origin = origin then [pktData.bytes] else []
      | _ => [] := by
  cases event with
  | handlePkt thread pktData =>
      by_cases own : pktData.origin = origin <;>
        simp [framedFrom, dispatches, ofClass, fromConn, own]
  | _ => rfl

/-- The events of a packet thread say nothing about chunks and calls of `__HandlePkt`. -/
@[simp] theorem framed_deliveryEvents (origin i : ℕ) (pDataHandle : Option H)
    (delivered : Option (PktData ℕ)) :
    chunksFrom origin (deliveryEvents i pDataHandle delivered) = [] ∧
      framedFrom origin (deliveryEvents i pDataHandle delivered) = [] := by
  cases delivered with
  | none => exact ⟨rfl, rfl⟩
  | some pktData => exact ⟨rfl, rfl⟩

/-- The events of `__HandlePkt` add one packet to the connection it was framed on. -/
theorem handlePkt_framed {server : CommonServer H ℕ} {key : SocketClientData} {pData : Bytes}
    {origin : ℕ} {handled : CommonServer H ℕ × List (Event H ℕ)}
    (called : server.handlePkt key pData origin = some handled) (conn : ℕ) :
    chunksFrom conn handled.2 = [] ∧
      framedFrom conn handled.2 = if origin = conn then [pData] else [] := by
  rcases CommonServer.handlePkt_cases called with ⟨-, rfl⟩ | ⟨-, thread, -, rfl⟩
  · refine ⟨rfl, ?_⟩
    show framedFrom conn ([_] ++ [_]) = _
    rw [framedFrom_append]
    simp [PktData.bytes]
  · exact ⟨rfl, by simp [PktData.bytes]⟩

theorem handlePkt_contents {server : CommonServer H ℕ} {key : SocketClientData} {pData : Bytes}
    {origin : ℕ} {handled : CommonServer H ℕ × List (Event H ℕ)}
    (called : server.handlePkt key pData origin = some handled) :
    handled.1.contents = server.contents := by
  rcases CommonServer.handlePkt_cases called with ⟨-, rfl⟩ | ⟨-, thread, -, rfl⟩
  · rfl
  · rfl

/-! ## Connections have numbers of their own -/

/-- The registered keys have numbers of their own, and nothing is kept for any other
key. -/
structure Numbered (state : System H) : Prop where
  live_lt : ∀ {sClient origin}, state.live sClient = some origin → origin < state.nextConn
  live_inj : ∀ {sClient sClient' origin}, state.live sClient = some origin →
    state.live sClient' = some origin → sClient = sClient'
  adding_live : ∀ {sClient origin}, state.adding = some (sClient, origin) →
    state.live sClient = some origin
  kept_live : ∀ {sClient}, state.live sClient = none → state.server.contents.find sClient = none
  fresh : ∀ {origin}, state.nextConn ≤ origin →
    chunksFrom origin state.log = [] ∧ framedFrom origin state.log = []

namespace Numbered

variable {state next : System H} {sClient : SocketClientData}

theorem start (pDataHandle : H) (nThreadNum : Int32) :
    (System.start pDataHandle nThreadNum).Numbered := by
  refine ⟨nofun, nofun, nofun, fun {sClient} _ => ?_, fun _ => ⟨rfl, rfl⟩⟩
  simp only [System.start, CommonServer.setThreadNum]
  split <;> exact OrderedMap.find_empty sClient

/-- A key that is not registered has an empty buffer. -/
theorem contentOf_eq_nil (numbered : state.Numbered) (unknown : state.live sClient = none) :
    state.server.contentOf sClient = [] := by
  rw [CommonServer.contentOf, numbered.kept_live unknown]
  rfl

/-- The registered keys stay, and nothing is kept for others. -/
theorem of_same (numbered : state.Numbered) (sameLive : next.live = state.live)
    (sameConn : next.nextConn = state.nextConn)
    (adding_live : ∀ {sClient origin}, next.adding = some (sClient, origin) →
      state.live sClient = some origin)
    (kept_live : ∀ {sClient}, state.live sClient = none →
      next.server.contents.find sClient = none)
    (fresh : ∀ {origin}, state.nextConn ≤ origin →
      chunksFrom origin next.log = [] ∧ framedFrom origin next.log = []) : next.Numbered where
  live_lt live := by
    rw [sameConn]
    exact numbered.live_lt (sameLive ▸ live)
  live_inj live live' := numbered.live_inj (sameLive ▸ live) (sameLive ▸ live')
  adding_live inside := by
    rw [sameLive]
    exact adding_live inside
  kept_live unknown := kept_live (sameLive ▸ unknown)
  fresh large := fresh (sameConn ▸ large)

theorem connected (numbered : state.Numbered)
    (taken : state.step (.connected sClient) = some next) : next.Numbered := by
  obtain ⟨idle, unknown, rfl⟩ := step_connected_cases taken
  have live_cases : ∀ {key origin},
      Function.update state.live sClient (some state.nextConn) key = some origin →
        key = sClient ∧ origin = state.nextConn ∨
          key ≠ sClient ∧ state.live key = some origin := by
    intro key origin live
    refine (Transition.update_eq_some_iff.mp live).imp (fun mine => ⟨mine.1, ?_⟩) id
    exact (Option.some.inj mine.2).symm
  refine ⟨fun live => ?_, fun live live' => ?_, fun inside => ?_, fun {key} unknown' => ?_,
    fun large => ?_⟩
  · rcases live_cases live with ⟨-, rfl⟩ | ⟨-, live⟩
    · exact Nat.lt_succ_self _
    · exact Nat.lt_succ_of_lt (numbered.live_lt live)
  · rcases live_cases live with ⟨own, same⟩ | ⟨-, registered⟩ <;>
      rcases live_cases live' with ⟨own', same'⟩ | ⟨-, registered'⟩
    · rw [own, own']
    · exact absurd (numbered.live_lt registered') (by omega)
    · exact absurd (numbered.live_lt registered) (by omega)
    · exact numbered.live_inj registered registered'
  · rw [idle] at inside
    cases inside
  · by_cases own : key = sClient
    · subst own
      exact numbered.kept_live unknown
    · exact numbered.kept_live (by simpa [own] using unknown')
  · obtain ⟨chunks, framed⟩ := numbered.fresh (Nat.le_of_succ_le large)
    exact ⟨by simp [chunks], by simp [framed]⟩

theorem terminated (numbered : state.Numbered) {how : CommonServer.Termination}
    (taken : state.step (.terminated sClient how) = some next) : next.Numbered := by
  obtain ⟨origin, nErrorCode, idle, registered, rfl⟩ := step_terminated_cases taken
  have still : ∀ {key other}, Function.update state.live sClient none key = some other →
      state.live key = some other := by
    intro key other live
    exact ((Transition.update_eq_some_iff.mp live).resolve_left fun mine => nomatch mine.2).2
  refine ⟨fun live => numbered.live_lt (still live),
    fun live live' => numbered.live_inj (still live) (still live'), fun inside => ?_,
    fun {key} unknown => ?_, fun large => ?_⟩
  · rw [idle] at inside
    cases inside
  · show OrderedMap.find (state.server.contents.erase sClient) key = none
    rw [OrderedMap.find_erase]
    split
    · rfl
    · next other => exact numbered.kept_live (by simpa [Ne.symm other] using unknown)
  · obtain ⟨chunks, framed⟩ := numbered.fresh large
    exact ⟨by simp [chunks], by simp [framed]⟩

/-- Bytes that are set for the key the loop is at, which is registered, are kept for a
registered key. -/
theorem kept_setContent (numbered : state.Numbered) {origin : ℕ} {server : CommonServer H ℕ}
    (registered : state.live sClient = some origin)
    (sameContents : server.contents = state.server.contents) (strData : Bytes)
    {key : SocketClientData} (unknown : state.live key = none) :
    (server.setContent sClient strData).contents.find key = none := by
  show OrderedMap.find (server.contents.insert sClient strData) key = none
  rw [OrderedMap.find_insert, if_neg, sameContents, numbered.kept_live unknown]
  rintro rfl
  rw [registered] at unknown
  cases unknown

/-- **The numbers survive every step.** -/
theorem step (numbered : state.Numbered) {label : Label}
    (taken : state.step label = some next) : next.Numbered := by
  cases label with
  | connected key => exact numbered.connected taken
  | terminated key how => exact numbered.terminated taken
  | dataReceived key pData =>
      obtain ⟨origin, -, registered, rfl⟩ := step_dataReceived_cases taken
      refine numbered.of_same rfl rfl ?_ (numbered.kept_setContent registered rfl _) ?_
      · intro sClient other inside
        cases inside
        exact registered
      · intro other large
        have apart : origin ≠ other :=
          Nat.ne_of_lt (Nat.lt_of_lt_of_le (numbered.live_lt registered) large)
        obtain ⟨chunks, framed⟩ := numbered.fresh large
        exact ⟨by simp [chunks, apart], by simp [framed]⟩
  | pass =>
      obtain ⟨key, origin, inside, ⟨-, rfl⟩ | ⟨-, rfl⟩ | ⟨_, rest, handled, -, -, called, rfl⟩⟩ :=
        step_pass_cases taken
      · exact numbered.of_same rfl rfl nofun numbered.kept_live numbered.fresh
      · exact numbered.of_same rfl rfl nofun
          (numbered.kept_setContent (numbered.adding_live inside) rfl [])
          numbered.fresh
      · have registered := numbered.adding_live inside
        refine numbered.of_same rfl rfl numbered.adding_live (numbered.kept_setContent
          registered (handlePkt_contents called) rest) ?_
        intro other large
        have apart : origin ≠ other :=
          Nat.ne_of_lt (Nat.lt_of_lt_of_le (numbered.live_lt registered) large)
        obtain ⟨chunks, framed⟩ := numbered.fresh large
        obtain ⟨noChunk, onePkt⟩ := handlePkt_framed called other
        rw [if_neg apart] at onePkt
        exact ⟨by simp [chunks, noChunk], by simp [framed, onePkt]⟩
  | handlePkt i =>
      obtain ⟨thread, ⟨moved, delivered⟩, here, -, rfl⟩ := step_handlePkt_cases taken
      refine numbered.of_same rfl rfl numbered.adding_live numbered.kept_live fun large => ?_
      obtain ⟨chunks, framed⟩ := numbered.fresh large
      exact ⟨by simp [chunks], by simp [framed]⟩
  | stop i =>
      obtain ⟨thread, here, rfl⟩ := step_stop_cases taken
      exact numbered.of_same rfl rfl numbered.adding_live numbered.kept_live numbered.fresh

end Numbered

/-! ## What the chunks of a connection come to -/

/-- The packets dispatched from a connection, then what the loop of `__AddContent` will
still do with its buffer, are what the chunks of the connection come to.  When the
connection has ended, all of its calls have returned. -/
structure FramedFrom (origin : ℕ) (state : System H) : Prop where
  live : ∀ {sClient}, state.live sClient = some origin →
    received [] (chunksFrom origin state.log) =
      (state.ahead sClient).afterPkts (framedFrom origin state.log)
  ended : (∀ sClient, state.live sClient ≠ some origin) →
    ∃ left, received [] (chunksFrom origin state.log) =
      .returned (framedFrom origin state.log) left

namespace FramedFrom

variable {origin : ℕ} {state next : System H} {sClient : SocketClientData}

/-- A step that does nothing to the connection. -/
theorem of_same (framed : state.FramedFrom origin)
    (sameLive : ∀ sClient, next.live sClient = some origin ↔ state.live sClient = some origin)
    (sameChunks : chunksFrom origin next.log = chunksFrom origin state.log)
    (sameFramed : framedFrom origin next.log = framedFrom origin state.log)
    (sameAhead : ∀ {sClient}, state.live sClient = some origin →
      next.ahead sClient = state.ahead sClient) : next.FramedFrom origin where
  live {sClient} registered := by
    have registered' := (sameLive sClient).mp registered
    rw [sameChunks, sameFramed, sameAhead registered']
    exact framed.live registered'
  ended gone := by
    rw [sameChunks, sameFramed]
    exact framed.ended fun sClient registered => gone sClient ((sameLive sClient).mpr registered)

/-- Outside the loop, the calls of a registered connection have returned. -/
theorem received_idle (framed : state.FramedFrom origin) (idle : state.adding = none)
    (registered : state.live sClient = some origin) :
    received [] (chunksFrom origin state.log) =
      .returned (framedFrom origin state.log) (state.server.contentOf sClient) := by
  rw [framed.live registered, ahead_idle idle]
  exact congrArg₂ AddOutcome.returned (List.append_nil _) rfl

theorem connected (framed : state.FramedFrom origin) (numbered : state.Numbered)
    (taken : state.step (.connected sClient) = some next) : next.FramedFrom origin := by
  obtain ⟨idle, unknown, rfl⟩ := step_connected_cases taken
  by_cases own : origin = state.nextConn
  · -- the new connection: no chunk yet, and nothing kept under its key
    subst own
    obtain ⟨chunks, pkts⟩ := numbered.fresh (Nat.le_refl _)
    refine ⟨fun {key} registered => ?_, fun gone => ?_⟩
    · have same : key = sClient := by
        rcases update_eq_some_iff.mp registered with ⟨same, -⟩ | ⟨-, old⟩
        · exact same
        · exact absurd (numbered.live_lt old) (Nat.lt_irrefl _)
      simp [same, ahead, idle, chunks, pkts, received, numbered.contentOf_eq_nil unknown]
    · exact absurd (Function.update_self ..) (gone sClient)
  · refine framed.of_same (fun key => ?_) (by simp) (by simp) fun _ => rfl
    by_cases same : key = sClient
    · subst same
      simp [unknown, Ne.symm own]
    · simp [same]

theorem dataReceived (framed : state.FramedFrom origin) (numbered : state.Numbered)
    {pData : Bytes} (taken : state.step (.dataReceived sClient pData) = some next) :
    next.FramedFrom origin := by
  obtain ⟨conn, idle, registered, rfl⟩ := step_dataReceived_cases taken
  by_cases own : conn = origin
  · subst own
    refine ⟨fun {key} registered' => ?_, fun gone => absurd registered (gone sClient)⟩
    have same : key = sClient := numbered.live_inj registered' registered
    subst same
    -- the loop is about to work on the kept bytes and the chunk
    have before := received_concat _ pData (framed.received_idle idle registered)
    simpa [ahead] using before
  · refine framed.of_same (fun _ => Iff.rfl) (by simp [own]) (by simp) fun {key} registered' => ?_
    have apart : sClient ≠ key := by
      rintro rfl
      rw [registered, Option.some_inj] at registered'
      exact own registered'
    rw [ahead_idle idle]
    simp [ahead, apart]

theorem pass (framed : state.FramedFrom origin) (numbered : state.Numbered)
    (taken : state.step .pass = some next) : next.FramedFrom origin := by
  obtain ⟨key, conn, inside, step⟩ := step_pass_cases taken
  have registered := numbered.adding_live inside
  by_cases own : conn = origin
  · subst own
    have before := framed.live registered
    have here : state.ahead key = addLoop (state.server.contentOf key) := by
      simp [ahead, inside]
    rw [here] at before
    -- the pass that is made now was the first one still ahead
    rcases step with ⟨leaves, rfl⟩ | ⟨found, rfl⟩ | ⟨_, rest, handled, found, cut, called, rfl⟩
    · refine ⟨fun {other} registered' => ?_, fun gone => absurd registered (gone key)⟩
      obtain rfl := numbered.live_inj registered' registered
      rw [addLoop_of_leave leaves] at before
      exact before
    · refine ⟨fun {other} registered' => ?_, fun gone => absurd registered (gone key)⟩
      obtain rfl := numbered.live_inj registered' registered
      rw [addLoop_of_abnormal found] at before
      rw [ahead_idle rfl]
      simpa using before
    · refine ⟨fun {other} registered' => ?_, fun gone => absurd registered (gone key)⟩
      obtain rfl := numbered.live_inj registered' registered
      obtain ⟨noChunk, onePkt⟩ := handlePkt_framed called conn
      rw [addLoop_of_handle found cut, afterPkts_afterPkt] at before
      simpa [ahead, inside, noChunk, onePkt] using before
  · have apart : ∀ {other}, state.live other = some origin → key ≠ other := by
      rintro other registered' rfl
      rw [registered, Option.some_inj] at registered'
      exact own registered'
    rcases step with ⟨leaves, rfl⟩ | ⟨found, rfl⟩ | ⟨_, rest, handled, found, cut, called, rfl⟩
    · exact framed.of_same (fun _ => Iff.rfl) rfl rfl fun registered' => by
        simp [ahead, inside, apart registered']
    · exact framed.of_same (fun _ => Iff.rfl) rfl rfl fun registered' => by
        simp [ahead, inside, apart registered']
    · obtain ⟨noChunk, onePkt⟩ := handlePkt_framed called origin
      refine framed.of_same (fun _ => Iff.rfl) (by simp [noChunk]) (by simp [onePkt, own])
        fun {other} registered' => ?_
      obtain ⟨sameContent, -, -⟩ := handlePkt_effect called other state.log
      simp [ahead, inside, apart registered', sameContent]

theorem terminated (framed : state.FramedFrom origin) (numbered : state.Numbered)
    {how : CommonServer.Termination} (taken : state.step (.terminated sClient how) = some next) :
    next.FramedFrom origin := by
  obtain ⟨conn, nErrorCode, idle, registered, rfl⟩ := step_terminated_cases taken
  by_cases own : conn = origin
  · subst own
    refine ⟨fun {key} registered' => ?_, fun _ => ⟨state.server.contentOf sClient, ?_⟩⟩
    · -- its entry is gone, and no other key had its number
      rcases update_eq_some_iff.mp registered' with ⟨-, none⟩ | ⟨apart, old⟩
      · cases none
      · exact absurd (numbered.live_inj old registered) apart
    · simpa using framed.received_idle idle registered
  · refine framed.of_same (fun key => ?_) (by simp) (by simp) fun {key} registered' => ?_
    · by_cases same : key = sClient
      · subst same
        simp [registered, own]
      · simp [same]
    · have apart : sClient ≠ key := by
        rintro rfl
        rw [registered, Option.some_inj] at registered'
        exact own registered'
      rw [ahead_idle idle]
      simp [ahead, idle, apart]

/-- **What the chunks of a connection come to survives every step.** -/
theorem step (framed : state.FramedFrom origin) (numbered : state.Numbered) {label : Label}
    (taken : state.step label = some next) : next.FramedFrom origin := by
  cases label with
  | connected key => exact framed.connected numbered taken
  | dataReceived key pData => exact framed.dataReceived numbered taken
  | pass => exact framed.pass numbered taken
  | terminated key how => exact framed.terminated numbered taken
  | handlePkt i =>
      obtain ⟨thread, moved, here, -, rfl⟩ := step_handlePkt_cases taken
      exact framed.of_same (fun _ => Iff.rfl) (by simp) (by simp) fun _ => rfl
  | stop i =>
      obtain ⟨thread, here, rfl⟩ := step_stop_cases taken
      exact framed.of_same (fun _ => Iff.rfl) rfl rfl fun _ => rfl

end FramedFrom

/-! ## Nothing is withheld -/

/-- Outside the loop no buffer holds a packet that the loop would hand over, or a length
field at which it would clear the buffer. -/
def Drained (state : System H) : Prop :=
  ∀ sClient, state.adding.map Prod.fst ≠ some sClient →
    ServerLib.pass (state.server.contentOf sClient) = .done ∨
      ServerLib.pass (state.server.contentOf sClient) = .incomplete

theorem drained_start (pDataHandle : H) (nThreadNum : Int32) :
    (start pDataHandle nThreadNum).Drained := by
  intro sClient _
  have empty : (start pDataHandle nThreadNum).server.contentOf sClient = [] :=
    (Numbered.start pDataHandle nThreadNum).contentOf_eq_nil rfl
  rw [empty]
  exact Or.inl rfl

/-- Outside the loop no buffer below two gibibytes holds a complete packet, or a length
field that is not positive. -/
def NothingWithheld (state : System H) : Prop :=
  ∀ sClient, state.adding.map Prod.fst ≠ some sClient →
    (state.server.contentOf sClient).length < 2147483648 →
      Waits (state.server.contentOf sClient)

/-- Below two gibibytes, a buffer the loop leaves is a front of a frame. -/
theorem waits_of_drained {strData : Bytes} (small : strData.length < 2147483648)
    (leaves : ServerLib.pass strData = .done ∨ ServerLib.pass strData = .incomplete) :
    Waits strData := by
  have zero : (0 : Int32).toInt = 0 := rfl
  unfold ServerLib.pass at leaves
  simp only [gt_iff_lt, ge_iff_le, Int32.le_iff_toInt_le, zero] at leaves
  split at leaves
  · next long =>
      split at leaves
      · simp at leaves
      · next positive =>
          split at leaves
          · simp at leaves
          · next incomplete =>
              rw [toInt_add_four (by omega), toInt_ofNat_of_lt small] at incomplete
              refine ⟨fun frame => ?_, fun _ => by omega⟩
              have complete := frame.2.2
              split at incomplete <;> omega
  · next short => exact ⟨fun frame => short frame.1, fun long => absurd long short⟩

theorem Drained.nothingWithheld {state : System H} (drained : state.Drained) :
    state.NothingWithheld :=
  fun sClient apart small => waits_of_drained small (drained sClient apart)

theorem Drained.step {state next : System H} {label : Label} (drained : state.Drained)
    (taken : state.step label = some next) : next.Drained := by
  cases label with
  | connected key =>
      obtain ⟨-, -, rfl⟩ := step_connected_cases taken
      exact drained
  | dataReceived key pData =>
      obtain ⟨origin, idle, -, rfl⟩ := step_dataReceived_cases taken
      intro sClient apart
      have other : key ≠ sClient := by simpa using apart
      rw [CommonServer.contentOf_setContent, if_neg other]
      exact drained sClient (by simp [idle])
  | pass =>
      obtain ⟨key, origin, inside, step⟩ := step_pass_cases taken
      have elsewhere : ∀ {sClient}, key ≠ sClient →
          ServerLib.pass (state.server.contentOf sClient) = .done ∨
            ServerLib.pass (state.server.contentOf sClient) = .incomplete :=
        fun {sClient} other => drained sClient (by simpa [inside] using other)
      rcases step with ⟨leaves, rfl⟩ | ⟨-, rfl⟩ | ⟨_, rest, handled, -, -, called, rfl⟩
      · intro sClient _
        by_cases own : key = sClient
        · exact own ▸ leaves
        · exact elsewhere own
      · intro sClient _
        rw [CommonServer.contentOf_setContent]
        split
        · exact Or.inl rfl
        · next other => exact elsewhere other
      · intro sClient apart
        have other : key ≠ sClient := by simpa [inside] using apart
        rw [CommonServer.contentOf_setContent, if_neg other,
          (handlePkt_effect called sClient state.log).1]
        exact elsewhere other
  | terminated key how =>
      obtain ⟨origin, nErrorCode, idle, -, rfl⟩ := step_terminated_cases taken
      intro sClient _
      rw [CommonServer.contentOf_removeContent]
      split
      · exact Or.inl rfl
      · exact drained sClient (by simp [idle])
  | handlePkt i =>
      obtain ⟨thread, moved, here, -, rfl⟩ := step_handlePkt_cases taken
      exact drained
  | stop i =>
      obtain ⟨thread, here, rfl⟩ := step_stop_cases taken
      exact drained

/-! ## Runs -/

section Runs

variable {nThreadNum : Int32} {labels : List Label} {last : System H}

theorem invariants_of_run (pDataHandle : H)
    (runs : run step (start pDataHandle nThreadNum) labels = some last) :
    last.Numbered ∧ (∀ origin, last.FramedFrom origin) ∧ last.Drained := by
  have start := Numbered.start pDataHandle nThreadNum
  refine run_invariant (I := fun state : System H =>
    state.Numbered ∧ (∀ origin, state.FramedFrom origin) ∧ state.Drained)
    (fun _ _ _ holds taken => ⟨holds.1.step taken,
      fun origin => (holds.2.1 origin).step holds.1 taken, holds.2.2.step taken⟩)
    labels ⟨start, fun origin => ⟨nofun, fun _ => ⟨[], rfl⟩⟩,
      drained_start pDataHandle nThreadNum⟩ runs

/-- **Framing, connection by connection.**  For every thread number and every
interleaving, what was dispatched from a connection and what is still ahead is what its
own chunks come to, whatever arrived on other connections and whatever became of the key.
Outside the loop no buffer is one that the loop would go on with, none below two gibibytes
holds a complete packet or one with an abnormal length, and `m_Contents` has no entry for a key
that is not registered. -/
theorem framing_of_run (pDataHandle : H)
    (runs : run step (start pDataHandle nThreadNum) labels = some last) :
    (∀ origin, last.FramedFrom origin) ∧ last.Drained ∧ last.NothingWithheld ∧
      ∀ sClient, last.live sClient = none → last.server.contents.find sClient = none := by
  obtain ⟨numbered, framed, drained⟩ := invariants_of_run pDataHandle runs
  exact ⟨framed, drained, drained.nothingWithheld, fun _ => numbered.kept_live⟩

/-- One key, connected twice: the first connection leaves with half a packet, which the
second one must not find. -/
theorem framing_of_run_reconnect :
    ∃ last, run step (start () 2) [.connected ⟨1, 2, 5⟩,
        .dataReceived ⟨1, 2, 5⟩ [1, 0, 0, 0, 7, 2, 0, 0, 0, 8], .pass, .pass,
        .terminated ⟨1, 2, 5⟩ .timeout, .connected ⟨1, 2, 5⟩,
        .dataReceived ⟨1, 2, 5⟩ [1, 0, 0, 0, 9], .pass, .handlePkt 0] = some last ∧
      (∀ origin, last.FramedFrom origin) ∧ last.Drained ∧ last.NothingWithheld ∧
      ∀ sClient, last.live sClient = none → last.server.contents.find sClient = none := by
  obtain ⟨last, runs⟩ := Option.isSome_iff_exists.mp
    (show (run step (start () 2) [.connected ⟨1, 2, 5⟩,
        .dataReceived ⟨1, 2, 5⟩ [1, 0, 0, 0, 7, 2, 0, 0, 0, 8], .pass, .pass,
        .terminated ⟨1, 2, 5⟩ .timeout, .connected ⟨1, 2, 5⟩,
        .dataReceived ⟨1, 2, 5⟩ [1, 0, 0, 0, 9], .pass, .handlePkt 0]).isSome = true
      by decide +kernel)
  exact ⟨last, runs, framing_of_run () runs⟩

end Runs

end System

end ServerLib
