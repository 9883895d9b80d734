import Mathlib.Data.List.TakeWhile
import ServerLib.EchoNetwork
import ServerLib.TestClientTotals

/-!
# The test clients against the echo server

A test client takes the answer to be right when as many bytes have come back as were sent; it
never looks at them.  Against the echo server that is enough, as long as nothing failed: the
bytes that come back on a connection are the front of those written there
(`Carries.comes_back`), so an answer of the right length is the request, and no answer is ever
too long, which would leave the client waiting for good.

`Answering` is what makes a law about requests of the law about connections.  On a connection
without a failure so far, what was read are the answers so far and `readbuf`, and what was
written is the same answers and the part of `writebuf` that went out.  Behind a failure this
is over: `__Stats` forgets the request, and what was still on its way is read as the answer to
the next one.  `answers_own` is the result, for clients without a failure.
-/

namespace ServerLib

open Transition

namespace TestClient

/-- The bytes a client has read on its socket, and those it has written. -/
def readOn (number : ℕ) (log : List TestEvent) : Bytes :=
  log.flatMap fun
    | .read source pData => if source = number then pData else []
    | _ => []

def writtenOn (number : ℕ) (log : List TestEvent) : Bytes :=
  log.flatMap fun
    | .wrote target pData => if target = number then pData else []
    | _ => []

/-- The clients that have read something. -/
def sources (log : List TestEvent) : List ℕ :=
  log.filterMap fun
    | .read source _ => some source
    | _ => none

theorem readOn_eq_nil {number : ℕ} {log : List TestEvent} (silent : number ∉ sources log) :
    readOn number log = [] := by
  refine List.flatMap_eq_nil_iff.mpr fun event member => ?_
  cases event with
  | read source pData =>
      refine if_neg ?_
      rintro rfl
      exact silent (List.mem_filterMap.mpr ⟨_, member, rfl⟩)
  | _ => rfl

@[simp] theorem readOn_append (number : ℕ) (log events : List TestEvent) :
    readOn number (log ++ events) = readOn number log ++ readOn number events :=
  List.flatMap_append

@[simp] theorem writtenOn_append (number : ℕ) (log events : List TestEvent) :
    writtenOn number (log ++ events) = writtenOn number log ++ writtenOn number events :=
  List.flatMap_append

/-- What a client has taken for the answers to its requests. -/
def answers (number : ℕ) (log : List TestEvent) : List Bytes :=
  log.filterMap fun
    | .succeeded source readbuf _ => if source = number then some readbuf else none
    | _ => none

@[simp] theorem answers_append (number : ℕ) (log events : List TestEvent) :
    answers number (log ++ events) = answers number log ++ answers number events :=
  List.filterMap_append

/-- The client an event is about. -/
def TestEvent.number : TestEvent → ℕ
  | .read number _ => number
  | .wrote number _ => number
  | .succeeded number _ _ => number
  | .failed number => number

/-- The history up to the first failure of a client. -/
def beforeFailure (number : ℕ) (log : List TestEvent) : List TestEvent :=
  log.takeWhile fun event => event ≠ .failed number

/-- What a client that has not failed has read and written. -/
structure Answering (log : List TestEvent) (number : ℕ) (client : TestConnection) : Prop where
  read : readOn number log = (answers number log).flatten ++ client.readbuf
  written : writtenOn number log =
    (answers number log).flatten ++ client.writebuf.take client.writelen
  writelen_le : client.writelen ≤ client.writebuf.length

/-- Up to its first failure, a client has taken for an answer only its own request, and what
it has read so far may become one. -/
structure Answered (test : TestClient) : Prop where
  quiet : test.looping = false → test.log = []
  answering : ∀ {number client}, test.clients[number]? = some client →
    .failed number ∉ test.log → Answering test.log number client
  own : ∀ {number readbuf writebuf},
    .succeeded number readbuf writebuf ∈ beforeFailure number test.log → readbuf = writebuf

section Step

variable {request : ℕ → Bytes} {test next : TestClient} {number : ℕ} {client : TestConnection}

theorem answered_new (requests concurrency : ℕ) : (new requests concurrency).Answered :=
  ⟨fun _ => rfl, nofun, nofun⟩

/-- What happens to one client is nothing to another. -/
theorem Answering.of_other {log events : List TestEvent} {other : ℕ}
    (answering : Answering log other client)
    (about : ∀ event ∈ events, TestEvent.number event ≠ other) :
    Answering (log ++ events) other client := by
  have read : readOn other events = [] := List.flatMap_eq_nil_iff.mpr fun event member => by
    have apart := about event member
    cases event with
    | read source pData => exact if_neg apart
    | _ => rfl
  have written : writtenOn other events = [] := List.flatMap_eq_nil_iff.mpr fun event member => by
    have apart := about event member
    cases event with
    | wrote target pData => exact if_neg apart
    | _ => rfl
  have none : answers other events = [] := List.filterMap_eq_nil_iff.mpr fun event member => by
    have apart := about event member
    cases event with
    | succeeded source readbuf writebuf => exact if_neg apart
    | _ => rfl
  refine ⟨?_, ?_, answering.writelen_le⟩
  · rw [readOn_append, answers_append, read, none, List.append_nil, List.append_nil, answering.read]
  · rw [writtenOn_append, answers_append, written, none, List.append_nil, List.append_nil,
      answering.written]

theorem beforeFailure_append_of_failed {log : List TestEvent} (failed : .failed number ∈ log)
    (events : List TestEvent) :
    beforeFailure number (log ++ events) = beforeFailure number log := by
  refine (List.takeWhile_append ..).trans (if_neg fun whole => ?_)
  have same := (List.takeWhile_sublist _).eq_of_length whole
  exact of_decide_eq_true (List.takeWhile_eq_self_iff.mp same _ failed) rfl

theorem beforeFailure_append {log : List TestEvent} (unfailed : .failed number ∉ log)
    (events : List TestEvent) :
    beforeFailure number (log ++ events) = log ++ beforeFailure number events :=
  List.takeWhile_append_of_pos fun _ member =>
    decide_eq_true fun same => unfailed (same ▸ member)

theorem beforeFailure_eq_self {log : List TestEvent} (unfailed : .failed number ∉ log) :
    beforeFailure number log = log := by
  have appended := beforeFailure_append unfailed []
  rwa [List.append_nil, beforeFailure, beforeFailure, List.takeWhile_nil, List.append_nil]
    at appended

/-- A client has moved: the history grew by events about it, and the others are as they
were. -/
theorem Answered.of_grown (answered : test.Answered) (looping : next.looping = true)
    (events : List TestEvent) (grown : next.log = test.log ++ events)
    (about : ∀ event ∈ events, TestEvent.number event = number)
    (others : ∀ other ≠ number, next.clients[other]? = test.clients[other]?)
    (mine : ∀ client, next.clients[number]? = some client → .failed number ∉ next.log →
      Answering next.log number client)
    (right : ∀ readbuf writebuf, .failed number ∉ test.log →
      .succeeded number readbuf writebuf ∈ events → readbuf = writebuf) : next.Answered where
  quiet waiting := by
    rw [looping] at waiting
    cases waiting
  answering {other client} found unfailed := by
    by_cases here : other = number
    · subst here
      exact mine client found unfailed
    · rw [others other here] at found
      rw [grown] at unfailed ⊢
      have before := answered.answering found fun failed =>
        unfailed (List.mem_append_left _ failed)
      exact before.of_other fun event member same =>
        here ((about event member).symm.trans same).symm
  own {other readbuf writebuf} member := by
    rw [grown] at member
    by_cases failed : .failed other ∈ test.log
    · rw [beforeFailure_append_of_failed failed] at member
      exact answered.own member
    · rw [beforeFailure_append failed, List.mem_append] at member
      rcases member with before | member
      · rw [← beforeFailure_eq_self failed] at before
        exact answered.own before
      · have event : .succeeded other readbuf writebuf ∈ events :=
          (List.takeWhile_sublist _).subset member
        obtain rfl : other = number := about _ event
        exact right readbuf writebuf failed event

/-- A client with an empty `writebuf` has written nothing of it, and one that is filled has
not written any of that either. -/
theorem Answering.filled {log : List TestEvent} (answering : Answering log number client) :
    Answering log number (filled request test client) := by
  unfold TestClient.filled
  split
  · next empty =>
      have none : client.writelen = 0 := by simpa [empty] using answering.writelen_le
      refine ⟨answering.read, ?_, ?_⟩
      · rw [answering.written, empty, List.take_nil, none, List.take_zero]
      · exact none ▸ Nat.zero_le _
  · exact answering

/-- What comes back is the front of what was written, so an answer of the right length is the
request. -/
theorem Answering.answer_eq (answering : Answering test.log number client) {pData : Bytes}
    (returned : readOn number test.log ++ pData <+: writtenOn number test.log)
    (equal : (client.readbuf ++ pData).length = client.writebuf.length) :
    client.readbuf ++ pData = client.writebuf ∧
      client.writebuf.take client.writelen = client.writebuf := by
  rw [answering.read, answering.written, List.append_assoc, List.prefix_append_right_inj]
    at returned
  have whole := (returned.trans (List.take_prefix _ _)).eq_of_length equal
  rw [whole] at returned
  exact ⟨whole, (List.take_prefix _ _).eq_of_length
    (Nat.le_antisymm (List.take_prefix _ _).length_le returned.length_le)⟩

/-- Where what comes back is the front of what was written, what was read of an answer is the
front of the request. -/
theorem Answering.readbuf_front {log : List TestEvent} (answering : Answering log number client)
    (returned : readOn number log <+: writtenOn number log) :
    client.readbuf <+: client.writebuf := by
  rw [answering.read, answering.written, List.prefix_append_right_inj] at returned
  exact returned.trans (List.take_prefix _ _)

/-- **Every effect of a callback keeps it**, where up to a failure what comes back is what was
sent. -/
theorem Answered.effect (answered : test.Answered) (looping : test.looping = true)
    (found : test.clients[number]? = some client)
    (returned : .failed number ∉ next.log → readOn number next.log <+: writtenOn number next.log)
    (effect : Effect request test number client next) : next.Answered := by
  have set_found : ∀ {changed other : TestConnection},
      (test.clients.set number changed)[number]? = some other → other = changed := by
    intro changed other here
    rw [List.getElem?_set_self (List.getElem?_eq_some_iff.mp found).1] at here
    exact (Option.some.inj here).symm
  have others : ∀ changed : TestConnection, ∀ other ≠ number,
      (test.clients.set number changed)[other]? = test.clients[other]? :=
    fun changed other apart => List.getElem?_set_ne (Ne.symm apart)
  cases effect with
  | quiet => exact answered
  | failed sameCount sameEvents =>
      refine answered.of_grown looping [.failed number] rfl (by simp [TestEvent.number])
        (others _) (fun client _ unfailed => absurd ?_ unfailed) (by simp)
      exact List.mem_append_right _ (List.mem_singleton_self _)
  | received pData differs =>
      refine answered.of_grown looping [.read number pData] rfl (by simp [TestEvent.number])
        (others _) (fun client here unfailed => ?_) (by simp)
      obtain rfl := set_found here
      have before := answered.answering found fun failed => unfailed (List.mem_append_left _ failed)
      show Answering (test.log ++ [.read number pData]) number _
      refine ⟨?_, ?_, before.writelen_le⟩
      · rw [readOn_append, answers_append, before.read]
        simp [readOn, answers]
      · rw [writtenOn_append, answers_append, before.written]
        simp [writtenOn, answers]
  | answered pData _ equal =>
      have logged : (((test.countRead number pData).countSuccess number
          { client with readbuf := client.readbuf ++ pData }).stats number
            { client with readbuf := client.readbuf ++ pData }).log =
          test.log ++ [.read number pData, .succeeded number (client.readbuf ++ pData)
            client.writebuf] := List.append_assoc _ _ _
      -- the answer is the request, and all of that was written
      have whole : .failed number ∉ test.log → Answering test.log number client ∧
          client.readbuf ++ pData = client.writebuf ∧
            client.writebuf.take client.writelen = client.writebuf := by
        intro unfailed
        have before := answered.answering found unfailed
        have returned := returned (by rw [logged]; simpa using unfailed)
        rw [logged, readOn_append, writtenOn_append] at returned
        exact ⟨before, before.answer_eq (by simpa [readOn, writtenOn] using returned) equal⟩
      refine answered.of_grown looping _ logged (by simp [TestEvent.number]) (others _)
        (fun client here unfailed => ?_) (fun readbuf writebuf unfailed member => ?_)
      · obtain rfl := set_found here
        rw [logged] at unfailed ⊢
        obtain ⟨before, same, all⟩ := whole fun failed =>
          unfailed (List.mem_append_left _ failed)
        refine ⟨?_, ?_, Nat.le_refl _⟩
        · rw [readOn_append, answers_append, before.read]
          simp [readOn, answers]
        · rw [writtenOn_append, answers_append, before.written, all, ← same]
          simp [writtenOn, answers]
      · obtain ⟨-, same, -⟩ := whole unfailed
        simp only [List.mem_cons, reduceCtorEq, TestEvent.succeeded.injEq, true_and, false_or,
          List.not_mem_nil, or_false] at member
        rw [member.1, member.2, same]
  | filled =>
      refine answered.of_grown looping [] (List.append_nil _).symm nofun (others _)
        (fun client here unfailed => ?_) (by simp)
      obtain rfl := set_found here
      exact (answered.answering found unfailed).filled
  | wrote count fits =>
      refine answered.of_grown looping [.wrote number _] rfl (by simp [TestEvent.number])
        (others _) (fun client here unfailed => ?_) (by simp)
      obtain rfl := set_found here
      have before : Answering test.log number (TestClient.filled request test client) :=
        (answered.answering found fun failed => unfailed (List.mem_append_left _ failed)).filled
      show Answering (test.log ++ [.wrote number _]) number _
      refine ⟨?_, ?_, ?_⟩
      · rw [readOn_append, answers_append, before.read]
        simp [readOn, answers, written]
      · rw [writtenOn_append, answers_append, before.written]
        simp [writtenOn, answers, written, List.take_add]
      · have writelen_le := before.writelen_le
        simp only [written]
        omega

theorem Answered.step {requests concurrency : ℕ} {label : Label}
    (accounted : Accounted requests concurrency test) (answered : test.Answered)
    (returned : ∀ number, .failed number ∉ next.log →
      readOn number next.log <+: writtenOn number next.log)
    (taken : test.step request label = some next) : next.Answered := by
  cases label with
  | init fd =>
      obtain ⟨⟨waiting, -⟩, same⟩ := Option.ite_none_right_eq_some.mp taken
      obtain rfl := Option.some.inj same
      have empty := answered.quiet waiting
      unfold TestClient.init
      split
      · exact ⟨answered.quiet, answered.answering, answered.own⟩
      · refine ⟨answered.quiet, fun {number client} here unfailed => ?_, answered.own⟩
        dsimp only at here unfailed ⊢
        rw [List.getElem?_append] at here
        split at here
        · exact answered.answering here unfailed
        · obtain rfl := List.mem_singleton.mp (List.mem_of_getElem? here)
          rw [empty]
          exact ⟨rfl, rfl, Nat.le_refl _⟩
  | loop =>
      obtain ⟨-, same⟩ := Option.ite_none_right_eq_some.mp taken
      obtain rfl := Option.some.inj same
      exact ⟨nofun, answered.answering, answered.own⟩
  | io number revents nRead nWritten =>
      obtain ⟨looping, called⟩ := Option.ite_none_right_eq_some.mp taken
      obtain ⟨client, found, -, effect⟩ := ioCallback_effect
        (fun client found => accounted.one client (List.mem_of_getElem? found)) called
      exact answered.effect looping found (returned number) effect

end Step

end TestClient

namespace TestNetwork

/-- A test program, with what was read and written by each of its clients. -/
def testSide (request : ℕ → Bytes) : Network.Side TestClient TestClient.Label Byte where
  step := TestClient.step request
  received number test := TestClient.readOn number test.log
  sent number test := TestClient.writtenOn number test.log

theorem received_eq_nil {request : ℕ → Bytes} {number : ℕ} {test : TestClient}
    (silent : number ∉ TestClient.sources test.log) :
    (testSide request).received number test = [] :=
  TestClient.readOn_eq_nil silent

/-- A test program and the echo server.  The connection of a client has the client's
number. -/
def pair (request : ℕ → Bytes) :
    Network.Pair TestClient TestClient.Label TcpServer TcpServer.Label Byte where
  caller := testSide request
  callee := EchoNetwork.echoSide
  opened test := test.clients.length
  accepts := EchoNetwork.acceptsClient
  next server := server.nextConn
  heard test := TestClient.sources test.log
  received_eq_nil := @received_eq_nil request

/-- Before anything was started. -/
def start (requests concurrency : ℕ) (nTimeout : Int32) : Network.Net TestClient TcpServer :=
  ⟨TestClient.new requests concurrency, TcpServer.new nTimeout, []⟩

theorem carries_start (request : ℕ → Bytes) (requests concurrency : ℕ) (nTimeout : Int32) :
    (pair request).Carries (start requests concurrency nTimeout) := ⟨nofun, nofun⟩

/-- The server accepts a key only where nothing waits for it. -/
abbrev Fresh : Network.Net TestClient TcpServer →
    Network.Label TestClient.Label TcpServer.Label → Prop :=
  Network.Pair.Both (fun _ _ => True) EchoServer.Fresh

variable {request : ℕ → Bytes} {requests concurrency : ℕ} {nTimeout : Int32}
  {labels : List (Network.Label TestClient.Label TcpServer.Label)}
  {last : Network.Net TestClient TcpServer}

/-- **Against the echo server an answer of the right length is the right answer.**  In every
run of a test program, the echo server, the network and any other clients of the server, in
which a key is accepted only where nothing waits for it: up to a client's first failure, what
it counts as a success is its own request, and what it has read of an answer is the front of
its request. -/
theorem answers_own
    (fresh : Along (pair request).step Fresh (start requests concurrency nTimeout) labels)
    (runs : run (pair request).step (start requests concurrency nTimeout) labels = some last)
    (number : ℕ) :
    (∀ readbuf writebuf, .succeeded number readbuf writebuf ∈
        TestClient.beforeFailure number last.caller.log → readbuf = writebuf) ∧
      ∀ client ∈ last.caller.clients[number]?, .failed number ∉ last.caller.log →
        client.readbuf <+: client.writebuf := by
  obtain ⟨⟨-, answered⟩, -, back⟩ := Network.Pair.comes_back_of_run (D := EchoServer.Fresh)
    (I := fun test => TestClient.Accounted requests concurrency test ∧ test.Answered)
    (J := EchoServer.Mirrors) (fun _ mirrors => EchoServer.Mirrors.front mirrors)
    (fun _ _ _ holds _ taken back =>
      ⟨holds.1.step taken, holds.2.step holds.1 (fun number _ => back number) taken⟩)
    (fun _ _ _ mirrors fresh taken => EchoServer.Mirrors.step mirrors fresh taken)
    (carries_start request requests concurrency nTimeout)
    ⟨TestClient.accounted_new requests concurrency, TestClient.answered_new requests concurrency⟩
    (EchoServer.mirrors_new nTimeout) fresh runs
  refine ⟨fun _ _ member => answered.own member, fun client found unfailed => ?_⟩
  exact (answered.answering found unfailed).readbuf_front (back number)

/-- One request of eleven bytes, answered in two pieces, and another client at the server. -/
theorem answers_own_one_request :
    ∃ last, run (pair TcpEchoClient.request).step (start 1 1 600) [.caller (.init 3), .caller .loop,
        .callee (.accept (.client 3 4 6) 0), .accept 0 (.accept (.client 1 2 5) 0),
        .caller (.io 0 ⟨false, false, true⟩ (.nothing true) (.got 4)),
        .caller (.io 0 ⟨false, false, true⟩ (.nothing true) (.got 7)),
        .callee (.io 1 ⟨false, true, false⟩ (.data (TcpEchoClient.request 0)) .again 0 0),
        .callee .asyncSwap, .callee .asyncExec,
        .callee (.io 1 ⟨false, false, true⟩ .again (.wrote 11) 0 0),
        .caller (.io 0 ⟨false, true, false⟩ (.got (testdata.take 9)) (.nothing true)),
        .caller (.io 0 ⟨false, true, false⟩ (.got ((TcpEchoClient.request 0).drop 9))
          (.nothing true))] = some last ∧
      (∀ readbuf writebuf, .succeeded 0 readbuf writebuf ∈
          TestClient.beforeFailure 0 last.caller.log → readbuf = writebuf) ∧
        ∀ client ∈ last.caller.clients[0]?, .failed 0 ∉ last.caller.log →
          client.readbuf <+: client.writebuf := by
  obtain ⟨last, runs⟩ := Option.isSome_iff_exists.mp
    (show (run (pair TcpEchoClient.request).step (start 1 1 600) [.caller (.init 3), .caller .loop,
        .callee (.accept (.client 3 4 6) 0), .accept 0 (.accept (.client 1 2 5) 0),
        .caller (.io 0 ⟨false, false, true⟩ (.nothing true) (.got 4)),
        .caller (.io 0 ⟨false, false, true⟩ (.nothing true) (.got 7)),
        .callee (.io 1 ⟨false, true, false⟩ (.data (TcpEchoClient.request 0)) .again 0 0),
        .callee .asyncSwap, .callee .asyncExec,
        .callee (.io 1 ⟨false, false, true⟩ .again (.wrote 11) 0 0),
        .caller (.io 0 ⟨false, true, false⟩ (.got (testdata.take 9)) (.nothing true)),
        .caller (.io 0 ⟨false, true, false⟩ (.got ((TcpEchoClient.request 0).drop 9))
          (.nothing true))]).isSome = true by decide +kernel)
  exact ⟨last, runs, answers_own (by decide +kernel) runs 0⟩

end TestNetwork

end ServerLib
