import ServerLib.Framer
import ServerLib.Watcher
import ServerLib.Library.Transition

/-!
# The test clients

test/tcpechoclient.cpp and test/tcpproxytest.cpp are one program but for the request they
send: `main` makes `concurrency` clients and runs the loop, each client sends a request,
waits for as many bytes as it sent, and does so `repeats = requests/concurrency` times.  All
of them raise `total`, and the one that takes it to `requests` ends the loop, after which
`main` prints what came of it.  `concurrency` divides by rounding down, and a request that
fails is not repeated but counts like one that succeeds.

`request` is what differs, and a parameter of the steps: what `writebuf` is filled with when
`total` requests are done.  The two options are numbers that are not negative here; an option
that is no number at all is 0 for `atoi`.

## What the environment decides

* A call that returns nothing positive is told by `errno`, and after an end of the stream
  that is the `errno` of an earlier call.  So `nothing again` is all there is to know:
  whether `errno` was `EAGAIN`.
* libev reports `EV_ERROR` of a watcher it has stopped.  `io.set` does not start it again.
* `loop.unloop()` tells the running loop to return once it has called the callbacks that are
  pending; the loop forgets it when it is entered.

What a callback does is one of six things (`ioCallback_effect`), since a client waits either
for something to read or for room to write.
-/

namespace ServerLib

open Transition

/-- `ev::WRITE`. -/
def Interest.writeOnly : Interest := ⟨false, true⟩

/-- `stop()`. -/
def IoWatcher.stop (io : IoWatcher) : IoWatcher := { io with active := false }

/-! ## The requests -/

/-- `snprintf(szSeq, 20, "%d", n)`, for an `n` that is not negative. -/
def szSeq (n : ℕ) : Bytes := (Nat.toDigits 10 n).map fun digit => digit.toNat.toUInt8

/-- `testdata`. -/
def testdata : Bytes := "helloworld".toList.map fun char => char.toNat.toUInt8

namespace TcpEchoClient

/-- What `__WriteCallback` of test/tcpechoclient.cpp fills `writebuf` with. -/
def request (total : ℕ) : Bytes := testdata ++ szSeq total

end TcpEchoClient

namespace TcpProxyTest

/-- What `__WriteCallback` of test/tcpproxytest.cpp fills `writebuf` with: the same text as a
packet. -/
def request (total : ℕ) : Bytes :=
  intBytes (Int32.ofNat (testdata.length + (szSeq total).length)) ++ (testdata ++ szSeq total)

end TcpProxyTest

/-! ## The program -/

/-- What `recv` or `write` returned: something positive, or nothing, and whether `errno` was
`EAGAIN` then. -/
inductive Outcome (α : Type) where
  | got (result : α)
  | nothing (again : Bool)
  deriving DecidableEq, Repr

/-- `CClient`.  Its `readlen` is never read. -/
structure TestConnection where
  io : IoWatcher
  count : ℕ
  writelen : ℕ
  readbuf : Bytes
  writebuf : Bytes
  deriving DecidableEq, Repr

/-- A client behind its `Init()`. -/
def TestConnection.new (fd : Int32) : TestConnection where
  io := ⟨fd, Interest.writeOnly, true⟩
  count := 0
  writelen := 0
  readbuf := []
  writebuf := []

/-- What happens to the clients, by their numbers. -/
inductive TestEvent where
  | read (number : ℕ) (pData : Bytes)
  | wrote (number : ℕ) (pData : Bytes)
  /-- `++success`, with the two buffers whose sizes were equal. -/
  | succeeded (number : ℕ) (readbuf writebuf : Bytes)
  /-- `__Stats()` for an error. -/
  | failed (number : ℕ)
  deriving DecidableEq, Repr

/-- The program with its clients, in the order they were made.  `started` is how far the loop
of `main` has come that makes them. -/
structure TestClient where
  requests : ℕ
  concurrency : ℕ
  total : ℕ
  success : ℕ
  readbytes : ℕ
  writebytes : ℕ
  clients : List TestConnection
  started : ℕ
  looping : Bool
  unlooped : Bool
  log : List TestEvent
  deriving DecidableEq, Repr

namespace TestClient

/-- The program after it has read its options. -/
def new (requests concurrency : ℕ) : TestClient where
  requests := requests
  concurrency := concurrency
  total := 0
  success := 0
  readbytes := 0
  writebytes := 0
  clients := []
  started := 0
  looping := false
  unlooped := false
  log := []

/-- `repeats`. -/
def repeats (test : TestClient) : ℕ := test.requests / test.concurrency

/-- One more event. -/
def emit (test : TestClient) (event : TestEvent) : TestClient :=
  { test with log := test.log ++ [event] }

/-- A client's fields are assigned. -/
def setClient (test : TestClient) (number : ℕ) (client : TestConnection) : TestClient :=
  { test with clients := test.clients.set number client }

/-- `readbytes += nRead`. -/
def countRead (test : TestClient) (number : ℕ) (pData : Bytes) : TestClient :=
  { test.emit (.read number pData) with readbytes := test.readbytes + pData.length }

/-- `writebytes += nWritten`. -/
def countWritten (test : TestClient) (number : ℕ) (pData : Bytes) : TestClient :=
  { test.emit (.wrote number pData) with writebytes := test.writebytes + pData.length }

/-- `++success`. -/
def countSuccess (test : TestClient) (number : ℕ) (client : TestConnection) : TestClient :=
  { test.emit (.succeeded number client.readbuf client.writebuf) with success := test.success + 1 }

/-- `total` is raised, and ends the loop where it is at `requests` then. -/
def raise (test : TestClient) (more : ℕ) : TestClient :=
  { test with
    total := test.total + more
    unlooped := test.unlooped || decide (test.total + more = test.requests) }

/-- `Init()` of the next client; `fd` is what `socket` returned. -/
def init (test : TestClient) (fd : Int32) : TestClient :=
  if fd = -1 then
    { test.raise test.repeats with started := test.started + 1 }
  else
    { test with
      clients := test.clients ++ [TestConnection.new fd]
      started := test.started + 1 }

/-- `__Stats()`, with the `io.stop()` of `__Close()`. -/
def stats (test : TestClient) (number : ℕ) (client : TestConnection) : TestClient :=
  (test.raise 1).setClient number
    { io := if client.count + 1 = test.repeats then client.io.stop
        else client.io.set Interest.writeOnly
      count := client.count + 1
      writelen := 0
      readbuf := []
      writebuf := [] }

/-- `__Stats()` where there was an error. -/
def fail (test : TestClient) (number : ℕ) (client : TestConnection) : TestClient :=
  (test.emit (.failed number)).stats number client

/-- `__ReadCallback(watcher)`, with room for 4095 bytes. -/
def readCallback (test : TestClient) (number : ℕ) (client : TestConnection)
    (nRead : Outcome Bytes) : Option TestClient :=
  match nRead with
  | .nothing true => some test
  | .nothing false => some (test.fail number client)
  | .got pData =>
      if 1 ≤ pData.length ∧ pData.length ≤ 4095 then
        let read := { client with readbuf := client.readbuf ++ pData }
        let counted := test.countRead number pData
        if read.readbuf.length = read.writebuf.length then
          some ((counted.countSuccess number read).stats number read)
        else
          some (counted.setClient number read)
      else
        none

/-- The client with something to write: `writebuf` is filled if it is empty. -/
def filled (request : ℕ → Bytes) (test : TestClient) (client : TestConnection) : TestConnection :=
  if client.writebuf = [] then { client with writebuf := request test.total } else client

/-- The client after `write` took `count` bytes. -/
def written (client : TestConnection) (count : ℕ) : TestConnection :=
  { client with
    writelen := client.writelen + count
    io := if client.writebuf.length ≤ client.writelen + count then
        client.io.set Interest.readOnly
      else
        client.io }

/-- `__WriteCallback(watcher)`. -/
def writeCallback (request : ℕ → Bytes) (test : TestClient) (number : ℕ)
    (client : TestConnection) (nWritten : Outcome ℕ) : Option TestClient :=
  let client := filled request test client
  match nWritten with
  | .nothing true => some (test.setClient number client)
  | .nothing false => some (test.fail number client)
  | .got count =>
      if 1 ≤ count ∧ count ≤ client.writebuf.length - client.writelen then
        let counted := test.countWritten number ((client.writebuf.drop client.writelen).take count)
        some (counted.setClient number (written client count))
      else
        none

/-- `__IoCallback(watcher, revents)` of a client. -/
def ioCallback (request : ℕ → Bytes) (test : TestClient) (number : ℕ) (revents : Revents)
    (nRead : Outcome Bytes) (nWritten : Outcome ℕ) : Option TestClient :=
  (test.clients[number]?).bind fun client =>
    if Reported client.io revents then
      if revents.error then
        -- libev has stopped the watcher
        some (test.fail number { client with io := client.io.stop })
      else
        (if revents.read then test.readCallback number client nRead else some test).bind
          fun afterRead =>
            if revents.write then
              (afterRead.clients[number]?).bind fun client =>
                afterRead.writeCallback request number client nWritten
            else
              some afterRead
    else
      none

/-- Who moves, and what the environment answers. -/
inductive Label where
  | init (fd : Int32)
  /-- `loop.loop()`. -/
  | loop
  | io (number : ℕ) (revents : Revents) (nRead : Outcome Bytes) (nWritten : Outcome ℕ)
  deriving DecidableEq, Repr

/-- One step. -/
def step (request : ℕ → Bytes) (test : TestClient) : Label → Option TestClient
  | .init fd =>
      if test.looping = false ∧ test.started < test.concurrency then some (test.init fd) else none
  | .loop =>
      if test.looping = false ∧ test.started = test.concurrency then
        some { test with looping := true, unlooped := false }
      else
        none
  | .io number revents nRead nWritten =>
      if test.looping = true then test.ioCallback request number revents nRead nWritten else none

/-! ## What a callback does -/

/-- The things a callback does to a client, which is active then. -/
inductive Effect (request : ℕ → Bytes) (test : TestClient) (number : ℕ) (client : TestConnection) :
    TestClient → Prop where
  | quiet : Effect request test number client test
  | failed {changed : TestConnection} :
      changed.count = client.count → changed.io.events = client.io.events →
      Effect request test number client (test.fail number changed)
  | received (pData : Bytes) :
      (client.readbuf ++ pData).length ≠ client.writebuf.length →
      Effect request test number client
        ((test.countRead number pData).setClient number
          { client with readbuf := client.readbuf ++ pData })
  | answered (pData : Bytes) : pData ≠ [] →
      (client.readbuf ++ pData).length = client.writebuf.length →
      Effect request test number client
        (((test.countRead number pData).countSuccess number
          { client with readbuf := client.readbuf ++ pData }).stats number
            { client with readbuf := client.readbuf ++ pData })
  | filled : Effect request test number client
      (test.setClient number (filled request test client))
  | wrote (count : ℕ) :
      count ≤ (TestClient.filled request test client).writebuf.length -
        (TestClient.filled request test client).writelen →
      Effect request test number client
        ((test.countWritten number (((TestClient.filled request test client).writebuf.drop
            (TestClient.filled request test client).writelen).take count)).setClient number
          (written (TestClient.filled request test client) count))

section Step

variable {request : ℕ → Bytes} {test next : TestClient} {number : ℕ} {client : TestConnection}

theorem filled_count : (filled request test client).count = client.count := by
  unfold filled
  split <;> rfl

theorem filled_io : (filled request test client).io = client.io := by
  unfold filled
  split <;> rfl

/-- What `__ReadCallback` does. -/
theorem readCallback_effect {nRead : Outcome Bytes}
    (called : test.readCallback number client nRead = some next) :
    Effect request test number client next := by
  cases nRead with
  | nothing again =>
      cases again with
      | true =>
          cases called
          exact .quiet
      | false =>
          cases called
          exact .failed rfl rfl
  | got pData =>
      obtain ⟨⟨low, -⟩, called⟩ := Option.ite_none_right_eq_some.mp called
      split at called
      · next equal =>
          cases called
          exact .answered pData (List.ne_nil_of_length_pos low) equal
      · next differs =>
          cases called
          exact .received pData differs

/-- What `__WriteCallback` does. -/
theorem writeCallback_effect {nWritten : Outcome ℕ}
    (called : test.writeCallback request number client nWritten = some next) :
    Effect request test number client next := by
  cases nWritten with
  | nothing again =>
      cases again with
      | true =>
          cases called
          exact .filled
      | false =>
          cases called
          exact .failed filled_count (congrArg IoWatcher.events filled_io)
  | got count =>
      obtain ⟨fits, called⟩ := Option.ite_none_right_eq_some.mp called
      cases called
      exact .wrote count fits.2

/-- **A callback has one effect**, where the client waits for one thing at a time. -/
theorem ioCallback_effect {revents : Revents} {nRead : Outcome Bytes} {nWritten : Outcome ℕ}
    (one : ∀ client ∈ test.clients[number]?,
      ¬ (client.io.events.read = true ∧ client.io.events.write = true))
    (called : test.ioCallback request number revents nRead nWritten = some next) :
    ∃ client, test.clients[number]? = some client ∧ client.io.active = true ∧
      Effect request test number client next := by
  obtain ⟨client, found, called⟩ := Option.bind_eq_some_iff.mp called
  obtain ⟨⟨active, events⟩, called⟩ := Option.ite_none_right_eq_some.mp called
  refine ⟨client, found, active, ?_⟩
  split at called
  · cases called
    exact .failed rfl rfl
  · next fine =>
      obtain ⟨reads, writes⟩ := events.resolve_left fine
      obtain ⟨afterRead, read, called⟩ := Option.bind_eq_some_iff.mp called
      split at read
      · next reading =>
          -- a client that waits for something to read does not wait for room to write
          rw [if_neg fun writing => one client found ⟨reads reading, writes writing⟩] at called
          cases called
          exact readCallback_effect read
      · cases read
        split at called
        · obtain ⟨client', found', called⟩ := Option.bind_eq_some_iff.mp called
          obtain rfl := Option.some.inj (found.symm.trans found')
          exact writeCallback_effect called
        · cases called
          exact .quiet

end Step

end TestClient

end ServerLib
