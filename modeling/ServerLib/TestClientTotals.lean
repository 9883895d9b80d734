import ServerLib.TestClient
import ServerLib.Library.Quota

/-!
# When a test ends, and what it prints

The clients of a test program share the counter `total`, and the loop ends where it is at
`requests` in the moment it is raised.  Each client stops where its own `count` is at `repeats`
in the moment it is raised.  That is the account of workers with a quota and a common total:
`tally` reads it off the program, `__Stats` is the job that is finished
(`Accounted.stats`), and the clients that could not be made are where the total starts from.

`unlooped_iff` is the exact condition for the end.  It fails for three reasons, of which a user
sees none but that the program does not come back: the number of clients does not divide the
number of requests; no client could be made, and the signal to end was given before there was
a loop; or a client was stopped too early (`never_unlooped`), which is what libev does to a
watcher that it reports `EV_ERROR` for.

Where the test does end, it prints what happened (`printed_of_run`).
-/

namespace ServerLib

open Transition

namespace TestClient

section Step

variable {request : ℕ → Bytes} {test next : TestClient} {number : ℕ} {client : TestConnection}

/-! ## The shared counters -/

/-- The counters as an account of workers with a quota. -/
def tally (test : TestClient) : Quota.Tally :=
  ⟨test.total, test.clients.map TestConnection.count, test.unlooped⟩

/-- Where the counters stand.  `base` is what `total` starts from when the loop does: the
requests of the clients that could not be made. -/
structure Accounted (requests concurrency : ℕ) (test : TestClient) : Prop where
  requests_eq : test.requests = requests
  concurrency_eq : test.concurrency = concurrency
  made_le : test.clients.length ≤ test.started
  started_le : test.started ≤ concurrency
  started_eq : test.looping = true → test.started = concurrency
  one : ∀ client ∈ test.clients,
    ¬ (client.io.events.read = true ∧ client.io.events.write = true)
  works : ∀ client ∈ test.clients, client.io.active = true →
    Quota.Works (requests / concurrency) client.count
  base : test.looping = false →
    test.total = requests / concurrency * (test.started - test.clients.length) ∧
      ∀ client ∈ test.clients, client.count = 0
  kept : test.looping = true →
    Quota.Kept requests (requests / concurrency)
      (requests / concurrency * (concurrency - test.clients.length)) test.tally

variable {requests concurrency : ℕ}

theorem accounted_new (requests concurrency : ℕ) :
    Accounted requests concurrency (new requests concurrency) where
  requests_eq := rfl
  concurrency_eq := rfl
  made_le := Nat.le_refl _
  started_le := Nat.zero_le _
  started_eq := nofun
  one := nofun
  works := nofun
  base _ := ⟨rfl, nofun⟩
  kept := nofun

theorem Accounted.repeats_eq (accounted : Accounted requests concurrency test) :
    test.repeats = requests / concurrency := by
  rw [repeats, accounted.requests_eq, accounted.concurrency_eq]

/-- What the bytes were, and what is written down of them, is no part of the account. -/
theorem Accounted.emit (accounted : Accounted requests concurrency test) (event : TestEvent) :
    Accounted requests concurrency (test.emit event) :=
  { accounted with }

theorem Accounted.countRead (accounted : Accounted requests concurrency test) (number : ℕ)
    (pData : Bytes) : Accounted requests concurrency (test.countRead number pData) :=
  { accounted with }

theorem Accounted.countWritten (accounted : Accounted requests concurrency test) (number : ℕ)
    (pData : Bytes) : Accounted requests concurrency (test.countWritten number pData) :=
  { accounted with }

theorem Accounted.countSuccess (accounted : Accounted requests concurrency test) (number : ℕ)
    (client : TestConnection) :
    Accounted requests concurrency (test.countSuccess number client) :=
  { accounted with }

/-- A client moves without a request of its being done. -/
theorem Accounted.setClient (accounted : Accounted requests concurrency test)
    (found : test.clients[number]? = some client) {changed : TestConnection}
    (sameCount : changed.count = client.count)
    (active : changed.io.active = true → client.io.active = true)
    (one : ¬ (changed.io.events.read = true ∧ changed.io.events.write = true)) :
    Accounted requests concurrency (test.setClient number changed) := by
  have member : client ∈ test.clients := List.mem_of_getElem? found
  have counts : (test.setClient number changed).clients.map TestConnection.count =
      test.clients.map TestConnection.count := by
    apply List.ext_getElem?
    intro other
    by_cases here : number = other
    · subst here
      obtain ⟨inside, rfl⟩ := List.getElem?_eq_some_iff.mp found
      simp [TestClient.setClient, inside, sameCount]
    · simp [TestClient.setClient, List.getElem?_set_ne here]
  have length : (test.setClient number changed).clients.length = test.clients.length :=
    List.length_set
  refine ⟨accounted.requests_eq, accounted.concurrency_eq, length.symm ▸ accounted.made_le,
    accounted.started_le, accounted.started_eq, fun other moved => ?_,
    fun other moved active' => ?_, fun waiting => ?_, fun looping => ?_⟩
  · rcases List.mem_or_eq_of_mem_set moved with before | rfl
    · exact accounted.one other before
    · exact one
  · rcases List.mem_or_eq_of_mem_set moved with before | rfl
    · exact accounted.works other before active'
    · rw [sameCount]
      exact accounted.works client member (active active')
  · obtain ⟨total, zero⟩ := accounted.base waiting
    rw [length]
    refine ⟨total, fun other moved => ?_⟩
    rcases List.mem_or_eq_of_mem_set moved with before | rfl
    · exact zero other before
    · exact sameCount.trans (zero client member)
  · rw [length, tally, counts]
    exact accounted.kept looping

/-- **A request is done**: `__Stats` finishes a job of the worker. -/
theorem Accounted.stats (accounted : Accounted requests concurrency test)
    (looping : test.looping = true) (found : test.clients[number]? = some client)
    (active : client.io.active = true) {changed : TestConnection}
    (sameCount : changed.count = client.count)
    (one : ¬ (changed.io.events.read = true ∧ changed.io.events.write = true)) :
    Accounted requests concurrency (test.stats number changed) := by
  obtain rfl := accounted.requests_eq
  have member : client ∈ test.clients := List.mem_of_getElem? found
  have works := accounted.works client member active
  have finished : Quota.finish test.requests (test.requests / concurrency) test.tally number =
      some (test.stats number changed).tally := by
    have counter : test.tally.counts[number]? = some client.count := by
      simp [tally, found]
    rw [Quota.finish, counter, Option.bind_some, if_pos works]
    simp only [tally, TestClient.stats, TestClient.setClient, raise, List.map_set, sameCount]
    rfl
  have length : (test.stats number changed).clients.length = test.clients.length :=
    List.length_set
  refine ⟨accounted.requests_eq, accounted.concurrency_eq, length.symm ▸ accounted.made_le,
    accounted.started_le, accounted.started_eq, fun other moved => ?_,
    fun other moved active' => ?_, fun waiting => ?_, fun _ => ?_⟩
  · rcases List.mem_or_eq_of_mem_set moved with before | rfl
    · exact accounted.one other before
    · dsimp only
      split
      · exact one
      · exact fun both => Bool.noConfusion both.1
  · rcases List.mem_or_eq_of_mem_set moved with before | rfl
    · exact accounted.works other before active'
    · -- it goes on only below the quota
      dsimp only at active' ⊢
      rw [sameCount, accounted.repeats_eq] at *
      split at active'
      · cases active'
      · next more =>
          refine works.imp_right fun below => ?_
          omega
  · have waiting' : test.looping = false := waiting
    rw [looping] at waiting'
    cases waiting'
  · rw [length]
    exact (accounted.kept looping).finish finished

/-- **Every effect of a callback keeps the account.** -/
theorem Accounted.effect (accounted : Accounted requests concurrency test)
    (looping : test.looping = true) (found : test.clients[number]? = some client)
    (active : client.io.active = true) (effect : Effect request test number client next) :
    Accounted requests concurrency next := by
  have one := accounted.one client (List.mem_of_getElem? found)
  cases effect with
  | quiet => exact accounted
  | failed sameCount sameEvents =>
      refine (accounted.emit (.failed number)).stats looping found active sameCount ?_
      rwa [sameEvents]
  | received pData differs => exact (accounted.countRead number pData).setClient found rfl id one
  | answered pData _ equal =>
      exact ((accounted.countRead number pData).countSuccess number _).stats looping found active
        rfl one
  | filled =>
      refine accounted.setClient found filled_count ?_ ?_
      · rw [filled_io]
        exact id
      · rwa [filled_io]
  | wrote count fits =>
      have same : (filled request test client).io = client.io := filled_io
      refine (accounted.countWritten number _).setClient found filled_count ?_ ?_
      · intro on
        rw [written] at on
        dsimp only at on
        split at on
        · exact same ▸ on
        · exact same ▸ on
      · rw [written]
        dsimp only
        split
        · exact fun both => Bool.noConfusion both.2
        · rwa [filled_io]

theorem Accounted.init (accounted : Accounted requests concurrency test)
    (waiting : test.looping = false) (more : test.started < test.concurrency) (fd : Int32) :
    Accounted requests concurrency (test.init fd) := by
  obtain ⟨total, zero⟩ := accounted.base waiting
  have made_le := accounted.made_le
  have started_lt : test.started < concurrency := accounted.concurrency_eq ▸ more
  have looping : ∀ {P : Prop}, test.looping = true → P := by
    intro P on
    rw [waiting] at on
    cases on
  unfold TestClient.init
  split
  · refine ⟨accounted.requests_eq, accounted.concurrency_eq, Nat.le_succ_of_le made_le, started_lt,
      looping, accounted.one, accounted.works, fun _ => ⟨?_, zero⟩, looping⟩
    show test.total + test.repeats = _ * (test.started + 1 - test.clients.length)
    rw [total, accounted.repeats_eq, Nat.sub_add_comm made_le, Nat.mul_succ]
  · have length : (test.clients ++ [TestConnection.new fd]).length = test.clients.length + 1 :=
      List.length_append
    refine ⟨accounted.requests_eq, accounted.concurrency_eq, ?_, started_lt, looping, ?_, ?_,
      fun _ => ⟨?_, ?_⟩, looping⟩
    · exact length.trans_le (Nat.succ_le_succ made_le)
    · refine List.forall_mem_append.mpr ⟨accounted.one, List.forall_mem_singleton.mpr ?_⟩
      exact fun both => Bool.noConfusion both.1
    · intro client member active
      rcases List.mem_append.mp member with before | new
      · exact accounted.works client before active
      · obtain rfl := List.mem_singleton.mp new
        exact Nat.eq_zero_or_pos _
    · rw [length, Nat.add_sub_add_right]
      exact total
    · exact List.forall_mem_append.mpr ⟨zero, List.forall_mem_singleton.mpr rfl⟩

theorem Accounted.loop (accounted : Accounted requests concurrency test)
    (waiting : test.looping = false) (all : test.started = test.concurrency) :
    Accounted requests concurrency { test with looping := true, unlooped := false } := by
  obtain ⟨total, zero⟩ := accounted.base waiting
  have started_eq : test.started = concurrency := all.trans accounted.concurrency_eq
  refine ⟨accounted.requests_eq, accounted.concurrency_eq, accounted.made_le, accounted.started_le,
    fun _ => started_eq, accounted.one, accounted.works, nofun, fun _ => ?_⟩
  rw [tally, total, started_eq]
  exact Quota.kept_start (List.forall_mem_map.mpr zero)

/-- **Every step keeps the account.** -/
theorem Accounted.step {label : Label} (accounted : Accounted requests concurrency test)
    (taken : test.step request label = some next) : Accounted requests concurrency next := by
  cases label with
  | init fd =>
      obtain ⟨⟨waiting, more⟩, same⟩ := Option.ite_none_right_eq_some.mp taken
      obtain rfl := Option.some.inj same
      exact accounted.init waiting more fd
  | loop =>
      obtain ⟨⟨waiting, all⟩, same⟩ := Option.ite_none_right_eq_some.mp taken
      obtain rfl := Option.some.inj same
      exact accounted.loop waiting all
  | io number revents nRead nWritten =>
      obtain ⟨looping, called⟩ := Option.ite_none_right_eq_some.mp taken
      obtain ⟨client, found, active, effect⟩ := ioCallback_effect
        (fun client found => accounted.one client (List.mem_of_getElem? found)) called
      exact accounted.effect looping found active effect

/-! ## What `main` prints -/

/-- The requests that succeeded, and those that failed at a client. -/
def successes (log : List TestEvent) : ℕ :=
  log.countP fun
    | .succeeded .. => true
    | _ => false

def failures (log : List TestEvent) : ℕ :=
  log.countP fun
    | .failed _ => true
    | _ => false

/-- The bytes read and written, by all clients. -/
def allRead (log : List TestEvent) : Bytes :=
  log.flatMap fun
    | .read _ pData => pData
    | _ => []

def allWritten (log : List TestEvent) : Bytes :=
  log.flatMap fun
    | .wrote _ pData => pData
    | _ => []

theorem successes_append (log events : List TestEvent) :
    successes (log ++ events) = successes log + successes events :=
  List.countP_append

theorem failures_append (log events : List TestEvent) :
    failures (log ++ events) = failures log + failures events :=
  List.countP_append

theorem length_allRead_append (log events : List TestEvent) :
    (allRead (log ++ events)).length = (allRead log).length + (allRead events).length := by
  rw [allRead, List.flatMap_append, List.length_append, allRead, allRead]

theorem length_allWritten_append (log events : List TestEvent) :
    (allWritten (log ++ events)).length = (allWritten log).length + (allWritten events).length := by
  rw [allWritten, List.flatMap_append, List.length_append, allWritten, allWritten]

/-- The counters are what the history says. -/
structure Printed (test : TestClient) : Prop where
  success : test.success = successes test.log
  readbytes : test.readbytes = (allRead test.log).length
  writebytes : test.writebytes = (allWritten test.log).length
  total : test.total = successes test.log + failures test.log +
    test.repeats * (test.started - test.clients.length)

theorem printed_new (requests concurrency : ℕ) : (new requests concurrency).Printed :=
  ⟨rfl, rfl, rfl, rfl⟩

/-- The history grew by some events, and the counters by what they say. -/
theorem Printed.of_grown (printed : test.Printed) (events : List TestEvent)
    (grown : next.log = test.log ++ events)
    (success : next.success = test.success + successes events)
    (readbytes : next.readbytes = test.readbytes + (allRead events).length)
    (writebytes : next.writebytes = test.writebytes + (allWritten events).length)
    (total : next.total = test.total + (successes events + failures events))
    (sameRepeats : next.repeats = test.repeats)
    (missing : next.started - next.clients.length = test.started - test.clients.length) :
    next.Printed where
  success := by rw [success, printed.success, grown, successes_append]
  readbytes := by rw [readbytes, printed.readbytes, grown, length_allRead_append]
  writebytes := by rw [writebytes, printed.writebytes, grown, length_allWritten_append]
  total := by
    rw [total, printed.total, sameRepeats, missing, grown, successes_append, failures_append]
    omega

/-- Every effect writes down what it counts. -/
theorem Printed.effect (printed : test.Printed) (effect : Effect request test number client next) :
    next.Printed := by
  have missing : ∀ changed : TestConnection,
      test.started - (test.clients.set number changed).length =
        test.started - test.clients.length := fun _ => congrArg _ List.length_set
  cases effect with
  | quiet => exact printed
  | failed sameCount sameEvents =>
      exact printed.of_grown [.failed number] rfl rfl rfl rfl rfl rfl (missing _)
  | received pData differs =>
      refine printed.of_grown [.read number pData] rfl rfl ?_ rfl rfl rfl (missing _)
      simp [TestClient.setClient, countRead, emit, allRead]
  | answered pData _ equal =>
      refine printed.of_grown [.read number pData, .succeeded number (client.readbuf ++ pData)
        client.writebuf] ?_ rfl ?_ rfl rfl rfl (missing _)
      · simp [stats, TestClient.setClient, raise, countSuccess, countRead, emit]
      · simp [stats, TestClient.setClient, raise, countSuccess, countRead, emit, allRead]
  | filled =>
      exact printed.of_grown [] (List.append_nil _).symm rfl rfl rfl rfl rfl (missing _)
  | wrote count fits =>
      refine printed.of_grown [.wrote number _] rfl rfl rfl ?_ rfl rfl (missing _)
      simp [TestClient.setClient, countWritten, emit, allWritten]

theorem Printed.init (printed : test.Printed) (made_le : test.clients.length ≤ test.started)
    (fd : Int32) : (test.init fd).Printed := by
  unfold TestClient.init
  split
  · refine ⟨printed.success, printed.readbytes, printed.writebytes, ?_⟩
    show test.total + test.repeats =
      _ + test.repeats * (test.started + 1 - test.clients.length)
    rw [printed.total, Nat.sub_add_comm made_le, Nat.mul_succ, Nat.add_assoc]
    rfl
  · refine ⟨printed.success, printed.readbytes, printed.writebytes, ?_⟩
    show test.total = _ +
      test.repeats * (test.started + 1 - (test.clients ++ [TestConnection.new fd]).length)
    rw [List.length_append, List.length_singleton, Nat.add_sub_add_right]
    exact printed.total

theorem Printed.step {label : Label} (accounted : Accounted requests concurrency test)
    (printed : test.Printed) (taken : test.step request label = some next) : next.Printed := by
  cases label with
  | init fd =>
      obtain ⟨-, same⟩ := Option.ite_none_right_eq_some.mp taken
      obtain rfl := Option.some.inj same
      exact printed.init accounted.made_le fd
  | loop =>
      obtain ⟨-, same⟩ := Option.ite_none_right_eq_some.mp taken
      obtain rfl := Option.some.inj same
      exact ⟨printed.success, printed.readbytes, printed.writebytes, printed.total⟩
  | io number revents nRead nWritten =>
      obtain ⟨looping, called⟩ := Option.ite_none_right_eq_some.mp taken
      obtain ⟨client, -, -, effect⟩ := ioCallback_effect
        (fun client found => accounted.one client (List.mem_of_getElem? found)) called
      exact printed.effect effect

end Step

variable {request : ℕ → Bytes} {requests concurrency : ℕ} {labels : List Label}
  {last : TestClient}

theorem counted_of_run (runs : run (step request) (new requests concurrency) labels = some last) :
    Accounted requests concurrency last ∧ last.Printed :=
  run_invariant (I := fun test => Accounted requests concurrency test ∧ test.Printed)
    (fun _ _ _ counted taken => ⟨counted.1.step taken, counted.2.step counted.1 taken⟩) labels
    ⟨accounted_new requests concurrency, printed_new requests concurrency⟩ runs

/-- The requests of the clients that were not made, and of those that were. -/
theorem Accounted.parts {test : TestClient} (accounted : Accounted requests concurrency test) :
    requests / concurrency * (concurrency - test.clients.length) +
      test.clients.length * (requests / concurrency) = requests / concurrency * concurrency := by
  have made_le : test.clients.length ≤ concurrency :=
    accounted.made_le.trans accounted.started_le
  rw [Nat.mul_comm test.clients.length, ← Nat.mul_add, Nat.sub_add_cancel made_le]

/-- When the loop is told to end. -/
theorem Accounted.ends_iff {test : TestClient} (accounted : Accounted requests concurrency test)
    (some_client : 0 < concurrency) (enough : concurrency ≤ requests)
    (looping : test.looping = true) :
    test.unlooped = true ↔ concurrency ∣ requests ∧ test.clients ≠ [] ∧
      ∀ client ∈ test.clients, client.count = requests / concurrency := by
  have kept := accounted.kept looping
  have parts := accounted.parts
  have some_quota : 0 < requests / concurrency := Nat.div_pos enough some_client
  have below : requests / concurrency * concurrency ≤ requests := Nat.div_mul_le_self _ _
  have length : test.tally.counts.length = test.clients.length := List.length_map _
  have counts : (∀ count ∈ test.tally.counts, count = requests / concurrency) ↔
      ∀ client ∈ test.clients, client.count = requests / concurrency := List.forall_mem_map
  by_cases made : test.clients = []
  · -- the total stays where it starts from
    have empty : test.tally.counts = [] := by rw [tally, made, List.map_nil]
    have total_eq := kept.total_eq
    rw [empty, List.sum_nil] at total_eq
    refine iff_of_false (fun ended => ?_) fun ended => ended.2.1 made
    obtain ⟨below, reached⟩ := kept.signalled_iff.mp ended
    omega
  · have some_made : 0 < test.clients.length * (requests / concurrency) :=
      Nat.mul_pos (List.length_pos_iff.mpr made) some_quota
    have signalled := kept.signalled_iff_of_le some_quota (by omega) (by rw [length]; omega)
    rw [length, parts, counts] at signalled
    rw [Nat.dvd_iff_div_mul_eq, eq_comm (a := requests / concurrency * concurrency)]
    refine signalled.trans (and_congr_right fun _ => ?_)
    exact ⟨fun met => ⟨made, met⟩, And.right⟩

/-- The total does not go beyond the requests. -/
theorem Accounted.total_le {test : TestClient} (accounted : Accounted requests concurrency test)
    (some_client : 0 < concurrency) (enough : concurrency ≤ requests)
    (looping : test.looping = true) : test.total ≤ requests := by
  have parts := accounted.parts
  have below : requests / concurrency * concurrency ≤ requests := Nat.div_mul_le_self _ _
  have most := (accounted.kept looping).total_le (Nat.div_pos enough some_client)
  rw [show test.tally.counts.length = test.clients.length from List.length_map _, parts] at most
  exact most.trans below

/-- The loop is told to end at `requests`. -/
theorem Accounted.total_of_unlooped {test : TestClient}
    (accounted : Accounted requests concurrency test) (some_client : 0 < concurrency)
    (enough : concurrency ≤ requests) (looping : test.looping = true)
    (ended : test.unlooped = true) : test.total = requests :=
  Nat.le_antisymm (accounted.total_le some_client enough looping)
    ((accounted.kept looping).signalled_iff.mp ended).2

/-- **When the test ends.**  In every state of the loop, of every run with at least as many
requests as clients: the loop was told to end if and only if the clients divide the requests,
at least one of them could be made, and each that was made is done with all its requests. -/
theorem unlooped_iff (some_client : 0 < concurrency) (enough : concurrency ≤ requests)
    (runs : run (step request) (new requests concurrency) labels = some last)
    (looping : last.looping = true) :
    last.unlooped = true ↔ concurrency ∣ requests ∧ last.clients ≠ [] ∧
      ∀ client ∈ last.clients, client.count = requests / concurrency := by
  obtain ⟨accounted, -⟩ := counted_of_run runs
  exact accounted.ends_iff some_client enough looping

/-- Two clients with one request each, of which one is answered and one fails. -/
theorem unlooped_iff_two_clients :
    ∃ last, run (step TcpEchoClient.request) (new 2 2) [.init 5, .init 6, .loop,
        .io 0 ⟨false, false, true⟩ (.nothing true) (.got 11),
        .io 1 ⟨true, false, false⟩ (.nothing true) (.nothing true),
        .io 0 ⟨false, true, false⟩ (.got (TcpEchoClient.request 0)) (.nothing true)] = some last ∧
      (last.unlooped = true ↔ 2 ∣ 2 ∧ last.clients ≠ [] ∧
        ∀ client ∈ last.clients, client.count = 2 / 2) := by
  obtain ⟨last, runs, looping⟩ : ∃ last, run (step TcpEchoClient.request) (new 2 2)
      [.init 5, .init 6, .loop, .io 0 ⟨false, false, true⟩ (.nothing true) (.got 11),
        .io 1 ⟨true, false, false⟩ (.nothing true) (.nothing true),
        .io 0 ⟨false, true, false⟩ (.got (TcpEchoClient.request 0)) (.nothing true)] = some last ∧
      last.looping = true := ⟨_, rfl, by decide +kernel⟩
  exact ⟨last, runs, unlooped_iff (by decide) (by decide) runs looping⟩

/-- A client whose watcher is not active has no more callbacks. -/
theorem getElem?_of_inactive {test next : TestClient} {number : ℕ} {client : TestConnection}
    {label : Label} (accounted : Accounted requests concurrency test)
    (looping : test.looping = true) (found : test.clients[number]? = some client)
    (inactive : client.io.active = false) (taken : test.step request label = some next) :
    next.looping = true ∧ next.clients[number]? = some client := by
  cases label with
  | init fd =>
      obtain ⟨⟨waiting, -⟩, -⟩ := Option.ite_none_right_eq_some.mp taken
      rw [looping] at waiting
      cases waiting
  | loop =>
      obtain ⟨⟨waiting, -⟩, -⟩ := Option.ite_none_right_eq_some.mp taken
      rw [looping] at waiting
      cases waiting
  | io moving revents nRead nWritten =>
      obtain ⟨-, called⟩ := Option.ite_none_right_eq_some.mp taken
      obtain ⟨mover, moved, active, effect⟩ := ioCallback_effect
        (fun client found => accounted.one client (List.mem_of_getElem? found)) called
      have apart : moving ≠ number := by
        rintro rfl
        obtain rfl := Option.some.inj (moved.symm.trans found)
        rw [inactive] at active
        cases active
      have kept : ∀ changed : TestConnection,
          (test.clients.set moving changed)[number]? = some client := fun changed =>
        (List.getElem?_set_ne apart).trans found
      cases effect with
      | quiet => exact ⟨looping, found⟩
      | failed sameCount sameEvents => exact ⟨looping, kept _⟩
      | received pData differs => exact ⟨looping, kept _⟩
      | answered pData _ equal => exact ⟨looping, kept _⟩
      | filled => exact ⟨looping, kept _⟩
      | wrote count fits => exact ⟨looping, kept _⟩

/-- **A client that is stopped too early stops the test.**  Once the watcher of a client is
not active before the client has made its requests, as after an `EV_ERROR`, the loop is never
told to end, whatever the other clients do. -/
theorem never_unlooped (some_client : 0 < concurrency) (enough : concurrency ≤ requests)
    {middle : TestClient}
    (before : run (step request) (new requests concurrency) labels = some middle)
    (looping : middle.looping = true) {number : ℕ} {client : TestConnection}
    (found : middle.clients[number]? = some client) (inactive : client.io.active = false)
    (short : client.count ≠ requests / concurrency) {more : List Label}
    (runs : run (step request) middle more = some last) : last.unlooped = false := by
  obtain ⟨accounted, looping, found⟩ := run_invariant
    (I := fun test => Accounted requests concurrency test ∧ test.looping = true ∧
      test.clients[number]? = some client)
    (fun _ _ _ holds taken => ⟨holds.1.step taken,
      getElem?_of_inactive holds.1 holds.2.1 holds.2.2 inactive taken⟩)
    more ⟨(counted_of_run before).1, looping, found⟩ runs
  rw [Bool.eq_false_iff]
  intro ended
  obtain ⟨-, -, met⟩ := (accounted.ends_iff some_client enough looping).mp ended
  exact short (met client (List.mem_of_getElem? found))

/-- The watcher of the first client fails at the first of its two requests. -/
theorem never_unlooped_watcher_error :
    ∃ middle last, run (step TcpProxyTest.request) (new 4 2) [.init 5, .init 6, .loop,
        .io 0 ⟨true, true, true⟩ (.nothing true) (.nothing true)] = some middle ∧
      run (step TcpProxyTest.request) middle [.io 1 ⟨false, false, true⟩ (.nothing true) (.got 15),
        .io 1 ⟨false, true, false⟩ (.nothing false) (.nothing true)] = some last ∧
      last.unlooped = false := by
  obtain ⟨middle, client, last, before, looping, found, inactive, short, runs⟩ :
      ∃ middle client last, run (step TcpProxyTest.request) (new 4 2) [.init 5, .init 6, .loop,
        .io 0 ⟨true, true, true⟩ (.nothing true) (.nothing true)] = some middle ∧
      middle.looping = true ∧ middle.clients[0]? = some client ∧ client.io.active = false ∧
      client.count ≠ 4 / 2 ∧
      run (step TcpProxyTest.request) middle [.io 1 ⟨false, false, true⟩ (.nothing true) (.got 15),
        .io 1 ⟨false, true, false⟩ (.nothing false) (.nothing true)] = some last :=
    ⟨_, _, _, rfl, rfl, rfl, rfl, by decide, rfl⟩
  exact ⟨middle, last, before, runs,
    never_unlooped (by decide) (by decide) before looping found inactive short runs⟩

/-- **What `main` prints** is what happened.  In every state of every run, `success` is the
number of requests that succeeded and the two sums are the bytes that were read and written.
With at least as many requests as clients, when the loop was told to end, what is printed as
failed, `requests-success`, is the number of requests that failed and of those of the clients
that could not be made. -/
theorem printed_of_run (runs : run (step request) (new requests concurrency) labels = some last) :
    last.success = successes last.log ∧ last.readbytes = (allRead last.log).length ∧
      last.writebytes = (allWritten last.log).length ∧
      (0 < concurrency → concurrency ≤ requests → last.looping = true → last.unlooped = true →
        requests - last.success =
          failures last.log + requests / concurrency * (concurrency - last.clients.length)) := by
  obtain ⟨accounted, printed⟩ := counted_of_run runs
  refine ⟨printed.success, printed.readbytes, printed.writebytes, ?_⟩
  intro some_client enough looping ended
  have total := printed.total
  rw [accounted.total_of_unlooped some_client enough looping ended, accounted.repeats_eq,
    accounted.started_eq looping] at total
  rw [printed.success]
  omega

/-- One of two clients cannot be made, and the request of the other one fails. -/
theorem printed_of_run_failures :
    ∃ last, run (step TcpEchoClient.request) (new 2 2) [.init (-1), .init 5, .loop,
        .io 0 ⟨false, false, true⟩ (.nothing true) (.got 4),
        .io 0 ⟨false, false, true⟩ (.nothing true) (.nothing false)] = some last ∧
      last.success = successes last.log ∧ last.readbytes = (allRead last.log).length ∧
      last.writebytes = (allWritten last.log).length ∧
      (0 < 2 → 2 ≤ 2 → last.looping = true → last.unlooped = true → 2 - last.success =
        failures last.log + 2 / 2 * (2 - last.clients.length)) := by
  obtain ⟨last, runs⟩ := Option.isSome_iff_exists.mp
    (show (run (step TcpEchoClient.request) (new 2 2) [.init (-1), .init 5, .loop,
        .io 0 ⟨false, false, true⟩ (.nothing true) (.got 4),
        .io 0 ⟨false, false, true⟩ (.nothing true) (.nothing false)]).isSome = true by
      decide +kernel)
  exact ⟨last, runs, printed_of_run runs⟩

end TestClient

end ServerLib
