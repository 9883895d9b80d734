import ServerLib.TcpServer

/-!
# The idle timeout of a connection

`SetConnectionTimeout(T)` sets the interval of the timer that every connection accepted
afterwards is given.  When the timer fires, `__TimerCallback` compares the time since
`m_nLasttime` with a threshold, and the two should be one number.  They are not: the
threshold is the constant `TCP_CONNECTION_TIMEOUT`, which is only the default of `T`.

`TimedServer` is the server with what the statement needs and the code does not keep: a
clock that does not go back, when each connection was accepted, and when bytes were last
read or written on it, all taken from the history.  A timer fires at multiples of its
interval behind the `accept`.  `Follows` says of a tick that `OnClientTimeout` is called
exactly if the connection was idle for `T` seconds or more.

`follows_iff` says which runs follow the configured value, those in which no tick finds
an idle time between `T` and 600 seconds, and for which `T` every run does.

The proof is an account of `m_nLasttime` through everything the server does: `Stamped`
says of a stretch of execution that a connection has the time of its last activity in
it, and the old time if it had none.
-/

namespace ServerLib

open Transition

namespace TcpServer

/-! ## Activity in the history -/

/-- The connection was accepted, or bytes were read or written on it. -/
def active (conn : ℕ) (events : List TcpEvent) : Bool :=
  events.any fun
    | .accepted other _ => other = conn
    | .onClientDataReceived other _ _ _ => other = conn
    | .written other _ _ => other = conn
    | _ => false

@[simp] theorem active_nil (conn : ℕ) : active conn [] = false := rfl

@[simp] theorem active_append (conn : ℕ) (events more : List TcpEvent) :
    active conn (events ++ more) = (active conn events || active conn more) :=
  List.any_append

/-- The clocks of the connections behind a stretch of execution at time `now`. -/
def Stamped (now : Int32) (server next : TcpServer) : Prop :=
  ∃ events, next.log = server.log ++ events ∧
    ∀ {conn connection}, next.heap conn = some connection →
      active conn events = true ∧ connection.nLasttime = now ∨
        active conn events = false ∧
          ∃ before, server.heap conn = some before ∧ before.nLasttime = connection.nLasttime

/-- Nothing was active. -/
structure Calm (server next : TcpServer) : Prop where
  grown : ∃ events, next.log = server.log ++ events ∧ ∀ conn, active conn events = false
  kept : ∀ {conn connection}, next.heap conn = some connection →
    ∃ before, server.heap conn = some before ∧ before.nLasttime = connection.nLasttime

section Clocks

variable {server middle next : TcpServer} {now : Int32} {conn : ℕ} {connection : TcpConnection}

theorem Calm.refl (server : TcpServer) : Calm server server :=
  ⟨⟨[], (List.append_nil _).symm, fun _ => rfl⟩, fun alive => ⟨_, alive, rfl⟩⟩

theorem Calm.trans (first : Calm server middle) (second : Calm middle next) :
    Calm server next := by
  obtain ⟨events, grown, silent⟩ := first.grown
  obtain ⟨more, grown', silent'⟩ := second.grown
  refine ⟨⟨events ++ more, by rw [grown', grown, List.append_assoc], fun conn => ?_⟩,
    fun alive => ?_⟩
  · rw [active_append, silent, silent', Bool.or_false]
  · obtain ⟨between, alive', same'⟩ := second.kept alive
    obtain ⟨before, alive'', same⟩ := first.kept alive'
    exact ⟨before, alive'', same.trans same'⟩

theorem Calm.stamped (calm : Calm server next) (now : Int32) : Stamped now server next := by
  obtain ⟨events, grown, silent⟩ := calm.grown
  exact ⟨events, grown, fun alive => Or.inr ⟨silent _, calm.kept alive⟩⟩

theorem Stamped.trans (first : Stamped now server middle) (second : Stamped now middle next) :
    Stamped now server next := by
  obtain ⟨events, grown, clocks⟩ := first
  obtain ⟨more, grown', clocks'⟩ := second
  refine ⟨events ++ more, by rw [grown', grown, List.append_assoc], fun {conn _} alive => ?_⟩
  rw [active_append]
  rcases clocks' alive with ⟨here, stamp⟩ | ⟨silent, between, alive', same'⟩
  · exact Or.inl ⟨by rw [here, Bool.or_true], stamp⟩
  · rw [silent, Bool.or_false]
    rcases clocks alive' with ⟨here, stamp⟩ | ⟨silent', before, alive'', same⟩
    · exact Or.inl ⟨here, same'.symm.trans stamp⟩
    · exact Or.inr ⟨silent', before, alive'', same.trans same'⟩

/-- The history grows by an event that is no activity, and the connections stay. -/
theorem calm_of_event {event : TcpEvent} (silent : ∀ conn, active conn [event] = false)
    (grown : next.log = server.log ++ [event]) (sameHeap : next.heap = server.heap) :
    Calm server next :=
  ⟨⟨[event], grown, silent⟩, fun alive => ⟨_, sameHeap ▸ alive, rfl⟩⟩

/-- A connection changes, but not its clock. -/
theorem calm_of_change {changed : TcpConnection} (alive : server.heap conn = some connection)
    (grown : ∃ events, next.log = server.log ++ events ∧ ∀ conn, active conn events = false)
    (heap : next.heap = Function.update server.heap conn (some changed))
    (sameClock : changed.nLasttime = connection.nLasttime) : Calm server next := by
  refine ⟨grown, fun alive' => ?_⟩
  rw [heap] at alive'
  rcases update_eq_some_iff.mp alive' with ⟨rfl, same⟩ | ⟨-, alive'⟩
  · cases same
    exact ⟨connection, alive, sameClock.symm⟩
  · exact ⟨_, alive', rfl⟩

/-- A connection is active, and gets the time. -/
theorem stamped_of_activity {changed : TcpConnection} {event : TcpEvent}
    (grown : next.log = server.log ++ [event])
    (here : ∀ other, active other [event] = decide (conn = other))
    (heap : next.heap = Function.update server.heap conn (some changed))
    (stamp : changed.nLasttime = now) : Stamped now server next := by
  refine ⟨[event], grown, fun {other _} alive => ?_⟩
  rw [here, heap] at *
  rcases update_eq_some_iff.mp alive with ⟨rfl, same⟩ | ⟨apart, alive⟩
  · cases same
    exact Or.inl ⟨decide_eq_true rfl, stamp⟩
  · exact Or.inr ⟨decide_eq_false (Ne.symm apart), _, alive, rfl⟩

/-! ## What the server does -/

theorem calm_close (alive : server.heap conn = some connection) :
    Calm server (server.close conn connection) := by
  unfold close
  split
  · exact calm_of_change alive ⟨[_], rfl, fun _ => rfl⟩ rfl rfl
  · exact .refl server

theorem calm_destroy (server : TcpServer) (conn : ℕ) : Calm server (server.destroy conn) := by
  unfold destroy
  split
  · exact .refl server
  · next connection alive =>
      refine (calm_close alive).trans ⟨⟨[], (List.append_nil _).symm, fun _ => rfl⟩, fun left => ?_⟩
      rcases update_eq_some_iff.mp left with ⟨-, gone⟩ | ⟨-, left⟩
      · cases gone
      · exact ⟨_, left, rfl⟩

theorem calm_removeConn {sClient : SocketClientData}
    (called : server.removeConn sClient = some next) : Calm server next := by
  obtain ⟨manager, -, rfl⟩ := Option.map_eq_some_iff.mp called
  have same : Calm server { server with socketInfoManager := manager } :=
    ⟨(Calm.refl server).grown, (Calm.refl server).kept⟩
  split
  · exact same
  · exact same.trans (calm_destroy _ _)

/-- A termination tells the handler first. -/
theorem terminate_log {sClient : SocketClientData} {nErrorCode : Int32}
    (called : server.terminate sClient nErrorCode = some next) :
    ∃ rest, next.log = server.log ++ .onClientDisconnected sClient nErrorCode :: rest := by
  obtain ⟨events, grown, -⟩ := (calm_removeConn called).grown
  exact ⟨events, grown.trans (List.append_assoc ..)⟩

/-- A termination has a result where the key has a channel. -/
theorem exists_terminate (server : TcpServer) {sClient : SocketClientData}
    (nonneg : 0 ≤ sClient.Socket) (nErrorCode : Int32) :
    ∃ next, server.terminate sClient nErrorCode = some next := by
  obtain ⟨i, index⟩ := SocketInfoManager.channelIndex_of_nonneg nonneg
  rw [terminate, removeConn, SocketInfoManager.remove, index]
  exact ⟨_, rfl⟩

theorem calm_terminate {sClient : SocketClientData} {nErrorCode : Int32}
    (called : server.terminate sClient nErrorCode = some next) : Calm server next := by
  have told : Calm server (server.emit (.onClientDisconnected sClient nErrorCode)) :=
    calm_of_event (fun _ => rfl) rfl rfl
  exact told.trans (calm_removeConn called)

theorem stamped_ioRead {nRead : RecvResult} {goesOn : Bool}
    (called : server.ioRead conn connection nRead now = some (next, goesOn)) :
    Stamped now server next := by
  obtain ⟨-, called⟩ := Option.ite_none_right_eq_some.mp called
  cases nRead with
  | eof =>
      obtain ⟨after, ended, same⟩ := Option.map_eq_some_iff.mp called
      obtain ⟨rfl, -⟩ := Prod.mk.inj same
      exact (calm_terminate ended).stamped now
  | again =>
      obtain ⟨rfl, -⟩ := Prod.mk.inj (Option.some.inj called)
      exact (Calm.refl server).stamped now
  | error errno =>
      obtain ⟨after, ended, same⟩ := Option.map_eq_some_iff.mp called
      obtain ⟨rfl, -⟩ := Prod.mk.inj same
      exact (calm_terminate ended).stamped now
  | data pData =>
      obtain ⟨rfl, -⟩ := Prod.mk.inj (Option.some.inj called)
      exact stamped_of_activity rfl (fun _ => Bool.or_false _) rfl rfl

theorem stamped_ioWrite {nWritten : WriteResult} (alive : server.heap conn = some connection)
    (called : server.ioWrite conn connection nWritten now = some next) :
    Stamped now server next := by
  unfold ioWrite at called
  split at called
  · obtain rfl := Option.some.inj called
    have calm : Calm server (server.setConn conn
        { connection with io := connection.io.set Interest.readOnly }) :=
      calm_of_change alive ⟨[], (List.append_nil _).symm, fun _ => rfl⟩ rfl rfl
    exact calm.stamped now
  · obtain ⟨-, called⟩ := Option.ite_none_right_eq_some.mp called
    cases nWritten with
    | again =>
        obtain rfl := Option.some.inj called
        exact (Calm.refl server).stamped now
    | error errno => exact (calm_terminate called).stamped now
    | wrote count =>
        obtain ⟨fits, same⟩ := Option.dite_none_right_eq_some.mp called
        obtain rfl := Option.some.inj same
        exact stamped_of_activity rfl (fun _ => Bool.or_false _) rfl rfl

theorem stamped_ioCallback {revents : Revents} {nRead : RecvResult} {nWritten : WriteResult}
    {errno : Int32}
    (called : server.ioCallback conn revents nRead nWritten errno now = some next) :
    Stamped now server next := by
  unfold ioCallback at called
  split at called
  · cases called
  · next connection alive =>
      obtain ⟨-, called⟩ := Option.ite_none_right_eq_some.mp called
      split at called
      · exact (calm_terminate called).stamped now
      · obtain ⟨⟨after, goesOn⟩, read, behind⟩ := Option.bind_eq_some_iff.mp called
        have reading : Stamped now server after := by
          split at read
          · exact stamped_ioRead read
          · obtain ⟨rfl, -⟩ := Prod.mk.inj (Option.some.inj read)
            exact (Calm.refl server).stamped now
        cases goesOn with
        | false =>
            obtain rfl := Option.some.inj behind
            exact reading
        | true =>
            dsimp only at behind
            split at behind
            · obtain ⟨connection', alive', wrote⟩ := Option.bind_eq_some_iff.mp behind
              exact reading.trans (stamped_ioWrite alive' wrote)
            · obtain rfl := Option.some.inj behind
              exact reading

theorem stamped_accept {result : AcceptResult} (called : server.accept now result = some next) :
    Stamped now server next := by
  cases result with
  | watcherError =>
      obtain rfl := Option.some.inj called
      exact (Calm.refl server).stamped now
  | failed =>
      obtain rfl := Option.some.inj called
      exact (Calm.refl server).stamped now
  | client IP Port client_fd =>
      obtain ⟨-, called⟩ := Option.ite_none_right_eq_some.mp called
      obtain ⟨manager, -, rfl⟩ := Option.map_eq_some_iff.mp called
      -- the new connection has the time of its `accept`
      have created : Stamped now server { server with
          heap := Function.update server.heap server.nextConn
            (some (TcpConnection.new ⟨IP, Port, client_fd⟩ server.nTimeout now))
          log := server.log ++ [.accepted server.nextConn ⟨IP, Port, client_fd⟩]
          nextConn := server.nextConn + 1
          owner := Function.update server.owner client_fd (some server.nextConn)
          socketInfoManager := manager } :=
        stamped_of_activity rfl (fun _ => Bool.or_false _) rfl rfl
      · refine created.trans (Calm.stamped ?_ now)
        split
        · exact calm_of_event (fun _ => rfl) rfl rfl
        · exact (calm_destroy _ _).trans (calm_of_event (fun _ => rfl) rfl rfl)

theorem calm_asyncExec (called : server.asyncExec = some next) : Calm server next := by
  unfold asyncExec at called
  split at called
  · cases called
  · next sClient pOutputBuffer rest batch =>
      obtain ⟨found, -, behind⟩ := Option.bind_eq_some_iff.mp called
      have popped : Calm server { server.emit (.executed sClient pOutputBuffer.getDataPos) with
          batch := rest } := calm_of_event (fun _ => rfl) rfl rfl
      cases found with
      | none =>
          obtain rfl := Option.some.inj behind
          exact popped
      | some conn =>
          obtain ⟨connection, alive, sent⟩ := Option.bind_eq_some_iff.mp behind
          unfold connSend at sent
          split at sent
          · exact popped.trans (calm_terminate sent)
          · obtain rfl := Option.some.inj sent
            exact popped.trans
              (calm_of_change alive ⟨[], (List.append_nil _).symm, fun _ => rfl⟩ rfl rfl)

theorem calm_closeClient {sClient : SocketClientData}
    (called : server.closeClient sClient = some next) : Calm server next := by
  obtain ⟨found, -, behind⟩ := Option.bind_eq_some_iff.mp called
  cases found with
  | none =>
      obtain rfl := Option.some.inj behind
      exact .refl server
  | some conn =>
      obtain ⟨connection, alive, rfl⟩ := Option.map_eq_some_iff.mp behind
      exact calm_close alive

/-- The time that comes with a step, if one does. -/
def time : Label → Option Int32
  | .accept _ now => some now
  | .io _ _ _ _ _ now => some now
  | .timer _ _ _ now => some now
  | .asyncSwap => none
  | .asyncExec => none
  | .send _ _ => none
  | .closeClient _ => none

/-- **A step gives its time to the connections it is active on, and to no other.** -/
theorem stamped_step {label : Label} (clock : Int32) (taken : server.step label = some next) :
    Stamped ((time label).getD clock) server next := by
  cases label with
  | accept result now =>
      obtain ⟨-, called⟩ := Option.ite_none_right_eq_some.mp taken
      exact stamped_accept called
  | io conn revents nRead nWritten errno now =>
      obtain ⟨-, called⟩ := Option.ite_none_right_eq_some.mp taken
      exact stamped_ioCallback called
  | timer conn error errno now =>
      obtain ⟨-, called⟩ := Option.ite_none_right_eq_some.mp taken
      refine Calm.stamped ?_ _
      unfold timerCallback at called
      split at called
      · cases called
      · split at called
        · exact calm_terminate called
        · split at called
          · exact calm_terminate called
          · obtain rfl := Option.some.inj called
            exact .refl server
  | asyncSwap =>
      obtain ⟨-, same⟩ := Option.ite_none_right_eq_some.mp taken
      obtain rfl := Option.some.inj same
      exact (show Calm server server.asyncSwap from
        ⟨(Calm.refl server).grown, (Calm.refl server).kept⟩).stamped _
  | asyncExec => exact (calm_asyncExec taken).stamped _
  | send sClient pData =>
      obtain rfl := Option.some.inj taken
      have queued : Calm server (server.send sClient pData) :=
        calm_of_event (fun _ => rfl) rfl rfl
      exact queued.stamped _
  | closeClient sClient => exact (calm_closeClient taken).stamped _

/-- A tick that is no error ends the connection exactly if it finds it idle for
`TCP_CONNECTION_TIMEOUT` or more. -/
theorem timerCallback_log (alive : server.heap conn = some connection) {errno : Int32}
    (called : server.timerCallback conn false errno now = some next) :
    (∃ rest, next.log =
        server.log ++ .onClientDisconnected connection.socketClient 0 :: rest) ∧
        tcpConnectionTimeout ≤ now - connection.nLasttime ∨
      next = server ∧ ¬ tcpConnectionTimeout ≤ now - connection.nLasttime := by
  rw [timerCallback, alive] at called
  dsimp only at called
  rw [if_neg Bool.false_ne_true] at called
  split at called
  · next idle => exact Or.inl ⟨terminate_log called, idle⟩
  · next recent => exact Or.inr ⟨(Option.some.inj called).symm, recent⟩

end Clocks

/-- The handler was told, at once, that connection `conn` ended without an error: what
`OnClientTimeout` does. -/
def TimedOut (server next : TcpServer) (conn : ℕ) : Prop :=
  ∃ connection ∈ server.heap conn,
    (next.log.drop server.log.length).head? =
      some (.onClientDisconnected connection.socketClient 0)

instance (server next : TcpServer) (conn : ℕ) : Decidable (server.TimedOut next conn) :=
  inferInstanceAs (Decidable (∃ connection ∈ server.heap conn, _))

/-- The connection was accepted. -/
def began (conn : ℕ) (events : List TcpEvent) : Bool :=
  events.any fun
    | .accepted other _ => other = conn
    | _ => false

end TcpServer

/-! ## The server in time -/

/-- The server with a clock, and what the history says of each connection: when it was
accepted, and when it was last active. -/
structure TimedServer where
  server : TcpServer
  clock : Int32
  start : ℕ → Int32
  lastActive : ℕ → Int32

namespace TimedServer

open TcpServer (active began time)

/-- A server of which no connection has been accepted, after
`SetConnectionTimeout(nTimeout)`. -/
def new (nTimeout : Int32) : TimedServer where
  server := TcpServer.new nTimeout
  clock := 0
  start := fun _ => 0
  lastActive := fun _ => 0

/-- libev fires a timer at multiples of its interval behind its start. -/
def Due (timed : TimedServer) : TcpServer.Label → Prop
  | .timer conn false _ now =>
      ∃ connection ∈ timed.server.heap conn,
        timed.start conn < now ∧ connection.timer.toInt ∣ now.toInt - (timed.start conn).toInt
  | _ => True

instance (timed : TimedServer) : ∀ label, Decidable (timed.Due label)
  | .timer conn false _ _ => inferInstanceAs (Decidable (∃ connection ∈ timed.server.heap conn, _))
  | .timer _ true _ _ => inferInstanceAs (Decidable True)
  | .accept _ _ => inferInstanceAs (Decidable True)
  | .io _ _ _ _ _ _ => inferInstanceAs (Decidable True)
  | .asyncSwap => inferInstanceAs (Decidable True)
  | .asyncExec => inferInstanceAs (Decidable True)
  | .send _ _ => inferInstanceAs (Decidable True)
  | .closeClient _ => inferInstanceAs (Decidable True)

/-- What a step that led to `next` at time `now` adds to the record. -/
def advance (timed : TimedServer) (now : Int32) (next : TcpServer) : TimedServer :=
  let events := next.log.drop timed.server.log.length
  { server := next
    clock := now
    start := fun conn => if began conn events then now else timed.start conn
    lastActive := fun conn => if active conn events then now else timed.lastActive conn }

/-- One step, at a time the clock has not passed. -/
def step (timed : TimedServer) (label : TcpServer.Label) : Option TimedServer :=
  if timed.clock ≤ (time label).getD timed.clock ∧ timed.Due label then
    (timed.server.step label).map (timed.advance ((time label).getD timed.clock))
  else
    none

/-- How long connection `conn` has been idle at time `now`. -/
def idle (timed : TimedServer) (conn : ℕ) (now : Int32) : Int :=
  now.toInt - (timed.lastActive conn).toInt

/-- **A tick calls `OnClientTimeout` exactly if the connection was idle for the
configured time.** -/
def Follows (nTimeout : Int32) (timed : TimedServer) : TcpServer.Label → Prop
  | .timer conn false errno now =>
      ∀ next ∈ timed.step (.timer conn false errno now),
        timed.server.TimedOut next.server conn ↔ nTimeout.toInt ≤ timed.idle conn now
  | _ => True

/-- A tick finds no idle time between the configured one and the constant of
`__TimerCallback`. -/
def Apart (nTimeout : Int32) (timed : TimedServer) : TcpServer.Label → Prop
  | .timer conn false _ now =>
      timed.idle conn now < min nTimeout.toInt tcpConnectionTimeout.toInt ∨
        max nTimeout.toInt tcpConnectionTimeout.toInt ≤ timed.idle conn now
  | _ => True

/-! ## The record is right -/

/-- **`m_nLasttime` is the time of the last activity**, which lies behind the clock. -/
structure Timed (timed : TimedServer) : Prop where
  begun : 0 ≤ timed.clock
  stamp : ∀ {conn connection}, timed.server.heap conn = some connection →
    connection.nLasttime = timed.lastActive conn
  past : ∀ {conn connection}, timed.server.heap conn = some connection →
    0 ≤ connection.nLasttime ∧ connection.nLasttime ≤ timed.clock

theorem timed_new (nTimeout : Int32) : (new nTimeout).Timed where
  begun := Int32.le_refl 0
  stamp := by rintro conn connection ⟨⟩
  past := by rintro conn connection ⟨⟩

theorem step_eq_some {timed next : TimedServer} {label : TcpServer.Label}
    (taken : timed.step label = some next) :
    timed.clock ≤ (time label).getD timed.clock ∧ timed.Due label ∧
      ∃ after, timed.server.step label = some after ∧
        timed.advance ((time label).getD timed.clock) after = next := by
  obtain ⟨⟨later, due⟩, taken⟩ := Option.ite_none_right_eq_some.mp taken
  exact ⟨later, due, Option.map_eq_some_iff.mp taken⟩

theorem timed_step {timed next : TimedServer} {label : TcpServer.Label} (holds : timed.Timed)
    (taken : timed.step label = some next) : next.Timed := by
  obtain ⟨later, -, after, moved, rfl⟩ := step_eq_some taken
  obtain ⟨events, grown, clocks⟩ := TcpServer.stamped_step timed.clock moved
  have fresh : after.log.drop timed.server.log.length = events := by
    rw [grown, List.drop_left]
  have begun := Int32.le_trans holds.begun later
  refine ⟨begun, fun {conn connection} alive => ?_, fun alive => ?_⟩
  · show connection.nLasttime =
      if active conn (after.log.drop timed.server.log.length) then _ else _
    rw [fresh]
    rcases clocks alive with ⟨here, stamp⟩ | ⟨silent, before, alive', same⟩
    · rw [here, if_pos rfl, stamp]
    · rw [silent, if_neg Bool.false_ne_true, ← holds.stamp alive', same]
  · rcases clocks alive with ⟨-, stamp⟩ | ⟨-, before, alive', same⟩
    · rw [stamp]
      exact ⟨begun, Int32.le_refl _⟩
    · obtain ⟨positive, behind⟩ := holds.past alive'
      rw [← same]
      exact ⟨positive, Int32.le_trans behind later⟩

/-- A difference of times does not overflow. -/
theorem toInt_sub_of_le {before now : Int32} (positive : 0 ≤ before) (later : before ≤ now) :
    (now - before).toInt = now.toInt - before.toInt := by
  rw [Int32.le_iff_toInt_le] at positive later
  have bound := now.toInt_lt
  rw [Int32.toInt_zero] at positive
  rw [Int32.toInt_sub]
  exact Int.bmod_eq_of_le (by omega) (by omega)

/-- **A tick calls `OnClientTimeout` exactly if the connection was idle for
`TCP_CONNECTION_TIMEOUT`.** -/
theorem timedOut_iff {timed next : TimedServer} {conn : ℕ} {errno now : Int32}
    (holds : timed.Timed) (taken : timed.step (.timer conn false errno now) = some next) :
    timed.server.TimedOut next.server conn ↔
      tcpConnectionTimeout.toInt ≤ timed.idle conn now := by
  obtain ⟨later, ⟨connection, alive, -, -⟩, after, moved, rfl⟩ := step_eq_some taken
  obtain ⟨-, called⟩ := Option.ite_none_right_eq_some.mp moved
  have same : timed.idle conn now = (now - connection.nLasttime).toInt := by
    obtain ⟨positive, behind⟩ := holds.past alive
    have stamped : connection.nLasttime ≤ now := Int32.le_trans behind later
    rw [idle, ← holds.stamp alive, toInt_sub_of_le positive stamped]
  rw [same, ← Int32.le_iff_toInt_le]
  rcases TcpServer.timerCallback_log alive called with ⟨⟨rest, grown⟩, idle⟩ | ⟨rfl, recent⟩
  · refine iff_of_true ⟨connection, alive, ?_⟩ idle
    show (after.log.drop timed.server.log.length).head? = _
    rw [grown, List.drop_left, List.head?_cons]
  · refine iff_of_false ?_ recent
    rintro ⟨connection', -, told⟩
    rw [show (timed.advance _ timed.server).server = timed.server from rfl,
      List.drop_length] at told
    cases told

/-- A tick follows the configured value exactly if the two thresholds agree on it. -/
theorem follows_iff_apart {nTimeout : Int32} {timed next : TimedServer} {label : TcpServer.Label}
    (holds : timed.Timed) (taken : timed.step label = some next) :
    timed.Follows nTimeout label ↔ timed.Apart nTimeout label := by
  unfold Follows Apart
  split
  · next conn errno now =>
      have here := timedOut_iff holds taken
      constructor
      · intro follows
        have agree := here.symm.trans (follows next taken)
        omega
      · intro apart after taken'
        obtain rfl := Option.some.inj (taken.symm.trans taken')
        rw [here]
        omega
  · exact Iff.rfl

/-! ## The configured time and the constant -/

/-- A tick is taken where it is due, and where the registry can end the connection. -/
theorem exists_tick {timed : TimedServer} {conn : ℕ} {now : Int32} {connection : TcpConnection}
    (later : timed.clock ≤ now) (idle : timed.server.batch = [])
    (alive : timed.server.heap conn = some connection) (started : timed.start conn < now)
    (due : connection.timer.toInt ∣ now.toInt - (timed.start conn).toInt)
    (nonneg : 0 ≤ connection.socketClient.Socket) :
    ∃ next, timed.step (.timer conn false 0 now) = some next := by
  have called : ∃ after, timed.server.step (.timer conn false 0 now) = some after := by
    simp only [TcpServer.step, if_pos idle, TcpServer.timerCallback, alive,
      if_neg Bool.false_ne_true]
    split
    · exact TcpServer.exists_terminate _ nonneg 0
    · exact ⟨timed.server, rfl⟩
  obtain ⟨after, called⟩ := called
  refine ⟨timed.advance now after, ?_⟩
  rw [step, if_pos ⟨later, connection, alive, started, due⟩, called]
  rfl

/-- The only connection of a server was accepted at time 0 and last active at `last`, the
time it is now. -/
structure Waiting (timed : TimedServer) (nTimeout last : Int32) : Prop where
  idle : timed.server.batch = []
  alive : ∃ connection, timed.server.heap 0 = some connection ∧ connection.timer = nTimeout ∧
    0 ≤ connection.socketClient.Socket
  now : timed.clock = last
  started : timed.start 0 = 0
  lastActive : timed.lastActive 0 = last

/-- The first tick of a connection breaks the rule, if it finds an idle time between
the two thresholds. -/
theorem not_apart_of_waiting {nTimeout last : Int32} {labels : List TcpServer.Label}
    {timed : TimedServer} (positive : 1 ≤ nTimeout) (before : last ≤ nTimeout)
    (runs : run step (new nTimeout) labels = some timed) (waiting : timed.Waiting nTimeout last)
    (between : min nTimeout.toInt tcpConnectionTimeout.toInt ≤ nTimeout.toInt - last.toInt ∧
      nTimeout.toInt - last.toInt < max nTimeout.toInt tcpConnectionTimeout.toInt) :
    ∃ labels last, run step (new nTimeout) labels = some last ∧
      ¬ Along step (Apart nTimeout) (new nTimeout) labels := by
  obtain ⟨connection, alive, interval, nonneg⟩ := waiting.alive
  have started : timed.start 0 < nTimeout := by
    have one : (1 : Int32).toInt = 1 := rfl
    rw [Int32.le_iff_toInt_le] at positive
    rw [waiting.started, Int32.lt_iff_toInt_lt, Int32.toInt_zero]
    omega
  have due : connection.timer.toInt ∣ nTimeout.toInt - (timed.start 0).toInt := by
    have same : nTimeout.toInt - (timed.start 0).toInt = connection.timer.toInt := by
      rw [interval, waiting.started, Int32.toInt_zero, Int.sub_zero]
    exact same ▸ Int.dvd_refl _
  have later : timed.clock ≤ nTimeout := by
    rw [waiting.now]
    exact before
  obtain ⟨next, ticked⟩ := exists_tick later waiting.idle alive started due nonneg
  have ran : run step (new nTimeout) (labels ++ [.timer 0 false 0 nTimeout]) = some next :=
    run_concat_eq_some.mpr ⟨timed, runs, ticked⟩
  refine ⟨_, next, ran, fun along => ?_⟩
  have apart : timed.Apart nTimeout (.timer 0 false 0 nTimeout) :=
    ((along_append.mp along).2 timed runs).1
  have found : timed.idle 0 nTimeout = nTimeout.toInt - last.toInt := by
    rw [idle, waiting.lastActive]
  rw [Apart, found] at apart
  omega

/-- **A timeout below 600 seconds**: the first tick finds the connection idle for that
long, and leaves it. -/
theorem not_apart_of_lt {nTimeout : Int32} (positive : 1 ≤ nTimeout)
    (below : nTimeout < tcpConnectionTimeout) :
    ∃ labels last, run step (new nTimeout) labels = some last ∧
      ¬ Along step (Apart nTimeout) (new nTimeout) labels := by
  have accepted : ∃ timed, run step (new nTimeout) [.accept (.client 1 2 3) 0] = some timed ∧
      timed.Waiting nTimeout 0 :=
    ⟨_, rfl, rfl, ⟨_, rfl, rfl, show (0 : Int32) ≤ 3 by decide⟩, rfl, rfl, rfl⟩
  obtain ⟨timed, runs, waiting⟩ := accepted
  have started : (0 : Int32) ≤ nTimeout := Int32.le_trans (by decide) positive
  refine not_apart_of_waiting positive started runs waiting ?_
  rw [Int32.lt_iff_toInt_lt] at below
  rw [Int32.toInt_zero]
  omega

/-- **A timeout above 600 seconds**: after a byte in the second second the first tick
finds the connection idle for less, and ends it. -/
theorem not_apart_of_gt {nTimeout : Int32} (positive : 1 ≤ nTimeout)
    (above : tcpConnectionTimeout < nTimeout) :
    ∃ labels last, run step (new nTimeout) labels = some last ∧
      ¬ Along step (Apart nTimeout) (new nTimeout) labels := by
  have received : ∃ timed, run step (new nTimeout) [.accept (.client 1 2 3) 0,
        .io 0 ⟨false, true, false⟩ (.data [1]) .again 0 1] = some timed ∧
      timed.Waiting nTimeout 1 :=
    ⟨_, rfl, rfl, ⟨_, rfl, rfl, show (0 : Int32) ≤ 3 by decide⟩, rfl, rfl, rfl⟩
  obtain ⟨timed, runs, waiting⟩ := received
  refine not_apart_of_waiting positive positive runs waiting ?_
  rw [Int32.lt_iff_toInt_lt] at above
  have one : (1 : Int32).toInt = 1 := rfl
  omega

/-- **The idle timeout and the configured value.**  A run follows the configured value
exactly if none of its ticks finds an idle time between that value and the constant 600,
and every run does exactly if the two are the same number. -/
theorem follows_iff (nTimeout : Int32) (positive : 1 ≤ nTimeout) :
    (∀ labels last, run step (new nTimeout) labels = some last →
      (Along step (Follows nTimeout) (new nTimeout) labels ↔
        Along step (Apart nTimeout) (new nTimeout) labels)) ∧
    ((∀ labels last, run step (new nTimeout) labels = some last →
      Along step (Follows nTimeout) (new nTimeout) labels) ↔ nTimeout = 600) := by
  have perRun : ∀ labels last, run step (new nTimeout) labels = some last →
      (Along step (Follows nTimeout) (new nTimeout) labels ↔
        Along step (Apart nTimeout) (new nTimeout) labels) := fun labels last runs =>
    along_iff_along (fun _ _ _ holds _ taken => timed_step holds taken)
      (fun _ _ _ holds taken => follows_iff_apart holds taken) labels (timed_new nTimeout) runs
  refine ⟨perRun, fun always => ?_, fun same labels last runs => (perRun labels last runs).mpr ?_⟩
  · by_contra different
    have broken : ∃ labels last, run step (new nTimeout) labels = some last ∧
        ¬ Along step (Apart nTimeout) (new nTimeout) labels := by
      rcases Int32.lt_or_lt_of_ne different with below | above
      · exact not_apart_of_lt positive below
      · exact not_apart_of_gt positive above
    obtain ⟨labels, last, runs, crossed⟩ := broken
    exact crossed ((perRun labels last runs).mp (always labels last runs))
  · subst same
    refine along_of_forall (fun timed label => ?_) _ _
    unfold Apart
    split
    · have constant : (600 : Int32).toInt = tcpConnectionTimeout.toInt := rfl
      omega
    · trivial

/-- A connection that was active after 300 seconds and is ended by its second tick. -/
def endedLate : List TcpServer.Label :=
  [.accept (.client 1 2 3) 0, .io 0 ⟨false, true, false⟩ (.data [1]) .again 0 300,
    .timer 0 false 0 600, .timer 0 false 0 1200]

theorem follows_default :
    1 ≤ (600 : Int32) ∧ Along step (Follows 600) (new 600) endedLate := by
  have positive : 1 ≤ (600 : Int32) := by decide
  obtain ⟨last, runs⟩ := Option.isSome_iff_exists.mp
    (show (run step (new 600) endedLate).isSome = true by decide +kernel)
  exact ⟨positive, (follows_iff 600 positive).2.mpr rfl endedLate last runs⟩

/-- With a timeout of ten seconds the tick at ten seconds leaves a connection that was
idle all the time. -/
theorem idle_connection_kept :
    ¬ ∀ nTimeout : Int32, 1 ≤ nTimeout → ∀ labels last,
      run step (new nTimeout) labels = some last →
        Along step (Follows nTimeout) (new nTimeout) labels := by
  intro always
  have broken : ∃ last, run step (new 10) [.accept (.client 1 2 3) 0, .timer 0 false 0 10] =
        some last ∧
      ¬ Along step (Follows 10) (new 10) [.accept (.client 1 2 3) 0, .timer 0 false 0 10] := by
    refine ⟨_, rfl, fun along => ?_⟩
    have follows := (along.2 _ rfl).1 _ rfl
    revert follows
    decide +kernel
  obtain ⟨last, runs, broken⟩ := broken
  exact broken (always 10 (by decide) _ last runs)

end TimedServer

end ServerLib
