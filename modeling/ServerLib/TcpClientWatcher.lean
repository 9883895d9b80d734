import ServerLib.TcpClientEffects

/-!
# The watcher and the socket of the client

`__Connect` closes the old descriptor before it has a new one.  Where `socket` then
fails it returns at once, and `m_Io` is left on the closed number, or stopped where it was
libev that reported an error.  `Start` looks at the result of `__Connect`; the four paths of
the io callback do not, so nothing tries again, and a watcher that still runs reports
whatever the number is used for next.

`Attached` is the invariant of the runs in which that does not happen: the watcher is
active exactly while the loop runs, and then it is on the descriptor in `m_Socket`,
which is the socket made last.  `watcherFollows_iff` says that those runs are the only
ones in which the watcher follows the socket.
-/

namespace ServerLib

open Transition

namespace TcpClient

/-! ## What the watcher should do -/

/-- `m_Io` is active on the descriptor in `m_Socket`, and the descriptor is open, on a
socket of this client. -/
structure Following (client : TcpClient) : Prop where
  active : client.io.active = true
  fd_eq : client.io.fd = client.socket
  opened : ∃ number, client.owner client.socket = some (.socket number)

/-- After `__IoCallback` the watcher follows the socket. -/
def WatcherFollows (client : TcpClient) : Label → Prop
  | .io revents nRead nWritten errno fd =>
      ∀ next, client.step (.io revents nRead nWritten errno fd) = some next → next.Following
  | _ => True

/-- Where `__IoCallback` reconnects, `socket` returns a descriptor that counts as one. -/
def Reconnected (client : TcpClient) : Label → Prop
  | .io revents nRead nWritten _ fd =>
      client.IoReconnects revents nRead nWritten → 0 < fd
  | _ => True

instance (client : TcpClient) : (label : Label) → Decidable (client.Reconnected label)
  | .io _ _ _ _ _ => inferInstanceAs (Decidable (_ → _))
  | .startAsync .. | .startNotify | .startConnect _ | .stop | .send _ | .asyncDispatch
  | .asyncSwap | .asyncExec | .otherOpen _ | .otherClose _ => inferInstanceAs (Decidable True)

/-! ## The invariant -/

/-- The watcher is active while the loop runs, on the socket made last. -/
structure Attached (client : TcpClient) : Prop where
  looping : client.io.active = true ↔ client.phase = .looping
  watched : client.io.active = true → client.io.fd = client.socket ∧ 0 < client.socket ∧
    ∃ number, client.nextSocket = number + 1 ∧
      client.owner client.socket = some (.socket number)

/-- Everything the invariant speaks of is as before. -/
structure SameWatch (client next : TcpClient) : Prop where
  phase : next.phase = client.phase
  active : next.io.active = client.io.active
  fd : next.io.fd = client.io.fd
  socket : next.socket = client.socket
  owner : next.owner = client.owner
  nextSocket : next.nextSocket = client.nextSocket

section Keep

variable {client next after : TcpClient} {fd : Int32}

theorem SameWatch.trans (first : SameWatch client after) (second : SameWatch after next) :
    SameWatch client next where
  phase := second.phase.trans first.phase
  active := second.active.trans first.active
  fd := second.fd.trans first.fd
  socket := second.socket.trans first.socket
  owner := second.owner.trans first.owner
  nextSocket := second.nextSocket.trans first.nextSocket

theorem sameWatch_dropSocket (client : TcpClient) :
    client.dropSocket.phase = client.phase ∧ client.dropSocket.io = client.io := by
  unfold dropSocket
  split <;> exact ⟨rfl, rfl⟩

theorem IoRead.sameWatch (read : IoRead client next) : SameWatch client next := by
  cases read <;> constructor <;> rfl

theorem IoWritten.sameWatch (written : IoWritten client next) : SameWatch client next := by
  cases written with
  | nothing => constructor <;> rfl
  | idle empty => constructor <;> rfl
  | @wrote pBuffer rest count fits queue =>
      unfold advanced
      constructor
      · rfl
      · dsimp only [emit]
        split <;> rfl
      · dsimp only [emit]
        split <;> rfl
      · rfl
      · rfl
      · rfl

/-- Reporting a failure leaves the loop running. -/
theorem IoReported.phase_eq (reported : IoReported client next) : next.phase = client.phase := by
  cases reported <;> rfl

theorem attached_new : new.Attached where
  looping := iff_of_false Bool.false_ne_true nofun
  watched := nofun

theorem Attached.of_same (attached : client.Attached) (same : SameWatch client next) :
    next.Attached where
  looping := by
    rw [same.active, same.phase]
    exact attached.looping
  watched := by
    rw [same.active, same.fd, same.socket, same.owner, same.nextSocket]
    exact attached.watched

/-- A watcher that is not active is attached wherever the loop does not run. -/
theorem attached_of_inactive (inactive : next.io.active = false)
    (outside : next.phase ≠ .looping) : next.Attached where
  looping := iff_of_false (by rw [inactive]; decide) outside
  watched active := by
    rw [inactive] at active
    cases active

/-- Behind a successful `__Connect` the watcher is on the new socket. -/
theorem attached_watching (looping : next.phase = .looping) (positive : 0 < fd)
    (same : SameWatch { (after.made fd).watching with phase := .looping } next) :
    next.Attached where
  looping := iff_of_true same.active looping
  watched _ := by
    rw [same.fd, same.socket, same.owner, same.nextSocket]
    exact ⟨rfl, positive, after.nextSocket, rfl, Function.update_self ..⟩

/-- **`Start` keeps the invariant**, whatever `socket` returns. -/
theorem Attached.startConnect (attached : client.Attached) (notified : client.phase = .notified)
    {reached : TcpClient} {success : Bool}
    (connected : client.connect fd = some (reached, success)) :
    ({ reached with phase := if success then .looping else .outside } : TcpClient).Attached := by
  have inactive : client.dropSocket.io.active = false := by
    rw [(sameWatch_dropSocket client).2, Bool.eq_false_iff, ne_eq, attached.looping, notified]
    decide
  rcases connect_cases connected with ⟨-, rfl, rfl⟩ | ⟨-, rfl, -, rfl⟩ | ⟨positive, rfl, -, rfl⟩
  · exact attached_of_inactive inactive nofun
  · exact attached_of_inactive inactive nofun
  · have same : SameWatch { (client.dropSocket.made fd).watching with phase := .looping }
        { (client.dropSocket.made fd).watching with phase := .looping } := by
      constructor <;> rfl
    exact attached_watching rfl positive same

/-- **A reconnect keeps the invariant where `socket` succeeds.** -/
theorem Attached.reconnect (looping : client.phase = .looping) (positive : 0 < fd)
    (called : client.reconnect fd = some next) : next.Attached := by
  obtain ⟨success, connected⟩ := connect_of_reconnect called
  have phase : client.dropSocket.phase = .looping :=
    (sameWatch_dropSocket client).1.trans looping
  rcases connect_cases connected with ⟨rfl, -, rfl⟩ | ⟨rfl, -, -, rfl⟩ | ⟨-, -, -, rfl⟩
  · exact absurd positive (by decide)
  · exact absurd positive (by decide)
  · have same : SameWatch { (client.dropSocket.made fd).watching with phase := .looping }
        (client.dropSocket.made fd).watching := ⟨phase, rfl, rfl, rfl, rfl, rfl⟩
    exact attached_watching phase positive same

/-- `__Connect` leaves the phase as it is. -/
theorem reconnect_phase (called : client.reconnect fd = some next) :
    next.phase = client.phase := by
  have same := (sameWatch_dropSocket client).1
  obtain ⟨success, connected⟩ := connect_of_reconnect called
  rcases connect_cases connected with ⟨-, -, rfl⟩ | ⟨-, -, -, rfl⟩ | ⟨-, -, -, rfl⟩ <;> exact same

/-- `__IoCallback` leaves the phase as it is. -/
theorem ioCallback_phase {revents : Revents} {nRead : RecvResult} {nWritten : WriteResult}
    {errno : Int32} (called : client.ioCallback revents nRead nWritten errno fd = some next) :
    next.phase = client.phase := by
  obtain ⟨-, after, read, ⟨-, told, reported, failed⟩ | ⟨-, written⟩⟩ := ioCallback_cases called
  · exact (reconnect_phase failed).trans (reported.phase_eq.trans read.sameWatch.phase)
  · exact (read.sameWatch.trans written.sameWatch).phase

/-- What the rest of the process does to its descriptors is not seen here. -/
theorem Attached.others (attached : client.Attached) {descriptor : Option Descriptor}
    (foreign : ∀ number, client.owner fd ≠ some (.socket number)) :
    Attached { client with owner := Function.update client.owner fd descriptor } where
  looping := attached.looping
  watched active := by
    obtain ⟨watches, positive, number, latest, owned⟩ := attached.watched active
    refine ⟨watches, positive, number, latest, ?_⟩
    have apart : client.socket ≠ fd := by
      rintro rfl
      exact foreign number owned
    exact (Function.update_of_ne apart ..).trans owned

/-- **Every step keeps the invariant where it reconnects.** -/
theorem Attached.step (attached : client.Attached) {label : Label}
    (reconnected : client.Reconnected label) (taken : client.step label = some next) :
    next.Attached := by
  cases stepped_of_step taken with
  | startAsync IP Port outside =>
      refine attached_of_inactive (Bool.eq_false_iff.mpr fun active => ?_) nofun
      exact absurd (outside ▸ attached.looping.mp active) nofun
  | startNotify started =>
      refine attached_of_inactive (Bool.eq_false_iff.mpr fun active => ?_) nofun
      exact absurd (started ▸ attached.looping.mp active) nofun
  | startConnect notified connected => exact attached.startConnect notified connected
  | stop => exact attached_of_inactive rfl nofun
  | send | dispatched | swapped | pushed | refused =>
      exact attached.of_same (by constructor <;> rfl)
  | io idle called =>
      obtain ⟨-, after, read, ⟨reconnects, told, reported, failed⟩ | ⟨-, written⟩⟩ :=
        ioCallback_cases called
      · have looping : told.phase = .looping :=
          reported.phase_eq.trans (read.sameWatch.phase.trans idle.1)
        exact Attached.reconnect looping (reconnected reconnects) failed
      · exact attached.of_same (read.sameWatch.trans written.sameWatch)
  | otherOpen free => exact attached.others (by simp [free])
  | otherClose other => exact attached.others (by simp [other])

/-- Where a step of `__IoCallback` reconnects without a socket, the watcher is stopped, or
left on a number that is not in `m_Socket`. -/
theorem Attached.not_following (attached : client.Attached) (looping : client.phase = .looping)
    {told : TcpClient} (reported : IoReported client told) (failed : fd ≤ 0)
    (called : told.reconnect fd = some next) : ¬ next.Following := by
  intro following
  obtain ⟨watches, positive, -⟩ := attached.watched (attached.looping.mpr looping)
  have behind := (sameWatch_dropSocket told).2
  obtain ⟨success, connected⟩ := connect_of_reconnect called
  have left : next.socket = fd ∧ next.io = told.io := by
    rcases connect_cases connected with ⟨rfl, -, rfl⟩ | ⟨-, -, -, rfl⟩ | ⟨here, -⟩
    · exact ⟨rfl, behind⟩
    · exact ⟨rfl, behind⟩
    · exact absurd here (Int32.not_lt.mpr failed)
  have sameFd : told.io.fd = client.io.fd := by
    cases reported <;> rfl
  have number : client.socket = fd :=
    watches.symm.trans (sameFd.symm.trans ((left.2 ▸ following.fd_eq).trans left.1))
  exact absurd (number ▸ positive) (Int32.not_lt.mpr failed)

end Keep

/-- **The run invariant**: along every run that reconnects, the watcher is attached. -/
theorem attached_of_reconnected {labels : List Label} {last : TcpClient}
    (along : Along step Reconnected new labels) (runs : run step new labels = some last) :
    last.Attached :=
  run_invariant_along (fun _ _ _ attached reconnected taken => attached.step reconnected taken)
    labels attached_new along runs

/-- An attached client whose loop runs is what `WatcherFollows` asks for. -/
theorem Attached.following {client : TcpClient} (attached : client.Attached)
    (looping : client.phase = .looping) : client.Following := by
  have active := attached.looping.mpr looping
  obtain ⟨watches, -, number, -, owned⟩ := attached.watched active
  exact ⟨active, watches, number, owned⟩

/-- Whether `__IoCallback` leaves the watcher on the socket is decided by `socket`. -/
theorem Attached.watcherFollows_iff {client next : TcpClient} (attached : client.Attached)
    {label : Label} (taken : client.step label = some next) :
    client.WatcherFollows label ↔ client.Reconnected label := by
  cases label with
  | io revents nRead nWritten errno fd =>
      obtain ⟨idle, called⟩ := Option.ite_none_right_eq_some.mp taken
      constructor
      · intro follows reconnects
        obtain ⟨-, after, read, ⟨-, told, reported, failed⟩ | ⟨quiet, -⟩⟩ := ioCallback_cases called
        · refine Int32.not_le.mp fun unmade => ?_
          have before : after.Attached := attached.of_same read.sameWatch
          exact before.not_following (read.sameWatch.phase.trans idle.1) reported unmade failed
            (follows next taken)
        · exact absurd reconnects quiet
      · intro reconnected reached taken'
        rw [taken, Option.some_inj] at taken'
        subst taken'
        have kept := attached.step reconnected taken
        exact kept.following ((ioCallback_phase called).trans idle.1)
  | startAsync | startNotify | startConnect | stop | send | asyncDispatch | asyncSwap
  | asyncExec | otherOpen | otherClose => exact Iff.rfl

/-- **The watcher follows the socket exactly as long as every reconnect gets one.** -/
theorem watcherFollows_iff_reconnected {labels : List Label} {last : TcpClient}
    (runs : run step new labels = some last) :
    Along step WatcherFollows new labels ↔ Along step Reconnected new labels :=
  along_iff_along (fun _ _ _ attached reconnected taken => attached.step reconnected taken)
    (fun _ _ _ attached taken => attached.watcherFollows_iff taken) labels attached_new runs

/-- The peer closes, and the reconnect gets a socket. -/
theorem watcherFollows_after_eof :
    ∃ last, run step new [.startAsync 2130706433 8888, .startNotify, .startConnect 3,
        .io ⟨false, true, false⟩ .eof .again 0 4] = some last ∧
      (Along step WatcherFollows new [.startAsync 2130706433 8888, .startNotify, .startConnect 3,
          .io ⟨false, true, false⟩ .eof .again 0 4] ↔
        Along step Reconnected new [.startAsync 2130706433 8888, .startNotify, .startConnect 3,
          .io ⟨false, true, false⟩ .eof .again 0 4]) := by
  obtain ⟨last, runs⟩ := Option.isSome_iff_exists.mp
    (show (run step new [.startAsync 2130706433 8888, .startNotify, .startConnect 3,
      .io ⟨false, true, false⟩ .eof .again 0 4]).isSome = true by decide +kernel)
  exact ⟨last, runs, watcherFollows_iff_reconnected runs⟩

/-- The peer closes, and `socket` fails: `m_Io` stays on descriptor 3, which was
closed, with -1 in `m_Socket`. -/
theorem watcher_left_behind :
    ∃ last, run step new [.startAsync 2130706433 8888, .startNotify, .startConnect 3,
        .io ⟨false, true, false⟩ .eof .again 0 (-1)] = some last ∧
      ¬ Along step WatcherFollows new [.startAsync 2130706433 8888, .startNotify, .startConnect 3,
        .io ⟨false, true, false⟩ .eof .again 0 (-1)] := by
  refine ⟨_, rfl, fun along => ?_⟩
  have follows := (((along.2 _ rfl).2 _ rfl).2 _ rfl).1 _ rfl
  exact absurd follows.fd_eq (by decide +kernel)

end TcpClient

end ServerLib
