import ServerLib.Library.History
import ServerLib.TcpClientEffects

/-!
# What a failure report promises

`OnDisconnected`, `OnRecvError` and `OnSendError` tell the handler that the connection
is gone.  The proxy's handler believes it: in each of the three it drops the partial
frame it has of the connection, so a byte that came from the same connection later
would be read as the beginning of a frame.

The promise is a law on the history, `FailureEnds`: behind a report that is made while
a connection is current, nothing is read from that connection and nothing is written on
it; what is read or written then belongs to a later `__Connect`.  `current` reads off the
history which connection is current.

## Which reports keep it

The io path keeps the first half: the report is followed by `__Connect`, which closes the
socket before anything else can happen on it.  `__Send` reports a queue that is too long
with the same `OnSendError` and goes on with the connection, and there it is broken.  The
second half is broken where `__Connect` gets no socket and leaves `m_Io` on the number it
has closed: when the rest of the process opens the number, its bytes are read.

`failureEnds_of_keeps` says that there is no other way to break it.  `Room` asks that no
call of `__Send` finds the queue too long while a connection is current, `Spared` that
nobody else opens a number that `m_Io` is on.
-/

namespace ServerLib

open Transition History

namespace TcpClient

/-! ## The law -/

/-- One of the three reports of a failure. -/
def IsFailure : ClientEvent → Prop
  | .onDisconnected .. => True
  | .onRecvError .. => True
  | .onSendError .. => True
  | _ => False

/-- Bytes were read, or written. -/
def IsTraffic : ClientEvent → Prop
  | .onDataReceived .. => True
  | .written .. => True
  | _ => False

/-- What they were read from, or written on. -/
def traffic : ClientEvent → Option Descriptor
  | .onDataReceived _ _ source => source
  | .written _ target => target
  | _ => none

/-- The current connection after one more event.  A successful `__Connect` is a socket
on a descriptor above 0; a connection ends when its socket is closed. -/
def track (connection : Option ℕ) : ClientEvent → Option ℕ
  | .opened number fd => if 0 < fd then some number else none
  | .closed _ (some (.socket number)) => if connection = some number then none else connection
  | _ => connection

/-- The connection that is current behind a history. -/
def current (log : List ClientEvent) : Option ℕ := log.foldl track none

/-- The report `event`, made behind `front`, ends the connection with this number. -/
def EndsConnection (front : List ClientEvent) (event : ClientEvent) (number : ℕ) : Prop :=
  IsFailure event ∧ current front = some number

/-- Bytes go over the connection with this number. -/
def SpeaksOn (event : ClientEvent) (number : ℕ) : Prop :=
  traffic event = some (.socket number)

/-- **A failure report ends the connection it names.** -/
structure FailureEnds (log : List ClientEvent) : Prop where
  /-- Nothing more is read from it, and nothing written on it. -/
  never : NeverAgain EndsConnection SpeaksOn log
  /-- What is read or written behind the report belongs to a `__Connect` behind it. -/
  later : ∀ {front event between use back number},
    log = front ++ event :: (between ++ use :: back) → EndsConnection front event number →
    IsTraffic use → ∃ number' fd, .opened number' fd ∈ between ∧ 0 < fd ∧ SpeaksOn use number'

/-- No call of `__Send` finds the write queue too long while a connection is current. -/
def Room (client : TcpClient) (label : Label) : Prop :=
  label = .asyncExec → client.writeQueue.length > writeQueueMaxSize → current client.log = none

/-- The rest of the process does not open a number that `m_Io` is on.  Such a number is free
only where a `__Connect` has closed it and got no socket. -/
def Spared (client : TcpClient) : Label → Prop
  | .otherOpen fd => client.io.active = true → client.io.fd ≠ fd
  | _ => True

/-- Neither way to break the promise is taken. -/
def Keeps (client : TcpClient) (label : Label) : Prop := client.Room label ∧ client.Spared label

instance (client : TcpClient) (label : Label) : Decidable (client.Room label) :=
  inferInstanceAs (Decidable (_ → _ → _))

instance (client : TcpClient) : (label : Label) → Decidable (client.Spared label)
  | .otherOpen _ => inferInstanceAs (Decidable (_ → _))
  | .startAsync .. | .startNotify | .startConnect _ | .stop | .send _ | .asyncDispatch
  | .asyncSwap | .asyncExec | .io .. | .otherClose _ => inferInstanceAs (Decidable True)

instance (client : TcpClient) (label : Label) : Decidable (client.Keeps label) :=
  inferInstanceAs (Decidable (_ ∧ _))

theorem current_concat (log : List ClientEvent) (event : ClientEvent) :
    current (log ++ [event]) = track (current log) event := by
  unfold current
  rw [List.foldl_append]
  rfl

/-! ## What is read and written is the current connection's -/

/-- Everything that was read or written belongs to the connection current then. -/
def OnCurrent (log : List ClientEvent) : Prop :=
  ∀ front use back, log = front ++ use :: back → IsTraffic use →
    ∃ number, current front = some number ∧ SpeaksOn use number

theorem onCurrent_nil : OnCurrent [] := by
  intro front use back same
  exact absurd same.symm (by simp)

theorem onCurrent_concat {log : List ClientEvent} {event : ClientEvent} (onCurrent : OnCurrent log)
    (here : IsTraffic event → ∃ number, current log = some number ∧ SpeaksOn event number) :
    OnCurrent (log ++ [event]) := by
  intro front use back same traffic
  rcases concat_eq_split.mp same with ⟨rfl, rfl, -⟩ | ⟨rest, -, before⟩
  · exact here traffic
  · exact onCurrent front use rest before traffic

/-- A connection that is current was current before, or was made since. -/
theorem made_of_current {between : List ClientEvent} {number : ℕ} :
    ∀ {connection : Option ℕ}, between.foldl track connection = some number →
      connection = some number ∨ ∃ fd, .opened number fd ∈ between ∧ 0 < fd := by
  induction between with
  | nil => exact fun same => Or.inl same
  | cons event rest ih =>
      intro connection ends
      rcases ih ends with here | ⟨fd, member, positive⟩
      · -- one event leaves a connection current or makes it so
        cases event with
        | opened number' fd =>
            obtain ⟨positive, same⟩ := Option.ite_none_right_eq_some.mp here
            obtain rfl := Option.some.inj same
            exact Or.inr ⟨fd, List.mem_cons_self, positive⟩
        | closed fd descriptor =>
            cases descriptor with
            | none => exact Or.inl here
            | some descriptor =>
                cases descriptor with
                | other => exact Or.inl here
                | socket ended => exact Or.inl (Option.ite_none_left_eq_some.mp here).2
        | _ => exact Or.inl here
      · exact Or.inr ⟨fd, List.mem_cons_of_mem _ member, positive⟩

/-- **The second half of the promise follows from the first** where everything goes over the
current connection. -/
theorem FailureEnds.of_onCurrent {log : List ClientEvent}
    (never : NeverAgain EndsConnection SpeaksOn log) (onCurrent : OnCurrent log) :
    FailureEnds log where
  never := never
  later {front event between use back number} same ends traffic := by
    obtain ⟨number', here, speaks⟩ := onCurrent (front ++ event :: between) use back
      (by rw [same, List.append_assoc, List.cons_append]) traffic
    have unchanged : track (current front) event = current front := by
      have failure := ends.1
      cases event <;> first | rfl | exact failure.elim
    have here : between.foldl track (current front) = some number' := by
      rw [current, List.foldl_append, List.foldl_cons] at here
      rwa [← unchanged]
    rcases made_of_current here with ended | ⟨fd, member, positive⟩
    · -- the report has ended that one
      rw [ends.2, Option.some_inj] at ended
      exact absurd (ended ▸ speaks)
        (never front event _ same number ends use (by simp))
    · exact ⟨number', fd, member, positive, speaks⟩

/-! ## The invariant -/

/-- The connections that a report has ended. -/
abbrev Failed (log : List ClientEvent) (number : ℕ) : Prop := Over EndsConnection log number

/-- Where `m_Io` is on an open number, it is on the socket of the current connection. -/
def Watched (client : TcpClient) : Prop :=
  client.io.active = true → 0 < client.io.fd ∧
    (client.Opened → client.io.fd = client.socket ∧ ∃ number, current client.log = some number)

/-- The law holds, and the history and the descriptors agree on the current connection.
A connection that a report has ended is closed, or is the current one. -/
structure Tracked (client : TcpClient) : Prop where
  never : NeverAgain EndsConnection SpeaksOn client.log
  onCurrent : OnCurrent client.log
  owner_lt : ∀ {fd number}, client.owner fd = some (.socket number) → number < client.nextSocket
  owner_inj : ∀ {fd fd' number}, client.owner fd = some (.socket number) →
    client.owner fd' = some (.socket number) → fd = fd'
  current_owned : ∀ {number}, current client.log = some number →
    0 < client.socket ∧ client.owner client.socket = some (.socket number)
  watched : client.Watched
  failed_lt : ∀ {number}, Failed client.log number → number < client.nextSocket
  failed_closed : ∀ {number}, Failed client.log number → current client.log = some number ∨
    ∀ fd, client.owner fd ≠ some (.socket number)

/-- Between two steps every connection that a report has ended is closed. -/
structure Settled (client : TcpClient) : Prop extends client.Tracked where
  closed : ∀ {number}, Failed client.log number → ∀ fd, client.owner fd ≠ some (.socket number)

theorem settled_new : new.Settled where
  never := neverAgain_nil
  onCurrent := onCurrent_nil
  owner_lt := nofun
  owner_inj := nofun
  current_owned := nofun
  watched := nofun
  failed_lt failed := absurd failed (not_over_nil _)
  failed_closed failed := absurd failed (not_over_nil _)
  closed failed := absurd failed (not_over_nil _)

section Keep

variable {client next : TcpClient}

/-- An event that is no report of a failure ends nothing. -/
theorem failed_concat {log : List ClientEvent} {event : ClientEvent} {number : ℕ}
    (fine : ¬ IsFailure event) : Failed (log ++ [event]) number ↔ Failed log number := by
  rw [Failed, over_concat]
  exact ⟨fun failed => failed.resolve_right fun ends => fine ends.1, Or.inl⟩

theorem Watched.emit (watched : client.Watched) {event : ClientEvent}
    (same : track (current client.log) event = current client.log) :
    (client.emit event).Watched := by
  intro active
  obtain ⟨positive, opened⟩ := watched active
  refine ⟨positive, fun isOpen => ?_⟩
  show client.io.fd = client.socket ∧ ∃ number, current (client.log ++ [event]) = some number
  rw [current_concat, same]
  exact opened isOpen

/-- What the watcher is on, where it is on something open. -/
theorem Tracked.speaksOn (tracked : client.Tracked) (active : client.io.active = true)
    (opened : client.Opened) : ∃ number, current client.log = some number ∧
      client.owner client.io.fd = some (.socket number) := by
  obtain ⟨same, number, here⟩ := (tracked.watched active).2 opened
  exact ⟨number, here, same ▸ (tracked.current_owned here).2⟩

/-- Where the history, the table of sockets and `m_Socket` stay, so does the
invariant. -/
theorem Settled.of_same (settled : client.Settled) (watched : next.Watched)
    (sameLog : next.log = client.log)
    (sameSocket : next.socket = client.socket) (sameNext : next.nextSocket = client.nextSocket)
    (sameOwner : ∀ fd number, next.owner fd = some (.socket number) ↔
      client.owner fd = some (.socket number)) : next.Settled where
  never := sameLog ▸ settled.never
  onCurrent := sameLog ▸ settled.onCurrent
  owner_lt owns := sameNext ▸ settled.owner_lt ((sameOwner ..).mp owns)
  owner_inj owns owns' := settled.owner_inj ((sameOwner ..).mp owns) ((sameOwner ..).mp owns')
  current_owned here := by
    rw [sameLog] at here
    rw [sameSocket, sameOwner]
    exact settled.current_owned here
  watched := watched
  failed_lt failed := by
    rw [sameLog] at failed
    rw [sameNext]
    exact settled.failed_lt failed
  failed_closed failed := Or.inr fun fd owns => by
    rw [sameLog] at failed
    exact settled.closed failed fd ((sameOwner ..).mp owns)
  closed failed fd owns := by
    rw [sameLog] at failed
    exact settled.closed failed fd ((sameOwner ..).mp owns)

/-- An event that is no report, and no traffic but that of the current connection, keeps the
invariant. -/
theorem Settled.emit (settled : client.Settled) {event : ClientEvent} (fine : ¬ IsFailure event)
    (same : track (current client.log) event = current client.log)
    (here : IsTraffic event → ∃ number, current client.log = some number ∧
      traffic event = some (.socket number)) : (client.emit event).Settled where
  never := neverAgain_concat settled.never fun number failed speaks => by
    have isTraffic : IsTraffic event := by
      cases event <;> first | exact trivial | cases speaks
    obtain ⟨number', isCurrent, speaks'⟩ := here isTraffic
    obtain rfl := Descriptor.socket.inj (Option.some.inj (speaks.symm.trans speaks'))
    exact settled.closed failed client.socket (settled.current_owned isCurrent).2
  onCurrent := onCurrent_concat settled.onCurrent here
  owner_lt := settled.owner_lt
  owner_inj := settled.owner_inj
  current_owned here := by
    have here : current (client.log ++ [event]) = _ := here
    rw [current_concat, same] at here
    exact settled.current_owned here
  watched := settled.watched.emit same
  failed_lt failed := settled.failed_lt ((failed_concat fine).mp failed)
  failed_closed failed := Or.inr (settled.closed ((failed_concat fine).mp failed))
  closed failed := settled.closed ((failed_concat fine).mp failed)

/-- A report ends the current connection, which is not closed yet. -/
theorem Settled.report (settled : client.Settled) {event : ClientEvent}
    (failure : IsFailure event) : (client.emit event).Tracked := by
  have same : track (current client.log) event = current client.log := by
    cases event <;> first | rfl | exact failure.elim
  have silent : ¬ IsTraffic event := by
    cases event <;> first | exact id | exact failure.elim
  have nothing : traffic event = none := by
    cases event <;> first | rfl | exact failure.elim
  constructor
  · refine neverAgain_concat settled.never fun number _ speaks => ?_
    rw [SpeaksOn, nothing] at speaks
    cases speaks
  · exact onCurrent_concat settled.onCurrent fun isTraffic => absurd isTraffic silent
  · exact settled.owner_lt
  · exact settled.owner_inj
  · intro number here
    have here : current (client.log ++ [event]) = _ := here
    rw [current_concat, same] at here
    exact settled.current_owned here
  · exact settled.watched.emit same
  · intro number failed
    rcases over_concat.mp failed with before | ⟨-, here⟩
    · exact settled.failed_lt before
    · exact settled.owner_lt (settled.current_owned here).2
  · intro number failed
    rcases over_concat.mp failed with before | ⟨-, here⟩
    · exact Or.inr (settled.closed before)
    · refine Or.inl ?_
      show current (client.log ++ [event]) = _
      rw [current_concat, same, here]

/-- Where no connection is current, a report ends none. -/
theorem Tracked.settled_of_none (tracked : client.Tracked) (none : current client.log = none) :
    client.Settled where
  toTracked := tracked
  closed failed := (tracked.failed_closed failed).resolve_left (by rw [none]; exact nofun)

/-- `close(m_Socket)` ends the current connection, if there is one. -/
theorem Tracked.closeSocket (tracked : client.Tracked) (socket : Int32) (io : IoWatcher)
    (same : io.active = true → io = client.io) (async : AsyncWatcher) (phase : StartPhase) :
    ({ client.closeSocket with socket := socket, io := io, async := async, phase := phase } :
        TcpClient).Settled ∧
      current client.closeSocket.log = none := by
  have fine : ¬ IsFailure (.closed client.socket (client.owner client.socket)) := nofun
  have left : ∀ {fd number}, Function.update client.owner client.socket none fd =
      some (.socket number) → fd ≠ client.socket ∧ client.owner fd = some (.socket number) := by
    intro fd number owns
    rcases update_eq_some_iff.mp owns with ⟨-, gone⟩ | found
    · cases gone
    · exact found
  have ended : current client.closeSocket.log = none := by
    show current (client.log ++ [.closed client.socket (client.owner client.socket)]) = none
    rw [current_concat]
    cases here : current client.log with
    | none => cases client.owner client.socket with
      | none => rfl
      | some descriptor => cases descriptor <;> simp [track]
    | some number =>
        rw [(tracked.current_owned here).2]
        exact if_pos rfl
  refine ⟨Tracked.settled_of_none ⟨?_, ?_, ?_, ?_, ?_, ?_, ?_, ?_⟩ ended, ended⟩
  · exact neverAgain_concat tracked.never fun _ _ speaks => nomatch speaks
  · exact onCurrent_concat tracked.onCurrent fun isTraffic => isTraffic.elim
  · exact fun owns => tracked.owner_lt (left owns).2
  · exact fun owns owns' => tracked.owner_inj (left owns).2 (left owns').2
  · exact fun here => absurd (ended.symm.trans here) nofun
  · intro active
    obtain rfl := same active
    obtain ⟨positive, opened⟩ := tracked.watched active
    refine ⟨positive, fun isOpen => ?_⟩
    -- the watcher was on the socket that is closed now
    have isOpen : (Function.update client.owner client.socket none client.io.fd).isSome := isOpen
    by_cases here : client.io.fd = client.socket
    · rw [here, Function.update_self] at isOpen
      cases isOpen
    · rw [Function.update_of_ne here] at isOpen
      exact absurd (opened isOpen).1 here
  · exact fun failed => tracked.failed_lt ((failed_concat fine).mp failed)
  · intro number failed
    refine Or.inr fun fd owns => ?_
    obtain ⟨apart, owns⟩ := left owns
    rcases tracked.failed_closed ((failed_concat fine).mp failed) with here | gone
    · exact apart (tracked.owner_inj owns (tracked.current_owned here).2)
    · exact gone fd owns

/-- Behind `if (m_Socket > 0)` no connection is current. -/
theorem Tracked.dropSocket (tracked : client.Tracked) :
    client.dropSocket.Settled ∧ current client.dropSocket.log = none := by
  unfold TcpClient.dropSocket
  split
  · exact tracked.closeSocket 0 client.io (fun _ => rfl) client.async client.phase
  · next nonpos =>
      have none : current client.log = none := by
        cases here : current client.log with
        | none => rfl
        | some number => exact absurd (tracked.current_owned here).1 nonpos
      exact ⟨tracked.settled_of_none none, none⟩

/-- A new socket is a new connection, if its descriptor is above 0. -/
theorem Settled.made (settled : client.Settled) (none : current client.log = none) {fd : Int32}
    (free : client.owner fd = Option.none) : (client.made fd).Settled := by
  have fine : ¬ IsFailure (.opened client.nextSocket fd) := nofun
  have owned : ∀ {fd' number}, Function.update client.owner fd (some (.socket client.nextSocket))
      fd' = some (.socket number) → fd' = fd ∧ number = client.nextSocket ∨
        fd' ≠ fd ∧ client.owner fd' = some (.socket number) := by
    intro fd' number owns
    rcases update_eq_some_iff.mp owns with ⟨here, same⟩ | found
    · cases same
      exact Or.inl ⟨here, rfl⟩
    · exact Or.inr found
  have closed : ∀ {number}, Failed (client.made fd).log number →
      ∀ fd', (client.made fd).owner fd' ≠ some (.socket number) := by
    intro number failed fd' owns
    have failed := (failed_concat fine).mp failed
    rcases owned owns with ⟨-, rfl⟩ | ⟨-, owns⟩
    · exact absurd (settled.failed_lt failed) (Nat.lt_irrefl _)
    · exact settled.closed failed fd' owns
  refine ⟨⟨?_, ?_, ?_, ?_, ?_, ?_, ?_, fun failed => Or.inr (closed failed)⟩, closed⟩
  · exact neverAgain_concat settled.never fun _ _ speaks => nomatch speaks
  · exact onCurrent_concat settled.onCurrent fun isTraffic => isTraffic.elim
  · intro fd' number owns
    rcases owned owns with ⟨-, rfl⟩ | ⟨-, owns⟩
    · exact Nat.lt_succ_self _
    · exact Nat.lt_succ_of_lt (settled.owner_lt owns)
  · intro fd' fd'' number owns owns'
    rcases owned owns with ⟨rfl, same⟩ | ⟨-, before⟩ <;>
      rcases owned owns' with ⟨rfl, same'⟩ | ⟨-, before'⟩
    · rfl
    · exact absurd (same ▸ settled.owner_lt before') (Nat.lt_irrefl _)
    · exact absurd (same' ▸ settled.owner_lt before) (Nat.lt_irrefl _)
    · exact settled.owner_inj before before'
  · intro number here
    have here : current (client.log ++ [.opened client.nextSocket fd]) = some number := here
    rw [current_concat] at here
    obtain ⟨positive, same⟩ := Option.ite_none_right_eq_some.mp here
    cases same
    exact ⟨positive, Function.update_self ..⟩
  · intro active
    obtain ⟨positive, opened⟩ := settled.watched active
    refine ⟨positive, fun isOpen => ?_⟩
    have isOpen : (Function.update client.owner fd (some (.socket client.nextSocket))
      client.io.fd).isSome := isOpen
    by_cases here : client.io.fd = fd
    · -- the kernel gives back the number the watcher was left on
      refine ⟨here, client.nextSocket, ?_⟩
      show current (client.log ++ [.opened client.nextSocket fd]) = _
      rw [current_concat]
      exact if_pos (here ▸ positive)
    · rw [Function.update_of_ne here] at isOpen
      obtain ⟨-, number, was⟩ := opened isOpen
      exact absurd (none.symm.trans was) nofun
  · exact fun failed => Nat.lt_succ_of_lt (settled.failed_lt ((failed_concat fine).mp failed))

/-- **`__Connect` closes what the last report has ended.** -/
theorem Tracked.connect (tracked : client.Tracked) {fd : Int32} {success : Bool}
    (called : client.connect fd = some (next, success)) : next.Settled := by
  obtain ⟨dropped, none⟩ := tracked.dropSocket
  rcases connect_cases called with ⟨-, -, rfl⟩ | ⟨-, -, free, rfl⟩ | ⟨positive, -, free, rfl⟩
  · refine Tracked.settled_of_none ⟨dropped.never, dropped.onCurrent, dropped.owner_lt,
      dropped.owner_inj, fun here => absurd (none.symm.trans here) nofun, fun active => ?_,
      dropped.failed_lt, dropped.failed_closed⟩ none
    obtain ⟨positive, opened⟩ := dropped.watched active
    refine ⟨positive, fun isOpen => ?_⟩
    obtain ⟨-, number, was⟩ := opened isOpen
    exact absurd (none.symm.trans was) nofun
  · exact dropped.made none free
  · refine (dropped.made none free).of_same (fun _ => ⟨positive, fun _ => ⟨rfl, ?_⟩⟩) rfl rfl rfl
      fun _ _ => Iff.rfl
    refine ⟨client.dropSocket.nextSocket, ?_⟩
    show current (client.dropSocket.log ++ [.opened client.dropSocket.nextSocket fd]) = _
    rw [current_concat]
    exact if_pos positive

theorem Settled.read (settled : client.Settled) (active : client.io.active = true)
    (read : IoRead client next) : next.Settled := by
  cases read with
  | nothing => exact settled
  | data pData opened => exact settled.emit nofun rfl fun _ => settled.speaksOn active opened

/-- What libev does to the watcher, and the report. -/
theorem Settled.reported (settled : client.Settled) (reported : IoReported client next) :
    next.Tracked := by
  have failure : ∀ {event}, IsIoFailure event → IsFailure event := by
    intro event failure
    cases event <;> first | exact trivial | exact failure.elim
  cases reported with
  | running event failed => exact settled.report (failure failed)
  | stopped event failed =>
      have stopped : client.unwatched.Settled :=
        settled.of_same nofun rfl rfl rfl fun _ _ => Iff.rfl
      exact stopped.report (failure failed)

theorem Settled.written (settled : client.Settled) (active : client.io.active = true)
    (written : IoWritten client next) : next.Settled := by
  cases written with
  | nothing => exact settled
  | idle empty => exact settled.of_same settled.watched rfl rfl rfl fun _ _ => Iff.rfl
  | @wrote pBuffer rest count fits queue opened =>
      have moved : (client.emit (.written (pBuffer.getDataPos.take count)
          (client.owner client.io.fd))).Settled :=
        settled.emit nofun rfl fun _ => settled.speaksOn active opened
      refine moved.of_same ?_ rfl rfl rfl fun _ _ => Iff.rfl
      -- the interest set may have changed, and nothing else of the watcher
      have watched := moved.watched
      unfold Watched Opened at watched ⊢
      unfold advanced
      dsimp only [TcpClient.emit] at watched ⊢
      split <;> exact watched

/-- What the rest of the process opens or closes is not what `m_Io` is on. -/
theorem Settled.others (settled : client.Settled) {fd : Int32} {descriptor : Option Descriptor}
    (foreign : ∀ number, client.owner fd ≠ some (.socket number))
    (foreign' : ∀ number, descriptor ≠ some (.socket number))
    (spared : client.io.active = true → client.io.fd = fd → descriptor = none) :
    ({ client with owner := Function.update client.owner fd descriptor } : TcpClient).Settled := by
  refine settled.of_same (fun active => ?_) rfl rfl rfl fun fd' number => ?_
  · obtain ⟨positive, opened⟩ := settled.watched active
    refine ⟨positive, fun isOpen => opened ?_⟩
    have isOpen : (Function.update client.owner fd descriptor client.io.fd).isSome := isOpen
    by_cases here : client.io.fd = fd
    · rw [spared active here, here, Function.update_self] at isOpen
      cases isOpen
    · rwa [Function.update_of_ne here] at isOpen
  · rw [update_eq_some_iff]
    constructor
    · rintro (⟨-, here⟩ | ⟨-, owns⟩)
      · exact absurd here (foreign' number)
      · exact owns
    · intro owns
      refine Or.inr ⟨?_, owns⟩
      rintro rfl
      exact foreign number owns

/-- **Every step keeps the invariant where it keeps the promise.** -/
theorem Settled.step (settled : client.Settled) {label : Label} (keeps : client.Keeps label)
    (taken : client.step label = some next) : next.Settled := by
  cases stepped_of_step taken with
  | startAsync | startNotify | dispatched | swapped =>
      exact settled.of_same settled.watched rfl rfl rfl fun _ _ => Iff.rfl
  | startConnect notified connected =>
      have reached := settled.connect connected
      exact reached.of_same reached.watched rfl rfl rfl fun _ _ => Iff.rfl
  | stop => exact (settled.closeSocket client.socket { client.io with active := false } nofun _ _).1
  | send pData =>
      have sent : (client.emit (.sent pData)).Settled := settled.emit nofun rfl nofun
      exact sent.of_same sent.watched rfl rfl rfl fun _ _ => Iff.rfl
  | @pushed pOutputBuffer rest =>
      have executed : (client.emit (.executed pOutputBuffer.getDataPos)).Settled :=
        settled.emit nofun rfl nofun
      exact executed.of_same executed.watched rfl rfl rfl fun _ _ => Iff.rfl
  | @refused pOutputBuffer rest due long =>
      -- the one report that is not followed by `__Connect`
      have executed : (client.emit (.executed pOutputBuffer.getDataPos)).Settled :=
        settled.emit nofun rfl nofun
      have popped : (client.popped pOutputBuffer rest).Settled :=
        executed.of_same executed.watched rfl rfl rfl fun _ _ => Iff.rfl
      have reported : ((client.popped pOutputBuffer rest).emit (.onSendError client.socketClient 0
          (some pOutputBuffer.getDataPos))).Tracked := popped.report trivial
      refine reported.settled_of_none ?_
      show current (client.log ++ [_] ++ [_]) = none
      rw [current_concat, current_concat]
      exact keeps.1 rfl long
  | io idle called =>
      obtain ⟨active, after, read, ⟨-, told, reported, failed⟩ | ⟨-, written⟩⟩ :=
        ioCallback_cases called
      · obtain ⟨success, connected⟩ := connect_of_reconnect failed
        exact ((settled.read active read).reported reported).connect connected
      · have sameActive : after.io.active = true := by
          cases read <;> exact active
        exact (settled.read active read).written sameActive written
  | otherOpen free =>
      exact settled.others (by simp [free]) nofun fun active here => absurd here (keeps.2 active)
  | otherClose other => exact settled.others (by simp [other]) nofun fun _ _ => rfl

end Keep

/-- **Where there is room and no number is taken from under the watcher, every failure report
ends the connection it names.** -/
theorem failureEnds_of_keeps {labels : List Label} {last : TcpClient}
    (keeps : Along step Keeps new labels) (runs : run step new labels = some last) :
    FailureEnds last.log := by
  have settled : last.Settled :=
    run_invariant_along (fun _ _ _ settled keeps taken => Settled.step settled keeps taken) labels
      settled_new keeps runs
  exact .of_onCurrent settled.never settled.onCurrent

/-- The peer closes, the first reconnect gets no socket and the second one does, while the
rest of the process opens another number. -/
theorem failureEnds_after_eof :
    ∃ last, run step new [.startAsync 2130706433 8888, .startNotify, .startConnect 3,
        .io ⟨false, true, false⟩ (.data [1]) .again 0 0,
        .io ⟨false, true, false⟩ .eof .again 0 (-1), .otherOpen 5,
        .io ⟨false, true, false⟩ (.error 9) .again 0 4,
        .io ⟨false, true, false⟩ (.data [2]) .again 0 0] = some last ∧ FailureEnds last.log := by
  obtain ⟨last, runs⟩ := Option.isSome_iff_exists.mp
    (show (run step new [.startAsync 2130706433 8888, .startNotify, .startConnect 3,
      .io ⟨false, true, false⟩ (.data [1]) .again 0 0,
      .io ⟨false, true, false⟩ .eof .again 0 (-1), .otherOpen 5,
      .io ⟨false, true, false⟩ (.error 9) .again 0 4,
      .io ⟨false, true, false⟩ (.data [2]) .again 0 0]).isSome = true by decide +kernel)
  exact ⟨last, runs, failureEnds_of_keeps (by decide +kernel) runs⟩

/-- The reconnect gets no socket, the number the watcher was left on is opened by the rest of
the process, and its bytes are delivered behind the report. -/
theorem foreign_bytes_after_report :
    ∃ last, run step new [.startAsync 2130706433 8888, .startNotify, .startConnect 3,
        .io ⟨false, true, false⟩ .eof .again 0 (-1), .otherOpen 3,
        .io ⟨false, true, false⟩ (.data [2]) .again 0 0] = some last ∧ ¬ FailureEnds last.log := by
  refine ⟨_, rfl, fun ends => ?_⟩
  obtain ⟨number, fd, -, -, speaks⟩ := @FailureEnds.later _ ends [.opened 0 3]
    (.onDisconnected ⟨2130706433, 8888, 3⟩ 0) [.closed 3 (some (.socket 0))]
    (.onDataReceived ⟨2130706433, 8888, 3⟩ [2] (some .other)) [] 0 rfl ⟨trivial, rfl⟩ trivial
  cases speaks

/-! ## A report that ends nothing -/

/-- The connection is as it was, open and read from. -/
structure Steady (client next : TcpClient) : Prop where
  phase : next.phase = client.phase
  io : next.io.fd = client.io.fd ∧ next.io.active = client.io.active ∧
    (client.io.events.read = true → next.io.events.read = true)
  owner : next.owner = client.owner
  current : current next.log = current client.log

theorem Steady.trans {client middle next : TcpClient} (first : Steady client middle)
    (second : Steady middle next) : Steady client next where
  phase := second.phase.trans first.phase
  io := ⟨second.io.1.trans first.io.1, second.io.2.1.trans first.io.2.1,
    fun reads => second.io.2.2 (first.io.2.2 reads)⟩
  owner := second.owner.trans first.owner
  current := second.current.trans first.current

theorem steady_send (client : TcpClient) (pData : Bytes) : Steady client (client.send pData) where
  phase := rfl
  io := ⟨rfl, rfl, id⟩
  owner := rfl
  current := current_concat ..

/-- Any number of calls of `Send`. -/
theorem run_sends (client : TcpClient) (count : ℕ) :
    ∃ next, run step client (List.replicate (count + 1) (.send [])) = some next ∧
      Steady client next ∧ next.functions.length = client.functions.length + (count + 1) ∧
      next.batch = client.batch ∧ next.writeQueue = client.writeQueue ∧
      next.async.active = client.async.active ∧ next.async.sent = true := by
  induction count generalizing client with
  | zero =>
      exact ⟨client.send [], rfl, steady_send client [], by simp [send, emit], rfl, rfl, rfl, rfl⟩
  | succ count ih =>
      obtain ⟨next, runs, steady, functions, batch, queue, active, sent⟩ := ih (client.send [])
      refine ⟨next, ?_, (steady_send client []).trans steady, ?_, batch, queue, active, sent⟩
      · rw [List.replicate_succ, run_cons]
        exact runs
      · rw [functions]
        simp [send, emit]
        omega

/-- Calls of `__Send` as long as there is room in the write queue. -/
theorem run_execs (client : TcpClient) (count : ℕ) (enough : count ≤ client.batch.length)
    (room : client.writeQueue.length + count ≤ writeQueueMaxSize + 1) :
    ∃ next, run step client (List.replicate count .asyncExec) = some next ∧
      Steady client next ∧ next.batch.length + count = client.batch.length ∧
      next.writeQueue.length = client.writeQueue.length + count := by
  induction count generalizing client with
  | zero => exact ⟨client, rfl, ⟨rfl, ⟨rfl, rfl, id⟩, rfl, rfl⟩, rfl, rfl⟩
  | succ count ih =>
      cases batch : client.batch with
      | nil => simp [batch] at enough
      | cons pOutputBuffer rest =>
          have pushed := step_pushed batch (by omega)
          obtain ⟨next, runs, steady, left, queue⟩ := ih
            { client.popped pOutputBuffer rest with
              writeQueue := client.writeQueue ++ [pOutputBuffer]
              io := client.io.set Interest.readWrite }
            (by
              simp only [batch, List.length_cons] at enough
              exact Nat.le_of_succ_le_succ enough)
            (by
              simp only [List.length_append, List.length_singleton]
              omega)
          have here : Steady client { client.popped pOutputBuffer rest with
              writeQueue := client.writeQueue ++ [pOutputBuffer]
              io := client.io.set Interest.readWrite } :=
            ⟨rfl, ⟨rfl, rfl, fun _ => rfl⟩, rfl, current_concat ..⟩
          refine ⟨next, ?_, here.trans steady, ?_, ?_⟩
          · rw [List.replicate_succ, run_cons, pushed]
            exact runs
          · have left : next.batch.length + count = rest.length := left
            rw [List.length_cons, ← left]
            omega
          · rw [queue, List.length_append, List.length_singleton]
            omega

/-- The callback takes over the whole list. -/
theorem run_dispatch_swap {client : TcpClient} (idle : client.Idle)
    (active : client.async.active = true) (sent : client.async.sent = true) :
    ∃ next, run step client [.asyncDispatch, .asyncSwap] = some next ∧ Steady client next ∧
      next.batch = client.functions ∧ next.writeQueue = client.writeQueue := by
  have swaps : client.dispatched.step .asyncSwap = some client.dispatched.swapped :=
    step_asyncSwap idle rfl
  rw [run_cons, step_asyncDispatch idle active sent, Option.bind_some, run_cons, swaps,
    Option.bind_some, run_nil]
  exact ⟨_, rfl, ⟨rfl, ⟨rfl, rfl, id⟩, rfl, rfl⟩, rfl, rfl⟩

/-- One message more than the write queue takes: the report is made, and bytes of the
same connection are delivered behind it. -/
theorem report_without_end :
    ∃ last, run step new ([.startAsync 2130706433 8888, .startNotify, .startConnect 3] ++
        (List.replicate (writeQueueMaxSize + 1 + 1) (.send []) ++ ([.asyncDispatch, .asyncSwap] ++
          (List.replicate (writeQueueMaxSize + 1) .asyncExec ++
            [.asyncExec, .io ⟨false, true, false⟩ (.data [1]) .again 0 0])))) = some last ∧
      ¬ FailureEnds last.log := by
  obtain ⟨started, starts, looping, batch, queue, functions, active, asyncActive, reads, owned,
      here⟩ : ∃ started, run step new [.startAsync 2130706433 8888, .startNotify,
        .startConnect 3] = some started ∧ started.phase = .looping ∧ started.batch = [] ∧
        started.writeQueue = [] ∧ started.functions = [] ∧ started.io.active = true ∧
        started.async.active = true ∧ started.io.events.read = true ∧
        started.owner started.io.fd = some (.socket 0) ∧ current started.log = some 0 :=
    ⟨_, rfl, by decide +kernel⟩
  obtain ⟨full, sends, steady, many, sameBatch, sameQueue, sameActive, sent⟩ :=
    run_sends started (writeQueueMaxSize + 1)
  rw [functions, List.length_nil, Nat.zero_add] at many
  obtain ⟨swapped, swaps, steadySwap, batchSwap, queueSwap⟩ := run_dispatch_swap
    ⟨steady.phase.trans looping, sameBatch.trans batch⟩ (sameActive.trans asyncActive) sent
  have empty : swapped.writeQueue.length = 0 := by
    rw [queueSwap, sameQueue, queue, List.length_nil]
  obtain ⟨crowded, execs, steadyExecs, left, queued⟩ :=
    run_execs swapped (writeQueueMaxSize + 1) (by rw [batchSwap]; omega) (by omega)
  rw [batchSwap] at left
  have unchanged : Steady started crowded := steady.trans (steadySwap.trans steadyExecs)
  obtain ⟨pOutputBuffer, one⟩ : ∃ pOutputBuffer, crowded.batch = [pOutputBuffer] :=
    List.length_eq_one_iff.mp (by omega)
  have refused := step_refused one (by omega)
  -- the report is made, and the connection goes on
  have idle : ((crowded.popped pOutputBuffer []).emit
      (.onSendError crowded.socketClient 0 (some pOutputBuffer.getDataPos))).Idle :=
    ⟨unchanged.phase.trans looping, rfl⟩
  have same : crowded.owner crowded.io.fd = some (.socket 0) := by
    rw [unchanged.owner, unchanged.io.1]
    exact owned
  have reported : Reported crowded.io ⟨false, true, false⟩ :=
    ⟨unchanged.io.2.1.trans active, Or.inr ⟨fun _ => unchanged.io.2.2 reads, nofun⟩⟩
  have opened : crowded.Opened := by
    rw [Opened, same, Option.isSome_some]
  have low : 1 ≤ ([1] : Bytes).length := Nat.le_refl 1
  have delivered := step_data idle reported opened low (by decide)
  rw [run_append, starts, Option.bind_some, run_append, sends, Option.bind_some, run_append, swaps,
    Option.bind_some, run_append, execs, Option.bind_some, run_cons, refused, Option.bind_some,
    run_cons, delivered, Option.bind_some, run_nil]
  refine ⟨_, rfl, fun ends => ?_⟩
  refine ends.never (crowded.popped pOutputBuffer []).log
    (.onSendError crowded.socketClient 0 (some pOutputBuffer.getDataPos)) [_]
    (List.append_assoc ..) 0 ⟨trivial, ?_⟩ _ (List.mem_singleton.mpr rfl) same
  show current (crowded.log ++ [_]) = _
  rw [current_concat]
  exact unchanged.current.trans here

end TcpClient

end ServerLib
